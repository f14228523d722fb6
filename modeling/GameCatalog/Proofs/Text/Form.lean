import GameCatalog.Proofs.Text.Percent
import GameCatalog.Text.Form

/-!
Form encoding loses nothing: the pairs that were written are read again, also behind other ones.
-/

namespace GameCatalog

namespace Utf8

theorem decodeCharsLossy_append (skipped rest : Bytes) :
    decodeCharsLossy skipped.length (skipped ++ rest) = decodeCharsLossy 0 rest := by
  induction skipped with
  | nil => rfl
  | cons octet skipped inductionHypothesis =>
      rw [List.length_cons, List.cons_append, decodeCharsLossy]
      exact inductionHypothesis

theorem decodeCharsLossy_encodeChars (characters : List Char) :
    decodeCharsLossy 0 (encodeChars characters) = characters := by
  induction characters with
  | nil => rfl
  | cons character characters inductionHypothesis =>
      rw [encodeChars_cons]
      cases split : String.utf8EncodeChar character with
      | nil => exact absurd split (encodeChar_ne_nil character)
      | cons octet tail =>
          have found : first? (octet :: (tail ++ encodeChars characters)) = some character := by
            rw [← List.cons_append, ← split]
            exact first?_encodeChar character _
          have size : character.utf8Size - 1 = tail.length := by
            rw [← String.length_utf8EncodeChar, split]
            rfl
          rw [List.cons_append, decodeCharsLossy, found]
          dsimp only
          rw [size, decodeCharsLossy_append, inductionHypothesis]

@[simp]
theorem decodeLossy_encode (text : String) : decodeLossy (encode text) = text := by
  unfold decodeLossy encode
  rw [decodeCharsLossy_encodeChars, String.ofList_toList]

theorem notMem_encodeChars {characters : List Char} {octet : UInt8} (small : octet.toNat < 0x80)
    (absent : ∀ character ∈ characters, character.toNat ≠ octet.toNat) :
    octet ∉ encodeChars characters := by
  intro membership
  obtain ⟨character, there, inside⟩ := List.mem_flatMap.mp membership
  by_cases ascii : character.toNat < 0x80
  · rw [encodeChar_of_ascii ascii, List.mem_singleton] at inside
    apply absent character there
    rw [inside, UInt8.toNat_ofNat']
    omega
  · have large := le_of_mem_encodeChar (Nat.le_of_not_lt ascii) inside
    exact absurd (UInt8.le_iff_toNat_le.mp large) (Nat.not_le_of_lt small)

end Utf8

namespace Form

section Split

variable {separator : UInt8}

theorem split_ne_nil (octets : Bytes) : split separator octets ≠ [] := by
  cases octets with
  | nil => simp [split]
  | cons octet octets =>
      unfold split
      split
      · simp
      · split <;> simp

theorem split_append (first second : Bytes) :
    split separator (first ++ separator :: second) =
      split separator first ++ split separator second := by
  induction first with
  | nil => simp [split]
  | cons octet first inductionHypothesis =>
      rw [List.cons_append, split, split, inductionHypothesis]
      by_cases here : octet = separator
      · rw [if_pos here, if_pos here, List.cons_append]
      · rw [if_neg here, if_neg here]
        cases pieces : split separator first with
        | nil => exact absurd pieces (split_ne_nil first)
        | cons piece pieces => rfl

theorem split_of_absent {octets : Bytes} (absent : ∀ octet ∈ octets, octet ≠ separator) :
    split separator octets = [octets] := by
  induction octets with
  | nil => rfl
  | cons octet octets inductionHypothesis =>
      rw [List.forall_mem_cons] at absent
      simp [split, absent.1, inductionHypothesis absent.2]

theorem decode_append (first second : Bytes) :
    decode (first ++ 0x26 :: second) = decode first ++ decode second := by
  unfold decode
  rw [split_append, List.filter_append, List.map_append]

end Split

section Text

def unplus (octet : UInt8) : UInt8 := if octet = 0x2B then 0x20 else octet

theorem plain_keeps : Percent.Plain keeps := by
  have checked : ∀ number < 256, keeps (UInt8.ofNat number) = true →
      (UInt8.ofNat number).toNat < 0x80 ∧ UInt8.ofNat number ≠ 0x25 := by
    decide +kernel
  intro octet kept
  have plain := checked octet.toNat octet.toNat_lt
  rw [UInt8.ofNat_toNat] at plain
  exact plain kept

/-- A character that parts neither pairs nor a name from its value. -/
def Inside (character : Char) : Prop :=
  character.toNat ≠ 0x26 ∧ character.toNat ≠ 0x3D

instance : DecidablePred Inside := fun _ => inferInstanceAs (Decidable (_ ∧ _))

/-- What is percent-encoded is parted nowhere, and no plus sign is in it. -/
theorem inside_encodeOctet (octet : UInt8) : ∀ character ∈ Percent.encodeOctet keeps octet,
    Inside character ∧ character.toNat ≠ 0x2B := by
  apply Percent.of_mem_encodeOctet
  · have checked : ∀ number < 256, keeps (UInt8.ofNat number) = true →
        Inside (Char.ofNat (UInt8.ofNat number).toNat) ∧
          (Char.ofNat (UInt8.ofNat number).toNat).toNat ≠ 0x2B := by
      decide +kernel
    intro octet kept
    have inside := checked octet.toNat octet.toNat_lt
    rw [UInt8.ofNat_toNat] at inside
    exact inside kept
  · decide
  · decide

theorem inside_encodeText (text : String) : ∀ character ∈ encodeText text, Inside character := by
  intro character membership
  obtain ⟨octet, -, inside⟩ := List.mem_flatMap.mp membership
  unfold encodeOctet at inside
  split at inside
  · rw [List.mem_singleton.mp inside]
    decide
  · exact (inside_encodeOctet octet character inside).1

theorem decode_encodeOctet (octet : UInt8) (rest : Bytes) :
    Percent.decode ((Utf8.encodeChars (encodeOctet octet)).map unplus ++ rest) =
      octet :: Percent.decode rest := by
  unfold encodeOctet
  split
  · rename_i space
    rw [space]
    exact Percent.decode_cons (by decide) rest
  · have noPlus : 0x2B ∉ Utf8.encodeChars (Percent.encodeOctet keeps octet) :=
      Utf8.notMem_encodeChars (by decide) fun character membership =>
        (inside_encodeOctet octet character membership).2
    have same : ∀ written ∈ Utf8.encodeChars (Percent.encodeOctet keeps octet),
        unplus written = id written := by
      intro written membership
      exact if_neg fun plus : written = 0x2B => noPlus (plus ▸ membership)
    rw [List.map_congr_left same, List.map_id]
    exact Percent.decode_encodeOctet plain_keeps octet rest

theorem decodeText_encodeText (text : String) :
    decodeText (Utf8.encodeChars (encodeText text)) = text := by
  have octets : ∀ octets : Bytes,
      Percent.decode ((Utf8.encodeChars (octets.flatMap encodeOctet)).map unplus) = octets := by
    intro octets
    induction octets with
    | nil => rfl
    | cons octet octets inductionHypothesis =>
        rw [List.flatMap_cons, Utf8.encodeChars_append, List.map_append, decode_encodeOctet,
          inductionHypothesis]
  unfold decodeText encodeText
  exact (congrArg Utf8.decodeLossy (octets (Utf8.encode text))).trans (Utf8.decodeLossy_encode text)

end Text

section Pairs

theorem encodeChars_encodePair (pair : String × String) :
    Utf8.encodeChars (encodePair pair) =
      Utf8.encodeChars (encodeText pair.1) ++ 0x3D :: Utf8.encodeChars (encodeText pair.2) := by
  unfold encodePair
  rw [Utf8.encodeChars_append, Utf8.encodeChars_cons]
  rfl

theorem decodePair_encodePair (pair : String × String) :
    decodePair (Utf8.encodeChars (encodePair pair)) = pair := by
  have inName : ∀ octet ∈ Utf8.encodeChars (encodeText pair.1), (octet != 0x3D) = true := by
    intro octet membership
    have absent : 0x3D ∉ Utf8.encodeChars (encodeText pair.1) :=
      Utf8.notMem_encodeChars (by decide) fun character inside =>
        (inside_encodeText pair.1 character inside).2
    simpa using fun equals : octet = 0x3D => absent (equals ▸ membership)
  unfold decodePair
  rw [encodeChars_encodePair, List.takeWhile_append_of_pos inName,
    List.dropWhile_append_of_pos inName, List.takeWhile_cons_of_neg (by decide),
    List.dropWhile_cons_of_neg (by decide), List.append_nil, List.drop_one, List.tail_cons,
    decodeText_encodeText, decodeText_encodeText]

/-- A pair is written as one piece, and never as an empty one. -/
theorem split_encodePair (pair : String × String) :
    split 0x26 (Utf8.encodeChars (encodePair pair)) = [Utf8.encodeChars (encodePair pair)] := by
  have absent : 0x26 ∉ Utf8.encodeChars (encodePair pair) := by
    apply Utf8.notMem_encodeChars (by decide)
    intro character membership
    rw [encodePair, List.mem_append, List.mem_cons] at membership
    rcases membership with inName | rfl | inValue
    · exact (inside_encodeText pair.1 character inName).1
    · decide
    · exact (inside_encodeText pair.2 character inValue).1
  exact split_of_absent fun octet membership ampersand => absent (ampersand ▸ membership)

theorem encodeChars_encodePair_ne_nil (pair : String × String) :
    Utf8.encodeChars (encodePair pair) ≠ [] := by
  rw [encodeChars_encodePair]
  simp

theorem split_encode (pair : String × String) (rest : List (String × String)) :
    split 0x26 (Utf8.encodeChars (encode (pair :: rest))) =
      (pair :: rest).map fun pair => Utf8.encodeChars (encodePair pair) := by
  induction rest generalizing pair with
  | nil => exact split_encodePair pair
  | cons next rest inductionHypothesis =>
      have joined : encode (pair :: next :: rest) =
          encodePair pair ++ '&' :: encode (next :: rest) := rfl
      have ampersand : String.utf8EncodeChar '&' = [0x26] := rfl
      rw [joined, Utf8.encodeChars_append, Utf8.encodeChars_cons, ampersand,
        List.singleton_append, split_append, split_encodePair, inductionHypothesis]
      rfl

/-- The pairs that were written are read again, and there is nothing between them. -/
theorem map_decodePair_split_encode (pair : String × String) (rest : List (String × String)) :
    (split 0x26 (Utf8.encodeChars (encode (pair :: rest)))).map decodePair = pair :: rest := by
  rw [split_encode, List.map_map]
  exact (List.map_congr_left fun pair _ => decodePair_encodePair pair).trans (List.map_id _)

theorem decode_encode (pairs : List (String × String)) :
    decode (Utf8.encodeChars (encode pairs)) = pairs := by
  cases pairs with
  | nil => rfl
  | cons pair rest =>
      have written : ∀ piece ∈ split 0x26 (Utf8.encodeChars (encode (pair :: rest))),
          decide (piece ≠ []) = true := by
        rw [split_encode, List.forall_mem_map]
        exact fun pair _ => decide_eq_true (encodeChars_encodePair_ne_nil pair)
      unfold decode
      rw [List.filter_eq_self.mpr (by simpa using written), map_decodePair_split_encode]

end Pairs

end Form

end GameCatalog
