import GameCatalog.Text.Utf8
import Mathlib.Data.List.Basic

/-!
UTF-8 loses nothing: what was encoded is decoded again, character by character.  An ASCII
character takes one octet, its own number, and the octets of any other character lie beyond
ASCII.
-/

namespace GameCatalog.Utf8

@[simp]
theorem encodeChars_nil : encodeChars [] = [] := rfl

@[simp]
theorem encodeChars_cons (character : Char) (characters : List Char) :
    encodeChars (character :: characters) =
      String.utf8EncodeChar character ++ encodeChars characters :=
  List.flatMap_cons

@[simp]
theorem encodeChars_append (first second : List Char) :
    encodeChars (first ++ second) = encodeChars first ++ encodeChars second :=
  List.flatMap_append

theorem encode_ofList (characters : List Char) :
    encode (String.ofList characters) = encodeChars characters := by
  unfold encode
  rw [String.toList_ofList]

theorem encodeChar_of_ascii {character : Char} (ascii : character.toNat < 0x80) :
    String.utf8EncodeChar character = [UInt8.ofNat character.toNat] := by
  have small : character.val.toNat ≤ 0x7F := Nat.le_of_lt_succ ascii
  simp only [String.utf8EncodeChar, small, if_true]
  rfl

theorem encodeChars_of_ascii {characters : List Char}
    (ascii : ∀ character ∈ characters, character.toNat < 0x80) :
    encodeChars characters = characters.map fun character => UInt8.ofNat character.toNat := by
  induction characters with
  | nil => rfl
  | cons character characters inductionHypothesis =>
      rw [List.forall_mem_cons] at ascii
      rw [encodeChars_cons, encodeChar_of_ascii ascii.1, inductionHypothesis ascii.2]
      rfl

theorem length_encodeChars_of_ascii {characters : List Char}
    (ascii : ∀ character ∈ characters, character.toNat < 0x80) :
    (encodeChars characters).length = characters.length := by
  rw [encodeChars_of_ascii ascii, List.length_map]

theorem map_ofNat_encodeChars {characters : List Char}
    (ascii : ∀ character ∈ characters, character.toNat < 0x80) :
    (encodeChars characters).map (fun octet => Char.ofNat octet.toNat) = characters := by
  have same : ∀ character ∈ characters,
      Char.ofNat (UInt8.ofNat character.toNat).toNat = character := by
    intro character membership
    have small := ascii character membership
    rw [UInt8.toNat_ofNat', Nat.mod_eq_of_lt (by omega), Char.ofNat_toNat]
  rw [encodeChars_of_ascii ascii, List.map_map]
  exact (List.map_congr_left same).trans (List.map_id _)

/-- Beyond ASCII no octet of a character is an ASCII one. -/
theorem le_of_mem_encodeChar {character : Char} {octet : UInt8}
    (beyond : 0x80 ≤ character.toNat) (membership : octet ∈ String.utf8EncodeChar character) :
    0x80 ≤ octet := by
  have large : ¬character.val.toNat ≤ 0x7F := Nat.not_le_of_lt beyond
  rw [UInt8.le_iff_toNat_le]
  simp only [String.utf8EncodeChar, large, if_false] at membership
  split at membership
  · simp only [List.mem_cons, List.not_mem_nil, or_false] at membership
    rcases membership with rfl | rfl <;> simp <;> omega
  · split at membership
    · simp only [List.mem_cons, List.not_mem_nil, or_false] at membership
      rcases membership with rfl | rfl | rfl <;> simp <;> omega
    · simp only [List.mem_cons, List.not_mem_nil, or_false] at membership
      rcases membership with rfl | rfl | rfl | rfl <;> simp <;> omega

theorem encodeChar_ne_nil (character : Char) : String.utf8EncodeChar character ≠ [] :=
  String.utf8EncodeChar_ne_nil

/-- The first character of an encoded text is found. -/
theorem first?_encodeChar (character : Char) (rest : Bytes) :
    first? (String.utf8EncodeChar character ++ rest) = some character := by
  have short : (String.utf8EncodeChar character).length ≤ 4 := by
    rw [String.length_utf8EncodeChar]
    exact character.utf8Size_le_four
  unfold first?
  rw [List.take_append, List.take_of_length_le short, List.toByteArray_append]
  exact ByteArray.utf8DecodeChar?_utf8EncodeChar_append

theorem decodeChars?_append (skipped rest : Bytes) :
    decodeChars? skipped.length (skipped ++ rest) = decodeChars? 0 rest := by
  induction skipped with
  | nil => rfl
  | cons octet skipped inductionHypothesis => exact inductionHypothesis

theorem decodeChars?_encodeChars (characters : List Char) :
    decodeChars? 0 (encodeChars characters) = some characters := by
  induction characters with
  | nil => rfl
  | cons character characters inductionHypothesis =>
      rw [encodeChars_cons]
      cases split : String.utf8EncodeChar character with
      | nil => exact absurd split (encodeChar_ne_nil character)
      | cons octet tail =>
          have found : first? (octet :: (tail ++ encodeChars characters)) = some character := by
            rw [← List.cons_append, ← split]
            exact first?_encodeChar character _
          have size : character.utf8Size - 1 = tail.length := by
            rw [← String.length_utf8EncodeChar, split]
            rfl
          rw [List.cons_append, decodeChars?, found]
          dsimp only
          rw [size, decodeChars?_append, inductionHypothesis]
          rfl

@[simp]
theorem decode?_encode (text : String) : decode? (encode text) = some text := by
  unfold decode? encode
  rw [decodeChars?_encodeChars]
  simp

end GameCatalog.Utf8
