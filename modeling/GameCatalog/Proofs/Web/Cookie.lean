import GameCatalog.Proofs.Text.Base64
import GameCatalog.Proofs.Text.Blank
import GameCatalog.Proofs.Text.Percent
import GameCatalog.Proofs.Text.Split
import GameCatalog.Web.Cookie

/-!
Cookies are read as they were written: a name with its value, a signed value, and the name with
the value that stands in front of a header.
-/

namespace GameCatalog

theorem Sha256.length_bigEndian (count number : Nat) : (bigEndian count number).length = count := by
  induction count generalizing number with
  | zero => rfl
  | succ count inductionHypothesis => simp [bigEndian, inductionHypothesis]

theorem Sha256.length_digest (message : Bytes) : (digest message).length = 32 := by
  simp [digest, length_bigEndian]

namespace Cookie

section Text

theorem plain_keeps : Percent.Plain keeps := by
  intro octet kept
  simp only [keeps, Bool.and_eq_true, decide_eq_true_eq, UInt8.lt_iff_toNat_lt] at kept
  constructor
  · exact Nat.lt_trans kept.1.2 (by decide)
  · rintro rfl
    simp [Ascii.octets] at kept

/-- A character of a percent-encoded text: printable, and none of those that part cookies. -/
def Inert (character : Char) : Prop :=
  character ≠ ';' ∧ character ≠ '=' ∧ Blank.isBlank character = false ∧
    0x20 < character.toNat ∧ character.toNat < 0x7F

instance : DecidablePred Inert := fun _ => inferInstanceAs (Decidable (_ ∧ _))

theorem inert_encodeText (text : String) : ∀ character ∈ encodeText text, Inert character := by
  apply Percent.of_mem_encode
  · have checked : ∀ number < 256, keeps (UInt8.ofNat number) = true →
        Inert (Char.ofNat (UInt8.ofNat number).toNat) := by
      decide +kernel
    intro octet kept
    have inert := checked octet.toNat octet.toNat_lt
    rw [UInt8.ofNat_toNat] at inert
    exact inert kept
  · decide
  · decide

theorem decodeText?_encodeText (text : String) : decodeText? (encodeText text) = some text := by
  unfold decodeText? encodeText
  rw [Percent.decode_encode plain_keeps, Utf8.decode?_encode]

theorem encodeText_injective {first second : String}
    (same : encodeText first = encodeText second) : first = second := by
  apply Option.some.inj
  rw [← decodeText?_encodeText first, ← decodeText?_encodeText second, same]

theorem encodePair_injective {name first second : String}
    (same : encodePair name first = encodePair name second) : first = second := by
  have cut := String.ofList_injective same
  have values := (List.cons.inj (List.append_cancel_left cut)).2
  exact encodeText_injective values

/-- A name with its value is read as it was written, whatever blanks surround it. -/
theorem decodePair?_of_trimmed {name value : String} (named : name ≠ "") {text : List Char}
    (trimmed : Blank.trimChars text = (encodePair name value).toList) :
    decodePair? text = some (name, value) := by
  have inertName := inert_encodeText name
  have inertValue := inert_encodeText value
  have noBlank : (encodeText name).isEmpty = false := by
    cases written : encodeText name with
    | cons character rest => rfl
    | nil =>
        have same : encodeText name = encodeText "" := written
        exact absurd (encodeText_injective same) named
  obtain ⟨leading, trailing, blankBefore, blankAfter, text_eq⟩ :=
    (Blank.trims_trimChars text).surrounded
  rw [trimmed, encodePair, String.toList_ofList] at text_eq
  have cut : text = (leading ++ encodeText name) ++ '=' :: (encodeText value ++ trailing) := by
    rw [text_eq]
    simp only [List.append_assoc, List.cons_append]
  have noMark : ∀ character ∈ leading ++ encodeText name, character ≠ '=' := by
    intro character membership
    rcases List.mem_append.mp membership with inBlanks | inName
    · rintro rfl
      exact absurd (blankBefore _ inBlanks) (by decide)
    · exact (inertName character inName).2.1
  have nameTrimmed : Blank.trimChars (leading ++ encodeText name) = encodeText name :=
    Blank.trimChars_append_of_blank blankBefore
      fun character membership => (inertName character membership).2.2.1
  have valueTrimmed : Blank.trimChars (encodeText value ++ trailing) = encodeText value :=
    @Blank.trimChars_surrounded [] (encodeText value) trailing nofun
      (fun character membership => (inertValue character membership).2.2.1) blankAfter
  unfold decodePair?
  rw [cut, Split.first?_append noMark]
  simp only [bind, Option.bind]
  rw [nameTrimmed, valueTrimmed, decodeText?_encodeText, decodeText?_encodeText, noBlank]
  rfl

theorem of_mem_encodePair {name value : String} {character : Char}
    (membership : character ∈ (encodePair name value).toList) :
    character ≠ ';' ∧ 0x20 < character.toNat ∧ character.toNat < 0x7F := by
  rw [encodePair, String.toList_ofList, List.mem_append, List.mem_cons] at membership
  rcases membership with inName | rfl | inValue
  · obtain ⟨noMark, -, -, printable⟩ := inert_encodeText name character inName
    exact ⟨noMark, printable⟩
  · decide
  · obtain ⟨noMark, -, -, printable⟩ := inert_encodeText value character inValue
    exact ⟨noMark, printable⟩

theorem trimChars_encodePair {leading : List Char}
    (blank : ∀ character ∈ leading, Blank.isBlank character = true) (name value : String) :
    Blank.trimChars (leading ++ (encodePair name value).toList) =
      (encodePair name value).toList := by
  apply Blank.trimChars_append_of_blank blank
  intro character membership
  obtain ⟨-, above, below⟩ := of_mem_encodePair membership
  unfold Blank.isBlank
  simp only [Bool.or_eq_false_iff, Bool.and_eq_false_iff, decide_eq_false_iff_not,
    beq_eq_false_iff_ne]
  omega

/-- The name with the value is what stands in front of the attributes of a header. -/
theorem splitHeader_encodePair (name value : String) {attributes : String} {rest : List Char}
    (marked : attributes.toList = ';' :: rest) :
    (splitHeader (encodePair name value ++ attributes)).1 = encodePair name value := by
  unfold splitHeader
  rw [String.toList_append, marked,
    Split.first?_append fun character membership => (of_mem_encodePair membership).1]
  exact String.ofList_toList

theorem printable?_of_printable {text : String}
    (printable : ∀ character ∈ text.toList, 0x20 ≤ character.toNat ∧ character.toNat < 0x7F) :
    Request.printable? (Utf8.encode text) = some text := by
  have ascii : ∀ character ∈ text.toList, character.toNat < 0x80 := by
    intro character membership
    have below := (printable character membership).2
    omega
  have accepted : ((Utf8.encode text).all fun octet =>
      (0x20 ≤ octet && octet < 0x7F) || octet == 0x09) = true := by
    rw [List.all_eq_true, Utf8.encode, Utf8.encodeChars_of_ascii ascii]
    intro octet written
    obtain ⟨character, membership, rfl⟩ := List.mem_map.mp written
    obtain ⟨above, below⟩ := printable character membership
    have same : (UInt8.ofNat character.toNat).toNat = character.toNat := by
      rw [UInt8.toNat_ofNat']
      omega
    simp only [Bool.or_eq_true, Bool.and_eq_true, decide_eq_true_eq, UInt8.le_iff_toNat_le,
      UInt8.lt_iff_toNat_lt, same]
    exact .inl ⟨above, below⟩
  unfold Request.printable?
  rw [if_pos accepted, Utf8.encode, Utf8.map_ofNat_encodeChars ascii, String.ofList_toList]

end Text

section Signature

variable (key : Bytes) (value : String)

theorem length_encode_code (message : Bytes) :
    (Base64.encode Base64.standard (Hmac.code key message)).length = codeLength := by
  rw [Base64.length_encode rfl, Hmac.code, Sha256.length_digest]
  rfl

/-- A signed value verifies under the keys that give it the same authentication code. -/
theorem verify?_sign_under (other : Bytes) :
    verify? other (sign key value) =
      if Hmac.code key (Utf8.encode value) = Hmac.code other (Utf8.encode value) then some value
      else none := by
  let code := Base64.encode Base64.standard (Hmac.code key (Utf8.encode value))
  have ascii : ∀ character ∈ code, character.toNat < 0x80 :=
    Base64.encode_ascii Base64.distinct_standard _
  have length : (Utf8.encodeChars code).length = codeLength := by
    rw [Utf8.length_encodeChars_of_ascii ascii, length_encode_code]
  have octets : Utf8.encode (sign key value) = Utf8.encodeChars code ++ Utf8.encode value := by
    unfold sign Utf8.encode
    rw [String.toList_append, String.toList_ofList, Utf8.encodeChars_append]
    rfl
  have long : ¬(Utf8.encodeChars code ++ Utf8.encode value).length < codeLength := by
    rw [List.length_append, length]
    omega
  have read : Base64.decode? Base64.standard code = some (Hmac.code key (Utf8.encode value)) :=
    Base64.decode?_encode Base64.distinct_standard _
  unfold verify?
  dsimp only
  rw [octets, if_neg long, List.take_left' length, List.drop_left' length,
    Utf8.map_ofNat_encodeChars ascii, read]
  simp [bind, Option.bind]

theorem verify?_sign : verify? key (sign key value) = some value := by
  rw [verify?_sign_under, if_pos rfl]

theorem sign_injective {first second : String} (same : sign key first = sign key second) :
    first = second := by
  apply Option.some.inj
  rw [← verify?_sign key first, ← verify?_sign key second, same]

theorem verify?_empty : verify? key "" = none := by
  rfl

end Signature

end Cookie

end GameCatalog
