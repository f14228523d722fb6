import GameCatalog.Proofs.Text.Ascii
import GameCatalog.Text.Percent

/-!
Percent-encoding loses nothing: what was encoded is decoded again, whichever octets the class
keeps, as long as these are ASCII octets other than the percent sign.
-/

namespace GameCatalog.Percent

variable {keeps : UInt8 → Bool}

/-- The class keeps ASCII octets only, and never the percent sign. -/
def Plain (keeps : UInt8 → Bool) : Prop :=
  ∀ octet, keeps octet = true → octet.toNat < 0x80 ∧ octet ≠ 0x25

theorem hexValue?_capitalHexDigit {value : Nat} (small : value < 16) :
    Ascii.hexValue? (UInt8.ofNat (Ascii.capitalHexDigit value).toNat) = some value := by
  have checked : ∀ value < 16,
      Ascii.hexValue? (UInt8.ofNat (Ascii.capitalHexDigit value).toNat) = some value := by
    decide
  exact checked value small

theorem capitalHexDigit_ascii {value : Nat} (small : value < 16) :
    (Ascii.capitalHexDigit value).toNat < 0x80 := by
  have checked : ∀ value < 16, (Ascii.capitalHexDigit value).toNat < 0x80 := by
    decide
  exact checked value small

theorem toNat_ofNat_of_ascii {octet : UInt8} (ascii : octet.toNat < 0x80) :
    (Char.ofNat octet.toNat).toNat = octet.toNat := by
  have valid : octet.toNat.isValidChar := .inl (by omega)
  unfold Char.ofNat
  rw [dif_pos valid]
  rfl

/-- An ASCII octet is the only one of its character. -/
theorem encodeChar_ofNat {octet : UInt8} (ascii : octet.toNat < 0x80) :
    String.utf8EncodeChar (Char.ofNat octet.toNat) = [octet] := by
  have same := toNat_ofNat_of_ascii ascii
  rw [Utf8.encodeChar_of_ascii (by rw [same]; exact ascii), same, UInt8.ofNat_toNat]

theorem decode_cons {octet : UInt8} (noPercent : octet ≠ 0x25) (rest : Bytes) :
    decode (octet :: rest) = octet :: decode rest := by
  rw [decode]
  intro high low tail percent
  exact absurd percent noPercent

theorem decode_escape (octet : UInt8) (rest : Bytes) :
    decode (Utf8.encodeChars (escape octet) ++ rest) = octet :: decode rest := by
  have high : octet.toNat / 16 < 16 := by
    have small := octet.toNat_lt
    omega
  have low : octet.toNat % 16 < 16 := by omega
  have spelled : pair? (UInt8.ofNat (Ascii.capitalHexDigit (octet.toNat / 16)).toNat)
      (UInt8.ofNat (Ascii.capitalHexDigit (octet.toNat % 16)).toNat) = some octet := by
    have whole : octet.toNat / 16 * 16 + octet.toNat % 16 = octet.toNat := by omega
    unfold pair?
    rw [hexValue?_capitalHexDigit high, hexValue?_capitalHexDigit low]
    simp only [bind, Option.bind, pure, whole, UInt8.ofNat_toNat]
  have percent : String.utf8EncodeChar '%' = [0x25] := rfl
  unfold escape
  rw [Utf8.encodeChars_cons, Utf8.encodeChars_cons, Utf8.encodeChars_cons, Utf8.encodeChars_nil,
    percent, Utf8.encodeChar_of_ascii (capitalHexDigit_ascii high),
    Utf8.encodeChar_of_ascii (capitalHexDigit_ascii low)]
  simp only [List.cons_append, List.nil_append, decode, spelled]

theorem decode_encodeOctet (plain : Plain keeps) (octet : UInt8) (rest : Bytes) :
    decode (Utf8.encodeChars (encodeOctet keeps octet) ++ rest) = octet :: decode rest := by
  unfold encodeOctet
  by_cases kept : keeps octet = true
  · obtain ⟨ascii, noPercent⟩ := plain octet kept
    rw [if_pos kept, Utf8.encodeChars_cons, encodeChar_ofNat ascii]
    exact decode_cons noPercent rest
  · rw [if_neg kept]
    exact decode_escape octet rest

theorem decode_encode (plain : Plain keeps) (octets : Bytes) :
    decode (Utf8.encodeChars (encode keeps octets)) = octets := by
  induction octets with
  | nil => rfl
  | cons octet octets inductionHypothesis =>
      have split : encode keeps (octet :: octets) =
          encodeOctet keeps octet ++ encode keeps octets := List.flatMap_cons
      rw [split, Utf8.encodeChars_append, decode_encodeOctet plain, inductionHypothesis]

theorem of_mem_encodeOctet {property : Char → Prop} {octet : UInt8}
    (kept : ∀ octet, keeps octet = true → property (Char.ofNat octet.toNat))
    (percent : property '%') (digits : ∀ value < 16, property (Ascii.capitalHexDigit value)) :
    ∀ character ∈ encodeOctet keeps octet, property character := by
  have small := octet.toNat_lt
  unfold encodeOctet escape
  split
  · rename_i keeping
    simpa using kept octet keeping
  · simp only [List.forall_mem_cons]
    exact ⟨percent, digits _ (by omega), digits _ (by omega), by simp⟩

theorem of_mem_encode {property : Char → Prop} {octets : Bytes}
    (kept : ∀ octet, keeps octet = true → property (Char.ofNat octet.toNat))
    (percent : property '%') (digits : ∀ value < 16, property (Ascii.capitalHexDigit value)) :
    ∀ character ∈ encode keeps octets, property character := by
  intro character membership
  obtain ⟨octet, -, inside⟩ := List.mem_flatMap.mp membership
  exact of_mem_encodeOctet kept percent digits character inside

end GameCatalog.Percent
