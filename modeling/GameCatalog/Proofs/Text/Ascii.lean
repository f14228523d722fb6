import GameCatalog.Proofs.Text.Utf8
import GameCatalog.Text.Ascii

/-!
Digits are read back: a hexadecimal digit has the value it was written for, and the decimal
digits of a number spell that number.  The alphanumeric octets are those of the alphanumeric
characters.
-/

namespace GameCatalog.Ascii

theorem hexValue?_hexDigit {value : Nat} (small : value < 16) :
    hexValue? (UInt8.ofNat (hexDigit value).toNat) = some value := by
  have checked : ∀ value < 16, hexValue? (UInt8.ofNat (hexDigit value).toNat) = some value := by
    decide
  exact checked value small

theorem hexDigit_ascii {value : Nat} (small : value < 16) : (hexDigit value).toNat < 0x80 := by
  have checked : ∀ value < 16, (hexDigit value).toNat < 0x80 := by
    decide
  exact checked value small

section Decimal

variable {character : Char} {number : Nat}

theorem bounds_of_isDigit (digit : character.isDigit = true) :
    48 ≤ character.toNat ∧ character.toNat ≤ 57 := by
  simp only [Char.isDigit, Bool.and_eq_true, decide_eq_true_eq] at digit
  exact ⟨UInt32.le_iff_toNat_le.mp digit.1, UInt32.le_iff_toNat_le.mp digit.2⟩

theorem isDigit_of_mem_decimal (membership : character ∈ decimal number) :
    character.isDigit = true :=
  Nat.isDigit_of_mem_toDigits (by decide) (by decide) membership

theorem encodeChars_decimal (number : Nat) :
    Utf8.encodeChars (decimal number) =
      (decimal number).map fun character => UInt8.ofNat character.toNat := by
  apply Utf8.encodeChars_of_ascii
  intro character membership
  have bounds := bounds_of_isDigit (isDigit_of_mem_decimal membership)
  omega

theorem toNat_of_isDigit (digit : character.isDigit = true) :
    (UInt8.ofNat character.toNat).toNat = character.toNat := by
  have bounds := bounds_of_isDigit digit
  rw [UInt8.toNat_ofNat']
  omega

theorem isDigit_of_mem_encodeChars_decimal {octet : UInt8}
    (membership : octet ∈ Utf8.encodeChars (decimal number)) : isDigit octet = true := by
  rw [encodeChars_decimal] at membership
  obtain ⟨character, found, rfl⟩ := List.mem_map.mp membership
  have digit := isDigit_of_mem_decimal found
  have bounds := bounds_of_isDigit digit
  have same := toNat_of_isDigit digit
  simp only [isDigit, Bool.and_eq_true, decide_eq_true_eq, UInt8.le_iff_toNat_le, same]
  exact bounds

theorem decimal_ne_nil (number : Nat) : decimal number ≠ [] :=
  Nat.toDigits_ne_nil

/-- Only zero is written with a zero in front. -/
theorem head?_decimal (positive : 0 < number) : (decimal number).head? ≠ some '0' := by
  induction number using Nat.strongRecOn with
  | _ number inductionHypothesis =>
      by_cases short : number < 10
      · have checked : ∀ number < 10, 0 < number → (decimal number).head? ≠ some '0' := by
          decide
        exact checked number short positive
      · have step : decimal number = decimal (number / 10) ++ [(number % 10).digitChar] :=
          Nat.toDigits_of_base_le (by decide) (Nat.le_of_not_lt short)
        have front := inductionHypothesis (number / 10) (by omega) (by omega)
        rw [step, List.head?_append_of_ne_nil _ (decimal_ne_nil _)]
        exact front

end Decimal

section Alphanumeric

variable {character : Char}

theorem isAlphanum_iff : character.isAlphanum = true ↔
    65 ≤ character.toNat ∧ character.toNat ≤ 90 ∨ 97 ≤ character.toNat ∧ character.toNat ≤ 122 ∨
      48 ≤ character.toNat ∧ character.toNat ≤ 57 := by
  delta Char.isAlphanum Char.isAlpha Char.isUpper Char.isLower Char.isDigit
  simp only [Bool.or_eq_true, Bool.and_eq_true, decide_eq_true_eq, ge_iff_le,
    UInt32.le_iff_toNat_le, or_assoc]
  rfl

theorem isAlphanumeric_iff {octet : UInt8} : isAlphanumeric octet = true ↔
    65 ≤ octet.toNat ∧ octet.toNat ≤ 90 ∨ 97 ≤ octet.toNat ∧ octet.toNat ≤ 122 ∨
      48 ≤ octet.toNat ∧ octet.toNat ≤ 57 := by
  simp only [isAlphanumeric, isDigit, isLetter, Bool.or_eq_true, Bool.and_eq_true,
    decide_eq_true_eq, UInt8.le_iff_toNat_le]
  change 48 ≤ octet.toNat ∧ octet.toNat ≤ 57 ∨ 65 ≤ octet.toNat ∧ octet.toNat ≤ 90 ∨
    97 ≤ octet.toNat ∧ octet.toNat ≤ 122 ↔ _
  rw [or_comm, or_assoc]

/-- The octets of a character are alphanumeric exactly if the character is. -/
theorem isAlphanumeric_encodeChar_iff :
    (∀ octet ∈ String.utf8EncodeChar character, isAlphanumeric octet = true) ↔
      character.isAlphanum = true := by
  rw [isAlphanum_iff]
  by_cases ascii : character.toNat < 0x80
  · have same : (UInt8.ofNat character.toNat).toNat = character.toNat := by
      rw [UInt8.toNat_ofNat', Nat.mod_eq_of_lt (by omega)]
    rw [Utf8.encodeChar_of_ascii ascii, List.forall_mem_singleton, isAlphanumeric_iff, same]
  · constructor
    · intro allAlphanumeric
      obtain ⟨octet, membership⟩ :=
        List.exists_mem_of_ne_nil _ (Utf8.encodeChar_ne_nil character)
      have beyond : 0x80 ≤ octet.toNat := UInt8.le_iff_toNat_le.mp
        (Utf8.le_of_mem_encodeChar (Nat.not_lt.mp ascii) membership)
      have alphanumeric := isAlphanumeric_iff.mp (allAlphanumeric octet membership)
      omega
    · omega

end Alphanumeric

end GameCatalog.Ascii
