import GameCatalog.Json.Numeral
import GameCatalog.Proofs.Text.Ascii

/-!
A natural number is read back from its decimal digits, provided that what follows them does
not go on with the number.
-/

namespace GameCatalog.Json.Numeral

open Utf8

def ofNatural (value : Nat) : Numeral :=
  if value < UInt64.size then natural (UInt64.ofNat value)
  else if exceeds value 0 then excessive else other

theorem ofNatural_toNat (value : UInt64) : ofNatural value.toNat = natural value := by
  unfold ofNatural
  rw [if_pos value.toNat_lt, UInt64.ofNat_toNat]

/-- The octets do not go on with a number. -/
def EndsNumber (rest : Bytes) : Prop :=
  ∀ octet ∈ rest.head?, Ascii.isDigit octet = false ∧ octet ≠ 0x2E ∧ octet ≠ 0x65 ∧ octet ≠ 0x45

theorem digits_append {found rest : Bytes} (some_ : found ≠ [])
    (allDigits : ∀ octet ∈ found, Ascii.isDigit octet = true) (ends : EndsNumber rest) :
    digits (found ++ rest) = .ok (found, rest) := by
  have stops : rest.takeWhile Ascii.isDigit = [] ∧ rest.dropWhile Ascii.isDigit = rest := by
    cases rest with
    | nil => exact ⟨rfl, rfl⟩
    | cons octet rest =>
        have noDigit := (ends octet (by simp)).1
        simp [List.takeWhile, List.dropWhile, noDigit]
  have taken : (found ++ rest).takeWhile Ascii.isDigit = found := by
    rw [List.takeWhile_append_of_pos allDigits, stops.1, List.append_nil]
  have dropped : (found ++ rest).dropWhile Ascii.isDigit = rest := by
    rw [List.dropWhile_append_of_pos allDigits, stops.2]
  unfold digits
  rw [taken, dropped]
  split
  · contradiction
  · rfl

theorem fraction_of_endsNumber {rest : Bytes} (ends : EndsNumber rest) :
    fraction rest = .ok (none, rest) := by
  cases rest with
  | nil => rfl
  | cons octet rest =>
      have noPoint := (ends octet (by simp)).2.1
      unfold fraction
      split
      · rename_i same
        cases same
        contradiction
      · rfl

theorem exponent_of_endsNumber {rest : Bytes} (ends : EndsNumber rest) :
    exponent rest = .ok (none, rest) := by
  cases rest with
  | nil => rfl
  | cons octet rest =>
      obtain ⟨-, -, noSmall, noCapital⟩ := ends octet (by simp)
      simp [exponent, noSmall, noCapital]

theorem ofDigits_decimal (value : Nat) : ofDigits (encodeChars (Ascii.decimal value)) = value := by
  have each : ∀ (characters : List Char) (number : Nat),
      (∀ character ∈ characters, character.isDigit = true) →
      (characters.map fun character => UInt8.ofNat character.toNat).foldl
        (fun number digit => number * 10 + (digit.toNat - 0x30)) number =
      Nat.ofDigitChars 10 characters number := by
    intro characters
    induction characters with
    | nil =>
        intro number _
        rfl
    | cons character characters inductionHypothesis =>
        intro number digits
        have same := Ascii.toNat_of_isDigit (digits character (by simp))
        rw [List.map_cons, List.foldl_cons, Nat.ofDigitChars_cons, same,
          inductionHypothesis _ fun other membership => digits other (by simp [membership]),
          Nat.mul_comm]
        rfl
  unfold ofDigits
  rw [Ascii.encodeChars_decimal,
    each _ _ fun _ membership => Ascii.isDigit_of_mem_decimal membership]
  exact Nat.ofDigitChars_ten_toDigits

theorem head?_encodeChars_decimal {value : Nat}
    (zero : (encodeChars (Ascii.decimal value)).head? = some 0x30) : value = 0 := by
  by_contra nonzero
  have front := Ascii.head?_decimal (Nat.pos_of_ne_zero nonzero)
  rw [Ascii.encodeChars_decimal] at zero
  cases split : Ascii.decimal value with
  | nil => exact Ascii.decimal_ne_nil value split
  | cons character characters =>
      have first : character ∈ Ascii.decimal value := by simp [split]
      have digit := Ascii.isDigit_of_mem_decimal first
      rw [split, List.map_cons, List.head?_cons, Option.some.injEq] at zero
      rw [split, List.head?_cons] at front
      have same := Ascii.toNat_of_isDigit digit
      rw [zero] at same
      exact front (congrArg some (Char.toNat_inj.mp same.symm))

/-- A natural number is read from its digits. -/
theorem read_decimal (value : Nat) {rest : Bytes} (ends : EndsNumber rest) :
    read (encodeChars (Ascii.decimal value) ++ rest) = .ok (ofNatural value, rest) := by
  have allDigits : ∀ octet ∈ encodeChars (Ascii.decimal value), Ascii.isDigit octet = true :=
    fun _ membership => Ascii.isDigit_of_mem_encodeChars_decimal membership
  have notEmpty : encodeChars (Ascii.decimal value) ≠ [] := by
    rw [Ascii.encodeChars_decimal, ne_eq, List.map_eq_nil_iff]
    exact Ascii.decimal_ne_nil value
  have positive : (encodeChars (Ascii.decimal value) ++ rest).head? ≠ some 0x2D := by
    rw [List.head?_append_of_ne_nil _ notEmpty]
    intro sign
    have digit := allDigits _ (List.mem_of_mem_head? sign)
    contradiction
  have wholeRead : whole (encodeChars (Ascii.decimal value) ++ rest) =
      .ok (encodeChars (Ascii.decimal value), rest) := by
    unfold whole
    rw [digits_append notEmpty allDigits ends]
    have noZero : ¬((encodeChars (Ascii.decimal value)).head? = some 0x30 ∧
        (encodeChars (Ascii.decimal value)).length ≠ 1) := by
      rintro ⟨zero, long⟩
      rw [head?_encodeChars_decimal zero] at long
      contradiction
    simp [bind, Except.bind, noZero, pure, Except.pure]
  simp only [read, positive, decide_false, if_false, wholeRead, bind,
    Except.bind, fraction_of_endsNumber ends, exponent_of_endsNumber ends, pure, Except.pure,
    ofParts, ofDigits_decimal]
  rfl

end GameCatalog.Json.Numeral
