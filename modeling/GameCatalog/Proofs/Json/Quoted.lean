import GameCatalog.Json.Quoted
import GameCatalog.Json.Value
import GameCatalog.Proofs.Text.Ascii

/-!
A quoted text is read back, whatever characters it has.  Each character is either written as
an escape that stands for it, or in octets none of which means anything to the reader.
-/

namespace GameCatalog.Json.Quoted

open Utf8

namespace Outcome

@[simp]
theorem prepend_nil (outcome : Outcome) : outcome.prepend [] = outcome := by
  rcases outcome with ⟨_ | _, rest⟩ <;> rfl

theorem prepend_prepend (first second : Bytes) (outcome : Outcome) :
    (outcome.prepend second).prepend first = outcome.prepend (first ++ second) := by
  rcases outcome with ⟨_ | _, rest⟩
  · rfl
  · simp [prepend, Except.map]

end Outcome

/-- The octet stands for itself inside a text. -/
def Plain (octet : UInt8) : Prop :=
  octet ≠ 0x22 ∧ octet ≠ 0x5C ∧ ¬octet < 0x20

theorem readFrom_append (skipped rest : Bytes) :
    readFrom skipped.length (skipped ++ rest) = readFrom 0 rest := by
  induction skipped with
  | nil => rfl
  | cons octet skipped inductionHypothesis => exact inductionHypothesis

theorem readFrom_plain {octets : Bytes} (plain : ∀ octet ∈ octets, Plain octet) (rest : Bytes) :
    readFrom 0 (octets ++ rest) = (readFrom 0 rest).prepend octets := by
  induction octets with
  | nil => simp
  | cons octet octets inductionHypothesis =>
      obtain ⟨noQuote, noBackslash, noControl⟩ := plain octet (by simp)
      have tail := inductionHypothesis fun other membership => plain other (by simp [membership])
      simp only [List.cons_append, readFrom, noQuote, noBackslash, noControl, if_false, tail]
      rw [Outcome.prepend_prepend]
      rfl

/-- A backslash with what belongs to it is read as the octets it stands for. -/
theorem readFrom_escaped (letters : Bytes) {found rest : Bytes}
    (stands : escape (letters ++ rest) = .octets found letters.length) :
    readFrom 0 (0x5C :: letters ++ rest) = (readFrom 0 rest).prepend found := by
  have noQuote : (0x5C : UInt8) ≠ 0x22 := by decide
  simp only [List.cons_append, readFrom, noQuote, if_false, if_true, stands, readFrom_append]

theorem plain_of_mem_encodeChar {character : Char} {octet : UInt8}
    (noQuote : character ≠ '"') (noBackslash : character ≠ '\\')
    (noControl : ¬character.toNat < 0x20)
    (membership : octet ∈ String.utf8EncodeChar character) : Plain octet := by
  by_cases ascii : character.toNat < 0x80
  · rw [encodeChar_of_ascii ascii, List.mem_singleton] at membership
    subst membership
    have number : (UInt8.ofNat character.toNat).toNat = character.toNat := by
      simp
      omega
    refine ⟨?_, ?_, ?_⟩
    · intro same
      rw [same] at number
      exact noQuote (Char.toNat_inj.mp number.symm)
    · intro same
      rw [same] at number
      exact noBackslash (Char.toNat_inj.mp number.symm)
    · rw [UInt8.lt_iff_toNat_lt, number]
      exact noControl
  · have beyond := le_of_mem_encodeChar (Nat.le_of_not_lt ascii) membership
    rw [UInt8.le_iff_toNat_le] at beyond
    have large : 128 ≤ octet.toNat := beyond
    refine ⟨?_, ?_, ?_⟩
    · rintro rfl
      contradiction
    · rintro rfl
      contradiction
    · rw [UInt8.lt_iff_toNat_lt]
      exact Nat.not_lt_of_le (Nat.le_trans (by decide) large)

theorem escape_control {number : Nat} (control : number < 0x20) (rest : Bytes) :
    escape ([0x75, 0x30, 0x30, UInt8.ofNat (Ascii.hexDigit (number / 16)).toNat,
        UInt8.ofNat (Ascii.hexDigit (number % 16)).toNat] ++ rest) =
      .octets (String.utf8EncodeChar (Char.ofNat number)) 5 := by
  have zero : Ascii.hexValue? 0x30 = some 0 := by decide
  have high := Ascii.hexValue?_hexDigit (show number / 16 < 16 by omega)
  have low := Ascii.hexValue?_hexDigit (show number % 16 < 16 by omega)
  have spelled : unit? 0x30 0x30 (UInt8.ofNat (Ascii.hexDigit (number / 16)).toNat)
      (UInt8.ofNat (Ascii.hexDigit (number % 16)).toNat) = some number := by
    simp only [unit?, zero, high, low, Option.bind_eq_bind, Option.bind_some, Option.pure_def,
      Option.some.injEq]
    omega
  have noTrailing : isTrailing number = false := by
    simp [isTrailing]
    omega
  have noLeading : isLeading number = false := by
    simp [isLeading]
    omega
  simp [escape, spelled, noTrailing, noLeading]

/-- A character is read back from its written form. -/
theorem readFrom_escape (character : Char) (rest : Bytes) :
    readFrom 0 (encodeChars (Json.escape character) ++ rest) =
      (readFrom 0 rest).prepend (String.utf8EncodeChar character) := by
  unfold Json.escape
  split
  · subst_vars
    exact readFrom_escaped [0x22] rfl
  split
  · subst_vars
    exact readFrom_escaped [0x5C] rfl
  split
  · subst_vars
    exact readFrom_escaped [0x6E] rfl
  split
  · subst_vars
    exact readFrom_escaped [0x72] rfl
  split
  · subst_vars
    exact readFrom_escaped [0x74] rfl
  split
  · subst_vars
    exact readFrom_escaped [0x62] rfl
  split
  · subst_vars
    exact readFrom_escaped [0x66] rfl
  split
  · rename_i control
    have high := Ascii.hexDigit_ascii (show character.toNat / 16 < 16 by omega)
    have low := Ascii.hexDigit_ascii (show character.toNat % 16 < 16 by omega)
    have stands := escape_control control rest
    rw [Char.ofNat_toNat] at stands
    simp only [encodeChars_cons, encodeChars_nil, encodeChar_of_ascii high,
      encodeChar_of_ascii low]
    exact readFrom_escaped _ stands
  · rename_i noQuote noBackslash _ _ _ _ _ noControl
    rw [encodeChars_cons, encodeChars_nil, List.append_nil]
    exact readFrom_plain (fun octet membership =>
      plain_of_mem_encodeChar noQuote noBackslash noControl membership) rest

theorem readFrom_escapes (characters : List Char) (rest : Bytes) :
    readFrom 0 (encodeChars (characters.flatMap Json.escape) ++ rest) =
      (readFrom 0 rest).prepend (encodeChars characters) := by
  induction characters with
  | nil => simp
  | cons character characters inductionHypothesis =>
      rw [List.flatMap_cons, encodeChars_append, List.append_assoc, readFrom_escape,
        inductionHypothesis, Outcome.prepend_prepend, encodeChars_cons]

theorem read_quote (text : String) (rest : Bytes) :
    read (encodeChars (text.toList.flatMap Json.escape) ++ 0x22 :: rest) =
      ⟨.ok (encode text), .ok rest⟩ := by
  unfold read
  rw [readFrom_escapes]
  simp [readFrom, Outcome.prepend, Except.map, encode]

end GameCatalog.Json.Quoted
