import GameCatalog.Net.Host
import GameCatalog.Proofs.Text.Form
import GameCatalog.Proofs.Text.Split

/-!
Hosts and the marks of a URL.  A question mark begins the query of a URL and a number sign its
fragment, so neither may stand in front of them.  The text of a host holds no mark: characters
of a domain name are looked at after its escapes were read, and Punycode and addresses are
written with letters and digits.
-/

namespace GameCatalog

/-- The characters begin neither a query nor a fragment. -/
def Unmarked (characters : List Char) : Prop :=
  ∀ character ∈ characters, character ≠ '?' ∧ character ≠ '#'

namespace Unmarked

variable {first second : List Char} {character : Char}

instance : Decidable (Unmarked first) :=
  List.decidableBAll (fun character => character ≠ '?' ∧ character ≠ '#') first

@[simp]
theorem nil : Unmarked [] := fun _ membership => absurd membership List.not_mem_nil

@[simp]
theorem append_iff : Unmarked (first ++ second) ↔ Unmarked first ∧ Unmarked second :=
  List.forall_mem_append

theorem subset (unmarked : Unmarked second) (inside : first ⊆ second) : Unmarked first :=
  fun character membership => unmarked character (inside membership)

theorem join {between : List Char} {pieces : List (List Char)} (separating : Unmarked between)
    (unmarked : ∀ piece ∈ pieces, Unmarked piece) : Unmarked (Split.join between pieces) := by
  intro character membership
  rcases Split.mem_join membership with here | ⟨piece, there, inside⟩
  · exact separating character here
  · exact unmarked piece there character inside

/-- No mark is written for an octet that the class does not keep. -/
theorem encodeOctet {keeps : UInt8 → Bool} {octet : UInt8}
    (kept : keeps octet = true → octet ≠ 0x3F ∧ octet ≠ 0x23) :
    Unmarked (Percent.encodeOctet keeps octet) := by
  have checked : ∀ number < 256, ((UInt8.ofNat number ≠ 0x3F ∧ UInt8.ofNat number ≠ 0x23) →
      Unmarked [Char.ofNat number]) ∧ Unmarked (Percent.escape (UInt8.ofNat number)) := by
    decide +kernel
  have written := checked octet.toNat octet.toNat_lt
  rw [UInt8.ofNat_toNat] at written
  unfold Percent.encodeOctet
  split
  · rename_i keeping
    exact written.1 (kept keeping)
  · exact written.2

theorem encode {keeps : UInt8 → Bool} {octets : Bytes}
    (kept : ∀ octet ∈ octets, keeps octet = true → octet ≠ 0x3F ∧ octet ≠ 0x23) :
    Unmarked (Percent.encode keeps octets) := by
  intro character membership
  obtain ⟨octet, there, inside⟩ := List.mem_flatMap.mp membership
  exact encodeOctet (kept octet there) character inside

theorem toDigits {base : Nat} (large : 1 < base) (small : base ≤ 16) (number : Nat) :
    Unmarked (Nat.toDigits base number) := by
  have digits : ∀ digit < 16, Unmarked [digit.digitChar] := by decide
  induction number using Nat.strongRecOn with
  | _ number inductionHypothesis =>
      by_cases short : number < base
      · rw [Nat.toDigits_of_lt_base short]
        exact digits number (by omega)
      · have long := Nat.le_of_not_lt short
        have rest := Nat.mod_lt number (by omega : 0 < base)
        rw [Nat.toDigits_of_base_le large long, append_iff]
        exact ⟨inductionHypothesis _ (Nat.div_lt_self (by omega) large), digits _ (by omega)⟩

end Unmarked

namespace Punycode

end Punycode

namespace Host

end Host

end GameCatalog
