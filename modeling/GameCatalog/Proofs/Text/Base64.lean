import GameCatalog.Proofs.Text.Utf8
import GameCatalog.Text.Base64

/-!
Base 64 loses nothing: in an alphabet that tells its symbols apart, what was encoded is decoded
again.
-/

namespace GameCatalog.Base64

def values : Bytes → List Nat
  | first :: second :: third :: rest =>
      first.toNat / 4 :: (first.toNat % 4 * 16 + second.toNat / 16) ::
        (second.toNat % 16 * 4 + third.toNat / 64) :: third.toNat % 64 :: values rest
  | [first, second] =>
      [first.toNat / 4, first.toNat % 4 * 16 + second.toNat / 16, second.toNat % 16 * 4]
  | [first] => [first.toNat / 4, first.toNat % 4 * 16]
  | [] => []

def lack (count : Nat) : Nat := (4 - count % 4) % 4

/-- The alphabet tells its symbols apart, and from the filling; all of them are ASCII. -/
def Alphabet.Distinct (alphabet : Alphabet) : Prop :=
  ∀ value < 64, alphabet.value? (alphabet.symbol value) = some value ∧
    alphabet.symbol value ≠ '=' ∧ (alphabet.symbol value).toNat < 0x80

theorem distinct_standard : standard.Distinct := by
  unfold Alphabet.Distinct
  decide

theorem distinct_urlSafe : urlSafe.Distinct := by
  unfold Alphabet.Distinct
  decide

section Values

theorem values_small (octets : Bytes) : ∀ value ∈ values octets, value < 64 := by
  fun_induction values octets with
  | case1 first second third rest inductionHypothesis =>
      have firstSmall := first.toNat_lt
      have secondSmall := second.toNat_lt
      have thirdSmall := third.toNat_lt
      simp only [List.forall_mem_cons]
      exact ⟨by omega, by omega, by omega, by omega, inductionHypothesis⟩
  | case2 first second =>
      have firstSmall := first.toNat_lt
      have secondSmall := second.toNat_lt
      simp only [List.forall_mem_cons]
      exact ⟨by omega, by omega, by omega, by simp⟩
  | case3 first =>
      have firstSmall := first.toNat_lt
      simp only [List.forall_mem_cons]
      exact ⟨by omega, by omega, by simp⟩
  | case4 => simp

theorem octets?_values (octets : Bytes) : octets? (values octets) = some octets := by
  fun_induction values octets with
  | case1 first second third rest inductionHypothesis =>
      have firstSmall := first.toNat_lt
      have secondSmall := second.toNat_lt
      have thirdSmall := third.toNat_lt
      have firstWhole : first.toNat / 4 * 4 + (first.toNat % 4 * 16 + second.toNat / 16) / 16 =
          first.toNat := by omega
      have secondWhole : (first.toNat % 4 * 16 + second.toNat / 16) % 16 * 16 +
          (second.toNat % 16 * 4 + third.toNat / 64) / 4 = second.toNat := by omega
      have thirdWhole : (second.toNat % 16 * 4 + third.toNat / 64) % 4 * 64 + third.toNat % 64 =
          third.toNat := by omega
      simp only [octets?, inductionHypothesis, Option.map_some, firstWhole, secondWhole,
        thirdWhole, UInt8.ofNat_toNat]
  | case2 first second =>
      have firstSmall := first.toNat_lt
      have secondSmall := second.toNat_lt
      have firstWhole : first.toNat / 4 * 4 + (first.toNat % 4 * 16 + second.toNat / 16) / 16 =
          first.toNat := by omega
      have secondWhole : (first.toNat % 4 * 16 + second.toNat / 16) % 16 * 16 +
          second.toNat % 16 * 4 / 4 = second.toNat := by omega
      have nothingLeft : second.toNat % 16 * 4 % 4 = 0 := by omega
      simp only [octets?, firstWhole, secondWhole, nothingLeft, if_true, UInt8.ofNat_toNat]
  | case3 first =>
      have firstSmall := first.toNat_lt
      have firstWhole : first.toNat / 4 * 4 + first.toNat % 4 * 16 / 16 = first.toNat := by omega
      have nothingLeft : first.toNat % 4 * 16 % 16 = 0 := by omega
      simp only [octets?, firstWhole, nothingLeft, if_true, UInt8.ofNat_toNat]
  | case4 => rfl

end Values

section Alphabet

variable (alphabet : Alphabet)

/-- A text in base 64 consists of the symbols of its values and of the filling. -/
theorem encode_eq (octets : Bytes) :
    encode alphabet octets =
      (values octets).map alphabet.symbol ++ alphabet.filling (lack (values octets).length) := by
  fun_induction values octets with
  | case1 first second third rest inductionHypothesis =>
      have same : lack ((values rest).length + 1 + 1 + 1 + 1) = lack (values rest).length := by
        unfold lack
        omega
      simp only [encode, inductionHypothesis, List.map_cons, List.cons_append, List.length_cons,
        same]
  | case2 first second => rfl
  | case3 first => rfl
  | case4 => unfold encode lack Alphabet.filling; split <;> rfl

theorem mem_filling {count : Nat} {character : Char}
    (membership : character ∈ alphabet.filling count) : character = '=' := by
  unfold Alphabet.filling at membership
  split at membership
  · exact List.eq_of_mem_replicate membership
  · exact absurd membership List.not_mem_nil

variable {alphabet}

theorem unfilled?_append (distinct : alphabet.Distinct) {digits : List Nat}
    (small : ∀ value ∈ digits, value < 64) :
    unfilled? alphabet (digits.map alphabet.symbol ++ alphabet.filling (lack digits.length)) =
      some (digits.map alphabet.symbol) := by
  have symbols : ∀ character ∈ digits.map alphabet.symbol, (character != '=') = true := by
    intro character membership
    obtain ⟨value, isDigit, rfl⟩ := List.mem_map.mp membership
    simpa using (distinct value (small value isDigit)).2.1
  have stops : ∀ filling : List Char, (∀ character ∈ filling, character = '=') →
      filling.takeWhile (· != '=') = [] ∧ filling.dropWhile (· != '=') = filling := by
    intro filling fills
    cases filling with
    | nil => exact ⟨rfl, rfl⟩
    | cons character filling =>
        rw [fills character List.mem_cons_self]
        exact ⟨rfl, rfl⟩
  obtain ⟨nothing, everything⟩ :=
    stops (alphabet.filling (lack digits.length)) fun _ => mem_filling alphabet
  unfold unfilled?
  rw [List.takeWhile_append_of_pos symbols, List.dropWhile_append_of_pos symbols, nothing,
    everything, List.append_nil]
  dsimp only
  rw [List.length_map]
  exact if_pos rfl

theorem mapM_value?_symbol (distinct : alphabet.Distinct) {digits : List Nat}
    (small : ∀ value ∈ digits, value < 64) :
    (digits.map alphabet.symbol).mapM alphabet.value? = some digits := by
  induction digits with
  | nil => rfl
  | cons value digits inductionHypothesis =>
      rw [List.forall_mem_cons] at small
      rw [List.map_cons, List.mapM_cons, (distinct value small.1).1, inductionHypothesis small.2]
      rfl

theorem decode?_encode (distinct : alphabet.Distinct) (octets : Bytes) :
    decode? alphabet (encode alphabet octets) = some octets := by
  have small := values_small octets
  unfold decode?
  rw [encode_eq, unfilled?_append distinct small]
  simp only [bind, Option.bind, mapM_value?_symbol distinct small, octets?_values]

theorem of_mem_encode {property : Char → Prop} {octets : Bytes}
    (symbols : ∀ value < 64, property (alphabet.symbol value)) (filling : property '=') :
    ∀ character ∈ encode alphabet octets, property character := by
  intro character membership
  rw [encode_eq, List.mem_append] at membership
  rcases membership with isSymbol | fills
  · obtain ⟨value, isDigit, rfl⟩ := List.mem_map.mp isSymbol
    exact symbols value (values_small octets value isDigit)
  · rw [mem_filling alphabet fills]
    exact filling

theorem encode_ascii (distinct : alphabet.Distinct) (octets : Bytes) :
    ∀ character ∈ encode alphabet octets, character.toNat < 0x80 :=
  of_mem_encode (fun value small => (distinct value small).2.2) (by decide)

/-- A text that is filled up has four characters for each group of three octets. -/
theorem length_encode (padded : alphabet.padded = true) (octets : Bytes) :
    (encode alphabet octets).length = (octets.length + 2) / 3 * 4 := by
  fun_induction encode alphabet octets with
  | case1 first second third rest inductionHypothesis =>
      simp only [List.length_cons, inductionHypothesis]
      omega
  | case2 first second => simp [Alphabet.filling, padded]
  | case3 first => simp [Alphabet.filling, padded]
  | case4 => rfl

end Alphabet

end GameCatalog.Base64
