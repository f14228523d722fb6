import GameCatalog.Proofs.Json.Numeral
import GameCatalog.Proofs.Text.Split
import GameCatalog.Service.Metrics

/-!
The counters tell the observations apart.  Every kind of observation has a counter of its own,
and monitoring reads off that counter how often it was made.
-/

namespace GameCatalog

def Observation.counter : Observation → String
  | .request method status =>
      Metrics.counter "http_requests_total"
        [("status", String.ofList (Ascii.decimal status)), ("method", method)]
  | .check scheme result =>
      Metrics.counter "auth_checks_total" [("scheme", scheme.name), ("outcome", result.label)]
  | .login step result =>
      Metrics.counter "login_steps_total" [("step", step.label), ("result", result.label)]
  | .redemption result =>
      Metrics.counter "launcher_authorizations_total" [("result", result.label)]

namespace Metrics

/-- The value of a counter as monitoring reads it; a counter that is not shown was never raised. -/
def value (observations : List Observation) (name : String) : Nat :=
  ((counters observations).lookup name).getD 0

section Names

/-- What stands behind the quotation mark is told from what stands before it. -/
theorem append_cons_inj {separator : Char} {first second firstRest secondRest : List Char}
    (absentFirst : separator ∉ first) (absentSecond : separator ∉ second) :
    first ++ separator :: firstRest = second ++ separator :: secondRest ↔
      first = second ∧ firstRest = secondRest := by
  have unlike {part : List Char} (absent : separator ∉ part) :
      ∀ character ∈ part, character ≠ separator :=
    fun character membership same => absent (same ▸ membership)
  constructor
  · intro same
    have cut := Split.first?_append (unlike absentFirst) firstRest
    rw [same, Split.first?_append (unlike absentSecond) secondRest] at cut
    simpa [eq_comm] using cut
  · rintro ⟨rfl, rfl⟩
    rfl

theorem toList_counter (name : String) (labels : List (String × String)) :
    (counter name labels).toList = name.toList ++ '\x7b' :: ((String.intercalate ","
      (labels.map fun label => label.1 ++ "=\"" ++ label.2 ++ "\"")).toList ++ ['\x7d']) := by
  simp [counter]

theorem name_of_counter {first second : String} {firstLabels secondLabels : List (String × String)}
    (absentFirst : '\x7b' ∉ first.toList) (absentSecond : '\x7b' ∉ second.toList)
    (same : counter first firstLabels = counter second secondLabels) : first = second := by
  have characters := congrArg String.toList same
  rw [toList_counter, toList_counter, append_cons_inj absentFirst absentSecond] at characters
  exact String.toList_inj.mp characters.1

theorem labels_of_counter {name key first second : String}
    (same : counter name [(key, first)] = counter name [(key, second)]) : first = second := by
  have characters := congrArg String.toList same
  simpa [toList_counter, String.toList_inj] using characters

/-- The first of two labels ends with a quotation mark, which stands in no value of it. -/
theorem pair_of_counter {name key other first second firstOther secondOther : String}
    (plainFirst : '"' ∉ first.toList) (plainSecond : '"' ∉ second.toList)
    (same : counter name [(key, first), (other, firstOther)] =
      counter name [(key, second), (other, secondOther)]) :
    first = second ∧ firstOther = secondOther := by
  have characters := congrArg String.toList same
  simp only [toList_counter] at characters
  simpa [append_cons_inj plainFirst plainSecond, String.toList_inj] using characters

end Names

end Metrics

section Labels

theorem Scheme.name_injective : Function.Injective Scheme.name := by
  have known (scheme : Scheme) : ofName? scheme.name = some scheme := by
    cases scheme <;> decide
  intro first second same
  have found := known first
  rw [same, known second] at found
  exact (Option.some.inj found).symm

theorem CheckResult.label_injective : Function.Injective CheckResult.label := by
  intro first second
  cases first <;> cases second <;> decide

theorem LoginStep.label_injective : Function.Injective LoginStep.label := by
  intro first second
  cases first <;> cases second <;> decide

theorem LoginResult.label_injective : Function.Injective LoginResult.label := by
  intro first second
  cases first <;> cases second <;> decide

theorem RedemptionResult.label_injective : Function.Injective RedemptionResult.label := by
  intro first second
  cases first <;> cases second <;> decide

theorem Ascii.decimal_injective : Function.Injective Ascii.decimal := by
  intro first second same
  have read := Json.Numeral.ofDigits_decimal first
  rw [same, Json.Numeral.ofDigits_decimal second] at read
  exact read.symm

theorem Ascii.notMem_decimal (value : Nat) : '"' ∉ Ascii.decimal value := by
  intro membership
  have digit := Ascii.isDigit_of_mem_decimal membership
  exact absurd digit (by decide)

end Labels

namespace Observation

theorem counter_injective : Function.Injective counter := by
  intro first second same
  cases first with
  | request method status =>
      cases second with
      | request other code =>
          obtain ⟨statuses, rfl⟩ := Metrics.pair_of_counter
            (by simpa using Ascii.notMem_decimal status)
            (by simpa using Ascii.notMem_decimal code) same
          rw [Ascii.decimal_injective (String.ofList_injective statuses)]
      | _ => exact absurd (Metrics.name_of_counter (by decide) (by decide) same) (by decide)
  | check scheme result =>
      cases second with
      | check other ending =>
          have plain (scheme : Scheme) : '"' ∉ scheme.name.toList := by cases scheme <;> decide
          obtain ⟨names, labels⟩ := Metrics.pair_of_counter (plain scheme) (plain other) same
          rw [Scheme.name_injective names, CheckResult.label_injective labels]
      | _ => exact absurd (Metrics.name_of_counter (by decide) (by decide) same) (by decide)
  | login step result =>
      cases second with
      | login other ending =>
          have plain (step : LoginStep) : '"' ∉ step.label.toList := by cases step <;> decide
          obtain ⟨steps, labels⟩ := Metrics.pair_of_counter (plain step) (plain other) same
          rw [LoginStep.label_injective steps, LoginResult.label_injective labels]
      | _ => exact absurd (Metrics.name_of_counter (by decide) (by decide) same) (by decide)
  | redemption result =>
      cases second with
      | redemption ending =>
          rw [RedemptionResult.label_injective (Metrics.labels_of_counter same)]
      | _ => exact absurd (Metrics.name_of_counter (by decide) (by decide) same) (by decide)

theorem counter_ne_durationCounter (observation : Observation) (status : Nat) :
    observation.counter ≠ Metrics.durationCounter status := by
  intro same
  cases observation <;>
    exact absurd (Metrics.name_of_counter (by decide) (by decide) same) (by decide)

/-- An observation raises its own counter once, and no other observation does. -/
theorem count_countersOf (observation other : Observation) :
    (Metrics.countersOf other).count observation.counter =
      if other = observation then 1 else 0 := by
  have own : [other.counter].count observation.counter =
      if other = observation then 1 else 0 := by
    simp [List.count_cons, counter_injective.eq_iff]
  cases other with
  | request method status =>
      have shared : [Metrics.durationCounter status].count observation.counter = 0 := by
        rw [List.count_eq_zero, List.mem_singleton]
        exact counter_ne_durationCounter observation status
      have split : Metrics.countersOf (.request method status) =
          [counter (.request method status)] ++ [Metrics.durationCounter status] := rfl
      rw [split, List.count_append, own, shared, Nat.add_zero]
  | check scheme result => exact own
  | login step result => exact own
  | redemption result => exact own

end Observation

namespace Metrics

theorem value_eq_count (observations : List Observation) (name : String) :
    value observations name = (observations.flatMap countersOf).count name := by
  unfold value counters
  dsimp only
  generalize observations.flatMap countersOf = raised
  have shown (names : List String) :
      ((names.map fun name => (name, raised.count name)).lookup name).getD 0 =
        if name ∈ names then raised.count name else 0 := by
    induction names with
    | nil => rfl
    | cons first names inductionHypothesis =>
        by_cases here : name = first
        · simp [here]
        · have elsewhere : (name == first) = false := by simpa using here
          simpa [List.lookup_cons, elsewhere, here] using inductionHypothesis
  rw [shown]
  by_cases known : name ∈ raised
  · rw [if_pos (List.mem_eraseDups.mpr known)]
  · rw [if_neg (mt List.mem_eraseDups.mp known), List.count_eq_zero.mpr known]

theorem value_counter (observations : List Observation) (observation : Observation) :
    value observations observation.counter = observations.count observation := by
  rw [value_eq_count]
  induction observations with
  | nil => rfl
  | cons first observations inductionHypothesis =>
      rw [List.flatMap_cons, List.count_append, inductionHypothesis, Observation.count_countersOf,
        List.count_cons, Nat.add_comm]
      simp

end Metrics

end GameCatalog
