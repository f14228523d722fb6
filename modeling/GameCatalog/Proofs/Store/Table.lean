import GameCatalog.Store.Table
import Mathlib.Data.List.Nodup

/-!
Tables seen from outside: which record stands under a key, and what putting records in,
filtering, searching and revising do to the entries.  A key that is new is put at the end,
so a table only ever grows there; a record under a key that is there is revised in its place.
-/

namespace GameCatalog.Table

variable {Key Value : Type}

@[ext]
theorem ext_entries {first second : Table Key Value} (same : first.entries = second.entries) :
    first = second := by
  cases first
  cases second
  cases same
  rfl

section Lookup

variable [DecidableEq Key]

theorem find?_eq_some_iff {key : Key} {value : Value} {entries : List (Key × Value)}
    (distinct : (entries.map Prod.fst).Nodup) :
    find? key entries = some value ↔ (key, value) ∈ entries := by
  induction entries with
  | nil => simp [find?]
  | cons entry rest inductionHypothesis =>
      obtain ⟨other, old⟩ := entry
      rw [List.map_cons, List.nodup_cons] at distinct
      by_cases same : other = key
      · subst same
        have absent : (other, value) ∉ rest := fun membership =>
          distinct.1 (List.mem_map.mpr ⟨(other, value), membership, rfl⟩)
        simp [find?, absent, eq_comm]
      · have different : key ≠ other := fun equal => same equal.symm
        simp [find?, same, different, inductionHypothesis distinct.2]

theorem find?_eq_none_iff {key : Key} {entries : List (Key × Value)} :
    find? key entries = none ↔ key ∉ entries.map Prod.fst := by
  induction entries with
  | nil => simp [find?]
  | cons entry rest inductionHypothesis =>
      obtain ⟨other, old⟩ := entry
      by_cases same : other = key
      · simp [find?, same]
      · have different : key ≠ other := fun equal => same equal.symm
        simp only [find?, same, if_false, inductionHypothesis, List.map_cons, List.mem_cons,
          different, false_or]

theorem get?_eq_some_iff {table : Table Key Value} {key : Key} {value : Value} :
    table.get? key = some value ↔ (key, value) ∈ table.entries :=
  find?_eq_some_iff table.distinct

theorem get?_eq_none_iff {table : Table Key Value} {key : Key} :
    table.get? key = none ↔ key ∉ table.keys :=
  find?_eq_none_iff

theorem mem_values_iff {table : Table Key Value} {value : Value} :
    value ∈ table.values ↔ ∃ key, table.get? key = some value := by
  simp only [values, List.mem_map, get?_eq_some_iff, Prod.exists, exists_eq_right]

theorem get?_of_perm {first second : Table Key Value}
    (rearranged : first.entries.Perm second.entries) : first.get? = second.get? := by
  funext key
  apply Option.ext
  intro value
  rw [get?_eq_some_iff, get?_eq_some_iff, rearranged.mem_iff]

theorem perm_of_get? {first second : Table Key Value} (same : first.get? = second.get?) :
    first.entries.Perm second.entries := by
  rw [List.perm_ext_iff_of_nodup first.distinct.of_map second.distinct.of_map]
  rintro ⟨key, value⟩
  rw [← get?_eq_some_iff, ← get?_eq_some_iff, same]

theorem isSome_get?_insert {table : Table Key Value} {key other : Key} (value : Value)
    (known : (table.get? other).isSome = true) :
    ((table.insert key value).get? other).isSome = true := by
  rw [get?_insert]
  split
  · rfl
  · exact known

/-- A record of the changed table was there before, or is the one that was put in. -/
theorem mem_values_insert {table : Table Key Value} {key : Key} {value stored : Value}
    (membership : stored ∈ (table.insert key value).values) :
    stored = value ∨ stored ∈ table.values := by
  obtain ⟨other, found⟩ := mem_values_iff.mp membership
  rw [get?_insert] at found
  split at found
  · exact .inl (Option.some.inj found).symm
  · exact .inr (mem_values_iff.mpr ⟨other, found⟩)

theorem put_eq_append {key : Key} {value : Value} {entries : List (Key × Value)}
    (absent : key ∉ entries.map Prod.fst) : put key value entries = entries ++ [(key, value)] := by
  induction entries with
  | nil => rfl
  | cons entry rest inductionHypothesis =>
      obtain ⟨other, old⟩ := entry
      simp only [List.map_cons, List.mem_cons, not_or] at absent
      have different : ¬other = key := fun equal => absent.1 equal.symm
      simp [put, different, inductionHypothesis absent.2]

theorem entries_insert {table : Table Key Value} {key : Key} (value : Value)
    (absent : table.get? key = none) :
    (table.insert key value).entries = table.entries ++ [(key, value)] :=
  put_eq_append (get?_eq_none_iff.mp absent)

/-- Putting the record that stands under a key there again changes nothing. -/
theorem insert_same {table : Table Key Value} {key : Key} {value : Value}
    (found : table.get? key = some value) : table.insert key value = table := by
  have same : ∀ entries : List (Key × Value),
      find? key entries = some value → put key value entries = entries := by
    intro entries
    induction entries with
    | nil => simp [find?]
    | cons entry rest inductionHypothesis =>
        obtain ⟨other, old⟩ := entry
        intro foundHere
        by_cases equal : other = key
        · simp_all [find?, put]
        · simp_all [find?, put]
  exact ext_entries (same table.entries found)

end Lookup

section Growth

variable [DecidableEq Key]

def insertAll (table : Table Key Value) (added : List (Key × Value)) : Table Key Value :=
  added.foldl (fun table entry => table.insert entry.1 entry.2) table

/-- Keys of which none stands in the table and none twice in the list. -/
def Fresh (table : Table Key Value) (keys : List Key) : Prop :=
  keys.Nodup ∧ ∀ key ∈ keys, table.get? key = none

instance (table : Table Key Value) [DecidableEq Value] (keys : List Key) :
    Decidable (table.Fresh keys) :=
  inferInstanceAs (Decidable (_ ∧ _))

theorem get?_insertAll_of_notMem {key : Key} {added : List (Key × Value)}
    (table : Table Key Value) (absent : key ∉ added.map Prod.fst) :
    (table.insertAll added).get? key = table.get? key := by
  induction added generalizing table with
  | nil => rfl
  | cons entry rest inductionHypothesis =>
      simp only [List.map_cons, List.mem_cons, not_or] at absent
      have different : ¬entry.1 = key := fun equal => absent.1 equal.symm
      have step := inductionHypothesis (table.insert entry.1 entry.2) absent.2
      rw [get?_insert, if_neg different] at step
      exact step

theorem entries_insertAll {added : List (Key × Value)} {table : Table Key Value}
    (fresh : table.Fresh (added.map Prod.fst)) :
    (table.insertAll added).entries = table.entries ++ added := by
  induction added generalizing table with
  | nil => simp [insertAll]
  | cons entry rest inductionHypothesis =>
      obtain ⟨distinct, absent⟩ := fresh
      rw [List.map_cons, List.nodup_cons] at distinct
      have freshNext : (table.insert entry.1 entry.2).Fresh (rest.map Prod.fst) := by
        refine ⟨distinct.2, fun key membership => ?_⟩
        have different : entry.1 ≠ key := fun equal => distinct.1 (equal ▸ membership)
        rw [get?_insert, if_neg different]
        exact absent key (by simp [membership])
      have step := inductionHypothesis freshNext
      rw [entries_insert entry.2 (absent entry.1 (by simp))] at step
      simpa [insertAll] using step

theorem insertAll_empty (table : Table Key Value) : (empty : Table Key Value).insertAll
    table.entries = table := by
  apply ext_entries
  have fresh : (empty : Table Key Value).Fresh (table.entries.map Prod.fst) :=
    ⟨table.distinct, fun key _ => get?_empty key⟩
  rw [entries_insertAll fresh]
  rfl

@[simp]
theorem ofList_entries (table : Table Key Value) : ofList table.entries = table :=
  insertAll_empty table

end Growth

section Filter

variable [DecidableEq Key]

theorem get?_filter (table : Table Key Value) (test : Value → Bool) (key : Key) :
    (table.filter test).get? key = (table.get? key).filter test := by
  cases found : table.get? key with
  | none =>
      rw [get?_eq_none_iff] at found
      simp only [Option.filter_none, get?_eq_none_iff]
      intro membership
      obtain ⟨entry, entryKept, keyOfEntry⟩ := List.mem_map.mp membership
      exact found (List.mem_map.mpr ⟨entry, (List.mem_filter.mp entryKept).1, keyOfEntry⟩)
  | some value =>
      rw [get?_eq_some_iff] at found
      by_cases passed : test value = true
      · rw [Option.filter_some_pos passed, get?_eq_some_iff]
        exact List.mem_filter.mpr ⟨found, passed⟩
      · rw [Option.filter_some_neg (Bool.eq_false_iff.mpr passed), get?_eq_none_iff]
        intro membership
        obtain ⟨⟨_, other⟩, entryKept, rfl⟩ := List.mem_map.mp membership
        obtain ⟨entryThere, entryPassed⟩ := List.mem_filter.mp entryKept
        have sameValue : some other = some value :=
          (get?_eq_some_iff.mpr entryThere).symm.trans (get?_eq_some_iff.mpr found)
        exact passed (Option.some.inj sameValue ▸ entryPassed)

end Filter

section Selection

theorem values_filter (table : Table Key Value) (test : Value → Bool) :
    (table.filter test).values = table.values.filter test := by
  unfold values filter
  rw [List.filter_map]
  rfl

theorem mem_values_filter {table : Table Key Value} {test : Value → Bool} {stored : Value}
    (membership : stored ∈ (table.filter test).values) : stored ∈ table.values := by
  rw [values_filter] at membership
  exact List.mem_of_mem_filter membership

theorem filter_filter (table : Table Key Value) (first second : Value → Bool) :
    (table.filter first).filter second = table.filter fun value => first value && second value := by
  apply ext_entries
  simp only [filter, List.filter_filter, Bool.and_comm]

theorem filter_eq_self {table : Table Key Value} {test : Value → Bool}
    (all : ∀ value ∈ table.values, test value = true) : table.filter test = table := by
  apply ext_entries
  apply List.filter_eq_self.mpr
  intro entry membership
  exact all entry.2 (List.mem_map.mpr ⟨entry, membership, rfl⟩)

/-- If records differ in what is searched for, filtering hides what a search finds, or nothing. -/
theorem search_filter {Trait : Type} [DecidableEq Trait] {table : Table Key Value}
    {trait : Value → Trait} (distinct : (table.values.map trait).Nodup) (test : Value → Bool)
    (wanted : Trait) :
    (table.filter test).search (fun value => trait value = wanted) =
      (table.search fun value => trait value = wanted).filter test := by
  unfold search
  rw [values_filter]
  generalize table.values = values at distinct
  induction values with
  | nil => rfl
  | cons value rest inductionHypothesis =>
      rw [List.map_cons, List.nodup_cons] at distinct
      by_cases here : trait value = wanted
      · have others : (rest.filter test).find? (fun value => trait value = wanted) = none := by
          rw [List.find?_eq_none]
          intro other membership same
          apply distinct.1
          rw [here, ← of_decide_eq_true same]
          exact List.mem_map_of_mem (List.mem_of_mem_filter membership)
        cases passed : test value with
        | true => simp [passed, here, Option.filter]
        | false => simp [passed, here, others, Option.filter]
      · cases passed : test value with
        | true => simp [passed, here, inductionHypothesis distinct.2]
        | false => simp [passed, here, inductionHypothesis distinct.2]

end Selection

section Size

theorem length_values (table : Table Key Value) : table.values.length = table.size := by
  rw [values, List.length_map, size]

theorem size_filter_eq_iff {table : Table Key Value} {test : Value → Bool} :
    (table.filter test).size = table.size ↔ ∀ value ∈ table.values, test value = true := by
  simp only [size, filter, List.length_filter_eq_length_iff, values, List.mem_map]
  constructor
  · rintro allPass value ⟨entry, membership, rfl⟩
    exact allPass entry membership
  · intro allPass entry membership
    exact allPass entry.2 ⟨entry, membership, rfl⟩

theorem size_filter_le (table : Table Key Value) (test : Value → Bool) :
    (table.filter test).size ≤ table.size :=
  List.length_filter_le _ _

end Size

section Search

theorem mem_values_of_perm {first second : Table Key Value}
    (rearranged : first.entries.Perm second.entries) {value : Value} :
    value ∈ first.values ↔ value ∈ second.values :=
  (rearranged.map Prod.snd).mem_iff

variable [DecidableEq Key]

theorem search_eq_some {table : Table Key Value} {test : Value → Bool} {value : Value}
    (found : table.search test = some value) :
    (∃ key, table.get? key = some value) ∧ test value = true :=
  ⟨mem_values_iff.mp (List.mem_of_find?_eq_some found), List.find?_some found⟩

theorem search_eq_some_of_unique {table : Table Key Value} {test : Value → Bool} {key : Key}
    {value : Value} (there : table.get? key = some value) (passed : test value = true)
    (unique : ∀ other ∈ table.values, test other = true → other = value) :
    table.search test = some value := by
  cases found : table.search test with
  | none =>
      have failed := List.find?_eq_none.mp found value (mem_values_iff.mpr ⟨key, there⟩)
      exact absurd passed failed
  | some other =>
      rw [unique other (List.mem_of_find?_eq_some found) (List.find?_some found)]

def Single (table : Table Key Value) (test : Value → Bool) : Prop :=
  ∀ one ∈ table.values, ∀ other ∈ table.values, test one = true → test other = true → one = other

/-- If one record passes, the order of the entries plays no part in a search. -/
theorem Single.search_eq {first second : Table Key Value} {test : Value → Bool}
    (single : second.Single test) (rearranged : first.entries.Perm second.entries) :
    first.search test = second.search test := by
  cases found : second.search test with
  | none =>
      apply List.find?_eq_none.mpr
      intro value membership
      exact List.find?_eq_none.mp found value ((mem_values_of_perm rearranged).mp membership)
  | some value =>
      obtain ⟨⟨key, there⟩, passed⟩ := search_eq_some found
      rw [← get?_of_perm rearranged] at there
      apply search_eq_some_of_unique there passed
      intro other membership passedToo
      exact single other ((mem_values_of_perm rearranged).mp membership) value
        (List.mem_of_find?_eq_some found) passedToo passed

/-- If records differ in what is searched for, the order of the entries plays no part in it. -/
theorem search_of_perm {Trait : Type} [DecidableEq Trait] {first second : Table Key Value}
    {trait : Value → Trait} (distinct : (first.values.map trait).Nodup)
    (rearranged : first.entries.Perm second.entries) (wanted : Trait) :
    (first.search fun value => trait value = wanted) =
      second.search fun value => trait value = wanted := by
  have single : first.Single fun value => trait value = wanted := by
    intro one isOne other isOther passed passedToo
    apply List.inj_on_of_nodup_map distinct isOne isOther
    rw [of_decide_eq_true passed, of_decide_eq_true passedToo]
  exact (single.search_eq rearranged.symm).symm

end Search

section Revision

def revise (table : Table Key Value) (change : Key → Value → Value) : Table Key Value where
  entries := table.entries.map fun entry => (entry.1, change entry.1 entry.2)
  distinct := by
    rw [List.map_map]
    exact table.distinct

theorem revise_revise (table : Table Key Value) (first second : Key → Value → Value) :
    (table.revise first).revise second =
      table.revise fun key value => second key (first key value) := by
  apply ext_entries
  simp only [revise, List.map_map, Function.comp_def]

variable [DecidableEq Key]

theorem revise_congr {table : Table Key Value} {first second : Key → Value → Value}
    (same : ∀ key value, table.get? key = some value → first key value = second key value) :
    table.revise first = table.revise second := by
  apply ext_entries
  apply List.map_congr_left
  intro entry membership
  rw [same entry.1 entry.2 (get?_eq_some_iff.mpr membership)]

theorem revise_self {table : Table Key Value} {change : Key → Value → Value}
    (same : ∀ key value, table.get? key = some value → change key value = value) :
    table.revise change = table := by
  rw [revise_congr same]
  apply ext_entries
  exact List.map_id _

theorem put_eq_map {key : Key} {value : Value} {entries : List (Key × Value)}
    (distinct : (entries.map Prod.fst).Nodup) (known : key ∈ entries.map Prod.fst) :
    put key value entries =
      entries.map fun entry => (entry.1, if entry.1 = key then value else entry.2) := by
  induction entries with
  | nil => simp at known
  | cons entry rest inductionHypothesis =>
      obtain ⟨other, old⟩ := entry
      rw [List.map_cons, List.nodup_cons] at distinct
      by_cases here : other = key
      · subst here
        have unchanged : (rest.map fun entry =>
            (entry.1, if entry.1 = other then value else entry.2)) = rest := by
          rw [List.map_congr_left (g := id), List.map_id]
          intro entry membership
          have different : entry.1 ≠ other := fun same =>
            distinct.1 (List.mem_map.mpr ⟨entry, membership, same⟩)
          simp [different]
        rw [List.map_cons, unchanged]
        simp [put]
      · have later : key ∈ rest.map Prod.fst := by
          simpa [Ne.symm here] using known
        simp only [put, here, if_false, List.map_cons, inductionHypothesis distinct.2 later]

theorem insert_eq_revise {table : Table Key Value} {key : Key} (value : Value)
    (known : (table.get? key).isSome = true) :
    table.insert key value = table.revise fun other old => if other = key then value else old := by
  apply ext_entries
  apply put_eq_map table.distinct
  by_contra absent
  rw [← find?_eq_none_iff] at absent
  rw [get?, absent] at known
  contradiction

theorem insert_back {table : Table Key Value} {key : Key} {old : Value}
    (found : table.get? key = some old) (value : Value) :
    (table.insert key value).insert key old = table := by
  have known : (table.get? key).isSome = true := by rw [found]; rfl
  rw [insert_eq_revise old (isSome_get?_insert value known), insert_eq_revise value known,
    revise_revise]
  apply revise_self
  intro other value there
  by_cases here : other = key
  · subst here
    rw [if_pos rfl]
    exact Option.some.inj (found.symm.trans there)
  · rw [if_neg here, if_neg here]

end Revision

end GameCatalog.Table
