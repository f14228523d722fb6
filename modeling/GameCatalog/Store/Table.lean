/-!
Tables: finite maps from keys to records, kept as the list of their entries in the
order in which the keys were first put in.  No key stands twice, which the type
itself guarantees, so looking a key up, replacing its record and walking over all
entries agree with each other.

The order stands for the one in which a hash map is walked, which differs from load to
load.  What a lookup finds does not depend on it; where a walk or a search may, the theory
takes the entries in every order, or asks that they differ in what is searched for.
-/

namespace GameCatalog

structure Table (Key Value : Type) where
  entries : List (Key × Value)
  distinct : (entries.map Prod.fst).Nodup

namespace Table

variable {Key Value : Type}

/-- The table without entries. -/
def empty : Table Key Value := ⟨[], by simp⟩

instance : Inhabited (Table Key Value) := ⟨empty⟩

instance [DecidableEq Key] [DecidableEq Value] : DecidableEq (Table Key Value) :=
  fun first second =>
    if same : first.entries = second.entries then
      isTrue (by cases first; cases second; cases same; rfl)
    else isFalse fun equal => same (by rw [equal])

def keys (table : Table Key Value) : List Key := table.entries.map Prod.fst

def values (table : Table Key Value) : List Value := table.entries.map Prod.snd

def size (table : Table Key Value) : Nat := table.entries.length

section Entries

variable [DecidableEq Key]

def find? (key : Key) : List (Key × Value) → Option Value
  | [] => none
  | (other, value) :: rest => if other = key then some value else find? key rest

/-- A list of entries with a record put under a key, in place of the old one if there is one. -/
def put (key : Key) (value : Value) : List (Key × Value) → List (Key × Value)
  | [] => [(key, value)]
  | (other, old) :: rest =>
      if other = key then (key, value) :: rest else (other, old) :: put key value rest

theorem map_fst_put (key : Key) (value : Value) (entries : List (Key × Value)) :
    (put key value entries).map Prod.fst =
      if key ∈ entries.map Prod.fst then entries.map Prod.fst
      else entries.map Prod.fst ++ [key] := by
  induction entries with
  | nil => rfl
  | cons entry rest inductionHypothesis =>
      obtain ⟨other, old⟩ := entry
      by_cases same : other = key
      · subst same
        simp [put]
      · have different : key ≠ other := fun equal => same equal.symm
        simp only [put, same, if_false, List.map_cons, inductionHypothesis, List.mem_cons,
          different, false_or]
        split <;> simp

theorem nodup_put {key : Key} {value : Value} {entries : List (Key × Value)}
    (distinct : (entries.map Prod.fst).Nodup) :
    ((put key value entries).map Prod.fst).Nodup := by
  rw [map_fst_put]
  split
  · exact distinct
  · rename_i absent
    rw [List.nodup_append]
    refine ⟨distinct, by simp, ?_⟩
    intro first isFirst second isSecond equal
    rw [List.mem_singleton] at isSecond
    exact absent (isSecond ▸ equal ▸ isFirst)

theorem find?_put (key other : Key) (value : Value) (entries : List (Key × Value)) :
    find? other (put key value entries) =
      if key = other then some value else find? other entries := by
  induction entries with
  | nil => simp [put, find?]
  | cons entry rest inductionHypothesis =>
      obtain ⟨first, old⟩ := entry
      by_cases same : first = key
      · subst same
        simp only [put, if_true, find?]
        split <;> rfl
      · simp only [put, same, if_false, find?, inductionHypothesis]
        by_cases found : first = other
        · have different : ¬key = other := fun equal => same (found.trans equal.symm)
          simp [found, different]
        · simp [found]

end Entries

variable [DecidableEq Key]

def get? (table : Table Key Value) (key : Key) : Option Value :=
  find? key table.entries

def insert (table : Table Key Value) (key : Key) (value : Value) : Table Key Value :=
  ⟨put key value table.entries, nodup_put table.distinct⟩

/-- The table of a list of entries; of several entries under one key the last one counts. -/
def ofList (entries : List (Key × Value)) : Table Key Value :=
  entries.foldl (fun table entry => table.insert entry.1 entry.2) empty

def filter (table : Table Key Value) (test : Value → Bool) : Table Key Value where
  entries := table.entries.filter fun entry => test entry.2
  distinct := table.distinct.sublist (List.filter_sublist.map Prod.fst)

/-- The first record that passes a test. -/
def search (table : Table Key Value) (test : Value → Bool) : Option Value :=
  table.values.find? test

@[simp]
theorem get?_empty (key : Key) : (empty : Table Key Value).get? key = none := rfl

@[simp]
theorem get?_insert (table : Table Key Value) (key other : Key) (value : Value) :
    (table.insert key value).get? other = if key = other then some value else table.get? other :=
  find?_put key other value table.entries

end Table

end GameCatalog
