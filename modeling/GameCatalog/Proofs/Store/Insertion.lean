import GameCatalog.Proofs.Store.Table

/-!
Putting several records into a table.  Under a key stands the last record that was put in there,
or the one that stood there before, and the keys that are new follow the old ones.  So where two
lists of records have no key in common, it makes no difference which of them is put in first,
except that the new records of one list stand in front of those of the other.
-/

namespace GameCatalog.Table

variable {Key Value : Type} {first second : List (Key × Value)}

section Gathering

/-- The records that a lookup finds under some keys, each with its key. -/
def gather (lookup : Key → Option Value) (keys : List Key) : List (Key × Value) :=
  keys.filterMap fun key => (lookup key).map (Prod.mk key)

theorem gather_append (lookup : Key → Option Value) (front back : List Key) :
    gather lookup (front ++ back) = gather lookup front ++ gather lookup back :=
  List.filterMap_append

theorem mem_gather {lookup : Key → Option Value} {keys : List Key} {entry : Key × Value}
    (membership : entry ∈ gather lookup keys) :
    entry.1 ∈ keys ∧ lookup entry.1 = some entry.2 := by
  obtain ⟨key, there, found⟩ := List.mem_filterMap.mp membership
  obtain ⟨value, foundValue, rfl⟩ := Option.map_eq_some_iff.mp found
  exact ⟨there, foundValue⟩

end Gathering

variable [DecidableEq Key]

section Lookup

theorem insertAll_cons (table : Table Key Value) (entry : Key × Value)
    (added : List (Key × Value)) :
    table.insertAll (entry :: added) = (table.insert entry.1 entry.2).insertAll added := rfl

theorem get?_insertAll (table : Table Key Value) (added : List (Key × Value)) (key : Key) :
    (table.insertAll added).get? key = ((ofList added).get? key).or (table.get? key) := by
  induction added generalizing table with
  | nil => rfl
  | cons entry added inductionHypothesis =>
      have separate : ofList (entry :: added) =
          ((empty : Table Key Value).insert entry.1 entry.2).insertAll added := rfl
      rw [insertAll_cons, separate, inductionHypothesis, inductionHypothesis, Option.or_assoc,
        get?_insert, get?_insert]
      split <;> rfl

theorem mem_of_get?_insertAll {table : Table Key Value} {added : List (Key × Value)} {key : Key}
    {value : Value} (found : (table.insertAll added).get? key = some value) :
    (key, value) ∈ added ∨ table.get? key = some value := by
  induction added generalizing table with
  | nil => exact .inr found
  | cons entry added inductionHypothesis =>
      rcases inductionHypothesis found with membership | found
      · exact .inl (List.mem_cons_of_mem _ membership)
      · rw [get?_insert] at found
        split at found
        · rename_i here
          cases found
          exact .inl (here ▸ List.mem_cons_self)
        · exact .inr found

theorem mem_of_get?_ofList {added : List (Key × Value)} {key : Key} {value : Value}
    (found : (ofList added).get? key = some value) : (key, value) ∈ added := by
  rcases mem_of_get?_insertAll found with membership | foundInEmpty
  · exact membership
  · exact nomatch foundInEmpty

theorem get?_ofList_apart (apart : (first.map Prod.fst).Disjoint (second.map Prod.fst))
    (key : Key) : (ofList first).get? key = none ∨ (ofList second).get? key = none := by
  cases inFirst : (ofList first).get? key with
  | none => exact .inl rfl
  | some value =>
      cases inSecond : (ofList second).get? key with
      | none => exact .inr rfl
      | some other =>
          have keyOfFirst := List.mem_map_of_mem (f := Prod.fst) (mem_of_get?_ofList inFirst)
          have keyOfSecond := List.mem_map_of_mem (f := Prod.fst) (mem_of_get?_ofList inSecond)
          exact absurd keyOfSecond (apart keyOfFirst)

theorem or_comm_of_apart {one other : Option Value} (apart : one = none ∨ other = none) :
    one.or other = other.or one := by
  rcases apart with rfl | rfl
  · exact Option.or_none.symm
  · exact Option.or_none

theorem get?_insertAll_comm (apart : (first.map Prod.fst).Disjoint (second.map Prod.fst))
    (table : Table Key Value) :
    ((table.insertAll first).insertAll second).get? =
      ((table.insertAll second).insertAll first).get? := by
  funext key
  rw [get?_insertAll, get?_insertAll, get?_insertAll, get?_insertAll, ← Option.or_assoc,
    ← Option.or_assoc, or_comm_of_apart (get?_ofList_apart apart key)]

end Lookup

section Order

def newKeys (known : List Key) : List Key → List Key
  | [] => []
  | key :: keys =>
      if key ∈ known then newKeys known keys else key :: newKeys (known ++ [key]) keys

theorem mem_newKeys {known keys : List Key} {key : Key} (membership : key ∈ newKeys known keys) :
    key ∈ keys ∧ key ∉ known := by
  induction keys generalizing known with
  | nil => exact nomatch membership
  | cons next keys inductionHypothesis =>
      unfold newKeys at membership
      split at membership
      · obtain ⟨there, new⟩ := inductionHypothesis membership
        exact ⟨List.mem_cons_of_mem _ there, new⟩
      · rename_i unknown
        rcases List.mem_cons.mp membership with rfl | later
        · exact ⟨List.mem_cons_self, unknown⟩
        · obtain ⟨there, new⟩ := inductionHypothesis later
          exact ⟨List.mem_cons_of_mem _ there, fun old => new (List.mem_append_left _ old)⟩

theorem newKeys_congr {known others keys : List Key}
    (same : ∀ key ∈ keys, key ∈ known ↔ key ∈ others) :
    newKeys known keys = newKeys others keys := by
  induction keys generalizing known others with
  | nil => rfl
  | cons next keys inductionHypothesis =>
      have sameNext := same next List.mem_cons_self
      have sameRest : ∀ key ∈ keys, key ∈ known ↔ key ∈ others :=
        fun key membership => same key (List.mem_cons_of_mem _ membership)
      unfold newKeys
      by_cases old : next ∈ known
      · rw [if_pos old, if_pos (sameNext.mp old), inductionHypothesis sameRest]
      · rw [if_neg old, if_neg (fun oldToo => old (sameNext.mpr oldToo))]
        congr 1
        apply inductionHypothesis
        intro key membership
        rw [List.mem_append, List.mem_append, sameRest key membership]

theorem keys_insertAll (table : Table Key Value) (added : List (Key × Value)) :
    (table.insertAll added).keys = table.keys ++ newKeys table.keys (added.map Prod.fst) := by
  induction added generalizing table with
  | nil => exact (List.append_nil _).symm
  | cons entry added inductionHypothesis =>
      have one : (table.insert entry.1 entry.2).keys =
          if entry.1 ∈ table.keys then table.keys else table.keys ++ [entry.1] :=
        map_fst_put entry.1 entry.2 table.entries
      rw [insertAll_cons, inductionHypothesis, one, List.map_cons, newKeys]
      split
      · rfl
      · rw [List.append_assoc]
        rfl

theorem entries_eq_gather (table : Table Key Value) :
    table.entries = gather table.get? table.keys := by
  unfold gather keys
  rw [List.filterMap_map]
  have found : ∀ entry ∈ table.entries,
      ((fun key => (table.get? key).map (Prod.mk key)) ∘ Prod.fst) entry = some entry := by
    intro entry membership
    rw [Function.comp_apply, get?_eq_some_iff.mpr membership]
    rfl
  rw [List.filterMap_congr found, List.filterMap_some]

theorem keys_insertAll_insertAll (apart : (first.map Prod.fst).Disjoint (second.map Prod.fst))
    (table : Table Key Value) :
    ((table.insertAll first).insertAll second).keys =
      table.keys ++ (newKeys table.keys (first.map Prod.fst) ++
        newKeys table.keys (second.map Prod.fst)) := by
  rw [keys_insertAll, keys_insertAll, List.append_assoc]
  congr 2
  apply newKeys_congr
  intro key inSecond
  rw [List.mem_append, or_iff_left]
  intro new
  exact apart (mem_newKeys new).1 inSecond

/-- A record that is gathered under a new key of the first list comes from this list. -/
theorem mem_of_mem_gather_newKeys
    (apart : (first.map Prod.fst).Disjoint (second.map Prod.fst)) {table : Table Key Value}
    {entry : Key × Value}
    (membership : entry ∈ gather ((table.insertAll first).insertAll second).get?
      (newKeys table.keys (first.map Prod.fst))) :
    entry ∈ first ∧ table.get? entry.1 = none := by
  obtain ⟨new, found⟩ := mem_gather membership
  obtain ⟨inFirst, unknown⟩ := mem_newKeys new
  have absent := get?_eq_none_iff.mpr unknown
  refine ⟨?_, absent⟩
  rcases mem_of_get?_insertAll found with inSecond | foundEarlier
  · exact absurd (List.mem_map_of_mem inSecond) (apart inFirst)
  · rcases mem_of_get?_insertAll foundEarlier with there | foundBefore
    · exact there
    · exact nomatch absent.symm.trans foundBefore

/-- Records that are put in first stand in front of those that are put in later. -/
theorem exists_entries_insertAll_insertAll
    (apart : (first.map Prod.fst).Disjoint (second.map Prod.fst)) (table : Table Key Value) :
    ∃ old left right,
      ((table.insertAll first).insertAll second).entries = old ++ (left ++ right) ∧
      ((table.insertAll second).insertAll first).entries = old ++ (right ++ left) ∧
      (∀ entry ∈ left, entry ∈ first ∧ table.get? entry.1 = none) ∧
      ∀ entry ∈ right, entry ∈ second ∧ table.get? entry.1 = none := by
  have apartToo := List.disjoint_symm apart
  have sameLookup := get?_insertAll_comm apart table
  let lookup := ((table.insertAll first).insertAll second).get?
  refine ⟨gather lookup table.keys, gather lookup (newKeys table.keys (first.map Prod.fst)),
    gather lookup (newKeys table.keys (second.map Prod.fst)), ?_, ?_,
    fun entry => mem_of_mem_gather_newKeys apart, ?_⟩
  · rw [entries_eq_gather, keys_insertAll_insertAll apart, gather_append, gather_append]
  · rw [entries_eq_gather, ← sameLookup, keys_insertAll_insertAll apartToo, gather_append,
      gather_append]
  · intro entry
    simp only [lookup, sameLookup]
    exact mem_of_mem_gather_newKeys apartToo

/-- A search that a new record of only one list can pass finds the same in either order. -/
theorem search_insertAll_comm (apart : (first.map Prod.fst).Disjoint (second.map Prod.fst))
    {table : Table Key Value} {test : Value → Bool}
    (single : ∀ entry ∈ first, table.get? entry.1 = none → test entry.2 = true →
      ∀ other ∈ second, table.get? other.1 = none → test other.2 = false) :
    ((table.insertAll first).insertAll second).search test =
      ((table.insertAll second).insertAll first).search test := by
  obtain ⟨old, left, right, inOrder, turned, fromFirst, fromSecond⟩ :=
    exists_entries_insertAll_insertAll apart table
  unfold search values
  rw [inOrder, turned]
  simp only [List.map_append, List.find?_append]
  congr 1
  apply or_comm_of_apart
  by_contra both
  obtain ⟨someLeft, someRight⟩ := not_or.mp both
  obtain ⟨value, foundLeft⟩ := Option.ne_none_iff_exists'.mp someLeft
  obtain ⟨other, foundRight⟩ := Option.ne_none_iff_exists'.mp someRight
  obtain ⟨entry, inLeft, rfl⟩ := List.mem_map.mp (List.mem_of_find?_eq_some foundLeft)
  obtain ⟨entryToo, inRight, rfl⟩ := List.mem_map.mp (List.mem_of_find?_eq_some foundRight)
  obtain ⟨inFirst, newFirst⟩ := fromFirst entry inLeft
  obtain ⟨inSecond, newSecond⟩ := fromSecond entryToo inRight
  have failed := single entry inFirst newFirst (List.find?_some foundLeft)
    entryToo inSecond newSecond
  exact absurd (List.find?_some foundRight) (Bool.eq_false_iff.mp failed)

end Order

end GameCatalog.Table
