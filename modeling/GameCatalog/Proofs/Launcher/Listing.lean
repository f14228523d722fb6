import GameCatalog.Proofs.Launcher.Outcome

/-!
Lists of product keys.  They are sorted by time, and within one instant by identifier; so keys
that are put into the document are merged into the list of their edition, and the lists of other
editions stay as they are.
-/

namespace GameCatalog

namespace Sorting

variable {Value : Type} {before : Value → Value → Bool}
  (trans : ∀ first second third,
    before first second = true → before second third = true → before first third = true)
  (total : ∀ first second, (before first second || before second first) = true)
include trans total

/-- A value may be put into the first of two lists, or into what they are merged to. -/
theorem merge_singleton_merge (value : Value) (left right : List Value) :
    ([value].merge left before).merge right before =
      [value].merge (left.merge right before) before := by
  induction left generalizing right with
  | nil => simp
  | cons first left inductionLeft =>
      induction right with
      | nil => simp
      | cons second right inductionRight =>
          by_cases front : before value first = true
          · have put : [value].merge (first :: left) before = value :: first :: left := by
              simp [front]
            rw [put] at inductionRight ⊢
            by_cases ordered : before first second = true
            · have frontToo := trans value first second front ordered
              simp [front, ordered, frontToo]
            · by_cases frontToo : before value second = true
              · simp [ordered, frontToo]
              · simp [ordered, frontToo, inductionRight]
          · have put : [value].merge (first :: left) before =
                first :: [value].merge left before := by
              simp [front]
            rw [put] at inductionRight ⊢
            by_cases ordered : before first second = true
            · simp [front, ordered, inductionLeft]
            · -- the second list comes first, so the value does not come before it
              have back : before value second ≠ true := by
                intro ahead
                have turned := total first second
                simp only [ordered, Bool.false_or] at turned
                exact front (trans value second first ahead turned)
              simp [ordered, back, inductionRight]

theorem mergeSort_cons_eq_merge (value : Value) (list : List Value) :
    (value :: list).mergeSort before = [value].merge (list.mergeSort before) before := by
  obtain ⟨left, right, sorted, rest, behind⟩ := List.mergeSort_cons trans total value list
  have ordered := List.pairwise_mergeSort trans total (value :: list)
  rw [sorted] at ordered
  rw [sorted, rest]
  clear sorted rest
  induction left with
  | nil =>
      cases right with
      | nil => simp
      | cons next right =>
          have front : before value next = true := (List.pairwise_cons.mp ordered).1 next (by simp)
          simp [front]
  | cons first left inductionHypothesis =>
      obtain ⟨back, behind⟩ := List.forall_mem_cons.mp behind
      have inserted := inductionHypothesis behind (List.pairwise_cons.mp ordered).2
      simp only [Bool.not_eq_true'] at back
      simp [back, inserted]

/-- Two lists are sorted together by sorting each of them and merging what comes out. -/
theorem mergeSort_append (left right : List Value) :
    (left ++ right).mergeSort before =
      (left.mergeSort before).merge (right.mergeSort before) before := by
  induction left with
  | nil => simp
  | cons value left inductionHypothesis =>
      rw [List.cons_append, mergeSort_cons_eq_merge trans total,
        mergeSort_cons_eq_merge trans total value left, inductionHypothesis,
        merge_singleton_merge trans total]

theorem mergeSort_eq_of_perm {first second : List Value} (rearranged : first.Perm second)
    (strict : ∀ value ∈ first, ∀ other ∈ first,
      before value other = true → before other value = true → value = other) :
    first.mergeSort before = second.mergeSort before := by
  have sorted : (first.mergeSort before).Perm (second.mergeSort before) :=
    (List.mergeSort_perm _ _).trans (rearranged.trans (List.mergeSort_perm _ _).symm)
  apply sorted.eq_of_pairwise _ (List.pairwise_mergeSort trans total _)
    (List.pairwise_mergeSort trans total _)
  intro value other inFirst inSecond
  apply strict value (List.mem_mergeSort.mp inFirst) other
  exact rearranged.mem_iff.mpr (List.mem_mergeSort.mp inSecond)

end Sorting

namespace Document

/-- The first key is not listed behind the second one. -/
def inOrder (first second : ProductKey) : Bool := !keyPrecedes second first

theorem inOrder_iff {first second : ProductKey} :
    inOrder first second = true ↔ first.createdAt < second.createdAt ∨
      first.createdAt = second.createdAt ∧ first.id.number ≤ second.id.number := by
  unfold inOrder keyPrecedes Id.precedes
  simp only [Bool.not_eq_true', Bool.or_eq_false_iff, Bool.and_eq_false_iff,
    decide_eq_false_iff_not, beq_eq_false_iff_ne, UInt64.lt_iff_toNat_lt, BitVec.le_def, ne_eq,
    ← UInt64.toNat_inj]
  omega

theorem inOrder_total (first second : ProductKey) :
    (inOrder first second || inOrder second first) = true := by
  rw [Bool.or_eq_true, inOrder_iff, inOrder_iff]
  simp only [UInt64.lt_iff_toNat_lt, ← UInt64.toNat_inj, BitVec.le_def]
  omega

theorem inOrder_trans (first second third : ProductKey) (earlier : inOrder first second = true)
    (later : inOrder second third = true) : inOrder first third = true := by
  rw [inOrder_iff] at earlier later ⊢
  simp only [UInt64.lt_iff_toNat_lt, ← UInt64.toNat_inj, BitVec.le_def] at earlier later ⊢
  omega

variable {document : Document} {edition : EditionId} {keys : List ProductKey}

theorem values_insertProductKeys (fresh : document.productKeys.Fresh (keys.map ProductKey.id)) :
    (document.insertProductKeys edition keys).productKeys.values =
      document.productKeys.values ++ keys.map (⟨edition, ·⟩) := by
  unfold Table.values
  rw [Launcher.entries_insertProductKeys fresh, List.map_append, List.map_map]
  rfl

theorem listProductKeys_insertProductKeys
    (fresh : document.productKeys.Fresh (keys.map ProductKey.id)) (statuses : List KeyStatus) :
    (document.insertProductKeys edition keys).listProductKeys edition statuses =
      (document.listProductKeys edition statuses).merge
        ((keys.filter fun key => statuses.contains key.status).mergeSort inOrder) inOrder := by
  have shown : ((keys.map (StoredKey.mk edition)).filter fun stored =>
      stored.edition = edition && statuses.contains stored.productKey.status).map
        StoredKey.productKey = keys.filter fun key => statuses.contains key.status := by
    simp [List.filter_map, Function.comp_def]
  unfold listProductKeys
  rw [values_insertProductKeys fresh, List.filter_append, List.map_append, shown]
  exact Sorting.mergeSort_append inOrder_trans inOrder_total _ _

theorem listProductKeys_insertProductKeys_of_ne {other : EditionId} (different : other ≠ edition)
    (fresh : document.productKeys.Fresh (keys.map ProductKey.id)) (statuses : List KeyStatus) :
    (document.insertProductKeys edition keys).listProductKeys other statuses =
      document.listProductKeys other statuses := by
  have hidden : (keys.map (StoredKey.mk edition)).filter (fun stored =>
      stored.edition = other && statuses.contains stored.productKey.status) = [] := by
    simp [List.filter_map, different.symm]
  unfold listProductKeys
  rw [values_insertProductKeys fresh, List.filter_append, hidden, List.append_nil]

end Document

namespace Launcher

open Job

variable {edition : EditionId} {status : Option KeyStatus}

def shown : Option KeyStatus → List KeyStatus
  | some status => [status]
  | none => [.active, .inactive]

theorem contains_shown (status : Option KeyStatus) (key : ProductKey) :
    (shown status).contains key.status = status.all (· = key.status) := by
  cases status with
  | none => cases key.status <;> rfl
  | some status => cases status <;> cases key.status <;> rfl

theorem exec_listKeys (world : World) :
    (exec (listKeys edition status) world).1 =
      match (world.repository.getEdition edition).mapError .ofStore with
      | .error error => .error error
      | .ok none => .error (.invalidEdition edition)
      | .ok (some _) =>
          (world.repository.listProductKeys edition (shown status)).mapError .ofStore := by
  unfold listKeys
  rw [exec_bind, exec_ask]
  cases (world.repository.getEdition edition).mapError LauncherError.ofStore with
  | error error => rfl
  | ok found =>
      cases found with
      | none => cases status <;> rfl
      | some record => cases status <;> simp [shown]

theorem exec_listKeys_of_works {world : World} (reads : world.faults .getEdition = none)
    (lists : world.faults .listProductKeys = none)
    (known : (world.store.live.editions.get? edition).isSome = true) :
    (exec (listKeys edition status) world).1 =
      .ok (world.store.live.listProductKeys edition (shown status)) := by
  obtain ⟨record, known⟩ := Option.isSome_iff_exists.mp known
  rw [exec_listKeys]
  simp [Repository.getEdition, Repository.listProductKeys, Repository.answer, World.repository,
    reads, lists, known, Except.mapError]

theorem listKeys_congr {first second : World} (faults : first.faults = second.faults)
    (editions : first.store.live.editions = second.store.live.editions)
    (lists : first.store.live.listProductKeys edition (shown status) =
      second.store.live.listProductKeys edition (shown status)) :
    (exec (listKeys edition status) first).1 = (exec (listKeys edition status) second).1 := by
  rw [exec_listKeys, exec_listKeys]
  unfold Repository.getEdition Repository.listProductKeys Repository.answer World.repository
  dsimp only
  rw [faults, editions, lists]

end Launcher

end GameCatalog
