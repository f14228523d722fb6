import GameCatalog.Proofs.Store.Table
import GameCatalog.Store.Mutation

/-!
What a commit does to the store.  A commit that succeeds leaves the changed document in
memory and on the disk; one that fails leaves both as they were, except that the disk may
now hold a temporary file.
-/

namespace GameCatalog.Store

variable {Result : Type}

def written (store : Store) (next : Document) : Store where
  live := next
  disk := {
    store.disk with
    entry := .file ⟨Utf8.encode next.render, Disk.ownerOnly⟩
    leftover := none }

def facing (store : Store) (refusal : Option Refusal) : Store :=
  { store with disk := { store.disk with refusal } }

/-- The second store differs from the first one in the temporary file at most. -/
def Untouched (before after : Store) : Prop :=
  ∃ leftover, after = { before with disk := { before.disk with leftover } }

namespace Untouched

@[simp]
theorem refl (store : Store) : store.Untouched store :=
  ⟨store.disk.leftover, rfl⟩

theorem live {before after : Store} (untouched : before.Untouched after) :
    after.live = before.live := by
  obtain ⟨leftover, rfl⟩ := untouched
  rfl

theorem entry {before after : Store} (untouched : before.Untouched after) :
    after.disk.entry = before.disk.entry := by
  obtain ⟨leftover, rfl⟩ := untouched
  rfl

end Untouched

@[simp]
theorem written_live (store : Store) (next : Document) : (store.written next).live = next := rfl

@[simp]
theorem written_entry (store : Store) (next : Document) :
    (store.written next).disk.entry = .file ⟨Utf8.encode next.render, Disk.ownerOnly⟩ := rfl

@[simp]
theorem written_leftover (store : Store) (next : Document) :
    (store.written next).disk.leftover = none := rfl

theorem accepts_written {store : Store} (accepts : store.disk.refusal? = none) (next : Document) :
    (store.written next).disk.refusal? = none := by
  unfold Disk.refusal? at accepts ⊢
  split at accepts
  · contradiction
  · rename_i none_
    simp only [written, none_]
    split at accepts
    · contradiction
    · rename_i reachable
      rw [if_neg reachable]
      rfl

theorem replace_of_accepts {store : Store} (accepts : store.disk.refusal? = none)
    (next : Document) : store.replace next = (.ok (), store.written next) := by
  simp [replace, writeDocument, Disk.write, accepts, written]

theorem replace_of_refuses {store : Store} {refusal : Refusal}
    (refuses : store.disk.refusal? = some refusal) (next : Document) :
    ∃ after, store.replace next = (.error (.io refusal.describe), after) ∧
      store.Untouched after := by
  cases step : refusal.step <;>
    simp only [replace, writeDocument, Disk.write, refuses, step, Prod.mk.injEq, true_and,
      exists_eq_left']
  · exact ⟨store.disk.leftover, rfl⟩
  · exact ⟨store.disk.leftover, rfl⟩
  · exact ⟨some (Utf8.encode next.render), rfl⟩
  · exact ⟨some (Utf8.encode next.render), rfl⟩

theorem replace_cases (store : Store) (next : Document) :
    (store.disk.refusal? = none ∧ store.replace next = (.ok (), store.written next)) ∨
    ∃ refusal after, store.disk.refusal? = some refusal ∧
      store.replace next = (.error (.io refusal.describe), after) ∧ store.Untouched after := by
  cases refused : store.disk.refusal? with
  | none => exact .inl ⟨rfl, replace_of_accepts refused next⟩
  | some refusal =>
      obtain ⟨after, replaced, untouched⟩ := replace_of_refuses refused next
      exact .inr ⟨refusal, after, rfl, replaced, untouched⟩

theorem commit_of_accepts {store : Store} {change : Change Result} {result : Result}
    {next : Document} (changed : change store.live = .ok (result, next))
    (accepts : store.disk.refusal? = none) :
    store.commit change = (.ok result, store.written next) := by
  simp only [commit, changed, replace_of_accepts accepts]

theorem commit_of_error {store : Store} {change : Change Result} {error : StoreError}
    (failed : change store.live = .error error) :
    store.commit change = (.error error, store) := by
  simp only [commit, failed]

theorem commit_of_refuses {store : Store} {change : Change Result} {result : Result}
    {next : Document} {refusal : Refusal} (changed : change store.live = .ok (result, next))
    (refuses : store.disk.refusal? = some refusal) :
    ∃ after, store.commit change = (.error (.io refusal.describe), after) ∧
      store.Untouched after := by
  obtain ⟨after, replaced, untouched⟩ := replace_of_refuses refuses next
  exact ⟨after, by simp only [commit, changed, replaced], untouched⟩

/-- A write that was refused is refused again, and leaves behind what it left behind before. -/
theorem replace_again_of_error {store after : Store} {next : Document} {error : StoreError}
    (failed : store.replace next = (.error error, after)) :
    after.replace next = (.error error, after) := by
  rcases replace_cases store next with ⟨-, replaced⟩ | ⟨refusal, _, refuses, -, untouched⟩
  · exact nomatch replaced.symm.trans failed
  · cases step : refusal.step <;>
      simp only [replace, writeDocument, Disk.write, refuses, step, Prod.mk.injEq,
        Except.error.injEq] at failed <;>
      obtain ⟨rfl, rfl⟩ := failed
    · simp only [replace, writeDocument, Disk.write, refuses, step]
    · simp only [replace, writeDocument, Disk.write, refuses, step]
    · have refusesAgain : Disk.refusal? { store.disk with
          leftover := some (Utf8.encode next.render) } = some refusal := refuses
      simp only [replace, writeDocument, Disk.write, refusesAgain, step]
    · have refusesAgain : Disk.refusal? { store.disk with
          leftover := some (Utf8.encode next.render) } = some refusal := refuses
      simp only [replace, writeDocument, Disk.write, refusesAgain, step]

theorem commit_again_of_error {Result : Type} {store after : Store} {change : Change Result}
    {error : StoreError} (failed : store.commit change = (.error error, after)) :
    after.commit change = (.error error, after) := by
  cases changed : change store.live with
  | error fault =>
      rw [commit_of_error changed] at failed
      cases failed
      exact commit_of_error changed
  | ok pair =>
      obtain ⟨result, next⟩ := pair
      rcases replace_cases store next with ⟨-, replaced⟩ | ⟨refusal, later, -, replaced, untouched⟩
      · simp only [commit, changed, replaced] at failed
        exact nomatch failed
      · simp only [commit, changed, replaced, Prod.mk.injEq, Except.error.injEq] at failed
        obtain ⟨rfl, rfl⟩ := failed
        have changedAgain : change later.live = .ok (result, next) := by
          rw [untouched.live, changed]
        simp only [commit, changedAgain, replace_again_of_error replaced]

/-- A commit writes the changed document, or fails and touches nothing. -/
theorem commit_cases (store : Store) (change : Change Result) :
    (∃ result next, change store.live = .ok (result, next) ∧ store.disk.refusal? = none ∧
      store.commit change = (.ok result, store.written next)) ∨
    ∃ error after, store.commit change = (.error error, after) ∧ store.Untouched after := by
  cases changed : change store.live with
  | error error => exact .inr ⟨error, store, commit_of_error changed, .refl store⟩
  | ok pair =>
      obtain ⟨result, next⟩ := pair
      cases refused : store.disk.refusal? with
      | none => exact .inl ⟨result, next, rfl, rfl, commit_of_accepts changed refused⟩
      | some refusal =>
          obtain ⟨after, failed, untouched⟩ := commit_of_refuses changed refused
          exact .inr ⟨.io refusal.describe, after, failed, untouched⟩

theorem commitTotal_of_accepts {store : Store} (accepts : store.disk.refusal? = none)
    (change : Document → Document) :
    store.commitTotal change = (.ok (), store.written (change store.live)) :=
  commit_of_accepts rfl accepts

theorem commitTotal_of_refuses {store : Store} {refusal : Refusal}
    (refuses : store.disk.refusal? = some refusal) (change : Document → Document) :
    ∃ after, store.commitTotal change = (.error (.io refusal.describe), after) ∧
      store.Untouched after :=
  commit_of_refuses rfl refuses

theorem commitTotal_cases (store : Store) (change : Document → Document) :
    (store.disk.refusal? = none ∧
      store.commitTotal change = (.ok (), store.written (change store.live))) ∨
    ∃ error after, store.commitTotal change = (.error error, after) ∧ store.Untouched after := by
  rcases commit_cases store fun document => .ok ((), change document) with
    ⟨result, next, changed, accepts, committed⟩ | failed
  · cases changed
    exact .inl ⟨accepts, committed⟩
  · exact .inr failed

/-- A sweep finds nothing to take out, or takes it out, or fails and touches nothing. -/
theorem deleteExpiredSessions_cases (store : Store) (now : Instant) :
    let swept := store.live.dropExpiredSessions now
    let removed := store.live.launcherSessions.size - swept.launcherSessions.size
    (removed = 0 ∧ store.deleteExpiredSessions now = (.ok 0, store)) ∨
    (removed ≠ 0 ∧ store.deleteExpiredSessions now = (.ok removed, store.written swept)) ∨
    ∃ error after, store.deleteExpiredSessions now = (.error error, after) ∧
      store.Untouched after := by
  unfold deleteExpiredSessions
  dsimp only
  by_cases nothing : store.live.launcherSessions.size -
      (store.live.dropExpiredSessions now).launcherSessions.size = 0
  · exact .inl ⟨nothing, if_pos nothing⟩
  · rw [if_neg nothing]
    rcases replace_cases store (store.live.dropExpiredSessions now) with
      ⟨-, replaced⟩ | ⟨refusal, after, -, replaced, untouched⟩
    · rw [replaced]
      exact .inr (.inl ⟨nothing, rfl⟩)
    · rw [replaced]
      exact .inr (.inr ⟨_, after, rfl, untouched⟩)

end GameCatalog.Store
