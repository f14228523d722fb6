import GameCatalog.Proofs.Access.LauncherPolicy
import GameCatalog.Proofs.Launcher.Lifecycle

/-!
Sweeping.  A sweep takes out the sessions that are over, counts them, and writes only if there
is one; a sweep that fails takes out none.  Two sweeps do what one sweep at the later of their
times does.  Whoever shows a token never notices a sweep, except that a session which was over
is unknown from then on.
-/

namespace GameCatalog

theorem Instant.max_eq (first second : Instant) :
    max first second = if first ≤ second then second else first := rfl

theorem Instant.max_comm (first second : Instant) : max first second = max second first := by
  rw [max_eq, max_eq]
  apply UInt64.toNat_inj.mp
  simp only [UInt64.le_iff_toNat_le]
  split <;> split <;> omega

theorem LauncherSession.isExpiredAt_max (session : LauncherSession) (first second : Instant) :
    session.isExpiredAt (max first second) =
      (session.isExpiredAt first || session.isExpiredAt second) := by
  rw [Instant.max_eq, Bool.eq_iff_iff]
  simp only [isExpiredAt, Bool.or_eq_true, decide_eq_true_eq, UInt64.le_iff_toNat_le]
  split <;> omega

namespace Document

variable (document : Document) (now first second : Instant)

def countExpired : Nat :=
  document.launcherSessions.values.countP fun stored => stored.session.isExpiredAt now

theorem size_sub_size_dropExpiredSessions :
    document.launcherSessions.size - (document.dropExpiredSessions now).launcherSessions.size =
      document.countExpired now := by
  have parted := List.length_eq_countP_add_countP
    (fun stored : StoredSession => stored.session.isExpiredAt now)
    (l := document.launcherSessions.values)
  simp only [Bool.not_eq_true, ← Bool.not_eq_true', Bool.decide_eq_true] at parted
  rw [← Table.length_values, ← Table.length_values, dropExpiredSessions, Table.values_filter,
    ← List.countP_eq_length_filter, countExpired]
  omega

variable {document now} in
theorem dropExpiredSessions_of_countExpired (nothing : document.countExpired now = 0) :
    document.dropExpiredSessions now = document := by
  unfold dropExpiredSessions
  rw [Table.filter_eq_self]
  intro stored membership
  simpa using List.countP_eq_zero.mp nothing stored membership

theorem dropExpiredSessions_dropExpiredSessions :
    (document.dropExpiredSessions first).dropExpiredSessions second =
      document.dropExpiredSessions (max first second) := by
  simp only [dropExpiredSessions, Table.filter_filter, LauncherSession.isExpiredAt_max,
    Bool.not_or]

theorem countExpired_add_countExpired :
    document.countExpired first + (document.dropExpiredSessions first).countExpired second =
      document.countExpired (max first second) := by
  simp only [countExpired, dropExpiredSessions, Table.values_filter,
    LauncherSession.isExpiredAt_max, List.countP_filter]
  induction document.launcherSessions.values with
  | nil => rfl
  | cons stored rest inductionHypothesis =>
      simp only [List.countP_cons, ← inductionHypothesis]
      cases stored.session.isExpiredAt first <;> cases stored.session.isExpiredAt second <;>
        simp <;> omega

end Document

namespace Store

def afterSweep (store : Store) (now : Instant) : Store :=
  if store.live.countExpired now = 0 then store
  else store.written (store.live.dropExpiredSessions now)

variable {store after : Store} {now first second : Instant} {removed : Nat}

theorem afterSweep_of_countExpired (nothing : store.live.countExpired now = 0) :
    store.afterSweep now = store :=
  if_pos nothing

theorem afterSweep_of_expired (some_ : store.live.countExpired now ≠ 0) :
    store.afterSweep now = store.written (store.live.dropExpiredSessions now) :=
  if_neg some_

@[simp]
theorem afterSweep_live (store : Store) (now : Instant) :
    (store.afterSweep now).live = store.live.dropExpiredSessions now := by
  unfold afterSweep
  split
  · rename_i nothing
    exact (Document.dropExpiredSessions_of_countExpired nothing).symm
  · rfl

theorem accepts_afterSweep (accepts : store.disk.refusal? = none) (now : Instant) :
    (store.afterSweep now).disk.refusal? = none := by
  unfold afterSweep
  split
  · exact accepts
  · exact accepts_written accepts _

/-- A sweep ends well if there is nothing to write, or if the disk accepts what is written. -/
theorem deleteExpiredSessions_eq_ok_iff :
    store.deleteExpiredSessions now = (.ok removed, after) ↔
      (store.live.countExpired now = 0 ∨ store.disk.refusal? = none) ∧
        removed = store.live.countExpired now ∧ after = store.afterSweep now := by
  simp only [deleteExpiredSessions, Document.size_sub_size_dropExpiredSessions, afterSweep]
  by_cases nothing : store.live.countExpired now = 0
  · simp [nothing, eq_comm]
  · rw [if_neg nothing, if_neg nothing]
    rcases replace_cases store (store.live.dropExpiredSessions now) with
      ⟨accepts, replaced⟩ | ⟨refusal, later, refuses, replaced, -⟩
    · simp [replaced, accepts, eq_comm]
    · simp [replaced, refuses, nothing]

theorem exists_swept_iff :
    (∃ removed after, store.deleteExpiredSessions now = (.ok removed, after)) ↔
      store.disk.refusal? = none ∨
        ∀ stored ∈ store.live.launcherSessions.values, now < stored.session.expiresAt := by
  have nothing : store.live.countExpired now = 0 ↔
      ∀ stored ∈ store.live.launcherSessions.values, now < stored.session.expiresAt := by
    simp only [Document.countExpired, List.countP_eq_zero, LauncherSession.isExpiredAt,
      decide_eq_true_eq, UInt64.not_le]
  simp only [deleteExpiredSessions_eq_ok_iff, nothing, exists_and_left, exists_eq, and_true]
  exact or_comm

theorem untouched_of_unswept {error : StoreError}
    (failed : store.deleteExpiredSessions now = (.error error, after)) :
    store.Untouched after := by
  rcases deleteExpiredSessions_cases store now with
    ⟨-, ended⟩ | ⟨-, ended⟩ | ⟨_, _, ended, untouched⟩
  · cases ended.symm.trans failed
  · cases ended.symm.trans failed
  · cases ended.symm.trans failed
    exact untouched

theorem afterSweep_afterSweep (store : Store) (first second : Instant) :
    (store.afterSweep first).afterSweep second = store.afterSweep (max first second) := by
  have counts := store.live.countExpired_add_countExpired first second
  have drops := store.live.dropExpiredSessions_dropExpiredSessions first second
  by_cases noneFirst : store.live.countExpired first = 0
  · have unchanged := Document.dropExpiredSessions_of_countExpired noneFirst
    rw [noneFirst, unchanged, Nat.zero_add] at counts
    rw [unchanged] at drops
    rw [afterSweep_of_countExpired noneFirst, afterSweep, afterSweep, counts, drops]
  · have some_ : store.live.countExpired (max first second) ≠ 0 := by omega
    rw [afterSweep_of_expired some_, ← drops]
    by_cases noneSecond : (store.live.dropExpiredSessions first).countExpired second = 0
    · rw [Document.dropExpiredSessions_of_countExpired noneSecond,
        ← afterSweep_of_expired noneFirst]
      apply afterSweep_of_countExpired
      rwa [afterSweep_live]
    · rw [afterSweep_of_expired noneFirst, afterSweep_of_expired noneSecond]
      rfl

/-- Two sweeps, one after the other, end well and take out so many sessions together. -/
def SweptInTurn (store : Store) (first second : Instant) (removed : Nat) (after : Store) : Prop :=
  ∃ removedFirst between removedSecond,
    store.deleteExpiredSessions first = (.ok removedFirst, between) ∧
      between.deleteExpiredSessions second = (.ok removedSecond, after) ∧
      removed = removedFirst + removedSecond

theorem sweptInTurn_iff :
    store.SweptInTurn first second removed after ↔
      store.deleteExpiredSessions (max first second) = (.ok removed, after) := by
  have counts := store.live.countExpired_add_countExpired first second
  rw [deleteExpiredSessions_eq_ok_iff, ← counts, ← afterSweep_afterSweep]
  constructor
  · rintro ⟨_, _, _, sweptFirst, sweptSecond, rfl⟩
    obtain ⟨endsFirst, rfl, rfl⟩ := deleteExpiredSessions_eq_ok_iff.mp sweptFirst
    obtain ⟨endsSecond, rfl, rfl⟩ := deleteExpiredSessions_eq_ok_iff.mp sweptSecond
    rw [afterSweep_live]
    refine ⟨?_, rfl, rfl⟩
    rcases endsFirst with noneFirst | accepts
    · rw [afterSweep_of_countExpired noneFirst] at endsSecond
      rw [noneFirst, Document.dropExpiredSessions_of_countExpired noneFirst, Nat.zero_add]
      exact endsSecond
    · exact .inr accepts
  · rintro ⟨ends, rfl, rfl⟩
    refine ⟨_, _, _, deleteExpiredSessions_eq_ok_iff.mpr ⟨?_, rfl, rfl⟩,
      deleteExpiredSessions_eq_ok_iff.mpr ⟨?_, rfl, rfl⟩, by rw [afterSweep_live]⟩
    · exact ends.imp_left fun nothing => by omega
    · rw [afterSweep_live]
      exact ends.imp (fun nothing => by omega) fun accepts => accepts_afterSweep accepts first

theorem afterSweep_facing (store : Store) (refusal : Option Refusal) (now : Instant) :
    (store.facing refusal).afterSweep now = (store.afterSweep now).facing refusal := by
  by_cases nothing : store.live.countExpired now = 0
  · rw [afterSweep_of_countExpired nothing]
    exact afterSweep_of_countExpired nothing
  · rw [afterSweep_of_expired nothing]
    exact afterSweep_of_expired nothing

theorem sweptInTurn_facing {earlier later once : Option Refusal} {between afterOnce : Store}
    {removedFirst removedSecond : Nat}
    (sweptFirst : (store.facing earlier).deleteExpiredSessions first = (.ok removedFirst, between))
    (sweptSecond : (between.facing later).deleteExpiredSessions second = (.ok removedSecond, after))
    (sweptOnce : (store.facing once).deleteExpiredSessions (max first second) =
      (.ok removed, afterOnce)) :
    removed = removedFirst + removedSecond ∧ after = afterOnce.facing later := by
  obtain ⟨-, rfl, rfl⟩ := deleteExpiredSessions_eq_ok_iff.mp sweptFirst
  obtain ⟨-, rfl, rfl⟩ := deleteExpiredSessions_eq_ok_iff.mp sweptSecond
  obtain ⟨-, rfl, rfl⟩ := deleteExpiredSessions_eq_ok_iff.mp sweptOnce
  constructor
  · exact (store.live.countExpired_add_countExpired first second).symm.trans
      (by rw [afterSweep_facing]; simp [facing])
  · simp only [afterSweep_facing, afterSweep_afterSweep]
    rfl

end Store

section Validation

variable {document : Document} {now time : Instant}

theorem LauncherSession.isExpiredAt_of_le {session : LauncherSession} (later : now ≤ time)
    (expired : session.isExpiredAt now = true) : session.isExpiredAt time = true := by
  simp only [isExpiredAt, decide_eq_true_eq] at expired ⊢
  exact UInt64.le_trans expired later

theorem Document.findLauncherSession_dropExpiredSessions (distinct : Access.DistinctTokens document)
    (now : Instant) (token : String) :
    (document.dropExpiredSessions now).findLauncherSession token =
      (document.findLauncherSession token).filter (!·.session.isExpiredAt now) := by
  have searched := Table.search_filter distinct
    (fun stored => !stored.session.isExpiredAt now) token
  have sameKeys : (document.dropExpiredSessions now).productKeys = document.productKeys := rfl
  have sameEditions : (document.dropExpiredSessions now).editions = document.editions := rfl
  have filtered : (document.dropExpiredSessions now).launcherSessions =
    document.launcherSessions.filter fun stored => !stored.session.isExpiredAt now := rfl
  unfold findLauncherSession
  rw [filtered, searched, sameKeys, sameEditions]
  cases document.launcherSessions.search (·.session.accessToken.expose = token) with
  | none => rfl
  | some stored =>
      cases keyThere : document.productKeys.get? stored.productKey with
      | none =>
          cases expired : stored.session.isExpiredAt now <;>
            simp [keyThere, expired, Option.filter]
      | some key =>
          cases editionThere : document.editions.get? key.edition <;>
            cases expired : stored.session.isExpiredAt now <;>
            simp [keyThere, editionThere, expired, Option.filter]

def Document.TakenOut (document : Document) (now : Instant) (token : String) : Prop :=
  ∃ stored ∈ document.launcherSessions.values,
    stored.session.accessToken.expose = token ∧ stored.session.expiresAt ≤ now

instance (document : Document) (now : Instant) (token : String) :
    Decidable (document.TakenOut now token) :=
  inferInstanceAs (Decidable (∃ stored ∈ document.launcherSessions.values, _))

theorem Document.takenOut_iff (distinct : Access.DistinctTokens document) {token : String}
    {access : LauncherAccess} (found : document.findLauncherSession token = some access) :
    document.TakenOut now token ↔ access.session.isExpiredAt now = true := by
  obtain ⟨stored, membership, -, same, sameToken, -, -⟩ := Access.opens_of_found found
  rw [← same] at sameToken ⊢
  constructor
  · rintro ⟨other, otherMembership, otherToken, expired⟩
    have equal : other = stored := List.inj_on_of_nodup_map distinct otherMembership membership
      (otherToken.trans sameToken.symm)
    rw [← equal]
    exact decide_eq_true expired
  · intro expired
    exact ⟨stored, membership, sameToken, of_decide_eq_true expired⟩

/-- From the time of a sweep on, only the reason why a session is refused shows that it was made. -/
theorem Repository.validateSession_dropExpiredSessions (distinct : Access.DistinctTokens document)
    (notBefore : now ≤ time) (faults : Faults) (token : String) :
    let before := (Repository.mk document faults).validateSession token time
    let swept := document.dropExpiredSessions now
    let later := (Repository.mk swept faults).validateSession token time
    (∀ access, later = .ok access ↔ before = .ok access) ∧
      (later ≠ before ↔ before = .error .expired ∧ document.TakenOut now token) ∧
      (later ≠ before → later = .error .invalidToken) := by
  dsimp only
  unfold validateSession findLauncherSession answer
  cases reads : faults .findLauncherSession with
  | some error => cases error <;> simp [reads, LauncherError.ofStore]
  | none =>
      simp only [reads, Document.findLauncherSession_dropExpiredSessions distinct]
      cases found : document.findLauncherSession token with
      | none => simp
      | some access =>
          have takenOut := @Document.takenOut_iff _ now distinct _ _ found
          cases expired : access.session.isExpiredAt now with
          | true =>
              have expiredLater := LauncherSession.isExpiredAt_of_le notBefore expired
              simp [expired, expiredLater, takenOut, Option.filter]
          | false => simp [expired, takenOut, Option.filter]

end Validation

namespace Sweep

open Job

/-- What a sweep that ends well takes out, counts and writes. -/
structure Exact (store : Store) (now : Instant) (removed : Nat) (after : Store) : Prop where
  sessions : after.live.launcherSessions.entries =
    store.live.launcherSessions.entries.filter fun entry => now < entry.2.session.expiresAt
  counted : removed =
    store.live.launcherSessions.values.countP fun stored => stored.session.expiresAt ≤ now
  rest : after.live = { store.live with launcherSessions := after.live.launcherSessions }
  unwritten : removed = 0 → after = store
  written : removed ≠ 0 → after = store.written after.live

theorem exact_of_swept {store after : Store} {now : Instant} {removed : Nat}
    (swept : store.deleteExpiredSessions now = (.ok removed, after)) :
    Exact store now removed after := by
  obtain ⟨-, rfl, rfl⟩ := Store.deleteExpiredSessions_eq_ok_iff.mp swept
  have kept (stored : StoredSession) :
      (!stored.session.isExpiredAt now) = decide (now < stored.session.expiresAt) := by
    rw [LauncherSession.isExpiredAt, ← decide_not, decide_eq_decide, UInt64.not_le]
  refine ⟨?_, rfl, ?_, Store.afterSweep_of_countExpired, ?_⟩
  · simp only [Store.afterSweep_live, Document.dropExpiredSessions, Table.filter, kept]
  · rw [Store.afterSweep_live]
    rfl
  · rw [Store.afterSweep_live]
    exact Store.afterSweep_of_expired

theorem cycle_eq (world : World) :
    cycle world =
      match exec (mutate .deleteExpiredSessions (·.deleteExpiredSessions world.clock)) world with
      | (.ok removed, after) => (removed, after)
      | (.error _, after) => (0, after) := rfl

theorem cycle_of_fault {world : World} {error : StoreError}
    (fails : world.faults .deleteExpiredSessions = some error) : cycle world = (0, world) := by
  simp only [cycle_eq, exec_mutate, fails]

theorem cycle_of_works {world : World} (works : world.faults .deleteExpiredSessions = none) :
    cycle world =
      match world.store.deleteExpiredSessions world.clock with
      | (.ok removed, after) => (removed, { world with store := after })
      | (.error _, after) => (0, { world with store := after }) := by
  simp only [cycle_eq, exec_mutate, works]
  rcases world.store.deleteExpiredSessions world.clock with ⟨_ | _, _⟩ <;> rfl

/--
What sweeping does, for every store and whatever its disk does with the writes.  A sweep ends well
if the disk accepts writes or no session is over; it then takes out the sessions that are over,
returns how many these were, and writes only if there was one.  A sweep that fails takes out
nothing, and the cycle reports none.  Two sweeps in either order do what one at the later time does.
If tokens are distinct, then from the time of the sweep on every token is worth as much as before,
and only the reason for refusing the token of a session that was taken out is another one.
-/
theorem cycle_exact (world : World) :
    let store := world.store
    (∀ now removed after, store.deleteExpiredSessions now = (.ok removed, after) →
      Exact store now removed after) ∧
    (∀ now, (∃ removed after, store.deleteExpiredSessions now = (.ok removed, after)) ↔
      store.disk.refusal? = none ∨
        ∀ stored ∈ store.live.launcherSessions.values, now < stored.session.expiresAt) ∧
    (∀ now error after, store.deleteExpiredSessions now = (.error error, after) →
      store.Untouched after) ∧
    (∀ error, world.faults .deleteExpiredSessions = some error → cycle world = (0, world)) ∧
    (world.faults .deleteExpiredSessions = none → ∀ outcome after,
      store.deleteExpiredSessions world.clock = (outcome, after) →
        cycle world = (outcome.toOption.getD 0, { world with store := after })) ∧
    (∀ first second removed after,
      (store.SweptInTurn first second removed after ↔
        store.deleteExpiredSessions (max first second) = (.ok removed, after)) ∧
      (store.SweptInTurn second first removed after ↔
        store.deleteExpiredSessions (max first second) = (.ok removed, after))) ∧
    (∀ first second earlier later once removedFirst removedSecond removed between after afterOnce,
      (store.facing earlier).deleteExpiredSessions first = (.ok removedFirst, between) →
      (between.facing later).deleteExpiredSessions second = (.ok removedSecond, after) →
      (store.facing once).deleteExpiredSessions (max first second) = (.ok removed, afterOnce) →
        removed = removedFirst + removedSecond ∧ after = afterOnce.facing later) ∧
    (Access.DistinctTokens store.live → ∀ now removed after time,
      store.deleteExpiredSessions now = (.ok removed, after) → now ≤ time → ∀ faults token,
        let earlier := (Repository.mk store.live faults).validateSession token time
        let later := (Repository.mk after.live faults).validateSession token time
        (∀ access, later = .ok access ↔ earlier = .ok access) ∧
          (later ≠ earlier ↔ earlier = .error .expired ∧ store.live.TakenOut now token) ∧
          (later ≠ earlier → later = .error .invalidToken)) := by
  intro store
  refine ⟨fun _ _ _ => exact_of_swept, fun _ => Store.exists_swept_iff,
    fun _ _ _ => Store.untouched_of_unswept, fun _ => cycle_of_fault, ?_, ?_, ?_, ?_⟩
  · intro works outcome after swept
    rw [cycle_of_works works, swept]
    cases outcome <;> rfl
  · intro first second removed after
    refine ⟨Store.sweptInTurn_iff, ?_⟩
    rw [Instant.max_comm]
    exact Store.sweptInTurn_iff
  · intro first second earlier later once removedFirst removedSecond removed between after afterOnce
    exact Store.sweptInTurn_facing
  · intro distinct now removed after time swept notBefore faults token
    obtain ⟨-, -, rfl⟩ := Store.deleteExpiredSessions_eq_ok_iff.mp swept
    rw [Store.afterSweep_live]
    exact Repository.validateSession_dropExpiredSessions distinct notBefore faults token

def crowded : World := {
  Launcher.stocked with
  clock := 5000
  store.live := {
    editions := ⟨[(⟨1⟩, ⟨⟨1⟩, "", none, [], [], 0⟩)], by decide⟩
    productKeys := ⟨[(⟨2⟩, ⟨⟨1⟩, ⟨⟨2⟩, ⟨""⟩, .active, 0⟩⟩)], by decide⟩
    launcherSessions := ⟨[(⟨3⟩, ⟨⟨2⟩, ⟨⟨3⟩, ⟨"a"⟩, 1000⟩⟩), (⟨4⟩, ⟨⟨2⟩, ⟨⟨4⟩, ⟨"b"⟩, 2000⟩⟩),
      (⟨5⟩, ⟨⟨2⟩, ⟨⟨5⟩, ⟨"c"⟩, 10000⟩⟩)], by decide⟩ } }

/-- One sweep or two take out the two sessions, one of which is then unknown. -/
theorem cycle_exact_crowded :
    let store := crowded.store
    let after := store.afterSweep 5000
    let validate := fun (store : Store) token time =>
      (Repository.mk store.live Faults.none).validateSession token time
    Access.DistinctTokens store.live ∧
      store.deleteExpiredSessions 5000 = (.ok 2, after) ∧
      after.live.launcherSessions.keys = [⟨5⟩] ∧
      cycle crowded = (2, { crowded with store := after }) ∧
      store.SweptInTurn 1500 5000 2 after ∧ store.SweptInTurn 5000 1500 2 after ∧
      validate after "c" 9999 = validate store "c" 9999 ∧
      validate store "b" 5000 = .error .expired ∧
      validate after "b" 5000 = .error .invalidToken := by
  intro store after validate
  have distinct : Access.DistinctTokens store.live := by
    unfold Access.DistinctTokens
    decide
  have swept : store.deleteExpiredSessions 5000 = (.ok 2, after) :=
    Store.deleteExpiredSessions_eq_ok_iff.mpr ⟨.inr rfl, rfl, rfl⟩
  obtain ⟨taken, -, -, -, cycled, inTurn, -, visible⟩ := cycle_exact crowded
  have kept : after.live.launcherSessions.entries = _ := (taken 5000 2 after swept).sessions
  obtain ⟨granted, -, -⟩ := visible distinct 5000 2 after 9999 swept (by decide) Faults.none "c"
  obtain ⟨-, changes, changed⟩ :=
    visible distinct 5000 2 after 5000 swept (by decide) Faults.none "b"
  have different : validate after "b" 5000 ≠ validate store "b" 5000 :=
    changes.mpr ⟨rfl, by decide⟩
  refine ⟨distinct, swept, ?_, cycled rfl _ _ swept, ?_, ?_, ?_, rfl, changed different⟩
  · rw [Table.keys, kept]
    rfl
  · exact (inTurn 1500 5000 2 after).1.mpr swept
  · exact (inTurn 1500 5000 2 after).2.mpr swept
  · exact (granted _).mpr rfl

end Sweep

end GameCatalog
