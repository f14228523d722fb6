import GameCatalog.Proofs.Launcher.Lifecycle
import GameCatalog.Proofs.Store.Coherence

/-!
Switching product keys on and off.  A switch reaches only the keys of its own edition; it writes
nothing when the key has the status already, and otherwise changes the status and nothing else,
or fails and changes nothing at all.  So a second switch finds nothing left to do, and of many
switches only the last one of each key counts.
-/

namespace GameCatalog.Launcher

open Job

section Switch

variable {status : KeyStatus} {edition : EditionId} {id : ProductKeyId} {world after : World}
  {stored : StoredKey} {key : ProductKey}

theorem withStatus_self (same : stored.productKey.status = status) :
    withStatus stored status = stored := by
  unfold withStatus
  rw [← same]

def switchedDocument (document : Document) (id : ProductKeyId) (stored : StoredKey)
    (status : KeyStatus) : Document :=
  { document with productKeys := document.productKeys.insert id (withStatus stored status) }

theorem keys_switchedDocument {document : Document} (status : KeyStatus)
    (found : document.productKeys.get? id = some stored) :
    (switchedDocument document id stored status).productKeys.keys = document.productKeys.keys := by
  have known : (document.productKeys.get? id).isSome = true := by rw [found]; rfl
  unfold switchedDocument
  rw [Table.insert_eq_revise _ known]
  exact List.map_map

@[simp] theorem get?_switchedDocument (document : Document) (id : ProductKeyId)
    (stored : StoredKey) (status : KeyStatus) (other : ProductKeyId) :
    (switchedDocument document id stored status).productKeys.get? other =
      if id = other then some (withStatus stored status) else document.productKeys.get? other :=
  Table.get?_insert ..

theorem updateProductKeyStatus_of_found {document : Document} (status : KeyStatus)
    (found : document.productKeys.get? id = some stored) :
    document.updateProductKeyStatus id status =
      .ok ((), switchedDocument document id stored status) := by
  simp only [Document.updateProductKeyStatus, found]
  rfl

theorem exec_setStatus_of_accepts (reads : world.faults .getProductKey = none)
    (found : world.store.live.productKeys.get? id = some stored) (owned : stored.edition = edition)
    (other : stored.productKey.status ≠ status)
    (updates : world.faults .updateProductKeyStatus = none)
    (accepts : world.store.disk.refusal? = none) :
    exec (setStatus status edition id) world = (.ok { stored.productKey with status }, {
      world with
      store := world.store.written (switchedDocument world.store.live id stored status) }) := by
  have changed := updateProductKeyStatus_of_found status found
  have committed := exec_commit_of_accepts (updateProductKeyStatus_commits id status)
    LauncherError.ofStore world updates changed accepts
  rw [exec_setStatus_of_other reads found owned other, exec_bind_of_ok committed, exec_pure]

theorem exec_setStatus_of_denies {error : StoreError} (reads : world.faults .getProductKey = none)
    (found : world.store.live.productKeys.get? id = some stored) (owned : stored.edition = edition)
    (other : stored.productKey.status ≠ status)
    (denies : Denies world .updateProductKeyStatus error) :
    ∃ store, exec (setStatus status edition id) world =
      (.error (.ofStore error), { world with store }) ∧ world.store.Untouched store := by
  have changed := updateProductKeyStatus_of_found status found
  obtain ⟨store, denied, untouched⟩ := exec_commit_of_denies
    (updateProductKeyStatus_commits id status) LauncherError.ofStore denies changed
  refine ⟨store, ?_, untouched⟩
  rw [exec_setStatus_of_other reads found owned other, exec_bind_of_error denied]

theorem exec_setStatus_of_given (reads : after.faults .getProductKey = none)
    (given : after.store.live.productKeys.get? id = some ⟨edition, key⟩)
    (same : key.status = status) :
    exec (setStatus status edition id) after = (.ok key, after) :=
  exec_setStatus_of_same reads given rfl same

theorem exec_setStatus_of_failed {error : StoreError} {store : Store}
    (reads : world.faults .getProductKey = none)
    (found : world.store.live.productKeys.get? id = some stored) (owned : stored.edition = edition)
    (other : stored.productKey.status ≠ status)
    (updates : world.faults .updateProductKeyStatus = none)
    (failed : world.store.updateProductKeyStatus id status = (.error error, store)) :
    exec (setStatus status edition id) world = (.error (.ofStore error), { world with store }) := by
  rw [exec_setStatus_of_other reads found owned other]
  simp only [exec_bind, exec_mapError, exec_mutate, updates, failed, Except.mapError]

theorem exec_setStatus_again_of_other (reads : world.faults .getProductKey = none)
    (found : world.store.live.productKeys.get? id = some stored) (owned : stored.edition = edition)
    (other : stored.productKey.status ≠ status) :
    exec (setStatus status edition id) (exec (setStatus status edition id) world).2 =
      exec (setStatus status edition id) world := by
  cases updates : world.faults .updateProductKeyStatus with
  | some error =>
      have denied :
          exec (setStatus status edition id) world = (.error (.ofStore error), world) := by
        rw [exec_setStatus_of_other reads found owned other]
        simp only [exec_bind, exec_mapError, exec_mutate, updates, Except.mapError]
      rw [denied, denied]
  | none =>
      cases refused : world.store.disk.refusal? with
      | none =>
          rw [exec_setStatus_of_accepts reads found owned other updates refused]
          have given : (switchedDocument world.store.live id stored status).productKeys.get? id =
              some ⟨edition, { stored.productKey with status }⟩ := by
            simp [withStatus, owned]
          exact exec_setStatus_of_given reads given rfl
      | some refusal =>
          obtain ⟨store, failed, untouched⟩ := @Store.commit_of_refuses _ _
            (·.updateProductKeyStatus id status) _ _ _
            (updateProductKeyStatus_of_found status found) refused
          have foundAgain : store.live.productKeys.get? id = some stored := by
            rw [untouched.live, found]
          rw [exec_setStatus_of_failed reads found owned other updates failed]
          exact exec_setStatus_of_failed reads foundAgain owned other updates
            (Store.commit_again_of_error failed)

theorem exec_setStatus_again (status : KeyStatus) (edition : EditionId) (id : ProductKeyId)
    (world : World) :
    exec (setStatus status edition id) (exec (setStatus status edition id) world).2 =
      exec (setStatus status edition id) world := by
  cases reads : world.faults .getProductKey with
  | some error => rw [exec_setStatus_of_unread reads, exec_setStatus_of_unread reads]
  | none =>
      by_cases foreign : ∀ stored, world.store.live.productKeys.get? id = some stored →
          stored.edition ≠ edition
      · rw [exec_setStatus_of_foreign reads foreign, exec_setStatus_of_foreign reads foreign]
      · push Not at foreign
        obtain ⟨stored, found, owned⟩ := foreign
        by_cases same : stored.productKey.status = status
        · have already := exec_setStatus_of_same reads found owned same
          rw [already, already]
        · exact exec_setStatus_again_of_other reads found owned same

theorem switched_of_ok (ended : exec (setStatus status edition id) world = (.ok key, after)) :
    ∃ stored, Switched status edition id world stored key after := by
  rcases exec_setStatus_cases status edition id world with
    ⟨stored, given, later, succeeded, switched⟩ | ⟨error, later, failed, -⟩
  · cases ended.symm.trans succeeded
    exact ⟨stored, switched⟩
  · exact nomatch ended.symm.trans failed

theorem get?_of_switched (switched : Switched status edition id world stored key after) :
    after.store.live.productKeys.get? id = some ⟨edition, key⟩ := by
  obtain ⟨found, rfl, rfl, ⟨same, rfl⟩ | ⟨-, -, rfl⟩⟩ := switched
  · rw [found, ← same]
  · simp

theorem exec_setStatus_of_error {error : LauncherError}
    (ended : exec (setStatus status edition id) world = (.error error, after)) :
    after = { world with store := after.store } ∧ world.store.Untouched after.store := by
  cases reads : world.faults .getProductKey with
  | some fault =>
      cases (exec_setStatus_of_unread reads).symm.trans ended
      exact ⟨rfl, .refl _⟩
  | none =>
      by_cases foreign : ∀ stored, world.store.live.productKeys.get? id = some stored →
          stored.edition ≠ edition
      · cases (exec_setStatus_of_foreign reads foreign).symm.trans ended
        exact ⟨rfl, .refl _⟩
      · push Not at foreign
        obtain ⟨stored, found, owned⟩ := foreign
        by_cases same : stored.productKey.status = status
        · cases (exec_setStatus_of_same reads found owned same).symm.trans ended
        · rcases works_or_denies world .updateProductKeyStatus with
            ⟨updates, accepts⟩ | ⟨fault, denies⟩
          · have succeeded := exec_setStatus_of_accepts reads found owned same updates accepts
            cases succeeded.symm.trans ended
          · obtain ⟨store, denied, untouched⟩ :=
              exec_setStatus_of_denies reads found owned same denies
            cases denied.symm.trans ended
            exact ⟨rfl, untouched⟩

theorem restored_of_revoked {circumstances : Circumstances} {revoked restored : World}
    {first second : ProductKey} (found : world.store.live.productKeys.get? id = some stored)
    (active : stored.productKey.status = .active)
    (revoking : exec (revoke edition id) world = (.ok first, revoked))
    (activating : exec (activate edition id) (revoked.under circumstances) =
      (.ok second, restored)) :
    second = stored.productKey ∧
      restored.store = (revoked.under circumstances).store.written world.store.live := by
  obtain ⟨_, off⟩ := switched_of_ok revoking
  obtain ⟨other, back⟩ := switched_of_ok activating
  cases off.found.symm.trans found
  rcases off.after_eq with ⟨already, -⟩ | ⟨-, -, rfl⟩
  · exact nomatch active.symm.trans already
  have between : other = { stored with productKey := first } := by
    have there := back.found
    simp only [World.under_live, Store.written_live, Table.get?_insert, if_true] at there
    exact (Option.some.inj there).symm
  have restoredKey : second = stored.productKey := by
    rw [back.key_eq, between, off.key_eq, ← active]
  subst between
  refine ⟨restoredKey, ?_⟩
  rcases back.after_eq with ⟨already, -⟩ | ⟨-, -, rfl⟩
  · simp [off.key_eq] at already
  · simp only [World.under_live, Store.written_live, restoredKey, Table.insert_back found]

end Switch

/-- The call switches a key. -/
def Call.IsSwitch : Call → Prop
  | switch _ _ _ => True
  | _ => False

/-- The status of a key after the given steps: the one that it was given last. -/
def statusAfter (steps : List Step) (id : ProductKeyId) (stored : StoredKey) : KeyStatus :=
  (lastSwitch? stored.edition id steps).getD stored.productKey.status

section Run

theorem revised_of_effect {step : Step} (effect : step.Effect) (noKeys : step.issued? = none) :
    step.new = step.old.revise fun id stored =>
      withStatus stored (statusAfter [step] id stored) := by
  cases effect with
  | kept _ noSwitch same =>
      rw [same, Table.revise_self]
      intro id stored _
      apply withStatus_self
      simp [statusAfter, lastSwitch?, noSwitch]
  | issued issued =>
      rw [noKeys] at issued
      contradiction
  | @switched status id stored _ given found changed =>
      have known : (step.old.get? id).isSome = true := by rw [found]; rfl
      rw [changed, Table.insert_eq_revise _ known]
      apply Table.revise_congr
      intro other old there
      by_cases here : other = id
      · subst here
        rw [found] at there
        cases there
        simp [statusAfter, lastSwitch?, given]
      · have unchanged : statusAfter [step] other old = old.productKey.status := by
          simp [statusAfter, lastSwitch?, given, Ne.symm here]
        rw [if_neg here, unchanged, withStatus_self rfl]

theorem live_take_of_switch {call : Call} (switch : call.IsSwitch) (world : World)
    (circumstances : Circumstances) :
    let step := Step.take world circumstances call
    step.issued? = none ∧
      step.after.store.live = { world.store.live with productKeys := step.new } := by
  cases call with
  | switch status edition id =>
      have same : (Call.switch status edition id).job = setStatus status edition id := by
        cases status <;> rfl
      rcases exec_setStatus_cases status edition id (world.under circumstances) with
        ⟨stored, key, after, ended, outcome⟩ | ⟨error, after, ended, untouched⟩
      · rw [← same] at ended
        rw [Step.take_of_ended ended]
        rcases outcome.after_eq with ⟨-, rfl⟩ | ⟨-, -, rfl⟩ <;> exact ⟨rfl, rfl⟩
      · rw [← same] at ended
        rw [Step.take_of_ended ended]
        have unchanged : after.store.live = world.store.live := untouched.live
        refine ⟨rfl, ?_⟩
        unfold Step.new
        dsimp only
        rw [unchanged]
  | _ => exact switch.elim

theorem statusAfter_cons (step : Step) (later : List Step) (id : ProductKeyId)
    (stored : StoredKey) :
    statusAfter (step :: later) id stored =
      statusAfter later id (withStatus stored (statusAfter [step] id stored)) := by
  simp only [statusAfter, lastSwitch?, withStatus, Option.getD_or, Option.none_or]

/-- After any switches the document is the old one, but for the status that each key got last. -/
theorem live_arrive_of_switches (world : World) {calls : List (Circumstances × Call)}
    (switches : ∀ visited ∈ calls, visited.2.IsSwitch) :
    (arrive world calls).store.live = {
      world.store.live with
      productKeys := world.store.live.productKeys.revise fun id stored =>
        withStatus stored (statusAfter (history world calls) id stored) } := by
  induction calls generalizing world with
  | nil =>
      have unchanged : (world.store.live.productKeys.revise fun id stored =>
          withStatus stored (statusAfter [] id stored)) = world.store.live.productKeys :=
        Table.revise_self fun _ _ _ => withStatus_self rfl
      rw [history, unchanged]
      rfl
  | cons visited rest inductionHypothesis =>
      obtain ⟨circumstances, call⟩ := visited
      obtain ⟨switch, switchesLater⟩ := List.forall_mem_cons.mp switches
      obtain ⟨noKeys, stepped⟩ := live_take_of_switch switch world circumstances
      have revised := revised_of_effect (Step.effect_take world circumstances call) noKeys
      have later := inductionHypothesis (Step.take world circumstances call).after switchesLater
      rw [stepped, revised, Table.revise_revise] at later
      have composed : (fun id stored => withStatus stored (statusAfter
            (history world ((circumstances, call) :: rest)) id stored)) =
          fun id stored => withStatus stored (statusAfter
            (history (Step.take world circumstances call).after rest) id
            (withStatus stored (statusAfter [Step.take world circumstances call] id stored))) := by
        funext id stored
        rw [history, statusAfter_cons]
      rw [arrive, later, composed]
      rfl

end Run

/--
Switching a key is confined to the keys of one edition, does nothing twice, and touches nothing
but the status, whatever the store and the circumstances are.  A key that is absent or of another
edition is not found.  A key that has the status already is returned without a write.  Otherwise
exactly its status changes, and what is returned is what is stored from then on; or the write is
denied, and nothing changes.  A repeated switch does and says the same, and needs no write once
the first one has succeeded; after any sequence of switches each key has the status that the last
successful one gave it; and an active key that is revoked and activated again leaves the document
as it was.
-/
theorem setStatus_exact (status : KeyStatus) (edition : EditionId) (id : ProductKeyId)
    (world : World) :
    let outcome := exec (setStatus status edition id) world
    let old := world.store.live
    let new := outcome.2.store.live
    (world.faults .getProductKey = none →
      ((∀ stored, old.productKeys.get? id = some stored → stored.edition ≠ edition) →
        outcome = (.error (.notFound ("product key " ++ id.toText)), world)) ∧
      ∀ stored, old.productKeys.get? id = some stored → stored.edition = edition →
        (stored.productKey.status = status → outcome = (.ok stored.productKey, world)) ∧
        (stored.productKey.status ≠ status →
          (∀ error, Denies world .updateProductKeyStatus error →
            outcome.1 = .error (.ofStore error)) ∧
          (world.faults .updateProductKeyStatus = none → world.store.disk.refusal? = none →
            outcome = (.ok { stored.productKey with status },
              { world with store := world.store.written new }) ∧
            new = { old with productKeys := new.productKeys } ∧
            new.productKeys.keys = old.productKeys.keys ∧
            new.productKeys.get? id = some (withStatus stored status) ∧
            ∀ other, other ≠ id → new.productKeys.get? other = old.productKeys.get? other))) ∧
    (∀ error, outcome.1 = .error error →
      outcome.2 = { world with store := outcome.2.store } ∧
        world.store.Untouched outcome.2.store) ∧
    (∀ key, outcome.1 = .ok key →
      (old.productKeys.Keyed (·.productKey.id) → key.id = id) ∧
      ∀ circumstances, circumstances.faults .getProductKey = none →
        let later := outcome.2.under circumstances
        later.repository.getProductKey id = .ok (some ⟨edition, key⟩) ∧
          exec (setStatus status edition id) later = (.ok key, later)) ∧
    exec (setStatus status edition id) outcome.2 = outcome ∧
    (∀ calls, (∀ visited ∈ calls, visited.2.IsSwitch) → (arrive world calls).store.live = {
      old with
      productKeys := old.productKeys.revise fun id stored =>
        withStatus stored (statusAfter (history world calls) id stored) }) ∧
    ∀ stored, old.productKeys.get? id = some stored → stored.productKey.status = .active →
      ∀ circumstances first second revoked restored,
        exec (revoke edition id) world = (.ok first, revoked) →
        exec (activate edition id) (revoked.under circumstances) = (.ok second, restored) →
        second = stored.productKey ∧
          restored.store = (revoked.under circumstances).store.written old := by
  intro outcome old new
  refine ⟨?_, ?_, ?_, exec_setStatus_again status edition id world, ?_, ?_⟩
  · intro reads
    refine ⟨exec_setStatus_of_foreign reads, fun stored found owned => ⟨?_, fun other => ⟨?_, ?_⟩⟩⟩
    · exact exec_setStatus_of_same reads found owned
    · intro error denies
      obtain ⟨store, denied, -⟩ := exec_setStatus_of_denies reads found owned other denies
      exact congrArg Prod.fst denied
    · intro updates accepts
      have ended := exec_setStatus_of_accepts reads found owned other updates accepts
      have written : new = switchedDocument old id stored status :=
        congrArg (fun ended => ended.2.store.live) ended
      rw [written]
      refine ⟨ended, rfl, keys_switchedDocument status found, by simp, ?_⟩
      intro other different
      simp [Ne.symm different]
  · intro error failed
    exact exec_setStatus_of_error (Prod.ext failed rfl)
  · intro key succeeded
    obtain ⟨stored, switched⟩ := switched_of_ok (Prod.ext succeeded rfl)
    have given : new.productKeys.get? id = some ⟨edition, key⟩ := get?_of_switched switched
    refine ⟨?_, fun circumstances reads => ⟨?_, ?_⟩⟩
    · intro keyed
      rw [switched.key_eq]
      exact keyed id stored switched.found
    · simp only [Repository.getProductKey, Repository.answer, World.repository, World.under_faults,
        reads, World.under_live]
      exact congrArg Except.ok given
    · exact exec_setStatus_of_given reads given (by rw [switched.key_eq])
  · exact fun calls switches => live_arrive_of_switches world switches
  · intro stored found active circumstances first second revoked restored
    exact restored_of_revoked found active

def holding : World := {
  stocked with
  store := stocked.store.written (stocked.store.live.insertProductKeys ⟨1⟩ [zeros]) }

/-- The key is revoked, revoked again while no write succeeds, and activated again. -/
theorem setStatus_exact_holding :
    let calm : Circumstances := ⟨0, 0, Faults.none, stocked.provider, none⟩
    let refusing : Circumstances := { calm with refusal := some ⟨.rename, "busy"⟩ }
    let revoked := { zeros with status := .inactive }
    let outcome := exec (setStatus .inactive ⟨1⟩ zeros.id) holding
    let calls : List (Circumstances × Call) :=
      [(calm, .switch .inactive ⟨1⟩ zeros.id), (calm, .switch .active ⟨2⟩ zeros.id)]
    outcome.1 = .ok revoked ∧
      outcome.2.store.live.productKeys.get? zeros.id = some ⟨⟨1⟩, revoked⟩ ∧
      exec (setStatus .inactive ⟨1⟩ zeros.id) (outcome.2.under refusing) =
        (.ok revoked, outcome.2.under refusing) ∧
      (exec (setStatus .inactive ⟨1⟩ zeros.id) (holding.under refusing)).1 =
        .error (.store "I/O error: renaming temp store file: busy") ∧
      (exec (setStatus .inactive ⟨2⟩ zeros.id) holding).2 = holding ∧
      (arrive holding calls).store.live.productKeys.get? zeros.id = some ⟨⟨1⟩, revoked⟩ ∧
      ∃ restored, exec (activate ⟨1⟩ zeros.id) (outcome.2.under calm) = (.ok zeros, restored) ∧
        restored.store.live = holding.store.live := by
  intro calm refusing revoked outcome calls
  have there : holding.store.live.productKeys.get? zeros.id = some ⟨⟨1⟩, zeros⟩ := by decide
  obtain ⟨reading, -, again, -, run, back⟩ := setStatus_exact .inactive ⟨1⟩ zeros.id holding
  obtain ⟨-, switching⟩ := reading rfl
  obtain ⟨succeeded, -, -, given, -⟩ := ((switching ⟨⟨1⟩, zeros⟩ there rfl).2 (by decide)).2 rfl rfl
  have first : outcome.1 = .ok revoked := congrArg Prod.fst succeeded
  refine ⟨first, given, ((again revoked first).2 refusing rfl).2, ?_, ?_, ?_, ?_⟩
  · obtain ⟨-, refused⟩ := (setStatus_exact .inactive ⟨1⟩ zeros.id (holding.under refusing)).1 rfl
    exact ((refused ⟨⟨1⟩, zeros⟩ there rfl).2 (by decide)).1 _ (.inr ⟨rfl, _, rfl, rfl⟩)
  · obtain ⟨foreign, -⟩ := (setStatus_exact .inactive ⟨2⟩ zeros.id holding).1 rfl
    have elsewhere := foreign fun stored found => by
      cases there.symm.trans found
      decide
    exact congrArg Prod.snd elsewhere
  · rw [run calls (by simp [calls, Call.IsSwitch])]
    decide +kernel
  · have second : (exec (activate ⟨1⟩ zeros.id) (outcome.2.under calm)).1 = .ok zeros := by
      decide +kernel
    obtain ⟨-, restored⟩ := back ⟨⟨1⟩, zeros⟩ there rfl calm revoked zeros outcome.2 _
      (Prod.ext first rfl) (Prod.ext second rfl)
    refine ⟨_, Prod.ext second rfl, ?_⟩
    rw [restored]
    rfl

end GameCatalog.Launcher
