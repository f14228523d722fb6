import GameCatalog.Proofs.Circumstances
import GameCatalog.Proofs.Keeps
import GameCatalog.Proofs.Launcher.Format
import GameCatalog.Proofs.Launcher.Outcome

/-!
The life of a product key.  A run is a sequence of calls of the services for launchers, each
under circumstances of its own.  A key that was issued stays what it is but for its status, which
is the one that the last successful switch through its own edition gave it; and it can be
redeemed exactly while it is active.
-/

namespace GameCatalog.Launcher

open Job

/-- The calls of the services for launchers; a key is switched by `activate` and by `revoke`. -/
inductive Call where
  | generateKeys (edition : EditionId) (count : Nat)
  | listKeys (edition : EditionId) (status : Option KeyStatus)
  | switch (status : KeyStatus) (edition : EditionId) (id : ProductKeyId)
  | redeem (seconds : Nat) (text : String)
  | validateSession (token : String) (now : Instant)
  | sweep

namespace Call

def Result : Call → Type
  | generateKeys _ _ => List ProductKey
  | listKeys _ _ => List ProductKey
  | switch _ _ _ => ProductKey
  | redeem _ _ => LauncherSession
  | validateSession _ _ => LauncherAccess
  | sweep => Nat

def job : (call : Call) → Job LauncherError call.Result
  | generateKeys edition count => Launcher.generateKeys edition count
  | listKeys edition status => Launcher.listKeys edition status
  | switch .active edition id => activate edition id
  | switch .inactive edition id => revoke edition id
  | redeem seconds text => Launcher.redeem seconds text
  | validateSession token now => Job.ask (·.validateSession token now)
  | sweep => Sweep.run.mapError .ofStore

end Call

/-- A call, how it ended, and the worlds before and after it. -/
structure Step where
  before : World
  call : Call
  answer : Except LauncherError call.Result
  after : World

namespace Step

def take (world : World) (circumstances : Circumstances) (call : Call) : Step where
  before := world
  call
  answer := (exec call.job (world.under circumstances)).1
  after := (exec call.job (world.under circumstances)).2

def old (step : Step) : Table ProductKeyId StoredKey := step.before.store.live.productKeys

def new (step : Step) : Table ProductKeyId StoredKey := step.after.store.live.productKeys

def issued? : Step → Option (EditionId × List ProductKey)
  | ⟨_, .generateKeys edition _, .ok keys, _⟩ => some (edition, keys)
  | _ => none

/-- The status that the step gave a key through an edition. -/
def switch? (edition : EditionId) (id : ProductKeyId) : Step → Option KeyStatus
  | ⟨_, .switch status through target, .ok _, _⟩ =>
      if through = edition ∧ target = id then some status else none
  | _ => none

/-- What the step issued has new identifiers and new texts. -/
def Fresh (step : Step) : Prop :=
  ∀ edition keys, step.issued? = some (edition, keys) →
    step.old.Fresh (keys.map ProductKey.id) ∧ (keys.map (·.key.expose)).Nodup ∧
      ∀ key ∈ keys, ∀ stored ∈ step.old.values,
        stored.productKey.key.expose ≠ key.key.expose

end Step

def history : World → List (Circumstances × Call) → List Step
  | _, [] => []
  | world, (circumstances, call) :: rest =>
      let step := Step.take world circumstances call
      step :: history step.after rest

def arrive : World → List (Circumstances × Call) → World
  | world, [] => world
  | world, (circumstances, call) :: rest =>
      arrive (Step.take world circumstances call).after rest

/-- The status that the steps gave a key last through an edition, if they gave it one. -/
def lastSwitch? (edition : EditionId) (id : ProductKeyId) : List Step → Option KeyStatus
  | [] => none
  | step :: later => (lastSwitch? edition id later).or (step.switch? edition id)

def withStatus (stored : StoredKey) (status : KeyStatus) : StoredKey :=
  { stored with productKey := { stored.productKey with status } }

namespace Step

/-- A step keeps all keys, or issues active ones, or gives one of them a status. -/
inductive Effect (step : Step) : Prop where
  | kept (noKeys : step.issued? = none)
      (noSwitch : ∀ edition id, step.switch? edition id = none) (same : step.new = step.old)
  | issued {edition : EditionId} {keys : List ProductKey}
      (issued : step.issued? = some (edition, keys))
      (noSwitch : ∀ edition id, step.switch? edition id = none)
      (active : ∀ key ∈ keys, key.status = .active)
      (valid : ∀ key ∈ keys, ProductKeyText.isValid key.key.expose = true)
      (grown : step.new = step.old.insertAll (keys.map fun key => (key.id, ⟨edition, key⟩)))
  | switched {status : KeyStatus} {id : ProductKeyId} {stored : StoredKey}
      (noKeys : step.issued? = none)
      (given : ∀ edition other, step.switch? edition other =
        if stored.edition = edition ∧ id = other then some status else none)
      (found : step.old.get? id = some stored)
      (changed : step.new = step.old.insert id (withStatus stored status))

section Effect

variable {world after : World} {circumstances : Circumstances}

theorem take_of_ended {call : Call} {answer : Except LauncherError call.Result}
    (ended : exec call.job (world.under circumstances) = (answer, after)) :
    take world circumstances call = ⟨world, call, answer, after⟩ := by
  unfold take
  rw [ended]

theorem effect_of_error {call : Call} {error : LauncherError}
    (untouched : (world.under circumstances).store.Untouched after.store) :
    Effect ⟨world, call, .error error, after⟩ := by
  have same : after.store.live = world.store.live := untouched.live
  apply Effect.kept
  · cases call <;> rfl
  · intro edition id
    cases call <;> rfl
  · unfold new old
    rw [same]

theorem effect_generateKeys (edition : EditionId) (count : Nat) :
    (take world circumstances (.generateKeys edition count)).Effect := by
  rcases exec_generateKeys_cases edition count (world.under circumstances) with
    ⟨keys, after, ended, outcome⟩ | ⟨error, after, ended, untouched⟩
  · rw [@take_of_ended _ _ _ (.generateKeys edition count) _ ended]
    obtain ⟨symbols, identifiers, after_eq⟩ := outcome.after_eq
    apply Effect.issued
    · rfl
    · intro _ _
      rfl
    · exact outcome.new.active
    · intro key membership
      obtain ⟨stream, drawn⟩ := outcome.new.drawn key membership
      rw [drawn]
      exact ProductKeyText.isValid_draw stream
    · unfold new old
      rw [after_eq]
      exact productKeys_insertProductKeys world.store.live edition keys
  · rw [@take_of_ended _ _ _ (.generateKeys edition count) _ ended]
    exact effect_of_error untouched

theorem effect_redeem (seconds : Nat) (text : String) :
    (take world circumstances (.redeem seconds text)).Effect := by
  rcases exec_redeem_cases seconds text (world.under circumstances) with
    ⟨key, session, after, ended, outcome⟩ | ⟨error, after, ended, untouched⟩
  · rw [@take_of_ended _ _ _ (.redeem seconds text) _ ended]
    refine .kept rfl (fun _ _ => rfl) ?_
    unfold new old
    rw [outcome.after_eq]
    rfl
  · rw [@take_of_ended _ _ _ (.redeem seconds text) _ ended]
    exact effect_of_error untouched

theorem effect_switch (status : KeyStatus) (edition : EditionId) (id : ProductKeyId) :
    (take world circumstances (.switch status edition id)).Effect := by
  have same : (Call.switch status edition id).job = setStatus status edition id := by
    cases status <;> rfl
  rcases exec_setStatus_cases status edition id (world.under circumstances) with
    ⟨stored, key, after, ended, outcome⟩ | ⟨error, after, ended, untouched⟩
  · rw [← same] at ended
    rw [take_of_ended ended]
    refine .switched rfl (by rw [outcome.owned]; exact fun _ _ => rfl) outcome.found ?_
    rcases outcome.after_eq with ⟨already, after_eq⟩ | ⟨-, -, after_eq⟩
    · have unchanged : withStatus stored status = stored := by
        unfold withStatus
        rw [← already]
      rw [unchanged]
      unfold new old
      rw [after_eq]
      exact (Table.insert_same outcome.found).symm
    · unfold new old
      rw [after_eq, outcome.key_eq]
      rfl
  · rw [← same] at ended
    rw [take_of_ended ended]
    exact effect_of_error untouched

theorem effect_sweep : (take world circumstances .sweep).Effect := by
  have swept : (exec (Sweep.run.mapError LauncherError.ofStore)
      (world.under circumstances)).2.store.live.productKeys = world.store.live.productKeys := by
    unfold Sweep.run
    rw [exec_mapError, exec_get_bind, exec_mutate]
    split
    · rfl
    · rcases Store.deleteExpiredSessions_cases (world.under circumstances).store
          circumstances.clock with
        ⟨-, nothing⟩ | ⟨-, removed⟩ | ⟨error, after, failed, untouched⟩
      · rw [World.under_clock, nothing]
        rfl
      · rw [World.under_clock, removed]
        rfl
      · rw [World.under_clock, failed]
        exact congrArg Document.productKeys untouched.live
  exact .kept rfl (fun _ _ => rfl) swept

theorem effect_take (world : World) (circumstances : Circumstances) (call : Call) :
    (take world circumstances call).Effect := by
  cases call with
  | generateKeys edition count => exact effect_generateKeys edition count
  | listKeys edition status =>
      have kept : (listKeys edition status).Keeps World.store := keeps_listKeys edition status
      refine .kept rfl (fun _ _ => rfl) ?_
      exact congrArg (·.live.productKeys) (kept (world.under circumstances))
  | switch status edition id => exact effect_switch status edition id
  | redeem seconds text => exact effect_redeem seconds text
  | validateSession token now =>
      have kept : (Job.ask (·.validateSession token now)).Keeps World.store := .ask _
      refine .kept rfl (fun _ _ => rfl) ?_
      exact congrArg (·.live.productKeys) (kept (world.under circumstances))
  | sweep => exact effect_sweep

end Effect

section Keys

variable {step : Step} {edition : EditionId} {keys : List ProductKey}

theorem get?_insertAll_iff {table : Table ProductKeyId StoredKey}
    (newIds : table.Fresh (keys.map ProductKey.id)) {id : ProductKeyId} {stored : StoredKey} :
    (table.insertAll (keys.map fun key => (key.id, ⟨edition, key⟩))).get? id = some stored ↔
      table.get? id = some stored ∨ ∃ key ∈ keys, key.id = id ∧ ⟨edition, key⟩ = stored := by
  rw [← map_fst_issued edition] at newIds
  rw [Table.get?_eq_some_iff, Table.get?_eq_some_iff, Table.entries_insertAll newIds,
    List.mem_append, List.mem_map]
  simp only [Prod.mk.injEq]

/-- A step keeps every key, up to a status that it gives the key through its own edition. -/
theorem get?_new (effect : step.Effect) (fresh : step.Fresh) {id : ProductKeyId}
    {stored : StoredKey} (there : step.old.get? id = some stored) :
    step.new.get? id = some
      (withStatus stored ((step.switch? stored.edition id).getD stored.productKey.status)) := by
  cases effect with
  | kept noKeys noSwitch same =>
      rw [same, noSwitch]
      exact there
  | @issued edition keys issued noSwitch active valid grown =>
      obtain ⟨newIds, -, -⟩ := fresh _ _ issued
      have absent : id ∉ (keys.map fun key =>
          (key.id, (⟨edition, key⟩ : StoredKey))).map Prod.fst := by
        rw [map_fst_issued]
        intro membership
        rw [newIds.2 id membership] at there
        contradiction
      rw [grown, Table.get?_insertAll_of_notMem _ absent, noSwitch]
      exact there
  | @switched status target switchedKey noKeys given found changed =>
      rw [changed, Table.get?_insert, given]
      by_cases here : target = id
      · subst here
        rw [there] at found
        cases found
        simp
      · rw [if_neg here, if_neg fun both => here both.2]
        exact there

end Keys

end Step

/--
A key of an edition stands under its identifier with a status, and is the only one with its
text, which is written like a key.
-/
structure Stands (table : Table ProductKeyId StoredKey) (edition : EditionId) (key : ProductKey)
    (status : KeyStatus) : Prop where
  valid : ProductKeyText.isValid key.key.expose = true
  there : table.get? key.id = some ⟨edition, { key with status }⟩
  sole : ∀ id stored, table.get? id = some stored →
    stored.productKey.key.expose = key.key.expose → id = key.id

section Stands

variable {step : Step} {edition : EditionId} {key : ProductKey} {status : KeyStatus}

theorem stands_of_inserted {table : Table ProductKeyId StoredKey} {keys : List ProductKey}
    (newIds : table.Fresh (keys.map ProductKey.id)) (distinct : (keys.map (·.key.expose)).Nodup)
    (newTexts : ∀ key ∈ keys, ∀ stored ∈ table.values,
      stored.productKey.key.expose ≠ key.key.expose)
    (valid : ProductKeyText.isValid key.key.expose = true) (membership : key ∈ keys) :
    Stands (table.insertAll (keys.map fun key => (key.id, ⟨edition, key⟩))) edition key
      key.status := by
  constructor
  · exact valid
  · exact (Step.get?_insertAll_iff newIds).mpr (.inr ⟨key, membership, rfl, rfl⟩)
  · intro id stored there sameText
    rcases (Step.get?_insertAll_iff newIds).mp there with
      old | ⟨other, otherIssued, otherId, rfl⟩
    · have inValues := Table.mem_values_iff.mpr ⟨id, old⟩
      exact absurd sameText (newTexts key membership stored inValues)
    · have sameKey := List.inj_on_of_nodup_map distinct otherIssued membership sameText
      rw [← otherId, sameKey]

theorem stands_of_issued (effect : step.Effect) (fresh : step.Fresh) {keys : List ProductKey}
    (issued : step.issued? = some (edition, keys)) (membership : key ∈ keys) :
    Stands step.new edition key .active := by
  cases effect with
  | kept noKeys noSwitch same =>
      rw [noKeys] at issued
      contradiction
  | switched noKeys given found changed =>
      rw [noKeys] at issued
      contradiction
  | issued same noSwitch active valid grown =>
      rw [issued] at same
      cases same
      obtain ⟨newIds, distinct, newTexts⟩ := fresh _ _ issued
      rw [grown, ← active key membership]
      exact stands_of_inserted newIds distinct newTexts (valid key membership) membership

theorem stands_insertAll {table : Table ProductKeyId StoredKey} {other : EditionId}
    {keys : List ProductKey} (newIds : table.Fresh (keys.map ProductKey.id))
    (newTexts : ∀ key ∈ keys, ∀ stored ∈ table.values,
      stored.productKey.key.expose ≠ key.key.expose)
    (stands : Stands table edition key status) :
    Stands (table.insertAll (keys.map fun key => (key.id, ⟨other, key⟩))) edition key status := by
  refine ⟨stands.valid, (Step.get?_insertAll_iff newIds).mpr (.inl stands.there), ?_⟩
  intro id stored there sameText
  rcases (Step.get?_insertAll_iff newIds).mp there with old | ⟨new, issued, -, rfl⟩
  · exact stands.sole id stored old sameText
  · have oldText := newTexts new issued _ (Table.mem_values_iff.mpr ⟨_, stands.there⟩)
    exact absurd sameText.symm oldText

theorem stands_switched {table : Table ProductKeyId StoredKey} {target : ProductKeyId}
    {switched : StoredKey} (given : KeyStatus) (found : table.get? target = some switched)
    (stands : Stands table edition key status) :
    Stands (table.insert target (withStatus switched given)) edition key
      (if target = key.id then given else status) := by
  refine ⟨stands.valid, ?_, ?_⟩
  · rw [Table.get?_insert]
    by_cases here : target = key.id
    · rw [here, stands.there] at found
      cases found
      rw [if_pos here, if_pos here]
      rfl
    · rw [if_neg here, if_neg here]
      exact stands.there
  · intro id stored there sameText
    rw [Table.get?_insert] at there
    by_cases here : target = id
    · rw [if_pos here] at there
      cases there
      exact stands.sole id switched (here ▸ found) sameText
    · rw [if_neg here] at there
      exact stands.sole id stored there sameText

theorem stands_step (effect : step.Effect) (fresh : step.Fresh)
    (stands : Stands step.old edition key status) :
    Stands step.new edition key ((step.switch? edition key.id).getD status) := by
  cases effect with
  | kept noKeys noSwitch same =>
      rw [same, noSwitch]
      exact stands
  | issued issued noSwitch active valid grown =>
      obtain ⟨newIds, -, newTexts⟩ := fresh _ _ issued
      rw [grown, noSwitch]
      exact stands_insertAll newIds newTexts stands
  | @switched given target switched noKeys switch found changed =>
      have stood := stands_switched given found stands
      rw [changed, switch]
      by_cases here : target = key.id
      · have owner : switched.edition = edition := by
          rw [here, stands.there] at found
          cases found
          rfl
        rw [if_pos here] at stood
        rw [if_pos ⟨owner, here⟩]
        exact stood
      · rw [if_neg here] at stood
        rw [if_neg fun both => here both.2]
        exact stood

theorem stands_arrive {world : World} (calls : List (Circumstances × Call))
    (fresh : ∀ step ∈ history world calls, step.Fresh)
    (stands : Stands world.store.live.productKeys edition key status) :
    Stands (arrive world calls).store.live.productKeys edition key
      ((lastSwitch? edition key.id (history world calls)).getD status) := by
  induction calls generalizing world status with
  | nil => exact stands
  | cons visited rest inductionHypothesis =>
      obtain ⟨circumstances, call⟩ := visited
      rw [history, List.forall_mem_cons] at fresh
      obtain ⟨freshNow, freshLater⟩ := fresh
      have stepped := stands_step (Step.effect_take world circumstances call) freshNow stands
      have later := inductionHypothesis freshLater stepped
      simp only [history, lastSwitch?, Option.getD_or]
      exact later

theorem found_of_stands {document : Document}
    (stands : Stands document.productKeys edition key status) :
    document.findProductKey key.key.expose = some { key with status } := by
  have only : ∀ other ∈ document.productKeys.values,
      decide (other.productKey.key.expose = key.key.expose) = true →
        other = ⟨edition, { key with status }⟩ := by
    intro other membership sameText
    obtain ⟨id, there⟩ := Table.mem_values_iff.mp membership
    have sameId := stands.sole id other there (of_decide_eq_true sameText)
    rw [sameId, stands.there] at there
    exact (Option.some.inj there).symm
  unfold Document.findProductKey
  rw [Table.search_eq_some_of_unique stands.there (decide_eq_true rfl) only]
  rfl

end Stands

/--
Whatever the circumstances are in which the text of the key is looked up: if the key is active
and the new session can be written, then redeeming the text gives a session for the key; if the
key is not active, then the text is refused and nothing changes.
-/
def Redeems (world : World) (key : ProductKey) (status : KeyStatus) : Prop :=
  ∀ (seconds : Nat) (circumstances : Circumstances), circumstances.faults .findProductKey = none →
    let now := world.under circumstances
    let redemption := exec (redeem seconds key.key.expose) now
    (status = .active → circumstances.faults .saveLauncherSession = none →
      now.store.disk.refusal? = none →
        ∃ session after, redemption = (.ok session, after) ∧
          after.store.live.launcherSessions.get? session.id = some ⟨key.id, session⟩) ∧
    (status ≠ .active → redemption = (.error .invalidKey, now))

theorem redeems_of_stands {world : World} {edition : EditionId} {key : ProductKey}
    {status : KeyStatus} (stands : Stands world.store.live.productKeys edition key status) :
    Redeems world key status := by
  intro seconds circumstances reads now redemption
  have found : now.store.live.findProductKey key.key.expose = some { key with status } :=
    found_of_stands stands
  constructor
  · intro active saves accepts
    obtain ⟨after, ended, redeemed⟩ := @exec_redeem_of_accepts seconds _ now _ stands.valid reads
      found active saves accepts
    refine ⟨_, after, ended, ?_⟩
    rw [redeemed.after_eq]
    simp [Document.insertLauncherSession, Table.get?_insert]
  · intro inactive
    exact exec_redeem_of_inactive reads found inactive

theorem history_split {world : World} {calls : List (Circumstances × Call)} {earlier : List Step}
    {step : Step} {later : List Step} (split : history world calls = earlier ++ step :: later) :
    ∃ before circumstances call rest, step = Step.take before circumstances call ∧
      later = history step.after rest ∧ arrive world calls = arrive step.after rest := by
  induction earlier generalizing world calls with
  | nil =>
      cases calls with
      | nil => simp [history] at split
      | cons visited rest =>
          obtain ⟨circumstances, call⟩ := visited
          simp only [history, List.nil_append, List.cons.injEq] at split
          obtain ⟨rfl, rfl⟩ := split
          exact ⟨world, circumstances, call, rest, rfl, rfl, rfl⟩
  | cons first earlier inductionHypothesis =>
      cases calls with
      | nil => simp [history] at split
      | cons visited rest =>
          obtain ⟨circumstances, call⟩ := visited
          simp only [history, List.cons_append, List.cons.injEq] at split
          have shorter := inductionHypothesis split.2
          exact shorter

/--
The life of product keys, over every run whose newly issued keys have new identifiers and texts.
A step keeps every key, up to a status that it gives the key through its own edition.  A key that
a step issued stands after the run under the same identifier with the same edition, text and
time; it is active exactly when the last switch of it since then made it so or there was none;
and it is redeemed exactly while it is active.
-/
theorem history_lifecycle (world : World) (calls : List (Circumstances × Call))
    (fresh : ∀ step ∈ history world calls, step.Fresh) :
    (∀ step ∈ history world calls, ∀ id stored, step.old.get? id = some stored →
      step.new.get? id = some
        (withStatus stored ((step.switch? stored.edition id).getD stored.productKey.status))) ∧
    ∀ earlier step later, history world calls = earlier ++ step :: later →
      ∀ edition keys, step.issued? = some (edition, keys) → ∀ key ∈ keys,
        ∃ status,
          (arrive world calls).store.live.productKeys.get? key.id =
            some ⟨edition, { key with status }⟩ ∧
          (status = .active ↔ lastSwitch? edition key.id later = some .active ∨
            lastSwitch? edition key.id later = none) ∧
          Redeems (arrive world calls) key status := by
  constructor
  · intro step membership id stored there
    obtain ⟨earlier, later, split⟩ := List.append_of_mem membership
    obtain ⟨before, circumstances, call, rest, taken, -, -⟩ := history_split split
    have effect := Step.effect_take before circumstances call
    rw [← taken] at effect
    exact Step.get?_new effect (fresh step membership) there
  · intro earlier step later split edition keys issued key membership
    obtain ⟨before, circumstances, call, rest, taken, laterSteps, arrived⟩ := history_split split
    have effect := Step.effect_take before circumstances call
    rw [← taken] at effect
    rw [split] at fresh
    have freshNow := fresh step (by simp)
    have freshLater : ∀ other ∈ history step.after rest, other.Fresh := by
      intro other visited
      apply fresh
      simp [laterSteps, visited]
    have stood := stands_of_issued effect freshNow issued membership
    have stands := stands_arrive rest freshLater stood
    rw [← laterSteps, ← arrived] at stands
    refine ⟨_, stands.there, ?_, redeems_of_stands stands⟩
    cases lastSwitch? edition key.id later <;> simp

def stocked : World where
  store := {
    live := { editions := Table.empty.insert ⟨1⟩ ⟨⟨1⟩, "", none, [], [], 0⟩ }
    disk := {} }
  clock := 0
  symbols := ⟨List.replicate 64 0, 0⟩
  identifiers := ⟨List.replicate 16 0, 0⟩
  provider := ⟨fun _ _ => .error .invalidSession, fun _ => .error .invalidSession,
    fun _ => .error .invalidSession⟩

def zeros : ProductKey where
  id := ⟨0x00000000000040008000000000000000⟩
  key := ⟨"00000-00000-00000-00000-00000"⟩
  status := .active
  createdAt := 0

/-- A key is issued and revoked, and then switched on through an edition that it is not of. -/
theorem history_lifecycle_stocked :
    let calm : Circumstances := ⟨0, 0, Faults.none, stocked.provider, none⟩
    let calls : List (Circumstances × Call) :=
      [(calm, .generateKeys ⟨1⟩ 1), (calm, .switch .inactive ⟨1⟩ zeros.id),
        (calm, .switch .active ⟨2⟩ zeros.id)]
    (history stocked calls).map Step.issued? = [some (⟨1⟩, [zeros]), none, none] ∧
      (∀ step ∈ history stocked calls, step.Fresh) ∧
      (arrive stocked calls).store.live.productKeys.get? zeros.id =
        some ⟨⟨1⟩, { zeros with status := .inactive }⟩ ∧
      Redeems (arrive stocked calls) zeros .inactive := by
  intro calm calls
  have issued : (history stocked calls).map Step.issued? = [some (⟨1⟩, [zeros]), none, none] := by
    decide +kernel
  have fresh : ∀ step ∈ history stocked calls, step.Fresh := by
    have steps : ∀ step ∈ history stocked calls, step.issued? = none ∨
        step.issued? = some (⟨1⟩, [zeros]) ∧ step.old = Table.empty := by
      decide +kernel
    intro step visited edition keys some_
    rcases steps step visited with none | ⟨one, empty⟩
    · rw [none] at some_
      contradiction
    · rw [one] at some_
      cases some_
      rw [empty]
      decide
  obtain ⟨status, there, active_iff, redeems⟩ := (history_lifecycle stocked calls fresh).2 [] _ _ rfl
    ⟨1⟩ [zeros] (by decide +kernel) zeros (by simp)
  have revoked : lastSwitch? ⟨1⟩ zeros.id (history stocked calls).tail = some .inactive := by
    decide +kernel
  have inactive : status = .inactive := by
    cases status with
    | inactive => rfl
    | active =>
        rcases active_iff.mp rfl with last | last
        · exact nomatch revoked.symm.trans last
        · exact nomatch revoked.symm.trans last
  rw [inactive] at there redeems
  exact ⟨issued, fresh, there, redeems⟩

end GameCatalog.Launcher
