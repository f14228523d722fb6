import GameCatalog.Proofs.Launcher.Session

/-!
Where the token of a launcher leads.  A run is a sequence of acts: services for launchers are
called, the store is changed directly, the store file is read again.  As long as the identifiers,
the texts of keys and the tokens that are put in are new, a token that was given for a key of an
edition leads to that edition ever after, through one session and one key.
-/

namespace GameCatalog.Launcher

open Job

/--
What can be done to the catalogue: a service for launchers is called, an operation of the store
changes the document, or the store file is read again.
-/
inductive Act where
  | service (call : Call)
  | mutate (mutation : Store.Mutation)
  | reload

namespace Act

def perform (world : World) (circumstances : Circumstances) : Act → World
  | service call => (Step.take world circumstances call).after
  | mutate mutation =>
      let now := world.under circumstances
      { now with store := (mutation.perform now.store).2 }
  | reload =>
      let now := world.under circumstances
      { now with store := now.store.reload.2 }

def issues? (world : World) (circumstances : Circumstances) :
    Act → Option (EditionId × List ProductKey)
  | service call => (Step.take world circumstances call).issued?
  | mutate (.saveProductKeys edition keys) => some (edition, keys)
  | _ => none

def gives? (world : World) (circumstances : Circumstances) : Act → Option LauncherSession
  | service call => (Step.take world circumstances call).given?.map Prod.snd
  | mutate (.saveLauncherSession _ session) => some session
  | _ => none

/--
What the act puts in is new: the identifiers and the texts of keys, the identifier of a session,
and its token, which is not among those that were used before either.
-/
structure Fresh (used : List String) (world : World) (circumstances : Circumstances)
    (act : Act) : Prop where
  keys : ∀ edition keys, act.issues? world circumstances = some (edition, keys) →
    world.store.live.productKeys.Fresh (keys.map ProductKey.id) ∧
      (keys.map (·.key.expose)).Nodup ∧
      ∀ key ∈ keys, ∀ stored ∈ world.store.live.productKeys.values,
        stored.productKey.key.expose ≠ key.key.expose
  session : ∀ session, act.gives? world circumstances = some session →
    world.store.live.launcherSessions.get? session.id = none ∧
      (∀ stored ∈ world.store.live.launcherSessions.values,
        stored.session.accessToken.expose ≠ session.accessToken.expose) ∧
      session.accessToken.expose ∉ used

end Act

def afterActs : World → List (Circumstances × Act) → World
  | world, [] => world
  | world, (circumstances, act) :: rest => afterActs (act.perform world circumstances) rest

def usedAfter : List String → World → List (Circumstances × Act) → List String
  | used, _, [] => used
  | used, world, (circumstances, act) :: rest =>
      usedAfter ((act.gives? world circumstances).toList.map (·.accessToken.expose) ++ used)
        (act.perform world circumstances) rest

def FreshActs : List String → World → List (Circumstances × Act) → Prop
  | _, _, [] => True
  | used, world, (circumstances, act) :: rest =>
      act.Fresh used world circumstances ∧
        FreshActs (usedAfter used world [(circumstances, act)]) (act.perform world circumstances)
          rest

/--
What a mutation of the store does to keys, sessions and editions: it spares them, or puts in keys
or a session, or switches a key, or takes out the sessions that are over.
-/
inductive Touch (mutation : Store.Mutation) (before after : Document) : Prop where
  | spared (spares : Spares before after)
  | issued {edition : EditionId} {keys : List ProductKey}
      (saves : mutation = .saveProductKeys edition keys)
      (after_eq : after = before.insertProductKeys edition keys)
  | switched {id : ProductKeyId} {status : KeyStatus} {stored : StoredKey}
      (found : before.productKeys.get? id = some stored)
      (after_eq : after = {
        before with productKeys := before.productKeys.insert id (withStatus stored status) })
  | given {id : ProductKeyId} {session : LauncherSession}
      (saves : mutation = .saveLauncherSession id session)
      (after_eq : after = before.insertLauncherSession id session)
  | swept {clock : Instant} (after_eq : after = before.dropExpiredSessions clock)

theorem touch_of_planned {mutation : Store.Mutation} {before after : Document}
    (planned : mutation.next? before = some after) : Touch mutation before after := by
  cases mutation with
  | insertEdition edition =>
      cases planned
      exact .spared ⟨rfl, rfl, fun _ => Table.isSome_get?_insert edition⟩
  | insertGame game =>
      cases planned
      exact .spared ⟨rfl, rfl, fun _ known => known⟩
  | grantAdmin user =>
      cases planned
      unfold Document.grantAdmin
      split
      · exact .spared ⟨rfl, rfl, fun _ known => known⟩
      · exact .spared ⟨rfl, rfl, fun _ known => known⟩
  | setGameRole game user role =>
      cases planned
      exact .spared ⟨rfl, rfl, fun _ known => known⟩
  | updateVisibility id visibility =>
      simp only [Store.Mutation.next?, Document.updateVisibility] at planned
      split at planned
      · contradiction
      · cases planned
        exact .spared ⟨rfl, rfl, fun _ known => known⟩
  | saveProductKeys edition keys =>
      cases planned
      exact .issued rfl rfl
  | updateProductKeyStatus id status =>
      simp only [Store.Mutation.next?, Document.updateProductKeyStatus] at planned
      split at planned
      · contradiction
      · rename_i stored found
        cases planned
        exact .switched found rfl
  | saveLauncherSession id session =>
      cases planned
      exact .given rfl rfl
  | deleteExpiredSessions clock =>
      simp only [Store.Mutation.next?] at planned
      split at planned
      · contradiction
      · cases planned
        exact .swept rfl

theorem touch_perform {store : Store} (mutation : Store.Mutation) (synced : store.Synced) :
    Touch mutation store.live (mutation.perform store).2.live ∧
      (mutation.perform store).2.Synced := by
  have ended := mutation.ending store
  generalize mutation.perform store = outcome at ended
  cases ended with
  | written planned => exact ⟨touch_of_planned planned, Store.synced_written _ _⟩
  | idle nothing => exact ⟨.spared ⟨rfl, rfl, fun _ known => known⟩, synced⟩
  | failed untouched =>
      rw [untouched.live]
      exact ⟨.spared ⟨rfl, rfl, fun _ known => known⟩, synced_of_untouched untouched synced⟩

def lastInstant : Instant := UInt64.ofNat Instant.last

theorem le_lastInstant (instant : Instant) : instant ≤ lastInstant := by
  have same : lastInstant.toNat = Instant.last := by decide
  have below := instant.toNat_lt
  rw [UInt64.le_iff_toNat_le, same]
  unfold Instant.last
  omega

section Preservation

variable {edition : EditionId} {key : ProductKey} {session : LauncherSession}
  {used : List String} {world : World} {circumstances : Circumstances} {act : Act}

theorem backed_touch {before after : Store} {mutation : Store.Mutation}
    (touch : Touch mutation before.live after.live) (synced : after.Synced)
    (fresh : ∀ other keys, mutation = .saveProductKeys other keys →
      before.live.productKeys.Fresh (keys.map ProductKey.id) ∧
        ∀ key ∈ keys, ∀ stored ∈ before.live.productKeys.values,
          stored.productKey.key.expose ≠ key.key.expose)
    (backed : Backed before edition key) : Backed after edition key := by
  obtain ⟨status, stands⟩ := backed.stands
  cases touch with
  | spared spares => exact backed_spared spares synced backed
  | issued saves after_eq =>
      obtain ⟨newIds, newTexts⟩ := fresh _ _ saves
      refine ⟨synced, ?_, ?_⟩ <;> rw [after_eq]
      · exact backed.known
      · rw [productKeys_insertProductKeys]
        exact ⟨status, stands_insertAll newIds newTexts stands⟩
  | switched found after_eq =>
      refine ⟨synced, ?_, ?_⟩ <;> rw [after_eq]
      · exact backed.known
      · exact ⟨_, stands_switched _ found stands⟩
  | given _ after_eq | swept after_eq =>
      refine ⟨synced, ?_, ?_⟩ <;> rw [after_eq]
      · exact backed.known
      · exact backed.stands

theorem lasts_touch {before after : Document} {mutation : Store.Mutation}
    (touch : Touch mutation before after)
    (fresh : ∀ id other, mutation = .saveLauncherSession id other →
      before.launcherSessions.get? other.id = none ∧
        other.accessToken.expose ≠ session.accessToken.expose)
    (lasts : Lasts before key session lastInstant) : Lasts after key session lastInstant := by
  cases touch with
  | spared spares => exact lasts_spared spares lasts
  | issued _ after_eq | switched _ after_eq =>
      rw [after_eq]
      exact ⟨lasts.there, lasts.sole⟩
  | given saves after_eq =>
      obtain ⟨newId, otherToken⟩ := fresh _ _ saves
      rw [after_eq]
      exact lasts_insertLauncherSession _ newId otherToken lasts
  | swept after_eq =>
      rw [after_eq]
      exact lasts_dropExpiredSessions (le_lastInstant _) lasts

theorem backed_perform (fresh : act.Fresh used world circumstances)
    (backed : Backed world.store edition key) :
    Backed (act.perform world circumstances).store edition key := by
  have backedNow : Backed (world.under circumstances).store edition key :=
    ⟨backed.synced, backed.known, backed.stands⟩
  cases act with
  | service call => exact backed_take fresh.keys backed
  | mutate mutation =>
      obtain ⟨touch, synced⟩ := touch_perform mutation backedNow.synced
      apply backed_touch touch synced _ backedNow
      rintro other keys rfl
      obtain ⟨newIds, -, newTexts⟩ := fresh.keys other keys rfl
      exact ⟨newIds, newTexts⟩
  | reload =>
      unfold Act.perform
      dsimp only
      rw [Store.reload_of_synced backedNow.synced]
      exact backedNow

theorem freshSession_of_fresh {call : Call}
    (fresh : Act.Fresh used world circumstances (.service call)) :
    (Step.take world circumstances call).FreshSession := by
  intro text session given
  have gives : Act.gives? world circumstances (.service call) = some session := by
    simp [Act.gives?, given]
  obtain ⟨newId, newToken, -⟩ := fresh.session session gives
  exact ⟨newId, newToken⟩

/-- An act that puts in only what is new puts in no second session with a token that was used. -/
theorem lasts_perform (fresh : act.Fresh used world circumstances)
    (usedToken : session.accessToken.expose ∈ used) (synced : world.store.Synced)
    (lasts : Lasts world.store.live key session lastInstant) :
    Lasts (act.perform world circumstances).store.live key session lastInstant := by
  have syncedNow : (world.under circumstances).store.Synced := synced
  have otherToken : ∀ other, act.gives? world circumstances = some other →
      other.accessToken.expose ≠ session.accessToken.expose := by
    intro other gives same
    obtain ⟨-, -, unused⟩ := fresh.session other gives
    rw [same] at unused
    exact unused usedToken
  cases act with
  | service call =>
      have gives : ∀ text other, (Step.take world circumstances call).given? = some (text, other) →
          Act.gives? world circumstances (.service call) = some other := by
        intro text other given
        simp [Act.gives?, given]
      apply lasts_take _ _ _ lasts
      · exact freshSession_of_fresh fresh
      · exact fun text other given => otherToken other (gives text other given)
      · exact fun _ => le_lastInstant _
  | mutate mutation =>
      apply lasts_touch (touch_perform mutation syncedNow).1 _ lasts
      rintro id other rfl
      exact ⟨(fresh.session other rfl).1, otherToken other rfl⟩
  | reload =>
      unfold Act.perform
      dsimp only
      rw [Store.reload_of_synced syncedNow]
      exact lasts

theorem freshActs_append {first second : List (Circumstances × Act)} :
    FreshActs used world (first ++ second) ↔
      FreshActs used world first ∧
        FreshActs (usedAfter used world first) (afterActs world first) second := by
  induction first generalizing used world with
  | nil => simp [FreshActs, usedAfter, afterActs]
  | cons done rest inductionHypothesis =>
      simp only [List.cons_append, FreshActs, inductionHypothesis, usedAfter, afterActs, and_assoc]

theorem backed_afterActs {acts : List (Circumstances × Act)} (fresh : FreshActs used world acts)
    (backed : Backed world.store edition key) :
    Backed (afterActs world acts).store edition key := by
  induction acts generalizing used world with
  | nil => exact backed
  | cons done rest inductionHypothesis =>
      exact inductionHypothesis fresh.2 (backed_perform fresh.1 backed)

theorem lasts_afterActs {acts : List (Circumstances × Act)} (fresh : FreshActs used world acts)
    (usedToken : session.accessToken.expose ∈ used) (backed : Backed world.store edition key)
    (lasts : Lasts world.store.live key session lastInstant) :
    Lasts (afterActs world acts).store.live key session lastInstant := by
  induction acts generalizing used world with
  | nil => exact lasts
  | cons done rest inductionHypothesis =>
      have usedLater : session.accessToken.expose ∈ usedAfter used world [done] :=
        List.mem_append_right _ usedToken
      exact inductionHypothesis fresh.2 usedLater (backed_perform fresh.1 backed)
        (lasts_perform fresh.1 usedToken backed.synced lasts)

end Preservation

/--
The token was given for a key that had been issued for the edition, in a run that put in only
what was new and led to this world.
-/
inductive Obtained (edition : EditionId) (token : String) : World → Prop where
  | intro {world : World} {first second : Circumstances} {count seconds : Nat}
      {between later : List (Circumstances × Act)} {keys : List ProductKey} {key : ProductKey}
      {session : LauncherSession} (issue redemption : Step)
      (issue_eq : issue = Step.take world first (.generateKeys edition count))
      (issued : issue.issued? = some (edition, keys)) (membership : key ∈ keys)
      (redemption_eq : redemption =
        Step.take (afterActs issue.after between) second (.redeem seconds key.key.expose))
      (given : redemption.given? = some (key.key.expose, session))
      (token_eq : session.accessToken.expose = token)
      (fresh : FreshActs [] world ((first, .service (.generateKeys edition count)) ::
        (between ++ (second, .service (.redeem seconds key.key.expose)) :: later))) :
      Obtained edition token (afterActs redemption.after later)

/-- The token leads to the edition: all sessions with it are one, and the key of that is of it. -/
structure Leads (document : Document) (token : String) (edition : EditionId) : Prop where
  sole : ∀ first ∈ document.launcherSessions.values, ∀ second ∈ document.launcherSessions.values,
    first.session.accessToken.expose = token → second.session.accessToken.expose = token →
      first = second
  owned : ∀ stored ∈ document.launcherSessions.values, stored.session.accessToken.expose = token →
    ∀ key, document.productKeys.get? stored.productKey = some key → key.edition = edition

theorem leads_of_lasts {store : Store} {edition : EditionId} {key : ProductKey}
    {session : LauncherSession} (backed : Backed store edition key)
    (lasts : Lasts store.live key session lastInstant) :
    Leads store.live session.accessToken.expose edition := by
  constructor
  · intro first firstThere second secondThere firstToken secondToken
    rw [lasts.sole first firstThere firstToken, lasts.sole second secondThere secondToken]
  · intro stored membership sameToken other there
    obtain ⟨status, stands⟩ := backed.stands
    rw [lasts.sole stored membership sameToken, stands.there] at there
    cases there
    rfl

/-- A token that was obtained for an edition leads to it ever after. -/
theorem leads_of_obtained {edition : EditionId} {token : String} {world : World}
    (obtained : Obtained edition token world) : Leads world.store.live token edition := by
  cases obtained with
  | @intro start first second count seconds between later keys key session issue redemption
      issue_eq issued membership redemption_eq given token_eq fresh =>
      have issueActed : Act.perform start first (.service (.generateKeys edition count)) =
          issue.after := by rw [issue_eq]; rfl
      have redemptionActed : Act.perform (afterActs issue.after between) second
          (.service (.redeem seconds key.key.expose)) = redemption.after := by
        rw [redemption_eq]
        rfl
      obtain ⟨freshIssue, freshRest⟩ := fresh
      rw [issueActed] at freshRest
      obtain ⟨freshBetween, freshRedemption, freshLater⟩ := freshActs_append.mp freshRest
      rw [redemptionActed] at freshLater
      have backedIssue : Backed issue.after.store edition key := by
        rw [issue_eq] at issued ⊢
        exact backed_of_issued issued freshIssue.keys membership
      have backedBetween := backed_afterActs freshBetween backedIssue
      have backedRedemption := backed_perform freshRedemption backedBetween
      rw [redemptionActed] at backedRedemption
      have lasts : Lasts redemption.after.store.live key session lastInstant := by
        rw [redemption_eq] at given ⊢
        exact lasts_of_given (freshSession_of_fresh freshRedemption) backedBetween given
      have backedFinal := backed_afterActs freshLater backedRedemption
      rw [← token_eq]
      refine leads_of_lasts backedFinal (lasts_afterActs freshLater ?_ backedRedemption lasts)
      rw [redemption_eq] at given
      simp [usedAfter, Act.gives?, given]

end GameCatalog.Launcher
