import GameCatalog.Proofs.Launcher.Lifecycle
import GameCatalog.Proofs.Store.Durability

/-!
The life of a launcher session.  Once a key was redeemed for a session, nothing but time decides
whether the token of the session is good: not what happens to the key, to its edition, to other
sessions, to the games or to the store file, and not which writes fail.
-/

namespace GameCatalog.Launcher

open Job

/--
What can happen to the catalogue: a service for launchers is called, an edition or a game is put
in, who may see a game is changed, or the store file is read again.
-/
inductive Event where
  | service (call : Call)
  | insertEdition (edition : Edition)
  | insertGame (game : Game)
  | updateVisibility (id : GameId) (visibility : Visibility)
  | reload

def Event.happen (now : World) : Event → World
  | service call => (exec call.job now).2
  | insertEdition edition => { now with store := (now.store.insertEdition edition).2 }
  | insertGame game => { now with store := (now.store.insertGame game).2 }
  | updateVisibility id visibility =>
      { now with store := (now.store.updateVisibility id visibility).2 }
  | reload => { now with store := now.store.reload.2 }

def pass : World → List (Circumstances × Event) → World
  | world, [] => world
  | world, (circumstances, event) :: rest => pass (event.happen (world.under circumstances)) rest

def services : World → List (Circumstances × Event) → List Step
  | _, [] => []
  | world, (circumstances, .service call) :: rest =>
      let step := Step.take world circumstances call
      step :: services step.after rest
  | world, (circumstances, event) :: rest =>
      services (event.happen (world.under circumstances)) rest

namespace Step

def given? : Step → Option (String × LauncherSession)
  | ⟨_, .redeem _ text, .ok session, _⟩ => some (text, session)
  | _ => none

def FreshSession (step : Step) : Prop :=
  ∀ text session, step.given? = some (text, session) →
    step.before.store.live.launcherSessions.get? session.id = none ∧
      ∀ stored ∈ step.before.store.live.launcherSessions.values,
        stored.session.accessToken.expose ≠ session.accessToken.expose

/--
What a step does to the store, as far as sessions, editions and games go: it touches nothing, or it
writes other records, or it gives a session for a key, or it takes out the sessions that are over.
-/
inductive Trace (step : Step) (now : Store) (clock : Instant) : Prop where
  | untouched (noSession : step.given? = none) (untouched : now.Untouched step.after.store)
  | kept {next : Document} (noSession : step.given? = none)
      (written : step.after.store = now.written next)
      (games : next.games = now.live.games) (editions : next.editions = now.live.editions)
      (sessions : next.launcherSessions = now.live.launcherSessions)
  | given {text : String} {session : LauncherSession} {key : ProductKey}
      (given : step.given? = some (text, session))
      (found : now.live.findProductKey text = some key)
      (written : step.after.store = now.written (now.live.insertLauncherSession key.id session))
  | swept (noSession : step.given? = none) (sweep : step.call = .sweep)
      (written : step.after.store = now.written (now.live.dropExpiredSessions clock))

section Trace

variable {world after : World} {circumstances : Circumstances}

theorem trace_of_error {call : Call} {error : LauncherError}
    (untouched : (world.under circumstances).store.Untouched after.store) :
    Trace ⟨world, call, .error error, after⟩ (world.under circumstances).store
      circumstances.clock := by
  apply Trace.untouched
  · cases call <;> rfl
  · exact untouched

theorem trace_generateKeys (edition : EditionId) (count : Nat) :
    (take world circumstances (.generateKeys edition count)).Trace
      (world.under circumstances).store circumstances.clock := by
  rcases exec_generateKeys_cases edition count (world.under circumstances) with
    ⟨keys, after, ended, outcome⟩ | ⟨error, after, ended, untouched⟩
  · rw [@take_of_ended _ _ _ (.generateKeys edition count) _ ended]
    obtain ⟨symbols, identifiers, after_eq⟩ := outcome.after_eq
    have written : after.store = (world.under circumstances).store.written
        ((world.under circumstances).store.live.insertProductKeys edition keys) := by
      rw [after_eq]
    exact .kept rfl written rfl rfl rfl
  · rw [@take_of_ended _ _ _ (.generateKeys edition count) _ ended]
    exact trace_of_error untouched

theorem trace_redeem (seconds : Nat) (text : String) :
    (take world circumstances (.redeem seconds text)).Trace (world.under circumstances).store
      circumstances.clock := by
  rcases exec_redeem_cases seconds text (world.under circumstances) with
    ⟨key, session, after, ended, outcome⟩ | ⟨error, after, ended, untouched⟩
  · rw [@take_of_ended _ _ _ (.redeem seconds text) _ ended]
    exact .given rfl outcome.found (by rw [outcome.after_eq])
  · rw [@take_of_ended _ _ _ (.redeem seconds text) _ ended]
    exact trace_of_error untouched

theorem trace_switch (status : KeyStatus) (edition : EditionId) (id : ProductKeyId) :
    (take world circumstances (.switch status edition id)).Trace (world.under circumstances).store
      circumstances.clock := by
  have same : (Call.switch status edition id).job = setStatus status edition id := by
    cases status <;> rfl
  rcases exec_setStatus_cases status edition id (world.under circumstances) with
    ⟨stored, key, after, ended, outcome⟩ | ⟨error, after, ended, untouched⟩
  · rw [← same] at ended
    rw [take_of_ended ended]
    rcases outcome.after_eq with ⟨-, rfl⟩ | ⟨-, -, rfl⟩
    · exact .untouched rfl (.refl _)
    · exact .kept rfl rfl rfl rfl rfl
  · rw [← same] at ended
    rw [take_of_ended ended]
    exact trace_of_error untouched

theorem trace_sweep :
    (take world circumstances .sweep).Trace (world.under circumstances).store
      circumstances.clock := by
  have swept : (take world circumstances .sweep).after.store =
      if (circumstances.faults .deleteExpiredSessions).isSome = true then
        (world.under circumstances).store
      else ((world.under circumstances).store.deleteExpiredSessions circumstances.clock).2 := by
    change (exec (Sweep.run.mapError LauncherError.ofStore) (world.under circumstances)).2.store = _
    unfold Sweep.run
    rw [exec_mapError, exec_get_bind, exec_mutate]
    cases failing : circumstances.faults .deleteExpiredSessions <;> simp [failing]
  split at swept
  · exact .untouched rfl (by rw [swept]; exact .refl _)
  · rcases Store.deleteExpiredSessions_cases (world.under circumstances).store
        circumstances.clock with
      ⟨-, nothing⟩ | ⟨-, removed⟩ | ⟨error, after, failed, untouched⟩
    · exact .untouched rfl (by rw [swept, nothing]; exact .refl _)
    · exact .swept rfl rfl (by rw [swept, removed])
    · exact .untouched rfl (by rw [swept, failed]; exact untouched)

theorem trace_take (world : World) (circumstances : Circumstances) (call : Call) :
    (take world circumstances call).Trace (world.under circumstances).store
      circumstances.clock := by
  cases call with
  | generateKeys edition count => exact trace_generateKeys edition count
  | listKeys edition status =>
      have kept : (take world circumstances (.listKeys edition status)).after.store =
        (world.under circumstances).store := keeps_listKeys edition status _
      exact .untouched rfl (by rw [kept]; exact .refl _)
  | switch status edition id => exact trace_switch status edition id
  | redeem seconds text => exact trace_redeem seconds text
  | validateSession token now =>
      have kept : (take world circumstances (.validateSession token now)).after.store =
        (world.under circumstances).store := Keeps.ask (·.validateSession token now) _
      exact .untouched rfl (by rw [kept]; exact .refl _)
  | sweep => exact trace_sweep

end Trace

end Step

/-- The second document has the keys and the sessions of the first one, and its editions. -/
structure Spares (before after : Document) : Prop where
  keys : after.productKeys = before.productKeys
  sessions : after.launcherSessions = before.launcherSessions
  editions : ∀ id, (before.editions.get? id).isSome = true →
    (after.editions.get? id).isSome = true

section Spares

variable {store after : Store}

theorem synced_of_untouched (untouched : store.Untouched after) (synced : store.Synced) :
    after.Synced := by
  obtain ⟨leftover, rfl⟩ := untouched
  exact synced

theorem spares_commit {Result : Type} {change : Store.Change Result}
    (spared : ∀ result next, change store.live = .ok (result, next) → Spares store.live next)
    (synced : store.Synced) :
    Spares store.live (store.commit change).2.live ∧ (store.commit change).2.Synced := by
  rcases Store.commit_cases store change with
    ⟨result, next, changed, -, committed⟩ | ⟨error, after, committed, untouched⟩
  · rw [committed]
    exact ⟨spared result next changed, Store.synced_written store next⟩
  · rw [committed, untouched.live]
    exact ⟨⟨rfl, rfl, fun _ known => known⟩, synced_of_untouched untouched synced⟩

theorem spares_happen {now : World} {event : Event} (noCall : ∀ call, event ≠ .service call)
    (synced : now.store.Synced) :
    Spares now.store.live (event.happen now).store.live ∧ (event.happen now).store.Synced := by
  cases event with
  | service call => exact absurd rfl (noCall call)
  | insertEdition edition =>
      apply spares_commit _ synced
      rintro _ _ ⟨⟩
      exact ⟨rfl, rfl, fun _ => Table.isSome_get?_insert edition⟩
  | insertGame game =>
      apply spares_commit _ synced
      rintro _ _ ⟨⟩
      exact ⟨rfl, rfl, fun _ known => known⟩
  | updateVisibility id visibility =>
      apply spares_commit _ synced
      intro game next changed
      unfold Document.updateVisibility at changed
      split at changed
      · contradiction
      · cases changed
        exact ⟨rfl, rfl, fun _ known => known⟩
  | reload =>
      unfold Event.happen
      rw [Store.reload_of_synced synced]
      exact ⟨⟨rfl, rfl, fun _ known => known⟩, synced⟩

end Spares

structure Backed (store : Store) (edition : EditionId) (key : ProductKey) : Prop where
  synced : store.Synced
  known : (store.live.editions.get? edition).isSome = true
  stands : ∃ status, Stands store.live.productKeys edition key status

/-- Up to an instant a session is there unless it is over, and no other one has its token. -/
structure Lasts (document : Document) (key : ProductKey) (session : LauncherSession)
    (limit : Instant) : Prop where
  there : limit < session.expiresAt →
    document.launcherSessions.get? session.id = some ⟨key.id, session⟩
  sole : ∀ stored ∈ document.launcherSessions.values,
    stored.session.accessToken.expose = session.accessToken.expose → stored = ⟨key.id, session⟩

section Run

variable {edition : EditionId} {key : ProductKey} {session : LauncherSession} {limit : Instant}

theorem backed_spared {before after : Store} (spared : Spares before.live after.live)
    (synced : after.Synced) (backed : Backed before edition key) : Backed after edition key := by
  constructor
  · exact synced
  · exact spared.editions edition backed.known
  · rw [spared.keys]
    exact backed.stands

theorem synced_and_editions_of_trace {step : Step} {now : Store} {clock : Instant}
    (trace : step.Trace now clock) (synced : now.Synced) :
    step.after.store.Synced ∧ step.after.store.live.editions = now.live.editions := by
  cases trace with
  | untouched noSession untouched =>
      rw [untouched.live]
      exact ⟨synced_of_untouched untouched synced, rfl⟩
  | kept noSession written games editions sessions =>
      rw [written]
      exact ⟨Store.synced_written _ _, editions⟩
  | given given found written =>
      rw [written]
      exact ⟨Store.synced_written _ _, rfl⟩
  | swept noSession sweep written =>
      rw [written]
      exact ⟨Store.synced_written _ _, rfl⟩

theorem backed_take {world : World} {circumstances : Circumstances} {call : Call}
    (fresh : (Step.take world circumstances call).Fresh) (backed : Backed world.store edition key) :
    Backed (Step.take world circumstances call).after.store edition key := by
  obtain ⟨synced, editions⟩ := synced_and_editions_of_trace
    (Step.trace_take world circumstances call) backed.synced
  obtain ⟨status, stands⟩ := backed.stands
  constructor
  · exact synced
  · rw [editions]
    exact backed.known
  · exact ⟨_, stands_step (Step.effect_take world circumstances call) fresh stands⟩

theorem lasts_spared {before after : Document} (spared : Spares before after)
    (lasts : Lasts before key session limit) : Lasts after key session limit := by
  constructor
  · rw [spared.sessions]
    exact lasts.there
  · rw [spared.sessions]
    exact lasts.sole

theorem lasts_insertLauncherSession {document : Document} {other : LauncherSession}
    (id : ProductKeyId) (newId : document.launcherSessions.get? other.id = none)
    (otherToken : other.accessToken.expose ≠ session.accessToken.expose)
    (lasts : Lasts document key session limit) :
    Lasts (document.insertLauncherSession id other) key session limit := by
  unfold Document.insertLauncherSession
  constructor
  · intro inTime
    have there := lasts.there inTime
    have otherId : other.id ≠ session.id := by
      intro same
      rw [same, there] at newId
      contradiction
    rw [Table.get?_insert, if_neg otherId]
    exact there
  · intro stored membership sameToken
    rcases Table.mem_values_insert membership with rfl | before
    · exact absurd sameToken otherToken
    · exact lasts.sole stored before sameToken

theorem lasts_dropExpiredSessions {document : Document} {clock : Instant} (inTime : clock ≤ limit)
    (lasts : Lasts document key session limit) :
    Lasts (document.dropExpiredSessions clock) key session limit := by
  unfold Document.dropExpiredSessions
  constructor
  · intro notOver
    have good : session.isExpiredAt clock = false :=
      decide_eq_false (UInt64.not_le.mpr (UInt64.lt_of_le_of_lt inTime notOver))
    rw [Table.get?_filter, lasts.there notOver]
    simp [good]
  · intro stored membership sameToken
    exact lasts.sole stored (Table.mem_values_filter membership) sameToken

theorem lasts_take {world : World} {circumstances : Circumstances} {call : Call}
    (fresh : (Step.take world circumstances call).FreshSession)
    (otherToken : ∀ text other, (Step.take world circumstances call).given? = some (text, other) →
      other.accessToken.expose ≠ session.accessToken.expose)
    (inTime : call = .sweep → circumstances.clock ≤ limit)
    (lasts : Lasts world.store.live key session limit) :
    Lasts (Step.take world circumstances call).after.store.live key session limit := by
  cases Step.trace_take world circumstances call with
  | untouched noSession untouched =>
      rw [untouched.live]
      exact lasts
  | kept noSession written games editions sessions =>
      rw [written]
      exact ⟨by rw [Store.written_live, sessions]; exact lasts.there,
        by rw [Store.written_live, sessions]; exact lasts.sole⟩
  | given given found written =>
      rw [written]
      exact lasts_insertLauncherSession _ (fresh _ _ given).1 (otherToken _ _ given) lasts
  | swept noSession sweep written =>
      rw [written]
      exact lasts_dropExpiredSessions (inTime sweep) lasts

/-- What good and allowed steps keep, and events that spare keys and sessions, lasts to the end. -/
theorem holds_pass {Holds : Store → Prop} {Good : Step → Prop}
    {Allowed : Circumstances → Call → Prop}
    (backs : ∀ store, Holds store → store.Synced)
    (spared : ∀ before after : Store, Spares before.live after.live → after.Synced →
      Holds before → Holds after)
    (stepped : ∀ world circumstances call, Good (Step.take world circumstances call) →
      Allowed circumstances call → Holds world.store →
        Holds (Step.take world circumstances call).after.store)
    {world : World} (events : List (Circumstances × Event))
    (good : ∀ step ∈ services world events, Good step)
    (allowed : ∀ circumstances call, (circumstances, .service call) ∈ events →
      Allowed circumstances call)
    (holds : Holds world.store) : Holds (pass world events).store := by
  induction events generalizing world with
  | nil => exact holds
  | cons visited rest inductionHypothesis =>
      obtain ⟨circumstances, event⟩ := visited
      have allowedLater := fun other call membership =>
        allowed other call (List.mem_cons_of_mem _ membership)
      by_cases service : ∃ call, event = .service call
      · obtain ⟨call, rfl⟩ := service
        rw [services, List.forall_mem_cons] at good
        have kept := stepped world circumstances call good.1
          (allowed circumstances call List.mem_cons_self) holds
        exact inductionHypothesis good.2 allowedLater kept
      · have noCall := not_exists.mp service
        have goodLater : ∀ step ∈ services (event.happen (world.under circumstances)) rest,
            Good step := by
          cases event with
          | service call => exact absurd rfl (noCall call)
          | _ => exact good
        have synced := backs world.store holds
        obtain ⟨spares, synced⟩ := @spares_happen (world.under circumstances) event noCall synced
        have kept := spared world.store _ spares synced holds
        exact inductionHypothesis goodLater allowedLater kept

theorem backed_of_issued {world : World} {circumstances : Circumstances} {count : Nat}
    {keys : List ProductKey}
    (issued : (Step.take world circumstances (.generateKeys edition count)).issued? =
      some (edition, keys))
    (fresh : (Step.take world circumstances (.generateKeys edition count)).Fresh)
    (membership : key ∈ keys) :
    Backed (Step.take world circumstances (.generateKeys edition count)).after.store edition
      key := by
  have effect := Step.effect_take world circumstances (.generateKeys edition count)
  rcases exec_generateKeys_cases edition count (world.under circumstances) with
    ⟨drawn, after, ended, outcome⟩ | ⟨error, after, ended, untouched⟩
  · rw [@Step.take_of_ended _ _ _ (.generateKeys edition count) _ ended] at issued fresh effect ⊢
    cases issued
    obtain ⟨symbols, identifiers, after_eq⟩ := outcome.after_eq
    constructor
    · rw [after_eq]
      exact Store.synced_written _ _
    · rw [after_eq]
      exact outcome.known
    · exact ⟨.active, stands_of_issued effect fresh rfl membership⟩
  · rw [@Step.take_of_ended _ _ _ (.generateKeys edition count) _ ended] at issued
    contradiction

theorem lasts_of_given {world : World} {circumstances : Circumstances} {call : Call}
    (fresh : (Step.take world circumstances call).FreshSession)
    (backed : Backed world.store edition key)
    (given : (Step.take world circumstances call).given? = some (key.key.expose, session)) :
    Lasts (Step.take world circumstances call).after.store.live key session limit := by
  obtain ⟨status, stands⟩ := backed.stands
  obtain ⟨newId, newToken⟩ := fresh _ _ given
  cases Step.trace_take world circumstances call with
  | untouched noSession untouched => exact nomatch noSession.symm.trans given
  | kept noSession written games editions sessions => exact nomatch noSession.symm.trans given
  | swept noSession sweep written => exact nomatch noSession.symm.trans given
  | @given text other redeemed same found written =>
      rw [given] at same
      cases same
      have redeemed_eq : { key with status } = redeemed :=
        Option.some.inj ((found_of_stands stands).symm.trans found)
      rw [written, ← redeemed_eq]
      unfold Document.insertLauncherSession
      constructor
      · intro notOver
        simp [Table.get?_insert]
      · intro stored membership sameToken
        rcases Table.mem_values_insert membership with rfl | before
        · rfl
        · exact absurd sameToken (newToken stored before)

/-- The session and its key and edition are found together, or the session is over and is not. -/
theorem findLauncherSession_of_lasts {store : Store} (backed : Backed store edition key)
    (lasts : Lasts store.live key session limit) :
    (∃ access status, store.live.findLauncherSession session.accessToken.expose = some access ∧
      access.session = session ∧ access.productKey = { key with status } ∧
      store.live.productKeys.get? key.id = some ⟨edition, access.productKey⟩ ∧
      store.live.editions.get? edition = some access.edition) ∨
    session.expiresAt ≤ limit ∧
      store.live.findLauncherSession session.accessToken.expose = none := by
  obtain ⟨status, stands⟩ := backed.stands
  obtain ⟨record, known⟩ := Option.isSome_iff_exists.mp backed.known
  have joined : ∀ found, (store.live.launcherSessions.search fun stored =>
      decide (stored.session.accessToken.expose = session.accessToken.expose)) = some found →
      store.live.findLauncherSession session.accessToken.expose =
        some ⟨session, { key with status }, record⟩ := by
    intro found searched
    obtain ⟨⟨id, there⟩, sameToken⟩ := Table.search_eq_some searched
    have only := lasts.sole found (Table.mem_values_iff.mpr ⟨id, there⟩)
      (of_decide_eq_true sameToken)
    unfold Document.findLauncherSession
    rw [searched, only]
    simp [stands.there, known]
  cases searched : store.live.launcherSessions.search fun stored =>
      decide (stored.session.accessToken.expose = session.accessToken.expose) with
  | some found => exact .inl ⟨_, status, joined found searched, rfl, rfl, stands.there, known⟩
  | none =>
      have missing : store.live.findLauncherSession session.accessToken.expose = none := by
        unfold Document.findLauncherSession
        rw [searched]
        rfl
      refine .inr ⟨UInt64.not_lt.mp fun notOver => ?_, missing⟩
      have absent := List.find?_eq_none.mp searched _
        (Table.mem_values_iff.mpr ⟨_, lasts.there notOver⟩)
      exact absent (decide_eq_true rfl)

end Run

theorem validateSession_of_lasts {world : World} {circumstances : Circumstances}
    {edition : EditionId} {key : ProductKey} {session : LauncherSession} {limit : Instant}
    (backed : Backed world.store edition key) (lasts : Lasts world.store.live key session limit)
    (reads : circumstances.faults .findLauncherSession = none) :
    let validation := (Step.take world circumstances
      (.validateSession session.accessToken.expose limit)).answer
    (limit < session.expiresAt ∧ ∃ access status, validation = .ok access ∧
      access.session = session ∧ access.productKey = { key with status } ∧
      world.store.live.productKeys.get? key.id = some ⟨edition, access.productKey⟩ ∧
      world.store.live.editions.get? edition = some access.edition) ∨
    session.expiresAt ≤ limit ∧ ∃ error, validation = .error error ∧
      (error = .expired ∨ error = .invalidToken) := by
  intro validation
  have asked : validation = ((world.under circumstances).repository.validateSession
      session.accessToken.expose limit) :=
    congrArg Prod.fst (Job.exec_ask _ _)
  unfold Repository.validateSession Repository.findLauncherSession Repository.answer at asked
  simp only [World.repository, World.under_faults, World.under_live, reads] at asked
  rcases findLauncherSession_of_lasts backed lasts with
    ⟨access, status, found, sameSession, sameKey, stands, known⟩ | ⟨elapsed, missing⟩
  · simp only [found] at asked
    by_cases notOver : limit < session.expiresAt
    · have good : access.session.isExpiredAt limit = false := by
        rw [sameSession]
        exact decide_eq_false (UInt64.not_le.mpr notOver)
      rw [good] at asked
      exact .inl ⟨notOver, access, status, asked, sameSession, sameKey, stands, known⟩
    · have elapsed := UInt64.not_lt.mp notOver
      have expired : access.session.isExpiredAt limit = true := by
        rw [sameSession]
        exact decide_eq_true elapsed
      rw [expired] at asked
      exact .inr ⟨elapsed, _, asked, .inl rfl⟩
  · simp only [missing] at asked
    exact .inr ⟨elapsed, _, asked, .inr rfl⟩

/-- What the steps of a run draw is new. -/
structure FreshDraws (steps : List Step) : Prop where
  keys : ∀ step ∈ steps, step.Fresh
  sessions : ∀ step ∈ steps, step.FreshSession
  tokens : ((steps.filterMap Step.given?).map (·.2.accessToken.expose)).Nodup

structure Apart (session : LauncherSession) (step : Step) : Prop where
  keys : step.Fresh
  sessions : step.FreshSession
  token : ∀ text other, step.given? = some (text, other) →
    other.accessToken.expose ≠ session.accessToken.expose

theorem FreshDraws.apart {before after : List Step} {redemption : Step} {text : String}
    {session : LauncherSession} (fresh : FreshDraws (before ++ redemption :: after))
    (given : redemption.given? = some (text, session)) : ∀ step ∈ after, Apart session step := by
  intro step visited
  have there : step ∈ before ++ redemption :: after :=
    List.mem_append_right _ (List.mem_cons_of_mem _ visited)
  constructor
  · exact fresh.keys step there
  · exact fresh.sessions step there
  · intro text other givenLater sameToken
    have tokens := fresh.tokens
    rw [List.filterMap_append, List.map_append, List.filterMap_cons_some given, List.map_cons,
      List.nodup_append, List.nodup_cons] at tokens
    apply tokens.2.1.1
    rw [← sameToken]
    exact List.mem_map.mpr ⟨_, List.mem_filterMap.mpr ⟨step, visited, givenLater⟩, rfl⟩

section Pass

variable {world : World} {edition : EditionId} {key : ProductKey} {session : LauncherSession}
  {limit : Instant} {events : List (Circumstances × Event)}

theorem backed_pass (fresh : ∀ step ∈ services world events, step.Fresh)
    (backed : Backed world.store edition key) : Backed (pass world events).store edition key :=
  holds_pass (fun _ => Backed.synced) (fun _ _ => backed_spared)
    (fun _ _ _ good _ => backed_take good) events fresh (fun _ _ _ => trivial) backed

theorem lasts_pass (apart : ∀ step ∈ services world events, Apart session step)
    (timely : ∀ circumstances, (circumstances, .service .sweep) ∈ events →
      circumstances.clock ≤ limit)
    (backed : Backed world.store edition key) (lasts : Lasts world.store.live key session limit) :
    Lasts (pass world events).store.live key session limit := by
  refine (@holds_pass
    (fun store => Backed store edition key ∧ Lasts store.live key session limit) (Apart session)
    (fun circumstances call => call = .sweep → circumstances.clock ≤ limit)
    (fun _ holds => holds.1.synced) ?_ ?_ _ events apart ?_ ⟨backed, lasts⟩).2
  · intro before after spares synced holds
    exact ⟨backed_spared spares synced holds.1, lasts_spared spares holds.2⟩
  · intro before circumstances call good inTime holds
    exact ⟨backed_take good.keys holds.1, lasts_take good.sessions good.token inTime holds.2⟩
  · rintro circumstances call visited rfl
    exact timely circumstances visited

end Pass

/--
The life of a launcher session.  A key is issued, and after some events its text is redeemed for
a session; then other events follow, in which no sweep is made later than an instant.  At that
instant the token of the session is good exactly if the session is not over yet.  It then gives
the session itself, the key that was redeemed with the status that it has by now, and the
edition of the key as it is by now.
-/
theorem validateSession_iff_lt_expiresAt (world : World) (first second last : Circumstances)
    (edition : EditionId) (count seconds : Nat) (between later : List (Circumstances × Event))
    (keys : List ProductKey) (key : ProductKey) (session : LauncherSession) (limit : Instant) :
    let issue := Step.take world first (.generateKeys edition count)
    let redemption := Step.take (pass issue.after between) second (.redeem seconds key.key.expose)
    issue.issued? = some (edition, keys) → key ∈ keys →
    redemption.given? = some (key.key.expose, session) →
    FreshDraws (issue :: services issue.after between ++
      redemption :: services redemption.after later) →
    (∀ circumstances, (circumstances, .service .sweep) ∈ later → circumstances.clock ≤ limit) →
    last.faults .findLauncherSession = none →
    let final := pass redemption.after later
    let validation :=
      (Step.take final last (.validateSession session.accessToken.expose limit)).answer
    ((∃ access, validation = .ok access) ↔ limit < session.expiresAt) ∧
      (∀ access, validation = .ok access → access.session = session ∧
        (∃ status, access.productKey = { key with status }) ∧
        final.store.live.productKeys.get? key.id = some ⟨edition, access.productKey⟩ ∧
        final.store.live.editions.get? edition = some access.edition) ∧
      ∀ error, validation = .error error → error = .expired ∨ error = .invalidToken := by
  intro issue redemption issued membership given fresh timely reads final validation
  have apart := fresh.apart given
  have freshKeys := fresh.keys
  rw [List.forall_mem_append, List.forall_mem_cons, List.forall_mem_cons] at freshKeys
  obtain ⟨⟨freshIssue, freshBetween⟩, freshRedemption, -⟩ := freshKeys
  have newSession : redemption.FreshSession := fresh.sessions redemption (by simp)
  have backedIssue : Backed issue.after.store edition key :=
    backed_of_issued issued freshIssue membership
  have backedBetween : Backed (pass issue.after between).store edition key :=
    backed_pass freshBetween backedIssue
  have backedRedemption : Backed redemption.after.store edition key :=
    backed_take freshRedemption backedBetween
  have backedFinal : Backed final.store edition key :=
    backed_pass (fun step visited => (apart step visited).keys) backedRedemption
  have lastsRedemption : Lasts redemption.after.store.live key session limit :=
    lasts_of_given newSession backedBetween given
  have lastsFinal : Lasts final.store.live key session limit :=
    lasts_pass apart timely backedRedemption lastsRedemption
  have outcome := @validateSession_of_lasts final last _ _ _ _ backedFinal lastsFinal reads
  rcases outcome with
    ⟨notOver, access, status, ended, sameSession, sameKey, stands, known⟩ |
      ⟨elapsed, error, ended, kind⟩
  · rw [show validation = .ok access from ended]
    refine ⟨⟨fun _ => notOver, fun _ => ⟨access, rfl⟩⟩, ?_, fun _ failed => nomatch failed⟩
    rintro _ ⟨⟩
    exact ⟨sameSession, ⟨status, sameKey⟩, stands, known⟩
  · rw [show validation = .error error from ended]
    refine ⟨⟨?_, fun notOver => absurd notOver (UInt64.not_lt.mpr elapsed)⟩, ?_, ?_⟩
    · exact fun ⟨_, good⟩ => nomatch good
    · exact fun _ good => nomatch good
    · rintro _ ⟨⟩
      exact kind

def zerosSession : LauncherSession where
  id := ⟨0x141a9a66628f445bbb72a25d0c18e932⟩
  accessToken := ⟨"kquEAjktZQCvcoLO7SHO5AM0SJNjucdIJM0Rf5wkbRw7Vg3esiYZvgFFdT2opn7R"⟩
  expiresAt := 1000

/--
The key of a session is revoked, sessions are swept, the edition is replaced and the store file
is read again: the token is good up to the last millisecond, and not from then on.
-/
theorem validateSession_iff_lt_expiresAt_stocked :
    let calm : Circumstances := ⟨0, 0, Faults.none, stocked.provider, none⟩
    let issue := Step.take stocked calm (.generateKeys ⟨1⟩ 1)
    let redemption := Step.take issue.after calm (.redeem 1 zeros.key.expose)
    let later : List (Circumstances × Event) :=
      [(calm, .service (.switch .inactive ⟨1⟩ zeros.id)),
        ({ calm with clock := 999 }, .service .sweep),
        (calm, .insertEdition ⟨⟨1⟩, "Spring", none, [], [], 0⟩), (calm, .reload)]
    let final := pass redemption.after later
    let validation := fun now =>
      (Step.take final calm (.validateSession zerosSession.accessToken.expose now)).answer
    issue.issued? = some (⟨1⟩, [zeros]) ∧
      redemption.given? = some (zeros.key.expose, zerosSession) ∧
      (∃ access, validation 999 = .ok access ∧ access.session = zerosSession) ∧
      (validation 1000 = .error .expired ∨ validation 1000 = .error .invalidToken) := by
  intro calm issue redemption later final validation
  have issued : issue.issued? = some (⟨1⟩, [zeros]) := by decide +kernel
  have given : redemption.given? = some (zeros.key.expose, zerosSession) := by decide +kernel
  have fresh : FreshDraws (issue :: redemption :: services redemption.after later) := by
    have steps : ∀ step ∈ issue :: redemption :: services redemption.after later,
        (step.issued? = none ∨ step.issued? = some (⟨1⟩, [zeros]) ∧ step.old = Table.empty) ∧
          (step.given? = none ∨ step.before.store.live.launcherSessions = Table.empty) := by
      decide +kernel
    constructor
    · intro step visited edition keys some_
      rcases (steps step visited).1 with none | ⟨one, empty⟩
      · exact nomatch none.symm.trans some_
      · rw [one] at some_
        cases some_
        rw [empty]
        decide
    · intro step visited text session some_
      rcases (steps step visited).2 with none | empty
      · exact nomatch none.symm.trans some_
      · rw [empty]
        exact ⟨rfl, fun _ there => nomatch there⟩
    · decide +kernel
  have swept : ∀ circumstances, (circumstances, Event.service .sweep) ∈ later →
      circumstances.clock = 999 := by
    simp [later]
  have good := validateSession_iff_lt_expiresAt stocked calm calm calm ⟨1⟩ 1 1 [] later [zeros]
    zeros zerosSession 999 issued (by simp) given fresh
    (fun _ there => UInt64.le_of_eq (swept _ there)) rfl
  have bad := validateSession_iff_lt_expiresAt stocked calm calm calm ⟨1⟩ 1 1 [] later [zeros]
    zeros zerosSession 1000 issued (by simp) given fresh
    (fun _ there => by rw [swept _ there]; decide) rfl
  refine ⟨issued, given, ?_, ?_⟩
  · obtain ⟨access, ended⟩ := good.1.mpr (by decide)
    exact ⟨access, ended, (good.2.1 access ended).1⟩
  · cases ended : validation 1000 with
    | ok access => exact absurd (bad.1.mp ⟨access, ended⟩) (by decide)
    | error error =>
        rcases bad.2.2 error ended with rfl | rfl
        · exact .inl rfl
        · exact .inr rfl

end GameCatalog.Launcher
