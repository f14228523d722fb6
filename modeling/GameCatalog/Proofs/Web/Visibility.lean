import GameCatalog.Proofs.Access.VisibilityPolicy
import GameCatalog.Proofs.Launcher.Confinement
import GameCatalog.Proofs.Web.Conduct
import GameCatalog.Proofs.Web.Handler

/-!
Who may see a game.  In a run, requests are made and the catalogue is worked on beside the gateway,
each under circumstances of its own.  Whatever else is done, whether a game is public is what the
last deed said that put the game in or changed who may see it; and that alone decides whether
those who are not identified are let in.
-/

namespace GameCatalog

open Job

def Store.Mutation.shows? : Store.Mutation → Option (GameId × Visibility)
  | insertGame game => some (game.id, game.visibility)
  | updateVisibility id visibility => some (id, visibility)
  | _ => none

def Request.shows? (request : Request) : Option (GameId × Visibility) :=
  match Route.reached? request.path request.method with
  | some (.updateVisibility, encoded) =>
      match (Gateway.visitOf request encoded).parameters.identifier "gameID",
        request.jsonBody Handler.visibilityForm.decoder with
      | .ok id, .ok visibility => some (id, visibility)
      | _, _ => none
  | _ => none

/-- What can be done: the gateway serves a request, or an act is performed beside it. -/
inductive Deed where
  | serve (request : Request)
  | beside (act : Launcher.Act)

namespace Deed

variable (gateway : Gateway) (world : World) (circumstances : Circumstances)

def perform : Deed → World
  | serve request => (gateway.respond request (world.under circumstances)).2
  | beside act => act.perform world circumstances

def shown? : Deed → Option (GameId × Visibility)
  | serve request =>
      if (gateway.respond request (world.under circumstances)).1.status = 200 then request.shows?
      else none
  | beside (.mutate mutation) =>
      (mutation.perform (world.under circumstances).store).1.toOption.bind fun _ => mutation.shows?
  | beside _ => none

end Deed

namespace Gateway

variable (gateway : Gateway)

def afterDeeds : World → List (Circumstances × Deed) → World
  | world, [] => world
  | world, (circumstances, deed) :: rest =>
      afterDeeds (deed.perform gateway world circumstances) rest

/-- Who may see the game as the deeds said last, if they said so. -/
def lastShown? (id : GameId) : World → List (Circumstances × Deed) → Option Visibility
  | _, [] => none
  | world, (circumstances, deed) :: rest =>
      (lastShown? id (deed.perform gateway world circumstances) rest).or
        ((deed.shown? gateway world circumstances).bind fun (other, visibility) =>
          if other = id then some visibility else none)

end Gateway

/-- What is done to the games: nothing, or one of them is put in, as it is said. -/
inductive Shown (before after : Store) : Option (GameId × Visibility) → Prop where
  | untouched (untouched : before.Untouched after) : Shown before after none
  | kept {next : Document} (written : after = before.written next)
      (games : next.games = before.live.games) : Shown before after none
  | put {next : Document} {id : GameId} {game : Game} (written : after = before.written next)
      (games : next.games = before.live.games.insert id game) :
      Shown before after (some (id, game.visibility))

namespace Shown

variable {before after : Store} {said : Option (GameId × Visibility)}

theorem synced (shown : Shown before after said) (synced : before.Synced) : after.Synced := by
  cases shown with
  | untouched untouched => exact Launcher.synced_of_untouched untouched synced
  | kept written games | put written games =>
      rw [written]
      exact Store.synced_written _ _

theorem visibility (shown : Shown before after said) (id : GameId) :
    (after.live.games.get? id).map Game.visibility =
      (said.bind fun (other, visibility) => if other = id then some visibility else none).or
        ((before.live.games.get? id).map Game.visibility) := by
  cases shown with
  | untouched untouched => rw [untouched.live]; rfl
  | kept written games =>
      rw [written, Store.written_live, games]
      rfl
  | @put next other game written games =>
      rw [written, Store.written_live, games, Table.get?_insert]
      by_cases same : other = id
      · simp [same]
      · simp [same]

end Shown

section Acts

variable {world : World} {circumstances : Circumstances}

theorem shown_of_planned {store : Store} {mutation : Store.Mutation} {next : Document}
    (planned : mutation.next? store.live = some next) :
    Shown store (store.written next) mutation.shows? := by
  cases mutation with
  | insertGame game =>
      cases planned
      exact .put rfl rfl
  | updateVisibility id visibility =>
      simp only [Store.Mutation.next?, Document.updateVisibility] at planned
      split at planned
      · contradiction
      · rename_i game found
        cases planned
        exact @Shown.put store _ _ id { game with visibility } rfl rfl
  | grantAdmin user =>
      cases planned
      refine .kept rfl ?_
      unfold Document.grantAdmin
      split <;> rfl
  | updateProductKeyStatus id status =>
      simp only [Store.Mutation.next?, Document.updateProductKeyStatus] at planned
      split at planned
      · contradiction
      · cases planned
        exact .kept rfl rfl
  | deleteExpiredSessions now =>
      simp only [Store.Mutation.next?] at planned
      split at planned
      · contradiction
      · cases planned
        exact .kept rfl rfl
  | insertEdition | setGameRole | saveProductKeys | saveLauncherSession =>
      cases planned
      exact .kept rfl rfl

theorem shown_mutation (store : Store) (mutation : Store.Mutation) :
    Shown store (mutation.perform store).2
      ((mutation.perform store).1.toOption.bind fun _ => mutation.shows?) := by
  have ended := mutation.ending store
  generalize mutation.perform store = outcome at ended
  cases ended with
  | written planned => exact shown_of_planned planned
  | idle nothing =>
      obtain ⟨now, rfl, -⟩ := nothing
      exact .untouched (.refl _)
  | failed untouched => exact .untouched untouched

theorem shown_service (call : Launcher.Call) :
    Shown (world.under circumstances).store
      (Launcher.Step.take world circumstances call).after.store none := by
  cases Launcher.Step.trace_take world circumstances call with
  | untouched _ untouched => exact .untouched untouched
  | kept _ written games => exact .kept written games
  | given _ _ written => exact .kept written rfl
  | swept _ _ written => exact .kept written rfl

theorem shown_act (synced : world.store.Synced) (gateway : Gateway) (act : Launcher.Act) :
    Shown (world.under circumstances).store (act.perform world circumstances).store
      (Deed.shown? gateway world circumstances (.beside act)) := by
  cases act with
  | service call => exact shown_service call
  | mutate mutation => exact shown_mutation (world.under circumstances).store mutation
  | reload =>
      have syncedNow : (world.under circumstances).store.Synced := synced
      unfold Launcher.Act.perform
      dsimp only
      rw [Store.reload_of_synced syncedNow]
      exact .untouched (.refl _)

end Acts

namespace Gateway

variable (gateway : Gateway) (request : Request) (visit : Visit) (world : World)
  {endpoint : Endpoint}

theorem shown_of_protected {scheme : Scheme}
    (protection : endpoint.scheme? = some scheme)
    (work : ∀ grant, Shown world.store
      (exec (handleGranted visit endpoint grant) (gateway.guarded visit world scheme)).2.store
      none) :
    Shown world.store (exec (gateway.serve visit endpoint) world).2.store none := by
  cases decided : Grant.ofCheck (gateway.checked visit world scheme) with
  | error failure =>
      rw [exec_serve_of_refused gateway visit world protection decided]
      exact .untouched (.refl _)
  | ok grant =>
      rw [exec_serve_of_granted gateway visit world protection decided]
      exact work grant

theorem shown_redeem :
    Shown world.store (exec (Handler.redeem gateway request) world).2.store none := by
  rcases Handler.exec_redeem_cases gateway request world with
    ⟨text, key, session, redeemed, after, -, ended, outcome, kept⟩ |
    ⟨failure, after, ended, untouched⟩
  · have written : after.store =
        world.store.written (world.store.live.insertLauncherSession key.id session) := by
      rw [kept, outcome.after_eq]
    rw [ended]
    exact .kept written rfl
  · rw [ended]
    exact .untouched untouched

theorem shown_generateKeys :
    Shown world.store (exec (Handler.generateKeys visit) world).2.store none := by
  rcases Handler.exec_generateKeys_cases visit world with
    ⟨edition, fields, count, keys, after, -, -, -, ended, issued⟩ |
    ⟨failure, after, ended, untouched⟩
  · rw [ended]
    obtain ⟨symbols, identifiers, rfl⟩ := issued.after_eq
    exact .kept rfl rfl
  · rw [ended]
    exact .untouched untouched

theorem shown_switchKey (status : KeyStatus) :
    Shown world.store
      (exec (Handler.switchKey (Launcher.setStatus status) visit) world).2.store none := by
  rcases Handler.exec_switchKey_cases status visit world with
    ⟨edition, id, stored, key, after, -, -, ended, switched⟩ | ⟨failure, after, ended, untouched⟩
  · rw [ended]
    rcases switched.after_eq with ⟨-, rfl⟩ | ⟨-, -, rfl⟩
    · exact .untouched (.refl _)
    · exact .kept rfl rfl
  · rw [ended]
    exact .untouched untouched

theorem shown_serve (other : endpoint ≠ .updateVisibility) :
    Shown world.store (exec (gateway.serve visit endpoint) world).2.store none := by
  cases writes : endpoint.writes with
  | false =>
      rw [gateway.keepsStore_serve visit writes]
      exact .untouched (.refl _)
  | true =>
      cases endpoint with
      | redeem =>
          rw [exec_serve_of_open gateway visit world rfl]
          exact gateway.shown_redeem visit.request world
      | generateKeys =>
          apply gateway.shown_of_protected visit world rfl
          exact fun _ => shown_generateKeys visit (gateway.guarded visit world .admin)
      | activateKey =>
          apply gateway.shown_of_protected visit world rfl
          exact fun _ => shown_switchKey visit (gateway.guarded visit world .admin) .active
      | revokeKey =>
          apply gateway.shown_of_protected visit world rfl
          exact fun _ => shown_switchKey visit (gateway.guarded visit world .admin) .inactive
      | _ => contradiction

theorem said_of_failed (failure : Failure) (said : Option (GameId × Visibility)) :
    (if (concluded (.error failure)).status = 200 then said else none) = none :=
  if_neg (failure.status_ne_of_lt (by decide))

/-- Who may see a game is changed where the response reports success, as the request wants it. -/
theorem shown_updateVisibility {encoded : List (String × List Char)}
    (reached : Route.reached? request.path request.method = some (.updateVisibility, encoded)) :
    let (ended, after) := exec (gateway.serve (visitOf request encoded) .updateVisibility) world
    Shown world.store after.store
      (if (concluded ended).status = 200 then request.shows? else none) := by
  dsimp only
  cases decided : Grant.ofCheck
      (gateway.checked (visitOf request encoded) world .gameOwner) with
  | error failure =>
      rw [exec_serve_of_refused gateway (visitOf request encoded) world rfl decided]
      dsimp only
      rw [said_of_failed]
      exact .untouched (.refl _)
  | ok grant =>
      rw [exec_serve_of_granted gateway (visitOf request encoded) world rfl decided]
      change Shown world.store (exec (Handler.updateVisibility _) _).2.store
        (if (concluded (exec (Handler.updateVisibility _) _).1).status = 200 then _ else _)
      rcases Handler.exec_updateVisibility_cases (visitOf request encoded)
          (gateway.guarded (visitOf request encoded) world .gameOwner) with
        ⟨id, visibility, game, named, asked, found, ended⟩ | ⟨failure, after, ended, untouched⟩
      · have read : request.jsonBody Handler.visibilityForm.decoder = .ok visibility := asked
        have wanted : request.shows? = some (id, visibility) := by
          unfold Request.shows?
          rw [reached]
          simp only [named, read]
        rw [ended, wanted]
        exact @Shown.put world.store _ _ id { game with visibility } rfl rfl
      · rw [ended]
        dsimp only
        rw [said_of_failed]
        exact .untouched untouched

theorem shown_respond :
    Shown world.store (gateway.respond request world).2.store
      (if (gateway.respond request world).1.status = 200 then request.shows? else none) := by
  cases reached : Route.reached? request.path request.method with
  | none =>
      have wantsNothing : request.shows? = none := by
        unfold Request.shows?
        rw [reached]
      rw [respond_of_answer gateway request world
        (run_answer_of_unreached gateway request world reached), wantsNothing, ite_self]
      exact .untouched (.refl _)
  | some place =>
      obtain ⟨endpoint, encoded⟩ := place
      rw [respond_of_answer gateway request world
        ((run_answer_of_reached gateway request world reached).trans (run_conclude world _)),
        finalize_status]
      by_cases changes : endpoint = .updateVisibility
      · subst changes
        exact gateway.shown_updateVisibility request world reached
      · have wantsNothing : request.shows? = none := by
          unfold Request.shows?
          rw [reached]
          cases endpoint <;> first | rfl | contradiction
        rw [wantsNothing, ite_self]
        exact gateway.shown_serve _ world changes

end Gateway

section Run

variable (gateway : Gateway) {world : World}

theorem shown_perform (synced : world.store.Synced) (circumstances : Circumstances)
    (deed : Deed) :
    Shown (world.under circumstances).store (deed.perform gateway world circumstances).store
      (deed.shown? gateway world circumstances) := by
  cases deed with
  | serve request => exact gateway.shown_respond request (world.under circumstances)
  | beside act => exact shown_act synced gateway act

theorem visibility_afterDeeds (synced : world.store.Synced) (id : GameId)
    (deeds : List (Circumstances × Deed)) :
    ((gateway.afterDeeds world deeds).store.live.games.get? id).map Game.visibility =
      (gateway.lastShown? id world deeds).or
        ((world.store.live.games.get? id).map Game.visibility) := by
  induction deeds generalizing world with
  | nil => rfl
  | cons done rest inductionHypothesis =>
      obtain ⟨circumstances, deed⟩ := done
      have shown := shown_perform gateway synced circumstances deed
      have syncedNow : (world.under circumstances).store.Synced := synced
      have visibleAfter := shown.visibility id
      simp only [Gateway.afterDeeds, Gateway.lastShown?]
      rw [inductionHypothesis (shown.synced syncedNow), visibleAfter, Option.or_assoc]
      rfl

/--
Access to what may be public is decided by its policy, in every case and in no other way.  After
any run a game is visible as the last deed left it that put it in or changed who may see it, and
by that alone those who are not identified are let in or not.
-/
theorem afterDeeds_visibilityPolicy :
    (∀ (document : Document) (credentials : Credentials) (now : Instant),
      ∀ scheme ∈ Scheme.forAnyone, ∀ outcome,
        Access.check scheme ⟨document, Faults.none⟩ credentials now = outcome ↔
          Access.VisibilityPolicy document credentials.session credentials.parameters now
            outcome) ∧
    ∀ (world : World) (deeds : List (Circumstances × Deed)) (id : GameId), world.store.Synced →
      let document := (gateway.afterDeeds world deeds).store.live
      let visible := (gateway.lastShown? id world deeds).or
        ((world.store.live.games.get? id).map Game.visibility)
      (document.games.get? id).map Game.visibility = visible ∧
        ∀ (credentials : Credentials) (now : Instant),
          Access.Names credentials.parameters "gameID" id →
          (∀ user, ¬Access.Identifies credentials.session now user) →
          ∀ scheme ∈ Scheme.forAnyone,
            Access.check scheme ⟨document, Faults.none⟩ credentials now =
              .ok (.granted .anonymous) ↔ visible = some .public := by
  have works : ∀ operation, Faults.none operation = none := fun _ => rfl
  constructor
  · intro document credentials now scheme asked outcome
    exact Access.check_eq_iff_visibilityPolicy works asked
  · intro world deeds id synced document visible
    have visibleAfter := visibility_afterDeeds gateway synced id deeds
    refine ⟨visibleAfter, fun credentials now named stranger scheme asked => ?_⟩
    rw [Access.anonymous_iff_public works asked named stranger]
    exact visibleAfter ▸ Iff.rfl

/-- A game is put in, shown to everyone, and then cannot be hidden as the disk is full. -/
theorem afterDeeds_visibilityPolicy_shown :
    let gateway : Gateway :=
      ⟨⟨"https://idp.example/api/v3", "gateway"⟩, ⟨"session", [], 60, true⟩, 60⟩
    let provider : Provider := ⟨fun _ _ => .error .invalidSession,
      fun _ => .error .invalidSession, fun _ => .error .invalidSession⟩
    let world : World := {
      store := Store.written ⟨.empty, {}⟩ .empty, clock := 0, symbols := ⟨[], 0⟩,
      identifiers := ⟨[], 0⟩, provider }
    let calm : Circumstances := ⟨0, 0, Faults.none, provider, none⟩
    let deeds : List (Circumstances × Deed) :=
      [(calm, .beside (.mutate (.insertGame ⟨⟨7⟩, "Atlas", "", .limited, [], 0⟩))),
        (calm, .beside (.mutate (.updateVisibility ⟨7⟩ .public))),
        (calm, .serve { method := "GET", path := "/health".toList }),
        ({ calm with refusal := some ⟨.rename, "full"⟩ },
          .beside (.mutate (.updateVisibility ⟨7⟩ .private)))]
    let credentials : Credentials :=
      { parameters := [("gameID", "00000000-0000-0000-0000-000000000007")] }
    world.store.Synced ∧ gateway.lastShown? ⟨7⟩ world deeds = some .public ∧
      Access.check .gameFiles ⟨(gateway.afterDeeds world deeds).store.live, Faults.none⟩ credentials
        0 = .ok (.granted .anonymous) := by
  intro gateway provider world calm deeds credentials
  have synced : world.store.Synced := Store.synced_written _ _
  have shown : gateway.lastShown? ⟨7⟩ world deeds = some .public := by decide +kernel
  refine ⟨synced, shown, ?_⟩
  have spelled : Id.ofText? "00000000-0000-0000-0000-000000000007" = some (⟨7⟩ : GameId) := by
    decide +kernel
  have named : Access.Names credentials.parameters "gameID" (⟨7⟩ : GameId) := ⟨_, rfl, spelled⟩
  have stranger : ∀ user, ¬Access.Identifies credentials.session 0 user := by
    rintro user ⟨client, identity, held, -⟩
    contradiction
  have decided := ((afterDeeds_visibilityPolicy gateway).2 world deeds ⟨7⟩ synced).2 credentials 0
    named stranger .gameFiles (by decide)
  rw [decided, shown]
  rfl

end Run

end GameCatalog
