import GameCatalog.Proofs.Keeps
import GameCatalog.Web.Service

/-!
What the handlers leave as it is.  A handler behind a guard does no more than the services that
it calls, so it keeps what they keep; logging in and out draws, asks the identity provider and
counts, and does nothing else.  Most endpoints only look at the store.
-/

namespace GameCatalog

open Job

variable {View : Type} {view : World → View}

namespace Login

theorem keeps_start (hidden : ∀ world symbols, view { world with symbols } = view world)
    (settings : Settings) : (start settings).Keeps view := by
  refine .bind (.drawSymbols hidden _) fun verifier => ?_
  refine .bind (.drawSymbols hidden _) fun state => ?_
  dsimp only
  split
  · exact .pure _
  · exact .throw _

variable (hidden : ∀ world calls, view { world with calls } = view world)
include hidden

theorem keeps_finish (attempt : Option LoginAttempt) (code : String) (state : Option String)
    (now : Instant) : (finish attempt code state now).Keeps view := by
  unfold finish
  cases attempt with
  | none => exact .throw _
  | some attempt =>
      dsimp only
      split
      · exact .throw_bind _ _
      · exact .bind (.call hidden _ _) fun _ => .bind (.call hidden _ _) fun _ => .pure _

theorem keeps_logout (session : Option IdentitySession) : (logout session).Keeps view := by
  unfold logout
  cases session with
  | none => exact .throw _
  | some session => exact .call hidden _ _

end Login

namespace Handler

theorem keeps_expect {Value : Type} (read : Except Failure Value) : (expect read).Keeps view := by
  cases read with
  | ok value => exact .pure value
  | error failure => exact .throw failure

theorem keeps_ask {Result : Type} (question : Repository → Except StoreError Result) :
    (ask question).Keeps view :=
  .mapError _ (.ask question)

section Login

variable (uncounted : ∀ world observations, view { world with observations } = view world)
  (uncalled : ∀ world calls, view { world with calls } = view world)
include uncounted

theorem keeps_takeLogin {Value : Type} (step : LoginStep) (result : Except LoginError Value) :
    (takeLogin step result).Keeps view := by
  cases result with
  | ok value => exact .pure _
  | error error => exact .bind (.observe uncounted _) fun _ => .throw _

theorem keeps_startLogin (undrawn : ∀ world symbols, view { world with symbols } = view world)
    (gateway : Gateway) (request : Request) : (startLogin gateway request).Keeps view := by
  refine .bind (.attempt (Login.keeps_start undrawn _)) fun result => ?_
  refine .bind (keeps_takeLogin uncounted _ _) fun outcome => ?_
  exact .bind (.observe uncounted _) fun _ => .pure _

include uncalled

theorem keeps_finishLogin (gateway : Gateway) (request : Request) :
    (finishLogin gateway request).Keeps view := by
  refine .bind (keeps_expect _) fun fields => ?_
  dsimp only
  split
  · exact .bind (.observe uncounted _) fun _ => .throw _
  · refine .get_bind fun world => ?_
    refine .bind (.attempt (Login.keeps_finish uncalled _ _ _ _)) fun result => ?_
    refine .bind (keeps_takeLogin uncounted _ _) fun outcome => ?_
    exact .bind (.observe uncounted _) fun _ => .pure _

theorem keeps_logout (gateway : Gateway) (request : Request) :
    (logout gateway request).Keeps view := by
  refine .bind (.attempt (Login.keeps_logout uncalled _)) fun result => ?_
  refine .bind (keeps_takeLogin uncounted _ _) fun _ => ?_
  refine .bind (.observe uncounted _) fun _ => ?_
  exact .get_bind fun _ => .pure _

end Login

section Reading

theorem keeps_loadGame (id : GameId) : (loadGame id).Keeps view := by
  refine .bind (keeps_ask _) fun found => ?_
  cases found with
  | none => exact .throw _
  | some game => exact .pure _

theorem keeps_game (visit : Visit) : (game visit).Keeps view := by
  refine .bind (keeps_expect _) fun id => ?_
  exact .bind (keeps_loadGame id) fun _ => .pure _

theorem keeps_gameFiles (visit : Visit) : (gameFiles visit).Keeps view := by
  refine .bind (keeps_expect _) fun id => ?_
  exact .bind (keeps_loadGame id) fun _ => .pure _

theorem keeps_gameRoles (visit : Visit) : (gameRoles visit).Keeps view := by
  refine .bind (keeps_expect _) fun id => ?_
  refine .bind (keeps_loadGame id) fun _ => ?_
  exact .bind (keeps_ask _) fun _ => .pure _

theorem keeps_launcherFile (visit : Visit) (edition : Edition) :
    (launcherFile visit edition).Keeps view := by
  refine .bind (keeps_expect _) fun id => ?_
  refine .bind (keeps_ask _) fun found => ?_
  cases found with
  | none => exact .throw _
  | some file => exact .pure _

theorem keeps_edition (visit : Visit) : (edition visit).Keeps view := by
  refine .bind (keeps_expect _) fun id => ?_
  refine .bind (keeps_ask _) fun found => ?_
  cases found with
  | none => exact .throw _
  | some edition => exact .pure _

theorem keeps_listKeys (visit : Visit) : (listKeys visit).Keeps view := by
  refine .bind (keeps_expect _) fun edition => ?_
  refine .bind (keeps_expect _) fun fields => ?_
  have listed (status : Option KeyStatus) : (do
      let keys ← serve (Launcher.listKeys edition status)
      return Response.json 200 (.array (keys.map ProductKey.view)) : Handler).Keeps view :=
    .bind (.mapError _ (Launcher.keeps_listKeys _ _)) fun _ => .pure _
  dsimp only
  split
  · exact listed none
  · exact .bind (keeps_expect _) listed

end Reading

section Writing

variable (steady : Steady view)
include steady

theorem keeps_updateVisibility (visit : Visit) : (updateVisibility visit).Keeps view := by
  refine .bind (keeps_expect _) fun id => ?_
  refine .bind (keeps_expect _) fun visibility => ?_
  exact .bind (.mapError _ (.mutate steady.store _ _)) fun _ => .pure _

theorem keeps_generateKeys (visit : Visit) : (generateKeys visit).Keeps view := by
  refine .bind (keeps_expect _) fun edition => ?_
  refine .bind (keeps_expect _) fun fields => ?_
  split
  · exact .throw _
  · exact .bind (.mapError _ (Launcher.keeps_generateKeys steady _ _)) fun _ => .pure _

theorem keeps_switchKey (status : KeyStatus) (visit : Visit) :
    (switchKey (Launcher.setStatus status) visit).Keeps view := by
  refine .bind (keeps_expect _) fun edition => ?_
  refine .bind (keeps_expect _) fun id => ?_
  exact .bind (.mapError _ (Launcher.keeps_setStatus steady _ _ _)) fun _ => .pure _

end Writing

end Handler

/-- The handler of the endpoint may change the store. -/
def Endpoint.writes : Endpoint → Bool
  | .redeem | .generateKeys | .activateKey | .revokeKey | .updateVisibility => true
  | _ => false

namespace Gateway

variable {endpoint : Endpoint} (gateway : Gateway) (visit : Visit)

/-- A handler behind a guard that only looks at the store keeps everything. -/
theorem keeps_handleGranted_of_reading (reading : endpoint.writes = false) (grant : Grant) :
    (handleGranted visit endpoint grant).Keeps view := by
  cases endpoint with
  | me => cases grant <;> first | exact .pure _ | exact .throw _
  | launcherEdition => cases grant <;> first | exact .pure _ | exact .throw _
  | launcherGame => exact Handler.keeps_game visit
  | launcherFile =>
      cases grant with
      | launcher edition => exact Handler.keeps_launcherFile visit edition
      | _ => exact .throw _
  | edition => exact Handler.keeps_edition visit
  | editionGames =>
      cases grant with
      | launcher edition => exact .bind (Handler.keeps_ask _) fun _ => .pure _
      | _ => exact .throw _
  | listKeys => exact Handler.keeps_listKeys visit
  | game => exact Handler.keeps_game visit
  | gameFiles => exact Handler.keeps_gameFiles visit
  | gameRoles => exact Handler.keeps_gameRoles visit
  | redeem | generateKeys | activateKey | revokeKey | updateVisibility => contradiction
  | _ => exact .throw _

/-- No handler behind a guard does more than the services it calls. -/
theorem keeps_handleGranted (steady : Steady view) (endpoint : Endpoint) (grant : Grant) :
    (handleGranted visit endpoint grant).Keeps view := by
  cases writes : endpoint.writes with
  | false => exact keeps_handleGranted_of_reading visit writes grant
  | true =>
      cases endpoint with
      | generateKeys => exact Handler.keeps_generateKeys steady visit
      | activateKey => exact Handler.keeps_switchKey steady .active visit
      | revokeKey => exact Handler.keeps_switchKey steady .inactive visit
      | updateVisibility => exact Handler.keeps_updateVisibility steady visit
      | redeem => exact .throw _
      | _ => contradiction

section Store

theorem keepsStore_guard (scheme : Scheme) : (gateway.guard scheme visit).Keeps World.store :=
  .get_bind fun _ => .bind (.observe (fun _ _ => rfl) _) fun _ => Handler.keeps_expect _

theorem keepsStore_handleOpen (reading : endpoint.writes = false) :
    (gateway.handleOpen visit endpoint).Keeps World.store := by
  have uncounted (world : World) (observations : List Observation) :
      { world with observations }.store = world.store := rfl
  have uncalled (world : World) (calls : List ProviderCall) :
      { world with calls }.store = world.store := rfl
  have undrawn (world : World) (symbols : Stream) :
      { world with symbols }.store = world.store := rfl
  cases endpoint with
  | health => exact .get_bind fun _ => .pure _
  | metrics => exact .get_bind fun _ => .pure _
  | startLogin => exact Handler.keeps_startLogin uncounted undrawn gateway visit.request
  | finishLogin => exact Handler.keeps_finishLogin uncounted uncalled gateway visit.request
  | logout => exact Handler.keeps_logout uncounted uncalled gateway visit.request
  | redeem => contradiction
  | _ => exact .throw _

/-- An endpoint that does not write leaves the store as it is. -/
theorem keepsStore_serve (reading : endpoint.writes = false) :
    (gateway.serve visit endpoint).Keeps World.store := by
  unfold serve
  cases endpoint.scheme? with
  | none => exact gateway.keepsStore_handleOpen visit reading
  | some scheme =>
      exact .bind (gateway.keepsStore_guard visit scheme)
        (keeps_handleGranted_of_reading visit reading)

end Store

end Gateway

end GameCatalog
