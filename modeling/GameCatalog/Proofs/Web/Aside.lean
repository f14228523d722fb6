import GameCatalog.Proofs.Web.Keeps
import GameCatalog.Proofs.Web.Serving

/-!
Jobs that leave the identity provider aside.  No endpoint but the three of the login flow asks
the identity provider anything or sets a cookie, and of these the one that begins a login asks
nothing.
-/

namespace GameCatalog

namespace Job

variable {Error Other Result Next : Type} {promise : Result → Prop}

/-- The job asks the identity provider nothing, and keeps a promise about what it yields. -/
def Aside (job : Job Error Result) (promise : Result → Prop) : Prop :=
  ∀ world, (exec job world).2.calls = world.calls ∧
    ∀ result, (exec job world).1 = .ok result → promise result

namespace Aside

theorem pure {result : Result} (kept : promise result) :
    Aside (Pure.pure result : Job Error Result) promise := by
  intro world
  refine ⟨rfl, fun other same => ?_⟩
  cases same
  exact kept

theorem throw (error : Error) : Aside (MonadExcept.throw error : Job Error Result) promise :=
  fun _ => ⟨rfl, fun _ same => nomatch same⟩

theorem bind {job : Job Error Result} {next : Result → Job Error Next} {later : Next → Prop}
    (first : Aside job promise) (second : ∀ result, promise result → Aside (next result) later) :
    Aside (job >>= next) later := by
  intro world
  obtain ⟨sameCalls, kept⟩ := first world
  rw [exec_bind]
  rcases ended : exec job world with ⟨error | result, after⟩
  · rw [ended] at sameCalls
    exact ⟨sameCalls, fun _ same => nomatch same⟩
  · rw [ended] at sameCalls kept
    obtain ⟨sameLater, keptLater⟩ := second result (kept result rfl) after
    exact ⟨sameLater.trans sameCalls, keptLater⟩

theorem get_bind {next : World → Job Error Next} {later : Next → Prop}
    (aside : ∀ world, Aside (next world) later) : Aside (MonadState.get >>= next) later :=
  fun world => aside world world

theorem of_keeps {job : Job Error Result} (keeps : job.Keeps World.calls) :
    Aside job fun _ => True :=
  fun world => ⟨keeps world, fun _ _ => trivial⟩

theorem ask (question : Repository → Except Error Result) :
    Aside (Job.ask question) fun _ => True :=
  of_keeps (.ask question)

theorem mapError (convert : Error → Other) {job : Job Error Result} (aside : Aside job promise) :
    Aside (job.mapError convert) promise := by
  intro world
  obtain ⟨sameCalls, kept⟩ := aside world
  rw [exec_mapError]
  refine ⟨sameCalls, fun result same => ?_⟩
  cases ended : (exec job world).1 with
  | error error => simp [ended, Except.mapError] at same
  | ok other =>
      simp only [ended, Except.mapError, Except.ok.injEq] at same
      rw [← same]
      exact kept other ended

theorem attempt {job : Job Error Result} (aside : Aside job promise) :
    Aside (job.attempt : Job Other _) fun outcome =>
      ∀ result, outcome = .ok result → promise result := by
  intro world
  obtain ⟨sameCalls, kept⟩ := aside world
  rw [exec_attempt]
  refine ⟨sameCalls, ?_⟩
  rintro _ ⟨⟩
  exact kept

theorem observe (observation : Observation) :
    Aside (Job.observe observation : Job Error Unit) fun _ => True :=
  of_keeps (.observe (fun _ _ => rfl) observation)

theorem drawSymbols (draw : Stream → Result × Stream) :
    Aside (Job.drawSymbols draw : Job Error Result) fun _ => True :=
  of_keeps (.drawSymbols steady_calls.symbols draw)

theorem mutate (operation : Operation) (mutation : Store → Store.Outcome Result) :
    Aside (Job.mutate operation mutation) fun _ => True :=
  of_keeps (.mutate steady_calls.store operation mutation)

end Aside

end Job

open Job

namespace Handler

def Bare (response : Response) : Prop := response.cookies = []

theorem aside_expect {Value : Type} (read : Except Failure Value) :
    (expect read).Aside fun _ => True :=
  .of_keeps (keeps_expect read)

theorem aside_ask {Result : Type} (question : Repository → Except StoreError Result) :
    (ask question).Aside fun _ => True :=
  .mapError _ (.ask question)

theorem aside_serve {Result : Type} {job : Job LauncherError Result}
    (aside : job.Aside fun _ => True) : (serve job).Aside fun _ => True :=
  .mapError _ aside

theorem aside_loadGame (id : GameId) : (loadGame id).Aside fun _ => True := by
  refine .bind (aside_ask _) fun found _ => ?_
  cases found with
  | none => exact .throw _
  | some game => exact .pure trivial

theorem aside_game (visit : Visit) : (game visit).Aside Bare := by
  refine .bind (aside_expect _) fun id _ => ?_
  exact .bind (aside_loadGame id) fun _ _ => .pure rfl

theorem aside_gameFiles (visit : Visit) : (gameFiles visit).Aside Bare := by
  refine .bind (aside_expect _) fun id _ => ?_
  exact .bind (aside_loadGame id) fun _ _ => .pure rfl

theorem aside_gameRoles (visit : Visit) : (gameRoles visit).Aside Bare := by
  refine .bind (aside_expect _) fun id _ => ?_
  refine .bind (aside_loadGame id) fun _ _ => ?_
  exact .bind (aside_ask _) fun _ _ => .pure rfl

theorem aside_updateVisibility (visit : Visit) : (updateVisibility visit).Aside Bare := by
  refine .bind (aside_expect _) fun id _ => ?_
  refine .bind (aside_expect _) fun visibility _ => ?_
  exact .bind (.mapError _ (.mutate _ _)) fun _ _ => .pure rfl

theorem aside_redeem (gateway : Gateway) (request : Request) :
    (redeem gateway request).Aside Bare := by
  refine .bind (aside_expect _) fun key _ => ?_
  refine .bind (.attempt (.of_keeps (Launcher.keeps_redeem steady_calls _ _))) fun outcome _ => ?_
  cases outcome with
  | ok session => exact .bind (.observe _) fun _ _ => .pure rfl
  | error error => exact .bind (.observe _) fun _ _ => .throw _

theorem aside_launcherFile (visit : Visit) (edition : Edition) :
    (launcherFile visit edition).Aside Bare := by
  refine .bind (aside_expect _) fun id _ => ?_
  refine .bind (aside_ask _) fun found _ => ?_
  cases found with
  | none => exact .throw _
  | some file => exact .pure rfl

theorem aside_edition (visit : Visit) : (edition visit).Aside Bare := by
  refine .bind (aside_expect _) fun id _ => ?_
  refine .bind (aside_ask _) fun found _ => ?_
  cases found with
  | none => exact .throw _
  | some edition => exact .pure rfl

theorem aside_editionGames (edition : Edition) : (editionGames edition).Aside Bare :=
  .bind (aside_ask _) fun _ _ => .pure rfl

theorem aside_generateKeys (visit : Visit) : (generateKeys visit).Aside Bare := by
  refine .bind (aside_expect _) fun edition _ => ?_
  refine .bind (aside_expect _) fun fields _ => ?_
  split
  · exact .throw _
  · have issued := Launcher.keeps_generateKeys steady_calls
    exact .bind (aside_serve (.of_keeps (issued _ _))) fun _ _ => .pure rfl

theorem aside_listKeys (visit : Visit) : (listKeys visit).Aside Bare := by
  refine .bind (aside_expect _) fun edition _ => ?_
  refine .bind (aside_expect _) fun fields _ => ?_
  have listed (status : Option KeyStatus) : (do
      let keys ← serve (Launcher.listKeys edition status)
      return Response.json 200 (.array (keys.map ProductKey.view)) : Handler).Aside Bare :=
    .bind (aside_serve (.of_keeps (Launcher.keeps_listKeys _ _))) fun _ _ => .pure rfl
  dsimp only
  split
  · exact listed none
  · exact .bind (aside_expect _) fun status _ => listed status

theorem aside_switchKey (status : KeyStatus) (visit : Visit) :
    (switchKey (Launcher.setStatus status) visit).Aside Bare := by
  refine .bind (aside_expect _) fun edition _ => ?_
  refine .bind (aside_expect _) fun id _ => ?_
  have switched := Launcher.keeps_setStatus steady_calls
  exact .bind (aside_serve (.of_keeps (switched _ _ _))) fun _ _ => .pure rfl

end Handler

namespace Gateway

open Handler

variable (gateway : Gateway) (visit : Visit)

theorem aside_guard (scheme : Scheme) : (gateway.guard scheme visit).Aside fun _ => True :=
  .of_keeps fun world => by rw [exec_guard]

theorem aside_handleGranted (endpoint : Endpoint) (grant : Grant) :
    (handleGranted visit endpoint grant).Aside Bare := by
  cases endpoint with
  | me => cases grant <;> first | exact .pure rfl | exact .throw _
  | launcherEdition => cases grant <;> first | exact .pure rfl | exact .throw _
  | launcherGame => exact aside_game visit
  | launcherFile =>
      cases grant with
      | launcher edition => exact aside_launcherFile visit edition
      | _ => exact .throw _
  | edition => exact aside_edition visit
  | editionGames =>
      cases grant with
      | launcher edition => exact aside_editionGames edition
      | _ => exact .throw _
  | generateKeys => exact aside_generateKeys visit
  | listKeys => exact aside_listKeys visit
  | activateKey => exact aside_switchKey .active visit
  | revokeKey => exact aside_switchKey .inactive visit
  | game => exact aside_game visit
  | gameFiles => exact aside_gameFiles visit
  | gameRoles => exact aside_gameRoles visit
  | updateVisibility => exact aside_updateVisibility visit
  | _ => exact .throw _

/-- Serving any endpoint outside the login flow asks nothing and sets no cookie. -/
theorem aside_serve {endpoint : Endpoint} (notStart : endpoint ≠ .startLogin)
    (notFinish : endpoint ≠ .finishLogin) (notLogout : endpoint ≠ .logout) :
    (gateway.serve visit endpoint).Aside Bare := by
  unfold serve
  cases protection : endpoint.scheme? with
  | some scheme =>
      exact .bind (gateway.aside_guard visit scheme) fun grant _ =>
        aside_handleGranted visit endpoint grant
  | none =>
      cases endpoint with
      | health => exact .get_bind fun _ => .pure rfl
      | metrics => exact .get_bind fun _ => .pure rfl
      | redeem => exact Handler.aside_redeem gateway visit.request
      | startLogin | finishLogin | logout => contradiction
      | _ => exact .throw _

end Gateway

end GameCatalog
