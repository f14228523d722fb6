import GameCatalog.Proofs.Launcher.Outcome
import GameCatalog.Proofs.Web.Keeps
import GameCatalog.Proofs.Web.Serving

/-!
What the handlers do to the store.  Four of them may write: each is described by the outcome
of the service it calls, and whenever it fails the store is untouched.
-/

namespace GameCatalog.Handler

open Job

section Serve

variable {Result : Type} {job : Job LauncherError Result} {world after : World}

theorem exec_serve_of_ok {result : Result} (ended : exec job world = (.ok result, after)) :
    exec (serve job) world = (.ok result, after) := by
  unfold serve
  rw [exec_mapError, ended]
  rfl

theorem exec_serve_of_error {error : LauncherError}
    (ended : exec job world = (.error error, after)) :
    exec (serve job) world = (.error (.ofLauncher error), after) := by
  unfold serve
  rw [exec_mapError, ended]
  rfl

end Serve

theorem exec_redeem_cases (gateway : Gateway) (request : Request) (world : World) :
    (∃ text key session redeemed after,
      request.jsonBody redeemForm.decoder = .ok text ∧
      exec (redeem gateway request) world =
        (.ok (.json 201 (session.view gateway.sessionSeconds)), after) ∧
      Launcher.Redeemed gateway.sessionSeconds (Blank.trim text) world key session redeemed ∧
      after.store = redeemed.store) ∨
    ∃ failure after, exec (redeem gateway request) world = (.error failure, after) ∧
      world.store.Untouched after.store := by
  unfold redeem
  rw [exec_expect_bind]
  cases read : request.jsonBody redeemForm.decoder with
  | error failure => exact .inr ⟨failure, world, rfl, .refl _⟩
  | ok text =>
      rcases Launcher.exec_redeem_cases gateway.sessionSeconds (Blank.trim text) world with
        ⟨key, session, redeemed, ended, outcome⟩ | ⟨error, after, ended, untouched⟩
      · refine .inl ⟨text, key, session, redeemed, {
          redeemed with
          observations := redeemed.observations ++ [.redemption .ok] }, rfl, ?_, outcome, rfl⟩
        exact (exec_bind_of_ok (exec_attempt_of_ended ended)).trans
          (exec_bind_of_ok (exec_observe _ _))
      · refine .inr ⟨.ofLauncher error, {
          after with
          observations := after.observations ++ [.redemption (redemptionFailure error)] },
          ?_, untouched⟩
        exact (exec_bind_of_ok (exec_attempt_of_ended ended)).trans
          (exec_bind_of_ok (exec_observe _ _))

theorem exec_generateKeys_cases (visit : Visit) (world : World) :
    (∃ edition fields count keys after,
      visit.parameters.identifier "editionID" = .ok edition ∧
      visit.request.queryFields ["num"] = .ok fields ∧
      (fields.lookup "num").bind readCount? = some count ∧
      exec (generateKeys visit) world = (.ok (.json 201 (.array (keys.map ProductKey.view))), after) ∧
      Launcher.Issued edition count world keys after) ∨
    ∃ failure after, exec (generateKeys visit) world = (.error failure, after) ∧
      world.store.Untouched after.store := by
  unfold generateKeys
  rw [exec_expect_bind]
  cases named : visit.parameters.identifier "editionID" with
  | error failure => exact .inr ⟨failure, world, rfl, .refl _⟩
  | ok edition =>
  dsimp only
  rw [exec_expect_bind]
  cases asked : visit.request.queryFields ["num"] with
  | error failure => exact .inr ⟨failure, world, rfl, .refl _⟩
  | ok fields =>
  dsimp only
  cases counted : (fields.lookup "num").bind readCount? with
  | none => exact .inr ⟨.ofLauncher .invalidKeyNumber, world, rfl, .refl _⟩
  | some count =>
  dsimp only
  rcases Launcher.exec_generateKeys_cases edition count world with
    ⟨keys, after, ended, issued⟩ | ⟨error, after, ended, untouched⟩
  · refine .inl ⟨edition, fields, count, keys, after, rfl, rfl, counted, ?_, issued⟩
    exact exec_bind_of_ok (exec_serve_of_ok ended)
  · refine .inr ⟨.ofLauncher error, after, ?_, untouched⟩
    exact exec_bind_of_error (exec_serve_of_error ended)

theorem exec_switchKey_cases (status : KeyStatus) (visit : Visit) (world : World) :
    (∃ edition id stored key after,
      visit.parameters.identifier "editionID" = .ok edition ∧
      visit.parameters.identifier "productKeyID" = .ok id ∧
      exec (switchKey (Launcher.setStatus status) visit) world = (.ok (.json 200 key.view), after) ∧
      Launcher.Switched status edition id world stored key after) ∨
    ∃ failure after, exec (switchKey (Launcher.setStatus status) visit) world =
      (.error failure, after) ∧ world.store.Untouched after.store := by
  unfold switchKey
  rw [exec_expect_bind]
  cases edition? : @Parameters.identifier .edition visit.parameters "editionID" with
  | error failure => exact .inr ⟨failure, world, rfl, .refl _⟩
  | ok edition =>
  dsimp only
  rw [exec_expect_bind]
  cases id? : @Parameters.identifier .productKey visit.parameters "productKeyID" with
  | error failure => exact .inr ⟨failure, world, rfl, .refl _⟩
  | ok id =>
  rcases Launcher.exec_setStatus_cases status edition id world with
    ⟨stored, key, after, ended, switched⟩ | ⟨error, after, ended, untouched⟩
  · refine .inl ⟨edition, id, stored, key, after, rfl, rfl, ?_, switched⟩
    exact exec_bind_of_ok (exec_serve_of_ok ended)
  · refine .inr ⟨.ofLauncher error, after, ?_, untouched⟩
    exact exec_bind_of_error (exec_serve_of_error ended)

/-- Who may see a game is changed on the disk and in memory, or nothing is touched. -/
theorem exec_updateVisibility_cases (visit : Visit) (world : World) :
    (∃ id visibility game,
      visit.parameters.identifier "gameID" = .ok id ∧
      visit.request.jsonBody visibilityForm.decoder = .ok visibility ∧
      world.store.live.games.get? id = some game ∧
      exec (updateVisibility visit) world =
        (.ok (.json 200 ({ game with visibility }.view)), {
          world with
          store := world.store.written {
            world.store.live with
            games := world.store.live.games.insert id { game with visibility } } })) ∨
    ∃ failure after, exec (updateVisibility visit) world = (.error failure, after) ∧
      world.store.Untouched after.store := by
  unfold updateVisibility
  rw [exec_expect_bind]
  cases id? : @Parameters.identifier .game visit.parameters "gameID" with
  | error failure => exact .inr ⟨failure, world, rfl, .refl _⟩
  | ok id =>
  dsimp only
  rw [exec_expect_bind]
  cases asked : visit.request.jsonBody visibilityForm.decoder with
  | error failure => exact .inr ⟨failure, world, rfl, .refl _⟩
  | ok visibility =>
  have commits (store : Store) : store.updateVisibility id visibility =
      store.commit (·.updateVisibility id visibility) := rfl
  rcases exec_commit_cases commits .updateVisibility Failure.ofStore world with
    ⟨changed, next, -, change, accepts, committed⟩ | ⟨error, store, committed, untouched⟩
  · cases found : world.store.live.games.get? id with
    | none => simp [Document.updateVisibility, found] at change
    | some game =>
        simp only [Document.updateVisibility, found, Except.ok.injEq, Prod.mk.injEq] at change
        obtain ⟨rfl, rfl⟩ := change
        exact .inl ⟨id, visibility, game, rfl, rfl, found, exec_bind_of_ok committed⟩
  · exact .inr ⟨.ofStore error, _, exec_bind_of_error committed, untouched⟩

end GameCatalog.Handler
