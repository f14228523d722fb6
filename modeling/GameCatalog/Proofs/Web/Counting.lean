import GameCatalog.Proofs.Metrics
import GameCatalog.Proofs.Web.Keeps
import GameCatalog.Proofs.Web.LoginEndings

/-!
What is to be counted, and what the guard and the handlers count.  The guard counts its decision,
the steps of a login count how they ended, and so does the redemption of a key; each result says
what the response says.
-/

namespace GameCatalog

open Job

def Request.Takes (request : Request) : LoginStep → Prop
  | .start => request.Reaches .startLogin
  | .callback => request.Reaches .finishLogin ∧
      ∃ fields, request.queryFields ["code", "state"] = .ok fields
  | .logout => request.Reaches .logout

def Request.Redeems (request : Request) (text : String) : Prop :=
  request.Reaches .redeem ∧ request.jsonBody Handler.redeemForm.decoder = .ok text

def Request.Guarded (request : Request) (scheme : Scheme) : Prop :=
  ∃ endpoint, request.Reaches endpoint ∧ endpoint.scheme? = some scheme

def CheckResult.status? : CheckResult → Option Nat
  | .granted | .anonymous => none
  | .invalidRequest => some 400
  | .unauthenticated => some 401
  | .forbidden => some 403
  | .notFound => some 404
  | .error => some 500

structure LoginResult.Reports (result : LoginResult) (status : Nat) : Prop where
  ok : result = .ok ↔ status = 200 ∨ status = 303
  clientError : result = .clientError ↔ status = 400
  providerError : result = .providerError ↔ status = 500

/-- No active key has the text: it has not the form of one, or it is unknown, or inactive. -/
def Repository.Useless (repository : Repository) (text : String) : Prop :=
  ProductKeyText.isValid text = false ∨ repository.findProductKey text = .ok none ∨
    ∃ key, repository.findProductKey text = .ok (some key) ∧ key.status ≠ .active

/-- The result of a redemption says what the status reports, and whether the text was in vain. -/
structure RedemptionResult.Reports (result : RedemptionResult) (useless : Prop) (status : Nat) :
    Prop where
  ok : result = .ok ↔ status = 201
  invalidKey : result = .invalidKey ↔ useless

namespace Exchange

variable (gateway : Gateway) (exchange : Exchange)

def counted : List Observation :=
  exchange.after.observations.drop exchange.before.observations.length

def Handled (scheme : Scheme) (grant : Grant) : Prop :=
  ∃ endpoint encoded,
    Route.reached? exchange.request.path exchange.request.method = some (endpoint, encoded) ∧
    endpoint.scheme? = some scheme ∧
    let visit := Gateway.visitOf exchange.request encoded
    gateway.checked visit exchange.before scheme = .ok (.granted grant) ∧
    exchange.response = Gateway.finalize exchange.request (Gateway.concluded
      (exec (Gateway.handleGranted visit endpoint grant)
        (gateway.guarded visit exchange.before scheme)).1)

def TurnedBack (scheme : Scheme) (status : Nat) : Prop :=
  ∃ endpoint encoded failure,
    Route.reached? exchange.request.path exchange.request.method = some (endpoint, encoded) ∧
    endpoint.scheme? = some scheme ∧
    Grant.ofCheck (gateway.checked (Gateway.visitOf exchange.request encoded) exchange.before
      scheme) = .error failure ∧
    exchange.response = Gateway.finalize exchange.request failure.toResponse ∧
    exchange.response.status = status

/-- The result of a check says who answered the request, and how. -/
structure ChecksAs (scheme : Scheme) (result : CheckResult) : Prop where
  handled : result = .granted ∨ result = .anonymous ↔
    ∃ grant, exchange.Handled gateway scheme grant
  anonymous : result = .anonymous ↔ exchange.Handled gateway scheme .anonymous
  invalidRequest : result = .invalidRequest ↔ exchange.TurnedBack gateway scheme 400
  unauthenticated : result = .unauthenticated ↔ exchange.TurnedBack gateway scheme 401
  forbidden : result = .forbidden ↔ exchange.TurnedBack gateway scheme 403
  notFound : result = .notFound ↔ exchange.TurnedBack gateway scheme 404
  error : result = .error ↔ exchange.TurnedBack gateway scheme 500

/-- The checks that are counted: one where a scheme protects what the request reaches. -/
structure CountsChecks (entries : List Observation) : Prop where
  one : ∀ scheme, exchange.request.Guarded scheme →
    ∃ result, entries = [.check scheme result] ∧ exchange.ChecksAs gateway scheme result
  none : (∀ scheme, ¬exchange.request.Guarded scheme) → entries = []

/-- The login steps that are counted: one where the request takes one. -/
structure CountsSteps (entries : List Observation) : Prop where
  one : ∀ step, exchange.request.Takes step →
    ∃ result, entries = [.login step result] ∧ result.Reports exchange.response.status
  none : (∀ step, ¬exchange.request.Takes step) → entries = []

/-- The redemptions that are counted: one where the request wants one. -/
structure CountsRedemptions (entries : List Observation) : Prop where
  one : ∀ text, exchange.request.Redeems text →
    ∃ result, entries = [.redemption result] ∧
      result.Reports (exchange.before.repository.Useless (Blank.trim text))
        exchange.response.status
  none : (∀ text, ¬exchange.request.Redeems text) → entries = []

/-- All that is counted in the course of an exchange. -/
structure Accounts : Prop where
  left : exchange.after.observations = exchange.before.observations ++ exchange.counted
  parts : ∃ checks steps redemptions,
    exchange.counted = checks ++ steps ++ redemptions ++
      [.request exchange.request.method exchange.response.status] ∧
    exchange.CountsChecks gateway checks ∧ exchange.CountsSteps steps ∧
    exchange.CountsRedemptions redemptions

end Exchange

namespace Gateway

variable {gateway : Gateway} {request : Request} {world : World}

def serving (gateway : Gateway) (request : Request) (world : World) : Exchange :=
  ⟨request, world, (gateway.respond request world).1, (gateway.respond request world).2⟩

section Guard

variable {endpoint : Endpoint} {encoded : List (String × List Char)} {scheme : Scheme}

theorem response_of_reached
    (reached : Route.reached? request.path request.method = some (endpoint, encoded)) :
    (gateway.respond request world).1 = finalize request
      (concluded (exec (gateway.serve (visitOf request encoded) endpoint) world).1) := by
  have answered := run_answer_of_reached gateway request world reached
  rw [run_conclude] at answered
  rw [respond_of_answer gateway request world answered]

theorem observations_of_reached
    (reached : Route.reached? request.path request.method = some (endpoint, encoded)) :
    (gateway.respond request world).2.observations =
      (exec (gateway.serve (visitOf request encoded) endpoint) world).2.observations ++
        [.request request.method (gateway.respond request world).1.status] := by
  have answered := run_answer_of_reached gateway request world reached
  rw [run_conclude] at answered
  rw [respond_of_answer gateway request world answered, finalize_status]

theorem handled_iff
    (reached : Route.reached? request.path request.method = some (endpoint, encoded))
    (protection : endpoint.scheme? = some scheme) {grant : Grant} :
    (gateway.serving request world).Handled gateway scheme grant ↔
      gateway.checked (visitOf request encoded) world scheme = .ok (.granted grant) := by
  constructor
  · rintro ⟨other, parameters, there, -, granted, -⟩
    cases reached.symm.trans there
    exact granted
  · intro granted
    refine ⟨endpoint, encoded, reached, protection, granted, ?_⟩
    have response := @response_of_reached gateway request world _ _ reached
    rw [exec_serve_of_granted gateway _ world protection (ofCheck_eq_ok_iff.mpr granted)]
      at response
    exact response

theorem turnedBack_iff
    (reached : Route.reached? request.path request.method = some (endpoint, encoded))
    (protection : endpoint.scheme? = some scheme) {status : Nat} :
    (gateway.serving request world).TurnedBack gateway scheme status ↔
      ∃ failure, Grant.ofCheck (gateway.checked (visitOf request encoded) world scheme) =
        .error failure ∧ failure.toResponse.status = status := by
  have answered {failure : Failure}
      (refused : Grant.ofCheck (gateway.checked (visitOf request encoded) world scheme) =
        .error failure) :
      (gateway.respond request world).1 = finalize request failure.toResponse := by
    have response := @response_of_reached gateway request world _ _ reached
    rwa [exec_serve_of_refused gateway _ world protection refused] at response
  constructor
  · rintro ⟨other, parameters, failure, there, -, refused, response, rfl⟩
    cases reached.symm.trans there
    refine ⟨failure, refused, ?_⟩
    rw [response, finalize_status]
  · rintro ⟨failure, refused, rfl⟩
    refine ⟨endpoint, encoded, failure, reached, protection, refused, answered refused, ?_⟩
    exact (congrArg Response.status (answered refused)).trans (finalize_status _ _)

theorem passes_iff {checked : Except CheckError Verdict} :
    CheckResult.ofCheck checked = .granted ∨ CheckResult.ofCheck checked = .anonymous ↔
      ∃ grant, checked = .ok (.granted grant) := by
  unfold CheckResult.ofCheck
  split <;> simp

theorem anonymous_iff {checked : Except CheckError Verdict} :
    CheckResult.ofCheck checked = .anonymous ↔ checked = .ok (.granted .anonymous) := by
  unfold CheckResult.ofCheck
  split <;> simp_all

/-- The guard answers with the status that goes with what it counts. -/
theorem refuses_iff {checked : Except CheckError Verdict} {status : Nat} :
    (∃ failure, Grant.ofCheck checked = .error failure ∧ failure.toResponse.status = status) ↔
      (CheckResult.ofCheck checked).status? = some status := by
  cases checked with
  | error error => simp [Grant.ofCheck, CheckResult.ofCheck, CheckResult.status?]; rfl
  | ok verdict =>
      cases verdict with
      | granted grant =>
          cases grant <;> simp [Grant.ofCheck, CheckResult.ofCheck, CheckResult.status?]
      | denied denial =>
          cases denial <;> simp [Grant.ofCheck, CheckResult.ofCheck, CheckResult.status?] <;> rfl

theorem checksAs_ofCheck
    (reached : Route.reached? request.path request.method = some (endpoint, encoded))
    (protection : endpoint.scheme? = some scheme) :
    (gateway.serving request world).ChecksAs gateway scheme
      (.ofCheck (gateway.checked (visitOf request encoded) world scheme)) := by
  have told (result : CheckResult) (status : Nat)
      (only : ∀ other : CheckResult, other = result ↔ other.status? = some status) :
      CheckResult.ofCheck (gateway.checked (visitOf request encoded) world scheme) = result ↔
        (gateway.serving request world).TurnedBack gateway scheme status := by
    rw [turnedBack_iff reached protection, refuses_iff, only]
  refine ⟨?_, ?_, told _ _ ?_, told _ _ ?_, told _ _ ?_, told _ _ ?_, told _ _ ?_⟩
  · simp only [handled_iff reached protection]
    exact passes_iff
  · rw [handled_iff reached protection]
    exact anonymous_iff
  all_goals
    intro other
    cases other <;> decide

end Guard

section Steps

variable {Value : Type} {step : LoginStep}

theorem reports_of_success {status : Nat} (success : status = 200 ∨ status = 303) :
    LoginResult.ok.Reports status where
  ok := by simpa using success
  clientError := by
    simp only [reduceCtorEq, false_iff]
    omega
  providerError := by
    simp only [reduceCtorEq, false_iff]
    omega

theorem reports_of_failure (error : LoginError) :
    (Handler.failureResult error).Reports (Failure.ofLogin error).toResponse.status := by
  rw [Failure.status_ofLogin]
  unfold Handler.failureResult
  by_cases blames : error.isClientError = true
  · constructor <;> simp [blames]
  · constructor <;> simp [blames]

/-- A step counts its failure, or what finishes it counts its success. -/
theorem counts_step {job : Job LoginError Value} (keeps : job.Keeps World.observations)
    (next : Value → Handler)
    (finishes : ∀ value world, ∃ response after, exec (next value) world = (.ok response, after) ∧
      after.observations = world.observations ++ [.login step .ok] ∧
      (response.status = 200 ∨ response.status = 303))
    (world : World) :
    let ended := exec (do
      let value ← Handler.takeLogin step (← job.attempt)
      next value) world
    ∃ result, ended.2.observations = world.observations ++ [.login step result] ∧
      result.Reports (concluded ended.1).status := by
  intro ended
  have kept := keeps world
  rcases tried : exec job world with ⟨outcome, after⟩
  rw [tried] at kept
  have attempted := @exec_attempt_of_ended _ Failure _ _ _ _ _ tried
  cases outcome with
  | error error =>
      have failed : ended = (.error (.ofLogin error), {
          after with
          observations := after.observations ++ [.login step (Handler.failureResult error)] }) :=
        exec_bind_of_ok attempted
      rw [failed, ← kept]
      exact ⟨_, rfl, reports_of_failure error⟩
  | ok value =>
      obtain ⟨response, later, finished, counted, success⟩ := finishes value after
      have succeeded : ended = (.ok response, later) := (exec_bind_of_ok attempted).trans finished
      rw [succeeded, counted, ← kept]
      exact ⟨_, rfl, reports_of_success success⟩

variable (gateway request world)

def Steps (handler : Handler) (step : LoginStep) : Prop :=
  ∃ result, (exec handler world).2.observations = world.observations ++ [.login step result] ∧
    result.Reports (concluded (exec handler world).1).status

theorem steps_startLogin : Steps world (Handler.startLogin gateway request) .start := by
  unfold Steps Handler.startLogin
  refine counts_step (Login.keeps_start steady_observations.symbols _) _ (fun begun before => ?_) world
  exact ⟨_, _, exec_bind_of_ok (exec_observe _ _), rfl, .inr rfl⟩

variable {request} in
theorem steps_finishLogin {fields : List (String × String)}
    (read : request.queryFields ["code", "state"] = .ok fields) :
    Steps world (Handler.finishLogin gateway request) .callback := by
  unfold Steps Handler.finishLogin
  rw [Handler.exec_expect_bind, read]
  dsimp only
  cases (fields.lookup "code").filter (· ≠ "") with
  | none =>
      have reports : LoginResult.clientError.Reports 400 := ⟨by decide, by decide, by decide⟩
      exact ⟨_, rfl, reports⟩
  | some code =>
      dsimp only
      rw [exec_get_bind]
      refine counts_step (Login.keeps_finish (fun _ _ => rfl) _ _ _ _) _ (fun outcome before => ?_) world
      exact ⟨_, _, exec_bind_of_ok (exec_observe _ _), rfl, .inl rfl⟩

theorem steps_logout : Steps world (Handler.logout gateway request) .logout := by
  unfold Steps Handler.logout
  refine counts_step (Login.keeps_logout (fun _ _ => rfl) _) _ (fun _ before => ?_) world
  exact ⟨_, _, exec_bind_of_ok (exec_observe _ _), rfl, .inl rfl⟩

end Steps

section Redemption

variable {text : String}

theorem findProductKey_of_reads {world : World} (reads : world.faults .findProductKey = none)
    (text : String) :
    world.repository.findProductKey text = .ok (world.store.live.findProductKey text) := by
  simp [Repository.findProductKey, Repository.answer, World.repository, reads]

theorem ofStore_ne_invalidKey (error : StoreError) : LauncherError.ofStore error ≠ .invalidKey := by
  cases error <;> exact nofun

/-- A redemption reports an invalid key exactly for a text that is useless. -/
theorem redeem_invalidKey_iff (seconds : Nat) (text : String) (world : World) :
    (exec (Launcher.redeem seconds text) world).1 = .error .invalidKey ↔
      world.repository.Useless text := by
  unfold Repository.Useless
  cases valid : ProductKeyText.isValid text with
  | false => simp [Launcher.exec_redeem_of_invalid valid]
  | true =>
  cases reads : world.faults .findProductKey with
  | some error =>
      have unread : world.repository.findProductKey text = .error error := by
        simp [Repository.findProductKey, Repository.answer, World.repository, reads]
      simp [Launcher.exec_redeem_of_unread valid reads, unread, ofStore_ne_invalidKey]
  | none =>
  rw [findProductKey_of_reads reads]
  cases found : world.store.live.findProductKey text with
  | none => simp [Launcher.exec_redeem_of_missing reads found]
  | some key =>
  by_cases active : key.status = .active
  · have otherwise : (exec (Launcher.redeem seconds text) world).1 ≠ .error .invalidKey := by
      rw [Launcher.exec_redeem_of_active valid reads found active]
      rcases exec_commit_cases
          (Launcher.saveLauncherSession_commits key.id (Launcher.nextSession seconds world))
          .saveLauncherSession LauncherError.ofStore (Launcher.drewSession world) with
        ⟨_, next, -, -, -, committed⟩ | ⟨error, store, committed, -⟩
      · rw [exec_bind_of_ok committed]
        rintro ⟨⟩
      · rw [exec_bind_of_error committed]
        simpa using ofStore_ne_invalidKey error
    simp [otherwise, active]
  · simp [Launcher.exec_redeem_of_inactive reads found active, active]

theorem counts_redemption (gateway : Gateway)
    (read : request.jsonBody Handler.redeemForm.decoder = .ok text) (world : World) :
    let ended := exec (Handler.redeem gateway request) world
    ∃ result, ended.2.observations = world.observations ++ [.redemption result] ∧
      result.Reports (world.repository.Useless (Blank.trim text)) (concluded ended.1).status := by
  have kept := Launcher.keeps_redeem steady_observations gateway.sessionSeconds (Blank.trim text)
    world
  dsimp only
  unfold Handler.redeem
  rw [← redeem_invalidKey_iff gateway.sessionSeconds, Handler.exec_expect_bind, read]
  rcases tried : exec (Launcher.redeem gateway.sessionSeconds (Blank.trim text)) world with
    ⟨outcome, after⟩
  rw [tried] at kept
  rw [← kept]
  have attempted := @exec_attempt_of_ended _ Failure _ _ _ _ _ tried
  cases outcome with
  | ok session =>
      refine ⟨.ok, ?_, ?_⟩ <;> dsimp only <;> rw [exec_bind_of_ok attempted]
      · rfl
      · exact ⟨iff_of_true rfl rfl, iff_of_false nofun nofun⟩
  | error error =>
      refine ⟨Handler.redemptionFailure error, ?_, ?_⟩ <;> dsimp only <;>
        rw [exec_bind_of_ok attempted]
      · rfl
      · refine ⟨iff_of_false ?_ ?_, ?_⟩
        · cases error <;> exact nofun
        · exact Failure.status_ne_of_lt (.ofLauncher error) (by decide)
        · cases error <;> simp [Handler.redemptionFailure]

end Redemption

end Gateway

end GameCatalog
