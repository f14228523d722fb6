import GameCatalog.Proofs.Web.Counting
import GameCatalog.Proofs.Web.Guard
import GameCatalog.Proofs.Web.Visibility

/-!
The gateway accounts for what it does.  Every request is counted once when it has been answered;
the check, the login step or the redemption that it comes to is counted once on the way, and
nothing else is counted, neither by a request nor by what is done beside the gateway.
-/

namespace GameCatalog

open Job

def LoginStep.endpoint : LoginStep → Endpoint
  | .start => .startLogin
  | .callback => .finishLogin
  | .logout => .logout

theorem LoginStep.endpoint_injective : Function.Injective LoginStep.endpoint := by
  intro step other same
  cases step <;> cases other <;> cases same <;> rfl

theorem LoginStep.scheme?_endpoint (step : LoginStep) : step.endpoint.scheme? = none := by
  cases step <;> rfl

namespace Gateway

variable {gateway : Gateway} {request : Request} {world : World}

section Account

variable {step : LoginStep} {text : String} {endpoint : Endpoint}
  {encoded : List (String × List Char)}

theorem reaches_of_takes (takes : request.Takes step) : request.Reaches step.endpoint := by
  cases step with
  | start | logout => exact takes
  | callback => exact takes.1

theorem takes_unique {other : LoginStep} (takes : request.Takes step)
    (takesToo : request.Takes other) : step = other :=
  LoginStep.endpoint_injective
    (reaches_unique (reaches_of_takes takes) (reaches_of_takes takesToo))

theorem unguarded_of_open (reaches : request.Reaches endpoint)
    (unprotected : endpoint.scheme? = none) (scheme : Scheme) : ¬request.Guarded scheme := by
  rintro ⟨other, reachesOther, protection⟩
  cases reaches_unique reaches reachesOther
  exact nomatch unprotected.symm.trans protection

theorem not_redeems_of_takes (takes : request.Takes step) (text : String) :
    ¬request.Redeems text := by
  rintro ⟨reaches, -⟩
  have same := reaches_unique reaches (reaches_of_takes takes)
  cases step <;> cases same

/-- What an open endpoint counts stands before the count of the request. -/
theorem respond_of_serves (reaches : request.Reaches endpoint)
    (unprotected : endpoint.scheme? = none) :
    ∃ visit : Visit, visit.request = request ∧
      let ended := exec (gateway.handleOpen visit endpoint) world
      (gateway.respond request world).1.status = (concluded ended.1).status ∧
      (gateway.respond request world).2.observations = ended.2.observations ++
        [.request request.method (gateway.respond request world).1.status] := by
  obtain ⟨encoded, reached⟩ := reaches
  refine ⟨visitOf request encoded, rfl, ?_, ?_⟩
  · rw [response_of_reached reached, finalize_status, exec_serve_of_open _ _ _ unprotected]
  · rw [observations_of_reached reached, exec_serve_of_open _ _ _ unprotected]

theorem respond_of_takes (gateway : Gateway) (world : World) (takes : request.Takes step) :
    ∃ result : LoginResult, (gateway.respond request world).2.observations =
        world.observations ++ [.login step result] ++
          [.request request.method (gateway.respond request world).1.status] ∧
      result.Reports (gateway.respond request world).1.status := by
  have ends {endpoint : Endpoint} (reaches : request.Reaches endpoint)
      (unprotected : endpoint.scheme? = none)
      (steps : ∀ visit : Visit, visit.request = request →
        Steps world (gateway.handleOpen visit endpoint) step) :
      ∃ result : LoginResult, (gateway.respond request world).2.observations =
          world.observations ++ [.login step result] ++
            [.request request.method (gateway.respond request world).1.status] ∧
        result.Reports (gateway.respond request world).1.status := by
    obtain ⟨visit, same, status, observations⟩ :=
      @respond_of_serves gateway request world _ reaches unprotected
    obtain ⟨result, counted, reports⟩ := steps visit same
    refine ⟨result, ?_, status ▸ reports⟩
    rw [observations, counted]
  cases step with
  | start =>
      refine ends takes rfl fun visit same => ?_
      exact steps_startLogin gateway visit.request world
  | callback =>
      obtain ⟨reaches, fields, read⟩ := takes
      refine ends reaches rfl fun visit same => ?_
      subst same
      exact steps_finishLogin gateway world read
  | logout =>
      refine ends takes rfl fun visit same => ?_
      exact steps_logout gateway visit.request world

theorem respond_of_redeems (gateway : Gateway) (world : World) (redeems : request.Redeems text) :
    ∃ result : RedemptionResult, (gateway.respond request world).2.observations =
        world.observations ++ [.redemption result] ++
          [.request request.method (gateway.respond request world).1.status] ∧
      result.Reports (world.repository.Useless (Blank.trim text))
        (gateway.respond request world).1.status := by
  obtain ⟨visit, rfl, status, observations⟩ :=
    @respond_of_serves gateway request world _ redeems.1 rfl
  obtain ⟨result, counted, reports⟩ := counts_redemption gateway redeems.2 world
  refine ⟨result, ?_, status ▸ reports⟩
  rw [observations, ← counted]
  rfl

/-- Where no scheme protects an endpoint, no step is taken and nothing redeemed, only the request
is counted. -/
theorem respond_of_idle (gateway : Gateway) (world : World) (reaches : request.Reaches endpoint)
    (unprotected : endpoint.scheme? = none) (noStep : ∀ step, ¬request.Takes step)
    (noText : ∀ text, ¬request.Redeems text) :
    (gateway.respond request world).2.observations = world.observations ++
      [.request request.method (gateway.respond request world).1.status] := by
  obtain ⟨visit, rfl, -, observations⟩ :=
    @respond_of_serves gateway request world _ reaches unprotected
  rw [observations]
  congr 1
  cases endpoint with
  | health | metrics => rfl
  | startLogin => exact absurd reaches (noStep .start)
  | logout => exact absurd reaches (noStep .logout)
  | finishLogin =>
      have started : gateway.handleOpen visit .finishLogin =
        Handler.finishLogin gateway visit.request := rfl
      rw [started]
      unfold Handler.finishLogin
      rw [Handler.exec_expect_bind]
      cases read : visit.request.queryFields ["code", "state"] with
      | error failure => rfl
      | ok fields => exact absurd ⟨reaches, fields, read⟩ (noStep .callback)
  | redeem =>
      have started : gateway.handleOpen visit .redeem =
        Handler.redeem gateway visit.request := rfl
      rw [started]
      unfold Handler.redeem
      rw [Handler.exec_expect_bind]
      cases read : visit.request.jsonBody Handler.redeemForm.decoder with
      | error failure => rfl
      | ok text => exact absurd ⟨reaches, read⟩ (noText text)
  | _ => exact nomatch unprotected

theorem respond_of_guarded (gateway : Gateway) (world : World) {scheme : Scheme}
    (reached : Route.reached? request.path request.method = some (endpoint, encoded))
    (protection : endpoint.scheme? = some scheme) :
    (gateway.respond request world).2.observations = world.observations ++
      [.check scheme (.ofCheck (gateway.checked (visitOf request encoded) world scheme))] ++
      [.request request.method (gateway.respond request world).1.status] := by
  rw [observations_of_reached reached]
  congr 1
  cases decided : Grant.ofCheck (gateway.checked (visitOf request encoded) world scheme) with
  | error failure =>
      rw [exec_serve_of_refused _ _ _ protection decided]
      rfl
  | ok grant =>
      rw [exec_serve_of_granted _ _ _ protection decided]
      exact keeps_handleGranted _ steady_observations _ _ _

theorem respond_of_unreached (gateway : Gateway) (world : World)
    (unreached : Route.reached? request.path request.method = none) :
    (gateway.respond request world).2.observations = world.observations ++
      [.request request.method (gateway.respond request world).1.status] := by
  rw [respond_of_answer gateway request world
    (run_answer_of_unreached gateway request world unreached), finalize_status]

theorem accounts_of_left {checks steps redemptions : List Observation}
    (left : (gateway.respond request world).2.observations = world.observations ++
      (checks ++ steps ++ redemptions) ++
      [.request request.method (gateway.respond request world).1.status])
    (countsChecks : (gateway.serving request world).CountsChecks gateway checks)
    (countsSteps : (gateway.serving request world).CountsSteps steps)
    (countsRedemptions : (gateway.serving request world).CountsRedemptions redemptions) :
    (gateway.serving request world).Accounts gateway := by
  have counted : (gateway.serving request world).counted = checks ++ steps ++ redemptions ++
      [.request request.method (gateway.respond request world).1.status] := by
    unfold Exchange.counted
    rw [show (gateway.serving request world).after.observations = _ from left,
      List.append_assoc world.observations]
    exact List.drop_left
  refine ⟨?_, checks, steps, redemptions, counted, countsChecks, countsSteps, countsRedemptions⟩
  rw [counted, ← List.append_assoc]
  exact left

section Nothing

variable {exchange : Exchange}

theorem countsChecks_nil (unguarded : ∀ scheme, ¬exchange.request.Guarded scheme) :
    exchange.CountsChecks gateway [] :=
  ⟨fun scheme guarded => absurd guarded (unguarded scheme), fun _ => rfl⟩

theorem countsSteps_nil (noStep : ∀ step, ¬exchange.request.Takes step) :
    exchange.CountsSteps [] :=
  ⟨fun step takes => absurd takes (noStep step), fun _ => rfl⟩

theorem countsRedemptions_nil (noText : ∀ text, ¬exchange.request.Redeems text) :
    exchange.CountsRedemptions [] :=
  ⟨fun text redeems => absurd redeems (noText text), fun _ => rfl⟩

end Nothing

theorem accounts_of_guarded (gateway : Gateway) (world : World) {scheme : Scheme}
    (reached : Route.reached? request.path request.method = some (endpoint, encoded))
    (protection : endpoint.scheme? = some scheme) :
    (gateway.serving request world).Accounts gateway := by
  have guarded : request.Guarded scheme := ⟨endpoint, ⟨encoded, reached⟩, protection⟩
  have noStep (step : LoginStep) : ¬request.Takes step := fun takes =>
    unguarded_of_open (reaches_of_takes takes) step.scheme?_endpoint scheme guarded
  have noText (text : String) : ¬request.Redeems text := fun redeems =>
    unguarded_of_open redeems.1 rfl scheme guarded
  have left := respond_of_guarded gateway world reached protection
  refine @accounts_of_left gateway request world [_] [] [] left ⟨?_, ?_⟩
    (countsSteps_nil noStep) (countsRedemptions_nil noText)
  · rintro other ⟨otherEndpoint, reaches, otherProtection⟩
    cases reaches_unique ⟨encoded, reached⟩ reaches
    cases protection.symm.trans otherProtection
    exact ⟨_, rfl, checksAs_ofCheck reached protection⟩
  · exact fun unguarded => absurd guarded (unguarded scheme)

theorem accounts_of_takes (gateway : Gateway) (world : World) (takes : request.Takes step) :
    (gateway.serving request world).Accounts gateway := by
  have unguarded := unguarded_of_open (reaches_of_takes takes) step.scheme?_endpoint
  obtain ⟨result, left, reports⟩ := respond_of_takes gateway world takes
  refine @accounts_of_left gateway request world [] [_] [] left (countsChecks_nil unguarded)
    ⟨?_, ?_⟩
    (countsRedemptions_nil (not_redeems_of_takes takes))
  · intro other takesToo
    cases takes_unique takes takesToo
    exact ⟨result, rfl, reports⟩
  · exact fun noStep => absurd takes (noStep step)

theorem accounts_of_redeems (gateway : Gateway) (world : World) (redeems : request.Redeems text) :
    (gateway.serving request world).Accounts gateway := by
  obtain ⟨result, left, reports⟩ := respond_of_redeems gateway world redeems
  refine @accounts_of_left gateway request world [] [] [_] left
    (countsChecks_nil (unguarded_of_open redeems.1 rfl))
    (countsSteps_nil fun step takes => not_redeems_of_takes takes text redeems) ⟨?_, ?_⟩
  · rintro other ⟨-, read⟩
    cases redeems.2.symm.trans read
    exact ⟨result, rfl, reports⟩
  · exact fun noText => absurd redeems (noText text)

theorem accounts_serving (gateway : Gateway) (request : Request) (world : World) :
    (gateway.serving request world).Accounts gateway := by
  by_cases steps : ∃ step, request.Takes step
  · exact accounts_of_takes gateway world steps.choose_spec
  by_cases texts : ∃ text, request.Redeems text
  · exact accounts_of_redeems gateway world texts.choose_spec
  have noStep := not_exists.mp steps
  have noText := not_exists.mp texts
  cases reached : Route.reached? request.path request.method with
  | none =>
      have left := respond_of_unreached gateway world reached
      refine @accounts_of_left gateway request world [] [] [] (by simpa using left)
        (countsChecks_nil ?_) (countsSteps_nil noStep) (countsRedemptions_nil noText)
      rintro scheme ⟨endpoint, ⟨encoded, there⟩, -⟩
      exact nomatch reached.symm.trans there
  | some fit =>
      obtain ⟨endpoint, encoded⟩ := fit
      cases protection : endpoint.scheme? with
      | some scheme => exact accounts_of_guarded gateway world reached protection
      | none =>
          have reaches : request.Reaches endpoint := ⟨encoded, reached⟩
          have left := respond_of_idle gateway world reaches protection noStep noText
          exact @accounts_of_left gateway request world [] [] [] (by simpa using left)
            (countsChecks_nil (unguarded_of_open reaches protection)) (countsSteps_nil noStep)
            (countsRedemptions_nil noText)

end Account

section Run

/-- The exchanges of a run in which the gateway serves requests and other acts are performed. -/
def servings (gateway : Gateway) : World → List (Circumstances × Deed) → List Exchange
  | _, [] => []
  | world, (circumstances, .serve request) :: rest =>
      let first := gateway.exchange world circumstances request
      first :: servings gateway first.after rest
  | world, (circumstances, .beside act) :: rest =>
      servings gateway (act.perform world circumstances) rest

theorem observations_perform (act : Launcher.Act) (world : World) (circumstances : Circumstances) :
    (act.perform world circumstances).observations = world.observations := by
  cases act with
  | mutate mutation | reload => rfl
  | service call =>
      have steady := steady_observations
      have kept : call.job.Keeps World.observations := by
        cases call with
        | generateKeys edition count => exact Launcher.keeps_generateKeys steady edition count
        | listKeys edition status => exact Launcher.keeps_listKeys edition status
        | switch status edition id =>
            cases status <;> exact Launcher.keeps_setStatus steady _ edition id
        | redeem seconds text => exact Launcher.keeps_redeem steady seconds text
        | validateSession token now => exact .ask _
        | sweep => exact .mapError _ (Sweep.keeps_run steady)
      exact kept (world.under circumstances)

theorem accounts_of_mem {world : World} {deeds : List (Circumstances × Deed)} {exchange : Exchange}
    (membership : exchange ∈ gateway.servings world deeds) : exchange.Accounts gateway := by
  induction deeds generalizing world with
  | nil => exact absurd membership List.not_mem_nil
  | cons deed rest inductionHypothesis =>
      obtain ⟨circumstances, request | act⟩ := deed
      · rcases List.mem_cons.mp membership with rfl | later
        · exact accounts_serving gateway request (world.under circumstances)
        · exact inductionHypothesis later
      · exact inductionHypothesis membership

/-- What was counted in a run is what its exchanges counted, in order. -/
theorem observations_afterDeeds (gateway : Gateway) (world : World)
    (deeds : List (Circumstances × Deed)) :
    (gateway.afterDeeds world deeds).observations =
      world.observations ++ (gateway.servings world deeds).flatMap Exchange.counted := by
  induction deeds generalizing world with
  | nil => exact (List.append_nil _).symm
  | cons deed rest inductionHypothesis =>
      obtain ⟨circumstances, request | act⟩ := deed
      · have left := (accounts_serving gateway request (world.under circumstances)).left
        unfold afterDeeds servings
        rw [inductionHypothesis, List.flatMap_cons, ← List.append_assoc]
        exact congrArg (· ++ _) left
      · unfold afterDeeds servings
        rw [inductionHypothesis]
        exact congrArg (· ++ _) (observations_perform act world circumstances)

/--
The gateway accounts for its requests.  In every run each request raises the counter of its method
and its status by one, and no other counter but that of the check, the login step or the
redemption that it comes to, whose result says what the response says; nothing else raises any.
-/
theorem afterDeeds_accounted (gateway : Gateway) (world : World)
    (deeds : List (Circumstances × Deed)) :
    let run := gateway.servings world deeds
    let after := gateway.afterDeeds world deeds
    (∀ exchange ∈ run, exchange.Accounts gateway ∧ ∀ observation : Observation,
      Metrics.value exchange.after.observations observation.counter =
        Metrics.value exchange.before.observations observation.counter +
          exchange.counted.count observation) ∧
    ∀ observation : Observation,
      Metrics.value after.observations observation.counter =
        Metrics.value world.observations observation.counter +
          (run.flatMap Exchange.counted).count observation := by
  intro run after
  refine ⟨fun exchange membership => ?_, fun observation => ?_⟩
  · have accounts := accounts_of_mem membership
    refine ⟨accounts, fun observation => ?_⟩
    rw [Metrics.value_counter, Metrics.value_counter, accounts.left, List.count_append]
  · rw [Metrics.value_counter, Metrics.value_counter,
      observations_afterDeeds gateway world deeds, List.count_append]

def strangerDeeds : List (Circumstances × Deed) :=
  let circumstances : Circumstances := ⟨0, 0, Faults.none, nowhere.provider, none⟩
  [(circumstances, .serve { method := "HEAD", path := "/users/me".toList }),
    (circumstances, .beside (.service .sweep)),
    (circumstances, .serve {
      method := "POST"
      path := "/editions/authorize".toList
      headers := [("content-type", Utf8.encode "application/json")]
      body := Utf8.encode "[\"key\"]" })]

theorem afterDeeds_accounted_stranger :
    let raised (observation : Observation) :=
      Metrics.value (blank.afterDeeds nowhere strangerDeeds).observations observation.counter
    raised (.check .member .unauthenticated) = 1 ∧ raised (.request "HEAD" 401) = 1 ∧
      raised (.redemption .invalidKey) = 1 ∧ raised (.request "POST" 400) = 1 := by
  intro raised
  have total := (afterDeeds_accounted blank nowhere strangerDeeds).2
  have counted : (blank.servings nowhere strangerDeeds).flatMap Exchange.counted =
      [.check .member .unauthenticated, .request "HEAD" 401, .redemption .invalidKey,
        .request "POST" 400] := by
    decide +kernel
  refine ⟨?_, ?_, ?_, ?_⟩ <;> exact (total _).trans (by rw [counted]; decide +kernel)

end Run

end Gateway

end GameCatalog
