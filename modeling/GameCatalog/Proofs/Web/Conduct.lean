import GameCatalog.Proofs.Login.Outcome

/-!
What the gateway does with a request, as far as cookies and the identity provider go.  Every
request is served in one of a few ways, each of which says what was asked, what the identity
provider answered, and which cookies the response sets.
-/

namespace GameCatalog

open Job

def Request.Reaches (request : Request) (endpoint : Endpoint) : Prop :=
  ∃ encoded, Route.reached? request.path request.method = some (endpoint, encoded)

/-- A failure is never reported by a status that reports success or another address. -/
theorem Failure.status_ne_of_lt (failure : Failure) {status : Nat} (low : status < 400) :
    failure.toResponse.status ≠ status := by
  apply Nat.ne_of_gt
  apply Nat.lt_of_lt_of_le low
  cases failure with
  | api error => cases error <;> exact Nat.le_of_ble_eq_true rfl
  | rejected rejection => cases rejection <;> decide

namespace Gateway

def held (gateway : Gateway) (request : Request) : ClientSession :=
  (gateway.session? request).getD .empty

def Names (request : Request) (code state : String) : Prop :=
  ∃ fields, request.queryFields ["code", "state"] = .ok fields ∧
    fields.lookup "code" = some code ∧ fields.lookup "state" = some state ∧ code ≠ ""

/-- The request ends a login that the browser began. -/
structure Returns (gateway : Gateway) (request : Request) (code : String)
    (attempt : LoginAttempt) : Prop where
  callback : request.Reaches .finishLogin
  names : Names request code attempt.state
  began : (gateway.held request).attempt = some attempt

def loggedIn (now : Instant) (grant : TokenGrant) (user : User) : ClientSession :=
  ⟨some (Login.identityOf now grant), some user, none⟩

/-- How a request is served: the response, and what the identity provider was asked. -/
inductive Conduct (gateway : Gateway) (request : Request) (world : World) :
    Response → List ProviderCall → Prop where
  | aside {response : Response} (noStart : ¬request.Reaches .startLogin)
      (noCallback : ¬request.Reaches .finishLogin) (bare : response.cookies = []) :
      Conduct gateway request world response []
  | unstarted {response : Response} (start : request.Reaches .startLogin)
      (failed : response.status ≠ 303) (bare : response.cookies = []) :
      Conduct gateway request world response []
  | started {response : Response} {address : String} {attempt : LoginAttempt}
      (start : request.Reaches .startLogin)
      (sent : response.status = 303 ∧ response.location = some address)
      (announces : Login.Announces address attempt.state attempt.verifier.expose)
      (cookies : response.cookies =
        [gateway.cookie.save { gateway.held request with attempt := some attempt }]) :
      Conduct gateway request world response []
  | refused {response : Response} (callback : request.Reaches .finishLogin)
      (stranger : ∀ code attempt, ¬gateway.Returns request code attempt)
      (status : response.status = 400) (bare : response.cookies = []) :
      Conduct gateway request world response []
  | unexchanged {response : Response} {code : String} {attempt : LoginAttempt}
      {error : LoginError} (returns : gateway.Returns request code attempt)
      (denied : world.provider.exchangeCode code attempt.verifier.expose = .error error)
      (failed : response.status ≠ 200) (bare : response.cookies = []) :
      Conduct gateway request world response [.exchangeCode code attempt.verifier.expose]
  | unfetched {response : Response} {code : String} {attempt : LoginAttempt} {grant : TokenGrant}
      {error : LoginError} (returns : gateway.Returns request code attempt)
      (exchanged : world.provider.exchangeCode code attempt.verifier.expose = .ok grant)
      (denied : world.provider.fetchUser grant.accessToken = .error error)
      (failed : response.status ≠ 200) (bare : response.cookies = []) :
      Conduct gateway request world response
        [.exchangeCode code attempt.verifier.expose, .fetchUser grant.accessToken]
  | finished {response : Response} {code : String} {attempt : LoginAttempt} {grant : TokenGrant}
      {user : User} (returns : gateway.Returns request code attempt)
      (exchanged : world.provider.exchangeCode code attempt.verifier.expose = .ok grant)
      (fetched : world.provider.fetchUser grant.accessToken = .ok user)
      (status : response.status = 200)
      (cookies : response.cookies = [gateway.cookie.save (loggedIn world.clock grant user)]) :
      Conduct gateway request world response
        [.exchangeCode code attempt.verifier.expose, .fetchUser grant.accessToken]
  | unrevoked {response : Response} {identity : IdentitySession}
      (logout : request.Reaches .logout)
      (known : (gateway.held request).identity = some identity) (bare : response.cookies = []) :
      Conduct gateway request world response [.revoke identity.accessToken.expose]
  | revoked {response : Response} {identity : IdentitySession} (logout : request.Reaches .logout)
      (known : (gateway.held request).identity = some identity)
      (cookies : response.cookies = gateway.cookie.revoke request world.clock) :
      Conduct gateway request world response [.revoke identity.accessToken.expose]

section Handlers

variable {gateway : Gateway} {request : Request} {world : World}

/-- How the work of a handler ends: the conduct, and the calls that it left behind. -/
def Ends (gateway : Gateway) (request : Request) (world : World)
    (ended : Except Failure Response × World) : Prop :=
  ∃ calls, Conduct gateway request world (concluded ended.1) calls ∧
    ended.2.calls = world.calls ++ calls

theorem ends_of_aside {handler : Handler} (aside : handler.Aside Handler.Bare)
    (noStart : ¬request.Reaches .startLogin) (noCallback : ¬request.Reaches .finishLogin) :
    Ends gateway request world (exec handler world) := by
  obtain ⟨sameCalls, bare⟩ := aside world
  refine ⟨[], .aside noStart noCallback ?_, by rw [sameCalls, List.append_nil]⟩
  rcases ended : (exec handler world).1 with failure | response
  · cases failure <;> rfl
  · exact bare response ended

theorem reaches_unique {first second : Endpoint} (reachesFirst : request.Reaches first)
    (reachesSecond : request.Reaches second) : first = second := by
  obtain ⟨_, there⟩ := reachesFirst
  obtain ⟨_, here⟩ := reachesSecond
  rw [there] at here
  exact congrArg Prod.fst (Option.some.inj here)

theorem aside_takeLogin {Value : Type} {promise : Value → Prop} (step : LoginStep)
    {outcome : Except LoginError Value} (kept : ∀ value, outcome = .ok value → promise value) :
    (Handler.takeLogin step outcome).Aside promise := by
  cases outcome with
  | ok value => exact .pure (kept value rfl)
  | error error => exact .bind (.observe _) fun _ _ => .throw _

theorem aside_startLogin (gateway : Gateway) (request : Request) :
    (Handler.startLogin gateway request).Aside fun response => ∃ address attempt,
      (response.status = 303 ∧ response.location = some address) ∧
      Login.Announces address attempt.state attempt.verifier.expose ∧
      response.cookies =
        [gateway.cookie.save { gateway.held request with attempt := some attempt }] := by
  refine .bind (.attempt (Login.aside_start gateway.login)) fun begun announces => ?_
  refine .bind (aside_takeLogin .start announces) fun outcome announces => ?_
  refine .bind (.observe _) fun _ _ => .pure ?_
  exact ⟨outcome.1, outcome.2, ⟨rfl, rfl⟩, announces, rfl⟩

theorem ends_startLogin (start : request.Reaches .startLogin) :
    Ends gateway request world (exec (Handler.startLogin gateway request) world) := by
  obtain ⟨sameCalls, begun⟩ := aside_startLogin gateway request world
  refine ⟨[], ?_, by rw [sameCalls, List.append_nil]⟩
  cases ended : (exec (Handler.startLogin gateway request) world).1 with
  | error failure =>
      refine .unstarted start (failure.status_ne_of_lt (by decide)) ?_
      cases failure <;> rfl
  | ok response =>
      obtain ⟨address, attempt, sent, announces, cookies⟩ := begun response ended
      exact .started start sent announces cookies

section Finish

variable {fields : List (String × String)} {code : String}

theorem exec_finishLogin_of_no_code
    (noCode : ∀ fields, request.queryFields ["code", "state"] = .ok fields →
      (fields.lookup "code").filter (· ≠ "") = none) :
    ∃ failure after, exec (Handler.finishLogin gateway request) world = (.error failure, after) ∧
      failure.toResponse.status = 400 ∧ after.calls = world.calls := by
  unfold Handler.finishLogin
  rw [Handler.exec_expect_bind]
  cases read : request.queryFields ["code", "state"] with
  | error failure =>
      refine ⟨failure, world, rfl, ?_, rfl⟩
      unfold Request.queryFields at read
      dsimp only at read
      split at read
      · exact nomatch read
      · cases read
        rfl
  | ok fields =>
      dsimp only
      rw [noCode fields read]
      exact ⟨_, _, rfl, rfl, rfl⟩

theorem exec_finishLogin_of_code (read : request.queryFields ["code", "state"] = .ok fields)
    (named : (fields.lookup "code").filter (· ≠ "") = some code) {outcome : Except LoginError _}
    {after : World}
    (ended : exec (Login.finish (gateway.held request).attempt code (fields.lookup "state")
      world.clock) world = (outcome, after)) :
    ∃ later, exec (Handler.finishLogin gateway request) world =
      (match outcome with
        | .error error => .error (Failure.ofLogin error)
        | .ok outcome => .ok {
            Response.json 200 outcome.user.view with
            cookies := [gateway.cookie.save ⟨some outcome.session, some outcome.user, none⟩] },
        later) ∧ later.calls = after.calls := by
  unfold Handler.finishLogin
  rw [Handler.exec_expect_bind, read]
  dsimp only
  rw [named]
  dsimp only
  rw [exec_get_bind]
  have attempted := @exec_attempt_of_ended _ Failure _ _ _ _ _ ended
  cases outcome with
  | error error => exact ⟨_, exec_bind_of_ok attempted, rfl⟩
  | ok outcome => exact ⟨_, exec_bind_of_ok attempted, rfl⟩

end Finish

theorem refused_of_ended (callback : request.Reaches .finishLogin)
    (stranger : ∀ code attempt, ¬gateway.Returns request code attempt) {failure : Failure}
    {after : World}
    (ended : exec (Handler.finishLogin gateway request) world = (.error failure, after))
    (status : failure.toResponse.status = 400) (sameCalls : after.calls = world.calls) :
    Ends gateway request world (exec (Handler.finishLogin gateway request) world) := by
  rw [ended]
  refine ⟨[], .refused callback stranger status ?_, by rw [sameCalls, List.append_nil]⟩
  cases failure <;> rfl

theorem ends_finishLogin_of_code (callback : request.Reaches .finishLogin)
    {fields : List (String × String)} {code : String}
    (read : request.queryFields ["code", "state"] = .ok fields)
    (named : (fields.lookup "code").filter (· ≠ "") = some code) :
    Ends gateway request world (exec (Handler.finishLogin gateway request) world) := by
  cases began : (gateway.held request).attempt with
  | none =>
      have finish := @Login.exec_finish_of_no_attempt code (fields.lookup "state") world.clock world
      rw [← began] at finish
      obtain ⟨after, ended, sameCalls⟩ := exec_finishLogin_of_code read named finish
      have stranger : ∀ code attempt, ¬gateway.Returns request code attempt :=
        fun _ _ returns => nomatch began.symm.trans returns.began
      exact refused_of_ended callback stranger ended rfl sameCalls
  | some attempt =>
  by_cases same : fields.lookup "state" = some attempt.state
  · have finish := @Login.exec_finish_of_same_state attempt code world.clock world
    rw [← began, ← same] at finish
    obtain ⟨present, notEmpty⟩ := Option.filter_eq_some_iff.mp named
    have returns : gateway.Returns request code attempt :=
      ⟨callback, ⟨fields, read, present, same, by simpa using notEmpty⟩, began⟩
    cases exchanged : world.provider.exchangeCode code attempt.verifier.expose with
    | error error =>
        rw [exchanged] at finish
        obtain ⟨after, ended, calls⟩ := exec_finishLogin_of_code read named finish
        rw [ended]
        have failed := (Failure.ofLogin error).status_ne_of_lt (show 200 < 400 by decide)
        exact ⟨_, .unexchanged returns exchanged failed rfl, calls⟩
    | ok grant =>
        cases fetched : world.provider.fetchUser grant.accessToken with
        | error error =>
            simp only [exchanged, fetched] at finish
            obtain ⟨after, ended, calls⟩ := exec_finishLogin_of_code read named finish
            rw [ended]
            have failed := (Failure.ofLogin error).status_ne_of_lt (show 200 < 400 by decide)
            exact ⟨_, .unfetched returns exchanged fetched failed rfl, calls⟩
        | ok user =>
            simp only [exchanged, fetched] at finish
            obtain ⟨after, ended, calls⟩ := exec_finishLogin_of_code read named finish
            rw [ended]
            exact ⟨_, .finished returns exchanged fetched rfl rfl, calls⟩
  · have finish := @Login.exec_finish_of_other_state attempt code _ world.clock world same
    rw [← began] at finish
    obtain ⟨after, ended, sameCalls⟩ := exec_finishLogin_of_code read named finish
    have stranger : ∀ code attempt, ¬gateway.Returns request code attempt := by
      intro code other returns
      obtain ⟨again, readAgain, -, named, -⟩ := returns.names
      cases began.symm.trans returns.began
      cases read.symm.trans readAgain
      exact same named
    exact refused_of_ended callback stranger ended rfl sameCalls

theorem ends_finishLogin (callback : request.Reaches .finishLogin) :
    Ends gateway request world (exec (Handler.finishLogin gateway request) world) := by
  by_cases named : ∃ fields code, request.queryFields ["code", "state"] = .ok fields ∧
      (fields.lookup "code").filter (· ≠ "") = some code
  · obtain ⟨fields, code, read, named⟩ := named
    exact ends_finishLogin_of_code callback read named
  · have noCode : ∀ fields, request.queryFields ["code", "state"] = .ok fields →
        (fields.lookup "code").filter (· ≠ "") = none := by
      intro fields read
      by_contra some_
      obtain ⟨code, found⟩ := Option.ne_none_iff_exists'.mp some_
      exact named ⟨fields, code, read, found⟩
    obtain ⟨failure, after, ended, status, sameCalls⟩ := exec_finishLogin_of_no_code noCode
    have stranger : ∀ code attempt, ¬gateway.Returns request code attempt := by
      intro code attempt returns
      obtain ⟨fields, read, present, -, notEmpty⟩ := returns.names
      exact named ⟨fields, code, read, by simp [present, notEmpty]⟩
    exact refused_of_ended callback stranger ended status sameCalls

theorem ends_logout (logout : request.Reaches .logout) :
    Ends gateway request world (exec (Handler.logout gateway request) world) := by
  have noStart : ¬request.Reaches .startLogin := fun start =>
    nomatch reaches_unique logout start
  have noCallback : ¬request.Reaches .finishLogin := fun callback =>
    nomatch reaches_unique logout callback
  have same : (gateway.session? request).bind (·.identity) = (gateway.held request).identity := by
    unfold held
    cases gateway.session? request <;> rfl
  unfold Handler.logout
  dsimp only
  rw [same]
  cases known : (gateway.held request).identity with
  | none => exact ⟨[], .aside noStart noCallback rfl, (List.append_nil _).symm⟩
  | some identity =>
      rw [exec_bind_of_ok (exec_attempt_of_ended (Login.exec_logout identity world))]
      cases answered : world.provider.revoke identity.accessToken.expose with
      | error error => exact ⟨_, .unrevoked logout known rfl, rfl⟩
      | ok nothing => exact ⟨_, .revoked logout known rfl, rfl⟩

end Handlers

section Respond

variable (gateway : Gateway) (request : Request) (world : World)

theorem ends_serve {endpoint : Endpoint} {encoded : List (String × List Char)}
    (reached : Route.reached? request.path request.method = some (endpoint, encoded)) :
    Ends gateway request world (exec (gateway.serve (visitOf request encoded) endpoint) world) := by
  have reaches : request.Reaches endpoint := ⟨encoded, reached⟩
  by_cases start : endpoint = .startLogin
  · subst start
    rw [exec_serve_of_open _ _ _ rfl]
    exact ends_startLogin reaches
  by_cases callback : endpoint = .finishLogin
  · subst callback
    rw [exec_serve_of_open _ _ _ rfl]
    exact ends_finishLogin reaches
  by_cases logout : endpoint = .logout
  · subst logout
    rw [exec_serve_of_open _ _ _ rfl]
    exact ends_logout reaches
  · exact ends_of_aside (gateway.aside_serve _ start callback logout)
      (fun other => start (reaches_unique reaches other))
      (fun other => callback (reaches_unique reaches other))

@[simp]
theorem finalize_cookies (response : Response) :
    (finalize request response).cookies = response.cookies := by
  unfold finalize
  split <;> rfl

@[simp]
theorem finalize_location (response : Response) :
    (finalize request response).location = response.location := by
  unfold finalize
  split <;> rfl

variable {gateway request world} in
/-- The body of a response plays no part in the conduct. -/
theorem conduct_finalize {response : Response} {calls : List ProviderCall}
    (conduct : Conduct gateway request world response calls) :
    Conduct gateway request world (finalize request response) calls := by
  cases conduct with
  | aside noStart noCallback bare => exact .aside noStart noCallback (by simpa using bare)
  | unstarted start failed bare =>
      exact .unstarted start (by simpa using failed) (by simpa using bare)
  | started start sent announces cookies =>
      exact .started start (by simpa using sent) announces (by simpa using cookies)
  | refused callback stranger status bare =>
      exact .refused callback stranger (by simpa using status) (by simpa using bare)
  | unexchanged returns denied failed bare =>
      exact .unexchanged returns denied (by simpa using failed) (by simpa using bare)
  | unfetched returns exchanged denied failed bare =>
      exact .unfetched returns exchanged denied (by simpa using failed) (by simpa using bare)
  | finished returns exchanged fetched status cookies =>
      exact .finished returns exchanged fetched (by simpa using status) (by simpa using cookies)
  | unrevoked logout known bare => exact .unrevoked logout known (by simpa using bare)
  | revoked logout known cookies => exact .revoked logout known (by simpa using cookies)

/-- Every request is served in one of the ways, and the calls are left behind. -/
theorem conduct_respond :
    ∃ calls, Conduct gateway request world (gateway.respond request world).1 calls ∧
      (gateway.respond request world).2.calls = world.calls ++ calls := by
  cases reached : Route.reached? request.path request.method with
  | none =>
      rw [respond_of_answer gateway request world
        (run_answer_of_unreached gateway request world reached)]
      have nowhere : ∀ endpoint, ¬request.Reaches endpoint := by
        rintro endpoint ⟨encoded, there⟩
        exact nomatch reached.symm.trans there
      refine ⟨[], conduct_finalize (.aside (nowhere _) (nowhere _) ?_), (List.append_nil _).symm⟩
      unfold turnedAway
      split <;> rfl
  | some fit =>
      obtain ⟨endpoint, encoded⟩ := fit
      have answered := run_answer_of_reached gateway request world reached
      rw [run_conclude] at answered
      rw [respond_of_answer gateway request world answered]
      obtain ⟨calls, conduct, left⟩ := ends_serve gateway request world reached
      exact ⟨calls, conduct_finalize conduct, left⟩

end Respond

end Gateway

end GameCatalog
