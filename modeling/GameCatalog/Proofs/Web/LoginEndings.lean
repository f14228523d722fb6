import GameCatalog.Proofs.Web.Keeps
import GameCatalog.Proofs.Web.Records
import GameCatalog.Proofs.Web.LoggedIn

/-!
How callbacks and logouts end.  The status tells apart what went well, what the browser did wrong
and what went wrong behind the gateway, by the first thing that failed.  A failure sets no cookie
and leaves nothing but records, so whoever tries again is served as if it had not happened.
-/

namespace GameCatalog

open Job

namespace Login

/-- The first thing that is wrong with the end of a login, in the order of the steps. -/
inductive Stumbles (provider : Provider) (attempt : Option LoginAttempt) (code : String)
    (state : Option String) : LoginError → Prop where
  | noAttempt (nothing : attempt = none) : Stumbles provider attempt code state .noAttempt
  | otherState {begun : LoginAttempt} (began : attempt = some begun)
      (other : state ≠ some begun.state) : Stumbles provider attempt code state .stateMismatch
  | unexchanged {begun : LoginAttempt} {error : LoginError} (began : attempt = some begun)
      (same : state = some begun.state)
      (denied : provider.exchangeCode code begun.verifier.expose = .error error) :
      Stumbles provider attempt code state error
  | unfetched {begun : LoginAttempt} {grant : TokenGrant} {error : LoginError}
      (began : attempt = some begun) (same : state = some begun.state)
      (exchanged : provider.exchangeCode code begun.verifier.expose = .ok grant)
      (denied : provider.fetchUser grant.accessToken = .error error) :
      Stumbles provider attempt code state error

section Finish

variable {provider : Provider} {attempt : Option LoginAttempt} {code : String}
  {state : Option String}

theorem stumbles_or_granted (provider : Provider) (attempt : Option LoginAttempt) (code : String)
    (state : Option String) :
    (∃ error, Stumbles provider attempt code state error) ∨
      ∃ begun grant user, attempt = some begun ∧ state = some begun.state ∧
        provider.exchangeCode code begun.verifier.expose = .ok grant ∧
        provider.fetchUser grant.accessToken = .ok user := by
  cases began : attempt with
  | none => exact .inl ⟨_, .noAttempt rfl⟩
  | some begun =>
  by_cases same : state = some begun.state
  · cases exchanged : provider.exchangeCode code begun.verifier.expose with
    | error error => exact .inl ⟨error, .unexchanged rfl same exchanged⟩
    | ok grant =>
        cases fetched : provider.fetchUser grant.accessToken with
        | error error => exact .inl ⟨error, .unfetched rfl same exchanged fetched⟩
        | ok user => exact .inr ⟨begun, grant, user, rfl, same, exchanged, fetched⟩
  · exact .inl ⟨_, .otherState rfl same⟩

theorem exec_finish_of_stumbles {world : World} {error : LoginError}
    (stumbles : Stumbles world.provider attempt code state error) (now : Instant) :
    ∃ after, exec (finish attempt code state now) world = (.error error, after) := by
  cases stumbles with
  | noAttempt nothing =>
      subst nothing
      exact ⟨world, exec_finish_of_no_attempt⟩
  | otherState began other =>
      subst began
      exact ⟨world, exec_finish_of_other_state other⟩
  | unexchanged began same denied =>
      subst began same
      rw [exec_finish_of_same_state]
      simp only [denied]
      exact ⟨_, rfl⟩
  | unfetched began same exchanged denied =>
      subst began same
      rw [exec_finish_of_same_state]
      simp only [exchanged, denied]
      exact ⟨_, rfl⟩

end Finish

end Login

/-- The browser is to blame for some errors of a login, the gateway for all others. -/
theorem Failure.status_ofLogin (error : LoginError) :
    (Failure.ofLogin error).toResponse.status = if error.isClientError then 400 else 500 := by
  unfold Failure.ofLogin ApiError.ofLogin
  split <;> rfl

namespace Gateway

variable {gateway : Gateway} {request : Request} {world : World}

/-- The response of an endpoint that no scheme protects, and what its handler does to the world. -/
theorem respond_of_open {endpoint : Endpoint} (unprotected : endpoint.scheme? = none)
    (reaches : request.Reaches endpoint) :
    ∃ visit : Visit, visit.request = request ∧
      (gateway.respond request world).1 =
        finalize request (concluded (exec (gateway.handleOpen visit endpoint) world).1) ∧
      (gateway.respond request world).2.unrecorded =
        (exec (gateway.handleOpen visit endpoint) world).2.unrecorded := by
  obtain ⟨encoded, reached⟩ := reaches
  have answered := run_answer_of_reached gateway request world reached
  rw [run_conclude, exec_serve_of_open _ _ _ unprotected] at answered
  rw [respond_of_answer gateway request world answered]
  exact ⟨visitOf request encoded, rfl, rfl, rfl⟩

theorem finalize_of_failed {ended : Except Failure Response} {failure : Failure}
    (failed : ended = .error failure) :
    (finalize request (concluded ended)).status = failure.toResponse.status ∧
      (finalize request (concluded ended)).cookies = [] := by
  rw [failed, finalize_status, finalize_cookies]
  refine ⟨rfl, ?_⟩
  cases failure <;> rfl

section Callback

variable {fields : List (String × String)} {code : String}

theorem unrecorded_respond_of_callback (callback : request.Reaches .finishLogin) :
    (gateway.respond request world).2.unrecorded = world.unrecorded := by
  obtain ⟨visit, rfl, -, after⟩ := @respond_of_open gateway request world _ rfl callback
  rw [after]
  exact Handler.keeps_finishLogin (fun _ _ => rfl) (fun _ _ => rfl) gateway visit.request world

theorem code_of_lookup (present : fields.lookup "code" = some code) (notEmpty : code ≠ "") :
    (fields.lookup "code").filter (· ≠ "") = some code := by
  rw [present, Option.filter_some_pos (by simpa using notEmpty)]

theorem status_of_no_code (callback : request.Reaches .finishLogin)
    (noCode : ∀ code, ¬Carries request code) :
    (gateway.respond request world).1.status = 400 := by
  have filtered : ∀ fields, request.queryFields ["code", "state"] = .ok fields →
      (fields.lookup "code").filter (· ≠ "") = none := by
    intro fields read
    by_contra some_
    obtain ⟨code, found⟩ := Option.ne_none_iff_exists'.mp some_
    obtain ⟨present, notEmpty⟩ := Option.filter_eq_some_iff.mp found
    exact noCode code ⟨fields, read, present, by simpa using notEmpty⟩
  obtain ⟨failure, after, ended, status, -⟩ :=
    @exec_finishLogin_of_no_code gateway request world filtered
  rw [respond_finishLogin callback, ended, finalize_status]
  exact status

theorem status_of_stumbles (callback : request.Reaches .finishLogin)
    (read : request.queryFields ["code", "state"] = .ok fields)
    (present : fields.lookup "code" = some code) (notEmpty : code ≠ "") {error : LoginError}
    (stumbles : Login.Stumbles world.provider (gateway.held request).attempt code
      (fields.lookup "state") error) :
    (gateway.respond request world).1.status = if error.isClientError then 400 else 500 := by
  obtain ⟨after, finished⟩ := Login.exec_finish_of_stumbles stumbles world.clock
  obtain ⟨later, ended, -⟩ :=
    exec_finishLogin_of_code read (code_of_lookup present notEmpty) finished
  rw [respond_finishLogin callback, ended, finalize_status]
  exact Failure.status_ofLogin error

/-- The callback carries all that it takes, and the identity provider grants it. -/
structure Granted (gateway : Gateway) (request : Request) (world : World) (grant : TokenGrant)
    (user : User) : Prop where
  exchanged : ∃ code attempt, gateway.Returns request code attempt ∧
    world.provider.exchangeCode code attempt.verifier.expose = .ok grant
  fetched : world.provider.fetchUser grant.accessToken = .ok user

theorem saves_of_grant {grant : TokenGrant} {user : User}
    (granted : gateway.Granted request world grant user) :
    (gateway.respond request world).1.status = 200 ∧
      (gateway.respond request world).1.cookies =
        [gateway.cookie.save (loggedIn world.clock grant user)] := by
  obtain ⟨⟨code, attempt, returns, exchanged⟩, fetched⟩ := granted
  obtain ⟨calls, conduct, -⟩ := gateway.conduct_respond request world
  exact saves_of_granted conduct returns exchanged fetched

theorem stumbles_or_grant (gateway : Gateway) (world : World)
    (callback : request.Reaches .finishLogin)
    (read : request.queryFields ["code", "state"] = .ok fields)
    (present : fields.lookup "code" = some code) (notEmpty : code ≠ "") :
    (∃ error, Login.Stumbles world.provider (gateway.held request).attempt code
      (fields.lookup "state") error) ∨ ∃ grant user, gateway.Granted request world grant user := by
  rcases Login.stumbles_or_granted world.provider (gateway.held request).attempt code
    (fields.lookup "state") with stumbles | ⟨begun, grant, user, began, same, exchanged, fetched⟩
  · exact .inl stumbles
  · have returns : gateway.Returns request code begun :=
      ⟨callback, ⟨fields, read, present, same, notEmpty⟩, began⟩
    exact .inr ⟨grant, user, ⟨code, begun, returns, exchanged⟩, fetched⟩

theorem status_eq_ok_iff_of_callback (callback : request.Reaches .finishLogin) :
    (gateway.respond request world).1.status = 200 ↔
      ∃ grant user, gateway.Granted request world grant user := by
  constructor
  · intro status
    by_cases carries : ∃ code, Carries request code
    · obtain ⟨code, fields, read, present, notEmpty⟩ := carries
      rcases stumbles_or_grant gateway world callback read present notEmpty with
        ⟨error, stumbles⟩ | granted
      · rw [status_of_stumbles callback read present notEmpty stumbles] at status
        split at status <;> contradiction
      · exact granted
    · rw [status_of_no_code callback (not_exists.mp carries)] at status
      contradiction
  · rintro ⟨grant, user, granted⟩
    exact (saves_of_grant granted).1

theorem no_code_of_read (read : request.queryFields ["code", "state"] = .ok fields)
    (empty : ∀ code, fields.lookup "code" = some code → code = "") (code : String) :
    ¬Carries request code := by
  rintro ⟨others, readToo, present, notEmpty⟩
  cases read.symm.trans readToo
  exact notEmpty (empty code present)

theorem status_eq_badRequest_iff_of_callback (callback : request.Reaches .finishLogin)
    (read : request.queryFields ["code", "state"] = .ok fields) :
    (gateway.respond request world).1.status = 400 ↔
      (∀ code, fields.lookup "code" = some code → code = "") ∨
      ∃ code error, fields.lookup "code" = some code ∧ code ≠ "" ∧
        Login.Stumbles world.provider (gateway.held request).attempt code
          (fields.lookup "state") error ∧ error.isClientError = true := by
  constructor
  · intro status
    by_contra neither
    obtain ⟨carries, noStumble⟩ := not_or.mp neither
    push Not at carries
    obtain ⟨code, present, notEmpty⟩ := carries
    rcases stumbles_or_grant gateway world callback read present notEmpty with
      ⟨error, stumbles⟩ | ⟨grant, user, granted⟩
    · rw [status_of_stumbles callback read present notEmpty stumbles] at status
      split at status
      · rename_i blamed
        exact noStumble ⟨code, error, present, notEmpty, stumbles, blamed⟩
      · contradiction
    · rw [(saves_of_grant granted).1] at status
      contradiction
  · rintro (empty | ⟨code, error, present, notEmpty, stumbles, blamed⟩)
    · exact status_of_no_code callback (no_code_of_read read empty)
    · rw [status_of_stumbles callback read present notEmpty stumbles, if_pos blamed]

theorem status_of_callback (callback : request.Reaches .finishLogin)
    (read : request.queryFields ["code", "state"] = .ok fields)
    (failed : (gateway.respond request world).1.status ≠ 200)
    (notBlamed : (gateway.respond request world).1.status ≠ 400) :
    (gateway.respond request world).1.status = 500 := by
  by_cases carries : ∃ code, fields.lookup "code" = some code ∧ code ≠ ""
  · obtain ⟨code, present, notEmpty⟩ := carries
    rcases stumbles_or_grant gateway world callback read present notEmpty with
      ⟨error, stumbles⟩ | ⟨grant, user, granted⟩
    · rw [status_of_stumbles callback read present notEmpty stumbles] at notBlamed ⊢
      split
      · simp_all
      · rfl
    · exact absurd (saves_of_grant granted).1 failed
  · push Not at carries
    exact absurd (status_of_no_code callback (no_code_of_read read carries)) notBlamed

theorem bare_of_callback (callback : request.Reaches .finishLogin)
    (failed : (gateway.respond request world).1.status ≠ 200) :
    (gateway.respond request world).1.cookies = [] := by
  obtain ⟨calls, conduct, -⟩ := gateway.conduct_respond request world
  cases conduct with
  | finished _ _ _ status _ => exact absurd status failed
  | refused _ _ _ bare | unexchanged _ _ _ bare | unfetched _ _ _ _ bare => exact bare
  | aside _ noCallback _ => exact absurd callback noCallback
  | unstarted start _ _ | started start _ _ _ => exact nomatch reaches_unique start callback
  | unrevoked logout _ _ | revoked logout _ _ => exact nomatch reaches_unique logout callback

end Callback

section Logout

variable {identity : IdentitySession}

theorem unrecorded_respond_of_logout (logout : request.Reaches .logout) :
    (gateway.respond request world).2.unrecorded = world.unrecorded := by
  obtain ⟨visit, rfl, -, after⟩ := @respond_of_open gateway request world _ rfl logout
  rw [after]
  exact Handler.keeps_logout (fun _ _ => rfl) (fun _ _ => rfl) gateway visit.request world

theorem respond_logout (logout : request.Reaches .logout) :
    (gateway.respond request world).1 =
      finalize request (concluded (exec (Handler.logout gateway request) world).1) := by
  obtain ⟨visit, rfl, responds, -⟩ := @respond_of_open gateway request world _ rfl logout
  exact responds

theorem identity_held :
    (gateway.session? request).bind (·.identity) = (gateway.held request).identity := by
  unfold held
  cases gateway.session? request <;> rfl

theorem exec_logout_of_no_identity (world : World)
    (stranger : (gateway.held request).identity = none) :
    (exec (Handler.logout gateway request) world).1 = .error (.ofLogin .noSession) := by
  unfold Handler.logout
  dsimp only
  rw [identity_held, stranger]
  rfl

theorem exec_logout_of_denied (known : (gateway.held request).identity = some identity)
    {error : LoginError}
    (denied : world.provider.revoke identity.accessToken.expose = .error error) :
    (exec (Handler.logout gateway request) world).1 = .error (.ofLogin error) := by
  unfold Handler.logout
  dsimp only
  rw [identity_held, known,
    exec_bind_of_ok (exec_attempt_of_ended (Login.exec_logout identity world)), denied]
  rfl

theorem exec_logout_of_revoked (known : (gateway.held request).identity = some identity)
    (revoked : world.provider.revoke identity.accessToken.expose = .ok ()) :
    (exec (Handler.logout gateway request) world).1 =
      .ok { status := 200, cookies := gateway.cookie.revoke request world.clock } := by
  unfold Handler.logout
  dsimp only
  rw [identity_held, known,
    exec_bind_of_ok (exec_attempt_of_ended (Login.exec_logout identity world)), revoked]
  rfl

theorem revoke_of_held (known : (gateway.held request).identity = some identity) (now : Instant) :
    gateway.cookie.revoke request now =
      [Cookie.encodePair gateway.cookie.name "" ++ Cookie.removedAttributes now] := by
  rw [← identity_held] at known
  obtain ⟨session, holds, -⟩ := Option.bind_eq_some_iff.mp known
  obtain ⟨value, verified, -⟩ := Option.bind_eq_some_iff.mp holds
  unfold SessionCookie.revoke
  rw [verified]

theorem removes_of_revoked (logout : request.Reaches .logout)
    (known : (gateway.held request).identity = some identity)
    (revoked : world.provider.revoke identity.accessToken.expose = .ok ()) :
    (gateway.respond request world).1.status = 200 ∧
      (gateway.respond request world).1.cookies =
        [Cookie.encodePair gateway.cookie.name "" ++ Cookie.removedAttributes world.clock] := by
  rw [respond_logout logout, exec_logout_of_revoked known revoked, finalize_status,
    finalize_cookies]
  exact ⟨rfl, revoke_of_held known world.clock⟩

theorem respond_of_failed_logout (logout : request.Reaches .logout) {failure : Failure}
    (failed : (exec (Handler.logout gateway request) world).1 = .error failure) :
    (gateway.respond request world).1.status = failure.toResponse.status ∧
      (gateway.respond request world).1.cookies = [] := by
  rw [respond_logout logout]
  exact finalize_of_failed failed

theorem status_eq_ok_iff_of_logout (logout : request.Reaches .logout) :
    (gateway.respond request world).1.status = 200 ↔
      ∃ identity, (gateway.held request).identity = some identity ∧
        world.provider.revoke identity.accessToken.expose = .ok () := by
  constructor
  · intro status
    cases known : (gateway.held request).identity with
    | none =>
        have failed :=
          respond_of_failed_logout logout (exec_logout_of_no_identity world known)
        exact absurd (failed.1.symm.trans status) (Failure.status_ne_of_lt _ (by decide))
    | some identity =>
        refine ⟨identity, rfl, ?_⟩
        cases answered : world.provider.revoke identity.accessToken.expose with
        | error error =>
            have failed := respond_of_failed_logout logout (exec_logout_of_denied known answered)
            exact absurd (failed.1.symm.trans status) (Failure.status_ne_of_lt _ (by decide))
        | ok nothing => rfl
  · rintro ⟨identity, known, revoked⟩
    exact (removes_of_revoked logout known revoked).1

theorem status_of_no_identity (logout : request.Reaches .logout)
    (stranger : (gateway.held request).identity = none) :
    (gateway.respond request world).1.status = 400 :=
  (respond_of_failed_logout logout (exec_logout_of_no_identity _ stranger)).1

/-- Who holds no identity is turned away before the identity provider is asked. -/
theorem calls_of_no_identity (logout : request.Reaches .logout)
    (stranger : (gateway.held request).identity = none) :
    (gateway.respond request world).2.calls = world.calls := by
  obtain ⟨calls, conduct, left⟩ := gateway.conduct_respond request world
  rw [left]
  cases conduct with
  | unrevoked _ known _ | revoked _ known _ => exact nomatch stranger.symm.trans known
  | aside _ _ _ | unstarted _ _ _ | started _ _ _ _ | refused _ _ _ _ => exact List.append_nil _
  | unexchanged returns _ _ _ | unfetched returns _ _ _ _ | finished returns _ _ _ _ =>
      exact nomatch reaches_unique logout returns.callback

theorem status_of_denied (logout : request.Reaches .logout)
    (known : (gateway.held request).identity = some identity) {error : LoginError}
    (denied : world.provider.revoke identity.accessToken.expose = .error error) :
    (gateway.respond request world).1.status = if error.isClientError then 400 else 500 :=
  (respond_of_failed_logout logout (exec_logout_of_denied known denied)).1.trans
    (Failure.status_ofLogin error)

theorem bare_of_logout (logout : request.Reaches .logout)
    (failed : (gateway.respond request world).1.status ≠ 200) :
    (gateway.respond request world).1.cookies = [] := by
  cases known : (gateway.held request).identity with
  | none => exact (respond_of_failed_logout logout (exec_logout_of_no_identity _ known)).2
  | some identity =>
      cases answered : world.provider.revoke identity.accessToken.expose with
      | error error =>
          exact (respond_of_failed_logout logout (exec_logout_of_denied known answered)).2
      | ok nothing => exact absurd (removes_of_revoked logout known answered).1 failed

end Logout

/--
How callbacks and logouts end.  A callback ends well exactly if it carries a code, the state is
the one of the login that the browser began, and the identity provider grants both a token and
the user behind it; then the new session is saved.  Otherwise the first thing that is wrong
decides whether the browser is to blame.  A logout ends well exactly if the browser holds an
identity, whose token is revoked; then the cookie is removed, by one without a value that is over
at once.  Whatever fails sets no cookie, and all requests that follow, under whatever
circumstances, are answered as if it had not been made.
-/
theorem respond_login_ends (gateway : Gateway) (request : Request) (world : World) :
    let response := (gateway.respond request world).1
    let after := (gateway.respond request world).2
    (request.Reaches .finishLogin →
      (response.status = 200 ↔ ∃ grant user, gateway.Granted request world grant user) ∧
      (∀ grant user, gateway.Granted request world grant user →
        response.cookies = [gateway.cookie.save (loggedIn world.clock grant user)]) ∧
      ∀ fields, request.queryFields ["code", "state"] = .ok fields →
        (response.status = 400 ↔
          (∀ code, fields.lookup "code" = some code → code = "") ∨
          ∃ code error, fields.lookup "code" = some code ∧ code ≠ "" ∧
            Login.Stumbles world.provider (gateway.held request).attempt code
              (fields.lookup "state") error ∧ error.isClientError = true) ∧
        (response.status ≠ 200 → response.status ≠ 400 → response.status = 500)) ∧
    (request.Reaches .logout →
      (response.status = 200 ↔ ∃ identity, (gateway.held request).identity = some identity ∧
        world.provider.revoke identity.accessToken.expose = .ok ()) ∧
      (response.status = 200 → response.cookies =
        [Cookie.encodePair gateway.cookie.name "" ++ ("; Path=/; Max-Age=0; Expires=" ++
          Date.text ((world.clock.toNat / 1000 : Nat) - 365 * 86400))]) ∧
      ((gateway.held request).identity = none →
        response.status = 400 ∧ after.calls = world.calls) ∧
      ∀ identity error, (gateway.held request).identity = some identity →
        world.provider.revoke identity.accessToken.expose = .error error →
        response.status = if error.isClientError then 400 else 500) ∧
    (request.Reaches .finishLogin ∨ request.Reaches .logout → response.status ≠ 200 →
      response.cookies = [] ∧ ∀ requests : List (Circumstances × Request),
        (∀ visited ∈ requests, ¬visited.2.Reaches .metrics) →
        gateway.respondAll after requests = gateway.respondAll world requests) := by
  intro response after
  refine ⟨fun callback => ⟨?_, ?_, ?_⟩, fun logout => ⟨?_, ?_, ?_, ?_⟩, fun ends failed => ⟨?_, ?_⟩⟩
  · exact status_eq_ok_iff_of_callback callback
  · intro grant user granted
    exact (saves_of_grant granted).2
  · intro fields read
    exact ⟨status_eq_badRequest_iff_of_callback callback read, status_of_callback callback read⟩
  · exact status_eq_ok_iff_of_logout logout
  · intro status
    obtain ⟨identity, known, revoked⟩ := (status_eq_ok_iff_of_logout logout).mp status
    exact (removes_of_revoked logout known revoked).2
  · intro stranger
    exact ⟨status_of_no_identity logout stranger, calls_of_no_identity logout stranger⟩
  · intro identity error known denied
    exact status_of_denied logout known denied
  · rcases ends with callback | logout
    · exact bare_of_callback callback failed
    · exact bare_of_logout logout failed
  · intro requests noMetrics
    have same : after.unrecorded = world.unrecorded := by
      rcases ends with callback | logout
      · exact unrecorded_respond_of_callback callback
      · exact unrecorded_respond_of_logout logout
    exact gateway.respondAll_of_sameRest same requests noMetrics

section Returning

def doubting : World := {
  granting with
  provider := { granting.provider with exchangeCode := fun _ _ => .error .invalidStateOrCode } }

def begunLogin : LoginAttempt := ⟨.s256, ⟨"verifier"⟩, "state"⟩

def returning : Request := comeBack { attempt := some begunLogin } begunLogin.state

theorem began_returning : (secured.held returning).attempt = some begunLogin := by
  unfold returning
  rw [held_comeBack]

/-- A browser comes back with a code that is not known yet, and tries again. -/
theorem respond_login_ends_returning :
    (secured.respond returning doubting).1.status = 400 ∧
      (secured.respond returning doubting).1.cookies = [] ∧
      ∃ response, secured.respondAll (secured.respond returning doubting).2
          [(grantingCircumstances, returning)] = [response] ∧
        response.status = 200 ∧
        response.cookies = [secured.cookie.save (loggedIn 0 bearer ada)] := by
  have callback : returning.Reaches .finishLogin := callback_comeBack _ _
  have noMetrics : ¬returning.Reaches .metrics := fun metrics =>
    nomatch reaches_unique callback metrics
  have stumbles : Login.Stumbles doubting.provider (secured.held returning).attempt "c"
      (some "state") .invalidStateOrCode := .unexchanged began_returning rfl rfl
  have denied := respond_login_ends secured returning doubting
  have status : (secured.respond returning doubting).1.status = 400 :=
    ((denied.1 callback).2.2 _ (queryFields_comeBack _ _)).1.mpr
      (.inr ⟨"c", .invalidStateOrCode, rfl, by decide, stumbles, rfl⟩)
  have failed : (secured.respond returning doubting).1.status ≠ 200 := by
    rw [status]
    decide
  have again := (denied.2.2 (.inl callback) failed).2 [(grantingCircumstances, returning)]
    (by simpa using noMetrics)
  have granted : secured.Granted returning (doubting.under grantingCircumstances) bearer ada :=
    ⟨⟨"c", begunLogin, returns_comeBack begunLogin, rfl⟩, rfl⟩
  have retried := (respond_login_ends secured returning
    (doubting.under grantingCircumstances)).1 callback
  exact ⟨status, (denied.2.2 (.inl callback) failed).1, _, again,
    retried.1.mpr ⟨bearer, ada, granted⟩, retried.2.1 bearer ada granted⟩

end Returning

end Gateway

end GameCatalog
