import GameCatalog.Proofs.Web.Binding

/-!
What the cookies of the gateway say about who a browser is.  A session names a user only together
with the identity that the user was fetched for, and both come from one callback of the run.  The
attempt of a login is gone once the login has ended well.
-/

namespace GameCatalog.Gateway

open Job

variable {gateway : Gateway}

/-- The callback obtained the identity, and the user that the identity stands for. -/
structure Obtains (callback : Exchange) (identity : IdentitySession) (user : User) : Prop where
  reaches : callback.request.Reaches .finishLogin
  asked : ∃ code verifier grant,
    callback.calls = [.exchangeCode code verifier, .fetchUser identity.accessToken.expose] ∧
    callback.before.provider.exchangeCode code verifier = .ok grant ∧
    identity = Login.identityOf callback.before.clock grant
  fetched : callback.before.provider.fetchUser identity.accessToken.expose = .ok user

/-- The session names nobody, or somebody whom a callback of the run obtained. -/
inductive Whole (run : List Exchange) : ClientSession → Prop where
  | anonymous (attempt : Option LoginAttempt) : Whole run ⟨none, none, attempt⟩
  | identified {callback : Exchange} {identity : IdentitySession} {user : User}
      (attempt : Option LoginAttempt) (member : callback ∈ run)
      (obtains : Obtains callback identity user) : Whole run ⟨some identity, some user, attempt⟩

section Whole

variable {run earlier later : List Exchange} {exchange : Exchange} {session : ClientSession}

theorem obtains_of_returns {code : String} {attempt : LoginAttempt} {grant : TokenGrant}
    {user : User} (returns : gateway.Returns exchange.request code attempt)
    (calls : exchange.calls =
      [.exchangeCode code attempt.verifier.expose, .fetchUser grant.accessToken])
    (exchanged :
      exchange.before.provider.exchangeCode code attempt.verifier.expose = .ok grant)
    (fetched : exchange.before.provider.fetchUser grant.accessToken = .ok user) :
    Obtains exchange (Login.identityOf exchange.before.clock grant) user where
  reaches := returns.callback
  asked := ⟨code, _, grant, calls, exchanged, rfl⟩
  fetched := fetched

theorem Whole.mono {longer : List Exchange} (whole : Whole run session) (part : run ⊆ longer) :
    Whole longer session := by
  cases whole with
  | anonymous attempt => exact .anonymous attempt
  | identified attempt member obtains => exact .identified attempt (part member) obtains

theorem Whole.with_attempt (whole : Whole run session) (attempt : Option LoginAttempt) :
    Whole run { session with attempt } := by
  cases whole with
  | anonymous => exact .anonymous attempt
  | identified _ member obtains => exact .identified attempt member obtains

theorem whole_of_save (conducted : gateway.Conducted run) (unforged : gateway.Unforged run)
    (split : run = earlier ++ exchange :: later)
    (saves : gateway.cookie.save session ∈ exchange.response.cookies) :
    Whole (earlier ++ [exchange]) session := by
  induction measured : earlier.length using Nat.strong_induction_on
    generalizing earlier exchange later session with
  | _ count inductionHypothesis =>
      have conduct := conducted exchange (by simp [split])
      rcases origin_of_save conduct saves with
        ⟨_, attempt, _, _, _, rfl⟩ |
          ⟨code, attempt, grant, user, returns, calls, exchanged, fetched, rfl⟩
      · apply Whole.with_attempt
        unfold held
        cases holds : gateway.session? exchange.request with
        | none => exact .anonymous none
        | some presented =>
            obtain ⟨past, before, saved⟩ := saved_of_session? conducted unforged split holds
            obtain ⟨older, newer, rfl⟩ := List.append_of_mem before
            have shorter : older.length < count := by
              rw [← measured]
              simp
            have whole := inductionHypothesis older.length shorter
              (by rw [split, List.append_assoc, List.cons_append]) saved rfl
            exact whole.mono (by simp)
      · have obtains := obtains_of_returns returns calls exchanged fetched
        exact .identified none (List.mem_append_right _ (List.mem_singleton_self _)) obtains

end Whole

section Attempt

variable {request : Request} {world : World} {response : Response} {calls : List ProviderCall}

theorem saves_of_finished {exchange : Exchange}
    (conduct : gateway.Conduct exchange.request exchange.before exchange.response exchange.calls)
    (callback : exchange.request.Reaches .finishLogin) (status : exchange.response.status = 200) :
    ∃ identity user, Obtains exchange identity user ∧
      exchange.response.cookies = [gateway.cookie.save ⟨some identity, some user, none⟩] := by
  generalize same : exchange.calls = calls at conduct
  cases conduct with
  | finished returns exchanged fetched _ cookies =>
      exact ⟨_, _, obtains_of_returns returns same exchanged fetched, cookies⟩
  | aside _ noCallback _ => exact absurd callback noCallback
  | unstarted start _ _ | started start _ _ _ => exact nomatch reaches_unique start callback
  | refused _ _ refusal _ => exact absurd (refusal.symm.trans status) (by decide)
  | unexchanged _ _ failed _ | unfetched _ _ _ failed _ => exact absurd status failed
  | unrevoked logout _ _ | revoked logout _ _ => exact nomatch reaches_unique logout callback

theorem no_attempt_of_save {session : ClientSession}
    (conduct : gateway.Conduct request world response calls)
    (noStart : ¬request.Reaches .startLogin)
    (saves : gateway.cookie.save session ∈ response.cookies) : session.attempt = none := by
  rcases origin_of_save conduct saves with ⟨_, _, start, _⟩ | ⟨_, _, _, _, _, _, _, _, rfl⟩
  · exact absurd start noStart
  · rfl

theorem saves_of_granted {code : String} {attempt : LoginAttempt} {grant : TokenGrant} {user : User}
    (conduct : gateway.Conduct request world response calls)
    (returns : gateway.Returns request code attempt)
    (exchanged : world.provider.exchangeCode code attempt.verifier.expose = .ok grant)
    (fetched : world.provider.fetchUser grant.accessToken = .ok user) :
    response.status = 200 ∧
      response.cookies = [gateway.cookie.save (loggedIn world.clock grant user)] := by
  cases conduct with
  | finished other exchangedToo fetchedToo status cookies =>
      obtain ⟨rfl, rfl⟩ := returns_unique returns other
      cases exchanged.symm.trans exchangedToo
      cases fetched.symm.trans fetchedToo
      exact ⟨status, cookies⟩
  | unexchanged other denied _ _ =>
      obtain ⟨rfl, rfl⟩ := returns_unique returns other
      exact nomatch exchanged.symm.trans denied
  | unfetched other exchangedToo denied _ _ =>
      obtain ⟨rfl, rfl⟩ := returns_unique returns other
      cases exchanged.symm.trans exchangedToo
      exact nomatch fetched.symm.trans denied
  | aside _ noCallback _ => exact absurd returns.callback noCallback
  | refused _ stranger _ _ => exact absurd returns (stranger _ _)
  | unstarted start _ _ | started start _ _ _ => exact nomatch reaches_unique start returns.callback
  | unrevoked logout _ _ | revoked logout _ _ =>
      exact nomatch reaches_unique logout returns.callback

theorem respond_finishLogin (callback : request.Reaches .finishLogin) (world : World) :
    (gateway.respond request world).1 =
      finalize request (concluded (exec (Handler.finishLogin gateway request) world).1) := by
  obtain ⟨encoded, reached⟩ := callback
  have answered := run_answer_of_reached gateway request world reached
  rw [run_conclude, exec_serve_of_open _ _ _ rfl] at answered
  rw [respond_of_answer gateway request world answered]
  rfl

theorem finishLogin_congr {other : Request}
    (sameQuery : other.queryFields ["code", "state"] = request.queryFields ["code", "state"])
    (sameAttempt : (gateway.held other).attempt = (gateway.held request).attempt) :
    Handler.finishLogin gateway other = Handler.finishLogin gateway request := by
  unfold held at sameAttempt
  unfold Handler.finishLogin
  rw [sameQuery]
  dsimp only
  rw [sameAttempt]

def Carries (request : Request) (code : String) : Prop :=
  ∃ fields, request.queryFields ["code", "state"] = .ok fields ∧
    fields.lookup "code" = some code ∧ code ≠ ""

def noVerifier : Response := (ApiError.badRequest "no code verifier").toResponse

theorem respond_of_no_attempt {code : String} (callback : request.Reaches .finishLogin)
    (carries : Carries request code) (noAttempt : (gateway.held request).attempt = none) :
    (gateway.respond request world).1 = finalize request noVerifier := by
  obtain ⟨fields, read, named, notEmpty⟩ := carries
  have finish := @Login.exec_finish_of_no_attempt code (fields.lookup "state") world.clock world
  rw [← noAttempt] at finish
  have carried : (fields.lookup "code").filter (· ≠ "") = some code := by simp [named, notEmpty]
  obtain ⟨after, ended, -⟩ := exec_finishLogin_of_code read carried finish
  rw [respond_finishLogin callback, ended]
  rfl

end Attempt

section Browser

def newest? (browsed : List Exchange) : Option String :=
  (browsed.flatMap fun exchange => exchange.response.cookies).getLast?

/-- What the request is seen to present is the cookie that the header set. -/
def Presents (gateway : Gateway) (request : Request) (header? : Option String) : Prop :=
  ∀ value, gateway.cookie.value? request = some value →
    ∃ header, header? = some header ∧ (Cookie.splitHeader header).1 = gateway.cookie.pairOf value

variable {before after : List Exchange} {first : Exchange} {request : Request}

theorem mem_newest? {header : String} (sets : first.response.cookies ≠ [])
    (newest : newest? (before ++ first :: after) = some header) :
    ∃ past ∈ first :: after, header ∈ past.response.cookies := by
  unfold newest? at newest
  rw [List.flatMap_append, List.getLast?_append_of_ne_nil _ (by simp [sets])] at newest
  exact List.mem_flatMap.mp (List.mem_of_getLast? newest)

theorem no_attempt_of_presents (conducted : gateway.Conducted (first :: after))
    (callback : first.request.Reaches .finishLogin) (status : first.response.status = 200)
    (noStart : ∀ past ∈ after, ¬past.request.Reaches .startLogin)
    (presents : gateway.Presents request (newest? (before ++ first :: after))) :
    (gateway.held request).attempt = none := by
  unfold held
  cases verified : gateway.cookie.value? request with
  | none =>
      have nothing : gateway.session? request = none := by
        unfold session? SessionCookie.read?
        rw [verified, Option.bind_none]
      rw [nothing]
      rfl
  | some value =>
      obtain ⟨header, newest, signed⟩ := presents value verified
      obtain ⟨_, _, _, cookies⟩ := saves_of_finished
        (conducted first List.mem_cons_self) callback status
      obtain ⟨past, member, membership⟩ := mem_newest? (by simp [cookies]) newest
      have conduct := conducted past member
      obtain ⟨session, rfl, saved⟩ := saved_of_header conduct membership signed
      rw [session?_of_value verified saved, Option.getD_some]
      apply no_attempt_of_save conduct ?_ membership
      rcases List.mem_cons.mp member with rfl | later
      · exact fun start => nomatch reaches_unique start callback
      · exact noStart past later

end Browser

/--
The sessions of a run in which no signature is forged.  Every cookie that a response sets is
removed or holds a session that names nobody, or a user together with the identity that one
callback obtained with it.  Where a login begins, only the attempt is replaced; where one ends
well, the attempt is gone and what the browser was before plays no part, so a browser that keeps
its newest cookie cannot end another login before it has begun one.
-/
theorem exchanges_whole (gateway : Gateway) (world : World)
    (requests : List (Circumstances × Request))
    (unforged : gateway.Unforged (gateway.exchanges world requests))
    (earlier : List Exchange) (exchange : Exchange) (later : List Exchange)
    (split : gateway.exchanges world requests = earlier ++ exchange :: later) :
    (∀ header ∈ exchange.response.cookies,
      (∃ session, header = gateway.cookie.save session ∧ Whole (earlier ++ [exchange]) session) ∨
        header ∈ gateway.cookie.revoke exchange.request exchange.before.clock) ∧
    (exchange.request.Reaches .startLogin →
      exchange.response.status ≠ 303 ∧ exchange.response.cookies = [] ∨
      exchange.response.status = 303 ∧ ∃ attempt, exchange.response.cookies =
        [gateway.cookie.save { gateway.held exchange.request with attempt := some attempt }]) ∧
    (exchange.request.Reaches .finishLogin → exchange.response.status = 200 →
      (∃ identity user, Obtains exchange identity user ∧
        exchange.response.cookies = [gateway.cookie.save ⟨some identity, some user, none⟩]) ∧
      ∀ other : Request, other.Reaches .finishLogin →
        other.queryFields ["code", "state"] = exchange.request.queryFields ["code", "state"] →
        (gateway.held other).attempt = (gateway.held exchange.request).attempt →
        (gateway.respond other exchange.before).1.cookies = exchange.response.cookies) ∧
    ∀ before first after code, (before ++ first :: after).Sublist earlier →
      first.request.Reaches .finishLogin → first.response.status = 200 →
      (∀ past ∈ after, ¬past.request.Reaches .startLogin) →
      gateway.Presents exchange.request (newest? (before ++ first :: after)) →
      exchange.request.Reaches .finishLogin → Carries exchange.request code →
      exchange.response = finalize exchange.request noVerifier := by
  have conducted : gateway.Conducted _ := conducted_exchanges world requests
  have member : exchange ∈ gateway.exchanges world requests := by simp [split]
  have conduct := conducted exchange member
  have responds := response_of_mem member
  refine ⟨?_, ?_, ?_, ?_⟩
  · intro header membership
    rcases saves_of_header conduct membership with ⟨session, rfl⟩ | revoked
    · exact .inl ⟨session, rfl, whole_of_save conducted unforged split membership⟩
    · exact .inr revoked
  · intro start
    exact saves_of_start conduct start
  · intro callback status
    constructor
    · exact saves_of_finished conduct callback status
    · intro other reaches sameQuery sameAttempt
      rw [responds, respond_finishLogin callback, respond_finishLogin reaches,
        finishLogin_congr sameQuery sameAttempt, finalize_cookies, finalize_cookies]
  · intro before first after code part callback status noStart presents again carries
    have past : gateway.Conducted (first :: after) := by
      intro visited there
      apply conducted
      rw [split]
      exact List.mem_append_left _ (part.subset (List.mem_append_right _ there))
    have noAttempt := no_attempt_of_presents past callback status noStart presents
    rw [responds]
    exact respond_of_no_attempt again carries noAttempt

section Returning

def welcomed (attempt : LoginAttempt) : ClientSession :=
  loggedIn (comingBack attempt).before.clock bearer ada

def comingAgain (attempt : LoginAttempt) : Exchange :=
  secured.exchange (comingBack attempt).after grantingCircumstances
    (comeBack (welcomed attempt) attempt.state)

theorem saves_comingBack (attempt : LoginAttempt) :
    (comingBack attempt).response.status = 200 ∧
      (comingBack attempt).response.cookies = [secured.cookie.save (welcomed attempt)] :=
  saves_of_granted (conduct_exchange settingOut.after grantingCircumstances _)
    (returns_comeBack attempt) rfl rfl

/-- A browser logs in and calls back once more: it is known, and the second callback fails. -/
theorem exchanges_whole_comeBack :
    ∃ attempt,
      let run := [settingOut, comingBack attempt, comingAgain attempt]
      secured.exchanges granting [(grantingCircumstances, setOut),
        (grantingCircumstances, comeBack { attempt := some attempt } attempt.state),
        (grantingCircumstances, comeBack (welcomed attempt) attempt.state)] = run ∧
      secured.Unforged run ∧
      (comingBack attempt).response.cookies = [secured.cookie.save (welcomed attempt)] ∧
      Whole [settingOut, comingBack attempt] (welcomed attempt) ∧
      (comingAgain attempt).response = finalize (comingAgain attempt).request noVerifier := by
  obtain ⟨attempt, saves⟩ := saves_settingOut
  refine ⟨attempt, ?_⟩
  intro run
  obtain ⟨status, cookies⟩ := saves_comingBack attempt
  have unforged : secured.Unforged run := by
    refine @unforged_concat secured [settingOut, comingBack attempt] _
      (unforged_comingBack saves) ?_
    exact signed_of_save (by simp) (cookies ▸ List.mem_singleton_self _) (value?_comeBack _ _)
  have met : secured.exchanges granting [(grantingCircumstances, setOut),
      (grantingCircumstances, comeBack { attempt := some attempt } attempt.state),
      (grantingCircumstances, comeBack (welcomed attempt) attempt.state)] = run := rfl
  have back := exchanges_whole secured granting _ (met ▸ unforged) [settingOut]
    (comingBack attempt) [comingAgain attempt] met
  have again := exchanges_whole secured granting _ (met ▸ unforged)
    [settingOut, comingBack attempt] (comingAgain attempt) [] met
  refine ⟨met, unforged, cookies, ?_, ?_⟩
  · rcases back.1 _ (cookies ▸ List.mem_singleton_self _) with ⟨session, same, whole⟩ | revoked
    · rw [save_injective same]
      exact whole
    · exact absurd (secured.cookie.splitHeader_save _)
        (secured.cookie.splitHeader_revoke revoked _)
  · refine again.2.2.2 [settingOut] (comingBack attempt) [] "c" (List.Sublist.refl _)
      (callback_comeBack _ _) status (by simp) ?_ (callback_comeBack _ _)
      ⟨_, queryFields_comeBack _ _, rfl, by decide⟩
    intro value verified
    refine ⟨secured.cookie.save (welcomed attempt), ?_, ?_⟩
    · simp [newest?, cookies]
    · rw [secured.cookie.splitHeader_save,
        Option.some.inj ((value?_comeBack _ _).symm.trans verified)]

end Returning

end GameCatalog.Gateway
