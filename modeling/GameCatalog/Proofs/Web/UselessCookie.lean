import GameCatalog.Proofs.Access.MemberPolicy
import GameCatalog.Proofs.Web.LoginEndings

/-!
Cookies that do not count.  Of its cookies a request shows the gateway no more than the session
that is read from them, so one that does not verify or holds no session might as well be
missing.  A guard looks only at the member who is logged in, so in front of it the same is true
of a session that has ended or names nobody.
-/

namespace GameCatalog

open Job

namespace Request

/-- The requests differ in nothing but their cookies. -/
structure SameButCookies (first second : Request) : Prop where
  method : first.method = second.method
  path : first.path = second.path
  query : first.query = second.query
  headers : first.headers.filter (fun header => header.1 ≠ "cookie") =
    second.headers.filter (fun header => header.1 ≠ "cookie")
  body : first.body = second.body

theorem lookup_filter_of_ne {name removed : String} (other : name ≠ removed)
    (headers : List (String × Bytes)) :
    (headers.filter fun header => header.1 ≠ removed).lookup name = headers.lookup name := by
  induction headers with
  | nil => rfl
  | cons header headers inductionHypothesis =>
      obtain ⟨title, value⟩ := header
      by_cases dropped : title = removed
      · subst dropped
        rw [List.filter_cons_of_neg (by simp), inductionHypothesis,
          List.lookup_cons, beq_eq_false_iff_ne.mpr other]
      · rw [List.filter_cons_of_pos (by simpa using dropped), List.lookup_cons, List.lookup_cons,
          inductionHypothesis]

variable {first second : Request}

theorem header?_congr (same : first.SameButCookies second) {name : String}
    (other : name ≠ "cookie") : first.header? name = second.header? name := by
  unfold header?
  rw [← lookup_filter_of_ne other first.headers, same.headers, lookup_filter_of_ne other]

theorem jsonBody_congr (same : first.SameButCookies second) {Value : Type}
    (decoder : Json.Decoder Value) : first.jsonBody decoder = second.jsonBody decoder := by
  unfold jsonBody
  rw [header?_congr same (by decide), same.body]

theorem queryFields_congr (same : first.SameButCookies second) (names : List String) :
    first.queryFields names = second.queryFields names := by
  unfold queryFields
  rw [same.query]

end Request

namespace SessionCookie

/-- The request brings a signed value, and none that verifies and could replace it behind it. -/
def Counts (cookie : SessionCookie) (request : Request) (signed : String) : Prop :=
  ∃ before after, Cookie.ofRequest request = before ++ (cookie.name, signed) :: after ∧
    ∀ later, (cookie.name, later) ∈ after → Cookie.verify? cookie.key later = none

def Holds (value : String) (session : ClientSession) : Prop :=
  ∃ octets, Base64.decode? Base64.urlSafe value.toList = some octets ∧
    ClientSession.decoder.run octets = .ok session

/-- The signed value does not verify, or what verifies holds no session. -/
def Useless (cookie : SessionCookie) (signed : String) : Prop :=
  ∀ value session, Cookie.verify? cookie.key signed = some value → ¬Holds value session

variable {cookie : SessionCookie} {request : Request} {value : String}

theorem session?_eq_some_iff {session : ClientSession} :
    session? value = some session ↔ Holds value session := by
  unfold session? Holds
  cases Base64.decode? Base64.urlSafe value.toList with
  | none => simp
  | some octets => cases read : ClientSession.decoder.run octets <;> simp [read, Except.toOption]

theorem counts_of_value? (seen : cookie.value? request = some value) :
    ∃ signed, cookie.Counts request signed ∧ Cookie.verify? cookie.key signed = some value := by
  unfold value? at seen
  rw [List.getLast?_filterMap, List.findSome?_eq_some_iff] at seen
  obtain ⟨after, ⟨name, signed⟩, before, split, verifies, others⟩ := seen
  obtain ⟨rfl, verified⟩ := Option.ite_none_right_eq_some.mp verifies
  refine ⟨signed, ⟨before.reverse, after.reverse, ?_, ?_⟩, verified⟩
  · rw [← List.reverse_reverse (Cookie.ofRequest request), split]
    simp
  · intro later membership
    exact (if_pos rfl).symm.trans (others _ (List.mem_reverse.mp membership))

theorem eq_sign_of_counts (named : cookie.name ≠ "") {signed : String}
    (presented : request.headers = [("cookie", Utf8.encode (cookie.pairOf value))])
    (counts : cookie.Counts request signed) : signed = Cookie.sign cookie.key value := by
  obtain ⟨before, after, brought, -⟩ := counts
  apply (mem_ofRequest_iff named (cookie.presents_of_presented presented)).mp
  simp [brought]

theorem value?_of_bare (bare : ∀ signed, (cookie.name, signed) ∉ Cookie.ofRequest request) :
    cookie.value? request = none := by
  unfold value?
  rw [List.getLast?_eq_none_iff, List.filterMap_eq_nil_iff]
  rintro ⟨name, signed⟩ membership
  apply if_neg
  rintro rfl
  exact bare signed membership

theorem value?_of_unverified {bare : Request} {before after : List (String × String)}
    {signed : String}
    (brought : Cookie.ofRequest request = before ++ (cookie.name, signed) :: after)
    (removed : Cookie.ofRequest bare = before ++ after)
    (unverified : Cookie.verify? cookie.key signed = none) :
    cookie.value? request = cookie.value? bare := by
  unfold value?
  rw [brought, removed, List.filterMap_append, List.filterMap_append, List.filterMap_cons_none]
  exact (if_pos rfl).trans unverified

end SessionCookie

namespace Access

variable {repository : Repository} {credentials : Credentials} {now : Instant}
  {session : Option ClientSession}

theorem requireMember_congr (same : member credentials.session now = member session now) :
    requireMember credentials now = requireMember { credentials with session } now := by
  unfold requireMember
  rw [same]

theorem decide_congr (same : member credentials.session now = member session now)
    (scheme : Scheme) :
    decide scheme repository credentials now =
      decide scheme repository { credentials with session } now := by
  have sameMember := requireMember_congr same
  cases scheme with
  | member => exact congrArg (Except.map Grant.member) sameMember
  | admin =>
      simp only [decide, admin]
      rw [sameMember]
  | gameOwner | gameMaintainer =>
      simp only [decide, gameRole]
      rw [sameMember]
      rfl
  | editionManager =>
      simp only [decide, editionManager]
      rw [sameMember]
      rfl
  | launcher | launcherEdition | launcherGame | launcherFile => rfl
  | gameInfo | gameFiles =>
      simp only [decide, visibility]
      rw [same]
      rfl

end Access

namespace Gateway

variable {gateway : Gateway} {request bare : Request} {world : World}
  {encoded : List (String × List Char)}

section Serve

variable (same : request.SameButCookies bare)
include same

theorem handleGranted_congr (endpoint : Endpoint) (grant : Grant) :
    handleGranted (visitOf request encoded) endpoint grant =
      handleGranted (visitOf bare encoded) endpoint grant := by
  unfold handleGranted
  cases endpoint
  case generateKeys =>
    dsimp only [Handler.generateKeys, visitOf]
    rw [Request.queryFields_congr same]
  case listKeys =>
    dsimp only [Handler.listKeys, visitOf]
    rw [Request.queryFields_congr same]
  case updateVisibility =>
    dsimp only [Handler.updateVisibility, visitOf]
    rw [Request.jsonBody_congr same]
  all_goals cases grant <;> rfl

theorem checked_congr {scheme : Scheme}
    (sameMember : Access.member (gateway.session? request) world.clock =
      Access.member (gateway.session? bare) world.clock) :
    gateway.checked (visitOf request encoded) world scheme =
      gateway.checked (visitOf bare encoded) world scheme := by
  have sameHeader := Request.header?_congr same (show "authorization" ≠ "cookie" by decide)
  have sameCredentials : gateway.credentials (visitOf bare encoded) =
      { gateway.credentials (visitOf request encoded) with session := gateway.session? bare } := by
    unfold credentials visitOf
    rw [sameHeader]
  unfold checked Access.check
  rw [sameCredentials, Access.decide_congr sameMember]

theorem exec_serve_congr_of_guarded {endpoint : Endpoint} {scheme : Scheme}
    (protection : endpoint.scheme? = some scheme)
    (sameMember : Access.member (gateway.session? request) world.clock =
      Access.member (gateway.session? bare) world.clock) :
    exec (gateway.serve (visitOf request encoded) endpoint) world =
      exec (gateway.serve (visitOf bare encoded) endpoint) world := by
  have sameCheck := @checked_congr gateway request bare world encoded same scheme sameMember
  have sameWorld : gateway.guarded (visitOf request encoded) world scheme =
      gateway.guarded (visitOf bare encoded) world scheme := by
    unfold guarded
    rw [sameCheck]
  cases decided : Grant.ofCheck (gateway.checked (visitOf request encoded) world scheme) with
  | error failure =>
      rw [exec_serve_of_refused _ _ _ protection decided,
        exec_serve_of_refused _ _ _ protection (sameCheck ▸ decided), sameWorld]
  | ok grant =>
      rw [exec_serve_of_granted _ _ _ protection decided,
        exec_serve_of_granted _ _ _ protection (sameCheck ▸ decided), sameWorld,
        handleGranted_congr same]

end Serve

section Open

variable (sameSession : gateway.session? request = gateway.session? bare)
include sameSession

theorem startLogin_congr :
    Handler.startLogin gateway request = Handler.startLogin gateway bare := by
  unfold Handler.startLogin
  rw [sameSession]

/-- A logout names the cookie to forget only where there is an identity, so there is a cookie. -/
theorem exec_logout_congr :
    exec (Handler.logout gateway request) world = exec (Handler.logout gateway bare) world := by
  have sameHeld : gateway.held request = gateway.held bare := by
    unfold held
    rw [sameSession]
  unfold Handler.logout
  dsimp only
  rw [sameSession, identity_held]
  cases known : (gateway.held bare).identity with
  | none => rfl
  | some identity =>
      have sameRevoke : gateway.cookie.revoke request = gateway.cookie.revoke bare := by
        funext now
        rw [revoke_of_held (sameHeld ▸ known), revoke_of_held known]
      rw [sameRevoke]

theorem exec_handleOpen_congr (same : request.SameButCookies bare) (endpoint : Endpoint) :
    exec (gateway.handleOpen (visitOf request encoded) endpoint) world =
      exec (gateway.handleOpen (visitOf bare encoded) endpoint) world := by
  unfold handleOpen
  cases endpoint
  case startLogin => exact congrArg (exec · world) (startLogin_congr sameSession)
  case finishLogin =>
    have sameAttempt : (gateway.held request).attempt = (gateway.held bare).attempt := by
      unfold held
      rw [sameSession]
    exact congrArg (exec · world) (finishLogin_congr (Request.queryFields_congr same _) sameAttempt)
  case logout => exact exec_logout_congr sameSession
  case redeem =>
    dsimp only [visitOf]
    unfold Handler.redeem
    rw [Request.jsonBody_congr same]
  all_goals rfl

end Open

theorem respond_congr_of_serve (same : request.SameButCookies bare)
    (served : ∀ endpoint encoded,
      Route.reached? request.path request.method = some (endpoint, encoded) →
      exec (gateway.serve (visitOf request encoded) endpoint) world =
        exec (gateway.serve (visitOf bare encoded) endpoint) world) :
    gateway.respond request world = gateway.respond bare world := by
  have sameAnswer :
      (gateway.answer request).run world = (gateway.answer bare).run world := by
    cases reached : Route.reached? request.path request.method with
    | none =>
        rw [run_answer_of_unreached _ _ _ reached, run_answer_of_unreached]
        · unfold turnedAway
          rw [same.path]
        · rwa [← same.path, ← same.method]
    | some found =>
        obtain ⟨endpoint, encoded⟩ := found
        rw [run_answer_of_reached _ _ _ reached, run_conclude, served _ _ reached, ← run_conclude]
        rw [same.path, same.method] at reached
        rw [run_answer_of_reached _ _ _ reached]
  cases answered : (gateway.answer bare).run world with
  | mk response after =>
      rw [respond_of_answer gateway request world (sameAnswer.trans answered),
        respond_of_answer gateway bare world answered]
      unfold finalize
      rw [same.method]

/-- What a request is answered depends on its cookies only through the session they hold. -/
theorem respond_congr (same : request.SameButCookies bare)
    (sameSession : gateway.session? request = gateway.session? bare) :
    gateway.respond request world = gateway.respond bare world := by
  apply respond_congr_of_serve same
  intro endpoint encoded _
  cases protection : endpoint.scheme? with
  | none =>
      rw [exec_serve_of_open _ _ _ protection, exec_serve_of_open _ _ _ protection]
      exact exec_handleOpen_congr sameSession same endpoint
  | some scheme =>
      apply exec_serve_congr_of_guarded same protection
      rw [sameSession]

/-- The session names no user or no identity, or its identity has ended. -/
def Powerless (session : ClientSession) (now : Instant) : Prop :=
  session.identity = none ∨ session.user = none ∨
    ∃ identity, session.identity = some identity ∧ identity.expiresAt ≤ now

theorem session?_of_bare
    (noCookie : ∀ signed, (gateway.cookie.name, signed) ∉ Cookie.ofRequest bare) :
    gateway.session? bare = none := by
  unfold session? SessionCookie.read?
  rw [SessionCookie.value?_of_bare noCookie, Option.bind_none]

theorem counts_of_session? {session : ClientSession}
    (holds : gateway.session? request = some session) :
    ∃ signed value, gateway.cookie.Counts request signed ∧
      Cookie.verify? gateway.cookie.key signed = some value ∧
      SessionCookie.Holds value session := by
  obtain ⟨value, seen, held⟩ := Option.bind_eq_some_iff.mp holds
  obtain ⟨signed, counts, verified⟩ := SessionCookie.counts_of_value? seen
  exact ⟨signed, value, counts, verified, SessionCookie.session?_eq_some_iff.mp held⟩

theorem member_of_powerless {session : ClientSession} {now : Instant}
    (powerless : Powerless session now) :
    Access.member (some session) now = .error Access.noAccessToken := by
  apply Access.member_of_stranger
  intro user known
  obtain ⟨_, identity, held, carried, named, inTime⟩ := Access.loggedIn_iff_identifies.mp known
  cases held
  rcases powerless with noIdentity | noUser | ⟨ended, carriedToo, past⟩
  · exact nomatch carried.symm.trans noIdentity
  · exact nomatch named.symm.trans noUser
  · cases carried.symm.trans carriedToo
    exact absurd inTime (UInt64.not_lt.mpr past)

/--
Useless cookies are no cookies, whatever is asked for and whatever the store holds and the
identity provider answers.  A request whose session cookie does not verify, or holds no session,
is answered as one without a session cookie: the response is the same, and so is all that the
work leaves behind.  On a guarded route the same is true if the session names no user or no
identity, or if its identity has ended.  A cookie that does not verify counts for nothing among
other session cookies, too.
-/
theorem respond_of_useless_cookie (gateway : Gateway) (request bare : Request) (world : World)
    (same : request.SameButCookies bare) :
    ((∀ signed, (gateway.cookie.name, signed) ∉ Cookie.ofRequest bare) →
      ((∀ signed, gateway.cookie.Counts request signed → gateway.cookie.Useless signed) →
        gateway.respond request world = gateway.respond bare world) ∧
      ((∀ endpoint, request.Reaches endpoint → endpoint.scheme? ≠ none) →
        (∀ signed, gateway.cookie.Counts request signed →
          gateway.cookie.Useless signed ∨ ∃ value session,
            Cookie.verify? gateway.cookie.key signed = some value ∧
            SessionCookie.Holds value session ∧ Powerless session world.clock) →
        gateway.respond request world = gateway.respond bare world)) ∧
    ∀ before signed after,
      Cookie.ofRequest request = before ++ (gateway.cookie.name, signed) :: after →
      Cookie.ofRequest bare = before ++ after →
      Cookie.verify? gateway.cookie.key signed = none →
      gateway.respond request world = gateway.respond bare world := by
  refine ⟨fun noCookie => ⟨?_, ?_⟩, ?_⟩
  · intro useless
    apply respond_congr same
    rw [session?_of_bare noCookie]
    by_contra holds
    obtain ⟨session, holds⟩ := Option.ne_none_iff_exists'.mp holds
    obtain ⟨signed, value, counts, verified, held⟩ := counts_of_session? holds
    exact useless signed counts value session verified held
  · intro guarded idle
    have sameMember : Access.member (gateway.session? request) world.clock =
        Access.member (gateway.session? bare) world.clock := by
      rw [session?_of_bare noCookie]
      cases holds : gateway.session? request with
      | none => rfl
      | some session =>
          obtain ⟨signed, value, counts, verified, held⟩ := counts_of_session? holds
          rcases idle signed counts with useless | ⟨_, _, verifiedToo, heldToo, powerless⟩
          · exact absurd held (useless value session verified)
          · cases verified.symm.trans verifiedToo
            rw [← SessionCookie.session?_eq_some_iff] at held heldToo
            cases held.symm.trans heldToo
            exact member_of_powerless powerless
    apply respond_congr_of_serve same
    intro endpoint encoded reached
    obtain ⟨scheme, protection⟩ := Option.ne_none_iff_exists'.mp (guarded endpoint ⟨_, reached⟩)
    exact exec_serve_congr_of_guarded same protection sameMember
  · intro before signed after brought removed unverified
    apply respond_congr same
    unfold session? SessionCookie.read?
    rw [SessionCookie.value?_of_unverified brought removed unverified]

section Presenting

def presenting (request : Request) (cookies : String) : Request :=
  { request with headers := [("cookie", Utf8.encode cookies)] }

theorem sameButCookies_presenting {cookies : String} (noHeaders : request.headers = []) :
    (presenting request cookies).SameButCookies request where
  method := rfl
  path := rfl
  query := rfl
  headers := by simp [presenting, noHeaders]
  body := rfl

theorem ofRequest_of_no_headers (noHeaders : request.headers = []) :
    Cookie.ofRequest request = [] := by
  simp [Cookie.ofRequest, Request.headers?, noHeaders]

def leave : Request := { method := "POST", path := "/oauth2/logout".toList }

def whoAmI : Request := { method := "GET", path := "/users/me".toList }

def overdue : ClientSession := ⟨some ⟨⟨"token"⟩, 0, none⟩, some ada, none⟩

/-- A forged cookie, one without a session and one with an overdue identity are of no use. -/
theorem respond_of_useless_cookie_presenting :
    secured.respond (presenting setOut "session=forged; other=1") granting =
      secured.respond (presenting setOut "other=1") granting ∧
    secured.respond (presenting leave (secured.cookie.pairOf "?")) granting =
      secured.respond leave granting ∧
    secured.respond (presenting whoAmI (secured.cookie.pair overdue)) granting =
      secured.respond whoAmI granting := by
  refine ⟨?_, ?_, ?_⟩
  · have same : (presenting setOut "session=forged; other=1").SameButCookies
        (presenting setOut "other=1") := ⟨rfl, rfl, rfl, by decide +kernel, rfl⟩
    exact (respond_of_useless_cookie secured _ _ granting same).2 [] "forged" [("other", "1")]
      (by decide +kernel) (by decide +kernel) (by decide +kernel)
  · refine ((respond_of_useless_cookie secured _ _ granting (sameButCookies_presenting rfl)).1
      ?_).1 ?_
    · simp [ofRequest_of_no_headers (show leave.headers = [] from rfl)]
    · intro signed counts value session verified
      rw [SessionCookie.eq_sign_of_counts (by decide) rfl counts, Cookie.verify?_sign] at verified
      cases verified
      rintro ⟨octets, decoded, -⟩
      have undecoded : Base64.decode? Base64.urlSafe "?".toList = none := by decide +kernel
      exact nomatch undecoded.symm.trans decoded
  · refine ((respond_of_useless_cookie secured _ _ granting (sameButCookies_presenting rfl)).1
      ?_).2 ?_ ?_
    · simp [ofRequest_of_no_headers (show whoAmI.headers = [] from rfl)]
    · rintro endpoint ⟨encoded, reached⟩
      have reachedMe : Route.reached? "/users/me".toList "GET" = some (.me, []) := by
        decide +kernel
      cases reachedMe.symm.trans reached
      exact nofun
    · intro signed counts
      refine .inr ⟨SessionCookie.value overdue, overdue, ?_, ?_, .inr (.inr ⟨_, rfl, ?_⟩)⟩
      · rw [SessionCookie.eq_sign_of_counts (by decide) rfl counts, Cookie.verify?_sign]
      · exact SessionCookie.session?_eq_some_iff.mp (SessionCookie.session?_value overdue)
      · decide

end Presenting

end Gateway

end GameCatalog
