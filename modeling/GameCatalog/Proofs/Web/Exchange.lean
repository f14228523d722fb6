import GameCatalog.Proofs.Circumstances
import GameCatalog.Proofs.Web.Conduct
import GameCatalog.Proofs.Web.SessionCookie

/-!
Runs of the gateway.  Browsers make requests in any order, each under circumstances of its own,
and present whatever cookies they like; but nobody can forge a signature.  So what a request is
seen to hold was put into a cookie by an earlier response of the run.
-/

namespace GameCatalog

/-- A request as it is met, its response, and the worlds before and after it. -/
structure Exchange where
  request : Request
  before : World
  response : Response
  after : World

def Exchange.calls (exchange : Exchange) : List ProviderCall :=
  exchange.after.calls.drop exchange.before.calls.length

namespace Gateway

variable (gateway : Gateway)

def exchange (world : World) (circumstances : Circumstances) (request : Request) : Exchange where
  request
  before := world.under circumstances
  response := (gateway.respond request (world.under circumstances)).1
  after := (gateway.respond request (world.under circumstances)).2

def exchanges : World → List (Circumstances × Request) → List Exchange
  | _, [] => []
  | world, (circumstances, request) :: rest =>
      let first := gateway.exchange world circumstances request
      first :: exchanges first.after rest

/-- Whatever verifies was signed: it stands in a cookie that an earlier response set. -/
def Unforged (run : List Exchange) : Prop :=
  ∀ earlier exchange later, run = earlier ++ exchange :: later →
    ∀ value, gateway.cookie.value? exchange.request = some value →
      ∃ past ∈ earlier, ∃ header ∈ past.response.cookies,
        (Cookie.splitHeader header).1 = gateway.cookie.pairOf value

def Conducted (run : List Exchange) : Prop :=
  ∀ exchange ∈ run,
    gateway.Conduct exchange.request exchange.before exchange.response exchange.calls

variable {gateway}

theorem conduct_exchange (world : World) (circumstances : Circumstances) (request : Request) :
    let exchange := gateway.exchange world circumstances request
    gateway.Conduct exchange.request exchange.before exchange.response exchange.calls := by
  intro exchange
  obtain ⟨calls, conduct, left⟩ := gateway.conduct_respond request (world.under circumstances)
  have same : exchange.calls = calls := by
    unfold Exchange.calls
    rw [show exchange.after.calls = exchange.before.calls ++ calls from left, List.drop_left]
  rw [same]
  exact conduct

theorem conducted_exchanges (world : World) (requests : List (Circumstances × Request)) :
    gateway.Conducted (gateway.exchanges world requests) := by
  induction requests generalizing world with
  | nil => exact fun _ membership => absurd membership List.not_mem_nil
  | cons visited rest inductionHypothesis =>
      obtain ⟨circumstances, request⟩ := visited
      unfold exchanges Conducted
      rw [List.forall_mem_cons]
      exact ⟨conduct_exchange world circumstances request, inductionHypothesis _⟩

theorem response_of_mem {world : World} {requests : List (Circumstances × Request)}
    {met : Exchange} (membership : met ∈ gateway.exchanges world requests) :
    met.response = (gateway.respond met.request met.before).1 := by
  induction requests generalizing world with
  | nil => exact absurd membership List.not_mem_nil
  | cons visited rest inductionHypothesis =>
      obtain ⟨circumstances, request⟩ := visited
      rcases List.mem_cons.mp membership with rfl | later
      · rfl
      · exact inductionHypothesis later

section Unforged

variable {run : List Exchange} {exchange : Exchange}

theorem unforged_nil : gateway.Unforged [] := by
  intro earlier exchange later split
  simp at split

theorem unforged_concat (unforged : gateway.Unforged run)
    (signed : ∀ value, gateway.cookie.value? exchange.request = some value →
      ∃ past ∈ run, ∃ header ∈ past.response.cookies,
        (Cookie.splitHeader header).1 = gateway.cookie.pairOf value) :
    gateway.Unforged (run ++ [exchange]) := by
  intro earlier visited later split value verified
  rcases List.eq_nil_or_concat later with rfl | ⟨between, last, rfl⟩
  · obtain ⟨rfl, same⟩ := List.append_inj' split rfl
    cases same
    exact signed value verified
  · rw [List.concat_eq_append, ← List.cons_append, ← List.append_assoc] at split
    exact unforged earlier visited between (List.append_inj' split rfl).1 value verified

theorem signed_of_save {past : Exchange} {session : ClientSession} {request : Request}
    (before : past ∈ run) (saves : gateway.cookie.save session ∈ past.response.cookies)
    (presents : gateway.cookie.value? request = some (SessionCookie.value session)) :
    ∀ value, gateway.cookie.value? request = some value →
      ∃ past ∈ run, ∃ header ∈ past.response.cookies,
        (Cookie.splitHeader header).1 = gateway.cookie.pairOf value := by
  intro value verified
  have same := Option.some.inj (presents.symm.trans verified)
  rw [← same]
  exact ⟨past, before, _, saves, gateway.cookie.splitHeader_save session⟩

end Unforged

section Cookies

variable {request : Request} {world : World} {response : Response} {calls : List ProviderCall}
  {header value : String} {session : ClientSession}

/-- The headers that set a cookie save a session, or make the browser forget it. -/
theorem saves_of_header (conduct : gateway.Conduct request world response calls)
    (membership : header ∈ response.cookies) :
    (∃ session, header = gateway.cookie.save session) ∨
      header ∈ gateway.cookie.revoke request world.clock := by
  cases conduct with
  | started start sent announces cookies =>
      rw [cookies] at membership
      exact .inl ⟨_, List.mem_singleton.mp membership⟩
  | finished returns exchanged fetched status cookies =>
      rw [cookies] at membership
      exact .inl ⟨_, List.mem_singleton.mp membership⟩
  | revoked logout known cookies =>
      rw [cookies] at membership
      exact .inr membership
  | aside _ _ bare | unstarted _ _ bare | refused _ _ _ bare | unexchanged _ _ _ bare
    | unfetched _ _ _ _ bare | unrevoked _ _ bare =>
      rw [bare] at membership
      exact absurd membership List.not_mem_nil

/-- Where a login begins, nothing but the attempt of what the browser holds is replaced. -/
theorem saves_of_start (conduct : gateway.Conduct request world response calls)
    (start : request.Reaches .startLogin) :
    response.status ≠ 303 ∧ response.cookies = [] ∨
      response.status = 303 ∧ ∃ attempt, response.cookies =
        [gateway.cookie.save { gateway.held request with attempt := some attempt }] := by
  cases conduct with
  | unstarted _ failed bare => exact .inl ⟨failed, bare⟩
  | started _ sent announces cookies => exact .inr ⟨sent.1, _, cookies⟩
  | aside noStart _ _ => exact absurd start noStart
  | refused callback _ _ _ => exact nomatch reaches_unique start callback
  | unexchanged returns _ _ _ | unfetched returns _ _ _ _ | finished returns _ _ _ _ =>
      exact nomatch reaches_unique start returns.callback
  | unrevoked logout _ _ | revoked logout _ _ => exact nomatch reaches_unique start logout

theorem saved_of_header (conduct : gateway.Conduct request world response calls)
    (membership : header ∈ response.cookies)
    (signed : (Cookie.splitHeader header).1 = gateway.cookie.pairOf value) :
    ∃ session, header = gateway.cookie.save session ∧ SessionCookie.value session = value := by
  rcases saves_of_header conduct membership with ⟨session, rfl⟩ | revoked
  · rw [SessionCookie.splitHeader_save] at signed
    exact ⟨session, rfl, gateway.cookie.pairOf_injective signed⟩
  · -- the header that makes a browser forget carries an empty value, which no signature has
    exact absurd signed (gateway.cookie.splitHeader_revoke revoked value)

theorem save_injective {first second : ClientSession}
    (same : gateway.cookie.save first = gateway.cookie.save second) : first = second := by
  have pairs := congrArg (fun header => (Cookie.splitHeader header).1) same
  simp only [SessionCookie.splitHeader_save] at pairs
  have values := gateway.cookie.pairOf_injective pairs
  apply Option.some.inj
  rw [← SessionCookie.session?_value first, ← SessionCookie.session?_value second, values]

theorem origin_of_save (conduct : gateway.Conduct request world response calls)
    (saves : gateway.cookie.save session ∈ response.cookies) :
    (∃ address attempt, request.Reaches .startLogin ∧
      (response.status = 303 ∧ response.location = some address) ∧
      Login.Announces address attempt.state attempt.verifier.expose ∧
      session = { gateway.held request with attempt := some attempt }) ∨
    ∃ code attempt grant user, gateway.Returns request code attempt ∧
      calls = [.exchangeCode code attempt.verifier.expose, .fetchUser grant.accessToken] ∧
      world.provider.exchangeCode code attempt.verifier.expose = .ok grant ∧
      world.provider.fetchUser grant.accessToken = .ok user ∧
      session = loggedIn world.clock grant user := by
  cases conduct with
  | started start sent announces cookies =>
      rw [cookies] at saves
      have same := save_injective (List.mem_singleton.mp saves)
      exact .inl ⟨_, _, start, sent, announces, same⟩
  | finished returns exchanged fetched status cookies =>
      rw [cookies] at saves
      have same := save_injective (List.mem_singleton.mp saves)
      exact .inr ⟨_, _, _, _, returns, rfl, exchanged, fetched, same⟩
  | revoked logout known cookies =>
      rw [cookies] at saves
      exact absurd (gateway.cookie.splitHeader_save session)
        (gateway.cookie.splitHeader_revoke saves _)
  | aside _ _ bare | unstarted _ _ bare | refused _ _ _ bare | unexchanged _ _ _ bare
    | unfetched _ _ _ _ bare | unrevoked _ _ bare =>
      rw [bare] at saves
      exact absurd saves List.not_mem_nil

theorem session?_of_value (verified : gateway.cookie.value? request = some value)
    (saved : SessionCookie.value session = value) : gateway.session? request = some session := by
  unfold session? SessionCookie.read?
  rw [verified, ← saved, Option.bind_some, SessionCookie.session?_value]

theorem saved_of_session? {run earlier later : List Exchange} {exchange : Exchange}
    (conducted : gateway.Conducted run) (unforged : gateway.Unforged run)
    (split : run = earlier ++ exchange :: later)
    (holds : gateway.session? exchange.request = some session) :
    ∃ past ∈ earlier, gateway.cookie.save session ∈ past.response.cookies := by
  obtain ⟨value, verified, read⟩ := Option.bind_eq_some_iff.mp holds
  obtain ⟨past, before, header, membership, signed⟩ :=
    unforged earlier exchange later split value verified
  have conduct := conducted past (by simp [split, before])
  obtain ⟨other, saves, saved⟩ := saved_of_header conduct membership signed
  rw [← saved, SessionCookie.session?_value] at read
  cases read
  exact ⟨past, before, saves ▸ membership⟩

end Cookies

end Gateway

end GameCatalog
