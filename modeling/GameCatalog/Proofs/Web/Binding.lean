import GameCatalog.Proofs.Web.Exchange

/-!
What ties the ends of a login together.  A code is traded in only with the verifier of a login
that was begun in the same run, and only in a request that names its state; a token is used only
where it was granted or is held.
-/

namespace GameCatalog.Gateway

variable {gateway : Gateway} {exchange : Exchange}

section Calls

variable {request : Request} {world : World} {response : Response} {calls : List ProviderCall}

theorem returns_unique {firstCode secondCode : String} {first second : LoginAttempt}
    (returnsFirst : gateway.Returns request firstCode first)
    (returnsSecond : gateway.Returns request secondCode second) :
    firstCode = secondCode ∧ first = second := by
  obtain ⟨fields, read, firstPresent, -, -⟩ := returnsFirst.names
  obtain ⟨again, readAgain, secondPresent, -, -⟩ := returnsSecond.names
  cases read.symm.trans readAgain
  constructor
  · exact Option.some.inj (firstPresent.symm.trans secondPresent)
  · exact Option.some.inj (returnsFirst.began.symm.trans returnsSecond.began)

end Calls

section Returning

def bearer : TokenGrant := ⟨"bearer", "token", 60, none⟩

def ada : User := ⟨⟨7⟩, "ada"⟩

/-- A world whose identity provider grants everything. -/
def granting : World where
  store := ⟨.empty, {}⟩
  clock := 0
  symbols := ⟨[], 0⟩
  identifiers := ⟨[], 0⟩
  provider := ⟨fun _ _ => .ok bearer, fun _ => .ok ada, fun _ => .ok ()⟩

def grantingCircumstances : Circumstances := ⟨0, 0, Faults.none, granting.provider, none⟩

def secured : Gateway := ⟨⟨"https://idp.example/api/v3", "gateway"⟩, ⟨"session", [], 60, true⟩, 60⟩

/-- A browser that holds nothing begins a login. -/
def setOut : Request := { method := "GET", path := "/oauth2/code".toList }

def comeBack (session : ClientSession) (state : String) : Request where
  method := "GET"
  path := "/oauth2/callback".toList
  query := some (Form.encode [("code", "c"), ("state", state)])
  headers := [("cookie", Utf8.encode (secured.cookie.pair session))]

theorem callback_comeBack (session : ClientSession) (state : String) :
    (comeBack session state).Reaches .finishLogin := by
  have reached : Route.reached? "/oauth2/callback".toList "GET" = some (.finishLogin, []) := by
    decide +kernel
  exact ⟨[], reached⟩

theorem queryFields_comeBack (session : ClientSession) (state : String) :
    (comeBack session state).queryFields ["code", "state"] =
      .ok [("code", "c"), ("state", state)] := by
  simp [Request.queryFields, comeBack, Form.decode_encode]

theorem value?_comeBack (session : ClientSession) (state : String) :
    secured.cookie.value? (comeBack session state) = some (SessionCookie.value session) :=
  secured.cookie.value?_of_presented (by decide) rfl

theorem session?_comeBack (session : ClientSession) (state : String) :
    secured.session? (comeBack session state) = some session :=
  session?_of_value (value?_comeBack session state) rfl

theorem held_comeBack (session : ClientSession) (state : String) :
    secured.held (comeBack session state) = session := by
  unfold held
  rw [session?_comeBack]
  rfl

theorem returns_comeBack (attempt : LoginAttempt) :
    secured.Returns (comeBack { attempt := some attempt } attempt.state) "c" attempt where
  callback := callback_comeBack _ _
  names := ⟨_, queryFields_comeBack _ _, rfl, rfl, by decide⟩
  began := by rw [held_comeBack]

/-- The exchange in which the browser sets out. -/
def settingOut : Exchange := secured.exchange granting grantingCircumstances setOut

def comingBack (attempt : LoginAttempt) : Exchange :=
  secured.exchange settingOut.after grantingCircumstances
    (comeBack { attempt := some attempt } attempt.state)

theorem saves_settingOut :
    ∃ attempt, settingOut.response.cookies = [secured.cookie.save { attempt := some attempt }] := by
  have start : setOut.Reaches .startLogin := ⟨[], by decide +kernel⟩
  have one : settingOut.response.cookies.length = 1 := by decide +kernel
  have conduct : secured.Conduct setOut settingOut.before settingOut.response settingOut.calls :=
    conduct_exchange granting grantingCircumstances setOut
  rcases saves_of_start conduct start with ⟨-, none⟩ | ⟨-, attempt, saves⟩
  · rw [none] at one
    contradiction
  · exact ⟨attempt, saves⟩

theorem unforged_comingBack {attempt : LoginAttempt}
    (saves : settingOut.response.cookies = [secured.cookie.save { attempt := some attempt }]) :
    secured.Unforged [settingOut, comingBack attempt] := by
  refine @unforged_concat secured [settingOut] _ (unforged_concat unforged_nil ?_) ?_
  · intro value verified
    exact nomatch verified
  · have saved : secured.cookie.save { attempt := some attempt } ∈ settingOut.response.cookies := by
      rw [saves]
      exact List.mem_singleton_self _
    exact signed_of_save (List.mem_singleton_self settingOut) saved (value?_comeBack _ _)

end Returning

end GameCatalog.Gateway
