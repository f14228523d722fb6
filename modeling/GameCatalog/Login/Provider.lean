import GameCatalog.Login.Challenge

/-!
The identity provider.  A login needs three things of it: a token for an authorization
code, the user behind a token, and the end of a token.  `ProviderClient` gets them over
HTTP: it says what is sent, and what an exchange that took place amounts to.
-/

namespace GameCatalog

structure Provider where
  exchangeCode : (code verifier : String) → Except LoginError TokenGrant
  fetchUser : (accessToken : String) → Except LoginError User
  revoke : (accessToken : String) → Except LoginError Unit

inductive ProviderCall where
  | exchangeCode (code verifier : String)
  | fetchUser (accessToken : String)
  | revoke (accessToken : String)
  deriving DecidableEq, Repr

structure ProviderRequest where
  method : String
  url : Url
  authorization : Option String
  /-- The form that is sent, if any. -/
  form : Option (List (String × String))
  deriving DecidableEq, Repr

namespace ProviderRequest

def body (request : ProviderRequest) : String :=
  String.ofList ((request.form.map Form.encode).getD [])

end ProviderRequest

/-- A response of the identity provider; the body may break off. -/
structure ProviderResponse where
  status : Nat
  body : Option Bytes
  deriving DecidableEq, Repr

/-- How an exchange with the identity provider ended. -/
inductive ProviderExchange where
  | answered (response : ProviderResponse)
  /-- No response came; the connection could not be made, or was dropped. -/
  | failed
  /-- No response came in time. -/
  | timedOut
  deriving DecidableEq, Repr

/-- How the identity provider is reached over HTTP. -/
structure ProviderClient where
  base : String
  clientId : String

namespace ProviderClient

/-- Where codes are exchanged for tokens. -/
def tokenPath : String := "/oauth2/token"

/-- Where tokens are ended. -/
def revokePath : String := "/oauth2/revoke"

/-- Where the user behind a token is described. -/
def userPath : String := "/users/me"

/-- The text of a request that could not be put together. -/
def unbuildable : LoginError := .unreachable "builder error"

/--
The URL of a path of the provider.  User information in the base URL is taken out of it.  It would
be sent in an authorization header of its own, which is left out of the model: the requests below
have the headers of a base URL without user information.
-/
def endpoint (client : ProviderClient) (path : String) : Except LoginError Url :=
  match Url.ofText (Challenge.trimSlashes client.base ++ path) with
  | .ok url => .ok url.withoutUser
  | .error _ => .error unbuildable

/-- The octet may stand in the value of a header. -/
def mayStandInHeader (octet : UInt8) : Bool :=
  octet = 0x09 || (0x20 ≤ octet && octet ≠ 0x7F)

def exchangeRequest (client : ProviderClient) (code verifier : String) :
    Except LoginError ProviderRequest := do
  return ⟨"POST", ← client.endpoint tokenPath, none,
    some [("grant_type", "authorization_code"), ("client_id", client.clientId), ("code", code),
      ("code_verifier", verifier)]⟩

def userRequest (client : ProviderClient) (accessToken : String) :
    Except LoginError ProviderRequest := do
  let url ← client.endpoint userPath
  if (Utf8.encode accessToken).all mayStandInHeader then
    return ⟨"GET", url, some ("Bearer " ++ accessToken), none⟩
  else throw unbuildable

def revokeRequest (client : ProviderClient) (accessToken : String) :
    Except LoginError ProviderRequest := do
  return ⟨"POST", ← client.endpoint revokePath, none, some [("token", accessToken)]⟩

/-- The text of an exchange in which no response came. -/
def sendingFailed (request : ProviderRequest) : String :=
  "error sending request for url (" ++ request.url.toText ++ ")"

/-- The text of a response whose body could not be read. -/
def decodingFailed (request : ProviderRequest) : String :=
  "error decoding response body for url (" ++ request.url.toText ++ ")"

/-- The response of an exchange, if one came. -/
def response (request : ProviderRequest) : ProviderExchange → Except LoginError ProviderResponse
  | .answered response => .ok response
  | .failed => .error (.unreachable (sendingFailed request))
  | .timedOut => .error (.timedOut (sendingFailed request))

def isSuccess (status : Nat) : Bool := 200 ≤ status && status < 300

def bodyText (response : ProviderResponse) : String :=
  match response.body with
  | some octets => Utf8.decodeLossy octets
  | none => "<no body>"

def bodyValue {Value : Type} (decoder : Json.Decoder Value) (what : String)
    (request : ProviderRequest) (response : ProviderResponse) : Except LoginError Value :=
  match response.body.map decoder.run with
  | some (.ok value) => .ok value
  | _ => .error (.invalidResponse (what ++ ": " ++ decodingFailed request))

def readToken (request : ProviderRequest) (exchange : ProviderExchange) :
    Except LoginError TokenGrant := do
  let response ← response request exchange
  if isSuccess response.status then
    bodyValue TokenGrant.decoder "token response" request response
  else if response.status = 400 then throw .invalidStateOrCode
  else if response.status = 401 then throw (.invalidClient (bodyText response))
  else throw (.refused response.status (bodyText response))

def readUser (request : ProviderRequest) (exchange : ProviderExchange) :
    Except LoginError User := do
  let response ← response request exchange
  if response.status = 401 then throw .invalidSession
  else if isSuccess response.status then
    bodyValue User.decoder "user info" request response
  else throw (.refused response.status (bodyText response))

def readRevocation (request : ProviderRequest) (exchange : ProviderExchange) :
    Except LoginError Unit := do
  let response ← response request exchange
  if isSuccess response.status then return ()
  else throw (.refused response.status (bodyText response))

def toProvider (client : ProviderClient) (network : ProviderRequest → ProviderExchange) :
    Provider where
  exchangeCode code verifier := do
    let request ← client.exchangeRequest code verifier
    readToken request (network request)
  fetchUser accessToken := do
    let request ← client.userRequest accessToken
    readUser request (network request)
  revoke accessToken := do
    let request ← client.revokeRequest accessToken
    readRevocation request (network request)

end ProviderClient

end GameCatalog
