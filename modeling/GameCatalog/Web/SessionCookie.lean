import GameCatalog.Model.Identity
import GameCatalog.Web.Cookie

/-!
The cookie that holds a client session.  The session is written as JSON in base 64 and
signed; a cookie that does not verify, or does not hold a session, counts as no cookie.
-/

namespace GameCatalog

/-- How session cookies are made and recognised. -/
structure SessionCookie where
  name : String
  key : Bytes
  /-- How long browsers keep the cookie, in seconds. -/
  maxAge : Nat
  /-- Browsers send the cookie over encrypted connections only. -/
  secure : Bool

namespace SessionCookie

/-- The greatest number of seconds that a cookie can be kept. -/
def longestAge : Nat := 0x7FFFFFFFFFFFFFFF

def secretTooShort : String := "session secret must be at least 32 bytes"

/-- The session cookie that is signed with a secret, unless the secret is too short. -/
def ofSecret (secret name : String) (maxAge : Nat) (secure : Bool) :
    Except String SessionCookie :=
  if Utf8.size secret < Secret.minLength then .error secretTooShort
  else .ok ⟨name, Cookie.signingKey (Utf8.encode secret), min maxAge longestAge, secure⟩

def value (session : ClientSession) : String :=
  String.ofList (Base64.encode Base64.urlSafe (Utf8.encode session.toJson.compact))

def session? (value : String) : Option ClientSession := do
  let octets ← Base64.decode? Base64.urlSafe value.toList
  (ClientSession.decoder.run octets).toOption

/-- The value of the last cookie of this name that verifies. -/
def value? (cookie : SessionCookie) (request : Request) : Option String :=
  ((Cookie.ofRequest request).filterMap fun (name, signed) =>
    if name = cookie.name then Cookie.verify? cookie.key signed else none).getLast?

def read? (cookie : SessionCookie) (request : Request) : Option ClientSession :=
  (cookie.value? request).bind session?

/-- The name with a signed value, as a browser sends it. -/
def pairOf (cookie : SessionCookie) (value : String) : String :=
  Cookie.encodePair cookie.name (Cookie.sign cookie.key value)

/-- The name with the value that holds a session, as a browser sends it. -/
def pair (cookie : SessionCookie) (session : ClientSession) : String :=
  cookie.pairOf (value session)

def save (cookie : SessionCookie) (session : ClientSession) : String :=
  cookie.pair session ++ Cookie.keptAttributes cookie.secure cookie.maxAge

/-- The header that makes a browser forget its session, if the request brought one. -/
def revoke (cookie : SessionCookie) (request : Request) (now : Instant) : List String :=
  match cookie.value? request with
  | some _ => [Cookie.encodePair cookie.name "" ++ Cookie.removedAttributes now]
  | none => []

end SessionCookie

end GameCatalog
