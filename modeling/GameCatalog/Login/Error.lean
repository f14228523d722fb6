import GameCatalog.Text.Ascii

/-!
The ways in which a login or a logout fails, and which of them are the browser's doing.
-/

namespace GameCatalog

/-- Why a login step failed. -/
inductive LoginError where
  /-- The identity provider could not be reached. -/
  | unreachable (reason : String)
  | timedOut (reason : String)
  /-- The identity provider refused with a status that has no meaning of its own. -/
  | refused (status : Nat) (body : String)
  | invalidResponse (reason : String)
  /-- The address of the identity provider is no URL. -/
  | invalidUrl (reason : String)
  /-- The identity provider does not know the authorization code. -/
  | invalidStateOrCode
  /-- The identity provider does not know this client. -/
  | invalidClient (reason : String)
  /-- The identity provider does not know the token. -/
  | invalidSession
  /-- The browser has not begun a login. -/
  | noAttempt
  | stateMismatch
  /-- The browser is not logged in. -/
  | noSession
  deriving DecidableEq, Repr

namespace LoginError

def message : LoginError → String
  | .unreachable reason => "HTTP request failed: " ++ reason
  | .timedOut reason => "identity provider timed out: " ++ reason
  | .refused status body =>
      "identity provider returned " ++ String.ofList (Ascii.decimal status) ++ ": " ++ body
  | .invalidResponse reason => "invalid identity provider response: " ++ reason
  | .invalidUrl reason => "invalid identity provider URL: " ++ reason
  | .invalidStateOrCode => "invalid state or code"
  | .invalidClient reason => "invalid client: " ++ reason
  | .invalidSession => "invalid identity session"
  | .noAttempt => "no code verifier"
  | .stateMismatch => "state mismatch"
  | .noSession => "no auth session"

/-- The browser, and not the identity provider, is to blame. -/
def isClientError : LoginError → Bool
  | .invalidStateOrCode | .noAttempt | .stateMismatch | .noSession => true
  | _ => false

end LoginError

end GameCatalog
