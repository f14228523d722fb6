import GameCatalog.Digest.Sha256
import GameCatalog.Login.Error
import GameCatalog.Model.Identity
import GameCatalog.Net.Url
import GameCatalog.Text.Base64
import GameCatalog.Text.Form

/-!
Proof that the browser which ends a login is the one that began it: the identity
provider is shown the digest of a verifier at the beginning, and the verifier itself
at the end.
-/

namespace GameCatalog.Challenge

def verifierLength : Nat := 64

/-- The length of the text that ties an answer of the identity provider to an attempt. -/
def stateLength : Nat := 32

def derive (method : ChallengeMethod) (verifier : String) : String :=
  match method with
  | .s256 => String.ofList (Base64.encode Base64.urlSafe (Sha256.digest (Utf8.encode verifier)))

/-- The challenge is the one of the verifier. -/
def verify (method : ChallengeMethod) (verifier challenge : String) : Bool :=
  derive method verifier == challenge

/-- A base address without the slashes at its end. -/
def trimSlashes (base : String) : String :=
  String.ofList (base.toList.reverse.dropWhile (· == '/')).reverse

/-- Where the identity provider asks users for their consent. -/
def authorizePath : String := "/oauth2/authorize"

/-- What the identity provider is told when a login begins. -/
def parameters (clientId challenge : String) (method : ChallengeMethod) (state : String) :
    List (String × String) :=
  [("response_type", "code"), ("client_id", clientId), ("code_challenge", challenge),
    ("code_challenge_method", method.label), ("state", state)]

/-- Where a browser is sent to begin a login. -/
def authorizationUrl (base clientId challenge : String) (method : ChallengeMethod)
    (state : String) : Except LoginError String :=
  let endpoint := trimSlashes base ++ authorizePath
  match Url.ofText endpoint with
  | .ok url =>
      .ok (url.addQuery (Form.encode (parameters clientId challenge method state))).toText
  | .error error => .error (.invalidUrl (endpoint ++ ": " ++ error.message))

end GameCatalog.Challenge
