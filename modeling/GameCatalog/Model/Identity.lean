import GameCatalog.Inspect
import GameCatalog.Json.Record
import GameCatalog.Json.Value
import GameCatalog.Time

/-!
What is known about a browser and its user: the user, the token that the identity
provider issued, a login that was begun, and the session that holds the three.
-/

namespace GameCatalog

/-- A user, as the identity provider describes one. -/
structure User where
  id : UserId
  name : String
  deriving DecidableEq

namespace User

def toJson (user : User) : Json :=
  .object [("id", .text user.id.toText), ("name", .text user.name)]

def form : Json.Record User :=
  User.mk <$> .required "id" .identifier <*> .required "name" .text

def decoder : Json.Decoder User := form.decoder

def inspect (user : User) : String :=
  Inspect.record "UserIdentity" [("id", user.id.inspect), ("name", Inspect.text user.name)]

end User

/-- A token of the identity provider, and how long it is trusted. -/
structure IdentitySession where
  accessToken : Secret
  expiresAt : Instant
  refreshToken : Option Secret
  deriving DecidableEq

namespace IdentitySession

def isExpiredAt (session : IdentitySession) (now : Instant) : Bool :=
  session.expiresAt ≤ now

def toJson (session : IdentitySession) : Json :=
  .object <|
    [("access_token", .text session.accessToken.expose),
      ("expires_at", .natural session.expiresAt.toNat)] ++
    Json.member? "refresh_token" (fun token : Secret => .text token.expose) session.refreshToken

def form : Json.Record IdentitySession :=
  IdentitySession.mk <$> .required "access_token" .secret <*>
    .required "expires_at" .natural <*> .optional "refresh_token" .secret

def decoder : Json.Decoder IdentitySession := form.decoder

def inspect (session : IdentitySession) : String :=
  Inspect.record "IdentitySession"
    [("access_token", session.accessToken.display),
      ("expires_at", Inspect.natural session.expiresAt.toNat),
      ("refresh_token", Inspect.optional Secret.display session.refreshToken)]

end IdentitySession

/-- How a challenge follows from its verifier. -/
inductive ChallengeMethod where
  /-- By the SHA-256 digest. -/
  | s256
  deriving DecidableEq, Repr

namespace ChallengeMethod

def label : ChallengeMethod → String
  | .s256 => "S256"

def decoder : Json.Decoder ChallengeMethod := .alternative [("S256", .s256)] .null

def inspect : ChallengeMethod → String
  | .s256 => "S256"

end ChallengeMethod

structure LoginAttempt where
  method : ChallengeMethod
  verifier : Secret
  state : String
  deriving DecidableEq

namespace LoginAttempt

def toJson (attempt : LoginAttempt) : Json :=
  .object
    [("method", .text attempt.method.label), ("verifier", .text attempt.verifier.expose),
      ("state", .text attempt.state)]

def form : Json.Record LoginAttempt :=
  LoginAttempt.mk <$> .required "method" ChallengeMethod.decoder <*>
    .required "verifier" .secret <*> .required "state" .text

def decoder : Json.Decoder LoginAttempt := form.decoder

def inspect (attempt : LoginAttempt) : String :=
  Inspect.record "AuthorizationState"
    [("method", attempt.method.inspect), ("verifier", attempt.verifier.display),
      ("state", Inspect.text attempt.state)]

end LoginAttempt

structure TokenGrant where
  tokenType : String
  accessToken : String
  /-- How many seconds the token is valid. -/
  expiresIn : UInt64
  refreshToken : Option String
  deriving DecidableEq

namespace TokenGrant

def toJson (grant : TokenGrant) : Json :=
  .object <|
    [("token_type", .text grant.tokenType), ("access_token", .text grant.accessToken),
      ("expires_in", .natural grant.expiresIn.toNat)] ++
    Json.member? "refresh_token" .text grant.refreshToken

def form : Json.Record TokenGrant :=
  TokenGrant.mk <$> .withDefault "token_type" .text "" <*> .required "access_token" .text <*>
    .required "expires_in" .natural <*> .optional "refresh_token" .text

def decoder : Json.Decoder TokenGrant := form.decoder

/-- The rendering for logs, which shows the tokens. -/
def inspect (grant : TokenGrant) : String :=
  Inspect.record "TokenResponse"
    [("token_type", Inspect.text grant.tokenType),
      ("access_token", Inspect.text grant.accessToken),
      ("expires_in", Inspect.natural grant.expiresIn.toNat),
      ("refresh_token", Inspect.optional Inspect.text grant.refreshToken)]

end TokenGrant

/-- All that is known about a browser between two requests. -/
structure ClientSession where
  identity : Option IdentitySession := none
  user : Option User := none
  /-- The login that was begun last, until it ends. -/
  attempt : Option LoginAttempt := none
  deriving DecidableEq

namespace ClientSession

def empty : ClientSession := {}

def toJson (session : ClientSession) : Json :=
  .object <|
    Json.member? "identity" IdentitySession.toJson session.identity ++
    Json.member? "user" User.toJson session.user ++
    Json.member? "auth_state" LoginAttempt.toJson session.attempt

def form : Json.Record ClientSession :=
  ClientSession.mk <$> .optional "identity" IdentitySession.decoder <*>
    .optional "user" User.decoder <*> .optional "auth_state" LoginAttempt.decoder

def decoder : Json.Decoder ClientSession := form.decoder

def inspect (session : ClientSession) : String :=
  Inspect.record "ClientSession"
    [("identity", Inspect.optional IdentitySession.inspect session.identity),
      ("user", Inspect.optional User.inspect session.user),
      ("auth_state", Inspect.optional LoginAttempt.inspect session.attempt)]

end ClientSession

end GameCatalog
