import GameCatalog.Inspect
import GameCatalog.Json.Record
import GameCatalog.Json.Value
import GameCatalog.Time

/-!
Product keys, which are handed to players, and the launcher sessions that a player's
launcher gets in exchange for one.
-/

namespace GameCatalog

/-- Whether a product key can be redeemed. -/
inductive KeyStatus where
  | active
  | inactive
  deriving DecidableEq, Repr

namespace KeyStatus

def label : KeyStatus → String
  | .active => "active"
  | .inactive => "inactive"

/-- Every status under its name. -/
def choices : List (String × KeyStatus) :=
  [("active", .active), ("inactive", .inactive)]

def toJson (status : KeyStatus) : Json := .text status.label

def decoder : Json.Decoder KeyStatus := .alternative choices .null

/-- Reads the form it has inside a record that shares its object with other fields. -/
def sharedDecoder : Json.Decoder KeyStatus := .alternative choices .nothing

def inspect : KeyStatus → String
  | .active => "Active"
  | .inactive => "Inactive"

end KeyStatus

structure ProductKey where
  id : ProductKeyId
  key : Secret
  status : KeyStatus
  createdAt : Instant
  deriving DecidableEq

namespace ProductKey

def toMembers (productKey : ProductKey) : List (String × Json) :=
  [("id", .text productKey.id.toText), ("key", .text productKey.key.expose),
    ("status", productKey.status.toJson), ("created_at", .natural productKey.createdAt.toNat)]

def toJson (productKey : ProductKey) : Json := .object productKey.toMembers

/-- The description of the stored form, given how the status is read. -/
def formWith (status : Json.Decoder KeyStatus) : Json.Record ProductKey :=
  ProductKey.mk <$> .required "id" .identifier <*> .required "key" .secret <*>
    .required "status" status <*> .required "created_at" .natural

def decoder : Json.Decoder ProductKey := (formWith KeyStatus.decoder).decoder

def inspect (productKey : ProductKey) : String :=
  Inspect.record "LauncherCredential"
    [("id", productKey.id.inspect), ("key", productKey.key.display),
      ("status", productKey.status.inspect),
      ("created_at", Inspect.natural productKey.createdAt.toNat)]

end ProductKey

structure LauncherSession where
  id : LauncherSessionId
  accessToken : Secret
  expiresAt : Instant
  deriving DecidableEq

namespace LauncherSession

def isExpiredAt (session : LauncherSession) (now : Instant) : Bool :=
  session.expiresAt ≤ now

def toMembers (session : LauncherSession) : List (String × Json) :=
  [("id", .text session.id.toText), ("access_token", .text session.accessToken.expose),
    ("expires_at", .natural session.expiresAt.toNat)]

def toJson (session : LauncherSession) : Json := .object session.toMembers

def form : Json.Record LauncherSession :=
  LauncherSession.mk <$> .required "id" .identifier <*> .required "access_token" .secret <*>
    .required "expires_at" .natural

def decoder : Json.Decoder LauncherSession := form.decoder

def inspect (session : LauncherSession) : String :=
  Inspect.record "LauncherSession"
    [("id", session.id.inspect), ("access_token", session.accessToken.display),
      ("expires_at", Inspect.natural session.expiresAt.toNat)]

end LauncherSession

end GameCatalog
