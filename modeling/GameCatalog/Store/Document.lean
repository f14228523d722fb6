import GameCatalog.Model.Edition
import GameCatalog.Model.Game
import GameCatalog.Model.ProductKey
import GameCatalog.Store.Table

/-!
The document that holds everything the catalogue remembers: administrators, editions,
games, who looks after which game, product keys, and launcher sessions.  It is written
with every section present and read with any section missing.
-/

namespace GameCatalog

structure StoredKey where
  edition : EditionId
  productKey : ProductKey
  deriving DecidableEq

namespace StoredKey

/-- The stored form: one object for both parts. -/
def toJson (stored : StoredKey) : Json :=
  .object (("edition_id", .text stored.edition.toText) :: stored.productKey.toMembers)

def form : Json.Record StoredKey :=
  StoredKey.mk <$> .required "edition_id" .identifier <*>
    ProductKey.formWith KeyStatus.sharedDecoder

end StoredKey

structure StoredSession where
  productKey : ProductKeyId
  session : LauncherSession
  deriving DecidableEq

namespace StoredSession

/-- The stored form: one object for both parts. -/
def toJson (stored : StoredSession) : Json :=
  .object (("product_key_id", .text stored.productKey.toText) :: stored.session.toMembers)

def form : Json.Record StoredSession :=
  StoredSession.mk <$> .required "product_key_id" .identifier <*> LauncherSession.form

end StoredSession

structure Document where
  admins : List UserId := []
  editions : Table EditionId Edition := .empty
  games : Table GameId Game := .empty
  gameRoles : Table GameId (Table UserId GameRole) := .empty
  productKeys : Table ProductKeyId StoredKey := .empty
  launcherSessions : Table LauncherSessionId StoredSession := .empty
  deriving DecidableEq

namespace Document

def empty : Document := {}

def tableToJson {entity : Entity} {Value : Type} (write : Value → Json)
    (table : Table (Id entity) Value) : Json :=
  .object (table.entries.map fun entry => (entry.1.toText, write entry.2))

def tableDecoder {entity : Entity} {Value : Type} (value : Json.Decoder Value) :
    Json.Decoder (Table (Id entity) Value) := fun reading =>
  (Json.Decoder.pairs Id.ofText? value reading).map Table.ofList

def toJson (document : Document) : Json :=
  .object
    [("admins", .array (document.admins.map fun id => .text id.toText)),
      ("editions", tableToJson Edition.toJson document.editions),
      ("games", tableToJson Game.toJson document.games),
      ("game_roles", tableToJson (tableToJson GameRole.toJson) document.gameRoles),
      ("product_keys", tableToJson StoredKey.toJson document.productKeys),
      ("launcher_sessions", tableToJson StoredSession.toJson document.launcherSessions)]

/--
How deep values may be nested inside a record that shares its object with other
fields: the whole text has a limit of 127 levels, three of which lead to the record.
-/
def sharedDepth : Nat := 124

def form : Json.Record Document :=
  Document.mk <$>
    .withDefault "admins" (.list .identifier) [] <*>
    .withDefault "editions" (tableDecoder Edition.decoder) .empty <*>
    .withDefault "games" (tableDecoder Game.decoder) .empty <*>
    .withDefault "game_roles" (tableDecoder (tableDecoder GameRole.decoder)) .empty <*>
    .withDefault "product_keys"
      (tableDecoder (StoredKey.form.sharedDecoder sharedDepth)) .empty <*>
    .withDefault "launcher_sessions"
      (tableDecoder (StoredSession.form.sharedDecoder sharedDepth)) .empty

def decoder : Json.Decoder Document := form.decoder

def render (document : Document) : String := document.toJson.pretty

def read (text : Bytes) : Except Json.Fault Document := decoder.run text

end Document

end GameCatalog
