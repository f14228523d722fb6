import GameCatalog.Inspect
import GameCatalog.Json.Record
import GameCatalog.Json.Value
import GameCatalog.Time

/-!
Games, the files they consist of, who may see them and who looks after them.
-/

namespace GameCatalog

/-- Who may see a game. -/
inductive Visibility where
  /-- Anyone, without logging in. -/
  | «public»
  /-- Members; the game is announced. -/
  | limited
  /-- Members; the game is not announced. -/
  | «private»
  deriving DecidableEq, Repr

namespace Visibility

def label : Visibility → String
  | .public => "public"
  | .limited => "limited"
  | .private => "private"

/-- Every visibility under its name. -/
def choices : List (String × Visibility) :=
  [("public", .public), ("limited", .limited), ("private", .private)]

def toJson (visibility : Visibility) : Json := .text visibility.label

def decoder : Json.Decoder Visibility := .alternative choices .null

def inspect : Visibility → String
  | .public => "Public"
  | .limited => "Limited"
  | .private => "Private"

end Visibility

/-- A file of a game, as a launcher needs to know it. -/
structure GameFile where
  id : GameFileId
  fileType : String
  entryPoint : String
  deriving DecidableEq

namespace GameFile

def toJson (file : GameFile) : Json :=
  .object
    [("id", .text file.id.toText), ("file_type", .text file.fileType),
      ("entry_point", .text file.entryPoint)]

def form : Json.Record GameFile :=
  GameFile.mk <$> .required "id" .identifier <*> .required "file_type" .text <*>
    .required "entry_point" .text

def decoder : Json.Decoder GameFile := form.decoder

def inspect (file : GameFile) : String :=
  Inspect.record "GameFile"
    [("id", file.id.inspect), ("file_type", Inspect.text file.fileType),
      ("entry_point", Inspect.text file.entryPoint)]

end GameFile

structure Game where
  id : GameId
  name : String
  description : String
  visibility : Visibility
  files : List GameFile
  createdAt : Instant
  deriving DecidableEq

namespace Game

def toJson (game : Game) : Json :=
  .object
    [("id", .text game.id.toText), ("name", .text game.name),
      ("description", .text game.description), ("visibility", game.visibility.toJson),
      ("files", .array (game.files.map GameFile.toJson)),
      ("created_at", .natural game.createdAt.toNat)]

def form : Json.Record Game :=
  Game.mk <$> .required "id" .identifier <*> .required "name" .text <*>
    .withDefault "description" .text "" <*> .required "visibility" Visibility.decoder <*>
    .withDefault "files" (.list GameFile.decoder) [] <*> .required "created_at" .natural

def decoder : Json.Decoder Game := form.decoder

def inspect (game : Game) : String :=
  Inspect.record "Game"
    [("id", game.id.inspect), ("name", Inspect.text game.name),
      ("description", Inspect.text game.description), ("visibility", game.visibility.inspect),
      ("files", Inspect.list GameFile.inspect game.files),
      ("created_at", Inspect.natural game.createdAt.toNat)]

end Game

/-- How a user looks after a game. -/
inductive GameRole where
  | owner
  | maintainer
  deriving DecidableEq, Repr

namespace GameRole

def label : GameRole → String
  | .owner => "owner"
  | .maintainer => "maintainer"

/-- Every role under its name. -/
def choices : List (String × GameRole) :=
  [("owner", .owner), ("maintainer", .maintainer)]

def canManageRoles : GameRole → Bool
  | .owner => true
  | .maintainer => false

def canUpdateGame : GameRole → Bool
  | .owner => true
  | .maintainer => true

def toJson (role : GameRole) : Json := .text role.label

def decoder : Json.Decoder GameRole := .alternative choices .null

def inspect : GameRole → String
  | .owner => "Owner"
  | .maintainer => "Maintainer"

end GameRole

end GameCatalog
