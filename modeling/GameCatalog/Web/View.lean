import GameCatalog.Model.Edition
import GameCatalog.Model.Game
import GameCatalog.Model.Identity
import GameCatalog.Model.ProductKey

/-!
What clients are shown of the records: less than what is stored, and under names of
their own.
-/

namespace GameCatalog

/-- An edition without its games and managers. -/
def Edition.view (edition : Edition) : Json :=
  .object <|
    [("id", .text edition.id.toText), ("name", .text edition.name)] ++
    Json.member? "questionnaireUrl" .text edition.questionnaireUrl ++
    [("createdAt", .natural edition.createdAt.toNat)]

/-- A game without its files. -/
def Game.view (game : Game) : Json :=
  .object
    [("id", .text game.id.toText), ("name", .text game.name),
      ("description", .text game.description), ("visibility", game.visibility.toJson),
      ("createdAt", .natural game.createdAt.toNat)]

def GameFile.view (file : GameFile) : Json :=
  .object
    [("id", .text file.id.toText), ("fileType", .text file.fileType),
      ("entryPoint", .text file.entryPoint)]

def ProductKey.view (key : ProductKey) : Json :=
  .object
    [("id", .text key.id.toText), ("key", .text key.key.expose),
      ("status", key.status.toJson), ("createdAt", .natural key.createdAt.toNat)]

def GameRole.view (holder : UserId × GameRole) : Json :=
  .object [("userId", .text holder.1.toText), ("role", holder.2.toJson)]

def LauncherSession.view (session : LauncherSession) (seconds : Nat) : Json :=
  .object
    [("accessToken", .text session.accessToken.expose), ("expiresIn", .natural seconds)]

def User.view (user : User) : Json := user.toJson

end GameCatalog
