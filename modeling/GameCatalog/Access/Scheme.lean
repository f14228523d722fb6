/-!
The security schemes, one of which each protected route declares.
-/

namespace GameCatalog

/-- How access to a route is decided. -/
inductive Scheme where
  | member
  | admin
  /-- A member who owns the game, or an administrator. -/
  | gameOwner
  /-- A member who owns or maintains the game, or an administrator. -/
  | gameMaintainer
  /-- A member who may look at the edition. -/
  | editionManager
  | launcher
  | launcherEdition
  | launcherGame
  | launcherFile
  /-- Anyone for a public game, and a member for any game. -/
  | gameInfo
  /-- As for the game itself, for its files. -/
  | gameFiles
  deriving DecidableEq, Repr

namespace Scheme

def name : Scheme → String
  | .member => "TrapMemberAuth"
  | .admin => "AdminAuth"
  | .gameOwner => "GameOwnerAuth"
  | .gameMaintainer => "GameMaintainerAuth"
  | .editionManager => "EditionAuth"
  | .launcher => "LauncherAuth"
  | .launcherEdition => "EditionIDAuth"
  | .launcherGame => "EditionGameAuth"
  | .launcherFile => "EditionGameFileAuth"
  | .gameInfo => "GameInfoVisibilityAuth"
  | .gameFiles => "GameFileVisibilityAuth"

/-- Every scheme. -/
def all : List Scheme :=
  [.member, .admin, .gameOwner, .gameMaintainer, .editionManager, .launcher, .launcherEdition,
    .launcherGame, .launcherFile, .gameInfo, .gameFiles]

def ofName? (name : String) : Option Scheme := all.find? (·.name == name)

end Scheme

end GameCatalog
