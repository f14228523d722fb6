import GameCatalog.Store.Basic

/-!
The ways in which the services for launchers fail.
-/

namespace GameCatalog

/-- Why a service for launchers failed. -/
inductive LauncherError where
  /-- The number of keys asked for is not allowed. -/
  | invalidKeyNumber
  | invalidEdition (id : EditionId)
  /-- The text names no status. -/
  | invalidStatus (text : String)
  /-- No active key has the given text. -/
  | invalidKey
  /-- No session has the given token. -/
  | invalidToken
  | expired
  | notFound (what : String)
  | store (reason : String)
  deriving DecidableEq, Repr

namespace LauncherError

def message : LauncherError → String
  | .invalidKeyNumber => "invalid key num"
  | .invalidEdition id => "invalid edition: " ++ id.toText
  | .invalidStatus text => "invalid key status: " ++ text
  | .invalidKey => "invalid key"
  | .invalidToken => "invalid access token"
  | .expired => "expired access token"
  | .notFound what => "not found: " ++ what
  | .store reason => "store error: " ++ reason

def ofStore : StoreError → LauncherError
  | .notFound what => .notFound what
  | error => .store error.message

end LauncherError

end GameCatalog
