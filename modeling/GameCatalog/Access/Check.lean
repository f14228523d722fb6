import GameCatalog.Launcher.Service
import GameCatalog.Login.Flow

/-!
The decision about access.  `check` looks at the credentials of a request, the
parameters of its path and the repository, and grants access, denies it with a reason,
or fails because something could not be looked up.
-/

namespace GameCatalog

inductive Grant where
  | member (user : User)
  | launcher (edition : Edition)
  | anonymous
  deriving DecidableEq

/-- Why access was denied. -/
inductive Denial where
  | invalidRequest (reason : String)
  | unauthenticated (reason : String)
  | forbidden (reason : String)
  | notFound (reason : String)
  deriving DecidableEq, Repr

namespace Denial

def reason : Denial → String
  | .invalidRequest reason => reason
  | .unauthenticated reason => reason
  | .forbidden reason => reason
  | .notFound reason => reason

end Denial

inductive Verdict where
  | granted (grant : Grant)
  | denied (denial : Denial)
  deriving DecidableEq

/-- Why no decision was made. -/
inductive CheckError where
  /-- The route has no such parameter in its path. -/
  | missingParameter (name : String)
  /-- Something could not be looked up. -/
  | lookup (reason : String)
  deriving DecidableEq, Repr

def CheckError.message : CheckError → String
  | .missingParameter name => "route has no path parameter " ++ name
  | .lookup reason => "lookup failed: " ++ reason

structure Credentials where
  session : Option ClientSession := none
  authorization : Option String := none
  /-- The parameters of the path, by name. -/
  parameters : List (String × String) := []

namespace Access

/-- What ends a decision before access is granted. -/
inductive Stop where
  | denied (denial : Denial)
  | failed (error : CheckError)
  deriving DecidableEq

abbrev Decision (Value : Type) := Except Stop Value

def deny {Value : Type} (denial : Denial) : Decision Value := .error (.denied denial)

/-- The answer of the repository, without which no decision is made. -/
def lookUp {Value : Type} : Except StoreError Value → Decision Value
  | .ok value => .ok value
  | .error error => .error (.failed (.lookup error.message))

/-- The denial of those who show no valid token. -/
def noAccessToken : Denial := .unauthenticated "no access token"

def member (session : Option ClientSession) (now : Instant) : Except Denial User :=
  match Authentication.ofSession (session.bind (·.identity)) now with
  | .valid =>
      match session.bind (·.user) with
      | some user => .ok user
      | none => .error noAccessToken
  | .expired => .error noAccessToken
  | .noSession => .error noAccessToken

/-- The member who is logged in; anyone else is denied. -/
def requireMember (credentials : Credentials) (now : Instant) : Decision User :=
  match member credentials.session now with
  | .ok user => .ok user
  | .error denial => deny denial

def pathId (entity : Entity) (credentials : Credentials) (name : String) :
    Decision (Id entity) :=
  match credentials.parameters.lookup name with
  | none => .error (.failed (.missingParameter name))
  | some text =>
      match Id.ofText? text with
      | some id => .ok id
      | none => deny (.invalidRequest ("invalid " ++ name))

def admin (repository : Repository) (credentials : Credentials) (now : Instant) :
    Decision Grant := do
  let user ← requireMember credentials now
  if ← lookUp (repository.isAdmin user.id) then return .member user
  else deny (.forbidden "you are not admin")

def gameRole (allows : GameRole → Bool) (reason : String) (repository : Repository)
    (credentials : Credentials) (now : Instant) : Decision Grant := do
  let user ← requireMember credentials now
  let game ← pathId .game credentials "gameID"
  if ← lookUp (repository.isAdmin user.id) then return .member user
  match ← lookUp (repository.gameRole game user.id) with
  | some role => if allows role then return .member user else deny (.forbidden reason)
  | none => deny (.forbidden reason)

/-- Decides for members who may look at the edition. -/
def editionManager (repository : Repository) (credentials : Credentials) (now : Instant) :
    Decision Grant := do
  let user ← requireMember credentials now
  let edition ← pathId .edition credentials "editionID"
  if ← lookUp (repository.hasEditionAccess edition user.id) then return .member user
  else deny (.forbidden "you have no access to this edition")

def bearer : List Char := "Bearer ".toList

def launcher (repository : Repository) (credentials : Credentials) (now : Instant) :
    Decision Edition :=
  match credentials.authorization with
  | none => deny noAccessToken
  | some header =>
      match Split.afterPrefix? bearer header.toList with
      | none => deny (.invalidRequest "invalid authorization header")
      | some characters =>
          let token := String.ofList characters
          if !AccessToken.isValid token then deny (.unauthenticated "invalid access token")
          else
            match repository.validateSession token now with
            | .ok access => .ok access.edition
            | .error .invalidToken => deny (.unauthenticated "invalid access token")
            | .error .expired => deny (.unauthenticated "expired access token")
            | .error error => .error (.failed (.lookup error.message))

def launcherEdition (repository : Repository) (credentials : Credentials) (now : Instant) :
    Decision Grant := do
  let edition ← launcher repository credentials now
  let wanted ← pathId .edition credentials "editionID"
  if edition.id = wanted then return .launcher edition
  else deny (.forbidden "invalid edition id")

def launcherGame (repository : Repository) (credentials : Credentials) (now : Instant) :
    Decision Grant := do
  let edition ← launcher repository credentials now
  let game ← pathId .game credentials "gameID"
  if game ∈ edition.gameIds then return .launcher edition
  else deny (.forbidden "game is not in this edition")

/-- Whether one of the games listed has the file. -/
def hasFile (repository : Repository) (file : GameFileId) : List GameId → Except StoreError Bool
  | [] => .ok false
  | id :: ids => do
      match ← repository.getGame id with
      | none => hasFile repository file ids
      | some game =>
          if game.files.any (·.id = file) then return true else hasFile repository file ids

def launcherFile (repository : Repository) (credentials : Credentials) (now : Instant) :
    Decision Grant := do
  let edition ← launcher repository credentials now
  let file ← pathId .gameFile credentials "gameFileID"
  if ← lookUp (hasFile repository file edition.gameIds) then return .launcher edition
  else deny (.forbidden "game file is not in this edition")

/-- Decides for members, and for a public game also for everyone else. -/
def visibility (repository : Repository) (credentials : Credentials) (now : Instant) :
    Decision Grant := do
  let id ← pathId .game credentials "gameID"
  let some game ← lookUp (repository.getGame id) | deny (.notFound "game not found")
  match member credentials.session now with
  | .ok user => return .member user
  | .error denial => if game.visibility = .public then return .anonymous else deny denial

def decide (scheme : Scheme) (repository : Repository) (credentials : Credentials)
    (now : Instant) : Decision Grant :=
  match scheme with
  | .member => (requireMember credentials now).map Grant.member
  | .admin => admin repository credentials now
  | .gameOwner =>
      gameRole GameRole.canManageRoles "you are not owner of this game" repository credentials now
  | .gameMaintainer =>
      gameRole GameRole.canUpdateGame "you are not maintainer of this game" repository
        credentials now
  | .editionManager => editionManager repository credentials now
  | .launcher => (launcher repository credentials now).map Grant.launcher
  | .launcherEdition => launcherEdition repository credentials now
  | .launcherGame => launcherGame repository credentials now
  | .launcherFile => launcherFile repository credentials now
  | .gameInfo | .gameFiles => visibility repository credentials now

def check (scheme : Scheme) (repository : Repository) (credentials : Credentials)
    (now : Instant) : Except CheckError Verdict :=
  match decide scheme repository credentials now with
  | .ok grant => .ok (.granted grant)
  | .error (.denied denial) => .ok (.denied denial)
  | .error (.failed error) => .error error

end Access

end GameCatalog
