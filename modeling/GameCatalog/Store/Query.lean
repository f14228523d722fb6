import GameCatalog.Store.Basic

/-!
The questions that a document answers.  Lists come in an order of their own, whatever
the order of the entries in the document is.
-/

namespace GameCatalog

/-- A launcher session together with the key it was given for and the edition of the key. -/
structure LauncherAccess where
  session : LauncherSession
  productKey : ProductKey
  edition : Edition
  deriving DecidableEq

namespace Document

def isAdmin (document : Document) (user : UserId) : Bool :=
  document.admins.contains user

def gameRole (document : Document) (game : GameId) (user : UserId) : Option GameRole :=
  (document.gameRoles.get? game).bind (·.get? user)

/-- The users with a role on a game, in the order of their identifiers. -/
def gameManagers (document : Document) (game : GameId) : List (UserId × GameRole) :=
  match document.gameRoles.get? game with
  | none => []
  | some roles => roles.entries.mergeSort fun first second => !second.1.precedes first.1

/-- The user may look at the edition. -/
def hasEditionAccess (document : Document) (edition : EditionId) (user : UserId) : Bool :=
  match document.editions.get? edition with
  | none => false
  | some edition => edition.managers.contains user

/-- The first key was created before the second one; of one instant, identifiers decide. -/
def keyPrecedes (first second : ProductKey) : Bool :=
  first.createdAt < second.createdAt ||
    (first.createdAt == second.createdAt && first.id.precedes second.id)

/-- The keys of an edition with one of the given statuses, oldest first. -/
def listProductKeys (document : Document) (edition : EditionId) (statuses : List KeyStatus) :
    List ProductKey :=
  ((document.productKeys.values.filter fun stored =>
      stored.edition = edition && statuses.contains stored.productKey.status).map
    StoredKey.productKey).mergeSort fun first second => !keyPrecedes second first

def findProductKey (document : Document) (text : String) : Option ProductKey :=
  (document.productKeys.search fun stored => stored.productKey.key.expose = text).map
    StoredKey.productKey

/--
What the session with the given token gives access to.  A session whose key or edition
is gone gives access to nothing.
-/
def findLauncherSession (document : Document) (token : String) : Option LauncherAccess := do
  let stored ← document.launcherSessions.search fun stored =>
    stored.session.accessToken.expose = token
  let key ← document.productKeys.get? stored.productKey
  let edition ← document.editions.get? key.edition
  return ⟨stored.session, key.productKey, edition⟩

end Document

/-- The operations of the repository, by which they can be told to fail. -/
inductive Operation where
  | getEdition
  | getGame
  | updateVisibility
  | isAdmin
  | gameRole
  | gameManagers
  | editionAccess
  | saveProductKeys
  | listProductKeys
  | getProductKey
  | findProductKey
  | updateProductKeyStatus
  | saveLauncherSession
  | findLauncherSession
  | deleteExpiredSessions
  deriving DecidableEq, Repr

/-- The operations that fail at present, and how. -/
abbrev Faults := Operation → Option StoreError

/-- No operation fails. -/
def Faults.none : Faults := fun _ => .none

/-- What can be read: a document, seen through operations that may fail. -/
structure Repository where
  document : Document
  faults : Faults

namespace Repository

/-- The answer of an operation, unless the operation fails. -/
def answer {Value : Type} (repository : Repository) (operation : Operation)
    (question : Document → Value) : Except StoreError Value :=
  match repository.faults operation with
  | some error => .error error
  | none => .ok (question repository.document)

def getEdition (repository : Repository) (id : EditionId) :
    Except StoreError (Option Edition) :=
  repository.answer .getEdition (·.editions.get? id)

def getGame (repository : Repository) (id : GameId) : Except StoreError (Option Game) :=
  repository.answer .getGame (·.games.get? id)

def isAdmin (repository : Repository) (user : UserId) : Except StoreError Bool :=
  repository.answer .isAdmin (·.isAdmin user)

def gameRole (repository : Repository) (game : GameId) (user : UserId) :
    Except StoreError (Option GameRole) :=
  repository.answer .gameRole (·.gameRole game user)

def gameManagers (repository : Repository) (game : GameId) :
    Except StoreError (List (UserId × GameRole)) :=
  repository.answer .gameManagers (·.gameManagers game)

/-- The user may look at the edition. -/
def hasEditionAccess (repository : Repository) (edition : EditionId) (user : UserId) :
    Except StoreError Bool :=
  repository.answer .editionAccess (·.hasEditionAccess edition user)

/-- The keys of an edition with one of the given statuses. -/
def listProductKeys (repository : Repository) (edition : EditionId)
    (statuses : List KeyStatus) : Except StoreError (List ProductKey) :=
  repository.answer .listProductKeys (·.listProductKeys edition statuses)

def getProductKey (repository : Repository) (id : ProductKeyId) :
    Except StoreError (Option StoredKey) :=
  repository.answer .getProductKey (·.productKeys.get? id)

def findProductKey (repository : Repository) (text : String) :
    Except StoreError (Option ProductKey) :=
  repository.answer .findProductKey (·.findProductKey text)

def findLauncherSession (repository : Repository) (token : String) :
    Except StoreError (Option LauncherAccess) :=
  repository.answer .findLauncherSession (·.findLauncherSession token)

end Repository

end GameCatalog
