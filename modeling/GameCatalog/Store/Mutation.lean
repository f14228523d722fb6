import GameCatalog.Store.Basic

/-!
The mutations of the store.  Each is described by what it does to a document, and
performed by committing that.
-/

namespace GameCatalog

namespace Document

/-- Puts in an edition under its own identifier. -/
def insertEdition (document : Document) (edition : Edition) : Document :=
  { document with editions := document.editions.insert edition.id edition }

/-- Puts in a game under its own identifier. -/
def insertGame (document : Document) (game : Game) : Document :=
  { document with games := document.games.insert game.id game }

/-- Makes a user an administrator, once. -/
def grantAdmin (document : Document) (user : UserId) : Document :=
  if user ∈ document.admins then document
  else { document with admins := document.admins ++ [user] }

/-- Gives a user a role on a game, in place of the role the user had on it. -/
def setGameRole (document : Document) (game : GameId) (user : UserId) (role : GameRole) :
    Document :=
  let roles := (document.gameRoles.get? game).getD .empty
  { document with gameRoles := document.gameRoles.insert game (roles.insert user role) }

/-- Changes who may see a game. -/
def updateVisibility (document : Document) (id : GameId) (visibility : Visibility) :
    Except StoreError (Game × Document) :=
  match document.games.get? id with
  | none => .error (.notFound ("game " ++ id.toText))
  | some game =>
      let game := { game with visibility }
      .ok (game, { document with games := document.games.insert id game })

/-- Puts in product keys of an edition, each under its own identifier. -/
def insertProductKeys (document : Document) (edition : EditionId) (keys : List ProductKey) :
    Document :=
  { document with
    productKeys := keys.foldl (fun table key => table.insert key.id ⟨edition, key⟩)
      document.productKeys }

def updateProductKeyStatus (document : Document) (id : ProductKeyId) (status : KeyStatus) :
    Except StoreError (Unit × Document) :=
  match document.productKeys.get? id with
  | none => .error (.notFound ("product key " ++ id.toText))
  | some stored =>
      let stored := { stored with productKey := { stored.productKey with status } }
      .ok ((), { document with productKeys := document.productKeys.insert id stored })

/-- Puts in a launcher session under its own identifier. -/
def insertLauncherSession (document : Document) (productKey : ProductKeyId)
    (session : LauncherSession) : Document :=
  { document with
    launcherSessions := document.launcherSessions.insert session.id ⟨productKey, session⟩ }

def dropExpiredSessions (document : Document) (now : Instant) : Document :=
  { document with
    launcherSessions :=
      document.launcherSessions.filter fun stored => !stored.session.isExpiredAt now }

end Document

namespace Store

def insertEdition (store : Store) (edition : Edition) : Outcome Unit :=
  store.commitTotal (·.insertEdition edition)

def insertGame (store : Store) (game : Game) : Outcome Unit :=
  store.commitTotal (·.insertGame game)

def grantAdmin (store : Store) (user : UserId) : Outcome Unit :=
  store.commitTotal (·.grantAdmin user)

def setGameRole (store : Store) (game : GameId) (user : UserId) (role : GameRole) :
    Outcome Unit :=
  store.commitTotal (·.setGameRole game user role)

/-- Changes who may see a game and returns the game. -/
def updateVisibility (store : Store) (id : GameId) (visibility : Visibility) : Outcome Game :=
  store.commit (·.updateVisibility id visibility)

def saveProductKeys (store : Store) (edition : EditionId) (keys : List ProductKey) :
    Outcome Unit :=
  store.commitTotal (·.insertProductKeys edition keys)

def updateProductKeyStatus (store : Store) (id : ProductKeyId) (status : KeyStatus) :
    Outcome Unit :=
  store.commit (·.updateProductKeyStatus id status)

def saveLauncherSession (store : Store) (productKey : ProductKeyId)
    (session : LauncherSession) : Outcome Unit :=
  store.commitTotal (·.insertLauncherSession productKey session)

/-- Removes the launcher sessions that are over; nothing is written when there are none. -/
def deleteExpiredSessions (store : Store) (now : Instant) : Outcome Nat :=
  let next := store.live.dropExpiredSessions now
  let removed := store.live.launcherSessions.size - next.launcherSessions.size
  if removed = 0 then (.ok 0, store)
  else
    match store.replace next with
    | (.ok (), store) => (.ok removed, store)
    | (.error error, store) => (.error error, store)

end Store

end GameCatalog
