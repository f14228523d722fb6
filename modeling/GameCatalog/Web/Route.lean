import GameCatalog.Access.Scheme
import GameCatalog.Text.Percent
import GameCatalog.Text.Split

/-!
The routes of the gateway.  A route is a template for paths with the endpoints that
serve its methods.  Paths are compared piece by piece in their encoded form; only the
pieces that fill a parameter are decoded.
-/

namespace GameCatalog

/-- What a request can be about. -/
inductive Endpoint where
  | health
  | metrics
  | startLogin
  | finishLogin
  | logout
  | me
  | redeem
  | launcherEdition
  | launcherGame
  | launcherFile
  | edition
  | editionGames
  | generateKeys
  | listKeys
  | activateKey
  | revokeKey
  | game
  | gameFiles
  | gameRoles
  | updateVisibility
  deriving DecidableEq, Repr

/-- The scheme that protects an endpoint, if one does. -/
def Endpoint.scheme? : Endpoint → Option Scheme
  | health | metrics | startLogin | finishLogin | logout | redeem => none
  | me => some .member
  | launcherEdition => some .launcher
  | launcherGame => some .launcherGame
  | launcherFile => some .launcherFile
  | edition => some .editionManager
  | editionGames => some .launcherEdition
  | generateKeys | listKeys | activateKey | revokeKey => some .admin
  | game => some .gameInfo
  | gameFiles => some .gameFiles
  | gameRoles => some .gameMaintainer
  | updateVisibility => some .gameOwner

inductive Piece where
  | literal (text : String)
  | parameter (name : String)
  deriving DecidableEq, Repr

/-- A template for paths, and the endpoints of its methods. -/
structure Route where
  template : List Piece
  endpoints : List (String × Endpoint)
  deriving DecidableEq, Repr

namespace Route

/--
The encoded parameters of a path that fits a template.  A parameter at the end is not
empty.
-/
def fill? : (template : List Piece) → List (List Char) → Option (List (String × List Char))
  | [], [] => some []
  | [], _ :: _ => none
  | _ :: _, [] => none
  | .literal text :: template, piece :: pieces =>
      if piece = text.toList then fill? template pieces else none
  | .parameter name :: template, piece :: pieces =>
      if template.isEmpty && piece.isEmpty then none
      else (fill? template pieces).map ((name, piece) :: ·)

/-- The endpoint that serves a method; what can be got can be asked for without its body. -/
def endpoint? (route : Route) (method : String) : Option Endpoint :=
  route.endpoints.lookup (if method = "HEAD" then "GET" else method)

def allow (route : Route) : String :=
  String.intercalate "," (route.endpoints.map fun entry =>
    if entry.1 = "GET" then "GET,HEAD" else entry.1)

def pieces? (path : List Char) : Option (List (List Char)) :=
  match path with
  | '/' :: rest => some (Split.on '/' rest)
  | _ => none

/-- Every route; of two that fit a path the first one counts. -/
def all : List Route :=
  [
    ⟨[.literal "health"], [("GET", .health)]⟩,
    ⟨[.literal "metrics"], [("GET", .metrics)]⟩,
    ⟨[.literal "oauth2", .literal "code"], [("GET", .startLogin)]⟩,
    ⟨[.literal "oauth2", .literal "callback"], [("GET", .finishLogin)]⟩,
    ⟨[.literal "oauth2", .literal "logout"], [("POST", .logout)]⟩,
    ⟨[.literal "users", .literal "me"], [("GET", .me)]⟩,
    ⟨[.literal "editions", .literal "authorize"], [("POST", .redeem)]⟩,
    ⟨[.literal "editions", .literal "info"], [("GET", .launcherEdition)]⟩,
    ⟨[.literal "editions", .literal "games", .parameter "gameID"], [("GET", .launcherGame)]⟩,
    ⟨[.literal "editions", .literal "files", .parameter "gameFileID"],
      [("GET", .launcherFile)]⟩,
    ⟨[.literal "editions", .parameter "editionID"], [("GET", .edition)]⟩,
    ⟨[.literal "editions", .parameter "editionID", .literal "games"],
      [("GET", .editionGames)]⟩,
    ⟨[.literal "editions", .parameter "editionID", .literal "keys"],
      [("POST", .generateKeys), ("GET", .listKeys)]⟩,
    ⟨[.literal "editions", .parameter "editionID", .literal "keys", .parameter "productKeyID",
        .literal "activate"], [("POST", .activateKey)]⟩,
    ⟨[.literal "editions", .parameter "editionID", .literal "keys", .parameter "productKeyID",
        .literal "revoke"], [("POST", .revokeKey)]⟩,
    ⟨[.literal "games", .parameter "gameID"], [("GET", .game)]⟩,
    ⟨[.literal "games", .parameter "gameID", .literal "files"], [("GET", .gameFiles)]⟩,
    ⟨[.literal "games", .parameter "gameID", .literal "roles"], [("GET", .gameRoles)]⟩,
    ⟨[.literal "games", .parameter "gameID", .literal "visibility"],
      [("PATCH", .updateVisibility)]⟩]

/-- The route of a path, and the encoded parameters of the path. -/
def find? (path : List Char) : Option (Route × List (String × List Char)) := do
  let pieces ← pieces? path
  all.findSome? fun route => (fill? route.template pieces).map (route, ·)

/-- The text of an encoded parameter, if it is text. -/
def decodeParameter? (encoded : List Char) : Option String :=
  Utf8.decode? (Percent.decode (Utf8.encodeChars encoded))

/-- The texts of encoded parameters, if all of them are text. -/
def decodeParameters? (encoded : List (String × List Char)) : Option (List (String × String)) :=
  encoded.mapM fun parameter => (decodeParameter? parameter.2).map (parameter.1, ·)

end Route

end GameCatalog
