import GameCatalog.Net.Address
import GameCatalog.Web.Handler.Game

/-!
Showing editions to their managers and to launchers, and handling the product keys
that unlock them.
-/

namespace GameCatalog.Handler

def serve {Result : Type} (job : Job LauncherError Result) : Job Failure Result :=
  job.mapError .ofLauncher

def redeemForm : Json.Record String := .required "key" .text

def redemptionFailure : LauncherError → RedemptionResult
  | .invalidKey => .invalidKey
  | _ => .error

def redeem (gateway : Gateway) (request : Request) : Handler := do
  let key ← expect (request.jsonBody redeemForm.decoder)
  match ← (Launcher.redeem gateway.sessionSeconds (Blank.trim key)).attempt with
  | .ok session =>
      Job.observe (.redemption .ok)
      return .json 201 (session.view gateway.sessionSeconds)
  | .error error =>
      Job.observe (.redemption (redemptionFailure error))
      throw (Failure.ofLauncher error)

def launcherEdition (edition : Edition) : Handler :=
  return .json 200 edition.view

def launcherGame (visit : Visit) : Handler := game visit

/-- The file of the first game, of those listed, that has it. -/
def findFile (repository : Repository) (file : GameFileId) :
    List GameId → Except StoreError (Option GameFile)
  | [] => .ok none
  | id :: ids => do
      match ← repository.getGame id with
      | none => findFile repository file ids
      | some game =>
          match game.files.find? (·.id = file) with
          | some found => return some found
          | none => findFile repository file ids

def launcherFile (visit : Visit) (edition : Edition) : Handler := do
  let id ← expect (visit.parameters.identifier "gameFileID")
  match ← ask fun repository => findFile repository id edition.gameIds with
  | some file => return .json 200 file.view
  | none => throw (.api (.notFound "game file not found"))

/-- Those of the listed games that exist, in order. -/
def existingGames (repository : Repository) : List GameId → Except StoreError (List Game)
  | [] => .ok []
  | id :: ids => do
      match ← repository.getGame id with
      | some game => return game :: (← existingGames repository ids)
      | none => existingGames repository ids

def editionGames (edition : Edition) : Handler := do
  let games ← ask fun repository => existingGames repository edition.gameIds
  return .json 200 (.array (games.map Game.view))

def edition (visit : Visit) : Handler := do
  match ← ask (·.getEdition (← expect (visit.parameters.identifier "editionID"))) with
  | some edition => return .json 200 edition.view
  | none => throw (.api (.notFound "edition not found"))

/-- The number that a text spells, if it is below 2^64; a plus sign may stand before it. -/
def readCount? (text : String) : Option Nat := do
  let digits := (Split.afterPrefix? ['+'] text.toList).getD text.toList
  (← Digits.read? 10 digits) |> fun count => if count < UInt64.size then some count else none

def generateKeys (visit : Visit) : Handler := do
  let edition ← expect (visit.parameters.identifier "editionID")
  let fields ← expect (visit.request.queryFields ["num"])
  match (fields.lookup "num").bind readCount? with
  | none => throw (Failure.ofLauncher .invalidKeyNumber)
  | some count =>
      let keys ← serve (Launcher.generateKeys edition count)
      return .json 201 (.array (keys.map ProductKey.view))

/-- Shows the product keys of an edition, or those with one status. -/
def listKeys (visit : Visit) : Handler := do
  let edition ← expect (visit.parameters.identifier "editionID")
  let fields ← expect (visit.request.queryFields ["status"])
  let status ←
    match fields.lookup "status" with
    | none => pure none
    | some text => expect (((KeyStatus.parse text).mapError Failure.ofLauncher).map some)
  let keys ← serve (Launcher.listKeys edition status)
  return .json 200 (.array (keys.map ProductKey.view))

def switchKey (switch : EditionId → ProductKeyId → Job LauncherError ProductKey)
    (visit : Visit) : Handler := do
  let edition ← expect (visit.parameters.identifier "editionID")
  let id ← expect (visit.parameters.identifier "productKeyID")
  let key ← serve (switch edition id)
  return .json 200 key.view

def activateKey : Visit → Handler := switchKey Launcher.activate

def revokeKey : Visit → Handler := switchKey Launcher.revoke

end GameCatalog.Handler
