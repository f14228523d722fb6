import GameCatalog.Web.Gateway
import GameCatalog.Web.View

/-!
Showing games, their files and those who look after them, and changing who may see a
game.
-/

namespace GameCatalog.Handler

def ask {Result : Type} (question : Repository → Except StoreError Result) :
    Job Failure Result :=
  (Job.ask question).mapError .ofStore

def loadGame (id : GameId) : Job Failure Game := do
  match ← ask (·.getGame id) with
  | some game => return game
  | none => throw (.api (.notFound "game not found"))

def game (visit : Visit) : Handler := do
  let game ← loadGame (← expect (visit.parameters.identifier "gameID"))
  return .json 200 game.view

def gameFiles (visit : Visit) : Handler := do
  let game ← loadGame (← expect (visit.parameters.identifier "gameID"))
  return .json 200 (.array (game.files.map GameFile.view))

/-- Shows who looks after the game that the path names. -/
def gameRoles (visit : Visit) : Handler := do
  let id ← expect (visit.parameters.identifier "gameID")
  let _ ← loadGame id
  let managers ← ask (·.gameManagers id)
  return .json 200 (.array (managers.map GameRole.view))

/-- The description of a request to change who may see a game. -/
def visibilityForm : Json.Record Visibility := .required "visibility" Visibility.decoder

/-- Changes who may see the game that the path names. -/
def updateVisibility (visit : Visit) : Handler := do
  let id ← expect (visit.parameters.identifier "gameID")
  let visibility ← expect (visit.request.jsonBody visibilityForm.decoder)
  let game ← (Job.mutate .updateVisibility (·.updateVisibility id visibility)).mapError .ofStore
  return .json 200 game.view

end GameCatalog.Handler
