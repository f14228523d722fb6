import GameCatalog.Web.Guard
import GameCatalog.Web.Handler.Edition
import GameCatalog.Web.Handler.Login
import GameCatalog.Web.Route

/-!
The gateway at work.  A request is brought to its endpoint by the routes, past the
guard of the endpoint if it has one, and answered by the handler; after the answer it
is counted.
-/

namespace GameCatalog

namespace Handler

/-- Reports that the gateway is at work, and since when. -/
def health : Handler := do
  let body : Json :=
    .object [("status", .text "healthy"), ("uptime_seconds", .natural (← get).uptime)]
  return .json 200 body

def metrics : Handler :=
  return {
    status := 200
    contentType := some "text/plain; version=0.0.4; charset=utf-8"
    body := .counters (← get).observations }

end Handler

namespace Gateway

/-- The handler of an endpoint that no scheme protects. -/
def handleOpen (gateway : Gateway) (visit : Visit) : Endpoint → Handler
  | .health => Handler.health
  | .metrics => Handler.metrics
  | .startLogin => Handler.startLogin gateway visit.request
  | .finishLogin => Handler.finishLogin gateway visit.request
  | .logout => Handler.logout gateway visit.request
  | .redeem => Handler.redeem gateway visit.request
  | _ => throw (.api (.internal "endpoint without a grant"))

def handleGranted (visit : Visit) : Endpoint → Grant → Handler
  | .me, .member user => Handler.me user
  | .launcherEdition, .launcher edition => Handler.launcherEdition edition
  | .launcherGame, _ => Handler.launcherGame visit
  | .launcherFile, .launcher edition => Handler.launcherFile visit edition
  | .edition, _ => Handler.edition visit
  | .editionGames, .launcher edition => Handler.editionGames edition
  | .generateKeys, _ => Handler.generateKeys visit
  | .listKeys, _ => Handler.listKeys visit
  | .activateKey, _ => Handler.activateKey visit
  | .revokeKey, _ => Handler.revokeKey visit
  | .game, _ => Handler.game visit
  | .gameFiles, _ => Handler.gameFiles visit
  | .gameRoles, _ => Handler.gameRoles visit
  | .updateVisibility, _ => Handler.updateVisibility visit
  | _, _ => throw (.api (.internal "grant of another kind"))

def serve (gateway : Gateway) (visit : Visit) (endpoint : Endpoint) : Handler :=
  match endpoint.scheme? with
  | none => gateway.handleOpen visit endpoint
  | some scheme => do
      let grant ← gateway.guard scheme visit
      handleGranted visit endpoint grant

def conclude (handler : Handler) : StateM World Response := do
  match ← handler.run with
  | .ok response => return response
  | .error failure => return failure.toResponse

def answer (gateway : Gateway) (request : Request) : StateM World Response :=
  match Route.find? request.path with
  | none => return { status := 404 }
  | some (route, encoded) =>
      match route.endpoint? request.method with
      | none => return { status := 405, allow := some route.allow }
      | some endpoint =>
          conclude (gateway.serve ⟨request, Route.decodeParameters? encoded⟩ endpoint)

/-- The response as it is sent; the answer to `HEAD` has no body. -/
def finalize (request : Request) (response : Response) : Response :=
  if request.method = "HEAD" then { response with body := .empty } else response

def handle (gateway : Gateway) (request : Request) : StateM World Response := do
  let response ← gateway.answer request
  modify fun world =>
    { world with
      observations := world.observations ++ [.request request.method response.status] }
  return finalize request response

end Gateway

end GameCatalog
