import GameCatalog.Web.Gateway
import GameCatalog.Web.View

/-!
Logging in and out.  The session cookie is set only by a response that reports
success, so a step that fails leaves the browser as it was.
-/

namespace GameCatalog.Handler

def failureResult (error : LoginError) : LoginResult :=
  if error.isClientError then .clientError else .providerError

/-- Takes the result of a login step; a failure is counted and reported. -/
def takeLogin {Value : Type} (step : LoginStep) : Except LoginError Value → Job Failure Value
  | .ok value => return value
  | .error error => do
      Job.observe (.login step (failureResult error))
      throw (Failure.ofLogin error)

/-- Begins a login: remembers the attempt and sends the browser to the identity provider. -/
def startLogin (gateway : Gateway) (request : Request) : Handler := do
  let (url, attempt) ← takeLogin .start (← (Login.start gateway.login).attempt)
  let session := (gateway.session? request).getD .empty
  Job.observe (.login .start .ok)
  return {
    status := 303
    location := some url
    cookies := [gateway.cookie.save { session with attempt := some attempt }] }

/-- Ends a login: trades the code for a session and remembers it with its user. -/
def finishLogin (gateway : Gateway) (request : Request) : Handler := do
  let fields ← expect (request.queryFields ["code", "state"])
  match (fields.lookup "code").filter (· ≠ "") with
  | none =>
      Job.observe (.login .callback .clientError)
      throw (.api (.badRequest "missing code"))
  | some code =>
      let session := (gateway.session? request).getD .empty
      let finish := Login.finish session.attempt code (fields.lookup "state") (← get).clock
      let outcome ← takeLogin .callback (← finish.attempt)
      Job.observe (.login .callback .ok)
      let next : ClientSession := ⟨some outcome.session, some outcome.user, none⟩
      return { Response.json 200 outcome.user.view with cookies := [gateway.cookie.save next] }

/-- Logs out: ends the token and makes the browser forget its session. -/
def logout (gateway : Gateway) (request : Request) : Handler := do
  let identity := (gateway.session? request).bind (·.identity)
  takeLogin .logout (← (Login.logout identity).attempt)
  Job.observe (.login .logout .ok)
  return { status := 200, cookies := gateway.cookie.revoke request (← get).clock }

def me (user : User) : Handler :=
  return .json 200 user.view

end GameCatalog.Handler
