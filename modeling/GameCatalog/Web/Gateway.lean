import GameCatalog.Login.Flow
import GameCatalog.Web.Rejection
import GameCatalog.Web.SessionCookie

/-!
What the gateway is told when it is set up, and what a handler is told about the
request it serves.
-/

namespace GameCatalog

/-- How a gateway is set up. -/
structure Gateway where
  login : Login.Settings
  cookie : SessionCookie
  /-- How long launcher sessions last, in seconds. -/
  sessionSeconds : Nat

structure Visit where
  request : Request
  parameters : Parameters

namespace Gateway

def session? (gateway : Gateway) (request : Request) : Option ClientSession :=
  gateway.cookie.read? request

/-- What a request shows of itself; parameters that are no text are not seen. -/
def credentials (gateway : Gateway) (visit : Visit) : Credentials where
  session := gateway.session? visit.request
  authorization := visit.request.header? "authorization"
  parameters := visit.parameters.getD []

end Gateway

abbrev Handler := Job Failure Response

namespace Handler

/-- Takes what was read of a request, or refuses to serve it. -/
def expect {Value : Type} : Except Failure Value → Job Failure Value
  | .ok value => return value
  | .error failure => throw failure

end Handler

end GameCatalog
