import GameCatalog.Web.Gateway

/-!
The guard in front of a protected endpoint.  It has access checked by the scheme of
the endpoint, counts the result, and lets only those pass who were granted access.
-/

namespace GameCatalog

def CheckResult.ofCheck : Except CheckError Verdict → CheckResult
  | .ok (.granted .anonymous) => .anonymous
  | .ok (.granted _) => .granted
  | .ok (.denied (.invalidRequest _)) => .invalidRequest
  | .ok (.denied (.unauthenticated _)) => .unauthenticated
  | .ok (.denied (.forbidden _)) => .forbidden
  | .ok (.denied (.notFound _)) => .notFound
  | .error _ => .error

/-- Who may pass after a check of access, or why no one may. -/
def Grant.ofCheck : Except CheckError Verdict → Except Failure Grant
  | .ok (.granted grant) => .ok grant
  | .ok (.denied denial) => .error (.api (.ofDenial denial))
  | .error error => .error (.api (.ofCheck error))

def Gateway.guard (gateway : Gateway) (scheme : Scheme) (visit : Visit) : Job Failure Grant := do
  let world ← get
  let checked := Access.check scheme world.repository (gateway.credentials visit) world.clock
  Job.observe (.check scheme (.ofCheck checked))
  Handler.expect (Grant.ofCheck checked)

end GameCatalog
