import GameCatalog.Access.Check
import GameCatalog.Web.Message

/-!
The errors that clients are told about.  Every error of a service becomes one of five
kinds, each with a status of its own.  An internal error keeps its details to itself:
all internal errors look alike from outside.
-/

namespace GameCatalog

inductive ApiError where
  | badRequest (message : String)
  | unauthorized (message : String)
  | forbidden (message : String)
  | notFound (message : String)
  /-- The gateway failed; the detail is for operators. -/
  | internal (detail : String)
  deriving DecidableEq, Repr

namespace ApiError

def message : ApiError → String
  | .badRequest message => message
  | .unauthorized message => message
  | .forbidden message => message
  | .notFound message => message
  | .internal detail => detail

def status : ApiError → Nat
  | .badRequest _ => 400
  | .unauthorized _ => 401
  | .forbidden _ => 403
  | .notFound _ => 404
  | .internal _ => 500

def publicMessage : ApiError → String
  | .internal _ => "internal server error"
  | error => error.message

def body (error : ApiError) : Json :=
  .object [("error", .text error.publicMessage)]

def toResponse (error : ApiError) : Response := .json error.status error.body

def ofLogin (error : LoginError) : ApiError :=
  if error.isClientError then .badRequest error.message else .internal error.message

def ofLauncher (error : LauncherError) : ApiError :=
  match error with
  | .invalidKeyNumber | .invalidStatus _ | .invalidKey => .badRequest error.message
  | .invalidToken | .expired => .unauthorized error.message
  | .invalidEdition _ | .notFound _ => .notFound error.message
  | .store _ => .internal error.message

def ofStore (error : StoreError) : ApiError :=
  match error with
  | .notFound what => .notFound (what ++ " not found")
  | .io _ | .parse _ => .internal error.message

def ofDenial : Denial → ApiError
  | .invalidRequest reason => .badRequest reason
  | .unauthenticated reason => .unauthorized reason
  | .forbidden reason => .forbidden reason
  | .notFound reason => .notFound reason

def ofCheck (error : CheckError) : ApiError := .internal error.message

end ApiError

end GameCatalog
