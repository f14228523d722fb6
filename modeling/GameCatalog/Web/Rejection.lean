import GameCatalog.Json.Record
import GameCatalog.Text.Form
import GameCatalog.Web.ApiError
import GameCatalog.Web.MediaType

/-!
Reading the parts of a request.  A part that cannot be read ends the request with a
rejection, which is answered by a plain text.
-/

namespace GameCatalog

/-- Why a part of a request could not be read. -/
inductive Rejection where
  /-- A parameter of the path does not fit. -/
  | path
  /-- The query does not fit. -/
  | query
  /-- The body is not announced as JSON. -/
  | mediaType
  | tooLong
  /-- The body is not JSON. -/
  | malformedBody
  /-- The body is JSON, but does not fit. -/
  | mismatchedBody
  deriving DecidableEq, Repr

namespace Rejection

def status : Rejection → Nat
  | .path | .query | .malformedBody => 400
  | .tooLong => 413
  | .mediaType => 415
  | .mismatchedBody => 422

def message : Rejection → String
  | .path => "Invalid URL"
  | .query => "Failed to deserialize query string"
  | .mediaType => "Expected request with \x60Content-Type: application/json\x60"
  | .tooLong => "Failed to buffer the request body: length limit exceeded"
  | .malformedBody => "Failed to parse the request body as JSON"
  | .mismatchedBody => "Failed to deserialize the JSON body into the target type"

def toResponse (rejection : Rejection) : Response := .text rejection.status rejection.message

end Rejection

/-- Why a request was not served. -/
inductive Failure where
  | api (error : ApiError)
  | rejected (rejection : Rejection)
  deriving DecidableEq, Repr

namespace Failure

def toResponse : Failure → Response
  | .api error => error.toResponse
  | .rejected rejection => rejection.toResponse

def ofStore (error : StoreError) : Failure := .api (.ofStore error)

def ofLauncher (error : LauncherError) : Failure := .api (.ofLauncher error)

def ofLogin (error : LoginError) : Failure := .api (.ofLogin error)

end Failure

/-- The parameters of a path by name, unless one of them is no text. -/
abbrev Parameters := Option (List (String × String))

namespace Parameters

def identifier {entity : Entity} (parameters : Parameters) (name : String) :
    Except Failure (Id entity) :=
  match (parameters.bind (·.lookup name)).bind Id.ofText? with
  | some id => .ok id
  | none => .error (.rejected .path)

end Parameters

namespace Request

/-- The fields of the query with the given names, each of which may stand there once. -/
def queryFields (request : Request) (names : List String) :
    Except Failure (List (String × String)) :=
  let fields :=
    (Form.decode (Utf8.encodeChars (request.query.getD []))).filter fun field =>
      names.contains field.1
  if (fields.map Prod.fst).Nodup then .ok fields else .error (.rejected .query)

/-- The greatest length of a body, in octets. -/
def maxBodyLength : Nat := 2 * 1024 * 1024

def jsonBody {Value : Type} (request : Request) (decoder : Json.Decoder Value) :
    Except Failure Value :=
  match request.header? "content-type" with
  | none => .error (.rejected .mediaType)
  | some mediaType =>
      if !MediaType.isJson mediaType then .error (.rejected .mediaType)
      else if maxBodyLength < request.body.length then .error (.rejected .tooLong)
      else
        match decoder.run request.body with
        | .ok value => .ok value
        | .error .mismatched => .error (.rejected .mismatchedBody)
        | .error .malformed | .error .truncated => .error (.rejected .malformedBody)

end Request

end GameCatalog
