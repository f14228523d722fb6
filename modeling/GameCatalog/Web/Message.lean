import GameCatalog.Json.Value
import GameCatalog.Service.Metrics
import GameCatalog.Text.Ascii
import GameCatalog.Text.Split

/-!
HTTP messages as the gateway sees them: a request with its headers and body, and a
response in the parts that the gateway sets.
-/

namespace GameCatalog

structure Request where
  method : String
  /-- The path, still percent-encoded. -/
  path : List Char
  /-- What follows the question mark, still encoded. -/
  query : Option (List Char) := none
  /-- Names in small letters, and values. -/
  headers : List (String × Bytes) := []
  body : Bytes := []

namespace Request

/-- The text of a header value, if all of it is printable ASCII. -/
def printable? (value : Bytes) : Option String :=
  if value.all fun octet => (0x20 ≤ octet && octet < 0x7F) || octet == 0x09 then
    some (String.ofList (value.map fun octet => Char.ofNat octet.toNat))
  else none

/-- The first value of a header. -/
def header? (request : Request) (name : String) : Option String :=
  (request.headers.lookup name).bind printable?

/-- The printable values of a header, in order. -/
def headers? (request : Request) (name : String) : List String :=
  request.headers.filterMap fun header =>
    if header.1 = name then printable? header.2 else none

/-- The target of a request cut into its path and its query; a fragment is dropped. -/
def splitTarget (target : List Char) : List Char × Option (List Char) :=
  let target := target.takeWhile (· != '#')
  match Split.first? '?' target with
  | some (path, query) => (path, some query)
  | none => (target, none)

end Request

inductive Body where
  | empty
  | json (value : Json)
  | text (text : String)
  /-- The counters, as monitoring reads them. -/
  | counters (observations : List Observation)

structure Response where
  status : Nat
  contentType : Option String := none
  location : Option String := none
  /-- The methods that are allowed instead. -/
  allow : Option String := none
  /-- The cookies that are set, as they are sent. -/
  cookies : List String := []
  body : Body := .empty

namespace Response

def json (status : Nat) (value : Json) : Response :=
  { status, contentType := some "application/json", body := .json value }

def text (status : Nat) (text : String) : Response :=
  { status, contentType := some "text/plain; charset=utf-8", body := .text text }

def bodyText (response : Response) : String :=
  match response.body with
  | .empty => ""
  | .json value => value.compact
  | .text text => text
  | .counters observations => Metrics.render observations

end Response

end GameCatalog
