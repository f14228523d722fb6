import GameCatalog.Access.Scheme
import GameCatalog.Text.Ascii

/-!
What the gateway counts.  Every counted event is kept as an observation; the counters
are the numbers of observations of each kind, under the names and labels by which
monitoring knows them.
-/

namespace GameCatalog

/-- How a check of access ended. -/
inductive CheckResult where
  | granted
  | anonymous
  | invalidRequest
  | unauthenticated
  | forbidden
  | notFound
  | error
  deriving DecidableEq, Repr

def CheckResult.label : CheckResult → String
  | .granted => "granted"
  | .anonymous => "anonymous"
  | .invalidRequest => "invalid_request"
  | .unauthenticated => "unauthenticated"
  | .forbidden => "forbidden"
  | .notFound => "not_found"
  | .error => "error"

/-- The steps of a login, and its end. -/
inductive LoginStep where
  | start
  | callback
  | logout
  deriving DecidableEq, Repr

def LoginStep.label : LoginStep → String
  | .start => "begin"
  | .callback => "callback"
  | .logout => "logout"

/-- How a login step ended. -/
inductive LoginResult where
  | ok
  | clientError
  | providerError
  deriving DecidableEq, Repr

def LoginResult.label : LoginResult → String
  | .ok => "ok"
  | .clientError => "client_error"
  | .providerError => "upstream_error"

/-- How the redemption of a key ended. -/
inductive RedemptionResult where
  | ok
  | invalidKey
  | error
  deriving DecidableEq, Repr

def RedemptionResult.label : RedemptionResult → String
  | .ok => "ok"
  | .invalidKey => "invalid_key"
  | .error => "error"

inductive Observation where
  | request (method : String) (status : Nat)
  | check (scheme : Scheme) (result : CheckResult)
  | login (step : LoginStep) (result : LoginResult)
  /-- A product key was redeemed, or not. -/
  | redemption (result : RedemptionResult)
  deriving DecidableEq, Repr

namespace Metrics

def counter (name : String) (labels : List (String × String)) : String :=
  name ++ "\x7b" ++
    String.intercalate "," (labels.map fun label => label.1 ++ "=\"" ++ label.2 ++ "\"") ++
    "\x7d"

def durationCounter (status : Nat) : String :=
  counter "http_request_duration_seconds_count"
    [("status", String.ofList (Ascii.decimal status))]

/-- The counters that an observation raises by one. -/
def countersOf : Observation → List String
  | .request method status =>
      [counter "http_requests_total"
          [("status", String.ofList (Ascii.decimal status)), ("method", method)],
        durationCounter status]
  | .check scheme result =>
      [counter "auth_checks_total" [("scheme", scheme.name), ("outcome", result.label)]]
  | .login step result =>
      [counter "login_steps_total" [("step", step.label), ("result", result.label)]]
  | .redemption result =>
      [counter "launcher_authorizations_total" [("result", result.label)]]

/-- Every counter that was raised, with its value. -/
def counters (observations : List Observation) : List (String × Nat) :=
  let raised := observations.flatMap countersOf
  raised.eraseDups.map fun name => (name, raised.count name)

def isRequest : Observation → Bool
  | .request _ _ => true
  | _ => false

/-- The upper bounds of the classes that request durations are sorted into. -/
def durationBounds : List String :=
  ["0.005", "0.01", "0.025", "0.05", "0.1", "0.25", "0.5", "1", "2.5", "5", "10", "+Inf"]

/-- The bounds that are shown: none before the first request. -/
def shownBounds (observations : List Observation) : List String :=
  if observations.any isRequest then durationBounds else []

/-- The counters as monitoring reads them, one a line. -/
def render (observations : List Observation) : String :=
  String.join ((counters observations).map fun entry =>
    entry.1 ++ " " ++ String.ofList (Ascii.decimal entry.2) ++ "\n")

end Metrics

end GameCatalog
