import GameCatalog.Configuration.Load
import GameCatalog.Startup.LogFilter
import GameCatalog.Web.Gateway

/-!
A run of the gateway from its start to its end: the configuration is loaded, the store
is opened, requests are served until a signal comes, and then the gateway stops.  What
cannot be done ends the run with a complaint that names the causes.
-/

namespace GameCatalog

def Gateway.ofConfiguration (accepted : AcceptedConfiguration) : Except String Gateway :=
  let settings := accepted.settings
  (SessionCookie.ofSecret accepted.secret.expose settings.session.cookieName
    settings.session.maxAgeSeconds.toNat settings.session.secure).map fun cookie =>
      { login := ⟨settings.provider.base, settings.provider.clientId⟩
        cookie
        sessionSeconds := settings.launcher.sessionSeconds.toNat }

inductive Signal where
  | terminate
  | interrupt
  deriving DecidableEq, Repr

def Signal.name : Signal → String
  | .terminate => "SIGTERM"
  | .interrupt => "SIGINT"

abbrev Environment := String → Option String

/-- The address is one of every machine: all of its addresses, or those that lead to itself. -/
def Ipv4.isOwn (address : Ipv4) : Bool :=
  address.number = 0 || address.number / 0x1000000 = 127

/-- The address is one of every machine: all of its addresses, or the one that leads to itself. -/
def Ipv6.isOwn (address : Ipv6) : Bool :=
  match address.groups with
  | [0, 0, 0, 0, 0, 0xFFFF, high, low] => (Ipv4.mk (high * 0x10000 + low)).isOwn
  | [0, 0, 0, 0, 0, 0, 0, last] => last = 0 || last = 1
  | _ => false

/-- Why a machine that is on no network cannot listen on an address. -/
def SocketAddress.refusal? (address : SocketAddress) : Option String :=
  let isOwn :=
    match address with
    | .ipv4 address _ => address.isOwn
    | .ipv6 address _ _ => address.isOwn
  if isOwn then none else some "Cannot assign requested address (os error 99)"

structure Surroundings where
  arguments : List String
  environment : Environment
  files : Files
  /-- Why an address cannot be listened on. -/
  refuses : SocketAddress → Option String := SocketAddress.refusal?

/-- Why a run ended early: what was being done, and the causes, the nearest first. -/
structure Complaint where
  context : String
  causes : List String
  deriving DecidableEq, Repr

namespace Complaint

/-- A text with the lines after its first one indented. -/
def indent (width : Nat) (text : String) : String :=
  String.ofList (text.toList.flatMap fun character =>
    if character = '\n' then '\n' :: List.replicate width ' ' else [character])

/-- The line of a cause that is one of several. -/
def numberedLine (place : Nat) (cause : String) : String :=
  let digits := Ascii.decimal place
  String.ofList (List.replicate (5 - digits.length) ' ' ++ digits) ++ ": " ++ indent 7 cause

/-- The lines of the causes; several of them are numbered. -/
def causeLines : List String → List String
  | [cause] => ["    " ++ indent 4 cause]
  | causes => causes.mapIdx numberedLine

def text (complaint : Complaint) : String :=
  "Error: " ++ complaint.context ++ "\n\nCaused by:\n" ++
    String.intercalate "\n" (causeLines complaint.causes)

end Complaint

structure Start where
  /-- Everything that was reported, whether it is shown or not. -/
  entries : List LogEntry
  /-- The gateway and its store, or why there is none. -/
  outcome : Except Complaint (Gateway × Store)
  /-- The path of the store and the disk around it, once the store was opened. -/
  disk : Option (String × Disk)

structure RunReport where
  /-- Everything that was reported, whether it is shown or not. -/
  entries : List LogEntry
  complaint : Option Complaint
  /-- The path of the store and the disk around it, once the store was opened. -/
  disk : Option (String × Disk)

def RunReport.exitCode (report : RunReport) : Nat :=
  if report.complaint.isNone then 0 else 1

namespace Surroundings

/-- The directory that a path leads into, if it leads into one. -/
def parent? (path : String) : Option String :=
  match path.toList.reverse.dropWhile (· == '/') with
  | [] => none
  | reversed =>
      match reversed.dropWhile (· != '/') with
      | [] => some ""
      | front =>
          match front.dropWhile (· == '/') with
          | [] => some "/"
          | front => some (String.ofList front.reverse)

def notADirectory : String := "Not a directory (os error 20)"

def disk (surroundings : Surroundings) (path : String) : Disk :=
  let entry := surroundings.files path
  match parent? path with
  | none => { entry, refusal := some ⟨.parent, ""⟩ }
  | some "" => { entry }
  | some parent =>
      match surroundings.files parent with
      | .directory => { entry }
      | .absent => { entry, reachable := false }
      | .file _ => { entry, refusal := some ⟨.temporary, notADirectory⟩ }

/-- What follows the first `--config` of the command line. -/
def configArgument (arguments : List String) : Option String :=
  ((arguments.dropWhile (· != "--config")).drop 1).head?

/-- Where the configuration is. -/
def configPath (surroundings : Surroundings) : String :=
  Configuration.resolvePath (configArgument surroundings.arguments)
    (surroundings.environment "CONFIG_PATH")

def logFilter (surroundings : Surroundings) : LogFilter :=
  .choose [surroundings.environment "LOG_LEVEL", surroundings.environment "RUST_LOG"]

def configurationCauses : ConfigurationError → List String
  | .unreadable reason => [(ConfigurationError.unreadable reason).message, reason]
  | error => [error.message]

def note (message : String) : LogEntry := ⟨.info, "collection_gateway", message⟩

def storeEntries (before : DiskEntry) (outcome : Except StoreError Store) : List LogEntry :=
  match before, outcome with
  | .absent, outcome =>
      ⟨.info, "repository::file", "store file not found, starting empty"⟩ ::
        (if outcome.isOk then [⟨.debug, "repository::file", "persisted store"⟩] else [])
  | _, .ok _ => [⟨.info, "repository::file", "loaded store"⟩]
  | _, .error _ => []

/-- The gateway of a configuration over a store that was opened, or not. -/
def setUp (surroundings : Surroundings) (accepted : AcceptedConfiguration)
    (opened : Except StoreError Store) : Except Complaint (Gateway × Store) :=
  match opened with
  | .error error =>
      .error ⟨"failed to open store " ++ accepted.settings.storePath, [error.message]⟩
  | .ok store =>
      match Gateway.ofConfiguration accepted with
      | .error reason =>
          .error ⟨"invalid session settings", ["Configuration error: " ++ reason]⟩
      | .ok gateway =>
          let address := accepted.settings.listener.address
          match surroundings.refuses address with
          | some reason => .error ⟨"failed to bind to " ++ address.toText, [reason]⟩
          | none => .ok (gateway, store)

def start (surroundings : Surroundings) : Start :=
  let path := surroundings.configPath
  let begun := [note "starting collection-gateway", note "loading configuration"]
  match Configuration.load path (surroundings.environment "SESSION_SECRET")
      surroundings.files with
  | .error error =>
      { entries := begun
        outcome := .error ⟨"failed to load config from " ++ path, configurationCauses error⟩
        disk := none }
  | .ok accepted =>
      let storePath := accepted.settings.storePath
      let before := surroundings.disk storePath
      let (opened, after) := Store.load before
      let outcome := surroundings.setUp accepted opened
      { entries :=
          begun ++ note "configuration loaded" :: storeEntries before.entry opened ++
            (if outcome.isOk then [note "accepting requests"] else [])
        outcome
        disk := some (storePath, after) }

def endEntries (signal : Signal) : List LogEntry :=
  [note ("received " ++ signal.name ++ ", shutting down"),
    note "all in-flight requests drained", note "shutdown complete"]

/-- Starts the gateway and ends it by a signal before any request comes. -/
def run (surroundings : Surroundings) (signal : Signal) : RunReport :=
  let start := surroundings.start
  match start.outcome with
  | .error complaint => ⟨start.entries, some complaint, start.disk⟩
  | .ok _ => ⟨start.entries ++ endEntries signal, none, start.disk⟩

def shown (surroundings : Surroundings) (entries : List LogEntry) : List LogEntry :=
  entries.filter surroundings.logFilter.shows

/--
The paths that a run looks at, given what lies where the configuration is: the
configuration, the file of the secret, the store and the directory of the store.
-/
def watchedPaths (path : String) (entry : DiskEntry) : List String :=
  match entry.text.toOption.bind Configuration.ofText? with
  | none => [path]
  | some settings =>
      [path, settings.storePath] ++ settings.session.secretFile.toList ++
        (parent? settings.storePath).toList

end Surroundings

end GameCatalog
