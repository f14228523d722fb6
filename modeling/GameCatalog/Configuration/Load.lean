import GameCatalog.Configuration.Basic
import GameCatalog.Store.Disk
import GameCatalog.Text.Blank

/-!
Loading a configuration: the file is read, its settings are checked one after the
other, and the secret for signing is found, in the environment or else in a file of
its own.  The first setting that is not accepted is the one reported.
-/

namespace GameCatalog

abbrev Files := String → DiskEntry

namespace DiskEntry

/-- The reason given for a file that is no text. -/
def notText : String := "stream did not contain valid UTF-8"

/-- The text of a file, or the reason why it cannot be read. -/
def text : DiskEntry → Except String String
  | .absent => .error Disk.noSuchFile
  | .directory => .error Disk.isADirectory
  | .file found =>
      match Utf8.decode? found.content with
      | some text => .ok text
      | none => .error notText

end DiskEntry

/-- Why a setting is not accepted. -/
inductive SettingError where
  /-- The address of the identity provider names no scheme for the web. -/
  | base (text : String)
  | blankClientId
  | zeroTimeout
  | zeroConnections
  | zeroSessionTime
  | zeroSweepTime
  | secretFile (path reason : String)
  | noSecret
  | shortSecret
  deriving DecidableEq, Repr

def SettingError.message : SettingError → String
  | .base text =>
      "identity_provider.base_url must start with http:// or https://, got: " ++ text
  | .blankClientId => "identity_provider.client_id must not be empty"
  | .zeroTimeout => "identity_provider.timeout_secs must be greater than 0"
  | .zeroConnections => "max_connections must be greater than 0"
  | .zeroSessionTime => "launcher.session_ttl_secs must be greater than 0"
  | .zeroSweepTime => "launcher.sweep_interval_secs must be greater than 0"
  | .secretFile path reason => "failed to read secret_file " ++ path ++ ": " ++ reason
  | .noSecret => "session secret missing: set SESSION_SECRET or session.secret_file"
  | .shortSecret => "session secret must be at least 32 bytes"

/-- Why there is no configuration. -/
inductive ConfigurationError where
  | unreadable (reason : String)
  /-- The file holds no configuration. -/
  | unparsable
  | setting (error : SettingError)
  deriving DecidableEq, Repr

def ConfigurationError.message : ConfigurationError → String
  | .unreadable reason => "I/O error: " ++ reason
  | .unparsable => "TOML parse error"
  | .setting error => "Configuration error: " ++ error.message

/-- A configuration that was accepted, and the secret for signing. -/
structure AcceptedConfiguration where
  settings : Configuration
  secret : Secret
  deriving DecidableEq

namespace Configuration

def isWebAddress (text : String) : Bool :=
  (Split.afterPrefix? "http://".toList text.toList).isSome ||
    (Split.afterPrefix? "https://".toList text.toList).isSome

/-- The first setting that is not accepted, the secret apart. -/
def fault? (settings : Configuration) : Option SettingError :=
  if !isWebAddress settings.provider.base then some (.base settings.provider.base)
  else if (Blank.trim settings.provider.clientId).isEmpty then some .blankClientId
  else if settings.provider.timeoutSeconds = 0 then some .zeroTimeout
  else if settings.listener.maxConnections = 0 then some .zeroConnections
  else if settings.launcher.sessionSeconds = 0 then some .zeroSessionTime
  else if settings.launcher.sweepSeconds = 0 then some .zeroSweepTime
  else none

/--
The secret, if there is one: the one of the environment as it is, or else that of the
file without the blanks around it.
-/
def findSecret (settings : Configuration) (inherited : Option String) (files : Files) :
    Except SettingError (Option String) :=
  match inherited, settings.session.secretFile with
  | some secret, _ => .ok (some secret)
  | none, none => .ok none
  | none, some path =>
      match (files path).text with
      | .error reason => .error (.secretFile path reason)
      | .ok text =>
          let secret := Blank.trim text
          .ok (if secret.isEmpty then none else some secret)

def accept (settings : Configuration) (inherited : Option String) (files : Files) :
    Except SettingError AcceptedConfiguration := do
  if let some error := settings.fault? then throw error
  match ← settings.findSecret inherited files with
  | none => throw .noSecret
  | some secret =>
      if Utf8.size secret < Secret.minLength then throw .shortSecret
      return ⟨settings, ⟨secret⟩⟩

/-- Loads a configuration from a file, given the secret of the environment. -/
def load (path : String) (inherited : Option String) (files : Files) :
    Except ConfigurationError AcceptedConfiguration :=
  match (files path).text with
  | .error reason => .error (.unreadable reason)
  | .ok text =>
      match ofText? text with
      | none => .error .unparsable
      | some settings => (settings.accept inherited files).mapError .setting

/-- Where the configuration is looked for when nothing else is said. -/
def defaultPath : String := "collection-gateway.toml"

/-- Where the configuration is: as the command line says, or else the environment. -/
def resolvePath (argument inherited : Option String) : String :=
  argument.getD (inherited.getD defaultPath)

end Configuration

end GameCatalog
