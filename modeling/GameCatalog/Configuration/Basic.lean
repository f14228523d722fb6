import GameCatalog.Net.Address
import GameCatalog.Secret
import GameCatalog.Toml.Document

/-!
The configuration of the gateway as a file holds it.  Settings that are left out have
defaults; settings that are not known are passed over.
-/

namespace GameCatalog

/-- Where the gateway listens. -/
structure ListenerSettings where
  address : SocketAddress
  /-- How many requests are served at once. -/
  maxConnections : UInt64
  deriving DecidableEq

/-- How the identity provider is reached. -/
structure ProviderSettings where
  base : String
  clientId : String
  timeoutSeconds : UInt64
  deriving DecidableEq

/-- How sessions of browsers are kept. -/
structure SessionSettings where
  cookieName : String
  maxAgeSeconds : UInt64
  secure : Bool
  secretFile : Option String
  deriving DecidableEq

/-- How sessions of launchers are kept. -/
structure LauncherSettings where
  sessionSeconds : UInt64
  sweepSeconds : UInt64
  deriving DecidableEq

structure Configuration where
  listener : ListenerSettings
  provider : ProviderSettings
  session : SessionSettings
  launcher : LauncherSettings
  storePath : String
  deriving DecidableEq

open Toml

/-- What a field that must be there stands for. -/
def Toml.required {Setting : Type} (fields : List (String × Value)) (name : String)
    (read : Value → Option Setting) : Option Setting :=
  (fields.lookup name).bind read

/-- What a field stands for that may be left out. -/
def Toml.withDefault {Setting : Type} (fields : List (String × Value)) (name : String)
    (read : Value → Option Setting) (setting : Setting) : Option Setting :=
  match fields.lookup name with
  | some value => read value
  | none => some setting

def SocketAddress.ofValue? (value : Value) : Option SocketAddress :=
  value.text?.bind SocketAddress.ofText?

/-- Reads where the gateway listens. -/
def ListenerSettings.ofValue? (value : Value) : Option ListenerSettings := do
  let fields ← value.fields? ["listen_addr", "max_connections"]
  return {
    address := ← required fields "listen_addr" SocketAddress.ofValue?
    maxConnections := ← withDefault fields "max_connections" Value.natural? 1000 }

/-- Reads how the identity provider is reached. -/
def ProviderSettings.ofValue? (value : Value) : Option ProviderSettings := do
  let fields ← value.fields? ["base_url", "client_id", "timeout_secs"]
  return {
    base := ← required fields "base_url" Value.text?
    clientId := ← required fields "client_id" Value.text?
    timeoutSeconds := ← withDefault fields "timeout_secs" Value.natural? 10 }

/-- Reads how sessions of browsers are kept. -/
def SessionSettings.ofValue? (value : Value) : Option SessionSettings := do
  let fields ← value.fields? ["cookie_name", "max_age_secs", "secure", "secret_file"]
  return {
    cookieName := ← withDefault fields "cookie_name" Value.text? "collection_session"
    maxAgeSeconds := ← withDefault fields "max_age_secs" Value.natural? (7 * 24 * 60 * 60)
    secure := ← withDefault fields "secure" Value.boolean? true
    secretFile := ← withDefault fields "secret_file" (fun value => value.text?.map some) none }

/-- Reads how sessions of launchers are kept. -/
def LauncherSettings.ofValue? (value : Value) : Option LauncherSettings := do
  let fields ← value.fields? ["session_ttl_secs", "sweep_interval_secs"]
  return {
    sessionSeconds := ← withDefault fields "session_ttl_secs" Value.natural? (24 * 60 * 60)
    sweepSeconds := ← withDefault fields "sweep_interval_secs" Value.natural? 3600 }

/-- Reads where the store is. -/
def Configuration.storePathOf? (value : Value) : Option String := do
  required (← value.fields? ["path"]) "path" Value.text?

def Configuration.ofValue? (value : Value) : Option Configuration := do
  let fields ← value.fields? ["server", "identity_provider", "session", "launcher", "store"]
  return {
    listener := ← required fields "server" ListenerSettings.ofValue?
    provider := ← required fields "identity_provider" ProviderSettings.ofValue?
    session :=
      ← SessionSettings.ofValue? ((fields.lookup "session").getD (.table []))
    launcher :=
      ← LauncherSettings.ofValue? ((fields.lookup "launcher").getD (.table []))
    storePath := ← required fields "store" Configuration.storePathOf? }

def Configuration.ofText? (text : String) : Option Configuration :=
  (Toml.read? text).bind Configuration.ofValue?

end GameCatalog
