import LockFleet.Settings.Node
import LockFleet.Text.Utf8
import LockFleet.Toml.Printer
import LockFleet.Toml.Reader

/-!
This module contains the files that settings are loaded from and saved to. The password is never
written.
-/

namespace LockFleet

inductive Entry where
  | missing
  | directory
  | file (octets : List UInt8)
  deriving DecidableEq

namespace Settings

def ofText? (text : List Char) : Option Settings :=
  (Toml.read text).bind fun members => ofNode? (.table (Node.ofTomlMembers members))

def load (path : String) (entry : Entry) : Except SettingsError Settings :=
  match entry with
  | .missing => .error (.notFound path)
  | .directory => .error .unreadable
  | .file octets =>
    match Utf8.decode octets with
    | none => .error .unreadable
    | some text =>
      match ofText? text with
      | none => .error .malformed
      | some s =>
        match s.validate with
        | .ok () => .ok s
        | .error e => .error e

def loadOrDefault (path : String) (entry : Entry) : Except SettingsError Settings :=
  match load path entry with
  | .error (.notFound _) => .ok default
  | result => result

def pathOr (environment : Option String) : String :=
  environment.getD "/etc/velolock/config.toml"

def optionalLine (name : String) (value : Option String) : List (String × Toml.Plain) :=
  match value with
  | some s => [(name, .text s)]
  | none => []

def serverLines (s : ServerSettings) : List (String × Toml.Plain) :=
  [("host", .text s.host), ("port", .integer s.port.toNat)]

def loggingLines (s : LoggingSettings) : List (String × Toml.Plain) :=
  [("production", .boolean s.production), ("level", .text s.level)]

def brokerLines (s : BrokerSettings) : List (String × Toml.Plain) :=
  [("enabled", .boolean s.enabled), ("broker_url", .text s.url)]
    ++ optionalLine "username" s.username
    ++ optionalLine "client_id" s.clientId
    ++ [("keep_alive_secs", .integer s.keepAliveSeconds.toNat)]
    ++ optionalLine "device_mac" s.deviceAddress

def sections (s : Settings) : List (String × List (String × Toml.Plain)) :=
  [ ("server", serverLines s.server),
    ("logging", loggingLines s.logging),
    ("mqtt", brokerLines s.broker) ]

def text? (s : Settings) : Option (List Char) :=
  if s.broker.keepAliveSeconds.toNat ≤ maxSigned then some (Toml.printSections s.sections) else none

/--
Where settings are saved: at a path that may hold something, below directories that are made if they
are missing, unless a file stands in their place.
-/
inductive Target where
  | entry (e : Entry)
  | underFile
  deriving DecidableEq

/--
Saves settings without checking them. The answer is what there is at the path afterwards.
-/
def save (s : Settings) (target : Target) : Except SettingsError Entry :=
  match target with
  | .underFile => .error .unwritable
  | .entry e =>
    match s.text? with
    | none => .error .unprintable
    | some text =>
      match e with
      | .directory => .error .unwritable
      | _ => .ok (.file (Utf8.encode text))

end Settings
end LockFleet
