import LockFleet.Broker.Address
import LockFleet.Device
import LockFleet.Failure
import LockFleet.Text.Blank

/-!
This module contains the settings of the service and their validation, which finds everything that is
wrong at once.
-/

namespace LockFleet

structure ServerSettings where
  host : String
  port : UInt16
  deriving DecidableEq, Repr

structure LoggingSettings where
  production : Bool
  level : String
  deriving DecidableEq, Repr

structure BrokerSettings where
  /-- Whether there is a broker. Without one, commands are only logged. -/
  enabled : Bool
  url : String
  username : Option String
  password : Option String
  clientId : Option String
  keepAliveSeconds : UInt64
  /-- The device that messages without a device are attributed to. -/
  deviceAddress : Option String
  deriving DecidableEq, Repr

structure Settings where
  server : ServerSettings
  logging : LoggingSettings
  broker : BrokerSettings
  deriving DecidableEq, Repr

namespace ServerSettings

def default : ServerSettings :=
  ⟨"0.0.0.0", 4000⟩

def bindAddress (s : ServerSettings) : String :=
  s.host ++ ":" ++ String.ofList (Text.numeral s.port.toNat)

end ServerSettings

inductive LogOutput where
  | development
  /-- Into files, of which there is one for each day. -/
  | production
  deriving DecidableEq, Repr

namespace LoggingSettings

def default : LoggingSettings :=
  ⟨false, "info"⟩

def output (s : LoggingSettings) : LogOutput :=
  if s.production then .production else .development

end LoggingSettings

namespace BrokerSettings

def default : BrokerSettings where
  enabled := false
  url := "mqtt://localhost:1883"
  username := none
  password := none
  clientId := none
  keepAliveSeconds := 30
  deviceAddress := none

def fallbackDevice (s : BrokerSettings) : Option DeviceId :=
  s.deviceAddress.bind DeviceId.ofText?

end BrokerSettings

def logLevels : List String :=
  ["trace", "debug", "info", "warn", "error"]

def isLogLevel (level : String) : Bool :=
  logLevels.contains (String.ofList (level.toList.map Char.toLower))

structure FieldError where
  field : String
  message : String
  deriving DecidableEq, Repr

def FieldError.text (e : FieldError) : String :=
  e.field ++ ": " ++ e.message

namespace Settings

def default : Settings :=
  ⟨.default, .default, .default⟩

def maxKeepAlive : UInt64 := 65535

def errorIf (wrong : Bool) (field message : String) : List FieldError :=
  if wrong then [⟨field, message⟩] else []

def errors (s : Settings) : List FieldError :=
  errorIf (Text.trim s.server.host.toList).isEmpty "server.host" "must not be empty"
  ++ errorIf (s.server.port == 0) "server.port" "must be greater than 0"
  ++ errorIf (!isLogLevel s.logging.level) "logging.level"
    ("must be one of " ++ ", ".intercalate logLevels)
  ++ errorIf (!Broker.isValidUrl s.broker.url) "mqtt.broker_url"
    ("'" ++ s.broker.url ++ "' is not an mqtt:// or mqtts:// URL")
  ++ errorIf (s.broker.keepAliveSeconds == 0 || maxKeepAlive < s.broker.keepAliveSeconds)
    "mqtt.keep_alive_secs" "must be between 1 and 65535"
  ++ errorIf (s.broker.password.isSome && s.broker.username.isNone) "mqtt.password"
    "requires mqtt.username"
  ++ match s.broker.deviceAddress with
    | none => []
    | some address =>
      errorIf (DeviceId.ofText? address).isNone "mqtt.device_mac"
        ("'" ++ address ++ "' contains no hex digits")

end Settings

inductive SettingsError where
  | notFound (path : String)
  | unreadable
  | unwritable
  | malformed
  | unprintable
  | invalidField (e : FieldError)
  | invalidFields (errors : List FieldError)
  deriving DecidableEq, Repr

namespace SettingsError

def toFailure (wording : String) : SettingsError → Failure
  | notFound path => .settingsNotFound path
  | unreadable => .inputOutput wording
  | unwritable => .inputOutput wording
  | malformed => .settingsUnreadable wording
  | unprintable => .settingsUnreadable wording
  | invalidField e => .settingsInvalid e.text
  | invalidFields errors => .settingsInvalid ("; ".intercalate (errors.map FieldError.text))

def message? : SettingsError → Option String
  | invalidField e => some e.text
  | invalidFields errors => some (toString errors.length ++ " configuration errors")
  | _ => none

def fields : SettingsError → List FieldError
  | invalidField e => [e]
  | invalidFields errors => errors
  | _ => []

end SettingsError

def Settings.validate (s : Settings) : Except SettingsError Unit :=
  match s.errors with
  | [] => .ok ()
  | [e] => .error (.invalidField e)
  | errors => .error (.invalidFields errors)

end LockFleet
