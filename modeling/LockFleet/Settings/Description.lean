import LockFleet.Settings.Basic
import LockFleet.Text.Quoted

/-!
This module contains a description of the broker's settings for people to read, in which the password
is hidden.
-/

namespace LockFleet.BrokerSettings

def describeText (s : String) : String :=
  String.ofList (Text.quote s.toList)

def describeOptional (s : Option String) : String :=
  match s with
  | some s => "Some(" ++ describeText s ++ ")"
  | none => "None"

def describeFlag (b : Bool) : String :=
  if b then "true" else "false"

def description (s : BrokerSettings) : String :=
  let fields := [
    ("enabled", describeFlag s.enabled),
    ("broker_url", describeText s.url),
    ("username", describeOptional s.username),
    ("password", describeOptional (s.password.map fun _ => "***")),
    ("client_id", describeOptional s.clientId),
    ("keep_alive_secs", String.ofList (Text.numeral s.keepAliveSeconds.toNat)),
    ("device_mac", describeOptional s.deviceAddress)]
  "MqttConfig \x7b " ++ ", ".intercalate (fields.map fun f => f.1 ++ ": " ++ f.2) ++ " \x7d"

end LockFleet.BrokerSettings
