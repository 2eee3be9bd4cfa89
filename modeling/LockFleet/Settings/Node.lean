import LockFleet.Json.Basic
import LockFleet.Settings.Basic
import LockFleet.Toml.Value

/-!
This module contains the reading of settings from the values of a document. A part of the settings is
a table, of which unknown keys are ignored, or a list of its first fields in their order. What is
missing has its default. In TOML, what a list holds beyond the fields is ignored, too.
-/

namespace LockFleet

inductive Node where
  | null
  | flag (b : Bool)
  | integer (n : Int)
  | text (s : String)
  /-- Some values in order, to which others that have no meaning may be added if the list is `loose`. -/
  | list (loose : Bool) (items : List Node)
  | table (members : List (String × Node))
  | other
  deriving Inhabited

namespace Node

mutual

def ofJson : Json → Node
  | .null => null
  | .bool b => flag b
  | .integer n => integer n
  | .real _ => other
  | .string s => text s
  | .array items => list false (ofJsonItems items)
  | .object members => table (ofJsonMembers members)
termination_by structural v => v

def ofJsonItems : List Json → List Node
  | [] => []
  | v :: rest => ofJson v :: ofJsonItems rest
termination_by structural items => items

def ofJsonMembers : List (String × Json) → List (String × Node)
  | [] => []
  | m :: rest => ofJsonMember m :: ofJsonMembers rest
termination_by structural members => members

def ofJsonMember : String × Json → String × Node
  | (key, v) => (key, ofJson v)
termination_by structural m => m

end

mutual

/--
A point of time counts as a table that holds no setting.
-/
def ofToml : Toml.Value → Node
  | .text s => text s
  | .integer n => integer n
  | .float _ => other
  | .boolean b => flag b
  | .moment _ => table []
  | .array items => list true (ofTomlItems items)
  | .table members => table (ofTomlMembers members)
termination_by structural v => v

def ofTomlItems : List Toml.Value → List Node
  | [] => []
  | v :: rest => ofToml v :: ofTomlItems rest
termination_by structural items => items

def ofTomlMembers : List (String × Toml.Value) → List (String × Node)
  | [] => []
  | m :: rest => ofTomlMember m :: ofTomlMembers rest
termination_by structural members => members

def ofTomlMember : String × Toml.Value → String × Node
  | (key, v) => (key, ofToml v)
termination_by structural m => m

end

def fields? (names : List String) (n : Node) : Option (List (Option Node)) :=
  match n with
  | table members =>
    some (names.map fun name => (members.find? fun m => m.1 == name).map Prod.snd)
  | list loose items =>
    if loose || items.length ≤ names.length then
      some ((items.take names.length).map some ++ List.replicate (names.length - items.length) none)
    else none
  | _ => none

def orDefault {α : Type} (read : Node → Option α) (default : α) : Option Node → Option α
  | none => some default
  | some n => read n

def flag? : Node → Option Bool
  | flag b => some b
  | _ => none

def text? : Node → Option String
  | text s => some s
  | _ => none

def optionalText? : Node → Option (Option String)
  | null => some none
  | text s => some (some s)
  | _ => none

def port? : Node → Option UInt16
  | integer n => if 0 ≤ n ∧ n < 65536 then some (UInt16.ofNat n.toNat) else none
  | _ => none

def word? : Node → Option UInt64
  | integer n => if 0 ≤ n ∧ n ≤ maxWord then some (UInt64.ofNat n.toNat) else none
  | _ => none

end Node

def ServerSettings.ofNode? (n : Node) : Option ServerSettings := do
  let [host, port] ← n.fields? ["host", "port"] | none
  some {
    host := ← Node.orDefault Node.text? ServerSettings.default.host host
    port := ← Node.orDefault Node.port? ServerSettings.default.port port }

def LoggingSettings.ofNode? (n : Node) : Option LoggingSettings := do
  let [production, level] ← n.fields? ["production", "level"] | none
  some {
    production := ← Node.orDefault Node.flag? LoggingSettings.default.production production
    level := ← Node.orDefault Node.text? LoggingSettings.default.level level }

namespace BrokerSettings

def names : List String :=
  ["enabled", "broker_url", "username", "password", "client_id", "keep_alive_secs", "device_mac"]

def ofNode? (n : Node) : Option BrokerSettings := do
  let [enabled, url, username, password, clientId, keepAlive, deviceAddress] ←
    n.fields? names | none
  some {
    enabled := ← Node.orDefault Node.flag? default.enabled enabled
    url := ← Node.orDefault Node.text? default.url url
    username := ← Node.orDefault Node.optionalText? none username
    password := ← Node.orDefault Node.optionalText? none password
    clientId := ← Node.orDefault Node.optionalText? none clientId
    keepAliveSeconds := ← Node.orDefault Node.word? default.keepAliveSeconds keepAlive
    deviceAddress := ← Node.orDefault Node.optionalText? none deviceAddress }

end BrokerSettings

def Settings.ofNode? (n : Node) : Option Settings := do
  let [server, logging, broker] ← n.fields? ["server", "logging", "mqtt"] | none
  some {
    server := ← Node.orDefault ServerSettings.ofNode? .default server
    logging := ← Node.orDefault LoggingSettings.ofNode? .default logging
    broker := ← Node.orDefault BrokerSettings.ofNode? .default broker }

end LockFleet
