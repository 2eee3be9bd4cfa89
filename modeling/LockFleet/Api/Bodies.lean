import LockFleet.Api.Problem
import LockFleet.Instant.Text
import LockFleet.Json.Shape
import LockFleet.Plan

/-!
This module contains the bodies of requests to the web interface and of its answers, with their JSON
values in both directions.
-/

namespace LockFleet.Api

def instantJson (t : Instant) : Json :=
  .string (String.ofList t.text)

def instant? (v : Json) : Option Instant :=
  v.string?.bind fun s => Instant.ofText? s.toList

structure DeviceStatus where
  deviceId : String
  status : String
  state : Option LifecycleState
  lastMessage : String
  updatedAt : Instant
  deriving DecidableEq, Repr

namespace DeviceStatus

def ofRecord (id : DeviceId) (r : DeviceRecord) : DeviceStatus where
  deviceId := id.text
  status := r.status
  state := r.state
  lastMessage := r.message
  updatedAt := r.updatedAt

def names : List String :=
  ["deviceId", "status", "state", "lastMessage", "updatedAt"]

def shape : Json.Shape :=
  .plainRecord names

def toJson (s : DeviceStatus) : Json :=
  .object [
    ("deviceId", .string s.deviceId),
    ("status", .string s.status),
    ("state", .stringOrNull (s.state.map LifecycleState.label)),
    ("lastMessage", .string s.lastMessage),
    ("updatedAt", instantJson s.updatedAt)]

def ofJson? (v : Json) : Option DeviceStatus := do
  let [some deviceId, some status, state, some lastMessage, some updatedAt] ←
    v.fields? names | none
  some {
    deviceId := ← deviceId.string?
    status := ← status.string?
    state := ← Json.optional? (Json.name? LifecycleState.ofLabel?) state
    lastMessage := ← lastMessage.string?
    updatedAt := ← instant? updatedAt }

end DeviceStatus

structure DeviceList where
  items : List DeviceStatus
  deriving DecidableEq, Repr

namespace DeviceList

def names : List String := ["items"]

def shape : Json.Shape :=
  .record [("items", .list DeviceStatus.shape)]

def toJson (l : DeviceList) : Json :=
  .object [("items", .array (l.items.map DeviceStatus.toJson))]

def ofJson? (v : Json) : Option DeviceList := do
  let [some (.array items)] ← v.fields? names | none
  some ⟨← items.mapM DeviceStatus.ofJson?⟩

end DeviceList

structure Health where
  status : String
  uptimeMs : Nat
  devices : Nat
  timestamp : Instant
  deriving DecidableEq, Repr

namespace Health

def names : List String :=
  ["status", "uptimeMs", "devices", "timestamp"]

def shape : Json.Shape :=
  .plainRecord names

def toJson (h : Health) : Json :=
  .object [
    ("status", .string h.status),
    ("uptimeMs", .integer h.uptimeMs),
    ("devices", .integer h.devices),
    ("timestamp", instantJson h.timestamp)]

def ofJson? (v : Json) : Option Health := do
  let [some status, some uptimeMs, some devices, some timestamp] ← v.fields? names | none
  some {
    status := ← status.string?
    uptimeMs := ← uptimeMs.word?
    devices := ← devices.word?
    timestamp := ← instant? timestamp }

end Health

structure CommandAccepted where
  deviceId : String
  topic : String
  payload : String
  deriving DecidableEq, Repr

namespace CommandAccepted

def ofAccepted (a : Accepted) : CommandAccepted :=
  ⟨a.device.text, a.topic, a.payload⟩

def names : List String :=
  ["deviceId", "topic", "payload"]

def shape : Json.Shape :=
  .plainRecord names

def toJson (a : CommandAccepted) : Json :=
  .object [
    ("deviceId", .string a.deviceId),
    ("topic", .string a.topic),
    ("payload", .string a.payload)]

def ofJson? (v : Json) : Option CommandAccepted := do
  let [some deviceId, some topic, some payload] ← v.fields? names | none
  some {
    deviceId := ← deviceId.string?
    topic := ← topic.string?
    payload := ← payload.string? }

end CommandAccepted

namespace ErrorBody

def names : List String :=
  ["error", "message", "details"]

def shape : Json.Shape :=
  .plainRecord names

def ofJson? (v : Json) : Option ErrorBody := do
  let [some error, some message, details] ← v.fields? names | none
  some {
    error := ← error.string?
    message := ← message.string?
    details := ← Json.optional? (fun v => some v.normalize) details }

end ErrorBody

structure CommandRequest where
  workflow : Workflow
  command : Option Command
  deriving DecidableEq, Repr

namespace CommandRequest

def shape (w : Workflow) : Json.Shape :=
  .plainRecord [w.field]

def toJson (r : CommandRequest) : Json :=
  .object [(r.workflow.field, .stringOrNull (r.command.map Command.publishedName))]

def ofJson? (w : Workflow) (v : Json) : Option CommandRequest := do
  let [command] ← v.fields? [w.field] | none
  let read := Json.name? w.published?
  match w.default? with
  | none => some ⟨w, some (← read (← command))⟩
  | some _ => some ⟨w, ← Json.optional? read command⟩

end CommandRequest
end LockFleet.Api
