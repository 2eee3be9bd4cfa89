import LockFleet.Api.Operation
import LockFleet.Json.Basic

/-!
This module contains the OpenAPI document that describes the web interface.
-/

namespace LockFleet.Api.Document

def reference (schema : String) : String :=
  "#/components/schemas/" ++ schema

structure Property where
  name : String
  schema : Json
  required : Bool

def withExample (example? : Option Json) (members : List (String × Json)) : Json :=
  Json.objectOf (members.map (fun m => (m.1, some m.2)) ++ [("example", example?)])

def string (description : String) (example? : Option Json) : Json :=
  withExample example? [("type", .string "string"), ("description", .string description)]

def natural (description : String) (wide : Bool) (example? : Option Json) : Json :=
  withExample example?
    ([("type", .string "integer")] ++ (if wide then [("format", .string "int64")] else [])
      ++ [("minimum", .integer 0), ("description", .string description)])

def dateTime (description : String) : Json :=
  .object [
    ("type", .string "string"),
    ("format", .string "date-time"),
    ("description", .string description)]

def list (description : String) (item : Json) : Json :=
  .object [
    ("type", .string "array"),
    ("items", item),
    ("description", .string description)]

def refer (schema : String) : Json :=
  .object [("$ref", .string (reference schema))]

def referWith (schema description : String) : Json :=
  .object [("$ref", .string (reference schema)), ("description", .string description)]

def referOrNull (schema description : String) : Json :=
  .object [("oneOf", .array [
    .object [("type", .string "null")],
    referWith schema description])]

def enumeration (description : String) (words : List String) : Json :=
  .object [
    ("type", .string "string"),
    ("enum", .array (words.map .string)),
    ("description", .string description)]

def record (description : String) (properties : List Property) (example? : Option Json) : Json :=
  let required := (properties.filter Property.required).map fun p => Json.string p.name
  Json.objectOf [
    ("type", some (.string "object")),
    ("description", some (.string description)),
    ("required", if required.isEmpty then none else some (.array required)),
    ("properties", some (.object (properties.map fun p => (p.name, p.schema)))),
    ("example", example?)]

def errorResponse : Json :=
  record "Standard JSON error response body."
    [ ⟨"error", string "Machine-readable error code." (some (.string "DEVICE_NOT_FOUND")), true⟩,
      ⟨"message", string "Human-readable error message."
        (some (.string "Device AABBCCDDEEFF not found")), true⟩,
      ⟨"details", .object
        [("description", .string "Structured details. `issues` for validation errors.")], false⟩ ]
    (some (.object [
      ("error", .string "INVALID_STATE_TRANSITION"),
      ("message", .string "Cannot transition from booked to reserved"),
      ("details", .object [
        ("currentState", .string "booked"),
        ("requestedState", .string "reserved"),
        ("allowedStates", .array
          [.string "available", .string "broken", .string "maintained", .string "unavailable"]),
        ("reason", .string "Transition not allowed")])]))

def validationIssue : Json :=
  record "One schema violation."
    [ ⟨"path", string "Field path, or `body` for the payload as a whole." none, true⟩,
      ⟨"message", string "Human-readable description." none, true⟩,
      ⟨"code", string
        "Machine-readable issue code (`invalid_json`, `invalid_type`, `invalid_enum_value`)."
        none, true⟩,
      ⟨"expected", list "Accepted values or types." (.object [("type", .string "string")]), true⟩,
      ⟨"received", .object
        [ ("type", .string "object"),
          ("description", .string "The value that was received, `null` when absent.") ], true⟩ ]
    none

def healthResponse : Json :=
  record "Health check response."
    [ ⟨"status", string "Service status." (some (.string "ok")), true⟩,
      ⟨"uptimeMs", natural "Milliseconds since the server started." true
        (some (.integer 12345)), true⟩,
      ⟨"devices", natural "Devices that have reported at least once." false
        (some (.integer 3)), true⟩,
      ⟨"timestamp", dateTime "Current server time.", true⟩ ]
    (some (.object [
      ("status", .string "ok"),
      ("uptimeMs", .integer 12345),
      ("devices", .integer 3),
      ("timestamp", .string "2025-01-15T03:30:00Z")]))

def lifecycleState : Json :=
  enumeration
    ("Lifecycle state of a bicycle lock.\n\n" ++
      "This is the label used by the dashboard, business rules, and the\n" ++
      "transition table. Firmware reports are folded into it through\n" ++
      "[`crate::firmware`].")
    (LifecycleState.all.map LifecycleState.label)

def deviceStatusResponse : Json :=
  record "Last known status of one device."
    [ ⟨"deviceId", string "Normalized device id." (some (.string "AABBCCDDEEFF")), true⟩,
      ⟨"status", string "Lifecycle label if known, otherwise the last raw status message."
        (some (.string "booked")), true⟩,
      ⟨"state", referOrNull "LifecycleState" "Last known lifecycle state.", false⟩,
      ⟨"lastMessage", string "Last message received from the device."
        (some (.string "State changed to 5")), true⟩,
      ⟨"updatedAt", dateTime "When the last message was received.", true⟩ ]
    (some (.object [
      ("deviceId", .string "AABBCCDDEEFF"),
      ("status", .string "booked"),
      ("state", .string "booked"),
      ("lastMessage", .string "State changed to 5"),
      ("updatedAt", .string "2025-01-15T03:30:00Z")]))

def deviceListResponse : Json :=
  record "Every device the server has heard from."
    [⟨"items", list "Devices sorted by id." (refer "DeviceStatusResponse"), true⟩]
    none

def verbDescription : Workflow → String
  | .state =>
    "Target of an administrative state command.\n\n" ++
    "`reserved` and `broken` are deliberately absent: reservations go through\n" ++
    "their own workflow and breakage is only ever reported by a device."
  | .booking => "Booking workflow verb."
  | .maintenance => "Maintenance workflow verb."
  | .reservation => "Reservation workflow verb."
  | .status => "Status workflow verb."

def requestDescription : Workflow → String
  | .state => "Body of a state command."
  | .booking => "Body of a booking command."
  | .maintenance => "Body of a maintenance command."
  | .reservation => "Body of a reservation command."
  | .status => "Body of a status request. The body may be omitted entirely."

def fieldDescription : Workflow → String
  | .state => "Requested lifecycle state."
  | .booking => "Booking verb."
  | .maintenance => "Maintenance verb."
  | .reservation => "Reservation verb."
  | .status => "Status verb, `request` when omitted."

def exampleCommand : Workflow → Command
  | .state => .setMaintained
  | .booking => .book
  | .maintenance => .startMaintenance
  | .reservation => .reserve
  | .status => .requestStatus

def commandRequest (w : Workflow) : Json :=
  let property : Property :=
    match w.default? with
    | none => ⟨w.field, referWith (verbSchema w) (fieldDescription w), true⟩
    | some _ => ⟨w.field, referOrNull (verbSchema w) (fieldDescription w), false⟩
  record (requestDescription w) [property]
    (some (.object [(w.field, .string (exampleCommand w).word)]))

def commandAcceptedResponse : Json :=
  record "A command accepted for delivery."
    [ ⟨"deviceId", string "Normalized device id." (some (.string "AABBCCDDEEFF")), true⟩,
      ⟨"topic", string "Topic the command was published on."
        (some (.string "esp/commands/booking/AABBCCDDEEFF")), true⟩,
      ⟨"payload", string "Literal payload that was published." (some (.string "book")), true⟩ ]
    (some (.object [
      ("deviceId", .string "AABBCCDDEEFF"),
      ("topic", .string "esp/commands/booking/AABBCCDDEEFF"),
      ("payload", .string "book")]))

def schemas : Json :=
  .object (
    [ ("ErrorResponse", errorResponse),
      ("ValidationIssue", validationIssue),
      ("HealthResponse", healthResponse),
      ("LifecycleState", lifecycleState),
      ("DeviceStatusResponse", deviceStatusResponse),
      ("DeviceListResponse", deviceListResponse) ]
    ++ Workflow.all.map (fun w =>
      (verbSchema w, enumeration (verbDescription w) (w.commands.map Command.publishedName)))
    ++ Workflow.all.map (fun w => (requestSchema w, commandRequest w))
    ++ [("CommandAcceptedResponse", commandAcceptedResponse)])

def content (schema : String) : Json :=
  .object [("application/json", .object [("schema", refer schema)])]

def deviceParameter : Json :=
  .object [
    ("name", .string "deviceId"),
    ("in", .string "path"),
    ("description", .string "Device hardware address"),
    ("required", .bool true),
    ("schema", .object [("type", .string "string")]),
    ("example", .string "AA:BB:CC:DD:EE:FF")]

def requestBody (w : Workflow) : Json :=
  Json.objectOf [
    ("content", some (content (requestSchema w))),
    ("description", w.default?.map fun _ => .string "Optional body"),
    ("required", some (.bool true))]

def answer (a : DeclaredAnswer) : String × Json :=
  (toString a.status,
    .object [("description", .string a.description), ("content", content a.schema)])

def operation (o : Operation) : Json :=
  Json.objectOf [
    ("tags", some (.array [.string o.tag])),
    ("summary", some (.string o.summary)),
    ("description", some (.string o.description)),
    ("operationId", some (.string o.identifier)),
    ("parameters", if o.namesDevice then some (.array [deviceParameter]) else none),
    ("requestBody", match o with
      | .sendCommand w => some (requestBody w)
      | _ => none),
    ("responses", some (.object (o.answers.map answer)))]

def paths : Json :=
  .object (Operation.all.map fun o => (o.path, .object [(o.method, operation o)]))

def overview : String :=
  "\n# velolock API\n\n" ++
  "Command and status service for a fleet of connected bicycle locks.\n\n" ++
  "## Overview\n\n" ++
  "Each lock is addressed by its hardware address and listens on MQTT command\n" ++
  "topics. This API:\n\n" ++
  "1. **Validates commands** against a closed vocabulary per workflow\n" ++
  "2. **Checks legality** against the lock's lifecycle state machine\n" ++
  "3. **Publishes** accepted commands on the lock's command topic\n\n" ++
  "A `202 Accepted` means the command was published. The lock confirms by\n" ++
  "publishing its new status, which is visible through the devices endpoints.\n\n" ++
  "## Lifecycle\n\n" ++
  "`available`, `reserved`, `booked`, `broken`, `maintained`, `unavailable`.\n" ++
  "Rejected transitions return `409` with the allowed destinations in\n" ++
  "`details.allowedStates`.\n"

def info : Json :=
  .object [
    ("title", .string "velolock API"),
    ("description", .string overview),
    ("contact", .object [("name", .string "velolock contributors")]),
    ("license", .object [
      ("name", .string "MIT"),
      ("url", .string "https://opensource.org/licenses/MIT")]),
    ("version", .string "0.1.0")]

def tag (name description : String) : Json :=
  .object [("name", .string name), ("description", .string description)]

def document : Json :=
  .object [
    ("openapi", .string "3.1.0"),
    ("info", info),
    ("servers", .array [.object [
      ("url", .string "/"),
      ("description", .string "Local velolock server")]]),
    ("paths", paths),
    ("components", .object [("schemas", schemas)]),
    ("tags", .array [
      tag "system" "Health checks and API documentation",
      tag "devices" "Last reported status of each lock",
      tag "commands" "Commands sent to locks over MQTT"])]

end LockFleet.Api.Document
