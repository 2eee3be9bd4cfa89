import LockFleet.Api.Bodies
import LockFleet.Api.Document
import LockFleet.Body
import LockFleet.Dispatch.Basic
import LockFleet.Text.Levels
import LockFleet.Text.Percent
import LockFleet.Text.Utf8

/-!
This module contains the web interface: what is answered to a request, and what the request does to
the dispatcher.
-/

namespace LockFleet.Api

structure Request where
  method : String
  /-- The path and what may follow it, after the scheme and the host if they are given. -/
  target : String
  body : List UInt8

inductive Content where
  | empty
  | json (v : Json)
  | text (s : String)

def Content.type? : Content → Option String
  | empty => none
  | json _ => some "application/json"
  | text _ => some "text/plain; charset=utf-8"

structure Response where
  status : Nat
  type? : Option String
  content : Content
  allow : Option String

namespace Response

def ofContent (status : Nat) (content : Content) : Response :=
  ⟨status, content.type?, content, none⟩

def ofJson (status : Nat) (v : Json) : Response :=
  ofContent status (.json v)

def ofProblem (p : Problem) : Response :=
  ofJson p.kind.status p.body.toJson

def ofFailure (f : Failure) : Response :=
  ofProblem (.ofFailure f)

def notFound : Response :=
  ofContent 404 .empty

def headOnly (r : Response) : Response :=
  { r with content := .empty }

end Response

/--
What a path leads to. A device is still as it stands in the path.
-/
inductive Route where
  | health
  | devices
  | device (segment : List Char)
  | command (segment : List Char) (w : Workflow)
  | document
  deriving DecidableEq, Repr

namespace Route

def endsPath (c : Char) : Bool :=
  c == '?' || c == '#'

/--
The path of a target ends where a query or a fragment begins. In a target that starts with a scheme the
path follows the host, and is `/` if there is none. A target that names only a host has no path.
-/
def pathOf (target : List Char) : List Char :=
  match target with
  | '/' :: _ => target.takeWhile (!endsPath ·)
  | '*' :: _ => target
  | _ =>
    match target.dropWhile (· != ':') with
    | ':' :: '/' :: '/' :: rest =>
      match (rest.dropWhile fun c => !(c == '/' || endsPath c)).takeWhile (!endsPath ·) with
      | [] => ['/']
      | path => path
    | _ => []

def ofTarget? (target : String) : Option Route :=
  match (Text.levels (pathOf target.toList)).map String.ofList with
  | ["", "v1", "health"] => some health
  | ["", "v1", "devices"] => some devices
  | ["", "v1", "openapi.json"] => some document
  | ["", "v1", "devices", id] => if id = "" then none else some (device id.toList)
  | ["", "v1", "devices", id, "commands", w] => (Workflow.ofName? w).map (command id.toList)
  | _ => none

def allow : Route → String
  | command _ _ => "POST"
  | _ => "GET,HEAD"

end Route

def maxBodySize : Nat := 2097152

def deviceOf? (segment : List Char) : Option String :=
  (Utf8.decode (Text.percentDecode (Utf8.encode segment))).map String.ofList

def invalidSegment : Response :=
  .ofContent 400 (.text "Invalid URL: Invalid UTF-8 in `deviceId`")

def bodyTooLarge : Response :=
  .ofContent 413 (.text "Failed to buffer the request body: length limit exceeded")

structure Clock where
  now : Instant
  uptimeMs : Nat

def health (d : Dispatch) (clock : Clock) : Health where
  status := "ok"
  uptimeMs := min clock.uptimeMs maxWord
  devices := d.registry.records.size
  timestamp := clock.now

def listDevices (d : Dispatch) : DeviceList :=
  ⟨d.registry.records.entries.map fun e => .ofRecord e.1 e.2⟩

def getDevice (d : Dispatch) (raw : String) : Except Failure DeviceStatus :=
  match DeviceId.ofText? raw with
  | none => .error (.invalidDevice raw)
  | some id =>
    match d.registry.get? id with
    | none => .error (.refused (.deviceNotFound id.text))
    | some record => .ok (.ofRecord id record)

def sendCommand (d : Dispatch) (verdict : Verdict) (w : Workflow) (raw : String)
    (body : List UInt8) : Except Failure Accepted × Dispatch :=
  match Body.command w body with
  | .error e => (.error (.invalid e), d)
  | .ok c => d.submit verdict raw c

def getResponse (d : Dispatch) (clock : Clock) : Route → Response
  | .health => .ofJson 200 (health d clock).toJson
  | .devices => .ofJson 200 (listDevices d).toJson
  | .document => .ofJson 200 Document.document
  | .device segment =>
    match deviceOf? segment with
    | none => invalidSegment
    | some raw =>
      match getDevice d raw with
      | .ok status => .ofJson 200 status.toJson
      | .error f => .ofFailure f
  | .command _ _ => .notFound

def answerCommand (d : Dispatch) (verdict : Verdict) (w : Workflow) (raw : String)
    (body : List UInt8) : Response × Dispatch :=
  match sendCommand d verdict w raw body with
  | (.ok a, d) => (.ofJson 202 (CommandAccepted.ofAccepted a).toJson, d)
  | (.error f, d) => (.ofFailure f, d)

def commandResponse (d : Dispatch) (verdict : Verdict) (segment : List Char) (w : Workflow)
    (body : List UInt8) : Response × Dispatch :=
  match deviceOf? segment with
  | none => (invalidSegment, d)
  | some raw =>
    if maxBodySize < body.length then (bodyTooLarge, d)
    else answerCommand d verdict w raw body

def respond (d : Dispatch) (verdict : Verdict) (clock : Clock) (r : Request) :
    Response × Dispatch :=
  match Route.ofTarget? r.target with
  | none => (if r.method = "OPTIONS" then .ofContent 200 .empty else .notFound, d)
  | some route =>
    let refuse : Response := ⟨405, none, .empty, some route.allow⟩
    if r.method = "OPTIONS" then (⟨200, none, .empty, some route.allow⟩, d)
    else
      match route with
      | .command segment w =>
        if r.method = "POST" then commandResponse d verdict segment w r.body else (refuse, d)
      | route =>
        if r.method = "GET" then (getResponse d clock route, d)
        else if r.method = "HEAD" then ((getResponse d clock route).headOnly, d)
        else (refuse, d)

end LockFleet.Api
