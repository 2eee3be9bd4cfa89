import LockFleet.Instant.Basic
import LockFleet.Report
import LockFleet.Roster
import LockFleet.Topic.Basic
import LockFleet.Word

/-!
This module contains the registry, which knows the last report of every device. Reports are ordered
by their sequence numbers, and one that comes late changes nothing.
-/

namespace LockFleet

structure Sequence where
  value : Nat
  bounded : value ≤ maxWord := by decide
  deriving DecidableEq, Repr

namespace Sequence

def clamp (n : Nat) : Sequence :=
  ⟨min n maxWord, Nat.min_le_right ..⟩

/--
The number that follows. The greatest one is followed by itself.
-/
def next (s : Sequence) : Sequence :=
  clamp (s.value + 1)

def max (s t : Sequence) : Sequence :=
  if s.value < t.value then t else s

end Sequence

structure DeviceRecord where
  message : String
  /-- The last state that was reported, unless a later report left it open. -/
  state : Option LifecycleState
  sequence : Sequence
  updatedAt : Instant
  deriving DecidableEq, Repr

namespace DeviceRecord

def status (r : DeviceRecord) : String :=
  match r.state with
  | some s => s.label
  | none => r.message

def assuming (r : DeviceRecord) (s : LifecycleState) : DeviceRecord :=
  { r with state := some s }

end DeviceRecord

inductive IngestOutcome where
  | applied (id : DeviceId) (state : Option LifecycleState)
  | log (id : DeviceId) (line : String)
  | invalid (id : DeviceId) (error : ValidationError)
  | ignored

structure Registry where
  records : Roster DeviceRecord
  next : Sequence

namespace Registry

def empty : Registry :=
  ⟨.empty, ⟨0, by decide⟩⟩

instance : Inhabited Registry :=
  ⟨empty⟩

def get? (g : Registry) (id : DeviceId) : Option DeviceRecord :=
  g.records.get? id

def isStale (g : Registry) (id : DeviceId) (sequence : Sequence) : Bool :=
  (g.get? id).any fun r => sequence.value < r.sequence.value

def recordAfter (g : Registry) (now : Instant) (id : DeviceId) (report : Report)
    (sequence : Sequence) : DeviceRecord where
  message := report.message
  state := report.state.resolve ((g.get? id).bind DeviceRecord.state)
  sequence := sequence
  updatedAt := now

/--
Records a report, unless it is older than the recorded one. The answer is whether it was recorded.
-/
def apply (g : Registry) (now : Instant) (id : DeviceId) (report : Report)
    (sequence : Sequence) : Bool × Registry :=
  if g.isStale id sequence then (false, g)
  else
    (true, {
      records := g.records.insert id (g.recordAfter now id report sequence)
      next := g.next.max sequence.next })

def observe (g : Registry) (now : Instant) (id : DeviceId) (report : Report) : Registry :=
  (g.apply now id report g.next).2

def attribute? (segment : Option String) (fallback : Option DeviceId) : Option DeviceId :=
  match segment.bind DeviceId.ofText? with
  | some id => some id
  | none => fallback

def message? (root : Topic.StatusRoot) (payload : String) :
    Option (Except ValidationError DeviceMessage) :=
  match root with
  | .logs => none
  | .status => some ((StatusMessage.parse payload).map .status)
  | .bookingStatus => some ((BookingMessage.parse payload).map .booking)
  | .maintenanceStatus => some ((MaintenanceMessage.parse payload).map .maintenance)

def ingest (g : Registry) (now : Instant) (topic payload : String) (fallback : Option DeviceId) :
    IngestOutcome × Registry :=
  match Topic.StatusRoot.classify? topic with
  | none => (.ignored, g)
  | some (root, segment) =>
    match attribute? segment fallback with
    | none => (.ignored, g)
    | some id =>
      match message? root payload with
      | none => (.log id (String.ofList (Text.trim payload.toList)), g)
      | some (.error e) => (.invalid id e, g)
      | some (.ok m) =>
        let g := g.observe now id m.report
        (.applied id ((g.get? id).bind DeviceRecord.state), g)

end Registry
end LockFleet
