import LockFleet.Command
import LockFleet.Failure
import LockFleet.Registry.Basic

/-!
This module contains the decision whether a command may be sent to a device.
-/

namespace LockFleet

structure Accepted where
  device : DeviceId
  command : Command
  reason : Option String
  deriving DecidableEq

namespace Accepted

def topic (a : Accepted) : String :=
  a.command.workflow.root.topic (some a.device.text)

def payload (a : Accepted) : String :=
  a.command.word

end Accepted

namespace Plan

def brokenIssue : String := "Device is broken and must be maintained first"

def checkKnown (id : DeviceId) (current target : LifecycleState) (c : Command) :
    Except Refusal String :=
  if current = .broken ∧ c.needsWorkingLock then
    .error (.maintenanceRequired id.text current brokenIssue)
  else
    match Transition.check current target with
    | .error rejection => .error (.ofRejection id.text rejection)
    | .ok reason =>
      if c = .cancelReservation ∧ current ≠ .reserved then
        .error (.reservationNotFound id.text none)
      else .ok reason

def checkRecord (id : DeviceId) (r : DeviceRecord) (target : LifecycleState) (c : Command) :
    Except Refusal String :=
  match r.state with
  | some current => checkKnown id current target c
  | none =>
    match Transition.checkLabels r.message target.label with
    | .ok reason => .ok reason
    | .error rejection => .error (.ofRejection id.text rejection)

/--
Decides whether a command may be sent. A command without a target always may. A device that never
reported takes no command that changes its state, except for one that sets it.
-/
def plan (id : DeviceId) (record : Option DeviceRecord) (c : Command) : Except Refusal Accepted :=
  match c.target? with
  | none => .ok ⟨id, c, none⟩
  | some target =>
    match record with
    | none =>
      if c.workflow = .state then .ok ⟨id, c, none⟩ else .error (.deviceNotFound id.text)
    | some r =>
      match checkRecord id r target c with
      | .ok reason => .ok ⟨id, c, some reason⟩
      | .error refusal => .error refusal

end Plan
end LockFleet
