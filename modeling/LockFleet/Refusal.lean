import LockFleet.Json.Basic
import LockFleet.Transition

/-!
This module contains the reasons for which a command is refused in view of the state of its device.
-/

namespace LockFleet

inductive Refusal where
  | invalidTransition (message current requested : String) (allowed : List LifecycleState)
      (reason : String)
  | deviceNotFound (device : String)
  | alreadyInState (device : String) (current requested : LifecycleState)
  | reservationNotFound (device : String) (reservation : Option String)
  | maintenanceRequired (device : String) (current : LifecycleState) (issue : String)
  deriving DecidableEq, Repr

namespace Refusal

def ofRejection (device : String) : Transition.Rejection → Refusal
  | .alreadyIn s => alreadyInState device s s
  | .notAllowed current requested allowed reason =>
    invalidTransition ("Cannot transition from " ++ current ++ " to " ++ requested) current requested
      allowed reason
  | .unknownCurrent current requested =>
    invalidTransition ("Unknown current state: " ++ current) current requested []
      Transition.unknownCurrentReason

def message : Refusal → String
  | invalidTransition message .. => message
  | deviceNotFound device => "Device " ++ device ++ " not found"
  | alreadyInState device current _ =>
    "Device " ++ device ++ " is already in state " ++ current.label
  | reservationNotFound device _ => "No active reservation for device " ++ device
  | maintenanceRequired device _ issue =>
    "Device " ++ device ++ " requires maintenance: " ++ issue

def code : Refusal → String
  | invalidTransition .. => "INVALID_STATE_TRANSITION"
  | deviceNotFound .. => "DEVICE_NOT_FOUND"
  | alreadyInState .. => "DEVICE_ALREADY_IN_STATE"
  | reservationNotFound .. => "RESERVATION_NOT_FOUND"
  | maintenanceRequired .. => "MAINTENANCE_REQUIRED"

def status : Refusal → Nat
  | deviceNotFound .. => 404
  | reservationNotFound .. => 404
  | invalidTransition .. => 409
  | alreadyInState .. => 409
  | maintenanceRequired .. => 409

def details : Refusal → Json
  | invalidTransition _ current requested allowed reason =>
    .object [
      ("currentState", .string current),
      ("requestedState", .string requested),
      ("allowedStates", .array (allowed.map fun s => .string s.label)),
      ("reason", .string reason)]
  | deviceNotFound device => .object [("deviceId", .string device)]
  | alreadyInState device current requested =>
    .object [
      ("deviceId", .string device),
      ("currentState", .string current.label),
      ("requestedState", .string requested.label)]
  | reservationNotFound device reservation =>
    Json.objectOf [
      ("deviceId", some (.string device)),
      ("reservationId", reservation.map .string)]
  | maintenanceRequired device current issue =>
    .object [
      ("deviceId", .string device),
      ("currentState", .string current.label),
      ("issue", .string issue)]

end Refusal
end LockFleet
