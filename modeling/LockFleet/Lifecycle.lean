/-!
This module contains the six lifecycle states of a lock.
-/

namespace LockFleet

inductive LifecycleState where
  | available
  | reserved
  | booked
  | broken
  | maintained
  | unavailable
  deriving DecidableEq, Repr

namespace LifecycleState

def all : List LifecycleState :=
  [available, reserved, booked, broken, maintained, unavailable]

def label : LifecycleState → String
  | available => "available"
  | reserved => "reserved"
  | booked => "booked"
  | broken => "broken"
  | maintained => "maintained"
  | unavailable => "unavailable"

def ofLabel? (label : String) : Option LifecycleState :=
  all.find? fun s => s.label == label

def unknownLabel (text : String) : String :=
  "Unknown lifecycle state: '" ++ text ++ "'"

theorem mem_all (s : LifecycleState) : s ∈ all := by
  cases s <;> decide

theorem ofLabel?_label (s : LifecycleState) : ofLabel? s.label = some s := by
  cases s <;> decide

theorem label_eq_of_ofLabel? {label : String} {s : LifecycleState} (h : ofLabel? label = some s) :
    s.label = label := by
  simpa using List.find?_some h

end LifecycleState
end LockFleet
