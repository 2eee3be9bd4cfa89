import LockFleet.Lifecycle
import LockFleet.Text.Decimal
import LockFleet.Word

/-!
This module contains the states of the lock's controller. The controller tells its states apart by
number, and each one stands for a lifecycle state.
-/

namespace LockFleet

inductive FirmwareState where
  | booting
  | joiningNetwork
  | connected
  | faulty
  | available
  | booked
  | maintained
  | unavailable
  deriving DecidableEq, Repr

namespace FirmwareState

def all : List FirmwareState :=
  [booting, joiningNetwork, connected, faulty, available, booked, maintained, unavailable]

def name : FirmwareState → String
  | booting => "STATE_INIT"
  | joiningNetwork => "STATE_CONNECTING_WIFI"
  | connected => "STATE_CONNECTED"
  | faulty => "STATE_ERROR"
  | available => "STATE_AVAILABLE"
  | booked => "STATE_BOOKED"
  | maintained => "STATE_MAINTAINED"
  | unavailable => "STATE_UNAVAILABLE"

def ofName? (name : String) : Option FirmwareState :=
  all.find? fun s => s.name == name

def unknownName (text : String) : String :=
  "Unknown firmware state: '" ++ text ++ "'"

def ordinal : FirmwareState → Nat
  | booting => 0
  | joiningNetwork => 1
  | connected => 2
  | faulty => 3
  | available => 4
  | booked => 5
  | maintained => 6
  | unavailable => 7

def ofOrdinal? (n : Nat) : Option FirmwareState :=
  all[n]?

def lifecycle : FirmwareState → LifecycleState
  | booting => .unavailable
  | joiningNetwork => .unavailable
  | connected => .available
  | faulty => .unavailable
  | available => .available
  | booked => .booked
  | maintained => .maintained
  | unavailable => .unavailable

def lifecycleAt? (n : Nat) : Option LifecycleState :=
  (ofOrdinal? n).map lifecycle

theorem ofOrdinal?_ordinal (s : FirmwareState) : ofOrdinal? s.ordinal = some s := by
  cases s <;> rfl

def lifecycleOfDigits? (digits : List Char) : Option LifecycleState :=
  (Text.number? maxWord digits).bind lifecycleAt?

end FirmwareState
end LockFleet
