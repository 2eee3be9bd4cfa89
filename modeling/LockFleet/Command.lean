import LockFleet.Lifecycle
import LockFleet.Topic.Basic

/-!
This module contains the commands that a lock understands. Each one belongs to a workflow, and within
its workflow it is named by a word.
-/

namespace LockFleet

inductive Workflow where
  | state
  | booking
  | maintenance
  | reservation
  | status
  deriving DecidableEq, Repr

namespace Workflow

def all : List Workflow :=
  [state, booking, maintenance, reservation, status]

def name : Workflow → String
  | state => "state"
  | booking => "booking"
  | maintenance => "maintenance"
  | reservation => "reservation"
  | status => "status"

def ofName? (name : String) : Option Workflow :=
  all.find? fun w => w.name == name

def field : Workflow → String
  | state => "state"
  | _ => "command"

def root : Workflow → Topic.CommandRoot
  | state => .state
  | booking => .booking
  | maintenance => .maintenance
  | reservation => .reservation
  | status => .status

end Workflow

inductive Command where
  | setAvailable
  | setBooked
  | setMaintained
  | setUnavailable
  | book
  | release
  | startMaintenance
  | completeMaintenance
  | reserve
  | cancelReservation
  | requestStatus
  deriving DecidableEq, Repr

namespace Command

def all : List Command :=
  [setAvailable, setBooked, setMaintained, setUnavailable, book, release, startMaintenance,
    completeMaintenance, reserve, cancelReservation, requestStatus]

def workflow : Command → Workflow
  | setAvailable | setBooked | setMaintained | setUnavailable => .state
  | book | release => .booking
  | startMaintenance | completeMaintenance => .maintenance
  | reserve | cancelReservation => .reservation
  | requestStatus => .status

def target? : Command → Option LifecycleState
  | setAvailable => some .available
  | setBooked => some .booked
  | setMaintained => some .maintained
  | setUnavailable => some .unavailable
  | book => some .booked
  | release => some .available
  | startMaintenance => some .maintained
  | completeMaintenance => some .available
  | reserve => some .reserved
  | cancelReservation => some .available
  | requestStatus => none

def word : Command → String
  | setAvailable => "available"
  | setBooked => "booked"
  | setMaintained => "maintained"
  | setUnavailable => "unavailable"
  | book => "book"
  | release => "release"
  | startMaintenance => "start"
  | completeMaintenance => "complete"
  | reserve => "reserve"
  | cancelReservation => "cancel"
  | requestStatus => "request"

def caseName : Command → String
  | setAvailable => "Available"
  | setBooked => "Booked"
  | setMaintained => "Maintained"
  | setUnavailable => "Unavailable"
  | book => "Book"
  | release => "Release"
  | startMaintenance => "Start"
  | completeMaintenance => "Complete"
  | reserve => "Reserve"
  | cancelReservation => "Cancel"
  | requestStatus => "Request"

/--
The name of the command in the records of the web interface, which is made from its name as a case by a
rule, without regard to the word of the command.
-/
def publishedName (c : Command) : String :=
  String.ofList (c.caseName.toList.map Char.toLower)

def needsWorkingLock : Command → Bool
  | book | reserve => true
  | _ => false

end Command

namespace Workflow

def commands (w : Workflow) : List Command :=
  Command.all.filter fun c => c.workflow == w

def words (w : Workflow) : List String :=
  w.commands.map Command.word

def command? (w : Workflow) (word : String) : Option Command :=
  w.commands.find? fun c => c.word == word

def published? (w : Workflow) (name : String) : Option Command :=
  w.commands.find? fun c => c.publishedName == name

def default? : Workflow → Option Command
  | status => some .requestStatus
  | _ => none

end Workflow
end LockFleet
