import LockFleet.Firmware
import LockFleet.Issue
import LockFleet.Text.Blank

/-!
This module contains the messages by which a lock reports its state, and the reports that they amount
to.
-/

namespace LockFleet

inductive ReportedState where
  | known (state : LifecycleState)
  /-- There is a state, but it is not known which one. -/
  | unresolved
  | silent
  deriving DecidableEq, Repr

def ReportedState.resolve (r : ReportedState) (previous : Option LifecycleState) :
    Option LifecycleState :=
  match r with
  | known state => some state
  | unresolved => none
  | silent => previous

structure Report where
  message : String
  state : ReportedState
  deriving DecidableEq, Repr

def statusPath : String := "status"

inductive StatusMessage where
  | online
  | lifecycle (state : LifecycleState)
  | stateChanged (digits : String)
  | currentState (digits : String)
  deriving DecidableEq, Repr

namespace StatusMessage

def onlineText : String := "ESP32 online"
def changedPrefix : String := "State changed to "
def currentPrefix : String := "Current state: "

def numberAfter? (start : String) (text : List Char) : Option String :=
  match start.toList.isPrefixOf? text with
  | some rest => if Text.isNumeral rest then some (String.ofList rest) else none
  | none => none

def expected : List String :=
  onlineText :: LifecycleState.all.map LifecycleState.label
    ++ [changedPrefix ++ "<n>", currentPrefix ++ "<n>"]

def parse (raw : String) : Except ValidationError StatusMessage :=
  let chars := Text.trim raw.toList
  let text := String.ofList chars
  if text = onlineText then .ok online
  else
    match LifecycleState.ofLabel? text with
    | some s => .ok (lifecycle s)
    | none =>
      match numberAfter? changedPrefix chars with
      | some digits => .ok (stateChanged digits)
      | none =>
        match numberAfter? currentPrefix chars with
        | some digits => .ok (currentState digits)
        | none => .error (.single (.notOneOf statusPath expected text))

def text : StatusMessage → String
  | online => onlineText
  | lifecycle s => s.label
  | stateChanged digits => changedPrefix ++ digits
  | currentState digits => currentPrefix ++ digits

def carriesState : StatusMessage → Bool
  | online => false
  | _ => true

def lifecycle? : StatusMessage → Option LifecycleState
  | online => none
  | lifecycle s => some s
  | stateChanged digits => FirmwareState.lifecycleOfDigits? digits.toList
  | currentState digits => FirmwareState.lifecycleOfDigits? digits.toList

def report (m : StatusMessage) : Report where
  message := m.text
  state :=
    match m.lifecycle? with
    | some s => .known s
    | none => if m.carriesState then .unresolved else .silent

end StatusMessage

inductive BookingMessage where
  /-- The lock opened for a rental. -/
  | booked
  /-- The lock closed after a rental. -/
  | available
  deriving DecidableEq, Repr

namespace BookingMessage

def all : List BookingMessage :=
  [booked, available]

def lifecycle : BookingMessage → LifecycleState
  | booked => .booked
  | available => .available

def text (m : BookingMessage) : String :=
  m.lifecycle.label

def parse (raw : String) : Except ValidationError BookingMessage :=
  let word := String.ofList (Text.trim raw.toList)
  match all.find? fun m => m.text == word with
  | some m => .ok m
  | none => .error (.single (.notOneOf statusPath (all.map text) word))

def report (m : BookingMessage) : Report :=
  ⟨m.text, .known m.lifecycle⟩

end BookingMessage

inductive MaintenanceMessage where
  | inProgress
  | completed
  deriving DecidableEq, Repr

namespace MaintenanceMessage

def all : List MaintenanceMessage :=
  [inProgress, completed]

def lifecycle : MaintenanceMessage → LifecycleState
  | inProgress => .maintained
  | completed => .available

def text : MaintenanceMessage → String
  | inProgress => "in_progress"
  | completed => "completed"

def parse (raw : String) : Except ValidationError MaintenanceMessage :=
  let word := String.ofList (Text.trim raw.toList)
  match all.find? fun m => m.text == word with
  | some m => .ok m
  | none => .error (.single (.notOneOf statusPath (all.map text) word))

def report (m : MaintenanceMessage) : Report :=
  ⟨m.text, .known m.lifecycle⟩

end MaintenanceMessage

inductive DeviceMessage where
  | status (m : StatusMessage)
  | booking (m : BookingMessage)
  | maintenance (m : MaintenanceMessage)
  deriving DecidableEq, Repr

def DeviceMessage.report : DeviceMessage → Report
  | status m => m.report
  | booking m => m.report
  | maintenance m => m.report

end LockFleet
