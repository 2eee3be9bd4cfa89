import LockFleet.Command
import LockFleet.Issue
import LockFleet.Json.Reader

/-!
This module contains the bodies of requests: JSON objects of which one member names a command.
-/

namespace LockFleet

abbrev Members := List (String × Json)

namespace Body

/--
Space, tab, line feed, form feed and carriage return.
-/
def isBlank (octet : UInt8) : Bool :=
  octet == 0x20 || octet == 0x09 || octet == 0x0A || octet == 0x0C || octet == 0x0D

def decode (octets : List UInt8) : Except ValidationError Members :=
  if octets.all isBlank then .ok []
  else
    match Json.read octets with
    | .error refusal => .error (.single (.malformed refusal.text))
    | .ok v =>
      match v.normalize with
      | .object members => .ok members
      | v => .error (.single (.notObject v))

def optionalCommand (w : Workflow) (field : String) (members : Members) :
    Except ValidationError (Option Command) :=
  match Json.member? members field with
  | none => .ok none
  | some .null => .ok none
  | some (.string word) =>
    match w.command? word with
    | some c => .ok (some c)
    | none => .error (.single (.notOneOf field w.words word))
  | some v => .error (.single (.notString field w.words v))

def requiredCommand (w : Workflow) (field : String) (members : Members) :
    Except ValidationError Command :=
  match optionalCommand w field members with
  | .error e => .error e
  | .ok (some c) => .ok c
  | .ok none => .error (.single (.missing field w.words))

def command (w : Workflow) (octets : List UInt8) : Except ValidationError Command :=
  match decode octets with
  | .error e => .error e
  | .ok members =>
    match w.default? with
    | none => requiredCommand w w.field members
    | some c =>
      match optionalCommand w w.field members with
      | .error e => .error e
      | .ok named => .ok (named.getD c)

end Body
end LockFleet
