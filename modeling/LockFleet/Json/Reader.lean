import LockFleet.Json.Numeral
import LockFleet.Json.StringToken

/-!
This module contains the reading of JSON texts octet by octet. The reader is a machine whose state
holds the arrays and objects that are open, so reading a text in two parts is the same as reading it
at once.

A part of a text that nobody looks at can be skimmed: its form is read, but neither the size of its
numbers, nor the pairing of its surrogates, nor its nesting matters.
-/

namespace LockFleet.Json

/--
An array or object that is open. What was read of it is kept with the last part first.
-/
inductive Frame where
  | items (before : List Json)
  | members (before : List (String × Json))
  | member (before : List (String × Json)) (name : String)
  deriving Inhabited

inductive Phase where
  | value
  | firstItem
  | nextItem
  | firstName
  | nextName
  | name (t : StringToken)
  | colon
  | literal (rest : List UInt8) (v : Json)
  | number (n : Numeral)
  | string (t : StringToken)
  | separator
  | done (v : Json)

structure State where
  frames : List Frame
  phase : Phase

/--
Whether what is read within some open arrays and objects is only skimmed.
-/
abbrev Skim := List Frame → Bool

namespace State

def start : State :=
  ⟨[], .value⟩

def maxDepth : Nat := 127

def deliver (frames : List Frame) (v : Json) : State :=
  match frames with
  | [] => ⟨[], .done v⟩
  | .items before :: rest => ⟨.items (v :: before) :: rest, .separator⟩
  | .member before name :: rest => ⟨.members ((name, v) :: before) :: rest, .separator⟩
  | .members before :: rest => ⟨.members before :: rest, .separator⟩

def close (frames : List Frame) : State :=
  match frames with
  | .items before :: rest => deliver rest (.array before.reverse)
  | .members before :: rest => deliver rest (.object before.reverse)
  | frames => ⟨frames, .separator⟩

def isSpace (octet : UInt8) : Bool :=
  octet == 0x20 || octet == 0x09 || octet == 0x0A || octet == 0x0D

def fail {α : Type} (fault : Fault) : Except Stop α :=
  .error ⟨fault, 0⟩

def enter (skim : Skim) (frames : List Frame) (frame : Frame) (phase : Phase) :
    Except Stop State :=
  if maxDepth ≤ frames.length ∧ !skim frames then fail .tooDeep
  else .ok ⟨frame :: frames, phase⟩

def beginValue (skim : Skim) (frames : List Frame) (octet : UInt8) : Except Stop State :=
  match Char.ofNat octet.toNat with
  | 'n' => .ok ⟨frames, .literal (Utf8.encode ['u', 'l', 'l']) .null⟩
  | 't' => .ok ⟨frames, .literal (Utf8.encode ['r', 'u', 'e']) (.bool true)⟩
  | 'f' => .ok ⟨frames, .literal (Utf8.encode ['a', 'l', 's', 'e']) (.bool false)⟩
  | '-' => .ok ⟨frames, .number .afterSign⟩
  | '"' => .ok ⟨frames, .string .start⟩
  | '[' => enter skim frames (.items []) .firstItem
  | '{' => enter skim frames (.members []) .firstName
  | _ =>
    match Numeral.digit? octet with
    | some d => .ok ⟨frames, .number (.ofDigit false d)⟩
    | none => fail .expectedValue

def afterValue (s : State) (octet : UInt8) : Except Stop State :=
  if isSpace octet then .ok s
  else
    match s.frames with
    | [] => fail .trailingText
    | .items _ :: _ =>
      if octet = 0x2C then .ok { s with phase := .nextItem }
      else if octet = 0x5D then .ok (close s.frames)
      else fail .expectedItemSeparator
    | _ =>
      if octet = 0x2C then .ok { s with phase := .nextName }
      else if octet = 0x7D then .ok (close s.frames)
      else fail .expectedMemberSeparator

def beginName (s : State) (octet : UInt8) : Except Stop State :=
  if octet = 0x22 then .ok { s with phase := .name .start } else fail .nameNotString

def nameRead (frames : List Frame) (text : List Char) : State :=
  match frames with
  | .members before :: rest => ⟨.member before (String.ofList text) :: rest, .colon⟩
  | frames => ⟨frames, .colon⟩

def step (skim : Skim) (s : State) (octet : UInt8) : Except Stop State :=
  match s.phase with
  | .value => if isSpace octet then .ok s else beginValue skim s.frames octet
  | .firstItem =>
    if isSpace octet then .ok s
    else if octet = 0x5D then .ok (close s.frames)
    else beginValue skim s.frames octet
  | .nextItem =>
    if isSpace octet then .ok s
    else if octet = 0x5D then fail .trailingComma
    else beginValue skim s.frames octet
  | .firstName =>
    if isSpace octet then .ok s
    else if octet = 0x7D then .ok (close s.frames)
    else s.beginName octet
  | .nextName =>
    if isSpace octet then .ok s
    else if octet = 0x7D then fail .trailingComma
    else s.beginName octet
  | .name t =>
    match t.step (skim s.frames) octet with
    | .more t => .ok { s with phase := .name t }
    | .closed text => .ok (nameRead s.frames text)
    | .stop e => .error e
  | .colon =>
    if isSpace octet then .ok s
    else if octet = 0x3A then .ok { s with phase := .value }
    else fail .expectedColon
  | .literal rest v =>
    match rest with
    | [] => .ok (deliver s.frames v)
    | o :: rest =>
      if octet ≠ o then fail .expectedLiteral
      else if rest.isEmpty then .ok (deliver s.frames v)
      else .ok { s with phase := .literal rest v }
  | .number n =>
    match n.step (skim s.frames) octet with
    | .more n => .ok { s with phase := .number n }
    | .fault f => fail f
    | .ended =>
      match n.valueOr (skim s.frames) with
      | .ok v => (deliver s.frames v).afterValue octet
      | .error f => .error ⟨f, 1⟩
  | .string t =>
    match t.step (skim s.frames) octet with
    | .more t => .ok { s with phase := .string t }
    | .closed text => .ok (deliver s.frames (.string (String.ofList text)))
    | .stop e => .error e
  | .separator => s.afterValue octet
  | .done _ => s.afterValue octet

/--
Reads octets one after the other. A fault comes with the number of octets up to its place, `count` of
which were read before.
-/
def run (skim : Skim) (s : State) (count : Nat) : List UInt8 → Except (Fault × Nat) State
  | [] => .ok s
  | octet :: rest =>
    match s.step skim octet with
    | .ok s => run skim s (count + 1) rest
    | .error e => .error (e.fault, count + 1 - e.past)

def endFault (frames : List Frame) : Fault :=
  match frames with
  | [] => .endInValue
  | .items _ :: _ => .endInArray
  | _ => .endInObject

def finish (skim : Skim) (s : State) : Except Fault Json :=
  match s.phase with
  | .done v => .ok v
  | .number n =>
    match n.valueOr (skim s.frames) with
    | .ok v => if s.frames.isEmpty then .ok v else .error (endFault s.frames)
    | .error f => .error f
  | .value | .nextItem | .nextName | .literal .. => .error .endInValue
  | .firstItem | .firstName | .colon | .separator => .error (endFault s.frames)
  | .name _ | .string _ => .error .endInString

end State

def readSkimming (skim : Skim) (octets : List UInt8) : Except Refusal Json :=
  match State.start.run skim 0 octets with
  | .error (fault, n) => .error (.after (octets.take n) fault)
  | .ok s =>
    match s.finish skim with
    | .ok v => .ok v
    | .error fault => .error (.after octets fault)

def read (octets : List UInt8) : Except Refusal Json :=
  readSkimming (fun _ => false) octets

end LockFleet.Json
