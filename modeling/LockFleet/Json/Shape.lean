import LockFleet.Json.Reader

/-!
This module contains the reading of JSON values into records of known fields.

A record is given by an object, in which every field occurs at most once and members that are no
fields are skimmed, or by an array of all its fields in their order.
-/

namespace LockFleet.Json

inductive Shape where
  | whole
  | record (fields : List (String × Shape))
  | list (item : Shape)
  deriving Inhabited

def Shape.plainRecord (names : List String) : Shape :=
  .record (names.map fun n => (n, .whole))

def Shape.part? (s : Shape) (frame : Frame) : Option Shape :=
  match s, frame with
  | .record fields, .member _ name => (fields.find? fun f => f.1 == name).map Prod.snd
  | .record fields, .items before => (fields[before.length]?).map Prod.snd
  | .list item, .items _ => some item
  | .record _, .members _ => some .whole
  | _, _ => some .whole

/--
Whether a value within some open arrays and objects, the outermost one first, is no part of the shape.
-/
def Shape.skims (s : Shape) : List Frame → Bool
  | [] => false
  | frame :: rest =>
    match s.part? frame with
    | some part => part.skims rest
    | none => true

def readShape (s : Shape) (octets : List UInt8) : Except Refusal Json :=
  readSkimming (fun frames => s.skims frames.reverse) octets

def fields? (names : List String) (v : Json) : Option (List (Option Json)) :=
  match v with
  | object members =>
    if names.all fun n => members.countP (fun m => m.1 == n) ≤ 1 then
      some (names.map fun n => member? members n)
    else none
  | array items => if items.length = names.length then some (items.map some) else none
  | _ => none

def string? : Json → Option String
  | string s => some s
  | _ => none

def word? : Json → Option Nat
  | integer n => if 0 ≤ n then some n.toNat else none
  | _ => none

/--
One of some names, given as a string or as the only member, with the value null, of an object.
-/
def name? {α : Type} (ofName? : String → Option α) : Json → Option α
  | string s => ofName? s
  | object [(s, null)] => ofName? s
  | _ => none

def optional? {α : Type} (read : Json → Option α) : Option Json → Option (Option α)
  | none => some none
  | some null => some none
  | some v => (read v).map some

end LockFleet.Json
