import LockFleet.Json.Basic
import LockFleet.Text.Decimal
import LockFleet.Text.Levels

/-!
This module contains the selection of a part of a JSON value by a pointer such as `/items/0/state`.
-/

namespace LockFleet.Json

def unescapeStep : List Char → List Char
  | '~' :: '1' :: rest => '/' :: unescapeStep rest
  | '~' :: '0' :: rest => '~' :: unescapeStep rest
  | c :: rest => c :: unescapeStep rest
  | [] => []

def position? (step : List Char) : Option Nat :=
  if Text.isNumeral step ∧ (step.head? ≠ some '0' ∨ step.length = 1) then
    some (Text.numeralValue step)
  else none

def part? (v : Json) (step : List Char) : Option Json :=
  match v with
  | object members => member? members (String.ofList step)
  | array items => (position? step).bind fun n => items[n]?
  | _ => none

def pointer? (v : Json) (pointer : String) : Option Json :=
  match Text.levels pointer.toList with
  | [[]] => some v
  | [] :: steps => steps.foldlM (fun v step => v.part? (unescapeStep step)) v
  | _ => none

end LockFleet.Json
