import LockFleet.Json.Basic
import LockFleet.Text.Hex

/-!
This module contains the JSON text of a value, without any space.
-/

namespace LockFleet.Json

def printChar (c : Char) : List Char :=
  match c with
  | '"' => ['\\', '"']
  | '\\' => ['\\', '\\']
  | '\x08' => ['\\', 'b']
  | '\x0c' => ['\\', 'f']
  | '\n' => ['\\', 'n']
  | '\r' => ['\\', 'r']
  | '\t' => ['\\', 't']
  | c => if c.toNat < 0x20 then '\\' :: 'u' :: Text.hexDigits 4 c.toNat else [c]

def printString (s : String) : List Char :=
  '"' :: s.toList.flatMap printChar ++ ['"']

def commaSeparated : List (List Char) → List Char
  | [] => []
  | [part] => part
  | part :: next :: rest => part ++ ',' :: commaSeparated (next :: rest)

mutual

def print : Json → List Char
  | null => "null".toList
  | bool b => if b then "true".toList else "false".toList
  | integer n => Text.integerText n
  | real x => if x.isFinite then x.text else "null".toList
  | string s => printString s
  | array items => '[' :: commaSeparated (printItems items) ++ [']']
  | object members => '{' :: commaSeparated (printMembers members) ++ ['}']
termination_by structural v => v

def printItems : List Json → List (List Char)
  | [] => []
  | v :: rest => print v :: printItems rest
termination_by structural items => items

def printMembers : List (String × Json) → List (List Char)
  | [] => []
  | m :: rest => printMember m :: printMembers rest
termination_by structural members => members

def printMember : String × Json → List Char
  | (name, v) => printString name ++ ':' :: print v
termination_by structural m => m

end

end LockFleet.Json
