import LockFleet.Text.Decimal
import LockFleet.Text.Hex

/-!
This module contains the writing of TOML documents that consist of tables of plain values. A string is
written in the plainest way that can hold it.
-/

namespace LockFleet.Toml

inductive Plain where
  | text (s : String)
  | integer (n : Int)
  | boolean (b : Bool)
  deriving DecidableEq, Repr

def isControl (c : Char) : Bool :=
  (c.toNat < 0x20 && c != '\t' && c != '\n') || c.toNat == 0x7F

def longestRun (c : Char) (text : List Char) : Nat :=
  go 0 text
where
  go (run : Nat) : List Char → Nat
    | [] => run
    | d :: rest => if d = c then go (run + 1) rest else max run (go 0 rest)

inductive Style where
  | basic
  | literal
  | basicLines
  | literalLines
  deriving DecidableEq, Repr

/--
The first way in which nothing but tabs is escaped. If there is none, control characters are escaped.
-/
def styleOf (text : List Char) : Style :=
  let controls := text.any isControl
  let lines := text.contains '\n'
  let backslash := text.contains '\\'
  let doubles := longestRun '"' text
  let singles := longestRun '\'' text
  if !controls && !lines && !backslash && doubles == 0 then .basic
  else if !controls && !lines && singles == 0 then .literal
  else if !controls && !backslash && doubles ≤ 2 then .basicLines
  else if !controls && singles ≤ 2 then .literalLines
  else if lines then .basicLines
  else .basic

def escape? (lines : Bool) (c : Char) : Option (List Char) :=
  match c with
  | '\x08' => some ['\\', 'b']
  | '\t' => some ['\\', 't']
  | '\n' => if lines then none else some ['\\', 'n']
  | '\x0c' => some ['\\', 'f']
  | '\r' => some ['\\', 'r']
  | '\\' => some ['\\', '\\']
  | c => if isControl c then some ('\\' :: 'u' :: Text.hexDigitsUpper 4 c.toNat) else none

/--
Writes the characters of a basic string. Two quotes in a row may stand for themselves if the string
may span lines, and none otherwise. The count is that of the quotes right before the text.
-/
def escapeAll (lines : Bool) (quotes : Nat) : List Char → List Char
  | [] => []
  | c :: rest =>
    if c = '"' then
      if lines && quotes < 2 then c :: escapeAll lines (quotes + 1) rest
      else '\\' :: c :: escapeAll lines 0 rest
    else
      match escape? lines c with
      | some written => written ++ escapeAll lines 0 rest
      | none => c :: escapeAll lines 0 rest

def printText (text : List Char) : List Char :=
  let start := if text.contains '\n' then ['\n'] else []
  match styleOf text with
  | .basic => '"' :: escapeAll false 0 text ++ ['"']
  | .literal => '\'' :: text ++ ['\'']
  | .basicLines =>
    ['"', '"', '"'] ++ start ++ escapeAll true 0 text ++ ['"', '"', '"']
  | .literalLines => ['\'', '\'', '\''] ++ start ++ text ++ ['\'', '\'', '\'']

def printPlain : Plain → List Char
  | .text s => printText s.toList
  | .integer n => Text.integerText n
  | .boolean b => if b then "true".toList else "false".toList

def printLine (line : String × Plain) : List Char :=
  line.1.toList ++ " = ".toList ++ printPlain line.2 ++ ['\n']

def printSection (name : String) (lines : List (String × Plain)) : List Char :=
  '[' :: name.toList ++ [']', '\n'] ++ lines.flatMap printLine

def printSections (sections : List (String × List (String × Plain))) : List Char :=
  List.intercalate ['\n'] (sections.map fun s => printSection s.1 s.2)

end LockFleet.Toml
