import LockFleet.Toml.Quoted
import LockFleet.Toml.Scalar
import LockFleet.Toml.Table

/-!
This module contains the reading of TOML documents. A document is a sequence of lines: headers of
tables, keys with their values, and comments.
-/

namespace LockFleet.Toml

def maxDepth : Nat := 79

def maxParts : Nat := 79

def isKeyChar (c : Char) : Bool :=
  c.isAlphanum || c == '_' || c == '-'

def readPart (text : List Char) : Reading String :=
  match text with
  | '"' :: rest => (readBasic [] .plain rest).map fun r => (String.ofList r.1, r.2)
  | '\'' :: rest => (readLiteral [] rest).map fun r => (String.ofList r.1, r.2)
  | text =>
    let part := text.takeWhile isKeyChar
    if part = [] then none else some (String.ofList part, text.drop part.length)

def readKey (parts : Nat) (before : List String) (text : List Char) :
    Reading (List String × String) :=
  match parts with
  | 0 => none
  | parts + 1 =>
    match readPart (skipBlanks text) with
    | none => none
    | some (part, rest) =>
      match skipBlanks rest with
      | '.' :: rest => readKey parts (part :: before) rest
      | rest => some ((before.reverse, part), rest)

def skipGaps (inComment : Bool) : List Char → Option (List Char)
  | [] => some []
  | '\r' :: '\n' :: rest => skipGaps false rest
  | c :: rest =>
    if c = '\n' then skipGaps false rest
    else if inComment then if isTextChar c then skipGaps true rest else none
    else if isBlank c then skipGaps false rest
    else if c = '#' then skipGaps true rest
    else some (c :: rest)

mutual

/--
Reads a value, within at most `depth` more arrays and tables in braces.
-/
def readValue (fuel depth : Nat) (text : List Char) : Reading Value :=
  match fuel with
  | 0 => none
  | fuel + 1 =>
    match text with
    | '[' :: rest =>
      match depth with
      | 0 => none
      | depth + 1 => readItems fuel depth [] rest
    | '{' :: rest =>
      match depth with
      | 0 => none
      | depth + 1 =>
        match skipBlanks rest with
        | '}' :: rest => some (.table [], rest)
        | rest => readPairs fuel depth [] rest
    | '"' :: _ => (readString text).map fun r => (.text (String.ofList r.1), r.2)
    | '\'' :: _ => (readString text).map fun r => (.text (String.ofList r.1), r.2)
    | text => readScalar text

def readItems (fuel depth : Nat) (before : List Value) (text : List Char) : Reading Value :=
  match fuel with
  | 0 => none
  | fuel + 1 =>
    match skipGaps false text with
    | none => none
    | some (']' :: rest) => some (.array before.reverse, rest)
    | some text =>
      match readValue fuel depth text with
      | none => none
      | some (v, rest) =>
        match skipGaps false rest with
        | some (',' :: rest) => readItems fuel depth (v :: before) rest
        | some (']' :: rest) => some (.array (v :: before).reverse, rest)
        | _ => none

def readPairs (fuel depth : Nat) (before : List (List String × String × Value))
    (text : List Char) : Reading Value :=
  match fuel with
  | 0 => none
  | fuel + 1 =>
    match readKey maxParts [] text with
    | some ((path, key), '=' :: rest) =>
      match readValue fuel depth (skipBlanks rest) with
      | none => none
      | some (v, rest) =>
        let pairs := (path, key, v) :: before
        match skipBlanks rest with
        | ',' :: rest => readPairs fuel depth pairs rest
        | '}' :: rest => (tableOfPairs? pairs.reverse).map fun t => (t, rest)
        | _ => none
    | _ => none

end

inductive Statement where
  | header (path : List String) (key : String)
  | arrayHeader (path : List String) (key : String)
  | assign (path : List String) (key : String) (v : Value)

def readLineEnd (text : List Char) : Option (List Char) :=
  let rest :=
    match skipBlanks text with
    | '#' :: rest => rest.dropWhile isTextChar
    | rest => rest
  match rest with
  | [] => some []
  | '\n' :: rest => some rest
  | '\r' :: '\n' :: rest => some rest
  | _ => none

def readStatement (text : List Char) : Reading Statement :=
  match text with
  | '[' :: '[' :: rest =>
    match readKey maxParts [] rest with
    | some ((path, key), ']' :: ']' :: rest) => some (.arrayHeader path key, rest)
    | _ => none
  | '[' :: rest =>
    match readKey maxParts [] rest with
    | some ((path, key), ']' :: rest) => some (.header path key, rest)
    | _ => none
  | text =>
    match readKey maxParts [] text with
    | some ((path, key), '=' :: rest) =>
      let rest := skipBlanks rest
      (readValue (rest.length + 1) maxDepth rest).map fun r => (.assign path key r.1, r.2)
    | _ => none

def readStatements (fuel : Nat) (before : List Statement) (text : List Char) :
    Option (List Statement) :=
  match fuel with
  | 0 => none
  | fuel + 1 =>
    match readLineEnd text with
    | some [] => some before.reverse
    | some rest => readStatements fuel before rest
    | none =>
      match readStatement (skipBlanks text) with
      | none => none
      | some (s, rest) =>
        match readLineEnd rest with
        | some [] => some (s :: before).reverse
        | some rest => readStatements fuel (s :: before) rest
        | none => none

structure Document where
  root : Table
  current : List String

namespace Document

def empty : Document :=
  ⟨.explicit [], []⟩

def add (d : Document) : Statement → Option Document
  | .assign path key v =>
    (d.root.change false (Table.assign path key (.value v)) d.current).map fun root =>
      ⟨root, d.current⟩
  | .header path key =>
    (d.root.change false (Table.openTable key) path).map fun root => ⟨root, path ++ [key]⟩
  | .arrayHeader path key =>
    (d.root.change false (Table.openElement key) path).map fun root => ⟨root, path ++ [key]⟩

end Document

def skipMark : List Char → List Char
  | '\uFEFF' :: rest => rest
  | text => text

def read (text : List Char) : Option (List (String × Value)) := do
  let text := skipMark text
  let statements ← readStatements (text.length + 1) [] text
  let document ← statements.foldlM Document.add .empty
  some (Item.toMembers document.root.members)

end LockFleet.Toml
