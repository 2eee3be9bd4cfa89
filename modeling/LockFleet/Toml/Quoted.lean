import LockFleet.Text.Hex
import LockFleet.Toml.Value

/-!
This module contains the reading of the four kinds of TOML strings. Basic strings stand in double
quotes and have escapes, literal strings stand in single quotes and have none. Either kind may span
lines if its quotes are tripled.
-/

namespace LockFleet.Toml

def isTextChar (c : Char) : Bool :=
  c == '\t' || (0x20 ≤ c.toNat && c.toNat != 0x7F)

def escaped? : Char → Option Char
  | 'b' => some '\x08'
  | 't' => some '\t'
  | 'n' => some '\n'
  | 'f' => some '\x0c'
  | 'r' => some '\r'
  | '"' => some '"'
  | '\\' => some '\\'
  | _ => none

def codeLength? : Char → Option Nat
  | 'u' => some 4
  | 'U' => some 8
  | _ => none

def charOfCode? (n : Nat) : Option Char :=
  if n.isValidChar then some (Char.ofNat n) else none

inductive BasicMode where
  | plain
  | escape
  | code (missing value : Nat)
  deriving DecidableEq

def escapeStep? (c : Char) : Option (Char ⊕ BasicMode) :=
  match escaped? c, codeLength? c with
  | some d, _ => some (.inl d)
  | none, some n => some (.inr (.code n 0))
  | none, none => none

def codeStep? (missing value : Nat) (c : Char) : Option (Char ⊕ BasicMode) :=
  match Text.hexValue? c with
  | none => none
  | some d =>
    let value := 16 * value + d
    if missing ≤ 1 then (charOfCode? value).map .inl else some (.inr (.code (missing - 1) value))

/--
Reads a basic string after its opening quote. The characters before are given in reverse.
-/
def readBasic (before : List Char) (mode : BasicMode) : List Char → Reading (List Char)
  | [] => none
  | c :: rest =>
    match mode with
    | .plain =>
      if c = '"' then some (before.reverse, rest)
      else if c = '\\' then readBasic before .escape rest
      else if isTextChar c then readBasic (c :: before) .plain rest
      else none
    | .escape =>
      match escapeStep? c with
      | some (.inl d) => readBasic (d :: before) .plain rest
      | some (.inr mode) => readBasic before mode rest
      | none => none
    | .code missing value =>
      match codeStep? missing value c with
      | some (.inl d) => readBasic (d :: before) .plain rest
      | some (.inr mode) => readBasic before mode rest
      | none => none

def readLiteral (before : List Char) : List Char → Reading (List Char)
  | [] => none
  | c :: rest =>
    if c = '\'' then some (before.reverse, rest)
    else if isTextChar c then readLiteral (c :: before) rest
    else none

inductive LinesMode where
  | plain
  /-- After some quotes, which may belong to the string or end it. -/
  | quotes (count : Nat)
  | return
  | escape
  | code (missing value : Nat)
  /-- After a backslash and a blank, which have to end the line. -/
  | lineEnd
  | lineEndReturn
  /-- Within the blanks and line ends that a backslash at the end of a line removes. -/
  | skip
  | skipReturn
  deriving DecidableEq

def LinesMode.ofBasic : BasicMode → LinesMode
  | .plain => .plain
  | .escape => .escape
  | .code missing value => .code missing value

/--
What one more character makes of a string that may span lines: the characters before it, in reverse,
and the mode that follows.
-/
def linesStep? (quote : Char) (escapes : Bool) (before : List Char) (mode : LinesMode) (c : Char) :
    Option (List Char × LinesMode) :=
  match mode with
  | .plain => plainStep before
  | .quotes count =>
    if c = quote then if count < 5 then some (before, .quotes (count + 1)) else none
    else plainStep (List.replicate count quote ++ before)
  | .return => if c = '\n' then some ('\n' :: before, .plain) else none
  | .escape =>
    if isBlank c then some (before, .lineEnd)
    else if c = '\n' then some (before, .skip)
    else if c = '\r' then some (before, .lineEndReturn)
    else settled (escapeStep? c)
  | .code missing value => settled (codeStep? missing value c)
  | .lineEnd =>
    if isBlank c then some (before, .lineEnd)
    else if c = '\n' then some (before, .skip)
    else if c = '\r' then some (before, .lineEndReturn)
    else none
  | .lineEndReturn => if c = '\n' then some (before, .skip) else none
  | .skip =>
    if isBlank c || c == '\n' then some (before, .skip)
    else if c = '\r' then some (before, .skipReturn)
    else plainStep before
  | .skipReturn => if c = '\n' then some (before, .skip) else none
where
  plainStep (before : List Char) : Option (List Char × LinesMode) :=
    if c = quote then some (before, .quotes 1)
    else if c = '\n' then some ('\n' :: before, .plain)
    else if c = '\r' then some (before, .return)
    else if escapes && c == '\\' then some (before, .escape)
    else if isTextChar c then some (c :: before, .plain)
    else none
  settled (step : Option (Char ⊕ BasicMode)) : Option (List Char × LinesMode) :=
    step.map fun s =>
      match s with
      | .inl d => (d :: before, .plain)
      | .inr mode => (before, .ofBasic mode)

/--
Reads a string that may span lines after its three opening quotes. It ends with three quotes, before
which two more may belong to the string.
-/
def readLines (quote : Char) (escapes : Bool) (before : List Char) (mode : LinesMode) :
    List Char → Reading (List Char)
  | [] => closed mode []
  | c :: rest =>
    if c ≠ quote ∧ (closed mode []).isSome then closed mode (c :: rest)
    else
      match linesStep? quote escapes before mode c with
      | some (before, mode) => readLines quote escapes before mode rest
      | none => none
where
  closed (mode : LinesMode) (rest : List Char) : Reading (List Char) :=
    match mode with
    | .quotes count =>
      if count < 3 then none
      else some ((List.replicate (count - 3) quote ++ before).reverse, rest)
    | _ => none

def skipFirstLineEnd : List Char → List Char
  | '\n' :: rest => rest
  | '\r' :: '\n' :: rest => rest
  | text => text

def readString : List Char → Reading (List Char)
  | '"' :: '"' :: '"' :: rest => readLines '"' true [] .plain (skipFirstLineEnd rest)
  | '\'' :: '\'' :: '\'' :: rest => readLines '\'' false [] .plain (skipFirstLineEnd rest)
  | '"' :: rest => readBasic [] .plain rest
  | '\'' :: rest => readLiteral [] rest
  | _ => none

end LockFleet.Toml
