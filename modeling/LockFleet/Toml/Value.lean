/-!
This module contains the values of TOML documents.
-/

namespace LockFleet.Toml

/--
A value. Numbers with a fraction or an exponent, and points of time, are kept as they are written.
-/
inductive Value where
  | text (s : String)
  | integer (n : Int)
  | float (written : String)
  | boolean (b : Bool)
  | moment (written : String)
  | array (items : List Value)
  | table (members : List (String × Value))
  deriving Inhabited, Repr

abbrev Reading (α : Type) := Option (α × List Char)

def isBlank (c : Char) : Bool :=
  c == ' ' || c == '\t'

def skipBlanks (text : List Char) : List Char :=
  text.dropWhile isBlank

end LockFleet.Toml
