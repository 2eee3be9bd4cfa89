import LockFleet.Text.Hex
import LockFleet.Text.Printable

/-!
This module contains texts in quotes for people to read. What would not show by itself is escaped.
-/

namespace LockFleet.Text

def quoteChar (c : Char) : List Char :=
  match c with
  | '\x00' => ['\\', '0']
  | '\t' => ['\\', 't']
  | '\n' => ['\\', 'n']
  | '\r' => ['\\', 'r']
  | '"' => ['\\', '"']
  | '\\' => ['\\', '\\']
  | c => if isPrintable c then [c] else ['\\', 'u', '{'] ++ Nat.toDigits 16 c.toNat ++ ['}']

def quote (text : List Char) : List Char :=
  '"' :: text.flatMap quoteChar ++ ['"']

end LockFleet.Text
