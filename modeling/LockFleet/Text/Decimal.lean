/-!
This module contains numbers written with ASCII decimal digits.
-/

namespace LockFleet.Text

def isNumeral (text : List Char) : Bool :=
  !text.isEmpty && text.all Char.isDigit

def numeralValue (digits : List Char) : Nat :=
  Nat.ofDigitChars 10 digits 0

def numeral (n : Nat) : List Char :=
  Nat.toDigits 10 n

theorem numeralValue_numeral (n : Nat) : numeralValue (numeral n) = n :=
  Nat.ofDigitChars_toDigits (by decide) (by decide)

def paddedNumeral (width n : Nat) : List Char :=
  List.replicate (width - (numeral n).length) '0' ++ numeral n

def integerText (n : Int) : List Char :=
  if n < 0 then '-' :: numeral n.natAbs else numeral n.natAbs

def dropPlus : List Char → List Char
  | '+' :: rest => rest
  | text => text

def pushDigit? (bound n : Nat) (c : Char) : Option Nat :=
  let m := 10 * n + (c.toNat - '0'.toNat)
  if m ≤ bound then some m else none

/--
Reads a number, with a plus sign in front or without one. This fails as soon as the digits that are read
exceed the bound.
-/
def number? (bound : Nat) (text : List Char) : Option Nat :=
  let digits := dropPlus text
  if isNumeral digits then digits.foldlM (pushDigit? bound) 0 else none

end LockFleet.Text
