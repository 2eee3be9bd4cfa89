import LockFleet.Text.Decimal

/-!
This module contains the faults of a JSON text and the place in the text that a fault is reported at.
-/

namespace LockFleet.Json

inductive Fault where
  | endInValue
  | endInArray
  | endInObject
  | endInString
  | expectedValue
  | expectedLiteral
  | expectedColon
  | expectedItemSeparator
  | expectedMemberSeparator
  | nameNotString
  | trailingComma
  | trailingText
  | invalidNumber
  | numberOutOfRange
  | invalidEscape
  | halfSurrogatePair
  | loneSurrogate
  | controlCharacter
  | invalidUtf8
  | tooDeep
  deriving DecidableEq, Repr

def Fault.text : Fault → String
  | endInValue => "EOF while parsing a value"
  | endInArray => "EOF while parsing a list"
  | endInObject => "EOF while parsing an object"
  | endInString => "EOF while parsing a string"
  | expectedValue => "expected value"
  | expectedLiteral => "expected ident"
  | expectedColon => "expected `:`"
  | expectedItemSeparator => "expected `,` or `]`"
  | expectedMemberSeparator => "expected `,` or `\x7d`"
  | nameNotString => "key must be a string"
  | trailingComma => "trailing comma"
  | trailingText => "trailing characters"
  | invalidNumber => "invalid number"
  | numberOutOfRange => "number out of range"
  | invalidEscape => "invalid escape"
  | halfSurrogatePair => "unexpected end of hex escape"
  | loneSurrogate => "lone leading surrogate in hex escape"
  | controlCharacter => "control character (\\u0000-\\u001F) found while parsing a string"
  | invalidUtf8 => "invalid unicode code point"
  | tooDeep => "recursion limit exceeded"

/--
A fault and its place. Lines count from one, and the column is how many octets of the line there are
up to the place.
-/
structure Refusal where
  fault : Fault
  line : Nat
  column : Nat
  deriving DecidableEq, Repr

/--
The fault at the last of some octets, or at their end. A line feed begins a line of its own, in
column zero.
-/
def Refusal.after (octets : List UInt8) (fault : Fault) : Refusal :=
  ⟨fault, octets.count 0x0A + 1, (octets.reverse.takeWhile (· != 0x0A)).length⟩

def Refusal.text (r : Refusal) : String :=
  let line := String.ofList (Text.numeral r.line)
  let column := String.ofList (Text.numeral r.column)
  r.fault.text ++ " at line " ++ line ++ " column " ++ column

/--
Why a reader stops at an octet: the fault, and how many of the octets read, that one included, lie
past the place of the fault.
-/
structure Stop where
  fault : Fault
  past : Nat
  deriving DecidableEq, Repr

end LockFleet.Json
