import LockFleet.Json.Fault
import LockFleet.Text.Hex
import LockFleet.Text.Utf8

/-!
This module contains the reading of JSON strings octet by octet, from the opening quote to the closing
one. Escapes are read as they come. Whether the text is UTF-8 is settled by the closing quote, and text
that is not is reported as many octets before that quote as the text has from its first fault on. An
escape counts there for the octets of the character that it stands for.
-/

namespace LockFleet.Json

/--
How the octets of a text, in which each escape is replaced by its character, form characters.
-/
inductive Encoding where
  | whole
  /-- The last `count` octets begin a character. -/
  | within (p : Utf8.Partial) (count : Nat)
  /-- The last `count` octets begin with the first ones that are no UTF-8. -/
  | broken (count : Nat)
  deriving DecidableEq, Repr

def Encoding.append (c : Char) : Encoding → Encoding
  | whole => whole
  | within _ count => broken (count + c.utf8Size)
  | broken count => broken (count + c.utf8Size)

inductive StringToken.Mode where
  | plain
  | escape
  | hex (seen : List UInt8) (lead : Option Nat)
  | pair (lead : Nat)
  | pairEscape (lead : Nat)
  deriving DecidableEq, Repr

structure StringToken where
  chars : List Char
  encoding : Encoding
  mode : StringToken.Mode
  deriving DecidableEq, Repr

namespace StringToken

/--
What one more octet makes of a string: a longer string, the text of the string if the octet is its
closing quote, or a fault.
-/
inductive Step where
  | more (t : StringToken)
  | closed (text : List Char)
  | stop (s : Stop)

def start : StringToken :=
  ⟨[], .whole, .plain⟩

def escaped? (octet : UInt8) : Option Char :=
  match Char.ofNat octet.toNat with
  | '"' => some '"'
  | '\\' => some '\\'
  | '/' => some '/'
  | 'b' => some '\x08'
  | 'f' => some '\x0c'
  | 'n' => some '\n'
  | 'r' => some '\r'
  | 't' => some '\t'
  | _ => none

def isLeadingSurrogate (n : Nat) : Bool :=
  0xD800 ≤ n && n ≤ 0xDBFF

def isTrailingSurrogate (n : Nat) : Bool :=
  0xDC00 ≤ n && n ≤ 0xDFFF

def joinSurrogates (lead trail : Nat) : Char :=
  Char.ofNat ((lead - 0xD800) * 0x400 + (trail - 0xDC00) + 0x10000)

def push (t : StringToken) (c : Char) : Step :=
  .more ⟨c :: t.chars, t.encoding.append c, .plain⟩

def enter (t : StringToken) (mode : Mode) : Step :=
  .more { t with mode := mode }

def fail (fault : Fault) : Step :=
  .stop ⟨fault, 0⟩

def plainStep (t : StringToken) (octet : UInt8) : Step :=
  if octet = 0x22 then
    match t.encoding with
    | .whole => .closed t.chars.reverse
    | .within _ count => .stop ⟨.invalidUtf8, count⟩
    | .broken count => .stop ⟨.invalidUtf8, count⟩
  else if octet = 0x5C then t.enter .escape
  else if octet < 0x20 then fail .controlCharacter
  else
    match t.encoding with
    | .broken count => .more { t with encoding := .broken (count + 1) }
    | .whole => feed none 0
    | .within p count => feed (some p) count
where
  feed (p : Option Utf8.Partial) (count : Nat) : Step :=
    match Utf8.step p octet with
    | .char c => .more ⟨c :: t.chars, .whole, .plain⟩
    | .wants p => .more { t with encoding := .within p (count + 1) }
    | .invalid => .more { t with encoding := .broken (count + 1) }

def unitStep (skim : Bool) (t : StringToken) (lead : Option Nat) (n : Nat) : Step :=
  if skim then t.push (if n < 0xD800 ∨ 0xDFFF < n then Char.ofNat n else '\uFFFD')
  else
    match lead with
    | none =>
      if isTrailingSurrogate n then fail .loneSurrogate
      else if isLeadingSurrogate n then t.enter (.pair n)
      else t.push (Char.ofNat n)
    | some m =>
      if isTrailingSurrogate n then t.push (joinSurrogates m n) else fail .loneSurrogate

/--
Reads one more octet. The four octets after `\u` are read before it is known that one of them is no
hexadecimal digit.
-/
def step (skim : Bool) (t : StringToken) (octet : UInt8) : Step :=
  match t.mode with
  | .plain => t.plainStep octet
  | .escape =>
    if octet = 0x75 then t.enter (.hex [] none)
    else
      match escaped? octet with
      | some c => t.push c
      | none => fail .invalidEscape
  | .hex seen lead =>
    let seen := seen ++ [octet]
    if seen.length < 4 then t.enter (.hex seen lead)
    else
      match Text.hexNumber? (seen.map fun o => Char.ofNat o.toNat) with
      | some n => t.unitStep skim lead n
      | none => fail .invalidEscape
  | .pair lead => if octet = 0x5C then t.enter (.pairEscape lead) else fail .halfSurrogatePair
  | .pairEscape lead =>
    if octet = 0x75 then t.enter (.hex [] (some lead)) else fail .halfSurrogatePair

end StringToken
end LockFleet.Json
