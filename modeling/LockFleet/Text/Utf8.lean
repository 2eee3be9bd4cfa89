/-!
This module contains the reading of UTF-8 octet by octet. Only the shortest form of a character is
read, and surrogates and code points past U+10FFFF are none.
-/

namespace LockFleet.Utf8

structure Partial where
  value : Nat
  more : Nat
  least : Nat
  most : Nat
  deriving DecidableEq, Repr

inductive Step where
  | char (c : Char)
  | wants (p : Partial)
  | invalid
  deriving DecidableEq, Repr

def first (octet : UInt8) : Step :=
  let n := octet.toNat
  if n < 0x80 then .char (Char.ofNat n)
  else if n < 0xC2 then .invalid
  else if n < 0xE0 then .wants ⟨n - 0xC0, 1, 0x80, 0xBF⟩
  else if n < 0xF0 then
    .wants ⟨n - 0xE0, 2, if n = 0xE0 then 0xA0 else 0x80, if n = 0xED then 0x9F else 0xBF⟩
  else if n < 0xF5 then
    .wants ⟨n - 0xF0, 3, if n = 0xF0 then 0x90 else 0x80, if n = 0xF4 then 0x8F else 0xBF⟩
  else .invalid

def Partial.next (p : Partial) (octet : UInt8) : Step :=
  let n := octet.toNat
  if n < p.least || p.most < n then .invalid
  else
    let value := 64 * p.value + (n - 0x80)
    if p.more ≤ 1 then .char (Char.ofNat value)
    else .wants ⟨value, p.more - 1, 0x80, 0xBF⟩

def step (p : Option Partial) (octet : UInt8) : Step :=
  match p with
  | none => first octet
  | some p => p.next octet

def decode (octets : List UInt8) : Option (List Char) :=
  go [] none octets
where
  go (before : List Char) : Option Partial → List UInt8 → Option (List Char)
    | none, [] => some before.reverse
    | some _, [] => none
    | p, octet :: rest =>
      match step p octet with
      | .char c => go (c :: before) none rest
      | .wants p => go before (some p) rest
      | .invalid => none

def encode (text : List Char) : List UInt8 :=
  text.flatMap String.utf8EncodeChar

end LockFleet.Utf8
