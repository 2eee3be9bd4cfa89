import LockFleet.Json.Basic
import LockFleet.Json.Fault

/-!
This module contains the reading of JSON numbers octet by octet.

An integer of 64 bits, signed or unsigned, is kept as it is. Any other number becomes a double: the
digits that fit into 64 bits are converted and then scaled by the power of ten that remains, with one
rounding for each step. Hyphen and zero alone make the double `-0.0`.
-/

namespace LockFleet.Json

inductive Numeral.Stage where
  | sign
  | zero
  | whole
  /-- Within an integer part whose first digits fill 64 bits. -/
  | wholeFull
  | point
  | fraction
  /-- Within a fraction whose digits no longer count. -/
  | fractionFull
  | letter
  | exponentSign
  | exponent
  /-- Within an exponent so far below zero, or of so many digits after a zero, that the number is
  zero. -/
  | vanished
  deriving DecidableEq, Repr

structure Numeral where
  stage : Numeral.Stage
  negative : Bool
  /-- The digits, below `2 ^ 64`. -/
  significand : Nat
  /-- The power of ten of the last digit of the significand. -/
  scale : Int
  exponentNegative : Bool
  exponent : Nat
  deriving DecidableEq, Repr

namespace Numeral

/--
What one more octet makes of a number: a longer number, nothing because the number ended before it, or
a fault at the octet.
-/
inductive Step where
  | more (n : Numeral)
  | ended
  | fault (f : Fault)

def afterSign : Numeral :=
  ⟨.sign, true, 0, 0, false, 0⟩

def ofDigit (negative : Bool) (d : Nat) : Numeral :=
  ⟨if d = 0 then .zero else .whole, negative, d, 0, false, 0⟩

def digit? (octet : UInt8) : Option Nat :=
  if 0x30 ≤ octet ∧ octet ≤ 0x39 then some (octet.toNat - 0x30) else none

def isExponentLetter (octet : UInt8) : Bool :=
  octet == 0x65 || octet == 0x45

def maxExponent : Nat := 2147483647

def afterWhole (n : Numeral) (octet : UInt8) : Step :=
  if octet = 0x2E then .more { n with stage := .point }
  else if isExponentLetter octet then .more { n with stage := .letter }
  else .ended

def afterFraction (n : Numeral) (octet : UInt8) : Step :=
  if isExponentLetter octet then .more { n with stage := .letter } else .ended

def addWhole (n : Numeral) (d : Nat) : Numeral :=
  let s := 10 * n.significand + d
  if s ≤ maxWord then { n with stage := .whole, significand := s }
  else { n with stage := .wholeFull, scale := n.scale + 1 }

def addFraction (n : Numeral) (d : Nat) : Numeral :=
  let s := 10 * n.significand + d
  if s ≤ maxWord then
    { n with stage := .fraction, significand := s, scale := n.scale - 1 }
  else { n with stage := .fractionFull }

def addExponent (skim : Bool) (n : Numeral) (d : Nat) : Step :=
  let e := 10 * n.exponent + d
  if e ≤ maxExponent then .more { n with stage := .exponent, exponent := e }
  else if n.significand ≠ 0 ∧ !n.exponentNegative ∧ !skim then .fault .numberOutOfRange
  else .more { n with stage := .vanished }

def step (skim : Bool) (n : Numeral) (octet : UInt8) : Step :=
  match n.stage, digit? octet with
  | .sign, some d => .more (ofDigit n.negative d)
  | .sign, none => .fault .invalidNumber
  | .zero, some _ => .fault .invalidNumber
  | .zero, none => n.afterWhole octet
  | .whole, some d => .more (n.addWhole d)
  | .whole, none => n.afterWhole octet
  | .wholeFull, some _ => .more { n with scale := n.scale + 1 }
  | .wholeFull, none => n.afterWhole octet
  | .point, some d => .more (n.addFraction d)
  | .point, none => .fault .invalidNumber
  | .fraction, some d => .more (n.addFraction d)
  | .fraction, none => n.afterFraction octet
  | .fractionFull, some _ => .more n
  | .fractionFull, none => n.afterFraction octet
  | .letter, some d => .more { n with stage := .exponent, exponent := d }
  | .letter, none =>
    if octet = 0x2B then .more { n with stage := .exponentSign }
    else if octet = 0x2D then .more { n with stage := .exponentSign, exponentNegative := true }
    else .fault .invalidNumber
  | .exponentSign, some d => .more { n with stage := .exponent, exponent := d }
  | .exponentSign, none => .fault .invalidNumber
  | .exponent, some d => n.addExponent skim d
  | .exponent, none => .ended
  | .vanished, some _ => .more n
  | .vanished, none => .ended

def scaleDown (x : Binary64) (k : Nat) : Binary64 :=
  if k ≤ 308 then x.div (Binary64.powerOfTen k)
  else if x.isZero then x
  else scaleDown (x.div (Binary64.powerOfTen 308)) (k - 308)
termination_by k

def scaled? (significand : Nat) (scale : Int) : Option Binary64 :=
  let x := Binary64.ofNat significand
  if scale < 0 then some (scaleDown x scale.natAbs)
  else if scale ≤ 308 then
    let y := x.mul (Binary64.powerOfTen scale.natAbs)
    if y.isFinite then some y else none
  else if x.isZero then some x
  else none

def signed (n : Numeral) (x : Binary64) : Json :=
  .real (if n.negative then x.neg else x)

def value (n : Numeral) : Except Fault Json :=
  match n.stage with
  | .sign | .point | .letter | .exponentSign => .error .endInValue
  | .zero | .whole =>
    if !n.negative then .ok (.integer n.significand)
    else if 0 < n.significand ∧ n.significand ≤ maxSigned + 1 then .ok (.integer (-n.significand))
    else .ok (n.signed (Binary64.ofNat n.significand))
  | .vanished => .ok (n.signed (Binary64.ofNat 0))
  | .wholeFull | .fraction | .fractionFull | .exponent =>
    let e : Int := if n.exponentNegative then -n.exponent else n.exponent
    match scaled? n.significand (n.scale + e) with
    | some x => .ok (n.signed x)
    | none => .error .numberOutOfRange

def valueOr (skim : Bool) (n : Numeral) : Except Fault Json :=
  match n.value with
  | .error .numberOutOfRange => if skim then .ok .null else .error .numberOutOfRange
  | v => v

end Numeral
end LockFleet.Json
