import LockFleet.Text.Decimal
import LockFleet.Word

/-!
This module contains double precision numbers, which are kept by their bits, and the decimal text of
a double. The text has the fewest digits that read back as the same number.
-/

namespace LockFleet

/--
A double precision number. Two numbers are equal if their bits are, which tells the two zeros apart.
-/
structure Binary64 where
  bits : UInt64
  deriving DecidableEq, Repr, Inhabited

namespace Binary64

def ofFloat (x : Float) : Binary64 :=
  ⟨x.toBits⟩

def toFloat (x : Binary64) : Float :=
  Float.ofBits x.bits

/--
The double that is nearest to a natural number below `2 ^ 64`.
-/
def ofNat (n : Nat) : Binary64 :=
  ofFloat n.toUInt64.toFloat

def neg (x : Binary64) : Binary64 :=
  ⟨x.bits ^^^ 0x8000000000000000⟩

def isNegative (x : Binary64) : Bool :=
  x.bits >>> 63 == 1

def exponentField (x : Binary64) : Nat :=
  (x.bits >>> 52).toNat % 2048

def fractionField (x : Binary64) : Nat :=
  x.bits.toNat % twoTo 52

def isZero (x : Binary64) : Bool :=
  x.exponentField == 0 && x.fractionField == 0

def isFinite (x : Binary64) : Bool :=
  x.exponentField != 2047

/--
The double that is nearest to `10 ^ k`, for `k` up to 308.
-/
def powerOfTen (k : Nat) : Binary64 :=
  ofFloat (Float.ofScientific 1 false k)

def mul (x y : Binary64) : Binary64 :=
  ofFloat (x.toFloat * y.toFloat)

def div (x y : Binary64) : Binary64 :=
  ofFloat (x.toFloat / y.toFloat)

/--
A quotient `num / den` together with the bounds of the numbers that round to it, which have the same
denominator.
-/
structure Interval where
  below : Nat
  num : Nat
  above : Nat
  den : Nat
  closed : Bool

/--
The numbers that round to the absolute value of a finite double. The gap below a power of two is
half as wide as the gap above it.
-/
def interval (x : Binary64) : Interval :=
  let e := x.exponentField
  let f := x.fractionField
  let m := if e = 0 then f else f + twoTo 52
  let q := if e = 0 then 1 else e
  let gap := if f = 0 ∧ 1 < e then 1 else 2
  let up := twoTo (q - 1077)
  let den := twoTo (1077 - q)
  ⟨(4 * m - gap) * up, 4 * m * up, (4 * m + 2) * up, den, m % 2 == 0⟩

def Interval.contains (i : Interval) (num den : Nat) : Bool :=
  let low := i.below * den
  let high := i.above * den
  let n := num * i.den
  (low < n || i.closed && low == n) && (n < high || i.closed && n == high)

/--
Digits `d₁ … dₙ` and an exponent `e` for the number `0.d₁…dₙ * 10 ^ e`.
-/
structure Scientific where
  digits : List Char
  exponent : Int

/--
The exponent `e` with `10 ^ (e - 1) ≤ num / den < 10 ^ e`, for a positive `num`.
-/
def Interval.magnitude (i : Interval) : Int :=
  let e := ((Text.numeral i.num).length : Int) - (Text.numeral i.den).length
  if i.num * tenTo (-e).toNat < i.den * tenTo e.toNat then e else e + 1

/--
The multiple of `10 ^ (e - n)` within the interval that is nearest to its number, where `10 ^ e`
bounds the number, if one of the two next to the number is within.
-/
def Interval.nearest? (i : Interval) (e : Int) (n : Nat) : Option Scientific :=
  let s := e - n
  let num := i.num * tenTo (-s).toNat
  let den := i.den * tenTo s.toNat
  let d := num / den
  let within (d : Nat) := i.contains (d * tenTo s.toNat) (tenTo (-s).toNat)
  let up := num - d * den > (d + 1) * den - num
  let choice :=
    if within d ∧ within (d + 1) then some (if up then d + 1 else d)
    else if within d then some d
    else if within (d + 1) then some (d + 1)
    else none
  choice.map fun d =>
    let digits := Text.numeral d
    let kept := (digits.reverse.dropWhile (· == '0')).reverse
    ⟨kept, s + digits.length⟩

/--
The shortest digits that round to the number. Seventeen digits always do.
-/
def Interval.shortest (i : Interval) : Scientific :=
  let e := i.magnitude
  ((List.range 17).findSome? fun n => i.nearest? e (n + 1)).getD ⟨['0'], 0⟩

def Scientific.text (s : Scientific) : List Char :=
  let n := s.digits.length
  let e := s.exponent
  if (n : Int) ≤ e ∧ e ≤ 16 then s.digits ++ List.replicate (e.toNat - n) '0' ++ ['.', '0']
  else if 0 < e ∧ e ≤ 16 then s.digits.take e.toNat ++ '.' :: s.digits.drop e.toNat
  else if -5 < e ∧ e ≤ 0 then '0' :: '.' :: List.replicate e.natAbs '0' ++ s.digits
  else
    let mantissa :=
      match s.digits with
      | d :: f :: rest => d :: '.' :: f :: rest
      | digits => digits
    mantissa ++ 'e' :: (if 0 < e then '+' else '-') :: Text.numeral (e - 1).natAbs

def text (x : Binary64) : List Char :=
  let sign := if x.isNegative then ['-'] else []
  if x.isZero then sign ++ ['0', '.', '0'] else sign ++ x.interval.shortest.text

end Binary64
end LockFleet
