/-!
This module contains hexadecimal digits: their values, and the digits that write a number.
-/

namespace LockFleet.Text

def hexValue? (c : Char) : Option Nat :=
  if '0' ≤ c ∧ c ≤ '9' then some (c.toNat - '0'.toNat)
  else if 'a' ≤ c ∧ c ≤ 'f' then some (c.toNat - 'a'.toNat + 10)
  else if 'A' ≤ c ∧ c ≤ 'F' then some (c.toNat - 'A'.toNat + 10)
  else none

def isHexDigit (c : Char) : Bool :=
  (hexValue? c).isSome

def hexNumber? (digits : List Char) : Option Nat :=
  digits.foldlM (fun n c => (hexValue? c).map (16 * n + ·)) 0

def hexDigits : (width n : Nat) → List Char
  | 0, _ => []
  | width + 1, n => hexDigits width (n / 16) ++ [Nat.digitChar (n % 16)]

def hexDigitsUpper (width n : Nat) : List Char :=
  (hexDigits width n).map Char.toUpper

theorem lt_of_hexValue?_eq_some {c : Char} {n : Nat} (h : hexValue? c = some n) : c.toNat < 0x80 := by
  unfold hexValue? at h
  split at h
  . next hc => exact Nat.lt_of_le_of_lt (show c.toNat ≤ 0x39 from hc.2) (by decide)
  split at h
  . next hc => exact Nat.lt_of_le_of_lt (show c.toNat ≤ 0x66 from hc.2) (by decide)
  split at h
  . next hc => exact Nat.lt_of_le_of_lt (show c.toNat ≤ 0x46 from hc.2) (by decide)
  . cases h

theorem forall_char_of_ascii {p : Char → Prop} (hascii : ∀ n < 0x80, p (Char.ofNat n))
    (hother : ∀ c : Char, 0x80 ≤ c.toNat → p c) (c : Char) : p c := by
  rcases Nat.lt_or_ge c.toNat 0x80 with hc | hc
  . have h := hascii c.toNat hc
    rwa [Char.ofNat_toNat] at h
  . exact hother c hc

theorem length_hexDigits (width n : Nat) : (hexDigits width n).length = width := by
  induction width generalizing n with
  | zero => rfl
  | succ width ih => simp [hexDigits, ih]

end LockFleet.Text
