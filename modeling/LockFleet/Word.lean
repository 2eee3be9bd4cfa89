/-!
This module contains the bounds of integers of 64 bits, and powers of two and of ten.
-/

namespace LockFleet

def maxWord : Nat := 18446744073709551615

def maxSigned : Nat := 9223372036854775807

def twoTo (k : Nat) : Nat :=
  Nat.pow 2 k

def tenTo (k : Nat) : Nat :=
  Nat.pow 10 k

theorem maxWord_eq : maxWord = twoTo 64 - 1 := by
  decide

theorem maxSigned_eq : maxSigned = twoTo 63 - 1 := by
  decide

end LockFleet
