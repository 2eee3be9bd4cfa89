import LockFleet.Text.Hex

/-!
This module contains the removal of percent escapes from a part of a web address.
-/

namespace LockFleet.Text

/--
Replaces `%` and two hexadecimal digits by the octet they write. Any other `%` stands for itself.
-/
def percentDecode : List UInt8 → List UInt8
  | [] => []
  | [a] => [a]
  | [a, b] => [a, b]
  | a :: b :: c :: rest =>
    if a = 0x25 then
      match hexNumber? [Char.ofNat b.toNat, Char.ofNat c.toNat] with
      | some n => UInt8.ofNat n :: percentDecode rest
      | none => a :: percentDecode (b :: c :: rest)
    else
      a :: percentDecode (b :: c :: rest)

end LockFleet.Text
