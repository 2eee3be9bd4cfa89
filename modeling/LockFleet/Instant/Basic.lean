/-!
This module contains instants of time.
-/

namespace LockFleet

/--
A point of time: the second that it lies in, counted from the start of the year 1970 in UTC without
leap seconds, and the nanoseconds since that second began. A leap second is the time from the
thousand millionth nanosecond of the second before it.
-/
structure Instant where
  second : Int
  nanosecond : Nat
  deriving DecidableEq, Repr, Inhabited

end LockFleet
