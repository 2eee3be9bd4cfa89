import LockFleet.Dispatch.Basic

/-!
This module contains what stands between the dispatcher and the broker.
-/

namespace LockFleet

inductive Publisher where
  | recording
  | offline
  /-- Takes every message and only logs it, which is for a service without a broker. -/
  | logging
  | link (connected hasRoom : Bool)
  deriving DecidableEq, Repr

namespace Publisher

def verdict : Publisher → Verdict
  | recording => .ok ()
  | offline => .error (.disconnected "recording publisher is offline")
  | logging => .ok ()
  | link false _ => .error (.disconnected "not connected to MQTT broker")
  | link true false => .error (.client "Failed to send mqtt requests to eventloop")
  | link true true => .ok ()

end Publisher
end LockFleet
