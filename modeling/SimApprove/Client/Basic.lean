import SimApprove.Approval
import SimApprove.Session

/-!
# Clients

A client carries out an approval on some state. Nothing else is known about it:
it may change the state in any way, log, and fail.
-/

namespace SimApprove

structure Client (σ : Type) where
  /-- The backend's name in log lines. -/
  name : String
  approve : Approval → Action σ ClientError Unit

end SimApprove
