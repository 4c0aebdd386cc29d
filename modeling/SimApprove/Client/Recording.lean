import SimApprove.Client.Basic

/-!
# The recording client

A client that keeps the approvals it receives and then fails with a given
fault, if there is one.
-/

namespace SimApprove.Recording

abbrev Record := List Approval

def client (fault : Option ClientError) : Client Record where
  name := "recording"
  approve a := Action.transform fun received =>
    (match fault with
    | some e => .error e
    | none => .ok (), received ++ [a])

end SimApprove.Recording
