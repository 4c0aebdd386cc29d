import SimApprove.Client.Basic

/-!
# The dry run

A client that logs what it is asked to approve and leaves the state alone.
-/

namespace SimApprove.DryRun

def event (udid : String) (a : Approval) : Log.Event where
  level := .info
  origin := .dryRunClient
  message := "dry-run: would approve permissions"
  fields := [.bare "udid" udid, .bare "bundle_id" a.bundleId,
    .bare "permissions" a.permissions.names, .quoted "scheme" a.schemeText]

def client (σ : Type) (udid : String) : Client σ where
  name := "dry-run"
  approve a := Action.emit (event udid a)

end SimApprove.DryRun
