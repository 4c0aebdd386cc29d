import SimApprove.Client.Basic

/-!
# Carrying out a command

A command is checked first, and a client sees it only if the check passes.
`ApproveCommand.execute` is this step for any client, and `ApproveCommand.run`
announces it in the log.
-/

namespace SimApprove.ApproveCommand

variable {σ : Type}

def running (clientName : String) : Log.Event where
  level := .info
  origin := .dispatch
  message := "running command"
  fields := [.quoted "command" name, .quoted "client" clientName]

def dispatching (clientName : String) (a : Approval) : Log.Event where
  level := .debug
  origin := .approveCommand
  message := "dispatching approval"
  fields := [.quoted "client" clientName, .bare "bundle_id" a.bundleId,
    .bare "permissions" a.permissions.names, .quoted "scheme" a.schemeText]

def execute (c : ApproveCommand) (client : Client σ) : Action σ CommandError Unit :=
  match c.toApproval with
  | .error e => Action.fail e
  | .ok a => do
    Action.emit (dispatching client.name a)
    (client.approve a).mapError .client

def run (c : ApproveCommand) (client : Client σ) : Action σ CommandError Unit := do
  Action.emit (running client.name)
  c.execute client

end SimApprove.ApproveCommand
