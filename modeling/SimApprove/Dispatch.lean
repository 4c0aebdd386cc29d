import SimApprove.Client.Backend
import SimApprove.CommandLine.Invocation
import SimApprove.Execution

/-!
# Dispatch

An invocation meets the settings: they name the device and the client, and the
command is carried out by that client.
-/

namespace SimApprove.CommandLine

def Invocation.dispatch (i : Invocation) (s : Settings) : Action World ProgramError Unit :=
  match s.client.toClient (s.target i.udid) with
  | .error e => Action.fail (.config e)
  | .ok client => (i.command.run client).mapError .command

end SimApprove.CommandLine
