import SimApprove.Client.Basic
import SimApprove.Client.ConsentStore
import SimApprove.Client.Tool

/-!
# The simulator client

Each permission of an approval is one `Step`, and each step is one call of the
simulator tool. Photos and contacts are granted by the tool itself, a url scheme
is written to the device's preferences, and for the camera the tool is asked for
the device's home, whose consent database then gets a row. The first step that
fails ends the run; the steps before it stay done.
-/

namespace SimApprove

structure Simulator where
  udid : String
  /-- The program that runs the simulator tool. -/
  xcrun : String
  limit : Duration
  deriving DecidableEq, Repr

inductive Step
  | privacy (service : String)
  | camera
  | openScheme (scheme : String)
  deriving DecidableEq, Repr

/-- The preferences in which the device keeps approved schemes. -/
def schemeDomain : String := "com.apple.launchservices.schemeapproval"

def schemeKey (scheme : String) : String :=
  "com.apple.CoreSimulator.CoreSimulatorBridge-->" ++ scheme

def Approval.step (a : Approval) : Permission → Except ClientError Step
  | .photos => .ok (.privacy "photos")
  | .contacts => .ok (.privacy "contacts")
  | .camera => .ok .camera
  | .url =>
    match a.usableScheme? with
    | some scheme => .ok (.openScheme scheme)
    | none => .error (.invalidRequest "url permission requires a scheme")

def Step.arguments (udid app : String) : Step → List String
  | privacy service => ["simctl", "privacy", udid, "grant", service, app]
  | camera => ["simctl", "getenv", udid, "HOME"]
  | openScheme scheme =>
    ["simctl", "spawn", udid, "defaults", "write", schemeDomain, schemeKey scheme, "-string", app]

namespace Simulator

def call (sim : Simulator) (app : String) (step : Step) : Call :=
  ⟨sim.xcrun, step.arguments sim.udid app⟩

def runStep (sim : Simulator) (app : String) (step : Step) : Action World ClientError String :=
  (Tool.run sim.limit (sim.call app step)).mapError (Tool.classify sim.udid)

def homeOf (sim : Simulator) (output : String) : Except ClientError String :=
  let home := Text.trim output
  if home = "" then .error (.deviceNotFound sim.udid "simctl reported no HOME for the device")
  else .ok home

def grantCamera (path app : String) : Action World ClientError Unit :=
  ConsentStore.grant path Consent.cameraService app

/-! ## Approving -/

def grant (sim : Simulator) (a : Approval) (p : Permission) : Action World ClientError Unit :=
  match a.step p with
  | .error e => Action.fail e
  | .ok step => do
    let output ← sim.runStep a.bundleId step
    match step with
    | .camera =>
      match sim.homeOf output with
      | .error e => Action.fail e
      | .ok home => grantCamera (Consent.databasePath home) a.bundleId
    | _ => pure ()

def granted (sim : Simulator) (a : Approval) (p : Permission) : Log.Event where
  level := .info
  origin := .simulatorClient
  message := "permission granted"
  fields := [.bare "udid" sim.udid, .bare "bundle_id" a.bundleId, .bare "permission" p.name]

/-- Grants one permission after the other, up to the first failure. -/
def grantEach (sim : Simulator) (a : Approval) : List Permission → Action World ClientError Unit
  | [] => pure ()
  | p :: rest => do
    sim.grant a p
    Action.emit (sim.granted a p)
    sim.grantEach a rest

def client (sim : Simulator) : Client World where
  name := "simctl"
  approve a := sim.grantEach a a.permissions.toList

end Simulator

end SimApprove
