import SimApprove.Session
import SimApprove.Text.Blank
import SimApprove.Text.Utf8
import SimApprove.World.Basic

/-!
# Running the simulator tool

One call of a tool, with its standard output as the result. A call that ends
without success fails with what it wrote to standard error: decoded, trimmed
and, if long, cut. `classify` recognises complaints about the device.
-/

namespace SimApprove.Tool

/-- Bytes of standard error that a message keeps. -/
def errorLimit : Nat := 4096

def shorten (text : String) : String :=
  if errorLimit < Text.byteSize text.toList then
    String.ofList (Text.cut errorLimit text.toList) ++ "... [truncated]"
  else text

def errorText (stderr : List UInt8) : String := shorten (Text.trim (Text.Utf8.decodeLossy stderr))

def spawning (call : Call) : Log.Event where
  level := .debug
  origin := .toolRunner
  message := "spawning"
  fields := [.bare "command" call.text]

def outcome (limit : Duration) (call : Call) : Attempt → Except ClientError String
  | .refused cause => .error (.spawn call.program cause)
  | .hung => .error (.timeout call.text limit)
  | .finished finish =>
    if finish.status.success then .ok (Text.Utf8.decodeLossy finish.stdout)
    else .error (.commandFailed call.text finish.status.text (errorText finish.stderr))

theorem outcome_of_success {limit : Duration} {call : Call} {finish : Finish}
    (h : finish.status = .exited 0) :
    outcome limit call (.finished finish) = .ok (Text.Utf8.decodeLossy finish.stdout) := by
  simp [outcome, ExitStatus.success, h]

theorem outcome_of_failure {limit : Duration} {call : Call} {finish : Finish}
    (h : finish.status ≠ .exited 0) :
    outcome limit call (.finished finish) =
      .error (.commandFailed call.text finish.status.text (errorText finish.stderr)) := by
  simp [outcome, ExitStatus.success, h]

def run (limit : Duration) (call : Call) : Action World ClientError String := do
  Action.emit (spawning call)
  Action.transform fun w =>
    let (attempt, after) := w.launch call
    (outcome limit call attempt, after)

theorem run_run (limit : Duration) (call : Call) (s : Session World) :
    (run limit call).run s = (outcome limit call (s.state.attempt call),
      ⟨s.state.record call, s.log ++ [spawning call]⟩) := rfl

/-- Texts by which the tool says that it cannot find the device. -/
def missingDeviceTexts : List String := ["Invalid device", "No devices are booted"]

def classify (udid : String) : ClientError → ClientError
  | .commandFailed command status stderr =>
    if missingDeviceTexts.any (Text.contains stderr ·) then .deviceNotFound udid stderr
    else .commandFailed command status stderr
  | e => e

end SimApprove.Tool
