import SimApprove.Error
import SimApprove.Log.Level
import SimApprove.Text.Blank

/-!
# Settings

What a user can configure, with the value that stands where nothing is
configured. `Settings.validate` tells which settings a run accepts, and of
several faults reports the first of a fixed order. `Settings.target` picks the
device.
-/

namespace SimApprove

structure ClientSettings where
  backend : String := "simctl"
  /-- The program that runs the simulator tool. -/
  xcrunPath : String := "xcrun"
  /-- How long one call of the tool may take. -/
  timeoutSeconds : UInt64 := 60
  deriving DecidableEq, Repr

structure Settings where
  /-- Where the settings would be read from, whether or not there is a file. -/
  configPath : String
  defaultUdid : Option String := none
  logLevel : String := "warn"
  client : ClientSettings := {}
  deriving DecidableEq, Repr

namespace Settings

def bootedDevice : String := "booted"

/-- A flag counts unless it is empty; then comes the configured default, as it is. -/
def target (s : Settings) (flag : Option String) : String :=
  ((flag.filter (· ≠ "")).or s.defaultUdid).getD bootedDevice

/-- A text that names no level stands for `warn`. -/
def level (s : Settings) : Log.Level := (Log.Level.ofText? s.logLevel).getD .warn

/-- The backends that can be configured; no name at all is one of them. -/
def backendNames : List String := ["simctl", "dry-run", "none", ""]

def validate (s : Settings) : Except ConfigError Unit :=
  if s.client.timeoutSeconds = 0 then
    .error (.validation "client.command_timeout_secs must be greater than 0")
  else if Text.trim s.client.xcrunPath = "" then
    .error (.validation "client.xcrun_path must not be empty")
  else if !backendNames.contains s.client.backend then
    .error (.unknownBackend s.client.backend)
  else if (Log.Level.ofText? s.logLevel).isNone then
    .error (.validation ("unknown log_level \"" ++ s.logLevel ++ "\""))
  else .ok ()

theorem backend_mem_of_validate {s : Settings} (h : s.validate = .ok ()) :
    s.client.backend ∈ backendNames := by
  unfold validate at h
  split at h
  · cases h
  split at h
  · cases h
  split at h
  · cases h
  · rename_i hb
    simpa using hb

end Settings

end SimApprove
