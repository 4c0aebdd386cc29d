import SimApprove.Settings.Basic
import SimApprove.Text.Path
import SimApprove.Text.Utf8

/-!
# The environment

Environment variables hold bytes; one that is not UTF-8 counts as unset wherever
text is needed. `Settings.overriddenBy` puts a variable's value in the place of
a setting if the value is admissible for it, and else leaves the setting alone.
-/

namespace SimApprove

structure Environment where
  bindings : List (String × List UInt8)
  /-- The home directory that the account database names. -/
  accountHome : Option String
  deriving DecidableEq, Repr

namespace Environment

def bytes? (env : Environment) (name : String) : Option (List UInt8) :=
  (env.bindings.find? fun entry => entry.1 = name).map Prod.snd

def text? (env : Environment) (name : String) : Option String :=
  (env.bytes? name).bind Text.Utf8.decode?

def nonempty? (env : Environment) (name : String) : Option String :=
  (env.text? name).filter (· ≠ "")

/-- A home directory needs a name of at least one byte, whatever the bytes are. -/
def home? (env : Environment) : Option (List UInt8) :=
  match env.bytes? "HOME" with
  | some (b :: rest) => some (b :: rest)
  | _ => env.accountHome.map fun home => home.toUTF8.toList

def configPath (home : String) : String :=
  Text.joinPath (Text.joinPath home ".idbctl") "config.toml"

/-! ## Values for settings -/

def udid? (env : Environment) : Option String := env.nonempty? "IDBCTL_UDID"

def backend? (env : Environment) : Option String := env.nonempty? "IDBCTL_BACKEND"

def xcrunPath? (env : Environment) : Option String := env.nonempty? "IDBCTL_XCRUN"

def timeoutSeconds? (env : Environment) : Option UInt64 :=
  (env.text? "IDBCTL_TIMEOUT_SECS").bind Text.readUnsigned

def logLevel? (env : Environment) : Option String :=
  (env.text? "IDBCTL_LOG_LEVEL").filter fun text => (Log.Level.ofText? text).isSome

end Environment

def Settings.overriddenBy (s : Settings) (env : Environment) : Settings where
  configPath := s.configPath
  defaultUdid := env.udid?.or s.defaultUdid
  logLevel := env.logLevel?.getD s.logLevel
  client :=
    { backend := env.backend?.getD s.client.backend
      xcrunPath := env.xcrunPath?.getD s.client.xcrunPath
      timeoutSeconds := env.timeoutSeconds?.getD s.client.timeoutSeconds }

end SimApprove
