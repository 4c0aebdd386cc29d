import SimApprove.Settings.Basic
import SimApprove.Text.Quoted
import SimApprove.Toml.Document

/-!
# Settings in a TOML document

`Settings.ofTable` takes the settings from the table of a document. Unknown keys
are passed over, and of several misfits the one with the first key is reported.
The client's settings are a table, or an array of the same values in the order of
`ClientSettings.keys`.
-/

namespace SimApprove

inductive Expected
  | text
  | seconds
  | client
  deriving DecidableEq, Repr

inductive Misfit
  | wrongType (found : Toml.Value) (expected : Expected)
  | negative (number : Int)
  | unreadable
  deriving Repr

def Expected.description : Expected → String
  | text => "a string"
  | seconds => "u64"
  | client => "struct ClientConfig"

/-- Integers beyond 64 bits are marked as such. -/
def integerDescription (n : Int) : String :=
  "integer `" ++ toString n ++ "`" ++
    (if Text.fitsSigned 64 n || Text.fitsUnsigned 64 n then ""
    else if Text.fitsSigned 128 n then " as i128"
    else " as u128")

def Toml.Value.description : Toml.Value → String
  | .string text => "string " ++ Text.quote text
  | .integer n => integerDescription n
  | .float f => "floating point `" ++ f.text ++ "`"
  | .unreadable => "number"
  | .boolean b => "boolean `" ++ (if b then "true" else "false") ++ "`"
  | .array _ => "sequence"
  | .moment | .table _ => "map"

namespace Misfit

def message : Misfit → String
  | wrongType found expected =>
    "invalid type: " ++ found.description ++ ", expected " ++ expected.description
  | negative number =>
    "invalid value: " ++ integerDescription number ++ ", expected " ++ Expected.seconds.description
  | unreadable => "the number has no value"

def ofValue (v : Toml.Value) (expected : Expected) : Misfit :=
  match v with
  | .unreadable => .unreadable
  | v => .wrongType v expected

end Misfit

/-! ## Single values -/

def textOf : Toml.Value → Except Misfit String
  | .string text => .ok text
  | v => .error (.ofValue v .text)

def secondsOf : Toml.Value → Except Misfit UInt64
  | .integer n =>
    if Text.fitsUnsigned 64 n then .ok (UInt64.ofNat n.toNat)
    else if Text.fitsSigned 64 n then .error (.negative n)
    else .error (.ofValue (.integer n) .seconds)
  | v => .error (.ofValue v .seconds)

/-- A value that nothing depends on, except that its numbers have a value. -/
def passOver {α : Type} (unchanged : α) (v : Toml.Value) : Except Misfit α :=
  if v.isReadable then .ok unchanged else .error .unreadable

/-! ## The client's settings -/

namespace ClientSettings

def keys : List String := ["backend", "xcrun_path", "command_timeout_secs"]

def set (s : ClientSettings) (key : String) (v : Toml.Value) : Except Misfit ClientSettings :=
  match key with
  | "backend" => (textOf v).map fun text => { s with backend := text }
  | "xcrun_path" => (textOf v).map fun text => { s with xcrunPath := text }
  | "command_timeout_secs" => (secondsOf v).map fun n => { s with timeoutSeconds := n }
  | _ => passOver s v

def setAll (s : ClientSettings) : Toml.Table → Except Misfit ClientSettings
  | [] => .ok s
  | (key, v) :: rest => do (← s.set key v).setAll rest

/-- A date or time has no keys that matter. -/
def ofValue : Toml.Value → Except Misfit ClientSettings
  | .table entries => setAll {} entries
  | .array items => setAll {} (keys.zip items)
  | .moment => .ok {}
  | v => .error (.ofValue v .client)

end ClientSettings

/-! ## All settings -/

namespace Settings

def set (s : Settings) (key : String) (v : Toml.Value) : Except Misfit Settings :=
  match key with
  | "default_udid" => (textOf v).map fun text => { s with defaultUdid := some text }
  | "log_level" => (textOf v).map fun text => { s with logLevel := text }
  | "client" => (ClientSettings.ofValue v).map fun client => { s with client := client }
  | _ => passOver s v

def setAll (s : Settings) : Toml.Table → Except Misfit Settings
  | [] => .ok s
  | (key, v) :: rest => do (← s.set key v).setAll rest

def ofTable (path : String) (entries : Toml.Table) : Except Misfit Settings :=
  setAll { configPath := path } entries

def refusal (path reason : String) : ConfigError :=
  .load (path ++ ": TOML parse error\n" ++ reason)

/-- A document that breaks the rules of its format. A key that is too long has no
place in the document to point to. -/
def faultRefusal (path : String) : Toml.Fault → ConfigError
  | .illFormed => refusal path "the document is not well formed"
  | .keyTooLong => .load (path ++ ": recursion limit\n")

def ofDocument (path document : String) : Except ConfigError Settings :=
  match Toml.parse document with
  | .error fault => .error (faultRefusal path fault)
  | .ok entries =>
    match ofTable path entries with
    | .error misfit => .error (refusal path misfit.message)
    | .ok s => .ok s

end Settings

end SimApprove
