import SimApprove.Log.Level
import SimApprove.Text.Quoted

/-!
# Log events

An event names where it comes from, says what happened and carries fields in a
fixed order. `Event.line` is its form on standard error, without a time stamp:
bare fields appear as they are, quoted ones as `Text.quote` writes them.
-/

namespace SimApprove.Log

inductive Origin
  | program
  | dispatch
  | approveCommand
  | toolRunner
  | consentStore
  | simulatorClient
  | dryRunClient
  deriving DecidableEq, Repr

def Origin.name : Origin → String
  | program => "idbctl"
  | dispatch => "idbctl::app::dispatch"
  | approveCommand => "idbctl::commands::approve"
  | toolRunner => "idbctl::client::process"
  | consentStore => "idbctl::client::tcc"
  | simulatorClient => "idbctl::client::simctl"
  | dryRunClient => "idbctl::client::dry_run"

inductive FieldStyle
  | bare
  | quoted
  deriving DecidableEq, Repr

structure Field where
  name : String
  value : String
  style : FieldStyle
  deriving DecidableEq, Repr

def Field.bare (name value : String) : Field := ⟨name, value, .bare⟩

def Field.quoted (name value : String) : Field := ⟨name, value, .quoted⟩

def Field.text (f : Field) : String :=
  match f.style with
  | .bare => f.name ++ "=" ++ f.value
  | .quoted => f.name ++ "=" ++ Text.quote f.value

structure Event where
  level : Level
  origin : Origin
  message : String
  fields : List Field
  deriving DecidableEq, Repr

def Event.value? (e : Event) (name : String) : Option String :=
  (e.fields.find? (·.name = name)).map Field.value

def Event.line (e : Event) : String :=
  " ".intercalate ((e.level.name ++ " " ++ e.origin.name ++ ": " ++ e.message) ::
    e.fields.map Field.text)

def atLevel (threshold : Level) (events : List Event) : List Event :=
  events.filter fun e => threshold.passes e.level

end SimApprove.Log
