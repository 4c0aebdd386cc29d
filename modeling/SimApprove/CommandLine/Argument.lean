/-!
# The arguments of the command line

Arguments live in one of two scopes: before the word `approve`, and after it.
`--udid` and `--verbose` are known in both, `--scheme` and the operands only
after `approve`, `--version` only before it.
-/

namespace SimApprove.CommandLine

inductive Scope
  | program
  | approve
  deriving DecidableEq, Repr

inductive ValueOption
  | udid
  | scheme
  deriving DecidableEq, Repr

inductive Switch
  | verbose
  | help
  | version
  deriving DecidableEq, Repr

inductive Operand
  | bundleId
  | permissions
  deriving DecidableEq, Repr

inductive Argument
  | option (o : ValueOption)
  | switch (w : Switch)
  | operand (p : Operand)
  deriving DecidableEq, Repr

def ValueOption.name : ValueOption → String
  | udid => "udid"
  | scheme => "scheme"

def Switch.name : Switch → String
  | verbose => "verbose"
  | help => "help"
  | version => "version"

def Argument.label : Argument → String
  | option .udid => "--udid <UDID>"
  | option .scheme => "--scheme <SCHEME>"
  | switch w => "--" ++ w.name
  | operand .bundleId => "<BUNDLE_ID>"
  | operand .permissions => "<PERMISSIONS>..."

def Scope.long? : Scope → String → Option Argument
  | _, "udid" => some (.option .udid)
  | _, "verbose" => some (.switch .verbose)
  | _, "help" => some (.switch .help)
  | .approve, "scheme" => some (.option .scheme)
  | .program, "version" => some (.switch .version)
  | _, _ => none

def Scope.short? : Scope → Char → Option Switch
  | _, 'v' => some .verbose
  | _, 'h' => some .help
  | .program, 'V' => some .version
  | _, _ => none

end SimApprove.CommandLine
