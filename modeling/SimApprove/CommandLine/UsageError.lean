import SimApprove.Approval
import SimApprove.CommandLine.Argument
import SimApprove.Terminal.Styled

/-!
# Answers of the command line

Every way in which reading the command line ends without an invocation: faults,
and the requests for help or the version. `UsageError.spans` is what is printed,
`UsageError.text` the same without colours, `exitCode` the status of the run, and
`onOutput` says that the text belongs on standard output.
-/

namespace SimApprove.CommandLine

open Terminal (Span)

inductive Page
  | program
  | approve
  | help
  deriving DecidableEq, Repr

inductive UsageError
  | help (page : Page)
  | helpForEmptyLine
  | version
  | missingCommand
  | unknownCommand (word : String)
  | unknownArgument (word : String)
  | missingOperands (operands : List Operand)
  | noValue (argument : Argument)
  | notAPermission (word : String)
  | repeated (argument : Argument)
  | unexpectedValue (value : String) (argument : Argument)
  deriving DecidableEq, Repr

/-! ## Pages -/

def usageLine (command operands : String) : List Span :=
  [.heading "Usage:", .text " ", .literal command, .text (" " ++ operands ++ "\n\n")]

def commandEntry (name gap about : String) : List Span :=
  [.text "  ", .literal name, .text (gap ++ about ++ "\n")]

def longEntry (name rest : String) : List Span :=
  [.text "      ", .literal name, .text (rest ++ "\n")]

def shortEntry (letter name rest : String) : List Span :=
  [.text "  ", .literal letter, .text ", ", .literal name, .text (rest ++ "\n")]

def udidAbout : String :=
  "Target device UDID (defaults to IDBCTL_UDID, config default_udid, then \"booted\")"

def Page.spans : Page → List Span
  | program =>
    [.text "Control iOS simulators from the command line.\n\n"] ++
    usageLine "idbctl" "[OPTIONS] <COMMAND>" ++
    [.heading "Commands:", .text "\n"] ++
    commandEntry "approve" "  " "Approve permissions for an app" ++
    commandEntry "help" "     " "Print this message or the help of the given subcommand(s)" ++
    [.text "\n", .heading "Options:", .text "\n"] ++
    longEntry "--udid" (" <UDID>  " ++ udidAbout) ++
    shortEntry "-v" "--verbose" "      Enable debug logging" ++
    shortEntry "-h" "--help" "         Print help" ++
    shortEntry "-V" "--version" "      Print version"
  | approve =>
    [.text "Approve permissions for an app\n\n"] ++
    usageLine "idbctl approve" "[OPTIONS] <BUNDLE_ID> <PERMISSIONS>..." ++
    [.heading "Arguments:",
      .text ("\n  <BUNDLE_ID>       App's bundle id\n" ++
        "  <PERMISSIONS>...  Permissions to approve " ++
        "[possible values: photos, camera, contacts, url]\n\n"),
      .heading "Options:", .text "\n"] ++
    longEntry "--scheme" " <SCHEME>  Url scheme registered by the app to approve" ++
    longEntry "--udid" (" <UDID>      " ++ udidAbout) ++
    shortEntry "-v" "--verbose" "          Enable debug logging" ++
    shortEntry "-h" "--help" "             Print help"
  | help =>
    [.text "Print this message or the help of the given subcommand(s)\n\n"] ++
    usageLine "idbctl help" "[COMMAND]..." ++
    [.heading "Arguments:", .text "\n  [COMMAND]...  Print help for the subcommand(s)\n"]

/-! ## Faults -/

def choices (title : String) (words : List String) : List Span :=
  [.text ("\n  [" ++ title ++ ": ")] ++
    (words.map Span.valid).intersperse (.text ", ") ++ [.text "]"]

def possiblePermissions : List Span :=
  choices "possible values" (Permission.all.map Permission.name)

def UsageError.reason : UsageError → List Span
  | help _ | helpForEmptyLine | version => []
  | missingCommand =>
    [.text "'", .invalid "idbctl", .text "' requires a subcommand but one was not provided"] ++
      choices "subcommands" ["approve", "help"]
  | unknownCommand word => [.text "unrecognized subcommand '", .invalid word, .text "'"]
  | unknownArgument word => [.text "unexpected argument '", .invalid word, .text "' found"]
  | missingOperands operands =>
    .text "the following required arguments were not provided:" ::
      operands.flatMap fun p => [.text "\n  ", .valid (Argument.operand p).label]
  | noValue argument =>
    [.text "a value is required for '", .invalid argument.label,
      .text "' but none was supplied"] ++
      (if argument = .operand .permissions then possiblePermissions else [])
  | notAPermission word =>
    [.text "invalid value '", .invalid word, .text "' for '",
      .literal (Argument.operand .permissions).label, .text "'"] ++ possiblePermissions
  | repeated argument =>
    [.text "the argument '", .invalid argument.label, .text "' cannot be used multiple times"]
  | unexpectedValue value argument =>
    [.text "unexpected value '", .invalid value, .text "' for '", .literal argument.label,
      .text "' found; no more were expected"]

def UsageError.spans : UsageError → List Span
  | help page => page.spans
  | helpForEmptyLine => Page.program.spans
  | version => [.text "idbctl 0.1.0\n"]
  | e =>
    [.error "error:", .text " "] ++ e.reason ++
      [.text "\n\nFor more information, try '", .literal "--help", .text "'.\n"]

def UsageError.text (e : UsageError) : String := Terminal.renderAll false e.spans

/-- Help and version that were asked for go to standard output. -/
def UsageError.onOutput : UsageError → Bool
  | help _ | version => true
  | _ => false

theorem UsageError.onOutput_iff {e : UsageError} :
    e.onOutput = true ↔ (∃ page, e = .help page) ∨ e = .version := by
  cases e <;> simp [onOutput]

def UsageError.exitCode (e : UsageError) : UInt8 := if e.onOutput then 0 else 2

end SimApprove.CommandLine
