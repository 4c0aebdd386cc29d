import SimApprove.CommandLine.Token
import SimApprove.CommandLine.UsageError

/-!
# Reading the command line

`Invocation.ofArguments` reads the words after the program's name. Words are
taken from left to right into a `Draft`. The values of an option or operand are
collected first and judged only when the next argument starts or the line
ends, so of two faults the earlier one is reported, except that an unknown
argument is reported on sight.

After `--` every word is an operand. A word that starts with `-` is never the
value of an option before it; `--name=value` has no such limit.
-/

namespace SimApprove.CommandLine

structure Invocation where
  udid : Option String
  verbose : Bool
  command : ApproveCommand
  deriving DecidableEq, Repr

inductive Pending
  | option (o : ValueOption) (value : Option String)
  | bundleId (text : String)
  | permissions (words : List String)
  deriving DecidableEq, Repr

structure Draft where
  udid : Option String := none
  scheme : Option String := none
  verbose : Bool := false
  bundleId : Option String := none
  permissions : List Permission := []
  pending : Option Pending := none
  deriving DecidableEq, Repr

/-! ## Values -/

def Draft.value? (d : Draft) : ValueOption → Option String
  | .udid => d.udid
  | .scheme => d.scheme

def Draft.setValue (d : Draft) (o : ValueOption) (value : String) : Draft :=
  match o with
  | .udid => { d with udid := some value }
  | .scheme => { d with scheme := some value }

/-- An option may be given once in each scope. -/
def Draft.give (d : Draft) (o : ValueOption) (value : String) : Except UsageError Draft :=
  if (d.value? o).isSome then .error (.repeated (.option o)) else .ok (d.setValue o value)

def permissionOfWord (word : String) : Except UsageError Permission :=
  match Permission.ofName? word with
  | some p => .ok p
  | none =>
    .error (if word = "" then .noValue (.operand .permissions) else .notAPermission word)

def permissionsOfWords : List String → Except UsageError (List Permission)
  | [] => .ok []
  | word :: rest => do
    let p ← permissionOfWord word
    let ps ← permissionsOfWords rest
    .ok (p :: ps)

def Draft.settle (d : Draft) : Except UsageError Draft :=
  match d.pending with
  | none => .ok d
  | some (.option o none) => .error (.noValue (.option o))
  | some (.option o (some value)) => ({ d with pending := none } : Draft).give o value
  | some (.bundleId text) =>
    if text = "" then .error (.noValue (.operand .bundleId))
    else .ok { d with bundleId := some text, pending := none }
  | some (.permissions words) => do
    let ps ← permissionsOfWords words
    .ok { d with permissions := d.permissions ++ ps, pending := none }

/-! ## Single words -/

def Draft.turnOn (scope : Scope) (d : Draft) : Switch → Except UsageError Draft
  | .verbose =>
    if d.verbose then .error (.repeated (.switch .verbose)) else .ok { d with verbose := true }
  | .help => .error (.help (match scope with | .program => .program | .approve => .approve))
  | .version => .error .version

def Draft.long (scope : Scope) (d : Draft) (name : String) (value : Option String) :
    Except UsageError Draft :=
  match scope.long? name with
  | some (.option o) => do
    let d ← d.settle
    match value with
    | some value => d.give o value
    | none => .ok { d with pending := some (.option o none) }
  | some (.switch w) =>
    match value with
    | some value => .error (.unexpectedValue value (.switch w))
    | none => do (← d.settle).turnOn scope w
  | _ => .error (.unknownArgument ("--" ++ name))

def Draft.cluster (scope : Scope) (d : Draft) : List Char → Except UsageError Draft
  | [] => .ok d
  | letter :: rest =>
    match scope.short? letter with
    | some w => do
      let d ← (← d.settle).turnOn scope w
      d.cluster scope rest
    | none => .error (.unknownArgument (String.ofList ['-', letter]))

/-- The bundle id comes first, all further operands are permissions. -/
def Draft.operand (d : Draft) (word : String) : Except UsageError Draft :=
  match d.pending with
  | some (.permissions words) => .ok { d with pending := some (.permissions (words ++ [word])) }
  | _ => do
    let d ← d.settle
    if d.bundleId.isSome then .ok { d with pending := some (.permissions [word]) }
    else .ok { d with pending := some (.bundleId word) }

/-- A word that is neither an option nor `--`: the value of an option that
waits for one, else `other`. -/
def Draft.word (d : Draft) (text : String) (other : Except UsageError Draft) :
    Except UsageError Draft :=
  match d.pending with
  | some (.option o none) => .ok { d with pending := some (.option o (some text)) }
  | _ => other

/-! ## After `approve` -/

def Draft.approveWord (d : Draft) (arg : String) : Except UsageError Draft :=
  match Token.ofString arg with
  | .escape => .ok d
  | .long name value => d.long .approve name value
  | .cluster letters => d.cluster .approve letters
  | .word text => d.word text (d.operand text)

def Draft.readOperands (d : Draft) : List String → Except UsageError Draft
  | [] => d.settle
  | arg :: rest => do (← d.operand arg).readOperands rest

def Draft.readApprove (d : Draft) : List String → Except UsageError Draft
  | [] => d.settle
  | arg :: rest =>
    if arg = "--" then d.readOperands rest
    else do (← d.approveWord arg).readApprove rest

def Draft.command (d : Draft) : Except UsageError ApproveCommand :=
  match d.bundleId, d.permissions with
  | none, [] => .error (.missingOperands [.bundleId, .permissions])
  | none, _ => .error (.missingOperands [.bundleId])
  | some _, [] => .error (.missingOperands [.permissions])
  | some bundleId, permissions => .ok ⟨bundleId, permissions, d.scheme⟩

/-- The part after `approve` is judged before what is pending in front of it. -/
def Draft.invocation (outer : Draft) (rest : List String) : Except UsageError Invocation := do
  let inner ← ({} : Draft).readApprove rest
  let command ← inner.command
  let outer ← outer.settle
  .ok ⟨inner.udid.or outer.udid, outer.verbose || inner.verbose, command⟩

/-! ## Before `approve` -/

def helpPage : List String → UsageError
  | [] => .help .program
  | ["approve"] => .help .approve
  | ["help"] => .help .help
  | word :: rest =>
    if word = "approve" ∨ word = "help" then .unknownCommand (rest.headD "")
    else .unknownCommand word

/-- A line that ends without a command; a line with nothing at all gets help. -/
def Draft.withoutCommand (d : Draft) : UsageError :=
  match d.settle with
  | .error e => e
  | .ok d => if d.udid.isSome || d.verbose then .missingCommand else .helpForEmptyLine

def Draft.afterEscape (d : Draft) : List String → UsageError
  | [] => d.withoutCommand
  | arg :: _ => if arg = "approve" ∨ arg = "help" then .unknownArgument arg else .unknownCommand arg

def Draft.readProgram (d : Draft) : List String → Except UsageError Invocation
  | [] => .error d.withoutCommand
  | arg :: rest =>
    match Token.ofString arg with
    | .escape => .error (d.afterEscape rest)
    | .long name value => do (← d.long .program name value).readProgram rest
    | .cluster letters => do (← d.cluster .program letters).readProgram rest
    | .word text =>
      match d.pending with
      | some (.option o none) =>
        ({ d with pending := some (.option o (some text)) } : Draft).readProgram rest
      | _ =>
        if text = "approve" then d.invocation rest
        else if text = "help" then .error (helpPage rest)
        else .error (.unknownCommand text)

def Invocation.ofArguments (args : List String) : Except UsageError Invocation :=
  ({} : Draft).readProgram args

end SimApprove.CommandLine
