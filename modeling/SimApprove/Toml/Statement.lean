import SimApprove.Toml.Lexeme

/-!
# Statements of TOML

A document is a list of statements: headers of tables, and keys with their
values. `Statement.ofLexemes?` reads them by a machine with a stack, which has
one frame for the key of the line and one for each open bracket around the value
at hand. It looks at how brackets, commas, keys and line ends follow each other,
and not into keys, numbers and texts: these stay as they are written.
-/

namespace SimApprove.Toml

/-- The parts of a key. A part that cannot be one is nothing. -/
abbrev WrittenKey := List (Option String)

inductive WrittenValue
  | scalar (text : List Char)
  | quoted (text : Option String)
  | array (items : List WrittenValue)
  | table (entries : List (WrittenKey × WrittenValue))

inductive Statement
  | header (key : WrittenKey)
  | repeatedHeader (key : WrittenKey)
  | entry (key : WrittenKey) (value : WrittenValue)

/-! ## The machine -/

/-- What a complete value belongs to. Lists are in reverse. -/
inductive Frame
  | line (key : WrittenKey)
  | array (items : List WrittenValue)
  | table (entries : List (WrittenKey × WrittenValue)) (key : WrittenKey)

inductive Site
  | line
  | header
  | repeatedHeader
  | table (entries : List (WrittenKey × WrittenValue))

/-- What may come next. The parts of a key are in reverse. -/
inductive Phase
  | lineStart
  | lineEnd
  | bracket
  /-- Within a key; `dot` tells that another part has to follow. -/
  | key (site : Site) (parts : WrittenKey) (dot : Bool)
  /-- After a key in a table between brackets and the end of its line. -/
  | assign (entries : List (WrittenKey × WrittenValue)) (parts : WrittenKey)
  /-- After the first of the two brackets that end a repeated header. -/
  | closing (parts : WrittenKey)
  /-- Before a value. In an array the bracket may close instead. -/
  | value
  | scalar (text : List Char)
  /-- After blanks that may belong to an unquoted value: a time can follow a date. -/
  | gap (text blanks : List Char)
  | tableKey (entries : List (WrittenKey × WrittenValue))
  | separator

structure State where
  /-- The statements so far, in reverse. -/
  statements : List Statement := []
  frames : List Frame := []
  phase : Phase := .lineStart

def depthLimit : Nat := 80

def Frame.isBracket : Frame → Bool
  | line _ => false
  | _ => true

namespace State

def goto (s : State) (phase : Phase) : Option State := some { s with phase := phase }

def addStatement (s : State) (statement : Statement) (phase : Phase) : Option State :=
  some { statements := statement :: s.statements, frames := [], phase := phase }

/-! ## Keys -/

def keyPart? : Lexeme → Option (Option String)
  | .bare run =>
    some (if run.all fun c => c.isAlphanum || c = '_' || c = '-' then some (String.ofList run)
      else none)
  | .quoted text multiline => some (if multiline then none else text)
  | _ => none

def keyEnd (s : State) (site : Site) (parts : WrittenKey) (t : Lexeme) : Option State :=
  match site, t with
  | .line, .equals => some { s with frames := [.line parts.reverse], phase := .value }
  | .table entries, .equals =>
    some { s with frames := .table entries parts.reverse :: s.frames, phase := .value }
  | .table entries, .newline => s.goto (.assign entries parts)
  | .header, .closeSquare => s.addStatement (.header parts.reverse) .lineEnd
  | .repeatedHeader, .closeSquare => s.goto (.closing parts)
  | _, _ => none

/-- Where a part has to stand, a lexeme that is none stands for a part that
cannot be one. -/
def inKey (s : State) (site : Site) (parts : WrittenKey) (dot : Bool) (t : Lexeme) :
    Option State :=
  match t with
  | .blank _ => s.goto (.key site parts dot)
  | .dot => s.goto (.key site (if dot then none :: parts else parts) true)
  | t =>
    if dot then
      match keyPart? t with
      | some part => s.goto (.key site (part :: parts) false)
      | none => if t = .newline then none else s.keyEnd site (none :: parts) t
    else s.keyEnd site parts t

/-! ## Values -/

def deliver (s : State) (v : WrittenValue) : Option State :=
  match s.frames with
  | [] => none
  | .line key :: _ => s.addStatement (.entry key v) .lineEnd
  | .array items :: rest =>
    some { s with frames := .array (v :: items) :: rest, phase := .separator }
  | .table entries key :: rest =>
    some { s with frames := .table ((key, v) :: entries) [] :: rest, phase := .separator }

def nest (s : State) : Option State :=
  if (s.frames.filter Frame.isBracket).length < depthLimit then some s else none

def closeArray (s : State) : Option State :=
  match s.frames with
  | .array items :: rest => { s with frames := rest }.deliver (.array items.reverse)
  | _ => none

def closeTable (s : State) (entries : List (WrittenKey × WrittenValue)) : Option State :=
  s.deliver (.table entries.reverse)

/-- A value may start on a later line only within brackets. Elsewhere the end of
the line leaves an empty one. -/
def atValue (s : State) (t : Lexeme) : Option State :=
  match t with
  | .blank _ => some s
  | .newline =>
    match s.frames with
    | .line _ :: _ => do (← s.deliver (.scalar [])).goto .lineStart
    | _ => some s
  | .closeSquare => s.closeArray
  | .quoted text _ => s.deliver (.quoted text)
  | .bare run => s.goto (.scalar run)
  | .dot => s.goto (.scalar ['.'])
  | .openSquare => do
    let s ← s.nest
    some { s with frames := .array [] :: s.frames }
  | .openCurly => do
    let s ← s.nest
    s.goto (.tableKey [])
  | _ => none

def atSeparator (s : State) (t : Lexeme) : Option State :=
  match t, s.frames with
  | .blank _, _ | .newline, _ => some s
  | .comma, .array _ :: _ => s.goto .value
  | .comma, .table entries _ :: rest =>
    some { s with frames := rest, phase := .tableKey entries }
  | .closeSquare, .array _ :: _ => s.closeArray
  | .closeCurly, .table entries _ :: rest => { s with frames := rest }.closeTable entries
  | _, _ => none

/-! ## Steps -/

def stepPlain (s : State) (t : Lexeme) : Option State :=
  match s.phase with
  | .lineStart =>
    match t with
    | .blank _ | .newline => some s
    | .openSquare => s.goto .bracket
    | t => s.inKey .line [] true t
  | .lineEnd =>
    match t with
    | .blank _ => some s
    | .newline => s.goto .lineStart
    | _ => none
  | .bracket =>
    match t with
    | .openSquare => s.goto (.key .repeatedHeader [] true)
    | t => s.inKey .header [] true t
  | .key site parts dot => s.inKey site parts dot t
  | .assign entries parts =>
    match t with
    | .blank _ | .newline => some s
    | .equals => s.keyEnd (.table entries) parts t
    | _ => none
  | .closing parts =>
    match t with
    | .closeSquare => s.addStatement (.repeatedHeader parts.reverse) .lineEnd
    | _ => none
  | .value => s.atValue t
  | .tableKey entries =>
    match t with
    | .blank _ | .newline => some s
    | .closeCurly => s.closeTable entries
    | t => s.inKey (.table entries) [] true t
  | .separator => s.atSeparator t
  | .scalar _ | .gap .. => none

def step (s : State) (t : Lexeme) : Option State :=
  match s.phase, t with
  | .scalar text, .bare run => s.goto (.scalar (text ++ run))
  | .scalar text, .dot => s.goto (.scalar (text ++ ['.']))
  | .scalar text, .blank run => s.goto (.gap text run)
  | .gap text blanks, .bare run => s.goto (.scalar (text ++ blanks ++ run))
  | .scalar text, t | .gap text _, t => do (← s.deliver (.scalar text)).stepPlain t
  | _, t => s.stepPlain t

def finish (s : State) : Option (List Statement) := do
  let s ← s.step .newline
  match s.phase with
  | .lineStart => some s.statements.reverse
  | _ => none

def run (s : State) : List Lexeme → Option State
  | [] => some s
  | t :: rest => do (← s.step t).run rest

end State

def Statement.ofLexemes? (ts : List Lexeme) : Option (List Statement) := do
  (← State.run {} ts).finish

end SimApprove.Toml
