import SimApprove.Toml.Value

/-!
# Building the tables of a document

A document adds to its tables line by line, and each table remembers how it came
to be, since that decides who may still add to it. A header gives a body only
once. Dotted keys lead through tables without a header and may add to them; a
table that a dotted key has added to takes no header any more. A value, a table
between brackets included, is closed for ever. `Draft.toValue` forgets these
distinctions.
-/

namespace SimApprove.Toml

/-- How a table came to be: on the way of a header, by dotted keys, or by a
header of its own. -/
inductive Origin
  | passing
  | dotted
  | header
  deriving DecidableEq, Repr

inductive Draft
  | value (v : Value)
  | table (origin : Origin) (entries : List (String × Draft))
  /-- The tables of a repeated header, the last one still open. -/
  | tables (closed : List (List (String × Draft))) (last : List (String × Draft))

abbrev DraftTable := List (String × Draft)

abbrev KeyPath := List String

/-! ## Values -/

mutual
def Draft.toValue : Draft → Value
  | .value v => v
  | .table _ entries => .table (draftEntries entries)
  | .tables closed last => .array (draftTables closed ++ [.table (draftEntries last)])
def draftEntries : List (String × Draft) → Table
  | [] => []
  | (key, d) :: rest => (key, d.toValue) :: draftEntries rest
def draftTables : List (List (String × Draft)) → List Value
  | [] => []
  | entries :: rest => .table (draftEntries entries) :: draftTables rest
end

/-! ## Changes -/

inductive Fault
  | illFormed
  | keyTooLong
  deriving DecidableEq, Repr

abbrev Body := Origin × DraftTable

/-- Applies a change to the table that a path leads to, making the tables on the
way as needed. A path through a repeated header leads into its last table. -/
def descend (dotted : Bool) (change : Body → Except Fault Body) :
    KeyPath → Body → Except Fault Body
  | [], body => change body
  | key :: path, (origin, entries) =>
    match find? entries key with
    | none => do
      let (o, sub) ← descend dotted change path (if dotted then .dotted else .passing, [])
      .ok (origin, insert key (.table o sub) entries)
    | some (.table o sub) =>
      if dotted ∧ o = .header then .error .illFormed
      else do
        let (o, sub) ← descend dotted change path (o, sub)
        .ok (origin, insert key (.table o sub) entries)
    | some (.tables closed last) => do
      let (_, last) ← descend dotted change path (.header, last)
      .ok (origin, insert key (.tables closed last) entries)
    | some (.value _) => .error .illFormed

def addNew (key : String) (d : Draft) (entries : DraftTable) : Except Fault DraftTable :=
  if (find? entries key).isSome then .error .illFormed else .ok (insert key d entries)

def addDotted (key : String) (d : Draft) : Body → Except Fault Body
  | (.header, _) => .error .illFormed
  | (_, entries) => (addNew key d entries).map fun entries => (.dotted, entries)

def addValue (path : KeyPath) (key : String) (v : Value) (entries : DraftTable) :
    Except Fault DraftTable :=
  if path = [] then addNew key (.value v) entries
  else (descend true (addDotted key (.value v)) path (.header, entries)).map Prod.snd

def below (path : KeyPath) (change : DraftTable → Except Fault DraftTable) (root : DraftTable) :
    Except Fault DraftTable :=
  (descend false (fun (o, entries) => (change entries).map fun entries => (o, entries)) path
    (.header, root)).map Prod.snd

/-- The header of a table, and what fills it. Tables that were made on the way of
other headers stay. -/
def addTable (path : KeyPath) (key : String) (fill : DraftTable → Except Fault DraftTable) :
    DraftTable → Except Fault DraftTable :=
  below path fun entries =>
    match find? entries key with
    | none => (fill []).map fun sub => insert key (.table .header sub) entries
    | some (.table .passing sub) =>
      (fill sub).map fun sub => insert key (.table .header sub) entries
    | some _ => .error .illFormed

def addRepeated (path : KeyPath) (key : String) (sub : DraftTable) :
    DraftTable → Except Fault DraftTable :=
  below path fun entries =>
    match find? entries key with
    | none => .ok (insert key (.tables [] sub) entries)
    | some (.tables closed last) => .ok (insert key (.tables (closed ++ [last]) sub) entries)
    | some _ => .error .illFormed

end SimApprove.Toml
