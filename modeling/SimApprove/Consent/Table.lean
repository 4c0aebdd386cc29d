import SimApprove.Consent.Value
import SimApprove.Error

/-!
# The table of grants

A table of the consent database with its columns, its key and its rows.
`Table.upsert` writes one row, given by some of its columns: the other columns
take their defaults, rows with the same key are replaced, and a row that breaks
a constraint changes nothing. Names of tables and columns are compared without
regard to ASCII case. Rows with a null in the key never collide.

A default may be an expression, such as one for the time of the write. What the expressions
come to is given from outside, by an `Evaluation`; one that fails is not considered.
-/

namespace SimApprove.Consent

inductive Default
  | constant (value : Value)
  | expression (text : String)
  deriving DecidableEq, Repr

structure Column where
  name : String
  type : String
  notNull : Bool
  default : Option Default
  deriving DecidableEq, Repr

/-- What the expression by which a column is filled comes to. -/
abbrev Evaluation := Column → Value

def Column.fallback (evaluate : Evaluation) (c : Column) : Value :=
  match c.default with
  | none => .null
  | some (.constant value) => value
  | some (.expression _) => evaluate c

abbrev Row := List Value

structure Table where
  name : String
  columns : List Column
  key : List String
  rows : List Row
  deriving DecidableEq, Repr

abbrev Assignment := List (String × Value)

def sameName (a b : String) : Bool := a.toList.map Char.toLower = b.toList.map Char.toLower

def Assignment.value? (a : Assignment) (column : String) : Option Value :=
  (a.find? fun entry => sameName entry.1 column).map Prod.snd

def Column.affinity (c : Column) : Affinity := Affinity.ofType c.type

namespace Table

def column? (t : Table) (name : String) : Option Column := t.columns.find? (sameName ·.name name)

def valuesWhere (keep : Column → Bool) : List Column → Row → List Value
  | c :: cs, v :: vs => if keep c then v :: valuesWhere keep cs vs else valuesWhere keep cs vs
  | _, _ => []

theorem valuesWhere_map (keep : Column → Bool) (value : Column → Value) (cs : List Column) :
    valuesWhere keep cs (cs.map value) = (cs.filter keep).map value := by
  induction cs with
  | nil => rfl
  | cons c cs ih =>
    simp only [List.map_cons, valuesWhere, List.filter_cons, ih]
    split <;> rfl

def inKey (t : Table) (c : Column) : Bool := t.key.any (sameName · c.name)

def keyOf (t : Table) (row : Row) : List Value :=
  (valuesWhere t.inKey t.columns row).map Value.asKey

/-- A key of a single column of type INTEGER numbers the rows. -/
def numbersRows (t : Table) (c : Column) : Bool :=
  t.key.length = 1 && t.inKey c && sameName c.type "integer"

def number? (t : Table) (row : Row) : Option Int :=
  match t.keyOf row with
  | [.integer n] => some n
  | _ => none

/-- One more than the greatest number in use; an empty table starts with one. -/
def nextNumber (t : Table) : Int :=
  match (t.rows.filterMap t.number?).max? with
  | some n => n + 1
  | none => 1

def cell (t : Table) (evaluate : Evaluation) (a : Assignment) (c : Column) : Value :=
  let given := c.affinity.apply ((a.value? c.name).getD .null)
  if t.numbersRows c then
    if given = .null then .integer t.nextNumber else given
  else if (a.value? c.name).isSome then given
  else c.affinity.apply (c.fallback evaluate)

def newRow (t : Table) (evaluate : Evaluation) (a : Assignment) : Row :=
  t.columns.map (t.cell evaluate a)

/-! ## Constraints -/

def unknownColumn? (t : Table) (a : Assignment) : Option String :=
  (a.find? fun entry => (t.column? entry.1).isNone).map Prod.fst

def misnumbered (t : Table) (evaluate : Evaluation) (a : Assignment) : Bool :=
  t.columns.any fun c =>
    t.numbersRows c && (match t.cell evaluate a c with | .integer _ => false | _ => true)

/-- A column that must not be null but would be. Columns without a default are
looked at before those with one. -/
def nullColumn? (t : Table) (evaluate : Evaluation) (a : Assignment) : Option Column :=
  let broken := t.columns.filter fun c => c.notNull && t.cell evaluate a c = .null
  (broken.find? (·.default.isNone)).or broken.head?

/-- Two rows collide if they agree on the whole key and no part of it is null. -/
def collides (t : Table) (row other : Row) : Bool :=
  let key := t.keyOf row
  !t.key.isEmpty && !key.contains .null && key = t.keyOf other

def replaceRow (t : Table) (row : Row) : Table :=
  { t with rows := t.rows.filter (fun other => !t.collides row other) ++ [row] }

def upsert (t : Table) (evaluate : Evaluation) (statementName : String) (a : Assignment) :
    Except EngineError Table :=
  match t.unknownColumn? a with
  | some column => .error (.noSuchColumn statementName column)
  | none =>
    if t.misnumbered evaluate a then .error .datatypeMismatch
    else
      match t.nullColumn? evaluate a with
      | some c => .error (.notNull t.name c.name)
      | none => .ok (t.replaceRow (t.newRow evaluate a))

end Table

end SimApprove.Consent
