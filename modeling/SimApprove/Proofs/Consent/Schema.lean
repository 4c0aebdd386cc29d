import SimApprove.Proofs.Consent.Upsert

/-!
# The statement of a grant

A grant is written by one of two statements, that of the schema which the table is taken for.
`Schema.row` is the row that it leaves: what the statement says, and for the other columns their
defaults. In a table whose columns have the types for it (`Schema.Typed`) a grant is this row in
the place of those with its key, or is refused (`Schema.Typed.grant_eq_ok_iff`).
-/

namespace SimApprove.Consent

inductive Schema
  | modern
  | legacy
  deriving DecidableEq, Repr

/-- The columns that a grant sets to a number, with the number. -/
def Schema.numbers : Schema → List (String × Int)
  | modern => [("client_type", 0), ("auth_value", 2), ("auth_reason", 2), ("auth_version", 1)]
  | legacy => [("client_type", 0), ("allowed", 1), ("prompt_count", 1)]

def Schema.names (schema : Schema) : List String :=
  ["service", "client"] ++ schema.numbers.map Prod.fst

def Schema.statement (schema : Schema) (service app : String) : Assignment :=
  [("service", .text service), ("client", .text app)] ++
    schema.numbers.map fun entry => (entry.1, .integer entry.2)

def Schema.ofTable (t : Table) : Schema :=
  if modernColumn ∈ t.columns.map Column.name then .modern else .legacy

/-- What the row of a grant holds in a column. -/
def Schema.fresh (schema : Schema) (evaluate : Evaluation) (service app : String) (c : Column) :
    Value :=
  match (schema.statement service app).value? c.name with
  | some value => value
  | none => c.affinity.apply (c.fallback evaluate)

def Schema.row (schema : Schema) (t : Table) (evaluate : Evaluation) (service app : String) : Row :=
  t.columns.map (schema.fresh evaluate service app)

/-- The columns of the statement have the types for what they are given, whatever the case of
their names, and the key has service, client and client type. -/
structure Schema.Typed (schema : Schema) (t : Table) : Prop where
  named : sameName t.name tableName = true
  texts : ∀ c ∈ t.columns, ∀ name ∈ ["service", "client"], sameName name c.name = true →
    c.affinity = .text
  numbers : ∀ c ∈ t.columns, ∀ number ∈ schema.numbers, sameName number.1 c.name = true →
    c.affinity = .numeric
  keyed : t.IsKeyedBySubject

/-- There is something for every column: the row itself or a default. -/
structure Table.Takes (t : Table) (schema : Schema) (evaluate : Evaluation) : Prop where
  known : ∀ name ∈ schema.names, ∃ c ∈ t.columns, sameName c.name name = true
  filled : ∀ c ∈ t.columns, c.notNull = true →
    (∃ name ∈ schema.names, sameName name c.name = true) ∨ c.fallback evaluate ≠ .null

namespace Schema

variable {schema : Schema} {t : Table} {evaluate : Evaluation} {service app : String} {c : Column}
  {entry : String × Value}

-- ---------------------------------------------------------------------------
-- The statement
-- ---------------------------------------------------------------------------

theorem map_statement (schema : Schema) (service app : String) :
    (schema.statement service app).map Prod.fst = schema.names := by
  simp [names, statement]

theorem mem_names_of_mem_statement (he : entry ∈ schema.statement service app) :
    entry.1 ∈ schema.names :=
  schema.map_statement service app ▸ List.mem_map_of_mem he

theorem mem_statement : entry ∈ schema.statement service app ↔
    entry = ("service", .text service) ∨ entry = ("client", .text app) ∨
      ∃ number ∈ schema.numbers, entry = (number.1, .integer number.2) := by
  simp only [statement, List.mem_append, List.mem_cons, List.not_mem_nil, or_false, List.mem_map,
    or_assoc, eq_comm]

theorem ne_null_of_mem_statement (he : entry ∈ schema.statement service app) :
    entry.2 ≠ .null := by
  rcases mem_statement.mp he with rfl | rfl | ⟨number, -, rfl⟩ <;> simp

theorem pairwise_names (schema : Schema) :
    schema.names.Pairwise fun x y => sameName x y = false := by
  cases schema <;> decide

theorem value?_statement (he : entry ∈ schema.statement service app) {name : String}
    (hn : sameName entry.1 name = true) :
    (schema.statement service app).value? name = some entry.2 :=
  Assignment.value?_of_mem ((schema.map_statement service app).symm ▸ schema.pairwise_names) he hn

theorem value?_statement_eq_none {name : String}
    (h : ∀ n ∈ schema.names, sameName n name = false) :
    (schema.statement service app).value? name = none :=
  Assignment.value?_eq_none fun _ he => h _ (mem_names_of_mem_statement he)

theorem assignment_ofTable (h : sameName t.name tableName = true) (service app : String) :
    (Database.withTable t).assignment service app = (ofTable t).statement service app := by
  rw [Database.assignment, ofTable, Database.columnNames_withTable h]
  by_cases hm : modernColumn ∈ t.columns.map Column.name
  · rw [if_pos hm, if_pos (List.contains_iff_mem.mpr hm)]
    rfl
  · rw [if_neg hm, if_neg (mt List.contains_iff_mem.mp hm)]
    rfl

-- ---------------------------------------------------------------------------
-- The row
-- ---------------------------------------------------------------------------

theorem fresh_of_mem (he : entry ∈ schema.statement service app)
    (hn : sameName entry.1 c.name = true) :
    schema.fresh evaluate service app c = entry.2 := by
  rw [fresh, value?_statement he hn]

theorem fresh_of_default (h : ∀ name ∈ schema.names, sameName name c.name = false) :
    schema.fresh evaluate service app c = c.affinity.apply (c.fallback evaluate) := by
  rw [fresh, value?_statement_eq_none h]

theorem fresh_ne_null_iff : schema.fresh evaluate service app c ≠ .null ↔
    (∃ name ∈ schema.names, sameName name c.name = true) ∨ c.fallback evaluate ≠ .null := by
  by_cases h : ∃ name ∈ schema.names, sameName name c.name = true
  · obtain ⟨name, hname, hn⟩ := h
    obtain ⟨entry, he, rfl⟩ := List.mem_map.mp (schema.map_statement service app ▸ hname)
    rw [fresh_of_mem he hn]
    simp only [ne_null_of_mem_statement he, ne_eq, not_false_eq_true, true_iff]
    exact .inl ⟨entry.1, hname, hn⟩
  · rw [fresh_of_default fun name hname => by
      rw [← Bool.not_eq_true]
      exact fun hn => h ⟨name, hname, hn⟩]
    rw [or_iff_right h, Affinity.apply_ne_null_iff]

theorem keyOf_row (schema : Schema) (t : Table) (evaluate : Evaluation) (service app : String) :
    t.keyOf (schema.row t evaluate service app) =
      (t.columns.filter t.inKey).map fun c => (schema.fresh evaluate service app c).asKey :=
  t.keyOf_map _

theorem null_notMem_keyOf_row (h : ∀ c ∈ t.columns, t.inKey c = true →
      (∃ name ∈ schema.names, sameName name c.name = true) ∨ c.fallback evaluate ≠ .null) :
    .null ∉ t.keyOf (schema.row t evaluate service app) :=
  Table.null_notMem_keyOf_map fun c hc hk => fresh_ne_null_iff.mpr (h c hc hk)

namespace Typed

theorem numbersRows_eq (h : schema.Typed t) (c : Column) : t.numbersRows c = false :=
  Table.numbersRows_of_keyed h.keyed c

theorem apply_eq (h : schema.Typed t) (he : entry ∈ schema.statement service app)
    (hc : c ∈ t.columns) (hn : sameName entry.1 c.name = true) :
    c.affinity.apply entry.2 = entry.2 := by
  rcases mem_statement.mp he with rfl | rfl | ⟨number, hm, rfl⟩
  · rw [h.texts c hc "service" (by decide) hn]
    rfl
  · rw [h.texts c hc "client" (by decide) hn]
    rfl
  · rw [h.numbers c hc number hm hn]
    rfl

theorem cell_eq (h : schema.Typed t) (hc : c ∈ t.columns) :
    t.cell evaluate (schema.statement service app) c = schema.fresh evaluate service app c := by
  by_cases hn : ∃ entry ∈ schema.statement service app, sameName entry.1 c.name = true
  · obtain ⟨entry, he, hn⟩ := hn
    rw [Table.cell_of_given (value?_statement he hn) (ne_null_of_mem_statement he),
      h.apply_eq he hc hn, fresh_of_mem he hn]
  · have hnone : (schema.statement service app).value? c.name = none :=
      Assignment.value?_eq_none fun entry he => by
        rw [← Bool.not_eq_true]
        exact fun hs => hn ⟨entry, he, hs⟩
    rw [Table.cell_of_default (h.numbersRows_eq c) hnone, fresh, hnone]

theorem newRow_eq (h : schema.Typed t) (evaluate : Evaluation) (service app : String) :
    t.newRow evaluate (schema.statement service app) = schema.row t evaluate service app :=
  List.map_congr_left fun _ hc => h.cell_eq hc

theorem misnumbered_eq (h : schema.Typed t) (evaluate : Evaluation) (a : Assignment) :
    t.misnumbered evaluate a = false := by
  simp [Table.misnumbered, h.numbersRows_eq]

theorem upsert_eq_ok_iff (h : schema.Typed t) {after : Table} :
    t.upsert evaluate tableName (schema.statement service app) = .ok after ↔
      t.Takes schema evaluate ∧
        after = t.replaceRow (schema.row t evaluate service app) := by
  have hknown : (∀ entry ∈ schema.statement service app,
        ∃ c ∈ t.columns, sameName c.name entry.1 = true) ↔
      ∀ name ∈ schema.names, ∃ c ∈ t.columns, sameName c.name name = true := by
    rw [← schema.map_statement service app, List.forall_mem_map]
  have hfilled : (∀ c ∈ t.columns, c.notNull = true →
        t.cell evaluate (schema.statement service app) c ≠ .null) ↔
      ∀ c ∈ t.columns, c.notNull = true →
        (∃ name ∈ schema.names, sameName name c.name = true) ∨ c.fallback evaluate ≠ .null :=
    forall₂_congr fun c hc => by rw [h.cell_eq hc, fresh_ne_null_iff]
  rw [Table.upsert_eq_ok_iff, h.newRow_eq, h.misnumbered_eq, hknown, hfilled]
  exact and_congr_left fun _ => ⟨fun ⟨hk, _, hf⟩ => ⟨hk, hf⟩, fun ⟨hk, hf⟩ => ⟨hk, rfl, hf⟩⟩

theorem grant_eq (h : schema.Typed t) (hs : ofTable t = schema) (evaluate : Evaluation)
    (service app : String) : (Database.withTable t).grant evaluate service app =
      (t.upsert evaluate tableName (schema.statement service app)).map .withTable := by
  rw [Database.grant, Database.table?_withTable h.named]
  simp only
  rw [assignment_ofTable h.named, hs]

theorem grant_eq_ok_iff (h : schema.Typed t) (hs : ofTable t = schema) {content : Database} :
    (Database.withTable t).grant evaluate service app = .ok content ↔
      t.Takes schema evaluate ∧
        content = .withTable (t.replaceRow (schema.row t evaluate service app)) := by
  rw [h.grant_eq hs, map_eq_ok_iff]
  simp only [h.upsert_eq_ok_iff]
  constructor
  · rintro ⟨_, ⟨htakes, rfl⟩, rfl⟩
    exact ⟨htakes, rfl⟩
  · rintro ⟨htakes, rfl⟩
    exact ⟨_, ⟨htakes, rfl⟩, rfl⟩

end Typed

def plainTable (schema : Schema) (rows : List Row) : Table where
  name := tableName
  columns := ["service", "client"].map (fun name => ⟨name, "TEXT", true, none⟩) ++
    schema.numbers.map fun entry => ⟨entry.1, "INTEGER", true, none⟩
  key := ["service", "client", "client_type"]
  rows := rows

end Schema

end SimApprove.Consent
