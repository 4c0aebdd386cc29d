import SimApprove.Proofs.Consent.Effect
import SimApprove.Proofs.Consent.Replacement

/-!
# Names of columns in any case

In a statement the names of columns mean the same in any case, but a table counts as modern
only if it has a column that is called `auth_value` to the letter. `grant_of_spelling` says
what a grant does in tables with the columns of one of the two schemas, whatever their case:
with that column as it should be spelled, or without any of that name, the row is written
for the schema that the table has. A modern table with another spelling is taken for a
legacy one (`grant_of_capital_mark`).
-/

namespace SimApprove

namespace Consent

-- ---------------------------------------------------------------------------
-- Values by name
-- ---------------------------------------------------------------------------

def valueAt? (cs : List Column) (row : Row) (name : String) : Option Value :=
  ((cs.zip row).find? fun entry => sameName entry.1.name name).map Prod.snd

def Table.value? (t : Table) (row : Row) (name : String) : Option Value :=
  valueAt? t.columns row name

/-- The row says of service, client and client type what a camera grant for the app says. -/
def Table.IsGrantOf (t : Table) (app : String) (row : Row) : Prop :=
  ∀ entry ∈ subject app, (t.value? row entry.1).map Value.asKey = some entry.2

instance (t : Table) (app : String) (row : Row) : Decidable (t.IsGrantOf app row) := by
  unfold Table.IsGrantOf
  infer_instance

/-- The rows for the app have made way for one that holds the value in the column. -/
def Table.Regrants (t : Table) (app name : String) (value : Value) (new : Table) : Prop :=
  ∃ row, t.IsGrantOf app row ∧ t.value? row name = some value ∧
    new = { t with rows := t.rows.filter (fun other => ¬ t.IsGrantOf app other) ++ [row] }

section
variable {c : Column} {cs : List Column} {v : Value} {row : Row} {a b : String}

theorem valueAt?_cons (c : Column) (cs : List Column) (v : Value) (row : Row) (name : String) :
    valueAt? (c :: cs) (v :: row) name =
      if sameName c.name name = true then some v else valueAt? cs row name := by
  simp only [valueAt?, List.zip_cons_cons, List.find?_cons]
  cases sameName c.name name <;> rfl

theorem valueAt?_congr (h : sameName a b = true) : valueAt? cs row a = valueAt? cs row b := by
  have hb : ∀ name, sameName name a = sameName name b := fun name => by
    rw [sameName_comm, sameName_congr h, sameName_comm]
  simp only [valueAt?, hb]

theorem map_valuesWhere_eq_iff {α : Type} (h : DistinctNames cs) (keep : Column → Bool)
    (f : Value → α) (g : Column → α) (row : Row) :
    (Table.valuesWhere keep cs row).map f = (cs.filter keep).map g ↔
      ∀ c ∈ cs, keep c = true → (valueAt? cs row c.name).map f = some (g c) := by
  induction cs generalizing row with
  | nil => simp [Table.valuesWhere]
  | cons c cs ih =>
    obtain ⟨hc, hcs⟩ := List.pairwise_cons.mp h
    cases row with
    | nil =>
      have hnone : ∀ name, valueAt? (c :: cs) [] name = none := fun _ => rfl
      simp only [Table.valuesWhere, hnone, Option.map_none, reduceCtorEq, imp_false,
        Bool.not_eq_true, List.map_nil]
      rw [eq_comm, List.map_eq_nil_iff, List.filter_eq_nil_iff]
      simp only [Bool.not_eq_true]
    | cons v row =>
      have hself : sameName c.name c.name = true := by simp [sameName]
      -- the columns behind are not called as the first is
      have hrest : (∀ d ∈ cs, keep d = true →
            (valueAt? (c :: cs) (v :: row) d.name).map f = some (g d)) ↔
          ∀ d ∈ cs, keep d = true → (valueAt? cs row d.name).map f = some (g d) :=
        forall₂_congr fun d hd => by rw [valueAt?_cons, if_neg (by simp [hc d hd])]
      rw [List.forall_mem_cons, hrest, ← ih hcs, valueAt?_cons, if_pos hself]
      cases hk : keep c <;> simp [Table.valuesWhere, hk]

theorem valueAt?_map (h : DistinctNames cs) (value : Column → Value) (hc : c ∈ cs) :
    valueAt? cs (cs.map value) c.name = some (value c) := by
  have hall := (map_valuesWhere_eq_iff h (fun _ => true) id value (cs.map value)).mp
    (by rw [Table.valuesWhere_map, List.map_id])
  simpa using hall c hc rfl

end

-- ---------------------------------------------------------------------------
-- Tables in any spelling
-- ---------------------------------------------------------------------------

/-- A table with the columns of a schema, whatever the case of their names, with the key of
grants, and with nothing else that a row must have. -/
structure Schema.Suits (schema : Schema) (t : Table) (evaluate : Evaluation) : Prop
    extends schema.Typed t, t.Takes schema evaluate where
  distinct : DistinctNames t.columns
  only : ∀ k ∈ t.key, ∃ name ∈ ["service", "client", "client_type"], sameName k name = true

namespace Schema.Suits

variable {schema : Schema} {t : Table} {evaluate : Evaluation} {app : String} {c : Column}
  {entry : String × Value}

-- ---------------------------------------------------------------------------
-- The key
-- ---------------------------------------------------------------------------

theorem exists_column (h : schema.Suits t evaluate) (he : entry ∈ subject app) :
    ∃ c ∈ t.columns, sameName c.name entry.1 = true :=
  h.known _ (mem_names_of_mem_statement (schema.mem_statement_of_subject he))

theorem inKey_iff (h : schema.Suits t evaluate) (app : String) :
    t.inKey c = true ↔ ∃ entry ∈ subject app, sameName entry.1 c.name = true := by
  have hnames : (subject app).map Prod.fst = ["service", "client", "client_type"] := rfl
  rw [Table.inKey, List.any_eq_true]
  constructor
  · rintro ⟨k, hk, hkc⟩
    obtain ⟨name, hname, hkn⟩ := h.only k hk
    rw [← hnames] at hname
    obtain ⟨entry, he, rfl⟩ := List.mem_map.mp hname
    exact ⟨entry, he, by rw [← sameName_congr hkn, hkc]⟩
  · rintro ⟨entry, he, hn⟩
    obtain ⟨k, hk, hke⟩ := h.keyed entry.1 (hnames ▸ List.mem_map_of_mem he)
    exact ⟨k, hk, by rw [sameName_congr hke, hn]⟩

theorem exists_grantRow_eq (h : schema.Suits t evaluate) (app : String) :
    ∃ value : Column → Value, t.grantRow evaluate app = t.columns.map value ∧
      ∀ c ∈ t.columns, ∀ entry ∈ subject app, sameName entry.1 c.name = true →
        value c = entry.2 := by
  obtain ⟨value, hrow, hvalue⟩ := t.exists_grantRow_eq evaluate app
  refine ⟨value, hrow, fun c hc entry he hn => ?_⟩
  rw [hvalue c entry he hn, h.apply_eq (schema.mem_statement_of_subject he) hc hn]

theorem asKey_of_mem_subject (he : entry ∈ subject app) : entry.2.asKey = entry.2 := by
  simp only [subject, List.mem_cons, List.not_mem_nil, or_false] at he
  rcases he with rfl | rfl | rfl <;> rfl

theorem keyOf_eq_iff (h : schema.Suits t evaluate) (app : String) (row : Row) :
    t.keyOf row = t.keyOf (t.grantRow evaluate app) ↔ t.IsGrantOf app row := by
  obtain ⟨value, hrow, hvalue⟩ := h.exists_grantRow_eq app
  rw [hrow, Table.keyOf_map, Table.keyOf, map_valuesWhere_eq_iff h.distinct]
  constructor
  · intro hall entry he
    obtain ⟨c, hc, hn⟩ := h.exists_column he
    have hn' : sameName entry.1 c.name = true := by rw [sameName_comm, hn]
    have hcell := hall c hc ((h.inKey_iff app).mpr ⟨entry, he, hn'⟩)
    rw [hvalue c hc entry he hn', asKey_of_mem_subject he] at hcell
    rw [Table.value?, ← valueAt?_congr hn, hcell]
  · intro hgrant c hc hk
    obtain ⟨entry, he, hn⟩ := (h.inKey_iff app).mp hk
    rw [← valueAt?_congr hn, hvalue c hc entry he hn, asKey_of_mem_subject he]
    exact hgrant entry he

theorem null_notMem_key (h : schema.Suits t evaluate) (app : String) :
    .null ∉ t.keyOf (t.grantRow evaluate app) := by
  obtain ⟨value, hrow, hvalue⟩ := h.exists_grantRow_eq app
  rw [hrow]
  refine Table.null_notMem_keyOf_map fun c hc hk => ?_
  obtain ⟨entry, he, hn⟩ := (h.inKey_iff app).mp hk
  rw [hvalue c hc entry he hn]
  exact ne_null_of_mem_statement (schema.mem_statement_of_subject he)

theorem replaceRow_eq (h : schema.Suits t evaluate) (app : String) :
    t.replaceRow (t.grantRow evaluate app) =
      { t with rows := t.rows.filter (fun row => ¬ t.IsGrantOf app row) ++
        [t.grantRow evaluate app] } := by
  have hrows := Table.rows_replaceRow (Table.key_ne_nil h.keyed) (h.null_notMem_key app)
  simp only [ne_eq, h.keyOf_eq_iff] at hrows
  rw [← hrows]
  rfl

theorem regrants (h : schema.Suits t evaluate) {name : String} {value : Value}
    (hv : t.value? (t.grantRow evaluate app) name = some value) :
    t.Regrants app name value (t.replaceRow (t.grantRow evaluate app)) :=
  ⟨_, (h.keyOf_eq_iff app _).mp rfl, hv, h.replaceRow_eq app⟩

-- ---------------------------------------------------------------------------
-- A table that is taken for what it is
-- ---------------------------------------------------------------------------

theorem grantRow_eq (h : schema.Suits t evaluate) {other : Schema} (hs : Schema.ofTable t = other)
    (app : String) :
    t.grantRow evaluate app = t.newRow evaluate (other.statement cameraService app) := by
  rw [Table.grantRow, assignment_ofTable h.named, hs]

theorem value?_number (h : schema.Suits t evaluate) (hs : Schema.ofTable t = schema)
    {name : String} {n : Int} (hm : (name, n) ∈ schema.numbers) :
    t.value? (t.grantRow evaluate app) name = some (.integer n) := by
  have he : (name, .integer n) ∈ schema.statement cameraService app :=
    mem_statement.mpr (.inr (.inr ⟨_, hm, rfl⟩))
  obtain ⟨c, hc, hn⟩ := h.known name (mem_names_of_mem_statement he)
  rw [h.grantRow_eq hs, h.newRow_eq, Table.value?, ← valueAt?_congr hn, row,
    valueAt?_map h.distinct _ hc, fresh_of_mem he (by rw [sameName_comm, hn])]

theorem grant_eq_ok (h : schema.Suits t evaluate) (hs : Schema.ofTable t = schema)
    (app : String) : (Database.withTable t).grant evaluate cameraService app =
      .ok (.withTable (t.replaceRow (t.grantRow evaluate app))) := by
  rw [h.grantRow_eq hs, h.newRow_eq]
  exact (h.toTyped.grant_eq_ok_iff hs).mpr ⟨h.toTakes, rfl⟩

-- ---------------------------------------------------------------------------
-- A modern table that is taken for a legacy one
-- ---------------------------------------------------------------------------

theorem grant_eq_unknown (h : Schema.modern.Suits t evaluate) (hs : Schema.ofTable t = .legacy)
    (hn : ∀ c ∈ t.columns, sameName c.name "allowed" = false) (app : String) :
    (Database.withTable t).grant evaluate cameraService app =
      .error (.noSuchColumn tableName "allowed") := by
  have hfound : ∀ entry ∈ subject app, (t.column? entry.1).isNone = false := by
    intro entry he
    obtain ⟨c, hc, hn⟩ := h.exists_column he
    rw [Option.isNone_eq_false_iff, Table.column?, List.find?_isSome]
    exact ⟨c, hc, hn⟩
  have hmissing : (t.column? "allowed").isNone = true := by
    rw [Option.isNone_iff_eq_none, Table.column?, List.find?_eq_none]
    intro c hc
    simp [hn c hc]
  have hsubject : (subject app).find? (fun entry => (t.column? entry.1).isNone) = none :=
    List.find?_eq_none.mpr fun entry he => by simp [hfound entry he]
  have hstatement : Schema.legacy.statement cameraService app =
      subject app ++ [("allowed", .integer 1), ("prompt_count", .integer 1)] := rfl
  have hunknown : t.unknownColumn? (Schema.legacy.statement cameraService app) =
      some "allowed" := by
    rw [hstatement, Table.unknownColumn?, List.find?_append, hsubject, List.find?_cons, hmissing]
    rfl
  rw [Database.grant, Database.table?_withTable h.named]
  simp only
  rw [assignment_ofTable h.named, hs, Table.upsert, hunknown]
  rfl

theorem exists_value?_default (h : Schema.modern.Suits t evaluate)
    (hs : Schema.ofTable t = .legacy) (app : String) :
    ∃ c ∈ t.columns, sameName c.name modernColumn = true ∧
      t.value? (t.grantRow evaluate app) modernColumn =
        some (c.affinity.apply (c.fallback evaluate)) := by
  obtain ⟨c, hc, hn⟩ := h.known modernColumn (by decide)
  have hnames : ∀ name ∈ Schema.legacy.names, sameName modernColumn name = false := by decide
  have hnone : (Schema.legacy.statement cameraService app).value? c.name = none :=
    value?_statement_eq_none fun name hname => by
      rw [sameName_comm, sameName_congr hn]
      exact hnames name hname
  refine ⟨c, hc, hn, ?_⟩
  rw [h.grantRow_eq hs, Table.value?, ← valueAt?_congr hn, Table.newRow,
    valueAt?_map h.distinct _ hc, Table.cell_of_default (h.numbersRows_eq c) hnone]

end Schema.Suits

end Consent

-- ---------------------------------------------------------------------------
-- A grant at a path
-- ---------------------------------------------------------------------------

namespace ConsentStore

open Consent FileTree

/-- A grant for the camera in a table whose columns are spelled in any case. The last part is
about modern tables in which the column by which they are known is spelled in another way. -/
theorem grant_of_spelling {path : String} {here : Location} {t : Table} {s : Session World}
    (hp : s.state.files.LeadsTo path here)
    (hd : s.state.files.database here = .ok (.withTable t)) (app : String) :
    let evaluate := s.state.evaluate
    let done := (grant path cameraService app).run s
    let after := done.2.state.files.database here
    (Schema.modern.Suits t evaluate → modernColumn ∈ t.columns.map Column.name →
      done.1 = .ok () ∧ ∃ new, t.Regrants app "auth_value" (.integer 2) new ∧
        after = .ok (.withTable new)) ∧
    (Schema.legacy.Suits t evaluate → (∀ c ∈ t.columns, sameName c.name modernColumn = false) →
      done.1 = .ok () ∧ ∃ new, t.Regrants app "allowed" (.integer 1) new ∧
        after = .ok (.withTable new)) ∧
    (Schema.modern.Suits t evaluate → modernColumn ∉ t.columns.map Column.name →
      ((∀ c ∈ t.columns, sameName c.name "allowed" = false) →
        done.1 = .error (.consentDatabase path (.engine (.noSuchColumn tableName "allowed"))) ∧
          done.2.state = s.state) ∧
      (done.1 = .ok () → ∃ c ∈ t.columns, sameName c.name modernColumn = true ∧
        ∃ new, t.Regrants app "auth_value" (c.affinity.apply (c.fallback evaluate)) new ∧
          after = .ok (.withTable new))) := by
  intro evaluate done after
  have hdone : done = _ := run_grant_at hp hd cameraService app
  have hafter : ∀ new,
      (Database.withTable t).grant evaluate cameraService app = .ok (.withTable new) →
        done.1 = .ok () ∧ after = .ok (.withTable new) := by
    intro new hg
    rw [hg] at hdone
    refine ⟨by rw [hdone], ?_⟩
    show done.2.state.files.database here = _
    rw [hdone]
    exact database_setDatabase (node?_of_database hd)
  refine ⟨fun h hmark => ?_, fun h hmark => ?_, fun h hmark => ⟨fun hn => ?_, fun hok => ?_⟩⟩
  · have hs : Schema.ofTable t = .modern := if_pos hmark
    obtain ⟨hok, hnew⟩ := hafter _ (h.grant_eq_ok hs app)
    exact ⟨hok, _, h.regrants (h.value?_number hs (by decide)), hnew⟩
  · have hs : Schema.ofTable t = .legacy := if_neg fun hm => by
      obtain ⟨c, hc, hn⟩ := List.mem_map.mp hm
      have := hmark c hc
      simp [hn, sameName] at this
    obtain ⟨hok, hnew⟩ := hafter _ (h.grant_eq_ok hs app)
    exact ⟨hok, _, h.regrants (h.value?_number hs (by decide)), hnew⟩
  · rw [h.grant_eq_unknown (if_neg hmark) hn] at hdone
    exact ⟨by rw [hdone], by rw [hdone]⟩
  · cases hg : (Database.withTable t).grant evaluate cameraService app with
    | error cause =>
      rw [hdone, hg] at hok
      cases hok
    | ok content =>
      obtain ⟨_, ht, rfl⟩ := Database.grant_eq_ok hg
      cases ht
      obtain ⟨c, hc, hn, hvalue⟩ := h.exists_value?_default (if_neg hmark) app
      exact ⟨c, hc, hn, _, h.regrants hvalue, (hafter _ hg).2⟩

/-- Only `auth_value` is spelled as usual here. The row for the app has a new one in its place,
the other one stays. -/
theorem grant_of_mixed_spelling :
    let row (app : String) (value : Int) : Row := [.text cameraService, .text app, .integer 0,
      .integer value, .integer 2, .integer 1, .text "UNUSED"]
    let t : Table := {
      name := "ACCESS"
      columns := [⟨"SERVICE", "TEXT", true, none⟩, ⟨"Client", "TEXT", true, none⟩,
        ⟨"client_TYPE", "INTEGER", true, none⟩, ⟨"auth_value", "INTEGER", true, none⟩,
        ⟨"Auth_Reason", "INTEGER", true, none⟩, ⟨"AUTH_VERSION", "INTEGER", true, none⟩,
        ⟨"object", "TEXT", true, some (.constant (.text "UNUSED"))⟩]
      key := ["Service", "CLIENT", "client_type"]
      rows := [row "a" 0, row "b" 0] }
    let path := "home/Library/TCC/TCC.db"
    let here := ["home", "Library", "TCC", "TCC.db"]
    let files : FileTree := ⟨"/s", [(here, .database (.withTable t))]⟩
    let w : World := { files, respond := fun _ _ => .hangs }
    let done := (grant path cameraService "a").run ⟨w, []⟩
    files.LeadsTo path here ∧ Schema.modern.Suits t w.evaluate ∧
      modernColumn ∈ t.columns.map Column.name ∧ done.1 = .ok () ∧
      done.2.state.files.database here =
        .ok (.withTable { t with rows := [row "b" 0, row "a" 2] }) ∧
      ∃ new, t.Regrants "a" "auth_value" (.integer 2) new ∧
        done.2.state.files.database here = .ok (.withTable new) := by
  intro row t path here files w done
  have hp : files.LeadsTo path here :=
    leadsTo_of_isPlain (by unfold Locator.IsPlain; decide +kernel) (by decide) (by decide +kernel)
      (by decide +kernel)
  have htyped : Schema.modern.Typed t := ⟨by decide +kernel, by decide +kernel, by decide +kernel,
    by unfold Table.IsKeyedBySubject; decide +kernel⟩
  have ht : Schema.modern.Suits t w.evaluate := ⟨htyped, ⟨by decide +kernel, by decide +kernel⟩,
    by unfold DistinctNames; decide +kernel, by decide +kernel⟩
  have hmark : modernColumn ∈ t.columns.map Column.name := by decide +kernel
  obtain ⟨hmodern, -, -⟩ := grant_of_spelling (s := ⟨w, []⟩) hp rfl "a"
  obtain ⟨hok, hnew⟩ := hmodern ht hmark
  exact ⟨hp, ht, hmark, hok, by decide +kernel, hnew⟩

/-- In capitals the column that makes a table modern is not seen: a grant looks for the columns
of the legacy schema and is refused. -/
theorem grant_of_capital_mark :
    let t : Table := {
      name := "access"
      columns := [⟨"service", "TEXT", true, none⟩, ⟨"client", "TEXT", true, none⟩,
        ⟨"client_type", "INTEGER", true, none⟩, ⟨"AUTH_VALUE", "INTEGER", true, none⟩,
        ⟨"auth_reason", "INTEGER", true, none⟩, ⟨"auth_version", "INTEGER", true, none⟩]
      key := ["service", "client", "client_type"]
      rows := [] }
    let path := "home/Library/TCC/TCC.db"
    let here := ["home", "Library", "TCC", "TCC.db"]
    let files : FileTree := ⟨"/s", [(here, .database (.withTable t))]⟩
    let w : World := { files, respond := fun _ _ => .hangs }
    files.LeadsTo path here ∧ files.database here = .ok (.withTable t) ∧
      Schema.modern.Suits t w.evaluate ∧
      ((grant path cameraService "a").run ⟨w, []⟩).1 =
        .error (.consentDatabase path (.engine (.noSuchColumn "access" "allowed"))) := by
  intro t path here files w
  have hp : files.LeadsTo path here :=
    leadsTo_of_isPlain (by unfold Locator.IsPlain; decide +kernel) (by decide) (by decide +kernel)
      (by decide +kernel)
  have htyped : Schema.modern.Typed t := ⟨by decide +kernel, by decide +kernel, by decide +kernel,
    by unfold Table.IsKeyedBySubject; decide +kernel⟩
  have ht : Schema.modern.Suits t w.evaluate := ⟨htyped, ⟨by decide +kernel, by decide +kernel⟩,
    by unfold DistinctNames; decide +kernel, by decide +kernel⟩
  exact ⟨hp, rfl, ht, by decide +kernel⟩

end ConsentStore

end SimApprove
