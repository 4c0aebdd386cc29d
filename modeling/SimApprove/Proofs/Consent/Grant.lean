import Mathlib.Data.Finset.Basic
import SimApprove.Proofs.Consent.Replacement

/-!
# Grants in a keyed table

`Schema.Fits` says what a table of grants has to look like for a camera grant to
be a replacement by key: the columns of one of the two schemas, and a key that
holds service, client and client type, with whatever else has a constant default. In such a
table `grant` is `Schema.put`, or is refused for a reason that has nothing to do
with the rows (`Fits.grant_eq`). After any puts the rows depend only on the apps
that were put and on the last row of each: `Schema.settled`, up to order.
-/

namespace SimApprove.Consent

namespace Schema

structure Fits (schema : Schema) (t : Table) : Prop extends schema.Typed t where
  ofTable : Schema.ofTable t = schema
  known : ∀ name ∈ schema.names, ∃ c ∈ t.columns, sameName c.name name = true
  defaulted : ∀ c ∈ t.columns, t.inKey c = true →
    (∃ name ∈ schema.names, sameName name c.name = true) ∨
      ∃ value, c.default = some (.constant value) ∧ value ≠ .null

/-- The key of a fresh grant, in which no expression has a part. -/
def key (schema : Schema) (t : Table) (app : String) : List Value :=
  t.keyOf (schema.row t (fun _ => .null) cameraService app)

def put (schema : Schema) (t : Table) (rows : List Row) (evaluate : Evaluation) (app : String) :
    List Row :=
  rows.filter (fun row => t.keyOf row ≠ schema.key t app) ++
    [schema.row t evaluate cameraService app]

def refusing? (schema : Schema) (t : Table) (evaluate : Evaluation) (app : String) :
    Option Column :=
  t.nullColumn? evaluate (schema.statement cameraService app)

theorem fits_plainTable (schema : Schema) (rows : List Row) :
    schema.Fits (schema.plainTable rows) where
  named := (by decide : sameName tableName tableName = true)
  texts := by cases schema <;> simp only [plainTable] <;> decide
  numbers := by cases schema <;> simp only [plainTable] <;> decide
  keyed := by simp only [plainTable, Table.IsKeyedBySubject]; decide
  ofTable := by
    cases schema with
    | modern => exact if_pos (by simp only [plainTable]; decide)
    | legacy => exact if_neg (by simp only [plainTable]; decide)
  known := by cases schema <;> simp only [plainTable] <;> decide
  defaulted := by
    have hnamed : ∀ c ∈ (schema.plainTable rows).columns,
        ∃ name ∈ schema.names, sameName name c.name = true := by
      cases schema <;> simp only [plainTable] <;> decide
    exact fun c hc _ => .inl (hnamed c hc)

variable {schema : Schema} {t : Table} {evaluate : Evaluation} {app : String} {c : Column}
  {rows : List Row}

namespace Fits

-- ---------------------------------------------------------------------------
-- Keys of grants
-- ---------------------------------------------------------------------------

theorem fresh_eq_of_inKey (h : schema.Fits t) (hc : c ∈ t.columns) (hk : t.inKey c = true)
    (evaluate evaluate' : Evaluation) (app : String) :
    schema.fresh evaluate cameraService app c = schema.fresh evaluate' cameraService app c := by
  rcases h.defaulted c hc hk with ⟨name, hname, hn⟩ | ⟨value, hv, -⟩
  · obtain ⟨entry, he, rfl⟩ := List.mem_map.mp (schema.map_statement cameraService app ▸ hname)
    rw [fresh_of_mem he hn, fresh_of_mem he hn]
  · simp only [fresh, Column.fallback, hv]

theorem keyOf_row (h : schema.Fits t) (evaluate : Evaluation) (app : String) :
    t.keyOf (schema.row t evaluate cameraService app) = schema.key t app := by
  rw [key, Schema.keyOf_row, Schema.keyOf_row]
  refine List.map_congr_left fun c hc => ?_
  obtain ⟨hc, hk⟩ := List.mem_filter.mp hc
  rw [h.fresh_eq_of_inKey hc hk]

theorem null_notMem_key (h : schema.Fits t) : .null ∉ schema.key t app := by
  refine null_notMem_keyOf_row fun c hc hk => ?_
  rcases h.defaulted c hc hk with hname | ⟨value, hv, hne⟩
  · exact .inl hname
  · exact .inr (by simpa [Column.fallback, hv] using hne)

theorem key_injective (h : schema.Fits t) {a b : String}
    (hk : schema.key t a = schema.key t b) : a = b := by
  obtain ⟨c, hc, hn⟩ := h.known "client" (by simp [names])
  obtain ⟨k, hkey, hs⟩ := h.keyed "client" (by decide)
  have hin : t.inKey c = true := List.any_eq_true.mpr
    ⟨k, hkey, by rw [sameName_congr hs, sameName_comm, hn]⟩
  have hclient : ∀ app, schema.fresh (fun _ => .null) cameraService app c = .text app :=
    fun app => fresh_of_mem (mem_statement.mpr (.inr (.inl rfl))) (by rw [sameName_comm, hn])
  rw [key, key, Schema.keyOf_row, Schema.keyOf_row] at hk
  have hcell := List.map_inj_left.mp hk c (List.mem_filter.mpr ⟨hc, hin⟩)
  rw [hclient, hclient] at hcell
  exact Value.text.inj hcell

theorem collides_eq (h : schema.Fits t) (evaluate : Evaluation) (app : String) (other : Row) :
    t.collides (schema.row t evaluate cameraService app) other =
      decide (t.keyOf other = schema.key t app) := by
  have hkey := h.keyOf_row evaluate app
  rw [Table.collides_eq (Table.key_ne_nil h.keyed) (hkey ▸ h.null_notMem_key), hkey]

-- ---------------------------------------------------------------------------
-- A grant
-- ---------------------------------------------------------------------------

theorem with_rows (h : schema.Fits t) (rows : List Row) : schema.Fits { t with rows := rows } :=
  ⟨⟨h.named, h.texts, h.numbers, h.keyed⟩, h.ofTable, h.known, h.defaulted⟩

theorem unknownColumn?_eq (h : schema.Fits t) :
    t.unknownColumn? (schema.statement cameraService app) = none :=
  Table.unknownColumn?_eq_none_iff.mpr fun _ he => h.known _ (mem_names_of_mem_statement he)

theorem nullColumn?_with_rows (h : schema.Fits t) (rows : List Row) :
    ({ t with rows := rows } : Table).nullColumn? evaluate (schema.statement cameraService app) =
      schema.refusing? t evaluate app := by
  have hf : t.columns.filter (fun c => c.notNull &&
        ({ t with rows := rows } : Table).cell evaluate (schema.statement cameraService app) c =
          .null) =
      t.columns.filter fun c =>
        c.notNull && t.cell evaluate (schema.statement cameraService app) c = .null :=
    List.filter_congr fun c hc => by rw [(h.with_rows rows).cell_eq hc, h.cell_eq hc]
  simp only [refusing?, Table.nullColumn?, hf]

theorem replaceRow_eq (h : schema.Fits t) (rows : List Row) :
    ({ t with rows := rows } : Table).replaceRow (schema.row t evaluate cameraService app) =
      { t with rows := schema.put t rows evaluate app } := by
  have hf : rows.filter (fun other => !({ t with rows := rows } : Table).collides
        (schema.row t evaluate cameraService app) other) =
      rows.filter fun other => t.keyOf other ≠ schema.key t app := by
    refine List.filter_congr fun other _ => ?_
    rw [show schema.row t evaluate cameraService app =
      schema.row { t with rows := rows } evaluate cameraService app from rfl,
      (h.with_rows rows).collides_eq evaluate app other, decide_not]
    rfl
  simp only [Table.replaceRow, put, hf]

/-- A grant in a fitting table puts one row, or is refused whatever the rows are. -/
theorem grant_eq (h : schema.Fits t) (rows : List Row) (evaluate : Evaluation) (app : String) :
    (Database.withTable { t with rows := rows }).grant evaluate cameraService app =
      match schema.refusing? t evaluate app with
      | some c => .error (.notNull t.name c.name)
      | none => .ok (.withTable { t with rows := schema.put t rows evaluate app }) := by
  have hr := h.with_rows rows
  have hrow := (hr.newRow_eq evaluate cameraService app).trans
    (show schema.row { t with rows := rows } evaluate cameraService app =
      schema.row t evaluate cameraService app from rfl)
  rw [hr.toTyped.grant_eq hr.ofTable, Table.upsert, hr.unknownColumn?_eq, hr.misnumbered_eq,
    h.nullColumn?_with_rows]
  cases schema.refusing? t evaluate app with
  | some c => rfl
  | none =>
    simp only [Bool.false_eq_true, if_false, hrow, h.replaceRow_eq]
    rfl

end Fits

-- ---------------------------------------------------------------------------
-- After any grants
-- ---------------------------------------------------------------------------

/-- The rows after grants for some apps: the rows of the table with none of their
keys, and one fresh row for each of them. -/
def settled (schema : Schema) (t : Table) (fresh : String → Row) (apps : Finset String) :
    Multiset Row :=
  ↑(t.rows.filter fun row => ∀ app ∈ apps, t.keyOf row ≠ schema.key t app) + apps.val.map fresh

theorem settled_empty (schema : Schema) (t : Table) (fresh : String → Row) :
    schema.settled t fresh ∅ = t.rows := by
  simp [settled]

theorem settled_congr {fresh fresh' : String → Row} {apps : Finset String}
    (h : ∀ app ∈ apps, fresh app = fresh' app) :
    schema.settled t fresh apps = schema.settled t fresh' apps := by
  rw [settled, settled, Multiset.map_congr rfl h]

theorem Fits.put_settled (h : schema.Fits t) {fresh : String → Row} {apps : Finset String}
    (hk : ∀ b ∈ apps, t.keyOf (fresh b) = schema.key t b)
    (hr : (rows : Multiset Row) = schema.settled t fresh apps) (evaluate : Evaluation)
    (app : String) : (schema.put t rows evaluate app : Multiset Row) =
      schema.settled t (Function.update fresh app (schema.row t evaluate cameraService app))
        (insert app apps) := by
  -- of the fresh rows, the one for the app goes and a new one comes
  have hgone : (apps.val.map fresh).filter (fun row => t.keyOf row ≠ schema.key t app) =
      (apps.erase app).val.map fresh := by
    rw [Multiset.filter_map, ← Finset.filter_ne', Finset.filter_val]
    refine congrArg _ (Multiset.filter_congr fun b hb => ?_)
    simp only [Function.comp_apply, hk b hb]
    exact not_congr ⟨h.key_injective, fun hb => by rw [hb]⟩
  have hkept : (apps.erase app).val.map
        (Function.update fresh app (schema.row t evaluate cameraService app)) =
      (apps.erase app).val.map fresh :=
    Multiset.map_congr rfl fun b hb =>
      Function.update_of_ne (Finset.ne_of_mem_erase hb) _ _
  have hinsert : (insert app apps).val = app ::ₘ (apps.erase app).val := by
    have he : insert app (apps.erase app) = insert app apps := by
      ext b
      simp only [Finset.mem_insert, Finset.mem_erase]
      tauto
    rw [← Finset.insert_val_of_notMem (Finset.notMem_erase app apps), he]
  have hold : (t.rows.filter (fun row => ∀ b ∈ apps, t.keyOf row ≠ schema.key t b)).filter
        (fun row => t.keyOf row ≠ schema.key t app) =
      t.rows.filter fun row => ∀ b ∈ insert app apps, t.keyOf row ≠ schema.key t b := by
    rw [List.filter_filter]
    refine List.filter_congr fun row _ => ?_
    simp
  rw [put, ← Multiset.coe_add, ← Multiset.filter_coe, hr, settled, Multiset.filter_add, hgone,
    Multiset.filter_coe, hold, settled, hinsert, Multiset.map_cons, hkept, Function.update_self,
    Multiset.coe_singleton, Multiset.add_cons, Multiset.add_comm _ {_}, Multiset.singleton_add]

end Schema

end SimApprove.Consent
