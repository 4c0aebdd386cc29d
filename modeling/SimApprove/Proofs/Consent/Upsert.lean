import Mathlib.Data.List.Pairwise
import SimApprove.Consent.Database

/-!
# When a row is written

`upsert_eq_ok_iff` says which rows a table takes: every name of the statement is that of a
column, a numbering column gets an integer and no column gets a null that it must not hold.
`rows_replaceRow` says which rows it has then, for a row without a null in its key.
-/

namespace SimApprove.Consent

-- ---------------------------------------------------------------------------
-- Values and names
-- ---------------------------------------------------------------------------

theorem Affinity.apply_ne_null_iff {affinity : Affinity} {value : Value} :
    affinity.apply value ≠ .null ↔ value ≠ .null := by
  refine ⟨?_, apply_ne_null⟩
  rintro h rfl
  cases affinity <;> exact h rfl

theorem Value.asKey_eq_null_iff {value : Value} : value.asKey = null ↔ value = null := by
  cases value with
  | real x =>
    simp only [asKey, reduceCtorEq, iff_false]
    split
    · split <;> simp
    · simp
  | _ => simp [asKey]

theorem sameName_comm (a b : String) : sameName a b = sameName b a := by
  simp only [sameName, eq_comm]

theorem sameName_congr {a b : String} (h : sameName a b = true) (name : String) :
    sameName a name = sameName b name := by
  simp only [sameName, decide_eq_true_eq] at h ⊢
  rw [h]

def DistinctNames (cs : List Column) : Prop := cs.Pairwise fun c d => sameName c.name d.name = false

theorem Assignment.value?_of_mem {a : Assignment}
    (ha : (a.map Prod.fst).Pairwise fun x y => sameName x y = false) {entry : String × Value}
    (he : entry ∈ a) {column : String} (hn : sameName entry.1 column = true) :
    a.value? column = some entry.2 := by
  induction a with
  | nil => cases he
  | cons first rest ih =>
    obtain ⟨hfirst, hrest⟩ := List.pairwise_cons.mp ha
    rcases List.mem_cons.mp he with rfl | he
    · simp only [value?, List.find?_cons, hn, Option.map_some]
    · have hne : sameName first.1 column = false := by
        rw [sameName_comm, ← sameName_congr hn, sameName_comm]
        exact hfirst _ (List.mem_map_of_mem he)
      simp only [value?, List.find?_cons, hne]
      exact ih hrest he

theorem Assignment.value?_eq_none {a : Assignment} {column : String}
    (h : ∀ entry ∈ a, sameName entry.1 column = false) : a.value? column = none := by
  rw [value?, Option.map_eq_none_iff, List.find?_eq_none]
  intro entry he
  simp [h entry he]

theorem Database.table?_withTable {t : Table} (h : sameName t.name tableName = true) :
    (withTable t).table? = some t := if_pos h

theorem Database.columnNames_withTable {t : Table} (h : sameName t.name tableName = true) :
    (withTable t).columnNames = t.columns.map Column.name := by
  simp only [columnNames, table?_withTable h]

namespace Table

variable {t : Table} {evaluate : Evaluation} {a : Assignment} {c : Column} {row : Row}

-- ---------------------------------------------------------------------------
-- Constraints
-- ---------------------------------------------------------------------------

theorem unknownColumn?_eq_none_iff : t.unknownColumn? a = none ↔
    ∀ entry ∈ a, ∃ c ∈ t.columns, sameName c.name entry.1 = true := by
  simp [unknownColumn?, column?, List.find?_eq_none]

theorem nullColumn?_eq_none_iff : t.nullColumn? evaluate a = none ↔
    ∀ c ∈ t.columns, c.notNull = true → t.cell evaluate a c ≠ .null := by
  simp only [nullColumn?, Option.or_eq_none_iff, List.head?_eq_none_iff, List.filter_eq_nil_iff,
    Bool.and_eq_true, decide_eq_true_eq, not_and]
  refine ⟨fun h => h.2, fun h => ⟨?_, h⟩⟩
  rw [List.filter_eq_nil_iff.mpr (by simpa using h)]
  rfl

theorem upsert_eq_ok_iff {name : String} {after : Table} :
    t.upsert evaluate name a = .ok after ↔
      ((∀ entry ∈ a, ∃ c ∈ t.columns, sameName c.name entry.1 = true) ∧
        t.misnumbered evaluate a = false ∧
        ∀ c ∈ t.columns, c.notNull = true → t.cell evaluate a c ≠ .null) ∧
        after = t.replaceRow (t.newRow evaluate a) := by
  rw [← unknownColumn?_eq_none_iff, ← nullColumn?_eq_none_iff, upsert]
  cases t.unknownColumn? a <;> cases t.misnumbered evaluate a <;>
    cases t.nullColumn? evaluate a <;> simp [eq_comm]

-- ---------------------------------------------------------------------------
-- Cells
-- ---------------------------------------------------------------------------

theorem cell_of_given {v : Value} (h : a.value? c.name = some v) (hv : v ≠ .null) :
    t.cell evaluate a c = c.affinity.apply v := by
  have hn : c.affinity.apply v ≠ .null := Affinity.apply_ne_null hv
  simp [cell, h, hn]

theorem cell_of_default (h : t.numbersRows c = false) (hv : a.value? c.name = none) :
    t.cell evaluate a c = c.affinity.apply (c.fallback evaluate) := by
  simp [cell, h, hv]

-- ---------------------------------------------------------------------------
-- Keys of several columns
-- ---------------------------------------------------------------------------

/-- Two names that differ are two parts of the key, and then no column numbers the rows. -/
theorem numbersRows_eq_false {x y k l : String} (hk : k ∈ t.key) (hkx : sameName k x = true)
    (hl : l ∈ t.key) (hly : sameName l y = true) (hxy : sameName x y = false) (c : Column) :
    t.numbersRows c = false := by
  have hlength : t.key.length ≠ 1 := by
    intro h
    obtain ⟨only, honly⟩ := List.length_eq_one_iff.mp h
    rw [honly, List.mem_singleton] at hk hl
    subst hk hl
    simp only [sameName, decide_eq_true_eq, decide_eq_false_iff_not] at hkx hly hxy
    exact hxy (hkx.symm.trans hly)
  simp [numbersRows, hlength]

def IsKeyedBySubject (t : Table) : Prop :=
  ∀ name ∈ ["service", "client", "client_type"], ∃ k ∈ t.key, sameName k name = true

theorem numbersRows_of_keyed (h : t.IsKeyedBySubject) (c : Column) : t.numbersRows c = false := by
  obtain ⟨k, hk, hs⟩ := h "service" (by decide)
  obtain ⟨l, hl, hc⟩ := h "client" (by decide)
  exact numbersRows_eq_false hk hs hl hc (by decide) c

theorem key_ne_nil (h : t.IsKeyedBySubject) : t.key ≠ [] := by
  obtain ⟨k, hk, -⟩ := h "client" (by decide)
  exact List.ne_nil_of_mem hk

theorem keyOf_map (t : Table) (value : Column → Value) : t.keyOf (t.columns.map value) =
    (t.columns.filter t.inKey).map fun c => (value c).asKey := by
  rw [keyOf, valuesWhere_map, List.map_map]
  rfl

theorem null_notMem_keyOf_map {value : Column → Value}
    (h : ∀ c ∈ t.columns, t.inKey c = true → value c ≠ .null) :
    .null ∉ t.keyOf (t.columns.map value) := by
  rw [keyOf_map, List.mem_map]
  rintro ⟨c, hc, hnull⟩
  obtain ⟨hc, hk⟩ := List.mem_filter.mp hc
  exact h c hc hk (Value.asKey_eq_null_iff.mp hnull)

theorem collides_eq (hk : t.key ≠ []) (hn : .null ∉ t.keyOf row) (other : Row) :
    t.collides row other = decide (t.keyOf other = t.keyOf row) := by
  have hempty : t.key.isEmpty = false := by simpa using hk
  have hnull : (t.keyOf row).contains .null = false := by simpa using hn
  simp only [collides, hempty, hnull, Bool.not_false, Bool.true_and, eq_comm]

theorem rows_replaceRow (hk : t.key ≠ []) (hn : .null ∉ t.keyOf row) :
    (t.replaceRow row).rows =
      t.rows.filter (fun other => t.keyOf other ≠ t.keyOf row) ++ [row] := by
  simp only [replaceRow, collides_eq hk hn, decide_not]

end Table

end SimApprove.Consent
