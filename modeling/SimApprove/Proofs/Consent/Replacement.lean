import SimApprove.Proofs.Consent.Schema

/-!
# Grants in any table

What a grant that succeeds leaves of a table, whatever its columns, key and rows are:
the same table with one row more, `Table.grantRow`, in the place of rows with its key.
`filter_rows_replaceRow` says that all other rows stay, and `exists_grantRow_eq` what the
new row says of service, client and client type.
-/

namespace SimApprove.Consent

def Table.grantRow (t : Table) (evaluate : Evaluation) (app : String) : Row :=
  t.newRow evaluate ((Database.withTable t).assignment cameraService app)

/-- The entries by which a grant says what is granted to whom. -/
def subject (app : String) : Assignment :=
  [("service", .text cameraService), ("client", .text app), ("client_type", .integer 0)]

variable {t : Table} {evaluate : Evaluation} {app : String} {entry : String × Value}

theorem Database.eq_withTable_of_table? {db : Database} (h : db.table? = some t) :
    db = .withTable t := by
  unfold table? at h
  split at h
  · split at h
    · cases h
      rfl
    · cases h
  · cases h

theorem Database.grant_eq_ok {db content : Database}
    (h : db.grant evaluate cameraService app = .ok content) : ∃ t, db = .withTable t ∧
      content = .withTable (t.replaceRow (t.grantRow evaluate app)) := by
  unfold Database.grant at h
  split at h
  · cases h
  rename_i t ht
  obtain rfl := eq_withTable_of_table? ht
  obtain ⟨after, hu, rfl⟩ := map_eq_ok_iff.mp h
  exact ⟨t, rfl, by rw [(Table.upsert_eq_ok_iff.mp hu).2, Table.grantRow]⟩

theorem Table.filter_rows_replaceRow (t : Table) (row : Row) :
    (t.replaceRow row).rows.filter (fun other => t.keyOf other ≠ t.keyOf row) =
      t.rows.filter fun other => t.keyOf other ≠ t.keyOf row := by
  have hnew : [row].filter (fun other => t.keyOf other ≠ t.keyOf row) = [] := by simp
  rw [replaceRow, List.filter_append, List.filter_filter, hnew, List.append_nil]
  refine List.filter_congr fun other _ => ?_
  by_cases hk : t.keyOf other = t.keyOf row
  · simp [hk]
  · simp [collides, hk, eq_comm (a := t.keyOf row)]

-- ---------------------------------------------------------------------------
-- The new row
-- ---------------------------------------------------------------------------

theorem Schema.mem_statement_of_subject (schema : Schema) (he : entry ∈ subject app) :
    entry ∈ schema.statement cameraService app := by
  have hkind : ("client_type", 0) ∈ schema.numbers := by cases schema <;> decide
  simp only [subject, List.mem_cons, List.not_mem_nil, or_false] at he
  rcases he with rfl | rfl | rfl
  · exact mem_statement.mpr (.inl rfl)
  · exact mem_statement.mpr (.inr (.inl rfl))
  · exact mem_statement.mpr (.inr (.inr ⟨_, hkind, rfl⟩))

theorem Database.exists_assignment_eq (db : Database) (service app : String) :
    ∃ schema : Schema, db.assignment service app = schema.statement service app := by
  unfold assignment
  split
  · exact ⟨.modern, rfl⟩
  · exact ⟨.legacy, rfl⟩

theorem Table.exists_grantRow_eq (t : Table) (evaluate : Evaluation) (app : String) :
    ∃ value : Column → Value, t.grantRow evaluate app = t.columns.map value ∧
      ∀ c, ∀ entry ∈ subject app, sameName entry.1 c.name = true →
        value c = c.affinity.apply entry.2 := by
  obtain ⟨schema, hs⟩ := (Database.withTable t).exists_assignment_eq cameraService app
  refine ⟨_, rfl, fun c entry he hn => ?_⟩
  have he := schema.mem_statement_of_subject he
  rw [hs]
  exact cell_of_given (Schema.value?_statement he hn) (Schema.ne_null_of_mem_statement he)

end SimApprove.Consent
