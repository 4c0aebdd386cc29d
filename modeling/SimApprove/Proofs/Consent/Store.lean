import SimApprove.Client.ConsentStore
import SimApprove.Proofs.Consent.Replacement
import SimApprove.Proofs.World.Opening

/-!
# How a grant ends

`Outcome` says how a grant in the database at a path ends: what it logs, its result and the
files that it leaves. `run_grant` ties the grant to it, and `exists_outcome` says that every
grant ends in one of these ways.
-/

namespace SimApprove

/-- A camera grant that is taken is one in the table of a file: a new database has none. -/
theorem FileTree.Opened.exists_table {t : FileTree} {path app : String} {d : OpenDatabase}
    {evaluate : Consent.Evaluation} {content : Consent.Database} (h : t.Opened path d)
    (hg : d.grant evaluate Consent.cameraService app = .ok content) :
    ∃ here table, t.Names path here ∧ t.node? here = some (.database (.withTable table)) ∧
      d.file = some here ∧
      content = .withTable (table.replaceRow (table.grantRow evaluate app)) := by
  obtain ⟨table, htable, rfl⟩ := Consent.Database.grant_eq_ok (OpenDatabase.grant_eq_ok hg)
  obtain ⟨here, hn, hd, hf⟩ := h.of_grant hg
  exact ⟨here, table, hn, node?_of_database (htable ▸ hd), hf, rfl⟩

namespace ConsentStore

section
variable (path service app : String) (evaluate : Consent.Evaluation) (files : FileTree)

inductive Outcome : List Log.Event → Except ClientError Unit → FileTree → Prop
  | missing (hf : files.has path = false) :
      Outcome [] (.error (.consentDatabaseMissing path)) files
  | unopened {cause} (hf : files.has path = true) (ho : files.openDatabase path = .error cause) :
      Outcome [] (.error (.consentDatabase path (.engine cause))) files
  | unwritten {d cause} (hf : files.has path = true) (ho : files.openDatabase path = .ok d)
      (hg : d.grant evaluate service app = .error cause) :
      Outcome [writing path service app] (.error (.consentDatabase path (.engine cause)))
        (files.opened d)
  | written {d content} (hf : files.has path = true) (ho : files.openDatabase path = .ok d)
      (hg : d.grant evaluate service app = .ok content) :
      Outcome [writing path service app] (.ok ()) (files.store d.file content)

end

variable {path service app : String} {evaluate : Consent.Evaluation} {files after : FileTree}
  {events : List Log.Event} {result : Except ClientError Unit} {s : Session World}

theorem run_openDatabase_missing (h : s.state.files.has path = false) :
    (openDatabase path).run s = (.error (.consentDatabaseMissing path), s) := by
  obtain ⟨cause, hc⟩ := FileTree.has_eq_false_iff.mp h
  simp [openDatabase, hc]

theorem run_openDatabase_error {cause : EngineError} (h : s.state.files.has path = true)
    (ho : s.state.files.openDatabase path = .error cause) :
    (openDatabase path).run s = (.error (.consentDatabase path (.engine cause)), s) := by
  obtain ⟨here, hr⟩ := FileTree.has_eq_true_iff.mp h
  simp [openDatabase, hr, ho]

def opened (s : Session World) (d : OpenDatabase) : Session World :=
  ⟨{ s.state with files := s.state.files.opened d }, s.log⟩

theorem run_openDatabase_ok {d : OpenDatabase} (h : s.state.files.has path = true)
    (ho : s.state.files.openDatabase path = .ok d) :
    (openDatabase path).run s = (.ok d, opened s d) := by
  obtain ⟨here, hr⟩ := FileTree.has_eq_true_iff.mp h
  simp [openDatabase, hr, ho, opened]

theorem run_grant_of_error {e : ClientError} (h : (openDatabase path).run s = (.error e, s)) :
    (grant path service app).run s = (.error e, s) := by
  rw [grant, Action.run_bind_of_error h]

theorem run_grant_of_ok {d : OpenDatabase}
    (h : (openDatabase path).run s = (.ok d, opened s d)) :
    (grant path service app).run s = (write path service app d).run
      ⟨(opened s d).state, s.log ++ [writing path service app]⟩ := by
  rw [grant, Action.run_bind_of_ok h, Action.run_bind_of_ok (Action.run_emit _ _)]
  rfl

/-- A grant ends as `Outcome` says. -/
theorem run_grant
    (h : Outcome path service app s.state.evaluate s.state.files events result after) :
    (grant path service app).run s =
      (result, ⟨{ s.state with files := after }, s.log ++ events⟩) := by
  cases h with
  | missing hf => rw [run_grant_of_error (run_openDatabase_missing hf), List.append_nil]
  | unopened hf ho => rw [run_grant_of_error (run_openDatabase_error hf ho), List.append_nil]
  | unwritten hf ho hg =>
    rw [run_grant_of_ok (run_openDatabase_ok hf ho)]
    simp only [write, Action.run_transform, opened, hg]
  | written hf ho hg =>
    rw [run_grant_of_ok (run_openDatabase_ok hf ho)]
    simp only [write, Action.run_transform, opened, hg, FileTree.opened_of_grant ho hg]

theorem exists_outcome (path service app : String) (evaluate : Consent.Evaluation)
    (files : FileTree) :
    ∃ events result after, Outcome path service app evaluate files events result after := by
  cases hf : files.has path with
  | false => exact ⟨_, _, _, .missing hf⟩
  | true =>
    cases ho : files.openDatabase path with
    | error cause => exact ⟨_, _, _, .unopened hf ho⟩
    | ok d =>
      cases hg : d.grant evaluate service app with
      | error cause => exact ⟨_, _, _, .unwritten hf ho hg⟩
      | ok content => exact ⟨_, _, _, .written hf ho hg⟩

theorem Outcome.exists_table
    (h : Outcome path Consent.cameraService app evaluate files events (.ok ()) after) :
    files.has path = true ∧ ∃ here table, files.Names path here ∧
      files.node? here = some (.database (.withTable table)) ∧
      after = files.setDatabase here
        (.withTable (table.replaceRow (table.grantRow evaluate app))) := by
  cases h with
  | written hf ho hg =>
    obtain ⟨here, table, hn, hnode, hfile, rfl⟩ :=
      (FileTree.opened_of_openDatabase ho).exists_table hg
    exact ⟨hf, here, table, hn, hnode, by rw [hfile]; rfl⟩

theorem Outcome.kept {e : ClientError}
    (h : Outcome path service app evaluate files events (.error e) after) :
    files.Kept path after := by
  cases h with
  | missing | unopened => exact .same
  | unwritten hf ho => exact (FileTree.opened_of_openDatabase ho).kept

end ConsentStore

end SimApprove
