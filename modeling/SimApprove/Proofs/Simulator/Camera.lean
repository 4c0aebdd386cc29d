import SimApprove.Proofs.Consent.Grant
import SimApprove.Proofs.Simulator.Course

/-!
# The camera's step in a fitting database

A world is `Housed` if the database engine looks for the consent database of every home that
the tool may name at one location, and the table there fits a schema. There the camera's step
puts one row or leaves the rows as they were (`Housed.camera_files`).

Two such worlds that differ in rows only are `Alike`. A run takes the same course in
both, so that what it logs does not depend on the rows (`Course.of_alike`).
-/

namespace SimApprove.Simulator

open Consent (Schema Table Row)

/-- Whatever home the call names, the engine looks for its consent database at `here` or
nowhere. -/
def HomesAt (base : FileTree) (here : Location) (respond : List Call → Call → Reply)
    (call : Call) : Prop :=
  ∀ calls finish, respond calls call = .finishes finish → finish.status = .exited 0 →
    Text.trim (Text.Utf8.decodeLossy finish.stdout) ≠ "" →
    ∀ there,
      base.Names (Consent.databasePath (Text.trim (Text.Utf8.decodeLossy finish.stdout))) there →
      there = here

section
variable (base : FileTree) (here : Location) (t : Table) (sim : Simulator) (a : Approval)

/-- Files that differ from the base in the table's rows at most. -/
structure RowsAt (files : FileTree) (rows : List Row) : Prop where
  agree : FileTree.AgreeBut here base files
  database : files.database here = .ok (.withTable { t with rows := rows })

inductive Opens (path : String) : Prop
  | refused (cause : EngineError)
      (h : ∀ {files rows}, RowsAt base here t files rows → files.openDatabase path = .error cause)
  | temporary
      (h : ∀ {files rows}, RowsAt base here t files rows →
        files.openDatabase path = .ok .temporary)
  | found (readOnly : Bool)
      (h : ∀ {files rows}, RowsAt base here t files rows →
        files.openDatabase path = .ok ⟨.withTable { t with rows := rows }, some here, readOnly⟩)

structure Housed (w : World) (rows : List Row) : Prop
    extends RowsAt base here t w.files rows where
  homes : HomesAt base here w.respond (sim.plannedCall a .camera)

/-- The worlds differ in the rows of the table at most. -/
structure Alike (w w' : World) : Prop where
  host : w.toHost = w'.toHost
  attempts : w.attempts = w'.attempts
  left : ∃ rows, Housed base here t sim a w rows
  right : ∃ rows, Housed base here t sim a w' rows

end

variable {base files : FileTree} {here : Location} {schema : Schema} {t : Table}
  {sim : Simulator} {a : Approval} {w w' after : World} {rows : List Row} {path home : String}
  {p : Permission} {plan visited granted : List Permission} {events log : List Log.Event}

-- ---------------------------------------------------------------------------
-- Opening the database
-- ---------------------------------------------------------------------------

theorem RowsAt.openFile_eq (h : RowsAt base here t files rows) {locator : Consent.Locator}
    (hl : (Text.Utf8.decode? locator.path).bind base.locate? = some here) :
    files.openFile locator = .ok ⟨.withTable { t with rows := rows }, some here,
      locator.access = .readOnly || locator.immutable⟩ := by
  have hn := FileTree.node?_of_database h.database
  rw [FileTree.openFile, ← FileTree.locate?_eq_of_root h.agree.root, hl]
  simp [FileTree.isDirectory, FileTree.hasRoom, hn, h.database, Except.map]

theorem opens_of_names (hn : ∀ there, base.Names path there → there = here) :
    Opens base here t path := by
  cases hl : Consent.Locator.ofPath path with
  | error cause => exact .refused cause fun _ => by rw [FileTree.openDatabase, hl]; rfl
  | ok locator =>
    by_cases hm : locator.access = .inMemory
    · exact .temporary fun _ => by simp [FileTree.openDatabase, hl, hm, bind, Except.bind]
    have hfile : ∀ files : FileTree, files.openDatabase path = files.openFile locator :=
      fun files => by simp [FileTree.openDatabase, hl, hm, bind, Except.bind]
    cases hloc : (Text.Utf8.decode? locator.path).bind base.locate? with
    | none =>
      refine .refused .cannotOpen fun h => ?_
      rw [hfile, FileTree.openFile, ← FileTree.locate?_eq_of_root h.agree.root, hloc]
    | some there =>
      obtain rfl := hn there ⟨locator, hl, hloc⟩
      exact .found _ fun h => by rw [hfile, h.openFile_eq hloc]

theorem Opens.openDatabase_eq_error (h : Opens base here t path) {cause : EngineError}
    (hr : RowsAt base here t files rows) (ho : files.openDatabase path = .error cause)
    {files' : FileTree} {rows' : List Row} (hr' : RowsAt base here t files' rows') :
    files'.openDatabase path = .error cause := by
  cases h with
  | refused cause' heq => exact (heq hr').trans ((heq hr).symm.trans ho)
  | temporary heq | found readOnly heq =>
    rw [heq hr] at ho
    cases ho

/-- A database that is opened is the same in each of these trees, but for the rows. -/
theorem Opens.openDatabase_eq_ok (h : Opens base here t path) {opened : OpenDatabase}
    (hr : RowsAt base here t files rows) (ho : files.openDatabase path = .ok opened) :
    (opened = .temporary ∧ ∀ {files' rows'}, RowsAt base here t files' rows' →
      files'.openDatabase path = .ok .temporary) ∨
    ∃ readOnly, opened = ⟨.withTable { t with rows := rows }, some here, readOnly⟩ ∧
      ∀ {files' rows'}, RowsAt base here t files' rows' →
        files'.openDatabase path =
          .ok ⟨.withTable { t with rows := rows' }, some here, readOnly⟩ := by
  cases h with
  | refused cause heq =>
    rw [heq hr] at ho
    cases ho
  | temporary heq => exact .inl ⟨Except.ok.inj (ho.symm.trans (heq hr)), heq⟩
  | found readOnly heq => exact .inr ⟨readOnly, Except.ok.inj (ho.symm.trans (heq hr)), heq⟩

theorem Housed.opens (hw : Housed base here t sim a w rows) (hh : sim.NamesHome a w home)
    (hn : home ≠ "") : Opens base here t (Consent.databasePath home) := by
  obtain ⟨finish, hf, hs, rfl⟩ := hh
  exact opens_of_names (hw.homes _ finish (World.respond_of_attempt hf) hs hn)

theorem RowsAt.opened_eq (h : RowsAt base here t files rows) (readOnly : Bool) :
    files.opened ⟨.withTable { t with rows := rows }, some here, readOnly⟩ = files :=
  FileTree.opened_of_found h.database rfl

theorem eq_of_names_of_isPlain {there : Location} (hp : Consent.Locator.IsPlain path)
    (hr : base.resolve path = .ok here) (hn : base.Names path there) : there = here := by
  have hthere := FileTree.resolve_of_isPlain hp hn (FileTree.has_eq_true_iff.mpr ⟨_, hr⟩)
  exact Except.ok.inj (hthere.symm.trans hr)

/-- Homes whose consent database is the one at `here`, by paths that the engine takes as they
are. -/
theorem homesAt_of_isPlain {respond : List Call → Call → Reply} {call : Call}
    (h : ∀ calls finish, respond calls call = .finishes finish → finish.status = .exited 0 →
      Text.trim (Text.Utf8.decodeLossy finish.stdout) ≠ "" →
      Consent.Locator.IsPlain
          (Consent.databasePath (Text.trim (Text.Utf8.decodeLossy finish.stdout))) ∧
        base.resolve (Consent.databasePath (Text.trim (Text.Utf8.decodeLossy finish.stdout))) =
          .ok here) :
    HomesAt base here respond call := by
  intro calls finish hr hs hn there hnames
  obtain ⟨hp, hres⟩ := h calls finish hr hs hn
  exact eq_of_names_of_isPlain hp hres hnames

-- ---------------------------------------------------------------------------
-- One world
-- ---------------------------------------------------------------------------

theorem Housed.record (hw : Housed base here t sim a w rows) (call : Call) :
    Housed base here t sim a (w.record call) rows :=
  ⟨hw.toRowsAt, hw.homes⟩

theorem RowsAt.setDatabase (h : RowsAt base here t files rows) (new : List Row) :
    RowsAt base here t (files.setDatabase here (.withTable { t with rows := new })) new := by
  have hn := FileTree.node?_of_database h.database
  exact ⟨h.agree.trans (FileTree.agreeBut_setDatabase hn _), FileTree.database_setDatabase hn⟩

theorem Housed.setDatabase (hw : Housed base here t sim a w rows) (new : List Row) :
    Housed base here t sim a
      { w with files := w.files.setDatabase here (.withTable { t with rows := new }) } new :=
  ⟨hw.toRowsAt.setDatabase new, hw.homes⟩

theorem grant_open_eq (hf : schema.Fits t) (rows : List Row) (file : Option Location)
    (readOnly : Bool) (evaluate : Consent.Evaluation) (app : String) :
    OpenDatabase.grant ⟨.withTable { t with rows := rows }, file, readOnly⟩ evaluate
        Consent.cameraService app =
      if readOnly then .error .readOnly
      else match schema.refusing? t evaluate app with
        | some c => .error (.notNull t.name c.name)
        | none => .ok (.withTable { t with rows := schema.put t rows evaluate app }) := by
  unfold OpenDatabase.grant
  rw [hf.grant_eq]
  cases schema.refusing? t evaluate app <;> cases readOnly <;> rfl

theorem grant_open_eq_ok_iff (hf : schema.Fits t) {file : Option Location} {readOnly : Bool}
    {evaluate : Consent.Evaluation} {app : String} {content : Consent.Database} :
    OpenDatabase.grant ⟨.withTable { t with rows := rows }, file, readOnly⟩ evaluate
        Consent.cameraService app = .ok content ↔
      (readOnly = false ∧ schema.refusing? t evaluate app = none) ∧
        content = .withTable { t with rows := schema.put t rows evaluate app } := by
  rw [grant_open_eq hf]
  cases readOnly <;> cases schema.refusing? t evaluate app <;> simp [eq_comm]

theorem grant_open_error (hf : schema.Fits t) {file : Option Location} {readOnly : Bool}
    {evaluate : Consent.Evaluation} {app : String} {cause : EngineError}
    (hg : OpenDatabase.grant ⟨.withTable { t with rows := rows }, file, readOnly⟩ evaluate
      Consent.cameraService app = .error cause) (other : List Row) :
    OpenDatabase.grant ⟨.withTable { t with rows := other }, file, readOnly⟩ evaluate
      Consent.cameraService app = .error cause := by
  rw [grant_open_eq hf] at hg ⊢
  cases readOnly <;> cases hr : schema.refusing? t evaluate app <;> simp_all

/-- What a successful camera step leaves: one row is put, and nothing refuses it. -/
theorem Housed.camera_files (hw : Housed base here t sim a w rows) (hf : schema.Fits t)
    (hv : Visit sim a w .camera events (.ok ()) files) :
    schema.refusing? t w.evaluate a.bundleId = none ∧
      files = w.files.setDatabase here
        (.withTable { t with rows := schema.put t rows w.evaluate a.bundleId }) := by
  cases hv with
  | called hp => exact absurd rfl hp
  | answered hh hn hout =>
    cases hout with
    | written hhas ho hg =>
    obtain ⟨rfl, -⟩ | ⟨readOnly, rfl, -⟩ := (hw.opens hh hn).openDatabase_eq_ok hw.toRowsAt ho
    · cases hg
    · obtain ⟨⟨-, hnone⟩, rfl⟩ := (grant_open_eq_ok_iff hf).mp hg
      exact ⟨hnone, rfl⟩

/-- A step that fails leaves the files: where a new file could be made, there is one. -/
theorem Housed.files_of_fault (hw : Housed base here t sim a w rows) {e : ClientError}
    (hv : Visit sim a w p events (.error e) files) : files = w.files := by
  cases hv with
  | answered hh hn hout =>
    cases hout with
    | unwritten hhas ho hg =>
      obtain ⟨rfl, -⟩ | ⟨readOnly, rfl, -⟩ := (hw.opens hh hn).openDatabase_eq_ok hw.toRowsAt ho
      · rfl
      · exact hw.opened_eq readOnly
    | _ => rfl
  | _ => rfl

theorem Housed.of_files_eq (hw : Housed base here t sim a w rows) (hf : w'.files = w.files)
    (hh : w'.toHost = w.toHost) : Housed base here t sim a w' rows := by
  refine ⟨hf ▸ hw.toRowsAt, ?_⟩
  rw [congrArg Host.respond hh]
  exact hw.homes

theorem Housed.course_files (hw : Housed base here t sim a w rows)
    {result : Except ClientError Unit}
    (hc : Course sim a w plan visited granted log result after) (hcam : .camera ∉ granted) :
    after.files = w.files := by
  cases hc with
  | completed hg => exact hg.files_eq hcam
  | stopped hg hv =>
    have hmid := hw.of_files_eq (hg.files_eq hcam) hg.toHost_eq
    exact (hmid.files_of_fault hv).trans (hg.files_eq hcam)

-- ---------------------------------------------------------------------------
-- Two worlds
-- ---------------------------------------------------------------------------

theorem Alike.agree (h : Alike base here t sim a w w') :
    FileTree.AgreeBut here w.files w'.files := by
  obtain ⟨_, hl⟩ := h.left
  obtain ⟨_, hr⟩ := h.right
  exact hl.agree.symm.trans hr.agree

theorem Alike.attempt_eq (h : Alike base here t sim a w w') (call : Call) :
    w.attempt call = w'.attempt call := by
  simp only [World.attempt, World.startable, World.calls, h.agree.program_eq, h.host, h.attempts]

theorem Alike.namesHome (h : Alike base here t sim a w w') (hh : sim.NamesHome a w home) :
    sim.NamesHome a w' home := by
  obtain ⟨finish, hf, hs, ht⟩ := hh
  exact ⟨finish, h.attempt_eq _ ▸ hf, hs, ht⟩

theorem Alike.record (h : Alike base here t sim a w w') (call : Call) :
    Alike base here t sim a (w.record call) (w'.record call) := by
  obtain ⟨rows, hl⟩ := h.left
  obtain ⟨rows', hr⟩ := h.right
  refine ⟨h.host, ?_, ⟨rows, hl.record call⟩, ⟨rows', hr.record call⟩⟩
  rw [World.attempts_record, World.attempts_record, h.attempts, h.attempt_eq]

theorem Alike.setDatabase (h : Alike base here t sim a w w') (new new' : List Row) :
    Alike base here t sim a
      { w with files := w.files.setDatabase here (.withTable { t with rows := new }) }
      { w' with files := w'.files.setDatabase here (.withTable { t with rows := new' }) } := by
  obtain ⟨rows, hl⟩ := h.left
  obtain ⟨rows', hr⟩ := h.right
  exact ⟨h.host, h.attempts, ⟨new, hl.setDatabase new⟩, ⟨new', hr.setDatabase new'⟩⟩

/-- What the camera's step comes to in the database, it comes to for other rows too. -/
theorem Alike.outcome (hf : schema.Fits t) (h : Alike base here t sim a w w')
    (hopens : Opens base here t path) {app : String} {result : Except ClientError Unit}
    (hout : ConsentStore.Outcome path Consent.cameraService app w.evaluate w.files events result
      files) :
    ∃ files', ConsentStore.Outcome path Consent.cameraService app w'.evaluate w'.files events
        result files' ∧
      Alike base here t sim a { w with files := files } { w' with files := files' } := by
  obtain ⟨rows, hl⟩ := h.left
  obtain ⟨rows', hr⟩ := h.right
  have hhas := h.agree.has_eq path
  rw [← congrArg Host.evaluate h.host]
  cases hout with
  | missing hnot => exact ⟨_, .missing (hhas.symm.trans hnot), h⟩
  | unopened hhad ho =>
    have ho' := hopens.openDatabase_eq_error hl.toRowsAt ho hr.toRowsAt
    exact ⟨_, .unopened (hhas.symm.trans hhad) ho', h⟩
  | unwritten hhad ho hg =>
    obtain ⟨rfl, heq⟩ | ⟨readOnly, rfl, heq⟩ := hopens.openDatabase_eq_ok hl.toRowsAt ho
    · exact ⟨_, .unwritten (hhas.symm.trans hhad) (heq hr.toRowsAt) hg, h⟩
    · refine ⟨_, .unwritten (hhas.symm.trans hhad) (heq hr.toRowsAt)
        (grant_open_error hf hg rows'), ?_⟩
      rw [hl.opened_eq, hr.opened_eq]
      exact h
  | written hhad ho hg =>
    obtain ⟨rfl, -⟩ | ⟨readOnly, rfl, heq⟩ := hopens.openDatabase_eq_ok hl.toRowsAt ho
    · cases hg
    · obtain ⟨hnone, rfl⟩ := (grant_open_eq_ok_iff hf).mp hg
      exact ⟨_, .written (hhas.symm.trans hhad) (heq hr.toRowsAt)
        ((grant_open_eq_ok_iff hf).mpr ⟨hnone, rfl⟩), h.setDatabase _ _⟩

theorem carries_alike (hf : schema.Fits t) : Carries sim a (Alike base here t sim a) Eq := by
  intro w w' p events result files h hv
  cases hv with
  | refused hc => exact ⟨_, _, .refused (h.attempt_eq _ ▸ hc), .error rfl, h.record _⟩
  | hung hc => exact ⟨_, _, .hung (h.attempt_eq _ ▸ hc), .error rfl, h.record _⟩
  | failed hc hs hb => exact ⟨_, _, .failed (h.attempt_eq _ ▸ hc) hs hb, .error rfl, h.record _⟩
  | deviceMissing hc hs hb =>
    exact ⟨_, _, .deviceMissing (h.attempt_eq _ ▸ hc) hs hb, .error rfl, h.record _⟩
  | called hp hc hs => exact ⟨_, _, .called hp (h.attempt_eq _ ▸ hc) hs, .ok, h.record _⟩
  | homeless hh => exact ⟨_, _, .homeless (h.namesHome hh), .error rfl, h.record _⟩
  | answered hh hn hout =>
    obtain ⟨_, hl⟩ := h.left
    obtain ⟨files', hout', hnext⟩ :=
      (h.record (sim.plannedCall a .camera)).outcome hf (hl.opens hh hn) hout
    exact ⟨_, _, .answered (h.namesHome hh) hn hout', .refl (fun _ => rfl) _, hnext⟩

theorem Course.of_alike (hf : schema.Fits t) (h : Alike base here t sim a w w')
    {result : Except ClientError Unit}
    (hc : Course sim a w plan visited granted log result after) :
    ∃ after', Course sim a w' plan visited granted log result after' := by
  obtain ⟨result', after', hc', hsame, -⟩ := hc.carried (carries_alike hf) h
  obtain rfl : result = result' := by
    cases hsame with
    | ok => rfl
    | error h => rw [h]
  exact ⟨after', hc'⟩

end SimApprove.Simulator
