import Mathlib.Data.Finset.Lattice.Lemmas
import SimApprove.Proofs.Execution
import SimApprove.Proofs.Simulator.Camera

/-!
# Histories of runs

A history is any list of runs of the command against simulators, each a process of
its own with its own host. `replay` threads the files through it and collects what is logged.
If the engine looks for the consent databases of all homes that the tool names at one
location, then only the apps whose camera grant was logged decide what the table there holds
in the end: `grants_converge`. A home by whose path the engine finds another database gets no
row for a grant that is logged: `logged_grant_misses_locator`.
-/

namespace SimApprove

open Consent (Schema Table Row)
open Simulator (HomesAt RowsAt Housed Alike Course)

/-- A run of the command, on a host of its own. -/
structure Round where
  sim : Simulator
  command : ApproveCommand
  host : Host

def Round.start (r : Round) (files : FileTree) : World := { toHost := r.host, files }

def Round.after (r : Round) (files : FileTree) : Session World :=
  ((r.command.run r.sim.client).run ⟨r.start files, []⟩).2

/-- The files after some runs, and all that these logged. -/
def replay (files : FileTree) : List Round → FileTree × List Log.Event
  | [] => (files, [])
  | r :: rest =>
    ((replay (r.after files).state.files rest).1,
      (r.after files).log ++ (replay (r.after files).state.files rest).2)

/-- The homes that the tool names in a run have their consent database at `here`, if
anywhere. -/
def Round.NamesHomesOf (r : Round) (base : FileTree) (here : Location) : Prop :=
  HomesAt base here r.host.respond (r.sim.plannedCall r.command.request .camera)

-- ---------------------------------------------------------------------------
-- Logged camera grants
-- ---------------------------------------------------------------------------

def cameraApp? (e : Log.Event) : Option String :=
  if e.origin = .simulatorClient ∧ e.message = "permission granted" ∧
      e.value? "permission" = some Permission.camera.name then
    e.value? "bundle_id"
  else none

def cameraApps (log : List Log.Event) : Finset String := (log.filterMap cameraApp?).toFinset

theorem cameraApps_append (first second : List Log.Event) :
    cameraApps (first ++ second) = cameraApps first ∪ cameraApps second := by
  rw [cameraApps, List.filterMap_append, List.toFinset_append, cameraApps, cameraApps]

theorem cameraApp?_granted (sim : Simulator) (a : Approval) (p : Permission) :
    cameraApp? (sim.granted a p) = if p = .camera then some a.bundleId else none := by
  cases p <;> rfl

theorem filterMap_cameraApp?_told (log : List Log.Event) :
    (Simulator.told .simulatorClient log).filterMap cameraApp? = log.filterMap cameraApp? := by
  induction log with
  | nil => rfl
  | cons e log ih =>
    by_cases ho : e.origin = .simulatorClient
    · have : Simulator.told .simulatorClient (e :: log) =
          e :: Simulator.told .simulatorClient log := by
        simp [Simulator.told, ho]
      rw [this, List.filterMap_cons, List.filterMap_cons, ih]
    · have ht : Simulator.told .simulatorClient (e :: log) =
          Simulator.told .simulatorClient log := by
        simp [Simulator.told, ho]
      have hn : cameraApp? e = none := by simp [cameraApp?, ho]
      rw [ht, List.filterMap_cons_none hn, ih]

theorem cameraApps_of_told {log : List Log.Event} {sim : Simulator} {a : Approval}
    {granted : List Permission}
    (h : Simulator.told .simulatorClient log = granted.map (sim.granted a)) :
    cameraApps log = if .camera ∈ granted then {a.bundleId} else ∅ := by
  ext app
  rw [cameraApps, ← filterMap_cameraApp?_told, h, List.mem_toFinset, List.filterMap_map,
    List.mem_filterMap]
  simp only [Function.comp_apply, cameraApp?_granted]
  split
  · rename_i hc
    simp [hc, eq_comm]
  · rename_i hc
    simp [hc]

-- ---------------------------------------------------------------------------
-- One run
-- ---------------------------------------------------------------------------

variable {base files files' : FileTree} {here : Location} {schema : Schema} {t : Table}
  {rows rows' : List Row} {r : Round} {rounds : List Round}

theorem Round.after_of_lacksScheme (h : r.command.lacksScheme = true) (files : FileTree) :
    r.after files = ⟨r.start files, [ApproveCommand.running r.sim.client.name]⟩ := by
  rw [Round.after, ApproveCommand.run_of_lacksScheme h]
  rfl

theorem Round.after_of_course (h : r.command.lacksScheme = false) {visited granted log result after}
    (hc : Course r.sim r.command.request (r.start files) r.command.request.permissions.toList
      visited granted log result after) :
    r.after files = ⟨after, r.command.announcements r.sim.client.name ++ log⟩ := by
  have hp := Simulator.plans_toList (ApproveCommand.complete_request h)
  rw [Round.after, ApproveCommand.run_of_approve h (hc.run hp _)]
  rfl

theorem cameraApps_announcements (c : ApproveCommand) (clientName : String) :
    cameraApps (c.announcements clientName) = ∅ := rfl

theorem Round.housed (hr : r.NamesHomesOf base here) (h : RowsAt base here t files rows) :
    Housed base here t r.sim r.command.request (r.start files) rows :=
  ⟨h, hr⟩

/-- The rows have no say in what a run logs. -/
theorem Round.log_after_eq (hf : schema.Fits t) (hr : r.NamesHomesOf base here)
    (h : RowsAt base here t files rows) (h' : RowsAt base here t files' rows') :
    (r.after files).log = (r.after files').log := by
  cases hl : r.command.lacksScheme with
  | true => rw [after_of_lacksScheme hl, after_of_lacksScheme hl]
  | false =>
    obtain ⟨visited, granted, log, result, after, hc⟩ := Simulator.exists_course r.sim
      r.command.request (r.start files) r.command.request.permissions.toList
    have ha : Alike base here t r.sim r.command.request (r.start files) (r.start files') :=
      ⟨rfl, rfl, ⟨rows, housed hr h⟩, ⟨rows', housed hr h'⟩⟩
    obtain ⟨after', hc'⟩ := hc.of_alike hf ha
    rw [after_of_course hl hc, after_of_course hl hc']

/-- A run that logs a camera grant has put the app's row, and any other has left the
table alone. -/
theorem Round.after_rows (hf : schema.Fits t) (hr : r.NamesHomesOf base here)
    (h : RowsAt base here t files rows) :
    (cameraApps (r.after files).log = ∅ ∧
      RowsAt base here t (r.after files).state.files rows) ∨
    (cameraApps (r.after files).log = {r.command.bundleId} ∧
      RowsAt base here t (r.after files).state.files
        (schema.put t rows r.host.evaluate r.command.bundleId)) := by
  cases hl : r.command.lacksScheme with
  | true =>
    rw [after_of_lacksScheme hl]
    exact .inl ⟨rfl, h⟩
  | false =>
    obtain ⟨visited, granted, log, result, after, hc⟩ := Simulator.exists_course r.sim
      r.command.request (r.start files) r.command.request.permissions.toList
    have hlog : cameraApps (r.command.announcements r.sim.client.name ++ log) =
        if .camera ∈ granted then {r.command.bundleId} else ∅ := by
      rw [cameraApps_append, cameraApps_announcements, Finset.empty_union,
        cameraApps_of_told hc.told_simulatorClient]
      rfl
    rw [after_of_course hl hc, hlog]
    by_cases hcam : .camera ∈ granted
    · obtain ⟨mid, events, hfiles, hhost, hv⟩ :=
        hc.cameraWrote r.command.request.permissions.nodup_toList hcam
      have hmid := (housed hr h).of_files_eq hfiles hhost
      obtain ⟨-, hwrote⟩ := hmid.camera_files hf hv
      refine .inr ⟨if_pos hcam, ?_⟩
      rw [hwrote, congrArg Host.evaluate hhost]
      exact hmid.toRowsAt.setDatabase _
    · refine .inl ⟨if_neg hcam, ?_⟩
      rw [(housed hr h).course_files hc hcam]
      exact h

theorem Round.exists_after_rows (hf : schema.Fits t) (hr : r.NamesHomesOf base here)
    (h : RowsAt base here t files rows) :
    ∃ new, RowsAt base here t (r.after files).state.files new := by
  rcases after_rows hf hr h with ⟨-, hnew⟩ | ⟨-, hnew⟩
  · exact ⟨_, hnew⟩
  · exact ⟨_, hnew⟩

/-- The rows are those of the table with no key of these apps, and for each app a fresh one. -/
structure SettledBy (schema : Schema) (t : Table) (rows : List Row) (fresh : String → Row)
    (apps : Finset String) : Prop where
  rows_eq : (rows : Multiset Row) = schema.settled t fresh apps
  keyOf_eq : ∀ app ∈ apps, t.keyOf (fresh app) = schema.key t app

variable {fresh : String → Row} {apps : Finset String} {app : String}

theorem SettledBy.put (hf : schema.Fits t) (h : SettledBy schema t rows fresh apps)
    (evaluate : Consent.Evaluation) (app : String) :
    SettledBy schema t (schema.put t rows evaluate app)
      (Function.update fresh app (schema.row t evaluate Consent.cameraService app))
      (insert app apps) where
  rows_eq := hf.put_settled h.keyOf_eq h.rows_eq evaluate app
  keyOf_eq b hb := by
    by_cases he : b = app
    · rw [he, Function.update_self, hf.keyOf_row]
    · rw [Function.update_of_ne he]
      exact h.keyOf_eq b (Finset.mem_of_mem_insert_of_ne hb he)

/-- After a run the apps of its log have their rows from it, and the other apps from before. -/
theorem Round.after_settled (hf : schema.Fits t) (hr : r.NamesHomesOf base here)
    (h : RowsAt base here t files rows) (hs : SettledBy schema t rows fresh apps) :
    ∃ new fresh', RowsAt base here t (r.after files).state.files new ∧
      SettledBy schema t new fresh' (apps ∪ cameraApps (r.after files).log) ∧
      (∀ app ∈ cameraApps (r.after files).log,
        fresh' app = schema.row t r.host.evaluate Consent.cameraService app) ∧
      ∀ app ∉ cameraApps (r.after files).log, fresh' app = fresh app := by
  rcases after_rows hf hr h with ⟨hlog, hnew⟩ | ⟨hlog, hnew⟩
  · rw [hlog, Finset.union_empty]
    exact ⟨rows, fresh, hnew, hs, by simp, fun _ _ => rfl⟩
  · rw [hlog, Finset.union_comm, ← Finset.insert_eq]
    refine ⟨_, _, hnew, hs.put hf _ _, fun app ha => ?_, fun app ha => ?_⟩
    · rw [Finset.mem_singleton.mp ha, Function.update_self]
    · exact Function.update_of_ne (Finset.notMem_singleton.mp ha) _ _

-- ---------------------------------------------------------------------------
-- Many runs
-- ---------------------------------------------------------------------------

theorem replay_settled (hf : schema.Fits t) (hr : ∀ r ∈ rounds, r.NamesHomesOf base here)
    (h : RowsAt base here t files rows) (hbase : RowsAt base here t files' rows')
    (hs : SettledBy schema t rows fresh apps) :
    ∃ new fresh', RowsAt base here t (replay files rounds).1 new ∧
      SettledBy schema t new fresh' (apps ∪ cameraApps (replay files rounds).2) ∧
      (∀ app ∈ cameraApps (replay files rounds).2, ∃ r ∈ rounds,
        app ∈ cameraApps (r.after files').log ∧
        fresh' app = schema.row t r.host.evaluate Consent.cameraService app) ∧
      ∀ app ∉ cameraApps (replay files rounds).2, fresh' app = fresh app := by
  induction rounds generalizing files rows fresh apps with
  | nil =>
    refine ⟨rows, fresh, h, ?_, ?_, fun _ _ => rfl⟩
    · simpa [replay, cameraApps] using hs
    · simp [replay, cameraApps]
  | cons r rest ih =>
    have hhead := hr r List.mem_cons_self
    obtain ⟨mid, fresh₁, hmid, hs₁, hown, hother⟩ := Round.after_settled hf hhead h hs
    obtain ⟨new, fresh₂, hnew, hs₂, hrest, hkept⟩ :=
      ih (fun q hq => hr q (List.mem_cons_of_mem _ hq)) hmid hs₁
    refine ⟨new, fresh₂, hnew, ?_, fun app ha => ?_, fun app ha => ?_⟩
    · rwa [replay, cameraApps_append, ← Finset.union_assoc]
    · rw [replay, cameraApps_append, Finset.mem_union] at ha
      by_cases hlater : app ∈ cameraApps (replay (r.after files).state.files rest).2
      · obtain ⟨q, hq, hlog, hrow⟩ := hrest app hlater
        exact ⟨q, List.mem_cons_of_mem _ hq, hlog, hrow⟩
      · have hnow := ha.resolve_right hlater
        refine ⟨r, List.mem_cons_self, ?_, (hkept app hlater).trans (hown app hnow)⟩
        rwa [← Round.log_after_eq hf hhead h hbase]
    · rw [replay, cameraApps_append, Finset.mem_union, not_or] at ha
      exact (hkept app ha.2).trans (hother app ha.1)

theorem mem_cameraApps_replay (hf : schema.Fits t) (hr : ∀ r ∈ rounds, r.NamesHomesOf base here)
    (h : RowsAt base here t files rows) (h' : RowsAt base here t files' rows') :
    app ∈ cameraApps (replay files rounds).2 ↔
      ∃ r ∈ rounds, app ∈ cameraApps (r.after files').log := by
  induction rounds generalizing files rows with
  | nil => simp [replay, cameraApps]
  | cons r rest ih =>
    have hrest := fun q hq => hr q (List.mem_cons_of_mem r hq)
    have hhead := hr r List.mem_cons_self
    obtain ⟨mid, hmid⟩ := Round.exists_after_rows hf hhead h
    rw [replay, cameraApps_append, Finset.mem_union, ih hrest hmid,
      Round.log_after_eq hf hhead h h', List.exists_mem_cons_iff]

/-- Columns that are not written are filled alike in these two runs. -/
def Round.FillsAs (t : Table) (r r' : Round) : Prop :=
  ∀ c ∈ t.columns, c.fallback r.host.evaluate = c.fallback r'.host.evaluate

/-- Camera grants converge. After any history the table holds the rows that it had
for other keys and one fresh row for each app whose camera grant was logged, from a run
that logged it. Runs that are repeated or take place in another order log grants for the
same apps, and with the same apps the rows are the same, where defaults come to the same. -/
theorem grants_converge (hf : schema.Fits t) (hd : files.database here = .ok (.withTable t))
    (hr : ∀ r ∈ rounds, r.NamesHomesOf files here) :
    ∃ (rows : List Row) (fresh : String → Row),
      (replay files rounds).1.database here = .ok (.withTable { t with rows := rows }) ∧
      (rows : Multiset Row) =
        ↑(t.rows.filter fun row =>
          ∀ app ∈ cameraApps (replay files rounds).2, t.keyOf row ≠ schema.key t app) +
        (cameraApps (replay files rounds).2).val.map fresh ∧
      (∀ app ∈ cameraApps (replay files rounds).2, ∃ r ∈ rounds,
        app ∈ cameraApps (r.after files).log ∧
        fresh app = schema.row t r.host.evaluate Consent.cameraService app) ∧
      ∀ others : List Round, (∀ r ∈ others, r.NamesHomesOf files here) →
        ((∀ r, r ∈ others ↔ r ∈ rounds) →
          cameraApps (replay files others).2 = cameraApps (replay files rounds).2) ∧
        (cameraApps (replay files others).2 = cameraApps (replay files rounds).2 →
          (∀ r ∈ rounds, ∀ r' ∈ others, r.FillsAs t r') →
          ∃ rows', rows'.Perm rows ∧
            (replay files others).1.database here = .ok (.withTable { t with rows := rows' })) := by
  have h : RowsAt files here t files t.rows :=
    ⟨.refl ⟨_, FileTree.node?_of_database hd⟩, hd⟩
  have hs : SettledBy schema t t.rows (fun _ => []) ∅ :=
    ⟨(Schema.settled_empty schema t _).symm, by simp⟩
  obtain ⟨rows, fresh, hrows, hsettled, horigin, -⟩ := replay_settled hf hr h h hs
  rw [Finset.empty_union] at hsettled
  refine ⟨rows, fresh, hrows.database, hsettled.rows_eq, horigin,
    fun others hothers => ⟨fun hsame => ?_, fun happs hfills => ?_⟩⟩
  · ext app
    simp only [mem_cameraApps_replay hf hothers h h, mem_cameraApps_replay hf hr h h, hsame]
  · obtain ⟨rows', fresh', hrows', hsettled', horigin', -⟩ := replay_settled hf hothers h h hs
    have hfresh : ∀ app ∈ cameraApps (replay files rounds).2, fresh' app = fresh app := by
      intro app ha
      obtain ⟨r, hmem, -, hrow⟩ := horigin app ha
      obtain ⟨r', hmem', -, hrow'⟩ := horigin' app (happs ▸ ha)
      rw [hrow, hrow']
      exact List.map_congr_left fun c hc => by
        simp only [Schema.fresh, hfills r hmem r' hmem' c hc]
    refine ⟨rows', Multiset.coe_eq_coe.mp ?_, hrows'.database⟩
    rw [hsettled'.rows_eq, Finset.empty_union, happs, Schema.settled_congr hfresh,
      hsettled.rows_eq]

/-- A camera that was denied is granted by the first of two runs, and the second
changes nothing. -/
theorem grants_converge_repeated :
    let t := Schema.modern.plainTable
      [[.text "kTCCServiceCamera", .text "com.example.app", .integer 0, .integer 0, .integer 4,
        .integer 1]]
    let here := ["home", "Library", "TCC", "TCC.db"]
    let files : FileTree := ⟨"/s",
      [(["bin", "xcrun"], .program [0x23, 0x21]), (here, .database (.withTable t))]⟩
    let r : Round := ⟨⟨"booted", "xcrun", ⟨60, 0⟩⟩, ⟨"com.example.app", [.camera], none⟩,
      { respond := fun _ _ => .finishes ⟨.exited 0, "/s/home\n".toUTF8.toList, []⟩ }⟩
    Schema.modern.Fits t ∧ files.database here = .ok (.withTable t) ∧
      r.NamesHomesOf files here ∧ r.FillsAs t r ∧
      ∃ rows rows', (replay files [r, r]).1.database here =
          .ok (.withTable { t with rows := rows }) ∧
        (rows : Multiset Row) = {[.text "kTCCServiceCamera", .text "com.example.app", .integer 0,
          .integer 2, .integer 2, .integer 1]} ∧
        rows'.Perm rows ∧
        (replay files [r]).1.database here = .ok (.withTable { t with rows := rows' }) := by
  intro t here files r
  have hf : Schema.modern.Fits t := Schema.fits_plainTable ..
  have hd : files.database here = .ok (.withTable t) := by decide +kernel
  have hr : r.NamesHomesOf files here := by
    refine Simulator.homesAt_of_isPlain fun calls finish hfin _ _ => ?_
    cases hfin
    exact ⟨by decide +kernel, by decide +kernel⟩
  have htwice : ∀ q ∈ [r, r], q.NamesHomesOf files here := by simpa using hr
  have honce : ∀ q ∈ [r], q.NamesHomesOf files here := by simpa using hr
  have happs : cameraApps (replay files [r, r]).2 = {"com.example.app"} := by decide +kernel
  obtain ⟨rows, fresh, hrows, hsettled, horigin, hothers⟩ := grants_converge hf hd htwice
  obtain ⟨hsame, hperm⟩ := hothers [r] honce
  obtain ⟨rows', hrows'⟩ := hperm (hsame (by simp)) (by simp [Round.FillsAs])
  refine ⟨hf, hd, hr, fun _ _ => rfl, rows, rows', hrows, ?_, hrows'⟩
  obtain ⟨q, hq, -, hfresh⟩ := horigin "com.example.app" (by rw [happs]; decide)
  obtain rfl : q = r := by simpa using hq
  rw [hsettled, happs]
  simp only [Finset.singleton_val, Multiset.map_singleton, hfresh]
  decide +kernel

/-- Homes whose name starts with `file:`. The run logs the grant, but the table at the home's
path keeps its rows: the grant is in the database that the path names as a locator. -/
theorem logged_grant_misses_locator :
    let t := Schema.legacy.plainTable []
    let here := ["file:home", "Library", "TCC", "TCC.db"]
    let files : FileTree := ⟨"/s", [(["bin", "xcrun"], .program [0x23, 0x21]),
      (here, .database (.withTable t)),
      (["home", "Library", "TCC", "TCC.db"], .database (.withTable t))]⟩
    let r : Round := ⟨⟨"booted", "xcrun", ⟨60, 0⟩⟩, ⟨"a", [.camera], none⟩,
      { respond := fun _ _ => .finishes ⟨.exited 0, "file:home".toUTF8.toList, []⟩ }⟩
    Schema.legacy.Fits t ∧
      files.resolve (Consent.databasePath "file:home") = .ok here ∧
      files.database here = .ok (.withTable t) ∧
      cameraApps (replay files [r]).2 = {"a"} ∧
      (replay files [r]).1.database here = .ok (.withTable t) := by
  intro t here files r
  exact ⟨Schema.fits_plainTable .., by decide +kernel, by decide +kernel, by decide +kernel,
    by decide +kernel⟩

end SimApprove
