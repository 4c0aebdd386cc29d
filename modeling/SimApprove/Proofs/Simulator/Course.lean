import SimApprove.Proofs.Consent.Schema
import SimApprove.Proofs.Simulator.Visit

/-!
# A run over the planned steps

The simulator client visits the permissions of an approval in their fixed order
and stops at the first step that fails. `Course` is such a run, told without the
client: a prefix of the plan is granted, and either that is the whole plan or the
next step ends with a fault. Each step meets the world that the steps before it
left, so replies may depend on the calls made so far.

`run_grantEach` says that the client takes such a course, and
`approve_stops_at_first_fault` what follows for calls, log, tables and result.
-/

namespace SimApprove.Simulator

section
variable (sim : Simulator) (a : Approval)

inductive GrantsAll : World → List Permission → List Log.Event → World → Prop
  | nil {w} : GrantsAll w [] [] w
  | cons {w p files ps events log after} (hv : Visit sim a w p events (.ok ()) files)
      (hr : GrantsAll (worldAfter sim a w p files) ps log after) :
      GrantsAll w (p :: ps) (events ++ sim.granted a p :: log) after

/-- A run over a plan up to the first fault. The permissions `visited` had their
step begun, and for those in `granted` it succeeded. -/
inductive Course (w : World) : (plan visited granted : List Permission) → List Log.Event →
    Except ClientError Unit → World → Prop
  | completed {plan log after} (hg : GrantsAll sim a w plan log after) :
      Course w plan plan plan log (.ok ()) after
  | stopped {granted rest p log events mid e files} (hg : GrantsAll sim a w granted log mid)
      (hv : Visit sim a mid p events (.error e) files) :
      Course w (granted ++ p :: rest) (granted ++ [p]) granted (log ++ events) (.error e)
        (worldAfter sim a mid p files)

end

variable {sim : Simulator} {a : Approval} {w after : World} {s : Session World}
  {p : Permission} {ps plan visited granted : List Permission} {events log : List Log.Event}
  {result : Except ClientError Unit} {files : FileTree}

def Plans (a : Approval) (ps : List Permission) : Prop := ∀ p ∈ ps, ∃ step, a.step p = .ok step

theorem plans_toList (ha : a.Complete) : Plans a a.permissions.toList :=
  fun _ hp => exists_step ha (PermissionSet.mem_toList.mp hp)

-- ---------------------------------------------------------------------------
-- The client takes a course
-- ---------------------------------------------------------------------------

theorem run_grantEach_cons (hp : ∃ step, a.step p = .ok step)
    (hv : Visit sim a s.state p events (.ok ()) files) :
    (sim.grantEach a (p :: ps)).run s =
      (sim.grantEach a ps).run
        ⟨worldAfter sim a s.state p files, s.log ++ (events ++ [sim.granted a p])⟩ := by
  obtain ⟨step, hs⟩ := hp
  rw [grantEach, Action.run_bind_of_ok (run_grant hs hv),
    Action.run_bind_of_ok (Action.run_emit _ _), List.append_assoc]

theorem run_grantEach_fault (hp : ∃ step, a.step p = .ok step) {e : ClientError}
    (hv : Visit sim a s.state p events (.error e) files) :
    (sim.grantEach a (p :: ps)).run s =
      (.error e, ⟨worldAfter sim a s.state p files, s.log ++ events⟩) := by
  obtain ⟨step, hs⟩ := hp
  rw [grantEach, Action.run_bind_of_error (run_grant hs hv)]

theorem GrantsAll.run_append (h : GrantsAll sim a w ps log after) (hp : Plans a ps)
    (rest : List Permission) (before : List Log.Event) :
    (sim.grantEach a (ps ++ rest)).run ⟨w, before⟩ =
      (sim.grantEach a rest).run ⟨after, before ++ log⟩ := by
  induction h generalizing before with
  | nil => simp
  | cons hv hr ih =>
    rw [List.cons_append, run_grantEach_cons (hp _ List.mem_cons_self) hv,
      ih fun q hq => hp q (List.mem_cons_of_mem _ hq)]
    simp

theorem GrantsAll.run (h : GrantsAll sim a w ps log after) (hp : Plans a ps)
    (before : List Log.Event) :
    (sim.grantEach a ps).run ⟨w, before⟩ = (.ok (), ⟨after, before ++ log⟩) := by
  have := h.run_append hp [] before
  rwa [List.append_nil] at this

theorem exists_course (sim : Simulator) (a : Approval) (w : World) (plan : List Permission) :
    ∃ visited granted log result after, Course sim a w plan visited granted log result after := by
  induction plan generalizing w with
  | nil => exact ⟨_, _, _, _, _, .completed .nil⟩
  | cons p ps ih =>
    obtain ⟨events, result, files, hv⟩ := exists_visit sim a w p
    cases result with
    | error e => exact ⟨_, _, _, _, _, .stopped .nil hv⟩
    | ok _ =>
      obtain ⟨_, _, _, _, _, hc⟩ := ih (worldAfter sim a w p files)
      cases hc with
      | completed hg => exact ⟨_, _, _, _, _, .completed (.cons hv hg)⟩
      | stopped hg hf => exact ⟨_, _, _, _, _, .stopped (.cons hv hg) hf⟩

theorem Course.run (h : Course sim a w plan visited granted log result after) (hp : Plans a plan)
    (before : List Log.Event) :
    (sim.grantEach a plan).run ⟨w, before⟩ = (result, ⟨after, before ++ log⟩) := by
  cases h with
  | completed hg => exact hg.run hp before
  | stopped hg hv =>
    rw [hg.run_append (fun q hq => hp q (List.mem_append_left _ hq)),
      run_grantEach_fault (hp _ (by simp)) hv, List.append_assoc]

theorem run_grantEach (sim : Simulator) (hp : Plans a plan) (s : Session World) :
    ∃ visited granted log result after,
      Course sim a s.state plan visited granted log result after ∧
      (sim.grantEach a plan).run s = (result, ⟨after, s.log ++ log⟩) := by
  obtain ⟨visited, granted, log, result, after, hc⟩ := exists_course sim a s.state plan
  exact ⟨visited, granted, log, result, after, hc, hc.run hp s.log⟩

-- ---------------------------------------------------------------------------
-- What a course leaves behind
-- ---------------------------------------------------------------------------

theorem GrantsAll.attempts (h : GrantsAll sim a w ps log after) :
    ∃ made, after.attempts = w.attempts ++ made ∧
      made.map Prod.fst = ps.map (sim.plannedCall a) := by
  induction h with
  | nil => exact ⟨[], by simp⟩
  | @cons w p files ps events log after hv hr ih =>
    obtain ⟨made, hm, hc⟩ := ih
    refine ⟨(sim.plannedCall a p, w.attempt (sim.plannedCall a p)) :: made, ?_, ?_⟩
    · rw [hm]
      simp only [worldAfter, World.attempts_record, List.append_assoc, List.singleton_append]
    · rw [List.map_cons, List.map_cons, hc]

theorem Course.attempts (h : Course sim a w plan visited granted log result after) :
    ∃ made, after.attempts = w.attempts ++ made ∧
      made.map Prod.fst = visited.map (sim.plannedCall a) := by
  cases h with
  | completed hg => exact hg.attempts
  | @stopped granted rest p log events mid e files hg hv =>
    obtain ⟨made, hm, hc⟩ := hg.attempts
    refine ⟨made ++ [(sim.plannedCall a p, mid.attempt (sim.plannedCall a p))], ?_, ?_⟩
    · simp only [worldAfter, World.attempts_record, hm, List.append_assoc]
    · rw [List.map_append, List.map_append, hc]
      rfl

def told (origin : Log.Origin) (log : List Log.Event) : List Log.Event :=
  log.filter (·.origin = origin)

theorem told_append (origin : Log.Origin) (first second : List Log.Event) :
    told origin (first ++ second) = told origin first ++ told origin second :=
  List.filter_append first second

theorem Visit.told_toolRunner (h : Visit sim a w p events result files) :
    told .toolRunner events = [Tool.spawning (sim.plannedCall a p)] := by
  obtain rfl | ⟨home, rfl⟩ := h.events_eq <;> rfl

theorem Visit.told_simulatorClient (h : Visit sim a w p events result files) :
    told .simulatorClient events = [] := by
  obtain rfl | ⟨home, rfl⟩ := h.events_eq <;> rfl

theorem GrantsAll.told_toolRunner (h : GrantsAll sim a w ps log after) :
    told .toolRunner log = ps.map fun p => Tool.spawning (sim.plannedCall a p) := by
  induction h with
  | nil => rfl
  | @cons w p files ps events log after hv hr ih =>
    have hg : told .toolRunner (sim.granted a p :: log) = told .toolRunner log := rfl
    rw [told_append, hv.told_toolRunner, hg, ih]
    rfl

theorem GrantsAll.filter_eq (h : GrantsAll sim a w ps log after) {picks : Log.Event → Bool}
    (hg : ∀ p, picks (sim.granted a p) = true)
    (hv : ∀ {w p events result files}, Visit sim a w p events result files →
      events.filter picks = []) :
    log.filter picks = ps.map (sim.granted a) := by
  induction h with
  | nil => rfl
  | cons hvisit hr ih =>
    rw [List.filter_append, hv hvisit, List.filter_cons_of_pos (hg _), ih]
    rfl

theorem GrantsAll.told_simulatorClient (h : GrantsAll sim a w ps log after) :
    told .simulatorClient log = ps.map (sim.granted a) :=
  h.filter_eq (fun _ => rfl) Visit.told_simulatorClient

theorem Course.told_toolRunner (h : Course sim a w plan visited granted log result after) :
    told .toolRunner log = visited.map fun p => Tool.spawning (sim.plannedCall a p) := by
  cases h with
  | completed hg => exact hg.told_toolRunner
  | stopped hg hv => rw [told_append, hg.told_toolRunner, hv.told_toolRunner, List.map_append]; rfl

theorem Course.told_simulatorClient (h : Course sim a w plan visited granted log result after) :
    told .simulatorClient log = granted.map (sim.granted a) := by
  cases h with
  | completed hg => exact hg.told_simulatorClient
  | stopped hg hv =>
    rw [told_append, hg.told_simulatorClient, hv.told_simulatorClient, List.append_nil]

theorem Visit.files_eq (h : Visit sim a w p events result files) (hp : p ≠ .camera) :
    files = w.files := by
  cases h with
  | answered => exact absurd rfl hp
  | _ => rfl

/-- The camera's step left these files, in a world that differs from this one in the
record of attempts at most. -/
def CameraWrote (sim : Simulator) (a : Approval) (w : World) (files : FileTree) : Prop :=
  ∃ mid events, mid.files = w.files ∧ mid.toHost = w.toHost ∧
    Visit sim a mid .camera events (.ok ()) files

theorem GrantsAll.files_eq (h : GrantsAll sim a w ps log after) (hp : .camera ∉ ps) :
    after.files = w.files := by
  induction h with
  | nil => rfl
  | cons hv hr ih =>
    rw [List.mem_cons, not_or] at hp
    rw [ih hp.2]
    exact hv.files_eq (Ne.symm hp.1)

theorem GrantsAll.toHost_eq (h : GrantsAll sim a w ps log after) : after.toHost = w.toHost := by
  induction h with
  | nil => rfl
  | cons hv hr ih => exact ih

/-- The camera's step among steps that succeed: the files are its own, and its call
is on record with the answer that it got. -/
theorem GrantsAll.exists_camera (h : GrantsAll sim a w ps log after) (hn : ps.Nodup)
    (hp : .camera ∈ ps) : ∃ mid events made, mid.files = w.files ∧ mid.toHost = w.toHost ∧
      Visit sim a mid .camera events (.ok ()) after.files ∧
      after.attempts = w.attempts ++ made ∧
      (sim.plannedCall a .camera, mid.attempt (sim.plannedCall a .camera)) ∈ made := by
  induction h with
  | nil => cases hp
  | @cons w p files ps events log after hv hr ih =>
    obtain ⟨hnot, hn⟩ := List.nodup_cons.mp hn
    rcases List.mem_cons.mp hp with rfl | hmem
    · have hf : after.files = files := hr.files_eq hnot
      obtain ⟨made, hm, -⟩ := hr.attempts
      refine ⟨w, events, _ :: made, rfl, rfl, hf ▸ hv, ?_, List.mem_cons_self⟩
      simp [hm, worldAfter]
    · have hne : p ≠ .camera := by
        rintro rfl
        exact hnot hmem
      have hf : files = w.files := hv.files_eq hne
      obtain ⟨mid, cameraEvents, made, hmf, hmh, hv', hm, hin⟩ := ih hn hmem
      refine ⟨mid, cameraEvents, (sim.plannedCall a p, w.attempt (sim.plannedCall a p)) :: made,
        hmf.trans hf, hmh, hv', ?_, List.mem_cons_of_mem _ hin⟩
      simp [hm, worldAfter]

theorem Course.exists_camera (h : Course sim a w plan visited granted log result after)
    (hn : plan.Nodup) (hp : .camera ∈ granted) : ∃ mid events made, mid.files = w.files ∧
      mid.toHost = w.toHost ∧ Visit sim a mid .camera events (.ok ()) after.files ∧
      after.attempts = w.attempts ++ made ∧
      (sim.plannedCall a .camera, mid.attempt (sim.plannedCall a .camera)) ∈ made := by
  cases h with
  | completed hg => exact hg.exists_camera hn hp
  | @stopped granted rest p log events last e files hg hv =>
    have hne : p ≠ .camera := by
      rintro rfl
      exact (List.nodup_append.mp hn).2.2 _ hp _ List.mem_cons_self rfl
    obtain rfl := hv.files_eq hne
    obtain ⟨mid, cameraEvents, made, hmf, hmh, hv', hm, hin⟩ :=
      hg.exists_camera (hn.sublist (List.sublist_append_left _ _)) hp
    refine ⟨mid, cameraEvents,
      made ++ [(sim.plannedCall a p, last.attempt (sim.plannedCall a p))], hmf, hmh, hv', ?_,
      List.mem_append_left _ hin⟩
    simp [hm, worldAfter]

theorem Course.cameraWrote (h : Course sim a w plan visited granted log result after)
    (hn : plan.Nodup) (hp : .camera ∈ granted) : CameraWrote sim a w after.files := by
  obtain ⟨mid, events, -, hmf, hmh, hv, -, -⟩ := h.exists_camera hn hp
  exact ⟨mid, events, hmf, hmh, hv⟩

theorem Course.files_kept (h : Course sim a w plan visited granted log result after)
    (hp : .camera ∉ granted) :
    ∃ home, w.files.Kept (Consent.databasePath home) after.files := by
  cases h with
  | completed hg => exact ⟨"", hg.files_eq hp ▸ .same⟩
  | stopped hg hv => exact hg.files_eq hp ▸ hv.kept

theorem Course.exists_fault {e : ClientError}
    (h : Course sim a w plan visited granted log (.error e) after) :
    ∃ p rest mid before events, plan = granted ++ p :: rest ∧ visited = granted ++ [p] ∧
      GrantsAll sim a w granted before mid ∧ Visit sim a mid p events (.error e) after.files := by
  cases h with
  | stopped hg hv => exact ⟨_, _, _, _, _, rfl, rfl, hg, hv⟩

theorem Course.visited_prefix (h : Course sim a w plan visited granted log result after) :
    granted <+: visited ∧ visited <+: plan := by
  cases h with
  | completed => exact ⟨List.prefix_rfl, List.prefix_rfl⟩
  | @stopped granted rest p => exact ⟨⟨[p], rfl⟩, ⟨rest, by simp⟩⟩

theorem Course.result_eq_ok_iff (h : Course sim a w plan visited granted log result after)
    (hp : Plans a plan) : result = .ok () ↔ ∃ log last, GrantsAll sim a w plan log last := by
  constructor
  · rintro rfl
    cases h with
    | completed hg => exact ⟨_, _, hg⟩
  · rintro ⟨all, last, hall⟩
    -- the client has one result, and a run in which all steps succeed is a success
    have hr := h.run hp []
    rw [hall.run hp []] at hr
    exact (congrArg Prod.fst hr).symm

-- ---------------------------------------------------------------------------
-- Courses in two worlds
-- ---------------------------------------------------------------------------

inductive SameResult (SameFault : ClientError → ClientError → Prop) :
    Except ClientError Unit → Except ClientError Unit → Prop
  | ok : SameResult SameFault (.ok ()) (.ok ())
  | error {e e'} (h : SameFault e e') : SameResult SameFault (.error e) (.error e')

theorem SameResult.refl {SameFault : ClientError → ClientError → Prop}
    (h : ∀ e, SameFault e e) : ∀ result, SameResult SameFault result result
  | .ok () => .ok
  | .error e => .error (h e)

/-- A step taken in one of two related worlds is taken in the other with the same events
and, but for its fault, the same result, and leaves them related. -/
def Carries (sim : Simulator) (a : Approval) (Related : World → World → Prop)
    (SameFault : ClientError → ClientError → Prop) : Prop :=
  ∀ {w w' p events result files}, Related w w' → Visit sim a w p events result files →
    ∃ result' files', Visit sim a w' p events result' files' ∧
      SameResult SameFault result result' ∧
      Related (worldAfter sim a w p files) (worldAfter sim a w' p files')

section
variable {Related : World → World → Prop} {SameFault : ClientError → ClientError → Prop}
  {w' : World}

theorem GrantsAll.carried (hc : Carries sim a Related SameFault) (h : Related w w')
    (hg : GrantsAll sim a w ps log after) :
    ∃ after', GrantsAll sim a w' ps log after' ∧ Related after after' := by
  induction hg generalizing w' with
  | nil => exact ⟨w', .nil, h⟩
  | cons hv hr ih =>
    obtain ⟨_, files', hv', hsame, hnext⟩ := hc h hv
    cases hsame
    obtain ⟨after', hr', hlast⟩ := ih hnext
    exact ⟨after', .cons hv' hr', hlast⟩

/-- The same course, to its end or to a fault of the same step. -/
theorem Course.carried (hc : Carries sim a Related SameFault) (h : Related w w')
    (hcourse : Course sim a w plan visited granted log result after) :
    ∃ result' after', Course sim a w' plan visited granted log result' after' ∧
      SameResult SameFault result result' ∧ Related after after' := by
  cases hcourse with
  | completed hg =>
    obtain ⟨after', hg', hlast⟩ := hg.carried hc h
    exact ⟨_, after', .completed hg', .ok, hlast⟩
  | stopped hg hv =>
    obtain ⟨mid', hg', hmid⟩ := hg.carried hc h
    obtain ⟨_, files', hv', hsame, hlast⟩ := hc hmid hv
    cases hsame with
    | error hfault => exact ⟨_, _, .stopped hg' hv', .error hfault, hlast⟩

end

-- ---------------------------------------------------------------------------
-- All that a run comes to
-- ---------------------------------------------------------------------------

/-- The run of a complete approval: one attempt, made with the planned call, for each
permission up to the first fault and none after it, and the log, the tables and the
result tell of the same prefix. -/
theorem approve_stops_at_first_fault (sim : Simulator) (a : Approval) (s : Session World)
    (ha : a.Complete) :
    a.permissions.toList.Pairwise (·.rank < ·.rank) ∧
    (∀ p, p ∈ a.permissions.toList ↔ a.permissions.contains p = true) ∧
    ∃ visited granted log result after,
      Course sim a s.state a.permissions.toList visited granted log result after ∧
      (sim.client.approve a).run s = (result, ⟨after, s.log ++ log⟩) ∧
      granted <+: visited ∧ visited <+: a.permissions.toList ∧
      (result = .ok () ↔ ∃ log last, GrantsAll sim a s.state a.permissions.toList log last) ∧
      (∃ made, after.attempts = s.state.attempts ++ made ∧
        made.map Prod.fst = visited.map (sim.plannedCall a)) ∧
      told .toolRunner log = visited.map (fun p => Tool.spawning (sim.plannedCall a p)) ∧
      told .simulatorClient log = granted.map (sim.granted a) ∧
      (.camera ∉ granted →
        ∃ home, s.state.files.Kept (Consent.databasePath home) after.files) ∧
      (.camera ∈ granted → CameraWrote sim a s.state after.files) := by
  refine ⟨a.permissions.sorted_toList, fun p => PermissionSet.mem_toList, ?_⟩
  obtain ⟨visited, granted, log, result, after, hc, hr⟩ :=
    run_grantEach sim (plans_toList ha) s
  obtain ⟨hpre, hvis⟩ := hc.visited_prefix
  exact ⟨visited, granted, log, result, after, hc, hr, hpre, hvis,
    hc.result_eq_ok_iff (plans_toList ha), hc.attempts, hc.told_toolRunner,
    hc.told_simulatorClient, hc.files_kept, hc.cameraWrote a.permissions.nodup_toList⟩

/-- The camera is granted, the device is gone at the step after it, and the last step is not
begun. -/
theorem approve_stops_after_camera :
    let sim : Simulator := ⟨"booted", "xcrun", ⟨60, 0⟩⟩
    let a : Approval := ⟨"com.example.app", .ofList [.url, .contacts, .camera], some "myapp"⟩
    let t := Consent.Schema.legacy.plainTable []
    let here := ["home", "Library", "TCC", "TCC.db"]
    let files : FileTree := ⟨"/s",
      [(["bin", "xcrun"], .program [0x23, 0x21]), (here, .database (.withTable t))]⟩
    let s : Session World := ⟨{ files, respond := fun calls _ => match calls with
      | [] => .finishes ⟨.exited 0, "/s/home\n".toUTF8.toList, []⟩
      | _ => .finishes ⟨.exited 148, [], "Invalid device: booted".toUTF8.toList⟩ }, []⟩
    a.Complete ∧ ∃ log after,
      Course sim a s.state [.camera, .contacts, .url] [.camera, .contacts] [.camera] log
        (.error (.deviceNotFound "booted" "Invalid device: booted")) after ∧
      after.attempts.map Prod.fst = [sim.plannedCall a .camera, sim.plannedCall a .contacts] ∧
      CameraWrote sim a s.state after.files ∧
      after.files.database here = .ok (.withTable { t with rows :=
        [[.text "kTCCServiceCamera", .text "com.example.app", .integer 0, .integer 1,
          .integer 1]] }) := by
  intro sim a t here files s
  have ha : a.Complete := fun _ => ⟨"myapp", rfl, by decide⟩
  obtain ⟨-, -, visited, granted, log, result, after, hc, hr, hpre, hvis, -, ⟨made, hm, hcalls⟩,
    -, htold, -, hwrote⟩ := approve_stops_at_first_fault sim a s ha
  have hresult : ((sim.client.approve a).run s).1 =
      .error (.deviceNotFound "booted" "Invalid device: booted") := by decide +kernel
  have hmade : ((sim.client.approve a).run s).2.state.attempts.map Prod.fst =
      [sim.plannedCall a .camera, sim.plannedCall a .contacts] := by decide +kernel
  have hlog : told .simulatorClient ((sim.client.approve a).run s).2.log =
      [sim.granted a .camera] := by decide +kernel
  have hdb : ((sim.client.approve a).run s).2.state.files.database here =
      .ok (.withTable { t with rows := [[.text "kTCCServiceCamera", .text "com.example.app",
        .integer 0, .integer 1, .integer 1]] }) := by decide +kernel
  rw [hr] at hresult hmade hlog hdb
  obtain rfl : result = _ := hresult
  -- a start of the plan is given by its length
  obtain rfl : visited = [.camera, .contacts] := by
    have hlen := congrArg List.length (hcalls.symm.trans (congrArg _ hm.symm |>.trans hmade))
    rw [List.prefix_iff_eq_take.mp hvis]
    simp only [List.length_map] at hlen
    rw [hlen]
    decide +kernel
  obtain rfl : granted = [.camera] := by
    have hlen := congrArg List.length (htold.symm.trans hlog)
    rw [List.prefix_iff_eq_take.mp hpre]
    simp only [List.length_map] at hlen
    rw [hlen]
    rfl
  exact ⟨ha, log, after, hc, hmade, hwrote List.mem_cons_self, hdb⟩

end SimApprove.Simulator
