import SimApprove.Proofs.Verbosity

/-!
# What a scheme is for

The scheme of a request belongs to its url permission. Without `url` among the
permissions no step of a run looks at it, and the log shows it in two events:
`dispatch_of_idle_scheme` compares two runs that differ in the scheme and in nothing else.
-/

namespace SimApprove

-- ---------------------------------------------------------------------------
-- Events
-- ---------------------------------------------------------------------------

namespace Log.Event

def showsScheme (e : Event) : Bool :=
  e.message = "dispatching approval" || e.message = "dry-run: would approve permissions"

def withScheme (text : String) (e : Event) : Event :=
  if e.showsScheme then
    { e with fields := e.fields.map fun f =>
        if f.name = "scheme" then { f with value := text } else f }
  else e

theorem map_withScheme_eq_self {log : List Event} (h : ∀ e ∈ log, e.showsScheme = false)
    (text : String) : log.map (withScheme text) = log := by
  have hself : ∀ e ∈ log, withScheme text e = e := fun e he => by rw [withScheme, h e he]; rfl
  rw [List.map_congr_left hself, List.map_id']

theorem level_withScheme (text : String) (e : Event) : (e.withScheme text).level = e.level := by
  unfold withScheme
  split <;> rfl

theorem atLevel_map_withScheme (threshold : Level) (text : String) (log : List Event) :
    atLevel threshold (log.map (withScheme text)) =
      (atLevel threshold log).map (withScheme text) := by
  simp only [atLevel, List.filter_map, Function.comp_def, level_withScheme]

end Log.Event

-- ---------------------------------------------------------------------------
-- The simulator's steps
-- ---------------------------------------------------------------------------

theorem Approval.step_congr {p : Permission} (a b : Approval) (hp : p ≠ .url) :
    a.step p = b.step p := by
  cases p with
  | url => exact absurd rfl hp
  | _ => rfl

namespace Simulator

variable {sim : Simulator} {a b : Approval} {w after : World} {p : Permission}
  {ps plan visited granted : List Permission} {events log : List Log.Event}

theorem grant_congr (ha : a.bundleId = b.bundleId) (hp : p ≠ .url) :
    sim.grant a p = sim.grant b p := by
  rw [grant, grant, Approval.step_congr a b hp, ha]

theorem granted_congr (ha : a.bundleId = b.bundleId) : sim.granted a p = sim.granted b p := by
  rw [granted, granted, ha]

theorem grantEach_congr (ha : a.bundleId = b.bundleId) (hp : .url ∉ ps) :
    sim.grantEach a ps = sim.grantEach b ps := by
  induction ps with
  | nil => rfl
  | cons p ps ih =>
    rw [List.mem_cons, not_or] at hp
    rw [grantEach, grantEach, grant_congr ha (Ne.symm hp.1), granted_congr ha, ih hp.2]

theorem Visit.showsScheme_eq_false {result : Except ClientError Unit} {files : FileTree}
    (h : Visit sim a w p events result files) : ∀ e ∈ events, e.showsScheme = false := by
  obtain rfl | ⟨home, rfl⟩ := h.events_eq <;>
    simp [Tool.spawning, ConsentStore.writing, Log.Event.showsScheme]

theorem GrantsAll.showsScheme_eq_false (h : GrantsAll sim a w ps log after) :
    ∀ e ∈ log, e.showsScheme = false := by
  induction h with
  | nil => exact fun _ he => nomatch he
  | cons hv hr ih =>
    intro e he
    rcases List.mem_append.mp he with he | he
    · exact hv.showsScheme_eq_false e he
    rcases List.mem_cons.mp he with rfl | he
    · rfl
    · exact ih e he

theorem Course.showsScheme_eq_false {result : Except ClientError Unit}
    (h : Course sim a w plan visited granted log result after) :
    ∀ e ∈ log, e.showsScheme = false := by
  cases h with
  | completed hg => exact hg.showsScheme_eq_false
  | stopped hg hv =>
    intro e he
    rcases List.mem_append.mp he with he | he
    · exact hg.showsScheme_eq_false e he
    · exact hv.showsScheme_eq_false e he

end Simulator

-- ---------------------------------------------------------------------------
-- Runs
-- ---------------------------------------------------------------------------

/-- The second run ends and leaves the world as the first does, and logs the same but
for the text that stands for the scheme. -/
structure SameButScheme (text : String) (before : List Log.Event)
    (done done' : Except ProgramError Unit × Session World) : Prop where
  ending : done'.1 = done.1
  world : done'.2.state = done.2.state
  log : ∃ log, done.2.log = before ++ log ∧
    done'.2.log = before ++ log.map (Log.Event.withScheme text)

namespace CommandLine.Invocation

variable {i : Invocation}

def withScheme (i : Invocation) (scheme : Option String) : Invocation :=
  { i with command := { i.command with scheme := scheme } }

theorem lacksScheme_eq_false {c : ApproveCommand} (h : .url ∉ c.permissions) :
    c.lacksScheme = false :=
  Bool.eq_false_iff.mpr fun hl => h (ApproveCommand.lacksScheme_iff.mp hl).1

theorem map_announcements (c : ApproveCommand) (clientName : String) (scheme : Option String) :
    (c.announcements clientName).map (Log.Event.withScheme (scheme.getD "-")) =
      ({ c with scheme := scheme } : ApproveCommand).announcements clientName := rfl

theorem dispatch_withScheme (h : .url ∉ i.command.permissions) (scheme : Option String)
    (s : Settings) (session : Session World) :
    SameButScheme (scheme.getD "-") session.log ((i.dispatch s).run session)
      (((i.withScheme scheme).dispatch s).run session) := by
  have hl' : (i.withScheme scheme).command.lacksScheme = false := lacksScheme_eq_false h
  obtain ⟨outcome, hr, hd⟩ := exists_dispatched i s session
  rw [hr]
  cases hd with
  | unknown hb =>
    rw [run_dispatch_of_unknown hb]
    exact ⟨rfl, rfl, [], (List.append_nil _).symm, (List.append_nil _).symm⟩
  | refused _ hl =>
    rw [lacksScheme_eq_false h] at hl
    cases hl
  | rehearsed hb hl =>
    rw [run_dispatch_dryRun hb hl']
    exact ⟨rfl, rfl, _, List.append_assoc _ _ _, List.append_assoc _ _ _⟩
  | @simulated visited granted log result after hb hl hc =>
    have hu : .url ∉ i.command.request.permissions.toList :=
      mt ApproveCommand.mem_toList_request.mp h
    -- the client's part of the run is one and the same action
    have hrun := hc.run (Simulator.plans_toList (ApproveCommand.complete_request hl))
      (session.log ++ (i.withScheme scheme).command.announcements "simctl")
    rw [Simulator.grantEach_congr (a := i.command.request)
      (b := (i.withScheme scheme).command.request) rfl hu] at hrun
    have hr' : ((i.withScheme scheme).dispatch s).run session = _ :=
      run_dispatch_of_approve (toClient_of_ofName? hb _) hl' hrun
    rw [hr']
    refine ⟨rfl, rfl, _, List.append_assoc _ _ _, ?_⟩
    rw [List.map_append, Log.Event.map_withScheme_eq_self hc.showsScheme_eq_false,
      map_announcements]
    exact List.append_assoc _ _ _

end CommandLine.Invocation

namespace Program

theorem ofEnding_ofResult (env : Environment) (log log' : List Log.Event)
    (result : Except ProgramError Unit) : Report.ofEnding env log' (.ofResult result) =
      { Report.ofEnding env log (.ofResult result) with log := log' } := by
  cases result with
  | ok _ => rfl
  | error e =>
    simp only [Ending.ofResult, Report.ofEnding, Report.ofError]
    split <;> rfl

def SameReportButScheme (text : String) (done done' : Report × World) : Prop :=
  done' = ({ done.1 with log := done.1.log.map (Log.Event.withScheme text) }, done.2)

theorem run_withScheme {args args' : List String} {env : Environment} {w : World}
    {i : CommandLine.Invocation} {scheme : Option String} (hu : .url ∉ i.command.permissions)
    (h : CommandLine.Invocation.ofArguments args = .ok i)
    (h' : CommandLine.Invocation.ofArguments args' = .ok (i.withScheme scheme)) :
    SameReportButScheme (scheme.getD "-") (run ⟨args, env, w⟩) (run ⟨args', env, w⟩) := by
  cases hl : Settings.load w.files env with
  | error e =>
    have hc : conclude ⟨args, env, w⟩ = _ := conclude_of_configError h hl
    have hc' : conclude ⟨args', env, w⟩ = _ := conclude_of_configError h' hl
    rw [SameReportButScheme, run, run, hc, hc']
    rfl
  | ok s =>
    have hr : run ⟨args, env, w⟩ = _ := run_of_ready h hl
    have hr' : run ⟨args', env, w⟩ = _ := run_of_ready h' hl
    obtain ⟨hending, hworld, log, hlog, hlog'⟩ :=
      CommandLine.Invocation.dispatch_withScheme hu scheme s ⟨w, [configLoaded s]⟩
    -- the event before the dispatch shows no scheme
    have hall : (((i.withScheme scheme).dispatch s).run ⟨w, [configLoaded s]⟩).2.log =
        ((i.dispatch s).run ⟨w, [configLoaded s]⟩).2.log.map
          (Log.Event.withScheme (scheme.getD "-")) := by
      rw [hlog, hlog', List.map_append]
      rfl
    rw [SameReportButScheme, hr, hr', hending, hworld, hall, Log.Event.atLevel_map_withScheme,
      log_ofResult]
    exact congrArg (·, _) (ofEnding_ofResult ..)

end Program

/-- What is given as the scheme of a request without `url` changes nothing but what the log
shows for it. -/
theorem run_of_idle_scheme (udid : Option String) (verbose : Bool) (bundleId : String)
    (ps : List Permission) (h : .url ∉ ps) (scheme scheme' : Option String) :
    (∀ (s : Settings) (session : Session World),
      SameButScheme (scheme'.getD "-") session.log
        (((⟨udid, verbose, ⟨bundleId, ps, scheme⟩⟩ : CommandLine.Invocation).dispatch s).run
          session)
        (((⟨udid, verbose, ⟨bundleId, ps, scheme'⟩⟩ : CommandLine.Invocation).dispatch s).run
          session)) ∧
    (∀ (args args' : List String) (env : Environment) (w : World),
      CommandLine.Invocation.ofArguments args = .ok ⟨udid, verbose, ⟨bundleId, ps, scheme⟩⟩ →
      CommandLine.Invocation.ofArguments args' = .ok ⟨udid, verbose, ⟨bundleId, ps, scheme'⟩⟩ →
      Program.SameReportButScheme (scheme'.getD "-") (Program.run ⟨args, env, w⟩)
        (Program.run ⟨args', env, w⟩)) :=
  ⟨CommandLine.Invocation.dispatch_withScheme h scheme',
    fun _ _ _ _ hargs hargs' => Program.run_withScheme h hargs hargs'⟩

/-- Two runs that fail at the second step, one of them with a scheme for nothing. -/
theorem run_of_idle_scheme_contacts_photos :
    let w : World :=
      { files := ⟨"/s", [(["bin", "xcrun"], .program [0x23, 0x21])]⟩
        respond := fun calls _ => .finishes ⟨.exited calls.length, [], []⟩ }
    let plain : CommandLine.Invocation :=
      ⟨none, false, ⟨"com.example.app", [.contacts, .photos], none⟩⟩
    let idle : CommandLine.Invocation :=
      ⟨none, false, ⟨"com.example.app", [.contacts, .photos], some "myapp"⟩⟩
    let s : Settings := { configPath := "config.toml" }
    let done := (plain.dispatch s).run ⟨w, []⟩
    let done' := (idle.dispatch s).run ⟨w, []⟩
    .url ∉ plain.command.permissions ∧ SameButScheme "myapp" [] done done' ∧
      done'.1 = .error (.command (.client (.commandFailed
        "xcrun simctl privacy booted grant contacts com.example.app" "exit status: 1" ""))) := by
  intro w plain idle s done done'
  have h : .url ∉ plain.command.permissions := by decide
  obtain ⟨hdispatch, -⟩ := run_of_idle_scheme none false "com.example.app" [.contacts, .photos] h
    none (some "myapp")
  exact ⟨h, hdispatch s ⟨w, []⟩, by decide +kernel⟩

end SimApprove
