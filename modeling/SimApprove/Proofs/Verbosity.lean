import SimApprove.Proofs.Program
import SimApprove.Proofs.Settings.Validation
import SimApprove.Proofs.Simulator.Apart

/-!
# How much a run tells

Two runs that differ in how much they log, and in nothing else, do the same and end the
same, and the less talkative one shows those events of the other that pass its own level
(`run_of_verbosity`). They may be made in one world, or in two that are apart by a page, as
by the document in which the level is configured.
-/

namespace SimApprove

open Simulator (Apart SameFault SameResult)

variable {aside : Location} {x y : Option Node} {i i' : CommandLine.Invocation}
  {s s' : Settings} {l l' : Log.Level}

-- ---------------------------------------------------------------------------
-- Dispatches
-- ---------------------------------------------------------------------------

/-- The same ending, but perhaps for what keeps a program from being started. -/
inductive SameEnd : Except ProgramError Unit → Except ProgramError Unit → Prop
  | same (result) : SameEnd result result
  | client {e e'} (h : SameFault e e') :
      SameEnd (.error (.command (.client e))) (.error (.command (.client e')))

theorem SameEnd.of_sameResult {result result' : Except ClientError Unit}
    (h : SameResult SameFault result result') :
    SameEnd (result.mapError fun e => .command (.client e))
      (result'.mapError fun e => .command (.client e)) := by
  cases h with
  | ok => exact .same _
  | error h => exact .client h

theorem dispatch_of_apart {w w' : World} (log : List Log.Event)
    (h : Apart aside x y (s.client.simulator (s.target i.udid)) i.command.request w w') :
    SameEnd ((i.dispatch s).run ⟨w, log⟩).1 ((i.dispatch s).run ⟨w', log⟩).1 ∧
      ((i.dispatch s).run ⟨w, log⟩).2.log = ((i.dispatch s).run ⟨w', log⟩).2.log ∧
      Apart aside x y (s.client.simulator (s.target i.udid)) i.command.request
        ((i.dispatch s).run ⟨w, log⟩).2.state ((i.dispatch s).run ⟨w', log⟩).2.state := by
  obtain ⟨outcome, hr, hd⟩ := CommandLine.Invocation.exists_dispatched i s ⟨w, log⟩
  rw [hr]
  cases hd with
  | unknown hb =>
    rw [CommandLine.Invocation.run_dispatch_of_unknown hb]
    exact ⟨.same _, rfl, h⟩
  | refused hc hl =>
    rw [CommandLine.Invocation.run_dispatch_of_lacksScheme hc hl]
    exact ⟨.same _, rfl, h⟩
  | rehearsed hb hl =>
    rw [CommandLine.Invocation.run_dispatch_dryRun hb hl]
    exact ⟨.same _, rfl, h⟩
  | simulated hb hl hc =>
    obtain ⟨result', after', hc', hsame, hafter⟩ := hc.carried Simulator.carries_apart h
    have hr' : (i.dispatch s).run ⟨w', log⟩ = _ :=
      CommandLine.Invocation.run_dispatch_of_course hb hl hc'
    rw [hr']
    exact ⟨.of_sameResult hsame, rfl, hafter⟩

-- ---------------------------------------------------------------------------
-- Reports
-- ---------------------------------------------------------------------------

namespace Program

variable {env env' : Environment} {log log' : List Log.Event}
  {result result' : Except ProgramError Unit}

theorem log_ofResult (env : Environment) (log : List Log.Event)
    (result : Except ProgramError Unit) :
    (Report.ofEnding env log (.ofResult result)).log = log := by
  cases result with
  | ok _ => rfl
  | error e =>
    simp only [Ending.ofResult, Report.ofEnding, Report.ofError]
    split <;> rfl

theorem exitCode_of_sameEnd (h : SameEnd result result') :
    (Report.ofEnding env log (.ofResult result)).exitCode =
      (Report.ofEnding env' log' (.ofResult result')).exitCode := by
  cases h with
  | same result =>
    cases result with
    | ok _ => rfl
    | error e => simp only [Ending.ofResult, Report.exitCode_ofEnding_failed]
  | client h =>
    simp only [Ending.ofResult, Report.exitCode_ofEnding_failed]
    exact h.exitCode_eq

theorem output_of_sameEnd (hc : colors env = colors env') (h : SameEnd result result') :
    (Report.ofEnding env log (.ofResult result)).output =
      (Report.ofEnding env' log' (.ofResult result')).output := by
  cases h with
  | same result =>
    cases result with
    | ok _ => rfl
    | error e =>
      simp only [Ending.ofResult, Report.ofEnding, Report.ofError, hc]
      split <;> rfl
  | client h => rfl

-- ---------------------------------------------------------------------------
-- Levels
-- ---------------------------------------------------------------------------

/-- The level from which on events are shown: the wish to see much comes before what is
configured. -/
inductive Effective (i : CommandLine.Invocation) (s : Settings) : Log.Level → Prop
  | verbose (h : i.verbose = true) : Effective i s .debug
  | configured {l : Log.Level} (h : i.verbose = false) (hl : l.NamedBy s.logLevel) : Effective i s l

theorem threshold_eq_iff (hs : s.HasLevel) : threshold i s = l ↔ Effective i s l := by
  obtain ⟨named, hnamed⟩ := hs
  have hlevel : s.level = named := by
    rw [Settings.level, Log.Level.ofText?_eq_some_iff.mpr hnamed]
    rfl
  unfold threshold
  split
  · rename_i hv
    constructor
    · rintro rfl
      exact .verbose hv
    · rintro (_ | ⟨hn, _⟩)
      · rfl
      · rw [hv] at hn
        cases hn
  · rename_i hv
    rw [hlevel]
    constructor
    · rintro rfl
      exact .configured (Bool.eq_false_iff.mpr hv) hnamed
    · rintro (h | ⟨-, hl⟩)
      · exact absurd h hv
      · have hof := Log.Level.ofText?_eq_some_iff.mpr hnamed
        rw [Log.Level.ofText?_eq_some_iff.mpr hl] at hof
        exact (Option.some.inj hof).symm

-- ---------------------------------------------------------------------------
-- Runs
-- ---------------------------------------------------------------------------

theorem run_of_ready {input : Input}
    (h : CommandLine.Invocation.ofArguments input.arguments = .ok i)
    (hl : Settings.load input.world.files input.environment = .ok s) :
    run input =
      (.ofEnding input.environment
        (Log.atLevel (threshold i s) ((i.dispatch s).run ⟨input.world, [configLoaded s]⟩).2.log)
        (.ofResult ((i.dispatch s).run ⟨input.world, [configLoaded s]⟩).1),
      ((i.dispatch s).run ⟨input.world, [configLoaded s]⟩).2.state) := by
  rw [run, conclude_of_ready h hl]

/-- The worlds are one, or apart by a page that the command with these settings cannot
take for a consent database. -/
def Twins (i : CommandLine.Invocation) (s : Settings) (w w' : World) : Prop :=
  w = w' ∨ ∃ aside x y,
    Apart aside x y (s.client.simulator (s.target i.udid)) i.command.request w w'

structure SameDone (w w' : World) (done done' : Except ProgramError Unit × Session World) :
    Prop where
  ending : SameEnd done.1 done'.1
  log : done.2.log = done'.2.log
  calls : done.2.state.calls = done'.2.state.calls
  nodes : ∀ here, w.files.node? here = w'.files.node? here →
    done.2.state.files.node? here = done'.2.state.files.node? here

theorem sameDone_dispatch {w w' : World} (log : List Log.Event) (hw : Twins i s w w') :
    SameDone w w' ((i.dispatch s).run ⟨w, log⟩) ((i.dispatch s).run ⟨w', log⟩) := by
  obtain rfl | ⟨aside, x, y, h⟩ := hw
  · exact ⟨.same _, rfl, rfl, fun _ _ => rfl⟩
  · obtain ⟨hend, hlog, hafter⟩ := dispatch_of_apart log h
    refine ⟨hend, hlog, hafter.calls, fun here heq => ?_⟩
    by_cases hn : here = aside
    · -- the page stays as it is
      rw [hn] at heq ⊢
      rw [hafter.files.left, hafter.files.right, ← h.files.left, ← h.files.right, heq]
    · exact hafter.files.elsewhere here hn

/-- Two runs that differ in how much they log, and in nothing else. -/
theorem run_of_verbosity {input input' : Input}
    (h : CommandLine.Invocation.ofArguments input.arguments = .ok i)
    (h' : CommandLine.Invocation.ofArguments input'.arguments = .ok i')
    (hl : Settings.load input.world.files input.environment = .ok s)
    (hl' : Settings.load input'.world.files input'.environment = .ok s')
    (hi : { i with verbose := i'.verbose } = i') (hs : { s with logLevel := s'.logLevel } = s')
    (hw : Twins i s input.world input'.world) :
    (run input).1.exitCode = (run input').1.exitCode ∧
    (input.environment.bytes? "CLICOLOR_FORCE" = input'.environment.bytes? "CLICOLOR_FORCE" →
      (run input).1.output = (run input').1.output) ∧
    (run input).2.calls = (run input').2.calls ∧
    (∀ here, input.world.files.node? here = input'.world.files.node? here →
      (run input).2.files.node? here = (run input').2.files.node? here) ∧
    (∃ l l', Effective i s l ∧ Effective i' s' l') ∧
    ∀ l l', Effective i s l → Effective i' s' l' → l.number ≤ l'.number →
      (run input).1.log = (run input').1.log.filter fun e => e.level.number ≤ l.number := by
  have hnamed := (Settings.validate_eq_ok_iff.mp (Settings.validate_of_load hl)).level
  have hnamed' := (Settings.validate_eq_ok_iff.mp (Settings.validate_of_load hl')).level
  -- neither the dispatch nor the first event depends on what may differ
  have hdispatch : i'.dispatch s' = i.dispatch s := by rw [← hi, ← hs]; rfl
  have hloaded : configLoaded s' = configLoaded s := by rw [← hs]; rfl
  have hdone := sameDone_dispatch [configLoaded s] hw
  rw [run_of_ready h hl, run_of_ready h' hl', hdispatch, hloaded]
  refine ⟨exitCode_of_sameEnd hdone.ending, fun henv => ?_, hdone.calls, hdone.nodes,
    ⟨_, _, (threshold_eq_iff hnamed).mp rfl, (threshold_eq_iff hnamed').mp rfl⟩,
    fun l l' hlevel hlevel' hle => ?_⟩
  · refine output_of_sameEnd ?_ hdone.ending
    simp only [colors, Environment.text?, henv]
  · rw [log_ofResult, log_ofResult, (threshold_eq_iff hnamed).mpr hlevel,
      (threshold_eq_iff hnamed').mpr hlevel', hdone.log]
    exact (Log.atLevel_atLevel hle _).symm

/-- Two documents with two levels, and a wish to see much that overrules the second. -/
theorem run_of_verbosity_of_documents :
    let world (document : String) : World :=
      { files := ⟨"/s", [(["home", ".idbctl", "config.toml"], .document document.toUTF8.toList),
          (["bin", "xcrun"], .program [0x23, 0x21])]⟩
        respond := fun _ _ => .finishes ⟨.exited 0, [], []⟩ }
    let env : Environment := ⟨[("HOME", "/s/home".toUTF8.toList)], none⟩
    let quiet : Input :=
      ⟨["approve", "com.example.app", "photos"], env, world "log_level = \"Info\"\n"⟩
    let talkative : Input :=
      ⟨["-v", "approve", "com.example.app", "photos"], env, world "log_level = \"1\"\n"⟩
    (run quiet).1.exitCode = (run talkative).1.exitCode ∧
      (run quiet).2.calls = (run talkative).2.calls ∧
      (run quiet).1.log = (run talkative).1.log.filter fun e => e.level.number ≤ 3 := by
  intro world env quiet talkative
  let i : CommandLine.Invocation := ⟨none, false, ⟨"com.example.app", [.photos], none⟩⟩
  let s : Settings := { configPath := "/s/home/.idbctl/config.toml", logLevel := "Info" }
  have h : CommandLine.Invocation.ofArguments quiet.arguments = .ok i := by decide +kernel
  have h' : CommandLine.Invocation.ofArguments talkative.arguments =
      .ok { i with verbose := true } := by decide +kernel
  have hl : Settings.load quiet.world.files quiet.environment = .ok s := by decide +kernel
  have hl' : Settings.load talkative.world.files talkative.environment =
      .ok { s with logLevel := "1" } := by decide +kernel
  have hhomes : ∀ files, Simulator.HomesAvoid ["home", ".idbctl", "config.toml"] files
      quiet.world.respond
      ((s.client.simulator (s.target i.udid)).plannedCall i.command.request .camera) := by
    -- the tool says nothing, so it names no home
    rintro files calls finish hr - ht
    cases hr
    exact absurd (by decide) ht
  have hw : Twins i s quiet.world talkative.world :=
    .inr ⟨_, _, _, FileTree.sameBut_documents _ _ _ _ _, rfl, rfl, hhomes _, hhomes _⟩
  obtain ⟨hcode, -, hcalls, -, -, hlog⟩ := run_of_verbosity h h' hl hl' rfl rfl hw
  have hinfo : Effective i s .info :=
    .configured rfl (Log.Level.ofText?_eq_some_iff.mp (by decide +kernel))
  exact ⟨hcode, hcalls, hlog _ _ hinfo (.verbose rfl) (by decide)⟩

end Program

end SimApprove
