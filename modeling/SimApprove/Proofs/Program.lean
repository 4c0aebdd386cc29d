import SimApprove.Program
import SimApprove.Proofs.Dispatch

/-!
# Phases and exit statuses of a run

A run ends in the first phase that fails: the command line, the settings, the
scheme, the steps of the client. `conclude_of_usageError`, `conclude_of_configError` and
`conclude_of_ready` say what a run is in each phase, and `run_phases` puts exit
statuses, effects and standard output together. `FaultCode` gives the status for
each way in which a step of the simulator can fail, by what the tool did and what
became of the database.
-/

namespace SimApprove

open Simulator (Course Visit GrantsAll NamesHome)

-- ---------------------------------------------------------------------------
-- Statuses of faults
-- ---------------------------------------------------------------------------

inductive FaultCode (sim : Simulator) (a : Approval) (w : World) (p : Permission) : UInt8 → Prop
  | unspawnable {cause} (h : w.attempt (sim.plannedCall a p) = .refused cause) :
      FaultCode sim a w p 69
  | toolFailed {finish} (h : w.attempt (sim.plannedCall a p) = .finished finish)
      (hs : finish.status ≠ .exited 0)
      (hb : ¬ Tool.BlamesDevice finish.stderr) : FaultCode sim a w p 70
  | timedOut (h : w.attempt (sim.plannedCall a p) = .hung) : FaultCode sim a w p 75
  | deviceNotFound {finish} (h : w.attempt (sim.plannedCall a p) = .finished finish)
      (hs : finish.status ≠ .exited 0)
      (hb : Tool.BlamesDevice finish.stderr) : FaultCode sim a w p 68
  | homeNotFound (hp : p = .camera) (h : sim.NamesHome a w "") : FaultCode sim a w p 68
  | databaseNotFound {home} (hp : p = .camera) (h : sim.NamesHome a w home) (hn : home ≠ "")
      (hf : w.files.has (Consent.databasePath home) = false) : FaultCode sim a w p 68
  | databaseFailed {home cause} (hp : p = .camera) (h : sim.NamesHome a w home) (hn : home ≠ "")
      (hf : w.files.has (Consent.databasePath home) = true)
      (hd : ((w.files.openDatabase (Consent.databasePath home)).bind fun d =>
        d.grant w.evaluate Consent.cameraService a.bundleId) = .error cause) :
      FaultCode sim a w p 74

section
variable {sim : Simulator} {a : Approval} {w : World} {p : Permission} {e : ClientError}
  {events : List Log.Event} {files : FileTree} {code : UInt8}

theorem faultCode_of_visit (h : Visit sim a w p events (.error e) files) :
    FaultCode sim a w p e.exitCode := by
  cases h with
  | refused h => exact .unspawnable h
  | hung h => exact .timedOut h
  | failed h hs hb => exact .toolFailed h hs hb
  | deviceMissing h hs hb => exact .deviceNotFound h hs hb
  | homeless h => exact .homeNotFound rfl h
  | answered h hn hout =>
    cases hout with
    | missing hf => exact .databaseNotFound rfl h hn hf
    | unopened hf ho => exact .databaseFailed rfl h hn hf (by rw [ho]; rfl)
    | unwritten hf ho hg => exact .databaseFailed rfl h hn hf (by rw [ho]; exact hg)

theorem FaultCode.mem_codes (h : FaultCode sim a w p code) :
    code ∈ ([68, 69, 70, 74, 75] : List UInt8) := by
  cases h <;> decide

end

-- ---------------------------------------------------------------------------
-- Phases
-- ---------------------------------------------------------------------------

namespace Program

variable {input : Input} {i : CommandLine.Invocation} {s : Settings}

theorem conclude_of_usageError {e : CommandLine.UsageError}
    (h : CommandLine.Invocation.ofArguments input.arguments = .error e) :
    conclude input = ⟨.answered e, [], input.world⟩ := by
  rw [conclude, h]

theorem conclude_of_configError {e : ConfigError}
    (h : CommandLine.Invocation.ofArguments input.arguments = .ok i)
    (hl : Settings.load input.world.files input.environment = .error e) :
    conclude input = ⟨.failed (.config e), [], input.world⟩ := by
  rw [conclude, h]
  simp only [hl]

theorem conclude_of_ready (h : CommandLine.Invocation.ofArguments input.arguments = .ok i)
    (hl : Settings.load input.world.files input.environment = .ok s) :
    conclude input =
      ⟨.ofResult ((i.dispatch s).run ⟨input.world, [configLoaded s]⟩).1,
        Log.atLevel (threshold i s) ((i.dispatch s).run ⟨input.world, [configLoaded s]⟩).2.log,
        ((i.dispatch s).run ⟨input.world, [configLoaded s]⟩).2.state⟩ := by
  rw [conclude, h]
  simp only [hl, Log.Setup.install]
  rw [body, Action.run_bind_of_ok (Action.run_emit _ _)]
  rfl

/-- The phases in which a run can end, each with the facts that lead to it. -/
inductive Phase (input : Input) : Prop
  | commandLine (e : CommandLine.UsageError)
      (h : CommandLine.Invocation.ofArguments input.arguments = .error e)
  | settings (i : CommandLine.Invocation) (e : ConfigError)
      (h : CommandLine.Invocation.ofArguments input.arguments = .ok i)
      (hl : Settings.load input.world.files input.environment = .error e)
  | scheme (i : CommandLine.Invocation) (s : Settings)
      (h : CommandLine.Invocation.ofArguments input.arguments = .ok i)
      (hl : Settings.load input.world.files input.environment = .ok s)
      (hs : i.command.lacksScheme = true)
  | client (i : CommandLine.Invocation) (s : Settings)
      (h : CommandLine.Invocation.ofArguments input.arguments = .ok i)
      (hl : Settings.load input.world.files input.environment = .ok s)
      (hs : i.command.lacksScheme = false)

theorem phase (input : Input) : Phase input := by
  cases h : CommandLine.Invocation.ofArguments input.arguments with
  | error e => exact .commandLine e h
  | ok i =>
    cases hl : Settings.load input.world.files input.environment with
    | error e => exact .settings i e h hl
    | ok s =>
      cases hs : i.command.lacksScheme with
      | true => exact .scheme i s h hl hs
      | false => exact .client i s h hl hs

-- ---------------------------------------------------------------------------
-- With settings
-- ---------------------------------------------------------------------------

theorem exists_backend_of_load {files : FileTree} {env : Environment}
    (hl : Settings.load files env = .ok s) :
    ∃ b, Backend.ofName? s.client.backend = some b :=
  Backend.exists_ofName?_iff.mpr
    (Settings.backend_mem_of_validate (Settings.validate_of_load hl))

theorem exists_client_of_load {files : FileTree} {env : Environment}
    (hl : Settings.load files env = .ok s) (udid : String) :
    ∃ client, s.client.toClient udid = .ok client := by
  obtain ⟨b, hb⟩ := exists_backend_of_load hl
  exact ClientSettings.exists_toClient_of_ofName? hb udid

section
variable (h : CommandLine.Invocation.ofArguments input.arguments = .ok i)
  (hl : Settings.load input.world.files input.environment = .ok s)

include h hl

theorem conclude_of_lacksScheme (hs : i.command.lacksScheme = true) :
    (conclude input).ending = .failed (.command .missingScheme) ∧
      (conclude input).world = input.world := by
  obtain ⟨client, hc⟩ := exists_client_of_load hl (s.target i.udid)
  rw [conclude_of_ready h hl, CommandLine.Invocation.run_dispatch_of_lacksScheme hc hs]
  exact ⟨rfl, rfl⟩

theorem conclude_dryRun (hs : i.command.lacksScheme = false)
    (hb : Backend.ofName? s.client.backend = some .dryRun) :
    (conclude input).ending = .succeeded ∧ (conclude input).world = input.world := by
  rw [conclude_of_ready h hl, CommandLine.Invocation.run_dispatch_dryRun hb hs]
  exact ⟨rfl, rfl⟩

/-- With the simulator a run succeeds if all steps do, and else fails as the first
step that does not. -/
theorem conclude_simulator (hs : i.command.lacksScheme = false)
    (hb : Backend.ofName? s.client.backend = some .simulator) :
    let sim := s.client.simulator (s.target i.udid)
    let plan := i.command.request.permissions.toList
    ((conclude input).ending = .succeeded ∧
      ∃ log last, GrantsAll sim i.command.request input.world plan log last) ∨
    ((¬ ∃ log last, GrantsAll sim i.command.request input.world plan log last) ∧
      ∃ granted p rest log mid events e files, plan = granted ++ p :: rest ∧
        GrantsAll sim i.command.request input.world granted log mid ∧
        Visit sim i.command.request mid p events (.error e) files ∧
        (conclude input).ending = .failed (.command (.client e))) := by
  intro sim plan
  obtain ⟨visited, granted, log, result, after, hc, hr⟩ :=
    CommandLine.Invocation.run_dispatch_simulator hb hs
  have hiff := hc.result_eq_ok_iff
    (Simulator.plans_toList (ApproveCommand.complete_request hs))
  rw [conclude_of_ready h hl, hr]
  cases result with
  | ok _ => exact .inl ⟨rfl, hiff.mp rfl⟩
  | error e =>
    refine .inr ⟨fun hall => (by cases hiff.mpr hall), ?_⟩
    obtain ⟨p, rest, mid, before, events, hp, -, hg, hv⟩ := hc.exists_fault
    exact ⟨granted, p, rest, before, mid, events, e, _, hp, hg, hv, rfl⟩

/-- Nothing but a fault of its client ends a complete command without success. -/
theorem ending_of_complete (hs : i.command.lacksScheme = false) :
    (conclude input).ending = .succeeded ∨
      ∃ e, (conclude input).ending = .failed (.command (.client e)) := by
  obtain ⟨b, hb⟩ := exists_backend_of_load hl
  cases b with
  | dryRun => exact .inl (conclude_dryRun h hl hs hb).1
  | simulator =>
    rcases conclude_simulator h hl hs hb with
      ⟨hend, -⟩ | ⟨-, _, _, _, _, _, _, e, _, -, -, -, hend⟩
    · exact .inl hend
    · exact .inr ⟨e, hend⟩

end

-- ---------------------------------------------------------------------------
-- Reports
-- ---------------------------------------------------------------------------

theorem exitCode_of_answered {e : CommandLine.UsageError}
    (h : (conclude input).ending = .answered e) : (run input).1.exitCode = e.exitCode := by
  simp only [run, h, Report.exitCode_ofEnding_answered]

theorem exitCode_of_failed {e : ProgramError} (h : (conclude input).ending = .failed e) :
    (run input).1.exitCode = e.exitCode := by
  simp only [run, h, Report.exitCode_ofEnding_failed]

theorem exitCode_of_succeeded (h : (conclude input).ending = .succeeded) :
    (run input).1.exitCode = 0 := by
  rw [run, h]
  rfl

theorem exitCode_usage_zero {e : CommandLine.UsageError}
    (h : (∃ page, e = .help page) ∨ e = .version) : e.exitCode = 0 := by
  rw [CommandLine.UsageError.exitCode, if_pos (CommandLine.UsageError.onOutput_iff.mpr h)]

theorem exitCode_usage_two {e : CommandLine.UsageError}
    (h : ¬ ((∃ page, e = .help page) ∨ e = .version)) : e.exitCode = 2 := by
  rw [CommandLine.UsageError.exitCode, if_neg (mt CommandLine.UsageError.onOutput_iff.mp h)]

theorem exitCode_of_complete (h : CommandLine.Invocation.ofArguments input.arguments = .ok i)
    (hl : Settings.load input.world.files input.environment = .ok s)
    (hs : i.command.lacksScheme = false) :
    let sim := s.client.simulator (s.target i.udid)
    let plan := i.command.request.permissions.toList
    ((run input).1.exitCode = 0 ↔ s.client.backend = "dry-run" ∨ s.client.backend = "none" ∨
      ∃ log last, GrantsAll sim i.command.request input.world plan log last) ∧
    ((run input).1.exitCode ≠ 0 → ∃ granted p rest log mid, plan = granted ++ p :: rest ∧
      GrantsAll sim i.command.request input.world granted log mid ∧
      FaultCode sim i.command.request mid p (run input).1.exitCode) := by
  intro sim plan
  obtain ⟨b, hb⟩ := exists_backend_of_load hl
  cases b with
  | dryRun =>
    have hz := exitCode_of_succeeded (conclude_dryRun h hl hs hb).1
    refine ⟨⟨fun _ => ?_, fun _ => hz⟩, fun hne => absurd hz hne⟩
    rcases Backend.ofName?_eq_dryRun_iff.mp hb with hn | hn
    · exact .inl hn
    · exact .inr (.inl hn)
  | simulator =>
    rcases conclude_simulator h hl hs hb with
      ⟨hend, hall⟩ | ⟨hnot, granted, p, rest, log, mid, events, e, files, hp, hg, hv, hend⟩
    · have hz := exitCode_of_succeeded hend
      exact ⟨⟨fun _ => .inr (.inr hall), fun _ => hz⟩, fun hne => absurd hz hne⟩
    · have hcode : (run input).1.exitCode = e.exitCode := exitCode_of_failed hend
      have hfault := faultCode_of_visit hv
      rw [hcode]
      refine ⟨⟨fun hz => ?_, fun hr => ?_⟩, fun _ => ⟨granted, p, rest, log, mid, hp, hg, hfault⟩⟩
      · have := hfault.mem_codes
        rw [hz] at this
        exact absurd this (by decide)
      · -- either name would be one of the dry run
        rcases hr with hn | hn | hall
        · rw [Backend.ofName?_eq_dryRun_iff.mpr (.inl hn)] at hb
          cases hb
        · rw [Backend.ofName?_eq_dryRun_iff.mpr (.inr hn)] at hb
          cases hb
        · exact absurd hall hnot

theorem exitCode_eq_one_iff (input : Input) :
    (run input).1.exitCode = 1 ↔
      ∃ i s, CommandLine.Invocation.ofArguments input.arguments = .ok i ∧
        Settings.load input.world.files input.environment = .ok s ∧
        i.command.lacksScheme = true := by
  constructor
  · intro hone
    cases phase input with
    | commandLine e h =>
      rw [exitCode_of_answered (by rw [conclude_of_usageError h])] at hone
      by_cases hp : (∃ page, e = .help page) ∨ e = .version
      · rw [exitCode_usage_zero hp] at hone
        exact absurd hone (by decide)
      · rw [exitCode_usage_two hp] at hone
        exact absurd hone (by decide)
    | settings i e h hl =>
      rw [exitCode_of_failed (by rw [conclude_of_configError h hl])] at hone
      exact absurd hone (show ¬ (78 : UInt8) = 1 by decide)
    | scheme i s h hl hs => exact ⟨i, s, h, hl, hs⟩
    | client i s h hl hs =>
      obtain ⟨-, hfault⟩ := exitCode_of_complete h hl hs
      obtain ⟨_, _, _, _, _, -, -, hcode⟩ := hfault (by rw [hone]; decide)
      have := hcode.mem_codes
      rw [hone] at this
      exact absurd this (by decide)
  · rintro ⟨i, s, h, hl, hs⟩
    exact exitCode_of_failed (conclude_of_lacksScheme h hl hs).1

theorem ending_ne_other (input : Input) (text : String) (causes : List String) :
    (conclude input).ending ≠ .failed (.other text causes) := by
  cases phase input with
  | commandLine e h =>
    rw [conclude_of_usageError h]
    intro he
    cases he
  | settings i e h hl =>
    rw [conclude_of_configError h hl]
    intro he
    cases he
  | scheme i s h hl hs =>
    rw [(conclude_of_lacksScheme h hl hs).1]
    intro he
    cases he
  | client i s h hl hs =>
    rcases ending_of_complete h hl hs with hend | ⟨e, hend⟩ <;>
    · rw [hend]
      intro he
      cases he

theorem output_of_answered {e : CommandLine.UsageError}
    (h : (conclude input).ending = .answered e) :
    (run input).1.output =
      if e.onOutput then Terminal.renderAll (usageColored input.environment) e.spans else "" := by
  simp only [run, h, Report.output_ofEnding_answered]

theorem output_of_failed {e : ProgramError} (h : (conclude input).ending = .failed e)
    (hn : e ≠ .command .missingScheme) : (run input).1.output = "" := by
  simp only [run, h, Report.output_ofEnding_failed _ _ hn]

theorem schemeAdvice_eq (colors : Terminal.Colors) :
    Report.schemeAdvice colors = if colors.output
      then "You need to specify \x1b[33m--scheme\x1b[0m when approving url permissions\n"
      else "You need to specify --scheme when approving url permissions\n" := by
  have hplain : ∀ output : Bool, "You need to specify " ++ Terminal.paint output [33] "--scheme" ++
      " when approving url permissions\n" = if output
        then "You need to specify \x1b[33m--scheme\x1b[0m when approving url permissions\n"
        else "You need to specify --scheme when approving url permissions\n" := by
    decide +kernel
  exact hplain colors.output

theorem output_of_lacksScheme (h : CommandLine.Invocation.ofArguments input.arguments = .ok i)
    (hl : Settings.load input.world.files input.environment = .ok s)
    (hs : i.command.lacksScheme = true) :
    (run input).1.output = Report.schemeAdvice (colors input.environment) := by
  simp only [run, (conclude_of_lacksScheme h hl hs).1]
  rfl

theorem output_of_complete (h : CommandLine.Invocation.ofArguments input.arguments = .ok i)
    (hl : Settings.load input.world.files input.environment = .ok s)
    (hs : i.command.lacksScheme = false) : (run input).1.output = "" := by
  rcases ending_of_complete h hl hs with hend | ⟨e, hend⟩
  · simp only [run, hend, Report.ofEnding, Report.success]
  · exact output_of_failed hend (by intro he; cases he)

theorem output_eq_empty (input : Input) (hone : (run input).1.exitCode ≠ 1)
    (hp : ∀ e, CommandLine.Invocation.ofArguments input.arguments = .error e →
      ¬ ((∃ page, e = .help page) ∨ e = .version)) : (run input).1.output = "" := by
  cases phase input with
  | commandLine e h =>
    rw [output_of_answered (by rw [conclude_of_usageError h]),
      if_neg (mt CommandLine.UsageError.onOutput_iff.mp (hp e h))]
  | settings i e h hl =>
    have hend : (conclude input).ending = .failed (.config e) := by
      rw [conclude_of_configError h hl]
    exact output_of_failed hend (by intro he; cases he)
  | scheme i s h hl hs => exact absurd ((exitCode_eq_one_iff input).mpr ⟨i, s, h, hl, hs⟩) hone
  | client i s h hl hs => exact output_of_complete h hl hs

/-- The phases of a run, with the exit status, the effects and the standard output of each. -/
theorem run_phases (input : Input) :
    (∀ e, CommandLine.Invocation.ofArguments input.arguments = .error e →
      (((∃ page, e = .help page) ∨ e = .version) → (run input).1.exitCode = 0) ∧
      (¬ ((∃ page, e = .help page) ∨ e = .version) → (run input).1.exitCode = 2) ∧
      (run input).2 = input.world) ∧
    (∀ i e, CommandLine.Invocation.ofArguments input.arguments = .ok i →
      Settings.load input.world.files input.environment = .error e →
      (run input).1.exitCode = 78 ∧ (run input).2 = input.world) ∧
    (∀ i s, CommandLine.Invocation.ofArguments input.arguments = .ok i →
      Settings.load input.world.files input.environment = .ok s →
      .url ∈ i.command.permissions ∧ (i.command.scheme = none ∨ i.command.scheme = some "") →
      (run input).1.exitCode = 1 ∧ (run input).2 = input.world) ∧
    (∀ i s, CommandLine.Invocation.ofArguments input.arguments = .ok i →
      Settings.load input.world.files input.environment = .ok s →
      ¬ (.url ∈ i.command.permissions ∧
        (i.command.scheme = none ∨ i.command.scheme = some "")) →
      let sim := s.client.simulator (s.target i.udid)
      let plan := i.command.request.permissions.toList
      ((run input).1.exitCode = 0 ↔ s.client.backend = "dry-run" ∨ s.client.backend = "none" ∨
        ∃ log last, GrantsAll sim i.command.request input.world plan log last) ∧
      ((run input).1.exitCode ≠ 0 → ∃ granted p rest log mid, plan = granted ++ p :: rest ∧
        GrantsAll sim i.command.request input.world granted log mid ∧
        FaultCode sim i.command.request mid p (run input).1.exitCode)) ∧
    ((run input).1.exitCode = 1 ↔
      ∃ i s, CommandLine.Invocation.ofArguments input.arguments = .ok i ∧
        Settings.load input.world.files input.environment = .ok s ∧
        .url ∈ i.command.permissions ∧
        (i.command.scheme = none ∨ i.command.scheme = some "")) ∧
    (∀ text causes, (conclude input).ending ≠ .failed (.other text causes)) ∧
    (∀ e, CommandLine.Invocation.ofArguments input.arguments = .error e →
      (∃ page, e = .help page) ∨ e = .version →
      (run input).1.output = Terminal.renderAll (usageColored input.environment) e.spans) ∧
    ((run input).1.exitCode = 1 → (run input).1.output =
      if (colors input.environment).output
        then "You need to specify \x1b[33m--scheme\x1b[0m when approving url permissions\n"
        else "You need to specify --scheme when approving url permissions\n") ∧
    ((run input).1.exitCode ≠ 1 →
      (∀ e, CommandLine.Invocation.ofArguments input.arguments = .error e →
        ¬ ((∃ page, e = .help page) ∨ e = .version)) →
      (run input).1.output = "") := by
  refine ⟨?_, ?_, ?_, ?_, ?_, ending_ne_other input, ?_, ?_, output_eq_empty input⟩
  · intro e h
    have hend : (conclude input).ending = .answered e := by rw [conclude_of_usageError h]
    refine ⟨fun hp => ?_, fun hp => ?_, ?_⟩
    · rw [exitCode_of_answered hend, exitCode_usage_zero hp]
    · rw [exitCode_of_answered hend, exitCode_usage_two hp]
    · simp only [run, conclude_of_usageError h]
  · intro i e h hl
    refine ⟨exitCode_of_failed (by rw [conclude_of_configError h hl]), ?_⟩
    simp only [run, conclude_of_configError h hl]
  · intro i s h hl hs
    have hs := ApproveCommand.lacksScheme_iff.mpr hs
    obtain ⟨hend, hw⟩ := conclude_of_lacksScheme h hl hs
    exact ⟨exitCode_of_failed hend, hw⟩
  · intro i s h hl hs
    rw [← ApproveCommand.lacksScheme_iff, Bool.not_eq_true] at hs
    exact exitCode_of_complete h hl hs
  · simp only [← ApproveCommand.lacksScheme_iff]
    exact exitCode_eq_one_iff input
  · intro e h hp
    rw [output_of_answered (by rw [conclude_of_usageError h]),
      if_pos (CommandLine.UsageError.onOutput_iff.mpr hp)]
  · intro hone
    obtain ⟨i, s, h, hl, hs⟩ := (exitCode_eq_one_iff input).mp hone
    rw [output_of_lacksScheme h hl hs, schemeAdvice_eq]

end Program

end SimApprove
