import SimApprove.Client.Simulator
import SimApprove.Proofs.Consent.Store
import SimApprove.Proofs.Tool

/-!
# One visit of a permission

`Visit` says how the step for one permission ends in a given world: what it logs,
its result and the files that it leaves. It asks about the tool's
answer and the consent database and says nothing of the order in which the client
looks at them. `run_grant` ties the client's step to it: one attempt to start the
tool, with the call `plannedCall`, and then as `Visit` says. `exists_visit` says
that every step ends in one of these ways.
-/

namespace SimApprove.Simulator

/-- The call for a permission. Each text is an argument of its own. -/
def plannedCall (sim : Simulator) (a : Approval) : Permission → Call
  | .photos => ⟨sim.xcrun, ["simctl", "privacy", sim.udid, "grant", "photos", a.bundleId]⟩
  | .camera => ⟨sim.xcrun, ["simctl", "getenv", sim.udid, "HOME"]⟩
  | .contacts => ⟨sim.xcrun, ["simctl", "privacy", sim.udid, "grant", "contacts", a.bundleId]⟩
  | .url => ⟨sim.xcrun, ["simctl", "spawn", sim.udid, "defaults", "write",
      "com.apple.launchservices.schemeapproval",
      "com.apple.CoreSimulator.CoreSimulatorBridge-->" ++ a.scheme.getD "", "-string", a.bundleId]⟩

theorem program_plannedCall (sim : Simulator) (a : Approval) (p : Permission) :
    (sim.plannedCall a p).program = sim.xcrun := by cases p <;> rfl

def NamesHome (sim : Simulator) (a : Approval) (w : World) (home : String) : Prop :=
  ∃ finish, w.attempt (sim.plannedCall a .camera) = .finished finish ∧
    finish.status = .exited 0 ∧ Text.trim (Text.Utf8.decodeLossy finish.stdout) = home

section
variable (sim : Simulator) (a : Approval) (w : World)

inductive Visit : Permission → List Log.Event → Except ClientError Unit → FileTree → Prop
  | refused {p cause} (h : w.attempt (sim.plannedCall a p) = .refused cause) :
      Visit p [Tool.spawning (sim.plannedCall a p)] (.error (.spawn sim.xcrun cause)) w.files
  | hung {p} (h : w.attempt (sim.plannedCall a p) = .hung) :
      Visit p [Tool.spawning (sim.plannedCall a p)]
        (.error (.timeout (sim.plannedCall a p).text sim.limit)) w.files
  | failed {p finish} (h : w.attempt (sim.plannedCall a p) = .finished finish)
      (hs : finish.status ≠ .exited 0) (hb : ¬ Tool.BlamesDevice finish.stderr) :
      Visit p [Tool.spawning (sim.plannedCall a p)]
        (.error (.commandFailed (sim.plannedCall a p).text finish.status.text
          (Tool.errorText finish.stderr))) w.files
  | deviceMissing {p finish} (h : w.attempt (sim.plannedCall a p) = .finished finish)
      (hs : finish.status ≠ .exited 0) (hb : Tool.BlamesDevice finish.stderr) :
      Visit p [Tool.spawning (sim.plannedCall a p)]
        (.error (.deviceNotFound sim.udid (Tool.errorText finish.stderr))) w.files
  | called {p finish} (hp : p ≠ .camera)
      (h : w.attempt (sim.plannedCall a p) = .finished finish) (hs : finish.status = .exited 0) :
      Visit p [Tool.spawning (sim.plannedCall a p)] (.ok ()) w.files
  | homeless (h : sim.NamesHome a w "") :
      Visit .camera [Tool.spawning (sim.plannedCall a .camera)]
        (.error (.deviceNotFound sim.udid "simctl reported no HOME for the device")) w.files
  | answered {home events result files} (h : sim.NamesHome a w home) (hn : home ≠ "")
      (ho : ConsentStore.Outcome (Consent.databasePath home) Consent.cameraService a.bundleId
        w.evaluate w.files events result files) :
      Visit .camera (Tool.spawning (sim.plannedCall a .camera) :: events) result files

end

/-- The world that a visit leaves: one more attempt, and perhaps other files. -/
def worldAfter (sim : Simulator) (a : Approval) (w : World) (p : Permission) (files : FileTree) :
    World :=
  { w.record (sim.plannedCall a p) with files := files }

variable {sim : Simulator} {a : Approval} {p : Permission} {w : World} {s : Session World}
  {events : List Log.Event} {result : Except ClientError Unit} {files : FileTree}

-- ---------------------------------------------------------------------------
-- The step that is planned
-- ---------------------------------------------------------------------------

theorem exists_step (ha : a.Complete) (hp : a.permissions.contains p = true) :
    ∃ step, a.step p = .ok step := by
  cases p with
  | url =>
    obtain ⟨scheme, hs, hn⟩ := ha hp
    have hu : a.usableScheme? = some scheme := by
      simp [Approval.usableScheme?, hs, Option.filter, hn]
    exact ⟨.openScheme scheme, by simp only [Approval.step, hu]⟩
  | _ => exact ⟨_, rfl⟩

theorem call_eq_plannedCall {step : Step} (h : a.step p = .ok step) :
    sim.call a.bundleId step = sim.plannedCall a p := by
  cases p with
  | url =>
    simp only [Approval.step] at h
    split at h
    · rename_i scheme hu
      cases h
      obtain ⟨hs, -⟩ := Approval.usableScheme?_eq hu
      simp only [plannedCall, hs, Option.getD_some]
      rfl
    · cases h
  | _ => cases h; rfl

theorem step_eq_camera_iff {step : Step} (h : a.step p = .ok step) :
    step = .camera ↔ p = .camera := by
  cases p with
  | url =>
    simp only [Approval.step] at h
    split at h <;> cases h
    simp
  | _ => cases h; simp

-- ---------------------------------------------------------------------------
-- The call
-- ---------------------------------------------------------------------------

theorem run_runStep (sim : Simulator) (app : String) (step : Step) (s : Session World) :
    (sim.runStep app step).run s =
      ((Tool.outcome sim.limit (sim.call app step) (s.state.attempt (sim.call app step))).mapError
        (Tool.classify sim.udid),
      ⟨s.state.record (sim.call app step), s.log ++ [Tool.spawning (sim.call app step)]⟩) := by
  rw [runStep, Action.run_mapError, Tool.run_run]
  cases Tool.outcome sim.limit (sim.call app step) (s.state.attempt (sim.call app step)) <;> rfl

-- ---------------------------------------------------------------------------
-- The visit
-- ---------------------------------------------------------------------------

def called (sim : Simulator) (a : Approval) (p : Permission) (s : Session World) : Session World :=
  ⟨s.state.record (sim.plannedCall a p), s.log ++ [Tool.spawning (sim.plannedCall a p)]⟩

theorem run_runStep_planned {step : Step} (hs : a.step p = .ok step) :
    (sim.runStep a.bundleId step).run s =
      ((Tool.outcome sim.limit (sim.plannedCall a p)
          (s.state.attempt (sim.plannedCall a p))).mapError (Tool.classify sim.udid),
        called sim a p s) := by
  rw [run_runStep, call_eq_plannedCall hs]
  rfl

theorem run_grant_of_call_failed {step : Step} (hs : a.step p = .ok step) {e : ClientError}
    (h : (Tool.outcome sim.limit (sim.plannedCall a p)
      (s.state.attempt (sim.plannedCall a p))).mapError (Tool.classify sim.udid) = .error e) :
    (sim.grant a p).run s = (.error e, called sim a p s) := by
  have hr : (sim.runStep a.bundleId step).run s = (.error e, called sim a p s) := by
    rw [run_runStep_planned hs, h]
  simp only [grant, hs]
  rw [Action.run_bind_of_error hr]

theorem run_runStep_answered {step : Step} (hs : a.step p = .ok step) {finish : Finish}
    (h : s.state.attempt (sim.plannedCall a p) = .finished finish)
    (hf : finish.status = .exited 0) :
    (sim.runStep a.bundleId step).run s =
      (.ok (Text.Utf8.decodeLossy finish.stdout), called sim a p s) := by
  rw [run_runStep_planned hs, h, Tool.outcome_of_success hf]
  rfl

theorem run_grant_of_called {step : Step} (hs : a.step p = .ok step) (hp : p ≠ .camera)
    {finish : Finish} (h : s.state.attempt (sim.plannedCall a p) = .finished finish)
    (hf : finish.status = .exited 0) :
    (sim.grant a p).run s = (.ok (), called sim a p s) := by
  have hn : step ≠ .camera := mt (step_eq_camera_iff hs).mp hp
  simp only [grant, hs]
  rw [Action.run_bind_of_ok (run_runStep_answered hs h hf)]
  cases step with
  | camera => exact absurd rfl hn
  | _ => rfl

theorem run_grant_camera {home : String} (h : sim.NamesHome a s.state home) :
    (sim.grant a .camera).run s =
      if home = "" then
        (.error (.deviceNotFound sim.udid "simctl reported no HOME for the device"),
          called sim a .camera s)
      else (grantCamera (Consent.databasePath home) a.bundleId).run (called sim a .camera s) := by
  obtain ⟨finish, hc, hf, ht⟩ := h
  have hs : a.step .camera = .ok .camera := rfl
  simp only [grant, hs]
  rw [Action.run_bind_of_ok (run_runStep_answered hs hc hf)]
  simp only [homeOf, ht]
  split <;> rename_i hh <;> split at hh <;> cases hh
  · rename_i he
    rw [if_pos he, Action.run_fail]
  · rename_i he
    rw [if_neg he]

theorem run_grant_of_outcome {home : String} (h : sim.NamesHome a s.state home) (hn : home ≠ "")
    (ho : ConsentStore.Outcome (Consent.databasePath home) Consent.cameraService a.bundleId
      s.state.evaluate s.state.files events result files) :
    (sim.grant a .camera).run s = (result, ⟨worldAfter sim a s.state .camera files,
      s.log ++ Tool.spawning (sim.plannedCall a .camera) :: events⟩) := by
  rw [run_grant_camera h, if_neg hn, grantCamera,
    ConsentStore.run_grant (s := called sim a .camera s) ho]
  simp only [called, List.append_assoc, List.singleton_append]
  rfl

/-- The step for a permission makes one attempt and ends as `Visit` says. -/
theorem run_grant {step : Step} (hs : a.step p = .ok step)
    (hv : Visit sim a s.state p events result files) :
    (sim.grant a p).run s =
      (result, ⟨worldAfter sim a s.state p files, s.log ++ events⟩) := by
  cases hv with
  | refused h =>
    rw [run_grant_of_call_failed hs (by rw [h]; rfl), program_plannedCall]
    rfl
  | hung h =>
    rw [run_grant_of_call_failed hs (by rw [h]; rfl)]
    rfl
  | failed h hf hb =>
    rw [run_grant_of_call_failed hs (by rw [h, Tool.outcome_of_failure hf]; rfl),
      Tool.classify_of_not_blamesDevice hb]
    rfl
  | deviceMissing h hf hb =>
    rw [run_grant_of_call_failed hs (by rw [h, Tool.outcome_of_failure hf]; rfl),
      Tool.classify_of_blamesDevice hb]
    rfl
  | called hp h hf =>
    rw [run_grant_of_called hs hp h hf]
    rfl
  | homeless h =>
    rw [run_grant_camera h]
    rfl
  | answered h hn ho => exact run_grant_of_outcome h hn ho

theorem exists_visit_of_namesHome {home : String} (h : sim.NamesHome a w home) :
    ∃ events result files, Visit sim a w .camera events result files := by
  by_cases hn : home = ""
  · exact ⟨_, _, _, .homeless (hn ▸ h)⟩
  · obtain ⟨events, result, files, ho⟩ := ConsentStore.exists_outcome
      (Consent.databasePath home) Consent.cameraService a.bundleId w.evaluate w.files
    exact ⟨_, _, _, .answered h hn ho⟩

theorem exists_visit (sim : Simulator) (a : Approval) (w : World) (p : Permission) :
    ∃ events result files, Visit sim a w p events result files := by
  cases h : w.attempt (sim.plannedCall a p) with
  | refused cause => exact ⟨_, _, _, .refused h⟩
  | hung => exact ⟨_, _, _, .hung h⟩
  | finished finish =>
    by_cases hs : finish.status = .exited 0
    · by_cases hp : p = .camera
      · subst hp
        exact exists_visit_of_namesHome ⟨finish, h, hs, rfl⟩
      · exact ⟨_, _, _, .called hp h hs⟩
    · by_cases hb : Tool.BlamesDevice finish.stderr
      · exact ⟨_, _, _, .deviceMissing h hs hb⟩
      · exact ⟨_, _, _, .failed h hs hb⟩

theorem Visit.events_eq (h : Visit sim a w p events result files) :
    events = [Tool.spawning (sim.plannedCall a p)] ∨
      ∃ home, events = [Tool.spawning (sim.plannedCall a p),
        ConsentStore.writing (Consent.databasePath home) Consent.cameraService a.bundleId] := by
  cases h with
  | answered _ _ ho =>
    cases ho with
    | missing | unopened => exact .inl rfl
    | unwritten | written => exact .inr ⟨_, rfl⟩
  | _ => exact .inl rfl

/-- A fault leaves all that was there, and can add to it at the camera's step alone. -/
theorem Visit.kept {e : ClientError} (h : Visit sim a w p events (.error e) files) :
    ∃ home, w.files.Kept (Consent.databasePath home) files := by
  cases h with
  | answered _ _ ho => exact ⟨_, ho.kept⟩
  | _ => exact ⟨"", .same⟩

end SimApprove.Simulator
