import SimApprove.Proofs.Program
import SimApprove.Proofs.Settings.Layers

/-!
# The device of a run

The flag, the environment and the file can name a device, in this order. An empty name
does not count in the first two. In the file it does, and the tool is then called for a
device without a name. `run_target` says which name a run uses, and that it uses no other.
-/

namespace SimApprove

namespace Settings

/-- The names that are given for a run, the first choice first. -/
def namesBeforeFile (flag : Option String) (env : Environment) : List String :=
  flag.toList ++ (env.text? "IDBCTL_UDID").toList

def firstNonempty? (names : List String) : Option String := names.find? (· ≠ "")

variable {files : FileTree} {env : Environment} {file s : Settings} {flag : Option String}
  {names : List String}

theorem filter_eq_firstNonempty? (name? : Option String) :
    name?.filter (· ≠ "") = firstNonempty? name?.toList := by
  cases name? with
  | none => rfl
  | some name => by_cases h : name = "" <;> simp [firstNonempty?, Option.filter, h]

theorem firstNonempty?_eq_none_iff : firstNonempty? names = none ↔ ∀ name ∈ names, name = "" := by
  simp [firstNonempty?]

theorem ne_empty_of_firstNonempty? {name : String} (h : firstNonempty? names = some name) :
    name ≠ "" := by
  simpa using List.find?_some h

theorem target_overriddenBy (file : Settings) (env : Environment) (flag : Option String) :
    (file.overriddenBy env).target flag =
      ((firstNonempty? (namesBeforeFile flag env)).or file.defaultUdid).getD bootedDevice := by
  simp only [target, overriddenBy, Environment.udid?, Environment.nonempty?,
    filter_eq_firstNonempty?, namesBeforeFile]
  rw [firstNonempty?, firstNonempty?, firstNonempty?, List.find?_append, Option.or_assoc]

theorem target_eq_firstNonempty? (h : file.defaultUdid ≠ some "") :
    (file.overriddenBy env).target flag =
      (firstNonempty? (namesBeforeFile flag env ++ file.defaultUdid.toList)).getD bootedDevice := by
  have hd : firstNonempty? file.defaultUdid.toList = file.defaultUdid := by
    rw [← filter_eq_firstNonempty?]
    cases hf : file.defaultUdid with
    | none => rfl
    | some name =>
      have hn : name ≠ "" := fun he => h (he ▸ hf)
      simp [Option.filter, hn]
  rw [target_overriddenBy, firstNonempty?, firstNonempty?, List.find?_append]
  rw [firstNonempty?] at hd
  rw [hd]

theorem target_eq_empty_iff : (file.overriddenBy env).target flag = "" ↔
    file.defaultUdid = some "" ∧ ∀ name ∈ namesBeforeFile flag env, name = "" := by
  rw [target_overriddenBy, ← firstNonempty?_eq_none_iff]
  cases hn : firstNonempty? (namesBeforeFile flag env) with
  | none =>
    cases file.defaultUdid with
    | none => simp [bootedDevice]
    | some name => simp
  | some name => simpa using ne_empty_of_firstNonempty? hn

theorem exists_file_of_load (h : load files env = .ok s) :
    ∃ home file, env.home? = some home ∧ loadBelow files home = .ok file ∧
      s = file.overriddenBy env := by
  unfold load at h
  split at h
  · cases h
  · rename_i home hh
    obtain ⟨file, hf, h⟩ := bind_eq_ok_iff.mp h
    obtain ⟨⟨⟩, -, h⟩ := bind_eq_ok_iff.mp h
    cases h
    exact ⟨home, file, hh, hf, rfl⟩

end Settings

-- ---------------------------------------------------------------------------
-- What a run does with the name
-- ---------------------------------------------------------------------------

def Call.IsFor (udid : String) (call : Call) : Prop :=
  ∃ verb rest, call.arguments = "simctl" :: verb :: udid :: rest

theorem Simulator.isFor_plannedCall (sim : Simulator) (a : Approval) (p : Permission) :
    (sim.plannedCall a p).IsFor sim.udid := by
  cases p <;> exact ⟨_, _, rfl⟩

theorem attempts_dispatch (i : CommandLine.Invocation) (s : Settings) (session : Session World) :
    ∃ made, ((i.dispatch s).run session).2.state.attempts = session.state.attempts ++ made ∧
      ∀ attempt ∈ made, attempt.1.IsFor (s.target i.udid) := by
  obtain ⟨outcome, hr, hd⟩ := CommandLine.Invocation.exists_dispatched i s session
  rw [hr]
  cases hd with
  | simulated hb hl hc =>
    obtain ⟨made, hm, hplanned⟩ := hc.attempts
    refine ⟨made, hm, fun attempt ha => ?_⟩
    obtain ⟨p, -, hp⟩ := List.mem_map.mp (hplanned ▸ List.mem_map_of_mem ha)
    exact hp ▸ Simulator.isFor_plannedCall _ _ _
  | _ => exact ⟨[], (List.append_nil _).symm, fun _ h => nomatch h⟩

namespace Program

open Settings (namesBeforeFile firstNonempty?)

variable {input : Input} {i : CommandLine.Invocation} {s : Settings}

/-- The device of a run is the first one that is named, and `booted` if none is. Only the file
can give an empty name, which counts then. The client gets this name, and no call of the
run has another. -/
theorem run_target (h : CommandLine.Invocation.ofArguments input.arguments = .ok i)
    (hl : Settings.load input.world.files input.environment = .ok s) :
    ∃ home file, input.environment.home? = some home ∧
      Settings.loadBelow input.world.files home = .ok file ∧
      (∀ name, firstNonempty? (namesBeforeFile i.udid input.environment) = some name →
        s.target i.udid = name) ∧
      (file.defaultUdid ≠ some "" →
        s.target i.udid ≠ "" ∧
        s.target i.udid = (firstNonempty?
          (namesBeforeFile i.udid input.environment ++ file.defaultUdid.toList)).getD "booted") ∧
      (s.target i.udid = "" ↔ file.defaultUdid = some "" ∧
        ∀ name ∈ namesBeforeFile i.udid input.environment, name = "") ∧
      (∃ client, s.client.toClient (s.target i.udid) = .ok client ∧
        i.dispatch s = (i.command.run client).mapError .command) ∧
      ∃ made, (run input).2.attempts = input.world.attempts ++ made ∧
        ∀ attempt ∈ made, attempt.1.IsFor (s.target i.udid) := by
  obtain ⟨client, hc⟩ := exists_client_of_load hl (s.target i.udid)
  obtain ⟨made, hm, hfor⟩ := attempts_dispatch i s ⟨input.world, [configLoaded s]⟩
  have hdispatch : i.dispatch s = (i.command.run client).mapError .command := by
    rw [CommandLine.Invocation.dispatch, hc]
  have hrun : (run input).2 = ((i.dispatch s).run ⟨input.world, [configLoaded s]⟩).2.state := by
    rw [run, conclude_of_ready h hl]
  obtain ⟨home, file, hh, hf, rfl⟩ := Settings.exists_file_of_load hl
  refine ⟨home, file, hh, hf, fun name hn => ?_, fun hne => ⟨fun he => ?_, ?_⟩,
    Settings.target_eq_empty_iff, ⟨client, hc, hdispatch⟩, made, hrun ▸ hm, hfor⟩
  · rw [Settings.target_overriddenBy, hn]
    rfl
  · exact hne (Settings.target_eq_empty_iff.mp he).1
  · exact Settings.target_eq_firstNonempty? hne

/-- A variable that is empty leaves the device to the file. -/
theorem run_target_of_file :
    let document := "default_udid = \"ABC-123\"\n"
    let files : FileTree := ⟨"/s", [(["bin", "xcrun"], .program [0x23, 0x21]),
      (["home", ".idbctl", "config.toml"], .document document.toUTF8.toList)]⟩
    let w : World := { files, respond := fun _ _ => .finishes ⟨.exited 0, [], []⟩ }
    let env : Environment := ⟨[("HOME", "/s/home".toUTF8.toList), ("IDBCTL_UDID", [])], none⟩
    (run ⟨["approve", "com.example.app", "photos"], env, w⟩).2.attempts ≠ [] ∧
      ∀ attempt ∈ (run ⟨["approve", "com.example.app", "photos"], env, w⟩).2.attempts,
        attempt.1.IsFor "ABC-123" := by
  intro document files w env
  let input : Input := ⟨["approve", "com.example.app", "photos"], env, w⟩
  let s : Settings :=
    { configPath := "/s/home/.idbctl/config.toml", defaultUdid := some "ABC-123" }
  have h : CommandLine.Invocation.ofArguments input.arguments =
      .ok ⟨none, false, ⟨"com.example.app", [.photos], none⟩⟩ := by decide +kernel
  have hl : Settings.load input.world.files input.environment = .ok s := by decide +kernel
  obtain ⟨_, _, -, -, -, -, -, -, made, hm, hfor⟩ := run_target h hl
  have hsome : (run input).2.attempts ≠ [] := by decide +kernel
  have hmade : (run input).2.attempts = made := hm
  exact ⟨hsome, fun attempt ha => hfor attempt (hmade ▸ ha)⟩

/-- An empty name in the file is the device that the tool is called for. -/
theorem run_of_empty_default :
    let document := "default_udid = \"\"\n"
    let files : FileTree := ⟨"/s", [(["bin", "xcrun"], .program [0x23, 0x21]),
      (["home", ".idbctl", "config.toml"], .document document.toUTF8.toList)]⟩
    let w : World := { files, respond := fun _ _ => .finishes ⟨.exited 0, [], []⟩ }
    let env : Environment := ⟨[("HOME", "/s/home".toUTF8.toList)], none⟩
    let after := run ⟨["approve", "com.example.app", "photos"], env, w⟩
    after.1.exitCode = 0 ∧ after.2.calls =
      [⟨"xcrun", ["simctl", "privacy", "", "grant", "photos", "com.example.app"]⟩] := by
  intro document files w env after
  constructor <;> decide +kernel

end Program

end SimApprove
