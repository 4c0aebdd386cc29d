import SimApprove.Proofs.Program

/-!
# What a run leaves alone

A run changes at most one table, by one row. `FileTree.WritesGrant` is that change: the
node at one location is rewritten, all others and all rows with other keys stay. A
`CameraGranted` run has made it, with all that must have come before: the simulator's
backend, the camera among the permissions, a scheme if one is needed, and an answer on
record that names a home directory. `files_frame`: every run is of this kind or leaves
all files as they are, with at most an empty one more (`FileTree.Kept`).

Which file that is depends on the engine. It is the one at the consent database's path
below the home directory, unless that path starts with `file:`; then the engine reads a
locator, and `grant_follows_locator` is a run that writes into another database than the
one at the path.
-/

namespace SimApprove

open Simulator (Course Visit)

/-- Between these trees, a camera grant for an app was written into the table `t` of the
database at `here`. -/
structure FileTree.WritesGrant (evaluate : Consent.Evaluation) (app : String) (here : Location)
    (t : Consent.Table) (u v : FileTree) : Prop where
  root : v.root = u.root
  elsewhere : ∀ there, there ≠ here → v.node? there = u.node? there
  held : u.database here = .ok (.withTable t)
  holds : v.database here = .ok (.withTable (t.replaceRow (t.grantRow evaluate app)))
  others : (t.replaceRow (t.grantRow evaluate app)).rows.filter
      (fun row => t.keyOf row ≠ t.keyOf (t.grantRow evaluate app)) =
    t.rows.filter fun row => t.keyOf row ≠ t.keyOf (t.grantRow evaluate app)
  granted : ∃ value : Consent.Column → Consent.Value,
    t.grantRow evaluate app = t.columns.map value ∧
    ∀ c, ∀ entry ∈ Consent.subject app, Consent.sameName entry.1 c.name = true →
      value c = c.affinity.apply entry.2

theorem FileTree.writesGrant_setDatabase {u : FileTree} {here : Location} {t : Consent.Table}
    (h : u.node? here = some (.database (.withTable t))) (evaluate : Consent.Evaluation)
    (app : String) : WritesGrant evaluate app here t u
      (u.setDatabase here (.withTable (t.replaceRow (t.grantRow evaluate app)))) where
  root := rfl
  elsewhere _ hne := node?_setDatabase_of_ne hne
  held := database_of_node? h
  holds := database_setDatabase h
  others := t.filter_rows_replaceRow _
  granted := t.exists_grantRow_eq evaluate app

theorem Simulator.Visit.exists_writesGrant {sim : Simulator} {a : Approval} {w : World}
    {events : List Log.Event} {files : FileTree}
    (h : Visit sim a w .camera events (.ok ()) files) :
    ∃ home here t, sim.NamesHome a w home ∧ home ≠ "" ∧
      w.files.has (Consent.databasePath home) = true ∧
      w.files.Names (Consent.databasePath home) here ∧
      FileTree.WritesGrant w.evaluate a.bundleId here t w.files files := by
  cases h with
  | called hp => exact absurd rfl hp
  | answered hhome hne hout =>
    obtain ⟨hhas, here, t, hn, hnode, rfl⟩ := hout.exists_table
    exact ⟨_, here, t, hhome, hne, hhas, hn, FileTree.writesGrant_setDatabase hnode _ _⟩

-- ---------------------------------------------------------------------------
-- Runs
-- ---------------------------------------------------------------------------

/-- Among these attempts is the call for the home directory, which succeeded with `home`
as its output. -/
def HomeOnRecord (i : CommandLine.Invocation) (s : Settings) (made : List (Call × Attempt))
    (home : String) : Prop :=
  ∃ finish, (⟨s.client.xcrunPath, ["simctl", "getenv", s.target i.udid, "HOME"]⟩,
      .finished finish) ∈ made ∧
    finish.status = .exited 0 ∧ Text.trim (Text.Utf8.decodeLossy finish.stdout) = home

/-- A run between two worlds that wrote a camera grant. -/
structure CameraGranted (i : CommandLine.Invocation) (s : Settings) (before after : World) :
    Prop where
  backend : s.client.backend = "simctl" ∨ s.client.backend = ""
  camera : .camera ∈ i.command.permissions
  scheme : ¬ (.url ∈ i.command.permissions ∧
    (i.command.scheme = none ∨ i.command.scheme = some ""))
  wrote : ∃ made home here t, after.attempts = before.attempts ++ made ∧
    HomeOnRecord i s made home ∧ home ≠ "" ∧
    before.files.Names (Consent.databasePath home) here ∧
    (Consent.Locator.IsPlain (Consent.databasePath home) →
      before.files.resolve (Consent.databasePath home) = .ok here) ∧
    FileTree.WritesGrant before.evaluate i.command.bundleId here t before.files after.files

variable {i : CommandLine.Invocation} {s : Settings}

theorem cameraGranted_of_course {w after : World} {visited granted : List Permission}
    {log : List Log.Event} {result : Except ClientError Unit}
    (hb : Backend.ofName? s.client.backend = some .simulator)
    (hl : i.command.lacksScheme = false)
    (hc : Course (s.client.simulator (s.target i.udid)) i.command.request w
      i.command.request.permissions.toList visited granted log result after)
    (hg : .camera ∈ granted) : CameraGranted i s w after where
  backend := Backend.ofName?_eq_simulator_iff.mp hb
  camera := by
    obtain ⟨hpre, hvis⟩ := hc.visited_prefix
    exact ApproveCommand.mem_toList_request.mp ((hpre.trans hvis).subset hg)
  scheme := by
    rw [← ApproveCommand.lacksScheme_iff, hl]
    exact Bool.false_ne_true
  wrote := by
    obtain ⟨mid, events, made, hmf, hmh, hv, hm, hin⟩ :=
      hc.exists_camera i.command.request.permissions.nodup_toList hg
    obtain ⟨home, here, t, ⟨finish, ha, hstatus, hout⟩, hne, hhas, hn, hw⟩ := hv.exists_writesGrant
    -- the steps before the camera's left the files alone
    rw [hmf] at hhas hn hw
    rw [congrArg Host.evaluate hmh] at hw
    rw [ha] at hin
    exact ⟨made, home, here, t, hm, ⟨finish, hin, hstatus, hout⟩, hne, hn,
      fun hp => FileTree.resolve_of_isPlain hp hn hhas, hw⟩

theorem files_dispatch (i : CommandLine.Invocation) (s : Settings) (session : Session World) :
    (∃ home, session.state.files.Kept (Consent.databasePath home)
        ((i.dispatch s).run session).2.state.files) ∨
      CameraGranted i s session.state ((i.dispatch s).run session).2.state := by
  obtain ⟨outcome, hr, hd⟩ := CommandLine.Invocation.exists_dispatched i s session
  rw [hr]
  cases hd with
  | @simulated visited granted log result after hb hl hc =>
    by_cases hg : .camera ∈ granted
    · exact .inr (cameraGranted_of_course hb hl hc hg)
    · exact .inl (hc.files_kept hg)
  | _ => exact .inl ⟨"", .same⟩

/-- In no world does a run change a file but the one that a camera grant goes to. -/
theorem files_frame (w : World) :
    (∀ (i : CommandLine.Invocation) (s : Settings) (log : List Log.Event),
      (∃ home, w.files.Kept (Consent.databasePath home)
          ((i.dispatch s).run ⟨w, log⟩).2.state.files) ∨
        CameraGranted i s w ((i.dispatch s).run ⟨w, log⟩).2.state) ∧
    (∀ (args : List String) (env : Environment),
      (∃ home, w.files.Kept (Consent.databasePath home) (Program.run ⟨args, env, w⟩).2.files) ∨
        ∃ i s, CommandLine.Invocation.ofArguments args = .ok i ∧
          Settings.load w.files env = .ok s ∧
          CameraGranted i s w (Program.run ⟨args, env, w⟩).2) := by
  refine ⟨fun i s log => files_dispatch i s ⟨w, log⟩, fun args env => ?_⟩
  cases h : CommandLine.Invocation.ofArguments args with
  | error e =>
    have hc : Program.conclude ⟨args, env, w⟩ = _ := Program.conclude_of_usageError h
    rw [Program.run, hc]
    exact .inl ⟨"", .same⟩
  | ok i =>
    cases hl : Settings.load w.files env with
    | error e =>
      have hc : Program.conclude ⟨args, env, w⟩ = _ := Program.conclude_of_configError h hl
      rw [Program.run, hc]
      exact .inl ⟨"", .same⟩
    | ok s =>
      have hc : Program.conclude ⟨args, env, w⟩ = _ := Program.conclude_of_ready h hl
      rw [Program.run, hc]
      rcases files_dispatch i s ⟨w, [Program.configLoaded s]⟩ with hf | hg
      · exact .inl hf
      · exact .inr ⟨i, s, rfl, rfl, hg⟩

/-- A home directory whose name starts with `file:`. There is a database at its path, but
the grant is written to the one that the path names as a locator. -/
theorem grant_follows_locator :
    let t := Consent.Schema.legacy.plainTable []
    let named := ["file:home", "Library", "TCC", "TCC.db"]
    let other := ["home", "Library", "TCC", "TCC.db"]
    let files : FileTree := ⟨"/s", [(["bin", "xcrun"], .program [0x23, 0x21]),
      (named, .database (.withTable t)), (other, .database (.withTable t))]⟩
    let w : World :=
      { files, respond := fun _ _ => .finishes ⟨.exited 0, "file:home".toUTF8.toList, []⟩ }
    let i : CommandLine.Invocation := ⟨none, false, ⟨"a", [.camera], none⟩⟩
    let after := ((i.dispatch ⟨"config.toml", none, "warn", {}⟩).run ⟨w, []⟩).2.state
    HomeOnRecord i ⟨"config.toml", none, "warn", {}⟩ after.attempts "file:home" ∧
      files.resolve (Consent.databasePath "file:home") = .ok named ∧
      after.files.database named = .ok (.withTable t) ∧
      after.files.database other = .ok (.withTable { t with rows :=
        [[.text "kTCCServiceCamera", .text "a", .integer 0, .integer 1, .integer 1]] }) := by
  intro t named other files w i after
  refine ⟨⟨⟨.exited 0, "file:home".toUTF8.toList, []⟩, ?_, rfl, ?_⟩, ?_, ?_, ?_⟩ <;>
    decide +kernel

end SimApprove
