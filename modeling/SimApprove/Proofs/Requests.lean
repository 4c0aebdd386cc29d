import SimApprove.Proofs.Program

/-!
# What a run sees of its command

A client receives a request, and in a request the permissions are a set. So the order
in which permissions are listed, and how often, is nothing that any later part of a run
can depend on: `run_eq_of_same_permissions`, for runs of the command with any client,
for dispatches, and for whole runs of the program.
-/

namespace SimApprove

namespace ApproveCommand

variable {c d : ApproveCommand}

theorem request_eq_iff : c.request = d.request ↔
    c.bundleId = d.bundleId ∧ (∀ p, p ∈ c.permissions ↔ p ∈ d.permissions) ∧
      c.scheme = d.scheme := by
  simp only [request, Approval.mk.injEq, PermissionSet.ofList_eq_ofList_iff]

theorem lacksScheme_congr (h : c.request = d.request) : c.lacksScheme = d.lacksScheme := by
  have hs : c.scheme = d.scheme := congrArg Approval.scheme h
  rw [lacksScheme, lacksScheme, h, hs]

theorem toApproval_congr (h : c.request = d.request) : c.toApproval = d.toApproval := by
  rw [toApproval, toApproval, lacksScheme_congr h, h]

theorem run_congr {σ : Type} (h : c.request = d.request) (client : Client σ) :
    c.run client = d.run client := by
  rw [run, run, execute, execute, toApproval_congr h]

end ApproveCommand

variable {i j : CommandLine.Invocation}

theorem dispatch_congr (hu : i.udid = j.udid) (h : i.command.request = j.command.request)
    (s : Settings) : i.dispatch s = j.dispatch s := by
  rw [CommandLine.Invocation.dispatch, CommandLine.Invocation.dispatch, hu]
  simp only [ApproveCommand.run_congr h]

theorem Program.run_congr {args args' : List String} (env : Environment) (w : World)
    (hargs : CommandLine.Invocation.ofArguments args = .ok i)
    (hargs' : CommandLine.Invocation.ofArguments args' = .ok j) (hu : i.udid = j.udid)
    (hv : i.verbose = j.verbose) (h : i.command.request = j.command.request) :
    run ⟨args, env, w⟩ = run ⟨args', env, w⟩ := by
  cases hl : Settings.load w.files env with
  | error e =>
    have hc : conclude ⟨args, env, w⟩ = _ := conclude_of_configError hargs hl
    have hc' : conclude ⟨args', env, w⟩ = _ := conclude_of_configError hargs' hl
    rw [run, run, hc, hc']
  | ok s =>
    have hc : conclude ⟨args, env, w⟩ = _ := conclude_of_ready hargs hl
    have hc' : conclude ⟨args', env, w⟩ = _ := conclude_of_ready hargs' hl
    have ht : threshold i s = threshold j s := by rw [threshold, threshold, hv]
    rw [run, run, hc, hc', dispatch_congr hu h, ht]

/-- Two lists with the same permissions make no difference to the result, the calls, the
tables or the log of a run. -/
theorem run_eq_of_same_permissions (udid : Option String) (verbose : Bool) (bundleId : String)
    (scheme : Option String) (ps qs : List Permission) (h : ∀ p, p ∈ ps ↔ p ∈ qs) :
    (∀ (σ : Type) (client : Client σ) (session : Session σ),
      ((⟨bundleId, ps, scheme⟩ : ApproveCommand).run client).run session =
        ((⟨bundleId, qs, scheme⟩ : ApproveCommand).run client).run session) ∧
    (∀ (s : Settings) (session : Session World),
      ((⟨udid, verbose, ⟨bundleId, ps, scheme⟩⟩ : CommandLine.Invocation).dispatch s).run session =
        ((⟨udid, verbose, ⟨bundleId, qs, scheme⟩⟩ : CommandLine.Invocation).dispatch s).run
          session) ∧
    (∀ (args args' : List String) (env : Environment) (w : World),
      CommandLine.Invocation.ofArguments args = .ok ⟨udid, verbose, ⟨bundleId, ps, scheme⟩⟩ →
      CommandLine.Invocation.ofArguments args' = .ok ⟨udid, verbose, ⟨bundleId, qs, scheme⟩⟩ →
      Program.run ⟨args, env, w⟩ = Program.run ⟨args', env, w⟩) := by
  have hr : (⟨bundleId, ps, scheme⟩ : ApproveCommand).request =
      (⟨bundleId, qs, scheme⟩ : ApproveCommand).request :=
    ApproveCommand.request_eq_iff.mpr ⟨rfl, h, rfl⟩
  refine ⟨fun σ client session => ?_, fun s session => ?_, fun args args' env w ha ha' => ?_⟩
  · rw [ApproveCommand.run_congr hr]
  · have hd := dispatch_congr (i := ⟨udid, verbose, ⟨bundleId, ps, scheme⟩⟩)
      (j := ⟨udid, verbose, ⟨bundleId, qs, scheme⟩⟩) rfl hr s
    rw [hd]
  · exact Program.run_congr env w ha ha' rfl rfl hr

/-- In whatever order the two are listed, the step for the photos succeeds, and the run ends
with the fault of the other. -/
theorem run_eq_of_url_photos_url :
    let first := ["approve", "com.example.app", "url", "photos", "url", "--scheme", "myapp"]
    let second := ["approve", "--scheme=myapp", "com.example.app", "photos", "url"]
    let env : Environment := ⟨[("HOME", "/s/home".toUTF8.toList)], none⟩
    let w : World :=
      { files := ⟨"/s", [(["bin", "xcrun"], .program [0x23, 0x21])]⟩
        respond := fun calls _ => .finishes ⟨.exited calls.length, [], "no".toUTF8.toList⟩ }
    (∀ p, p ∈ [Permission.url, .photos, .url] ↔ p ∈ [Permission.photos, .url]) ∧
      CommandLine.Invocation.ofArguments first =
        .ok ⟨none, false, ⟨"com.example.app", [.url, .photos, .url], some "myapp"⟩⟩ ∧
      CommandLine.Invocation.ofArguments second =
        .ok ⟨none, false, ⟨"com.example.app", [.photos, .url], some "myapp"⟩⟩ ∧
      Program.run ⟨first, env, w⟩ = Program.run ⟨second, env, w⟩ ∧
      (Program.run ⟨first, env, w⟩).1.exitCode = 70 ∧
      (Program.run ⟨first, env, w⟩).2.attempts =
        [(⟨"xcrun", ["simctl", "privacy", "booted", "grant", "photos", "com.example.app"]⟩,
          .finished ⟨.exited 0, [], "no".toUTF8.toList⟩),
        (⟨"xcrun", ["simctl", "spawn", "booted", "defaults", "write",
            "com.apple.launchservices.schemeapproval",
            "com.apple.CoreSimulator.CoreSimulatorBridge-->myapp", "-string",
            "com.example.app"]⟩,
          .finished ⟨.exited 1, [], "no".toUTF8.toList⟩)] := by
  intro first second env w
  have hp : ∀ p, p ∈ [Permission.url, .photos, .url] ↔ p ∈ [Permission.photos, .url] := by
    intro p
    cases p <;> decide
  have hfirst : CommandLine.Invocation.ofArguments first =
      .ok ⟨none, false, ⟨"com.example.app", [.url, .photos, .url], some "myapp"⟩⟩ := by
    rfl
  have hsecond : CommandLine.Invocation.ofArguments second =
      .ok ⟨none, false, ⟨"com.example.app", [.photos, .url], some "myapp"⟩⟩ := by
    rfl
  obtain ⟨-, -, hrun⟩ := run_eq_of_same_permissions none false "com.example.app" (some "myapp")
    [.url, .photos, .url] [.photos, .url] hp
  exact ⟨hp, hfirst, hsecond, hrun first second env w hfirst hsecond, by decide +kernel,
    by decide +kernel⟩

end SimApprove
