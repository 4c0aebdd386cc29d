import SimApprove.Proofs.Simulator.Course
import SimApprove.Proofs.World.Aside

/-!
# Runs in worlds with one page aside

Two worlds are `Apart` by a page if their files agree elsewhere and no home that the tool
may name has its consent database there. The simulator takes the same course in both
(`carries_apart`): the same calls, the same events, the same tables. Only why a program
cannot be started may differ (`SameFault`), and an exit status does not tell.
-/

namespace SimApprove.Simulator

/-- No home that the call names has its consent database at the location. -/
def HomesAvoid (aside : Location) (files : FileTree) (respond : List Call → Call → Reply)
    (call : Call) : Prop :=
  ∀ calls finish, respond calls call = .finishes finish → finish.status = .exited 0 →
    Text.trim (Text.Utf8.decodeLossy finish.stdout) ≠ "" →
    files.Avoids aside (Consent.databasePath (Text.trim (Text.Utf8.decodeLossy finish.stdout)))

structure Apart (aside : Location) (x y : Option Node) (sim : Simulator) (a : Approval)
    (w w' : World) : Prop where
  files : FileTree.SameBut aside x y w.files w'.files
  host : w.toHost = w'.toHost
  calls : w.calls = w'.calls
  left : HomesAvoid aside w.files w.respond (sim.plannedCall a .camera)
  right : HomesAvoid aside w'.files w'.respond (sim.plannedCall a .camera)

inductive SameAttempt : Attempt → Attempt → Prop
  | refused (cause cause' : SystemError) : SameAttempt (.refused cause) (.refused cause')
  | same (attempt : Attempt) : SameAttempt attempt attempt

theorem SameAttempt.isFinished_eq {attempt attempt' : Attempt} (h : SameAttempt attempt attempt') :
    attempt.isFinished = attempt'.isFinished := by
  cases h <;> rfl

/-- The fault, but perhaps for what keeps a program from being started. -/
inductive SameFault : ClientError → ClientError → Prop
  | spawn (program : String) (cause cause' : SystemError) :
      SameFault (.spawn program cause) (.spawn program cause')
  | same (e : ClientError) : SameFault e e

theorem SameFault.exitCode_eq {e e' : ClientError} (h : SameFault e e') :
    e.exitCode = e'.exitCode := by
  cases h <;> rfl

variable {aside : Location} {x y : Option Node} {sim : Simulator} {a : Approval} {w w' : World}
  {home : String} {p : Permission} {events : List Log.Event}

-- ---------------------------------------------------------------------------
-- Calls
-- ---------------------------------------------------------------------------

theorem Apart.symm (h : Apart aside x y sim a w w') : Apart aside y x sim a w' w :=
  ⟨h.files.symm, h.host.symm, h.calls.symm, h.right, h.left⟩

theorem Apart.startable (h : Apart aside x y sim a w w') {call : Call}
    (hs : w.startable call = .ok ()) : w'.startable call = .ok () := by
  unfold World.startable at hs ⊢
  split at hs
  · cases hs
  · rename_i hnul
    rw [if_neg hnul]
    obtain ⟨there, hp, -⟩ := map_eq_ok_iff.mp hs
    rw [← congrArg Host.searchPath h.host]
    exact map_eq_ok_iff.mpr ⟨there, h.files.program hp, rfl⟩

theorem Apart.attempt (h : Apart aside x y sim a w w') (call : Call) :
    SameAttempt (w.attempt call) (w'.attempt call) := by
  unfold World.attempt
  rw [← congrArg Host.respond h.host, ← h.calls]
  cases hs : w.startable call with
  | ok _ =>
    rw [h.startable hs]
    exact .same _
  | error cause =>
    cases hs' : w'.startable call with
    | ok _ =>
      rw [h.symm.startable hs'] at hs
      cases hs
    | error cause' => exact .refused cause cause'

theorem Apart.attempt_finished (h : Apart aside x y sim a w w') {call : Call} {finish : Finish}
    (hc : w.attempt call = .finished finish) : w'.attempt call = .finished finish := by
  have hs := h.attempt call
  rw [hc] at hs
  generalize w'.attempt call = attempt at hs
  cases hs with
  | same => rfl

theorem Apart.record (h : Apart aside x y sim a w w') (call : Call) :
    Apart aside x y sim a (w.record call) (w'.record call) where
  files := h.files
  host := h.host
  calls := by
    rw [World.calls_record, World.calls_record, h.calls, (h.attempt call).isFinished_eq]
  left := h.left
  right := h.right

theorem Apart.namesHome (h : Apart aside x y sim a w w') (hh : sim.NamesHome a w home) :
    sim.NamesHome a w' home := by
  obtain ⟨finish, hc, hs, ht⟩ := hh
  exact ⟨finish, h.attempt_finished hc, hs, ht⟩

theorem Apart.avoids (h : Apart aside x y sim a w w') (hh : sim.NamesHome a w home)
    (hn : home ≠ "") : w.files.Avoids aside (Consent.databasePath home) := by
  obtain ⟨finish, hc, hs, rfl⟩ := hh
  exact h.left _ finish (World.respond_of_attempt hc) hs hn

-- ---------------------------------------------------------------------------
-- The consent database
-- ---------------------------------------------------------------------------

section
open ConsentStore (Outcome)

variable {path other app : String} {evaluate : Consent.Evaluation} {files files' after : FileTree}
  {result : Except ClientError Unit}

theorem avoids_of_outcome (hp : files.Avoids aside path)
    (hout : Outcome path Consent.cameraService app evaluate files events result after)
    (h : files.Avoids aside other) : after.Avoids aside other := by
  cases result with
  | ok _ =>
    obtain ⟨-, here, table, -, hnode, rfl⟩ := hout.exists_table
    exact h.setDatabase hnode _
  | error e =>
    cases hout.kept with
    | same => exact h
    | made _ hn hr => exact h.make hr fun he => hp.names (he ▸ hn)

theorem outcome_of_sameBut (h : FileTree.SameBut aside x y files files')
    (hl : files.Avoids aside path) (hr : files'.Avoids aside path)
    (hout : Outcome path Consent.cameraService app evaluate files events result after) :
    ∃ after', Outcome path Consent.cameraService app evaluate files' events result after' ∧
      FileTree.SameBut aside x y after after' := by
  have hhas := h.has_eq hl.resolve hr.resolve
  have hopen := h.openDatabase_eq hl.names
  cases hout with
  | missing hf => exact ⟨_, .missing (hhas ▸ hf), h⟩
  | unopened hf ho => exact ⟨_, .unopened (hhas ▸ hf) (hopen ▸ ho), h⟩
  | unwritten hf ho hg =>
    exact ⟨_, .unwritten (hhas ▸ hf) (hopen ▸ ho) hg,
      h.opened (FileTree.opened_of_openDatabase ho) hl.names⟩
  | written hf ho hg =>
    obtain ⟨here, table, hn, hnode, hfile, -⟩ :=
      (FileTree.opened_of_openDatabase ho).exists_table hg
    refine ⟨_, .written (hhas ▸ hf) (hopen ▸ ho) hg, ?_⟩
    rw [hfile]
    exact h.setDatabase hnode (fun he => hl.names (he ▸ hn)) _

end

-- ---------------------------------------------------------------------------
-- Visits
-- ---------------------------------------------------------------------------

theorem Apart.answered (h : Apart aside x y sim a w w') (hh : sim.NamesHome a w home)
    (hn : home ≠ "") {result : Except ClientError Unit} {files : FileTree}
    (hout : ConsentStore.Outcome (Consent.databasePath home) Consent.cameraService a.bundleId
      w.evaluate w.files events result files) :
    ∃ files', ConsentStore.Outcome (Consent.databasePath home) Consent.cameraService a.bundleId
        w'.evaluate w'.files events result files' ∧
      Apart aside x y sim a (worldAfter sim a w .camera files)
        (worldAfter sim a w' .camera files') := by
  have hl := h.avoids hh hn
  have hr := h.symm.avoids (h.namesHome hh) hn
  obtain ⟨files', hout', hfiles⟩ := outcome_of_sameBut h.files hl hr hout
  have hcalls := (h.record (sim.plannedCall a .camera)).calls
  rw [← congrArg Host.evaluate h.host]
  refine ⟨files', hout', hfiles, h.host, hcalls, ?_, ?_⟩
  · exact fun calls finish hf hs ht => avoids_of_outcome hl hout (h.left calls finish hf hs ht)
  · exact fun calls finish hf hs ht => avoids_of_outcome hr hout' (h.right calls finish hf hs ht)

/-- A step goes the same way in both worlds, with the same events. -/
theorem carries_apart : Carries sim a (Apart aside x y sim a) SameFault := by
  intro w w' p events result files h hv
  cases hv with
  | refused hc =>
    have hs := h.attempt (sim.plannedCall a p)
    rw [hc] at hs
    cases hc' : w'.attempt (sim.plannedCall a p) with
    | refused cause' => exact ⟨_, _, .refused hc', .error (.spawn _ _ _), h.record _⟩
    | _ =>
      rw [hc'] at hs
      cases hs
  | hung hc =>
    have hs := h.attempt (sim.plannedCall a p)
    rw [hc] at hs
    generalize hc' : w'.attempt (sim.plannedCall a p) = attempt at hs
    cases hs with
    | same => exact ⟨_, _, .hung hc', .error (.same _), h.record _⟩
  | failed hc hs hb =>
    exact ⟨_, _, .failed (h.attempt_finished hc) hs hb, .error (.same _), h.record _⟩
  | deviceMissing hc hs hb =>
    exact ⟨_, _, .deviceMissing (h.attempt_finished hc) hs hb, .error (.same _), h.record _⟩
  | called hp hc hs => exact ⟨_, _, .called hp (h.attempt_finished hc) hs, .ok, h.record _⟩
  | homeless hh => exact ⟨_, _, .homeless (h.namesHome hh), .error (.same _), h.record _⟩
  | answered hh hn hout =>
    obtain ⟨files', hout', hnext⟩ := h.answered hh hn hout
    exact ⟨_, _, .answered (h.namesHome hh) hn hout', .refl .same _, hnext⟩

end SimApprove.Simulator
