import SimApprove.Proofs.Simulator.ErrorText

/-!
# Complaints about the device

A call that fails is reported as a missing device if the tool says so in time, and a complaint
that stands further back is not seen (`late_complaint_unseen`). Nothing but the tool's words,
and an empty answer to the question for the home, makes a missing device of a failure
(`failure_report`).
-/

namespace SimApprove

namespace Simulator

variable {sim : Simulator} {a : Approval} {p : Permission} {w : World} {s : Session World}
  {events : List Log.Event} {files : FileTree}

/-- The tool ran to its end without success and complained about the device in time. -/
def DeviceRefused (sim : Simulator) (a : Approval) (p : Permission) (w : World) : Prop :=
  ∃ finish, w.attempt (sim.plannedCall a p) = .finished finish ∧ finish.status ≠ .exited 0 ∧
    Tool.BlamesDevice finish.stderr

theorem Visit.of_deviceNotFound {udid reason : String}
    (h : Visit sim a w p events (.error (.deviceNotFound udid reason)) files) :
    udid = sim.udid ∧ (DeviceRefused sim a p w ∨ (p = .camera ∧ sim.NamesHome a w "")) := by
  cases h with
  | deviceMissing h hs hb => exact ⟨rfl, .inl ⟨_, h, hs, hb⟩⟩
  | homeless h => exact ⟨rfl, .inr ⟨rfl, h⟩⟩
  | answered _ _ ho => cases ho

theorem of_run_grant_deviceNotFound {udid reason : String}
    (h : ((sim.grant a p).run s).1 = .error (.deviceNotFound udid reason)) :
    udid = sim.udid ∧
      (DeviceRefused sim a p s.state ∨ (p = .camera ∧ sim.NamesHome a s.state "")) := by
  cases hstep : a.step p with
  | error e =>
    have hurl : e = .invalidRequest "url permission requires a scheme" := by
      cases p with
      | url =>
        simp only [Approval.step] at hstep
        split at hstep <;> cases hstep
        rfl
      | _ => cases hstep
    rw [grant, hstep, hurl] at h
    cases h
  | ok step =>
    obtain ⟨events, result, files, hv⟩ := exists_visit sim a s.state p
    rw [run_grant hstep hv] at h
    cases result with
    | ok _ => cases h
    | error e =>
      cases h
      exact hv.of_deviceNotFound

/-- How a call is reported that does not succeed, by the tool's words, and what else there is
that is reported as a missing device. -/
theorem failure_report (sim : Simulator) (app : String) (step : Step) (s : Session World) :
    (∀ finish, s.state.attempt (sim.call app step) = .finished finish →
      finish.status ≠ .exited 0 →
        let told := Text.Utf8.decodeLossy finish.stderr
        let early := Tool.ComplainsWithin 4096 (Text.trim told)
        (early → ((sim.runStep app step).run s).1 =
          .error (.deviceNotFound sim.udid (Tool.errorText finish.stderr))) ∧
        (¬ early → ((sim.runStep app step).run s).1 =
          .error (.commandFailed (sim.call app step).text finish.status.text
            (Tool.errorText finish.stderr))) ∧
        (early → Tool.Complains told) ∧
        (Tool.Complains told → (Text.trim told).utf8ByteSize ≤ 4096 → early)) ∧
    (∀ cause, s.state.attempt (sim.call app step) = .refused cause →
      ((sim.runStep app step).run s).1 = .error (.spawn sim.xcrun cause)) ∧
    (s.state.attempt (sim.call app step) = .hung →
      ((sim.runStep app step).run s).1 =
        .error (.timeout (sim.call app step).text sim.limit)) ∧
    (∀ a p udid reason, ((sim.grant a p).run s).1 = .error (.deviceNotFound udid reason) →
      udid = sim.udid ∧
        (DeviceRefused sim a p s.state ∨ (p = .camera ∧ sim.NamesHome a s.state ""))) ∧
    (∀ udid reason, (ClientError.deviceNotFound udid reason).exitCode = 68) ∧
    (∀ command status stderr, (ClientError.commandFailed command status stderr).exitCode = 70) := by
  refine ⟨fun finish h hs => ?_, fun cause h => ?_, fun h => ?_, ?_, fun _ _ => rfl,
    fun _ _ _ => rfl⟩
  · intro told early
    rw [run_runStep_of_failure h hs]
    refine ⟨fun he => ?_, fun he => ?_, fun he => ?_, fun hc hfits => ?_⟩
    · rw [Tool.classify_of_blamesDevice he]
    · rw [Tool.classify_of_not_blamesDevice he]
    · exact Tool.complains_trim_iff.mp he.complains
    · exact Tool.complainsWithin_of_fits (Tool.complains_trim_iff.mpr hc) hfits
  · rw [run_runStep, h]
    rfl
  · rw [run_runStep, h]
    rfl
  · exact fun a p udid reason => of_run_grant_deviceNotFound

theorem unseen_of_padding {padding : String} (hsize : padding.utf8ByteSize = 4096)
    (hpad : ∀ c ∈ padding.toList, c = 'x') :
    Tool.Complains (padding ++ "Invalid device") ∧
      ¬ Tool.ComplainsWithin 4096 (Text.trim (padding ++ "Invalid device")) := by
  have hlist : (padding ++ "Invalid device").toList = padding.toList ++ "Invalid device".toList :=
    String.toList_append
  have htrim : Text.trim (padding ++ "Invalid device") = padding ++ "Invalid device" :=
    Text.trim_append_eq_self (fun c hc => by rw [hpad c hc]; decide)
      (Text.trimmed_of_any (by decide) (by decide)) (by decide)
  refine ⟨.inl ?_, fun hw => ?_⟩
  · rw [hlist]
    exact (List.suffix_append _ _).isInfix
  · rw [htrim, Tool.complainsWithin_append_iff hsize] at hw
    rcases hw with hw | hw
    · have := hpad 'I' (hw.subset (by decide))
      cases this
    · have := hpad 'N' (hw.subset (by decide))
      cases this

/-- A complaint behind 4096 other characters is cut off before it is looked for. -/
theorem late_complaint_unseen :
    let padding := String.ofList (List.replicate 4096 'x')
    let finish : Finish := ⟨.exited 148, [], (padding ++ "Invalid device").toUTF8.toList⟩
    let w := World.answering finish
    let sim : Simulator := ⟨"booted", "xcrun", ⟨60, 0⟩⟩
    let call := sim.call "a" (.privacy "photos")
    w.attempt call = .finished finish ∧ Tool.Complains (Text.Utf8.decodeLossy finish.stderr) ∧
      ((sim.runStep "a" (.privacy "photos")).run ⟨w, []⟩).1 =
        .error (.commandFailed call.text "exit status: 148" (Tool.errorText finish.stderr)) := by
  intro padding finish w sim call
  have hpadding : padding.toList = List.replicate 4096 'x' := String.toList_ofList
  have hsize : padding.utf8ByteSize = 4096 := by
    rw [← Text.byteSize_toList, hpadding, Text.byteSize_replicate]
    rfl
  have hpad : ∀ c ∈ padding.toList, c = 'x' := fun c hc =>
    List.eq_of_mem_replicate (hpadding ▸ hc)
  obtain ⟨hcomplains, hunseen⟩ := unseen_of_padding hsize hpad
  -- from here on nothing depends on how the padding was made
  clear_value padding
  have htold : Text.Utf8.decodeLossy finish.stderr = padding ++ "Invalid device" :=
    Text.Utf8.decodeLossy_toUTF8 _
  have hattempt : w.attempt call = .finished finish :=
    World.attempt_answering finish (by decide +kernel)
  have hrun : ((sim.runStep "a" (.privacy "photos")).run ⟨w, []⟩).1 = _ :=
    run_runStep_of_failure hattempt fun h => by cases h
  refine ⟨hattempt, htold ▸ hcomplains, ?_⟩
  rw [hrun, Tool.classify_of_not_blamesDevice]
  · rfl
  · rwa [Tool.BlamesDevice, htold]

end Simulator

end SimApprove
