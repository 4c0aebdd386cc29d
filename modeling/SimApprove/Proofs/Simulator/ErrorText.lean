import SimApprove.Proofs.Simulator.Visit
import SimApprove.Proofs.Text.Utf8

/-!
# What an error keeps of a tool's words

A call that fails carries what the tool wrote to standard error. `failure_keeps_start` says
how much of it: the trimmed text if it has at most 4096 bytes, and else the longest start
that does not end within a character, followed by a mark.
-/

namespace SimApprove

/-- A world in which the tool is at hand and ends every call in the same way. -/
def World.answering (finish : Finish) : World where
  files := ⟨"/s", [(["bin", "xcrun"], .program [0x23, 0x21])]⟩
  respond _ _ := .finishes finish

theorem World.attempt_answering (finish : Finish) {call : Call}
    (h : (answering ⟨.exited 0, [], []⟩).startable call = .ok ()) :
    (answering finish).attempt call = .finished finish := by
  -- whether a tool can be started does not depend on its replies
  have hs : (answering finish).startable call = .ok () := h
  rw [attempt, hs]
  rfl

namespace Simulator

variable {sim : Simulator} {app : String} {step : Step} {s : Session World} {finish : Finish}

theorem run_runStep_of_failure
    (h : s.state.attempt (sim.call app step) = .finished finish) (hs : finish.status ≠ .exited 0) :
    ((sim.runStep app step).run s).1 = .error (Tool.classify sim.udid
      (.commandFailed (sim.call app step).text finish.status.text
        (Tool.errorText finish.stderr))) := by
  rw [run_runStep, h, Tool.outcome_of_failure hs]
  rfl

/-- A failed call carries what the tool wrote, as far as an error keeps it. -/
theorem failure_keeps_start
    (h : s.state.attempt (sim.call app step) = .finished finish) (hs : finish.status ≠ .exited 0) :
    let t := Text.trim (Text.Utf8.decodeLossy finish.stderr)
    Text.Trimmed (Text.Utf8.decodeLossy finish.stderr).toList t.toList ∧
    ∃ kept : String,
      (((sim.runStep app step).run s).1 =
          .error (.commandFailed (sim.call app step).text finish.status.text kept) ∨
        ((sim.runStep app step).run s).1 = .error (.deviceNotFound sim.udid kept)) ∧
      (t.utf8ByteSize ≤ 4096 → kept = t) ∧
      (4096 < t.utf8ByteSize → ∃ p : String, Text.LongestStart 4096 p.toList t.toList ∧
        kept = p ++ "... [truncated]" ∧ 4093 ≤ p.utf8ByteSize ∧ kept.utf8ByteSize ≤ 4111) ∧
      (∀ text : String, finish.stderr = text.toUTF8.toList →
        (Text.trim text).utf8ByteSize ≤ 4096 → kept = Text.trim text) := by
  intro t
  refine ⟨?_, Tool.errorText finish.stderr, ?_, Tool.shorten_eq_self, Tool.exists_start_of_shorten,
    ?_⟩
  · rw [Text.toList_trim]
    exact Text.trimmed_trimChars _
  · rw [run_runStep_of_failure h hs]
    by_cases hb : Tool.BlamesDevice finish.stderr
    · exact .inr (congrArg _ (Tool.classify_of_blamesDevice hb))
    · exact .inl (congrArg _ (Tool.classify_of_not_blamesDevice hb))
  · intro text htext hfits
    rw [Tool.errorText, htext, Text.Utf8.decodeLossy_toUTF8, Tool.shorten_eq_self hfits]

/-- A byte that is no text takes three bytes as a sign, and so goes beyond the limit. -/
theorem failure_keeps_start_before_fault :
    let padding := String.ofList (List.replicate 4094 'x')
    let finish : Finish := ⟨.exited 1, [], padding.toUTF8.toList ++ [0xFF]⟩
    let sim : Simulator := ⟨"booted", "xcrun", ⟨60, 0⟩⟩
    let call := sim.call "a" (.privacy "photos")
    let result := ((sim.runStep "a" (.privacy "photos")).run ⟨.answering finish, []⟩).1
    (World.answering finish).attempt call = .finished finish ∧ finish.status ≠ .exited 0 ∧
      (result =
          .error (.commandFailed call.text "exit status: 1" (padding ++ "... [truncated]")) ∨
        result = .error (.deviceNotFound "booted" (padding ++ "... [truncated]"))) := by
  intro padding finish sim call result
  have hpadding : padding.toList = List.replicate 4094 'x' := String.toList_ofList
  have hsize : padding.utf8ByteSize = 4094 := by
    rw [← Text.byteSize_toList, hpadding, Text.byteSize_replicate]
    rfl
  have hpad : ∀ c ∈ padding.toList, c = 'x' := fun c hc =>
    List.eq_of_mem_replicate (hpadding ▸ hc)
  clear_value padding
  have htold : Text.Utf8.decodeLossy finish.stderr = padding ++ "\ufffd" := by
    have hfault : Text.Utf8.decodeLossy [0xFF] = "\ufffd" := by decide +kernel
    rw [Text.Utf8.decodeLossy_append, hfault]
  have htrim : Text.trim (padding ++ "\ufffd") = padding ++ "\ufffd" :=
    Text.trim_append_eq_self (fun c hc => by rw [hpad c hc]; decide)
      (Text.trimmed_of_any (by decide) (by decide)) (by decide)
  have hstart : Text.LongestStart 4096 padding.toList (padding ++ "\ufffd").toList := by
    rw [← Text.byteSize_toList] at hsize
    rw [String.toList_append]
    exact Text.longestStart_append (by omega) (by rw [hsize]; decide) []
  have hattempt : (World.answering finish).attempt call = .finished finish :=
    World.attempt_answering finish (by decide +kernel)
  have hs : finish.status ≠ .exited 0 := fun h => by cases h
  obtain ⟨-, kept, hresult, -, hlong, -⟩ := failure_keeps_start (s := ⟨.answering finish, []⟩)
    hattempt hs
  rw [htold, htrim] at hlong
  obtain ⟨p, hp, rfl, -, -⟩ := hlong (by
    rw [String.utf8ByteSize_append, hsize]
    decide +kernel)
  obtain rfl : p = padding := String.toList_inj.mp (hp.unique hstart)
  exact ⟨hattempt, hs, hresult⟩

end Simulator

end SimApprove
