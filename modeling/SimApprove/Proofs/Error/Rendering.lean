import SimApprove.Error
import SimApprove.Proofs.Text.Measure

/-!
# Rendered errors

An error is rendered as its text, followed by those of its causes that are not in there by
then. `render_causes` says that no cause is lost and none is told twice, and how the rendering
of one chain of causes goes with that of another. Any text and any causes are those of some
error, `ProgramError.other`.
-/

namespace SimApprove

/-- Some of the causes in their order, none of which stands in what comes before it. -/
structure Tells (text : String) (causes told : List String) : Prop where
  inOrder : told.Sublist causes
  distinct : told.Nodup
  unseen : ∀ before cause after, told = before ++ cause :: after →
    ¬ cause.toList <:+: (": ".intercalate (text :: before)).toList

/-- The longer chain has one more cause, which says what the text or a cause before it says. -/
def Repeats (text : String) (causes longer : List String) : Prop :=
  ∃ before again after, causes = before ++ after ∧ longer = before ++ again :: after ∧
    (again = text ∨ again ∈ before)

variable {text cause : String} {causes : List String}

-- ---------------------------------------------------------------------------
-- One cause
-- ---------------------------------------------------------------------------

theorem appendCauses_of_seen (h : cause.toList <:+: text.toList) (rest : List String) :
    appendCauses text (cause :: rest) = appendCauses text rest := by
  rw [appendCauses, if_pos (Text.contains_iff.mpr h)]

theorem appendCauses_of_unseen (h : ¬ cause.toList <:+: text.toList) (rest : List String) :
    appendCauses text (cause :: rest) = appendCauses (text ++ ": " ++ cause) rest := by
  rw [appendCauses, if_neg (mt Text.contains_iff.mp h)]

theorem prefix_joined (text cause : String) : text.toList <+: (text ++ ": " ++ cause).toList := by
  rw [String.toList_append, String.toList_append, List.append_assoc]
  exact List.prefix_append _ _

theorem infix_joined (text cause : String) : cause.toList <:+: (text ++ ": " ++ cause).toList := by
  rw [String.toList_append]
  exact (List.suffix_append _ _).isInfix

theorem exists_appendCauses_cons (text cause : String) : ∃ next : String,
    text.toList <+: next.toList ∧ cause.toList <:+: next.toList ∧
      ∀ rest, appendCauses text (cause :: rest) = appendCauses next rest := by
  by_cases h : cause.toList <:+: text.toList
  · exact ⟨text, List.prefix_rfl, h, appendCauses_of_seen h⟩
  · exact ⟨_, prefix_joined text cause, infix_joined text cause, appendCauses_of_unseen h⟩

-- ---------------------------------------------------------------------------
-- All causes
-- ---------------------------------------------------------------------------

theorem prefix_appendCauses (text : String) (causes : List String) :
    text.toList <+: (appendCauses text causes).toList := by
  induction causes generalizing text with
  | nil => exact List.prefix_rfl
  | cons cause rest ih =>
    obtain ⟨next, hp, -, hnext⟩ := exists_appendCauses_cons text cause
    rw [hnext]
    exact hp.trans (ih next)

theorem infix_appendCauses (h : cause ∈ causes) :
    cause.toList <:+: (appendCauses text causes).toList := by
  induction causes generalizing text with
  | nil => cases h
  | cons first rest ih =>
    obtain ⟨next, -, hi, hnext⟩ := exists_appendCauses_cons text first
    rw [hnext]
    rcases List.mem_cons.mp h with rfl | h
    · exact hi.trans (prefix_appendCauses next rest).isInfix
    · exact ih h

theorem appendCauses_append (text : String) (front back : List String) :
    appendCauses text (front ++ back) = appendCauses (appendCauses text front) back := by
  induction front generalizing text with
  | nil => rfl
  | cons cause front ih => rw [List.cons_append, appendCauses, ih, appendCauses]

theorem appendCauses_eq_self_iff :
    appendCauses text causes = text ↔ ∀ cause ∈ causes, cause.toList <:+: text.toList := by
  constructor
  · intro h cause hc
    have hi : cause.toList <:+: (appendCauses text causes).toList := infix_appendCauses hc
    rwa [h] at hi
  · intro h
    induction causes with
    | nil => rfl
    | cons first rest ih =>
      obtain ⟨hfirst, hrest⟩ := List.forall_mem_cons.mp h
      rw [appendCauses_of_seen hfirst, ih hrest]

theorem appendCauses_of_repeats {longer : List String} (h : Repeats text causes longer) :
    appendCauses text longer = appendCauses text causes := by
  obtain ⟨before, again, after, rfl, rfl, hagain⟩ := h
  have hseen : again.toList <:+: (appendCauses text before).toList := by
    rcases hagain with rfl | hagain
    · exact (prefix_appendCauses again before).isInfix
    · exact infix_appendCauses hagain
  rw [appendCauses_append, appendCauses_of_seen hseen, appendCauses_append]

-- ---------------------------------------------------------------------------
-- The causes that are told
-- ---------------------------------------------------------------------------

theorem prefix_intercalate (text : String) (told : List String) :
    text.toList <+: (": ".intercalate (text :: told)).toList := by
  induction told generalizing text with
  | nil => exact List.prefix_rfl
  | cons cause told ih => exact (prefix_joined text cause).trans (ih (text ++ ": " ++ cause))

theorem Tells.nil (text : String) : Tells text [] [] where
  inOrder := List.Sublist.refl []
  distinct := List.nodup_nil
  unseen before cause after h := by simp at h

theorem Tells.skip {told : List String} (h : Tells text causes told) (cause : String) :
    Tells text (cause :: causes) told :=
  ⟨h.inOrder.cons cause, h.distinct, h.unseen⟩

theorem Tells.cons {told : List String} (h : Tells (text ++ ": " ++ cause) causes told)
    (hnew : ¬ cause.toList <:+: text.toList) : Tells text (cause :: causes) (cause :: told) where
  inOrder := h.inOrder.cons_cons cause
  distinct := by
    refine List.nodup_cons.mpr ⟨fun hc => ?_, h.distinct⟩
    obtain ⟨before, after, hsplit⟩ := List.append_of_mem hc
    exact h.unseen before cause after hsplit
      ((infix_joined text cause).trans (prefix_intercalate _ before).isInfix)
  unseen before other after hsplit := by
    cases before with
    | nil =>
      obtain ⟨rfl, -⟩ := List.cons.inj hsplit
      exact hnew
    | cons first before =>
      obtain ⟨rfl, hrest⟩ := List.cons.inj hsplit
      exact h.unseen before other after hrest

theorem exists_tells (text : String) (causes : List String) : ∃ told,
    Tells text causes told ∧ appendCauses text causes = ": ".intercalate (text :: told) := by
  induction causes generalizing text with
  | nil => exact ⟨[], .nil text, rfl⟩
  | cons cause rest ih =>
    by_cases h : cause.toList <:+: text.toList
    · obtain ⟨told, ht, hr⟩ := ih text
      exact ⟨told, ht.skip cause, by rw [appendCauses_of_seen h, hr]⟩
    · obtain ⟨told, ht, hr⟩ := ih (text ++ ": " ++ cause)
      refine ⟨cause :: told, ht.cons h, ?_⟩
      rw [appendCauses_of_unseen h, hr]
      rfl

-- ---------------------------------------------------------------------------
-- Errors
-- ---------------------------------------------------------------------------

/-- A rendering has every cause in it, tells none that is in there already, goes on as the
chain of causes does, and takes no notice of one that comes again. -/
theorem render_causes (e : ProgramError) :
    e.message.toList <+: e.render.toList ∧
    (∀ cause ∈ e.sources, cause.toList <:+: e.render.toList) ∧
    (∃ told, Tells e.message e.sources told ∧ e.render = ": ".intercalate (e.message :: told)) ∧
    (∀ (cut : ProgramError) (k : Nat), cut.message = e.message → cut.sources = e.sources.take k →
      cut.render.toList <+: e.render.toList) ∧
    ∀ longer : ProgramError, longer.message = e.message →
      Repeats e.message e.sources longer.sources → longer.render = e.render := by
  refine ⟨prefix_appendCauses _ _, fun cause => infix_appendCauses, exists_tells _ _, ?_, ?_⟩
  · intro cut k hm hs
    have hsplit : e.render = appendCauses cut.render (e.sources.drop k) := by
      rw [ProgramError.render, ProgramError.render, hm, hs, ← appendCauses_append,
        List.take_append_drop]
    rw [hsplit]
    exact prefix_appendCauses _ _
  · intro longer hm hr
    rw [ProgramError.render, ProgramError.render, hm, appendCauses_of_repeats hr]

/-- The second cause stands across a joint. -/
theorem render_causes_across_joint :
    let e : ProgramError := .other "a" ["b", "a: b", "c"]
    let cut : ProgramError := .other "a" ["b", "a: b"]
    let longer : ProgramError := .other "a" ["b", "a: b", "b", "c"]
    e.render = "a: b: c" ∧ cut.sources = e.sources.take 2 ∧ cut.render.toList <+: e.render.toList ∧
      Repeats e.message e.sources longer.sources ∧ longer.render = e.render := by
  intro e cut longer
  obtain ⟨-, -, -, hcut, hlonger⟩ := render_causes e
  have hr : Repeats e.message e.sources longer.sources :=
    ⟨["b", "a: b"], "b", ["c"], rfl, rfl, .inr (by decide)⟩
  exact ⟨by decide +kernel, rfl, hcut cut 2 rfl rfl, hr, hlonger longer rfl hr⟩

end SimApprove
