import SimApprove.Text.Blank
import Mathlib.Data.List.DropRight
import Mathlib.Data.List.Infix
import Mathlib.Data.List.TakeWhile

/-!
# Texts without blanks at their ends

`Trimmed` says what trimming leaves: the part of a text between the blanks around it.
`trimmed_trimChars` ties the code to it, and `Trimmed.infix_iff` says that no word gets
lost, whatever blanks stand inside it.
-/

namespace SimApprove.Text

variable {cs t piece blanks : List Char}

-- ---------------------------------------------------------------------------
-- Blank texts
-- ---------------------------------------------------------------------------

theorem trimEnd_eq_rdropWhile (cs : List Char) : trimEnd cs = cs.rdropWhile isBlank := rfl

theorem trimChars_eq_nil_iff : trimChars cs = [] ↔ ∀ c ∈ cs, isBlank c = true := by
  rw [trimChars, trimEnd_eq_rdropWhile, List.rdropWhile_eq_nil_iff]
  refine ⟨fun h => List.dropWhile_eq_nil_iff.mp ?_, fun h c hc => ?_⟩
  · -- what is left would start with a character that is not blank
    cases hd : cs.dropWhile isBlank with
    | nil => rfl
    | cons c rest =>
      have hc : isBlank c = true := h c (by rw [trimStart, hd]; exact List.mem_cons_self)
      have hn := List.head?_dropWhile_not isBlank cs
      rw [hd, List.head?_cons] at hn
      simp only [hc] at hn
      cases hn
  · exact h c ((List.dropWhile_suffix isBlank).subset hc)

theorem trim_eq_empty_iff {s : String} : trim s = "" ↔ ∀ c ∈ s.toList, isBlank c = true := by
  rw [← trimChars_eq_nil_iff, ← toList_trim, ← String.toList_inj]
  rfl

-- ---------------------------------------------------------------------------
-- What trimming leaves
-- ---------------------------------------------------------------------------

structure Trimmed (cs t : List Char) : Prop where
  around : ∃ before after, cs = before ++ t ++ after ∧
    (∀ c ∈ before, isBlank c = true) ∧ ∀ c ∈ after, isBlank c = true
  head : ∀ c ∈ t.head?, isBlank c = false
  last : ∀ c ∈ t.getLast?, isBlank c = false

theorem head?_trimStart (cs : List Char) : ∀ c ∈ (trimStart cs).head?, isBlank c = false := by
  intro c hc
  have hn := List.head?_dropWhile_not isBlank cs
  rw [Option.mem_def, trimStart] at hc
  simpa [hc] using hn

theorem getLast?_trimEnd (cs : List Char) : ∀ c ∈ (trimEnd cs).getLast?, isBlank c = false := by
  intro c hc
  obtain ⟨hne, rfl⟩ := List.mem_getLast?_eq_getLast hc
  rw [← Bool.not_eq_true]
  exact List.rdropWhile_last_not isBlank cs hne

theorem head?_trimEnd (cs : List Char) : ∀ c ∈ (trimEnd cs).head?, c ∈ cs.head? := by
  intro c hc
  obtain ⟨rest, hr⟩ := List.rdropWhile_prefix isBlank cs
  rw [← hr, List.head?_append]
  rw [Option.mem_def, trimEnd_eq_rdropWhile] at hc
  simp [hc]

theorem trimmed_self (hhead : ∀ c ∈ cs.head?, isBlank c = false)
    (hlast : ∀ c ∈ cs.getLast?, isBlank c = false) : Trimmed cs cs :=
  ⟨⟨[], [], by simp⟩, hhead, hlast⟩

theorem trimmed_of_any (hhead : cs.head?.any isBlank = false)
    (hlast : cs.getLast?.any isBlank = false) : Trimmed cs cs := by
  refine trimmed_self (fun c hc => ?_) (fun c hc => ?_)
  · rwa [Option.mem_def.mp hc] at hhead
  · rwa [Option.mem_def.mp hc] at hlast

theorem Trimmed.trimChars_eq (h : Trimmed cs cs) : trimChars cs = cs := by
  have hstart : trimStart cs = cs := by
    cases cs with
    | nil => rfl
    | cons c rest => simp [trimStart, h.head c rfl]
  rw [trimChars, hstart, trimEnd_eq_rdropWhile, List.rdropWhile_eq_self_iff]
  intro hne
  simp [h.last _ (List.getLast_mem_getLast? hne)]

theorem trim_append_eq_self {s word : String} (hs : ∀ c ∈ s.toList, isBlank c = false)
    (hw : Trimmed word.toList word.toList) (hne : word ≠ "") : trim (s ++ word) = s ++ word := by
  have hnil : word.toList ≠ [] := fun h => hne (String.toList_inj.mp h)
  have hself : Trimmed (s ++ word).toList (s ++ word).toList := by
    rw [String.toList_append]
    refine trimmed_self (fun c hc => ?_) (fun c hc => hw.last c ?_)
    · cases h : s.toList with
      | nil =>
        rw [h] at hc
        exact hw.head c hc
      | cons d rest =>
        rw [h] at hc
        cases hc
        exact hs c (h ▸ List.mem_cons_self)
    · rwa [List.getLast?_append_of_ne_nil _ hnil] at hc
  rw [trim, hself.trimChars_eq, String.ofList_toList]

theorem trimmed_trimChars (cs : List Char) : Trimmed cs (trimChars cs) where
  around := by
    refine ⟨cs.takeWhile isBlank, (trimStart cs).rtakeWhile isBlank, ?_, ?_, ?_⟩
    · rw [trimChars, trimEnd_eq_rdropWhile, List.append_assoc,
        List.rdropWhile_append_rtakeWhile, trimStart, List.takeWhile_append_dropWhile]
    · exact fun c hc => List.mem_takeWhile_imp hc
    · exact fun c hc => List.mem_rtakeWhile_imp hc
  head c hc := head?_trimStart cs c (head?_trimEnd _ c hc)
  last := getLast?_trimEnd (trimStart cs)

-- ---------------------------------------------------------------------------
-- Words within
-- ---------------------------------------------------------------------------

theorem infix_blanks_append_iff (hb : ∀ c ∈ blanks, isBlank c = true)
    (hp : ∀ c ∈ piece.head?, isBlank c = false) : piece <:+: blanks ++ t ↔ piece <:+: t := by
  induction blanks with
  | nil => rfl
  | cons b blanks ih =>
    obtain ⟨hblank, hmore⟩ := List.forall_mem_cons.mp hb
    rw [List.cons_append, List.infix_cons_iff, ih hmore, or_iff_right_iff_imp]
    intro h
    cases piece with
    | nil => exact List.nil_infix
    | cons c piece =>
      obtain ⟨rfl, -⟩ := List.cons_prefix_cons.mp h
      rw [hp c rfl] at hblank
      cases hblank

theorem Trimmed.infix_iff (h : Trimmed cs t) (hp : Trimmed piece piece) :
    piece <:+: t ↔ piece <:+: cs := by
  obtain ⟨before, after, rfl, hbefore, hafter⟩ := h.around
  have hafter : ∀ c ∈ after.reverse, isBlank c = true := fun c hc =>
    hafter c (List.mem_reverse.mp hc)
  have hlast : ∀ c ∈ piece.reverse.head?, isBlank c = false := by
    rw [List.head?_reverse]
    exact hp.last
  calc piece <:+: t ↔ piece.reverse <:+: t.reverse := List.reverse_infix.symm
    _ ↔ piece.reverse <:+: after.reverse ++ t.reverse :=
      (infix_blanks_append_iff hafter hlast).symm
    _ ↔ piece.reverse <:+: (t ++ after).reverse := by rw [List.reverse_append]
    _ ↔ piece <:+: t ++ after := List.reverse_infix
    _ ↔ piece <:+: before ++ (t ++ after) := (infix_blanks_append_iff hbefore hp.head).symm
    _ ↔ piece <:+: before ++ t ++ after := by rw [List.append_assoc]

end SimApprove.Text
