import SimApprove.Text.Measure
import Mathlib.Data.List.Infix

/-!
# Starts and pieces of a text

`cut` keeps the longest start of a text that fits into a number of bytes
(`longestStart_cut`), and of a text that does not fit it leaves no room for another
character (`lt_byteSize_cut`). `contains` finds a text wherever it stands in another
(`contains_iff`), and it is in the start that is kept if it ends within the limit
(`infix_cut_iff`).
-/

namespace SimApprove.Text

variable {limit : Nat} {cs ds piece : List Char}

theorem byteSize_eq (cs : List Char) : byteSize cs = (String.ofList cs).utf8ByteSize := by
  induction cs with
  | nil => rfl
  | cons c cs ih => simp [byteSize, ih]

theorem byteSize_toList (s : String) : byteSize s.toList = s.utf8ByteSize := by
  rw [byteSize_eq, String.ofList_toList]

-- ---------------------------------------------------------------------------
-- Starts
-- ---------------------------------------------------------------------------

/-- The longest start of a text that takes at most so many bytes. -/
structure LongestStart (limit : Nat) (start cs : List Char) : Prop where
  isStart : start <+: cs
  fits : byteSize start ≤ limit
  longest : ∀ other, other <+: cs → byteSize other ≤ limit → other <+: start

theorem prefix_cut (h : ds <+: cs) (hs : byteSize ds ≤ limit) : ds <+: cut limit cs := by
  induction cs generalizing limit ds with
  | nil => simpa [cut] using h
  | cons c cs ih =>
    cases ds with
    | nil => exact List.nil_prefix
    | cons d ds =>
      obtain ⟨rfl, hrest⟩ := List.cons_prefix_cons.mp h
      rw [byteSize] at hs
      rw [cut, if_pos (by omega)]
      exact List.cons_prefix_cons.mpr ⟨rfl, ih hrest (by omega)⟩

theorem longestStart_cut (limit : Nat) (cs : List Char) : LongestStart limit (cut limit cs) cs where
  isStart := by
    obtain ⟨rest, hr⟩ := cut_append_drop limit cs
    exact ⟨rest, hr.symm⟩
  fits := byteSize_cut_le limit cs
  longest _ := prefix_cut

theorem cut_eq_self (h : byteSize cs ≤ limit) : cut limit cs = cs :=
  (longestStart_cut limit cs).isStart.eq_of_length_le (prefix_cut (List.prefix_refl cs) h).length_le

/-- The first character that is left out would not fit, and it takes at most four bytes. -/
theorem lt_byteSize_cut (h : limit < byteSize cs) : limit < byteSize (cut limit cs) + 4 := by
  induction cs generalizing limit with
  | nil => simp [byteSize] at h
  | cons c cs ih =>
    rw [byteSize] at h
    rw [cut]
    split
    · have hrest : limit - c.utf8Size < byteSize (cut (limit - c.utf8Size) cs) + 4 := ih (by omega)
      rw [byteSize]
      omega
    · have := Char.utf8Size_le_four c
      rw [byteSize]
      omega

theorem LongestStart.unique (h : LongestStart limit ds cs) (h' : LongestStart limit piece cs) :
    ds = piece :=
  (h'.longest ds h.isStart h.fits).eq_of_length_le (h.longest piece h'.isStart h'.fits).length_le

theorem longestStart_append {c : Char} (hfits : byteSize ds ≤ limit)
    (hnext : limit < byteSize ds + c.utf8Size) (rest : List Char) :
    LongestStart limit ds (ds ++ c :: rest) where
  isStart := List.prefix_append _ _
  fits := hfits
  longest other ho hsize := by
    rcases List.prefix_or_prefix_of_prefix ho (List.prefix_append ds (c :: rest))
      with h | ⟨more, rfl⟩
    · exact h
    · cases more with
      | nil => simp
      | cons d more =>
        obtain ⟨rfl, -⟩ := List.cons_prefix_cons.mp ((List.prefix_append_right_inj ds).mp ho)
        simp only [byteSize_append, byteSize] at hsize
        omega

theorem cut_append (hsize : byteSize ds = limit) (rest : List Char) :
    cut limit (ds ++ rest) = ds := by
  cases rest with
  | nil => rw [List.append_nil, cut_eq_self hsize.le]
  | cons c rest =>
    have := Char.utf8Size_pos c
    exact (longestStart_cut _ _).unique (longestStart_append hsize.le (by omega) rest)

theorem byteSize_replicate (n : Nat) (c : Char) :
    byteSize (List.replicate n c) = n * c.utf8Size := by
  induction n with
  | zero => simp [byteSize]
  | succ n ih => rw [List.replicate_succ, byteSize, ih, Nat.succ_mul, Nat.add_comm]

-- ---------------------------------------------------------------------------
-- Pieces
-- ---------------------------------------------------------------------------

theorem occursIn_iff : occursIn piece cs = true ↔ piece <:+: cs := by
  induction cs with
  | nil => simp [occursIn]
  | cons c cs ih =>
    rw [occursIn, Bool.or_eq_true, List.isPrefixOf_iff_prefix, ih, List.infix_cons_iff]

theorem contains_iff {text piece : String} :
    contains text piece = true ↔ piece.toList <:+: text.toList :=
  occursIn_iff

theorem infix_append_cons_iff {c : Char} (hc : c ∉ piece) :
    piece <:+: cs ++ c :: ds ↔ piece <:+: cs ∨ piece <:+: ds := by
  constructor
  · intro h
    rcases List.infix_append_iff.mp h with h | h | ⟨front, back, rfl, hfront, hback⟩
    · exact .inl h
    · rcases List.infix_cons_iff.mp h with h | h
      · cases piece with
        | nil => exact .inl List.nil_infix
        | cons d piece =>
          obtain ⟨rfl, -⟩ := List.cons_prefix_cons.mp h
          exact absurd List.mem_cons_self hc
      · exact .inr h
    · cases back with
      | nil =>
        rw [List.append_nil]
        exact .inl hfront.isInfix
      | cons d back =>
        obtain ⟨rfl, -⟩ := List.cons_prefix_cons.mp hback
        exact absurd (List.mem_append_right _ List.mem_cons_self) hc
  · rintro (h | h)
    · exact h.trans (List.prefix_append _ _).isInfix
    · exact h.trans ((List.suffix_cons _ _).trans (List.suffix_append _ _)).isInfix

def EndsWithin (limit : Nat) (piece cs : List Char) : Prop :=
  ∃ before after, cs = before ++ piece ++ after ∧ byteSize (before ++ piece) ≤ limit

theorem EndsWithin.isInfix (h : EndsWithin limit piece cs) : piece <:+: cs := by
  obtain ⟨before, after, hcs, -⟩ := h
  exact ⟨before, after, hcs.symm⟩

theorem infix_cut_iff : piece <:+: cut limit cs ↔ EndsWithin limit piece cs := by
  constructor
  · rintro ⟨before, after, h⟩
    obtain ⟨rest, hr⟩ := cut_append_drop limit cs
    have hsize := byteSize_cut_le limit cs
    rw [← h, byteSize_append] at hsize
    rw [← h, List.append_assoc] at hr
    exact ⟨before, after ++ rest, hr, by omega⟩
  · rintro ⟨before, after, rfl, hsize⟩
    have hp : before ++ piece <+: cut limit (before ++ piece ++ after) :=
      prefix_cut (List.prefix_append _ _) hsize
    exact (List.suffix_append before piece).isInfix.trans hp.isInfix

end SimApprove.Text
