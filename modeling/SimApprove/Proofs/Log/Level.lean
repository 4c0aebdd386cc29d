import SimApprove.Log.Event
import SimApprove.Proofs.Text.Numeral
import Mathlib.Data.List.Forall2

/-!
# Names of levels, and thresholds

A text names a level by its word, each letter in either case, or by its number;
`ofText?_eq_some_iff` says that these texts are read as the level, and no others. What
a severe threshold shows is the severe part of what a lax one shows
(`atLevel_atLevel`).
-/

namespace SimApprove.Log

namespace Level

variable {text : String} {l m : Level}

def Spells (text name : String) : Prop :=
  List.Forall₂ (fun c letter => c = letter ∨ c = letter.toLower) text.toList name.toList

def NamedBy (l : Level) (text : String) : Prop := Spells text l.name ∨ Text.Writes text l.number

-- ---------------------------------------------------------------------------
-- Letters
-- ---------------------------------------------------------------------------

theorem toNat_toUpper (c : Char) :
    c.toUpper.toNat = if 97 ≤ c.toNat ∧ c.toNat ≤ 122 then c.toNat - 32 else c.toNat := by
  by_cases h : 'a'.val ≤ c.val ∧ c.val ≤ 'z'.val
  · have hn : 97 ≤ c.toNat ∧ c.toNat ≤ 122 := h
    -- the way back to the capitals wraps around
    have hd : ('A'.val - 'a'.val).toNat = 2 ^ 32 - 32 := rfl
    rw [if_pos hn]
    delta Char.toUpper
    rw [dif_pos h]
    show (c.val + ('A'.val - 'a'.val)).toNat = c.toNat - 32
    rw [UInt32.toNat_add, hd]
    show (c.toNat + (2 ^ 32 - 32)) % 2 ^ 32 = c.toNat - 32
    omega
  · have hn : ¬ (97 ≤ c.toNat ∧ c.toNat ≤ 122) := h
    rw [if_neg hn]
    delta Char.toUpper
    rw [dif_neg h]

theorem toNat_toLower (c : Char) :
    c.toLower.toNat = if 65 ≤ c.toNat ∧ c.toNat ≤ 90 then c.toNat + 32 else c.toNat := by
  by_cases h : c.val ≥ 'A'.val ∧ c.val ≤ 'Z'.val
  · have hn : 65 ≤ c.toNat ∧ c.toNat ≤ 90 := h
    have hd : ('a'.val - 'A'.val).toNat = 32 := rfl
    rw [if_pos hn]
    delta Char.toLower
    rw [dif_pos h]
    show (c.val + ('a'.val - 'A'.val)).toNat = c.toNat + 32
    rw [UInt32.toNat_add, hd]
    show (c.toNat + 32) % 2 ^ 32 = c.toNat + 32
    omega
  · have hn : ¬ (65 ≤ c.toNat ∧ c.toNat ≤ 90) := h
    rw [if_neg hn]
    delta Char.toLower
    rw [dif_neg h]

def IsCapital (c : Char) : Prop := 65 ≤ c.toNat ∧ c.toNat ≤ 90

theorem toUpper_eq_iff {c letter : Char} (h : IsCapital letter) :
    c.toUpper = letter ↔ c = letter ∨ c = letter.toLower := by
  have hlower : letter.toLower.toNat = letter.toNat + 32 := (toNat_toLower letter).trans (if_pos h)
  obtain ⟨hl, hh⟩ := h
  rw [← Char.toNat_inj, ← Char.toNat_inj, ← Char.toNat_inj, toNat_toUpper, hlower]
  split <;> omega

theorem map_toUpper_eq_iff {cs letters : List Char} (h : ∀ c ∈ letters, IsCapital c) :
    cs.map Char.toUpper = letters ↔
      List.Forall₂ (fun c letter => c = letter ∨ c = letter.toLower) cs letters := by
  induction letters generalizing cs with
  | nil => cases cs <;> simp
  | cons letter letters ih =>
    cases cs with
    | nil => simp
    | cons c cs =>
      rw [List.map_cons, List.cons.injEq, List.forall₂_cons,
        toUpper_eq_iff (h _ List.mem_cons_self), ih fun c hc => h c (List.mem_cons_of_mem _ hc)]

theorem isCapital_of_mem_name {c : Char} (h : c ∈ l.name.toList) : IsCapital c := by
  have hall : (l.name.toList.all fun c => 65 ≤ c.toNat && c.toNat ≤ 90) = true := by
    cases l <;> rfl
  simpa [IsCapital] using List.all_eq_true.mp hall c h

theorem spells_iff : Spells text l.name ↔ l.name.toList = text.toList.map Char.toUpper := by
  rw [Spells, ← map_toUpper_eq_iff fun c hc => isCapital_of_mem_name hc, eq_comm]

-- ---------------------------------------------------------------------------
-- Reading
-- ---------------------------------------------------------------------------

theorem readUnsigned_of_spells (h : Spells text l.name) : Text.readUnsigned text = none := by
  cases hr : Text.readUnsigned text with
  | none => rfl
  | some n =>
    obtain ⟨c, cs, htext, hc⟩ := (Text.readUnsigned_eq_some_iff.mp hr).exists_cons
    have hu : c.toUpper ∈ l.name.toList := by
      rw [spells_iff.mp h, htext]
      exact List.mem_cons_self
    obtain ⟨hl, -⟩ := isCapital_of_mem_name hu
    rw [toNat_toUpper] at hl
    rcases hc with hc | rfl
    · have hd : 48 ≤ c.toNat ∧ c.toNat ≤ 57 := Char.isDigit_iff_toNat.mp hc
      split at hl <;> omega
    · exact absurd hl (by decide)

theorem ofText?_of_spells (h : Spells text l.name) : ofText? text = some l := by
  simp only [ofText?, readUnsigned_of_spells h, ← spells_iff.mp h]
  cases l <;> decide

theorem ofText?_of_writes (h : Text.Writes text l.number) : ofText? text = some l := by
  have hn : (UInt64.ofNat l.number).toNat = l.number := by cases l <;> rfl
  rw [← hn] at h
  simp only [ofText?, Text.readUnsigned_eq_some_iff.mpr h, hn]
  cases l <;> rfl

theorem ofText?_eq_some_iff : ofText? text = some l ↔ l.NamedBy text := by
  constructor
  · intro h
    unfold ofText? at h
    split at h
    · rename_i n hr
      have hl : l.number = n.toNat := by simpa using List.find?_some h
      exact .inr (hl ▸ Text.readUnsigned_eq_some_iff.mp hr)
    · have hl : l.name.toList = text.toList.map Char.toUpper := by simpa using List.find?_some h
      exact .inl (spells_iff.mpr hl)
  · rintro (h | h)
    · exact ofText?_of_spells h
    · exact ofText?_of_writes h

theorem exists_namedBy_iff : (∃ l : Level, l.NamedBy text) ↔ (ofText? text).isSome = true := by
  simp only [← ofText?_eq_some_iff, Option.isSome_iff_exists]

end Level

-- ---------------------------------------------------------------------------
-- Thresholds
-- ---------------------------------------------------------------------------

theorem atLevel_atLevel {l m : Level} (h : l.number ≤ m.number) (events : List Event) :
    atLevel l (atLevel m events) = atLevel l events := by
  rw [atLevel, atLevel, List.filter_filter]
  refine List.filter_congr fun e _ => ?_
  simp only [Level.passes, Bool.and_eq_left_iff_imp, decide_eq_true_eq]
  omega

end SimApprove.Log
