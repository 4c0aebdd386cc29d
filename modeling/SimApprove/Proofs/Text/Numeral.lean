import SimApprove.Text.Numeral

/-!
# Numbers that texts write

`Writes text n`: the text is the number `n` in decimal digits, perhaps behind a plus
sign. `readUnsigned_eq_some_iff`: that is what is read, as far as it fits in 64 bits.
-/

namespace SimApprove.Text

variable {text : String} {cs : List Char}

/-- One or more digits of this value, with or without a plus sign. -/
def Writes (text : String) (n : Nat) : Prop :=
  ∃ digits : List Char, digits ≠ [] ∧ (∀ c ∈ digits, c.isDigit = true) ∧
    (text.toList = digits ∨ text.toList = '+' :: digits) ∧ Nat.ofDigitChars 10 digits 0 = n

theorem digitsValue_cons (sofar : Nat) (c : Char) (cs : List Char) :
    digitsValue sofar (c :: cs) = digitsValue (sofar * 10 + (c.toNat - '0'.toNat)) cs := by
  -- unfolding by equations would count down from the code of a zero
  delta digitsValue
  exact Eq.refl _

theorem digitsValue_eq (sofar : Nat) (cs : List Char) :
    digitsValue sofar cs = Nat.ofDigitChars 10 cs sofar := by
  induction cs generalizing sofar with
  | nil => rw [Nat.ofDigitChars_nil]; rfl
  | cons c cs ih => rw [digitsValue_cons, ih, Nat.ofDigitChars_cons, Nat.mul_comm]

theorem isNumeral_iff : isNumeral cs = true ↔ cs ≠ [] ∧ ∀ c ∈ cs, c.isDigit = true := by
  simp [isNumeral]

theorem dropPlus_of_digits (h : ∀ c ∈ cs, c.isDigit = true) : dropPlus cs = cs := by
  unfold dropPlus
  split
  · exact absurd (h '+' List.mem_cons_self) (by decide)
  · rfl

theorem eq_or_eq_of_dropPlus (cs : List Char) : cs = dropPlus cs ∨ cs = '+' :: dropPlus cs := by
  unfold dropPlus
  split
  · exact .inr rfl
  · exact .inl rfl

theorem writes_iff {n : Nat} : Writes text n ↔
    isNumeral (dropPlus text.toList) = true ∧ digitsValue 0 (dropPlus text.toList) = n := by
  rw [isNumeral_iff, digitsValue_eq]
  constructor
  · rintro ⟨digits, hne, hd, htext, hn⟩
    have hdrop : dropPlus text.toList = digits := by
      rcases htext with h | h <;> rw [h]
      · exact dropPlus_of_digits hd
      · rfl
    rw [hdrop]
    exact ⟨⟨hne, hd⟩, hn⟩
  · rintro ⟨⟨hne, hd⟩, hn⟩
    exact ⟨_, hne, hd, eq_or_eq_of_dropPlus _, hn⟩

theorem Writes.exists_cons {n : Nat} (h : Writes text n) :
    ∃ c cs, text.toList = c :: cs ∧ (c.isDigit = true ∨ c = '+') := by
  obtain ⟨digits, hne, hd, htext | htext, -⟩ := h
  · obtain ⟨c, cs, rfl⟩ := List.exists_cons_of_ne_nil hne
    exact ⟨c, cs, htext, .inl (hd c List.mem_cons_self)⟩
  · exact ⟨'+', digits, htext, .inr rfl⟩

theorem readUnsigned_eq_some_iff {n : UInt64} :
    readUnsigned text = some n ↔ Writes text n.toNat := by
  rw [writes_iff]
  simp only [readUnsigned, Option.ite_none_right_eq_some, Bool.and_eq_true, decide_eq_true_eq,
    Option.some.injEq]
  constructor
  · rintro ⟨⟨hnum, hlt⟩, rfl⟩
    exact ⟨hnum, (UInt64.toNat_ofNat_of_lt' hlt).symm⟩
  · rintro ⟨hnum, hval⟩
    rw [hval]
    exact ⟨⟨hnum, n.toNat_lt⟩, UInt64.ofNat_toNat⟩

end SimApprove.Text
