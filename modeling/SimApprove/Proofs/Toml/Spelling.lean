import Mathlib.Data.List.TakeWhile
import Mathlib.Tactic.SplitIfs
import SimApprove.Proofs.Text.Numeral
import SimApprove.Toml.Lexeme
import SimApprove.Toml.Scalar

/-!
# Texts between double quotes

`Spelling text cs`: the characters `cs` are one of the ways to write a text between double
quotes on a line. Quotes and backslashes take a backslash, and any character of the first
plane may be written by its code, as control characters have to be. However it is written,
the text is read back (`Spelling.read?`) and the lexer finds its end (`lexFrom_quoted`).
-/

namespace SimApprove.Toml

-- ---------------------------------------------------------------------------
-- Spellings
-- ---------------------------------------------------------------------------

def isPlainChar (c : Char) : Bool := isTextChar c && c ≠ '"' && c ≠ '\\'

inductive CharSpelling : Char → List Char → Prop
  | plain {c} (h : isPlainChar c = true) : CharSpelling c [c]
  | quote : CharSpelling '"' ['\\', '"']
  | backslash : CharSpelling '\\' ['\\', '\\']
  | code {c d₁ d₂ d₃ d₄ v₁ v₂ v₃ v₄} (h₁ : Text.hexValue? d₁ = some v₁)
      (h₂ : Text.hexValue? d₂ = some v₂) (h₃ : Text.hexValue? d₃ = some v₃)
      (h₄ : Text.hexValue? d₄ = some v₄)
      (hc : ((v₁ * 16 + v₂) * 16 + v₃) * 16 + v₄ = c.toNat) :
      CharSpelling c ['\\', 'u', d₁, d₂, d₃, d₄]

inductive Spelling : List Char → List Char → Prop
  | nil : Spelling [] []
  | cons {c piece text cs} (hc : CharSpelling c piece) (h : Spelling text cs) :
      Spelling (c :: text) (piece ++ cs)

def isControl (c : Char) : Bool := c.toNat < 0x20 || (0x7F ≤ c.toNat && c.toNat < 0xA0)

/-- Escapes are used for control characters and where there is no way around them. -/
def escape (c : Char) : List Char :=
  if c = '"' ∨ c = '\\' then ['\\', c]
  else if isControl c then
    ['\\', 'u', '0', '0', Nat.digitChar (c.toNat / 16), Nat.digitChar (c.toNat % 16)]
  else [c]

theorem charSpelling_escape (c : Char) : CharSpelling c (escape c) := by
  have hdigit : ∀ v < 16, Text.hexValue? (Nat.digitChar v) = some v := by decide
  have hzero : Text.hexValue? '0' = some 0 := by decide
  unfold escape
  split_ifs with hmark hcontrol
  · rcases hmark with rfl | rfl
    · exact .quote
    · exact .backslash
  · have hlt : c.toNat < 0xA0 := by
      simp only [isControl, Bool.or_eq_true, Bool.and_eq_true, decide_eq_true_eq] at hcontrol
      omega
    exact .code hzero hzero (hdigit _ (by omega)) (hdigit _ (by omega)) (by omega)
  · rw [not_or] at hmark
    refine .plain ?_
    simp only [isControl, Bool.or_eq_true, Bool.and_eq_true, decide_eq_true_eq, not_or] at hcontrol
    simp only [isPlainChar, isTextChar, Bool.and_eq_true, Bool.or_eq_true, decide_eq_true_eq]
    exact ⟨⟨.inr (by omega), hmark.1⟩, hmark.2⟩

theorem spelling_escape (text : List Char) : Spelling text (text.flatMap escape) := by
  induction text with
  | nil => exact .nil
  | cons c text ih => exact .cons (charSpelling_escape c) ih

-- ---------------------------------------------------------------------------
-- Reading
-- ---------------------------------------------------------------------------

def lineQuoting : Quoting := ⟨.basic, false⟩

namespace Reading

variable {q : Quoting} {r next : Reading} {c : Char} {added : List Char}

theorem run_cons (h : r.step q c = some (added, next)) (cs : List Char) :
    run q r (c :: cs) = (run q next cs).map (added ++ ·) := by
  simp only [run, h, bind, Option.bind]

theorem run_cons_within (h : r.step q c = some ([], next)) (cs : List Char) :
    run q r (c :: cs) = run q next cs := by
  rw [run_cons h]
  exact Option.map_id'

theorem step_code {more value digit : Nat} {c : Char} (h : Text.hexValue? c = some digit) :
    step q (.code (more + 2) value) c = some ([], .code (more + 1) (value * 16 + digit)) := by
  simp [step, h]

theorem step_code_last {value digit : Nat} {c d : Char} (h : Text.hexValue? d = some digit)
    (hc : value * 16 + digit = c.toNat) : step q (.code 1 value) d = some ([c], .text) := by
  have hvalid : c.toNat.isValidChar := c.valid
  simp [step, h, hc, charOfCode?, hvalid, Char.ofNat_toNat]

end Reading

theorem CharSpelling.run_append {c : Char} {piece : List Char} (h : CharSpelling c piece)
    (rest : List Char) : Reading.run lineQuoting .text (piece ++ rest) =
      (Reading.run lineQuoting .text rest).map (c :: ·) := by
  have hslash : Reading.step lineQuoting .text '\\' = some ([], .escape) := by decide
  cases h with
  | plain hp =>
    simp only [isPlainChar, Bool.and_eq_true, decide_eq_true_eq, ne_eq] at hp
    obtain ⟨⟨htext, -⟩, hback⟩ := hp
    have hstep : Reading.step lineQuoting .text c = some ([c], .text) := by
      simp [Reading.step, Reading.plain, lineQuoting, hback, htext]
    exact Reading.run_cons hstep rest
  | quote =>
    have hq : Reading.step lineQuoting .escape '"' = some (['"'], .text) := by decide
    rw [List.cons_append, Reading.run_cons_within hslash]
    exact Reading.run_cons hq rest
  | backslash =>
    have hb : Reading.step lineQuoting .escape '\\' = some (['\\'], .text) := by decide
    rw [List.cons_append, Reading.run_cons_within hslash]
    exact Reading.run_cons hb rest
  | code h₁ h₂ h₃ h₄ hc =>
    have hu : Reading.step lineQuoting .escape 'u' = some ([], .code 4 0) := by decide
    simp only [List.cons_append, List.nil_append]
    rw [Reading.run_cons_within hslash, Reading.run_cons_within hu,
      Reading.run_cons_within (Reading.step_code h₁),
      Reading.run_cons_within (Reading.step_code h₂),
      Reading.run_cons_within (Reading.step_code h₃)]
    exact Reading.run_cons (Reading.step_code_last h₄ (by simpa using hc)) rest

theorem Spelling.run_eq {text cs : List Char} (h : Spelling text cs) :
    Reading.run lineQuoting .text cs = some text := by
  induction h with
  | nil => rfl
  | cons hc _ ih => rw [hc.run_append, ih, Option.map_some]

theorem Spelling.read? {text : String} {cs : List Char} (h : Spelling text.toList cs) :
    lineQuoting.read? cs = some text := by
  have hrun : Reading.run lineQuoting .text cs = some text.toList := h.run_eq
  simp only [Quoting.read?, lineQuoting, Bool.false_eq_true, if_false]
  rw [lineQuoting] at hrun
  rw [hrun, Option.map_some, String.ofList_toList]

-- ---------------------------------------------------------------------------
-- The closing quote
-- ---------------------------------------------------------------------------

theorem lexFrom_cons {m next : Mode} {c : Char} {done : List Lexeme}
    (h : m.step c = some (done, next)) (cs : List Char) :
    lexFrom m (c :: cs) = (lexFrom next cs).map (done ++ ·) := by
  simp only [lexFrom, h, bind, Option.bind]

theorem lexFrom_cons_within {m next : Mode} {c : Char} (h : m.step c = some ([], next))
    (cs : List Char) : lexFrom m (c :: cs) = lexFrom next cs := by
  rw [lexFrom_cons h]
  exact Option.map_id'

theorem step_line {raw : List Char} {c : Char} (hn : c ≠ '\n') (hq : c ≠ '"') (hb : c ≠ '\\') :
    Mode.step (.line .basic raw false) c = some ([], .line .basic (c :: raw) false) := by
  simp [Mode.step, Mode.inLine, Quote.mark, Quote.escapes, hn, hq, hb]

theorem step_line_slash (raw : List Char) :
    Mode.step (.line .basic raw false) '\\' = some ([], .line .basic ('\\' :: raw) true) := rfl

theorem step_line_escaped {raw : List Char} {c : Char} (hn : c ≠ '\n') :
    Mode.step (.line .basic raw true) c = some ([], .line .basic (c :: raw) false) := by
  simp [Mode.step, Mode.inLine, hn]

theorem ne_of_hexValue? {c d : Char} {v : Nat} (h : Text.hexValue? d = some v)
    (hc : Text.hexValue? c = none) : d ≠ c := by
  rintro rfl
  rw [hc] at h
  cases h

theorem step_line_hex {raw : List Char} {d : Char} {v : Nat} (h : Text.hexValue? d = some v) :
    Mode.step (.line .basic raw false) d = some ([], .line .basic (d :: raw) false) :=
  step_line (ne_of_hexValue? h (by decide)) (ne_of_hexValue? h (by decide))
    (ne_of_hexValue? h (by decide))

theorem CharSpelling.lexFrom_append {c : Char} {piece : List Char} (h : CharSpelling c piece)
    (raw rest : List Char) : lexFrom (.line .basic raw false) (piece ++ rest) =
      lexFrom (.line .basic (piece.reverse ++ raw) false) rest := by
  cases h with
  | plain hp =>
    simp only [isPlainChar, Bool.and_eq_true, decide_eq_true_eq, ne_eq] at hp
    obtain ⟨⟨htext, hq⟩, hb⟩ := hp
    refine lexFrom_cons_within (step_line ?_ hq hb) rest
    rintro rfl
    exact absurd htext (by decide)
  | quote | backslash =>
    rw [List.cons_append, lexFrom_cons_within (step_line_slash raw)]
    exact lexFrom_cons_within (step_line_escaped (by decide)) rest
  | code h₁ h₂ h₃ h₄ =>
    simp only [List.cons_append, List.nil_append]
    rw [lexFrom_cons_within (step_line_slash raw),
      lexFrom_cons_within (step_line_escaped (by decide)), lexFrom_cons_within (step_line_hex h₁),
      lexFrom_cons_within (step_line_hex h₂), lexFrom_cons_within (step_line_hex h₃)]
    exact lexFrom_cons_within (step_line_hex h₄) rest

theorem Spelling.lexFrom_append {text cs : List Char} (h : Spelling text cs)
    (raw rest : List Char) : lexFrom (.line .basic raw false) (cs ++ rest) =
      lexFrom (.line .basic (cs.reverse ++ raw) false) rest := by
  induction h generalizing raw with
  | nil => rfl
  | cons hc _ ih =>
    rw [List.append_assoc, hc.lexFrom_append, ih, List.reverse_append, List.append_assoc]

theorem CharSpelling.exists_cons {c : Char} {piece : List Char} (h : CharSpelling c piece) :
    ∃ d ds, piece = d :: ds ∧ d ≠ '"' := by
  cases h with
  | plain hp => exact ⟨c, [], rfl, by rintro rfl; exact absurd hp (by decide)⟩
  | quote | backslash | code => exact ⟨_, _, rfl, by decide⟩

theorem Spelling.head_ne {text cs : List Char} (h : Spelling text cs) :
    ∀ c ∈ cs.head?, c ≠ '"' := by
  cases h with
  | nil => exact fun _ hc => nomatch hc
  | cons hc =>
    obtain ⟨d, ds, rfl, hd⟩ := hc.exists_cons
    intro c hhead
    obtain rfl : d = c := Option.some.inj hhead
    exact hd

theorem lexFrom_after {m : Mode} {c : Char} {done : Lexeme}
    (h : m.step c = some (Mode.after done c)) (cs : List Char) :
    lexFrom m (c :: cs) = (lexFrom .plain (c :: cs)).map (done :: ·) := by
  have hplain : Mode.plain.step c = some (Mode.begin c) := rfl
  rw [lexFrom_cons h, lexFrom_cons hplain, Option.map_map]
  rfl

/-- After the quote at its end, a text is over unless a third quote makes it one of several
lines. -/
theorem Spelling.lexFrom_quoted {text : String} {cs rest : List Char}
    (h : Spelling text.toList cs) (hrest : ∀ c ∈ rest.head?, c ≠ '"') :
    lexFrom .plain ('"' :: (cs ++ '"' :: rest)) =
      (lexFrom .plain rest).map (.quoted (some text) false :: ·) := by
  have hraw : Lexeme.ofRaw .basic false cs.reverse = .quoted (some text) false := by
    rw [Lexeme.ofRaw, List.reverse_reverse]
    exact congrArg (Lexeme.quoted · false) h.read?
  have hopen : Mode.plain.step '"' = some ([], .opening .basic false) := rfl
  rw [lexFrom_cons_within hopen]
  cases cs with
  | nil =>
    have hclose : (Mode.opening .basic false).step '"' = some ([], .opening .basic true) := rfl
    rw [List.nil_append, lexFrom_cons_within hclose]
    cases rest with
    | nil =>
      rw [lexFrom, Mode.finish]
      exact congrArg (fun lexeme => some [lexeme]) hraw
    | cons c rest =>
      have hc : c ≠ Quote.basic.mark := hrest c rfl
      have hafter : (Mode.opening .basic true).step c =
          some (Mode.after (.quoted (some text) false) c) := by
        rw [Mode.step, if_neg hc, ← hraw]
        rfl
      exact lexFrom_after hafter rest
  | cons d ds =>
    have hd : d ≠ Quote.basic.mark := h.head_ne d rfl
    -- the first character finds the same as the others do
    have hline : lexFrom (.opening .basic false) (d :: (ds ++ '"' :: rest)) =
        lexFrom (.line .basic [] false) ((d :: ds) ++ '"' :: rest) := by
      simp only [List.cons_append, lexFrom, Mode.step, if_neg hd]
    have hclose : (Mode.line .basic ((d :: ds).reverse ++ []) false).step '"' =
        some ([.quoted (some text) false], .plain) := by
      rw [List.append_nil, ← hraw]
      rfl
    rw [List.cons_append, hline, h.lexFrom_append, lexFrom_cons hclose]
    rfl

theorem CharSpelling.notMem_return {c : Char} {piece : List Char} (h : CharSpelling c piece) :
    '\r' ∉ piece := by
  have hnone : Text.hexValue? '\r' = none := by decide
  cases h with
  | plain hp =>
    intro hm
    obtain rfl := List.mem_singleton.mp hm
    exact absurd hp (by decide)
  | quote | backslash => decide
  | code h₁ h₂ h₃ h₄ =>
    simp [(ne_of_hexValue? h₁ hnone).symm, (ne_of_hexValue? h₂ hnone).symm,
      (ne_of_hexValue? h₃ hnone).symm, (ne_of_hexValue? h₄ hnone).symm]

theorem Spelling.notMem_return {text cs : List Char} (h : Spelling text cs) : '\r' ∉ cs := by
  induction h with
  | nil => exact List.not_mem_nil
  | cons hc _ ih => exact List.not_mem_append hc.notMem_return ih

-- ---------------------------------------------------------------------------
-- Numbers
-- ---------------------------------------------------------------------------

section
variable {cs : List Char}

theorem takeSign_of_digits (h : ∀ c ∈ cs, c.isDigit = true) : Text.takeSign cs = (false, cs) := by
  unfold Text.takeSign
  split
  · exact absurd (h '+' List.mem_cons_self) (by decide)
  · exact absurd (h '-' List.mem_cons_self) (by decide)
  · rfl

theorem readScalar?_of_digits (h : ∀ c ∈ cs, c.isDigit = true) :
    readScalar? cs = readNumber? cs := by
  unfold readScalar?
  split
  · exact absurd (h 't' (by simp)) (by decide)
  · exact absurd (h 'f' (by simp)) (by decide)
  · exact absurd (h 'x' (by simp)) (by decide)
  · exact absurd (h 'o' (by simp)) (by decide)
  · exact absurd (h 'b' (by simp)) (by decide)
  · have hnamed : namedFloat? cs = none := by
      simp only [namedFloat?, takeSign_of_digits h]
      split
      · rename_i heq
        cases heq
        exact absurd (h 'i' (by simp)) (by decide)
      · rename_i heq
        cases heq
        exact absurd (h 'n' (by simp)) (by decide)
      · rfl
    rw [hnamed]

theorem readNumber?_of_digits (h : ∀ c ∈ cs, c.isDigit = true) (hne : cs ≠ [])
    (hz : hasLeadingZero cs = false) : readNumber? cs = some (decimalInteger cs) := by
  have hdrop : cs.dropWhile Char.isDigit = [] := List.dropWhile_eq_nil_iff.mpr h
  have hempty : cs.isEmpty = false := by simpa using hne
  simp only [readNumber?, takeSign_of_digits h, hdrop, hempty, hz, Bool.or_false,
    Bool.false_eq_true, if_false]

theorem decimalInteger_of_digits (h : ∀ c ∈ cs, c.isDigit = true) (hne : cs ≠ []) :
    decimalInteger cs = .ofInteger (Nat.ofDigitChars 10 cs 0) := by
  have hungroup : ungroup cs = cs := by
    refine List.filter_eq_self.mpr fun c hc => decide_eq_true ?_
    rintro rfl
    exact absurd (h _ hc) (by decide)
  simp only [decimalInteger, hungroup, Text.readSigned?, takeSign_of_digits h,
    Text.isNumeral_iff.mpr ⟨hne, h⟩, if_true, Text.negateIf, Text.digitsValue_eq]
  rfl

end

theorem head?_toDigits {n : Nat} (h : 0 < n) : (Nat.toDigits 10 n).head? ≠ some '0' := by
  induction n using Nat.strongRecOn with
  | ind n ih =>
    rcases Nat.lt_or_ge n 10 with hlt | hge
    · have hdigit : ∀ d < 10, 0 < d → Nat.digitChar d ≠ '0' := by decide
      rw [Nat.toDigits_of_lt_base hlt]
      simpa using hdigit n hlt h
    · obtain ⟨d, ds, hd⟩ := List.exists_cons_of_ne_nil (Nat.toDigits_ne_nil (n := n / 10) (b := 10))
      have hfirst := ih (n / 10) (by omega) (by omega)
      rw [Nat.toDigits_of_base_le (by decide) hge]
      rw [hd] at hfirst ⊢
      exact hfirst

theorem hasLeadingZero_toDigits (n : Nat) : hasLeadingZero (Nat.toDigits 10 n) = false := by
  rcases Nat.eq_zero_or_pos n with rfl | h
  · decide
  · simp [hasLeadingZero, head?_toDigits h]

theorem readScalar?_toDigits {n : Nat} (h : integerInRange n = true) :
    readScalar? (Nat.toDigits 10 n) = some (.integer n) := by
  have hd : ∀ c ∈ Nat.toDigits 10 n, c.isDigit = true := fun c hc =>
    Nat.isDigit_of_mem_toDigits (by decide) (by decide) hc
  rw [readScalar?_of_digits hd,
    readNumber?_of_digits hd Nat.toDigits_ne_nil (hasLeadingZero_toDigits n),
    decimalInteger_of_digits hd Nat.toDigits_ne_nil,
    Nat.ofDigitChars_toDigits (by decide) (by decide), Value.ofInteger, if_pos h]

end SimApprove.Toml
