import SimApprove.Toml.Document

/-!
# The end of the last line

The end of a document does what the end of a line does, so the last line may go without its
own: `parse_append_newline`. The exception is a document that ends in a carriage return,
which a line end after it would make whole.
-/

namespace SimApprove.Toml

-- ---------------------------------------------------------------------------
-- Lexemes
-- ---------------------------------------------------------------------------

/-- What a document may end in. A backslash within three quotes comes after the quotes
that have been counted. -/
def Mode.MayEnd : Mode → Prop
  | .carriage => False
  | .block _ _ slash quotes => slash = true → quotes = 0
  | _ => True

theorem Mode.mayEnd_begin {c : Char} (h : c ≠ '\r') : (Mode.begin c).2.MayEnd := by
  unfold Mode.begin
  split
  all_goals first
    | exact trivial
    | exact absurd rfl h
    | split <;> exact trivial

theorem Mode.mayEnd_inLine {q : Quote} {raw : List Char} {slash : Bool} {c : Char} :
    (Mode.inLine q raw slash c).2.MayEnd := by
  unfold Mode.inLine
  repeat' split
  all_goals exact trivial

theorem Mode.mayEnd_inBlock {q : Quote} {raw : List Char} {slash : Bool} {quotes : Nat} {c : Char}
    (h : c ≠ '\r') : (Mode.inBlock q raw slash quotes c).2.MayEnd := by
  unfold Mode.inBlock
  repeat' split
  · exact fun _ => rfl
  · exact trivial
  · exact fun hs => nomatch hs
  · exact mayEnd_begin h
  · exact fun _ => rfl

theorem Mode.mayEnd_step {m next : Mode} {c : Char} {done : List Lexeme}
    (hs : m.step c = some (done, next)) (h : c ≠ '\r') : next.MayEnd := by
  have hpair : ∀ move : Move, move.2.MayEnd → some move = some (done, next) → next.MayEnd := by
    rintro move hm heq
    rwa [Option.some.inj heq] at hm
  cases m with
  | plain => exact hpair _ (mayEnd_begin h) hs
  | carriage =>
    simp only [step] at hs
    split at hs
    · exact hpair ([.newline], .plain) trivial hs
    · cases hs
  | comment =>
    simp only [step, if_neg h] at hs
    split at hs
    · exact hpair ([.newline], .plain) trivial hs
    split at hs
    · exact hpair ([], .comment) trivial hs
    · cases hs
  | blank run =>
    refine hpair _ ?_ hs
    split
    · exact trivial
    · exact mayEnd_begin h
  | bare run =>
    refine hpair _ ?_ hs
    split
    · exact mayEnd_begin h
    · exact trivial
  | opening q two =>
    cases two with
    | false =>
      refine hpair _ ?_ hs
      split
      · exact trivial
      · exact mayEnd_inLine
    | true =>
      refine hpair _ ?_ hs
      split
      · exact fun hs => nomatch hs
      · exact mayEnd_begin h
  | line => exact hpair _ mayEnd_inLine hs
  | block => exact hpair _ (mayEnd_inBlock h) hs

theorem Mode.finish_of_mayEnd {m : Mode} (h : m.MayEnd) :
    lexFrom m ['\n'] = m.finish ∨ lexFrom m ['\n'] = m.finish.map (· ++ [.newline]) := by
  cases m with
  | plain | comment | blank | bare => exact .inr rfl
  | carriage => exact h.elim
  | opening q two => cases q <;> cases two <;> exact .inr rfl
  | line q raw slash => cases q <;> exact .inr rfl
  | block q raw slash quotes =>
    cases slash with
    | true =>
      obtain rfl : quotes = 0 := h rfl
      exact .inl rfl
    | false =>
      have hmark : '\n' ≠ q.mark := by cases q <;> decide
      by_cases hq : 3 ≤ quotes
      · refine .inr ?_
        simp only [lexFrom, step, inBlock, finish, Bool.false_eq_true, if_false, if_neg hmark,
          if_pos hq]
        rfl
      · refine .inl ?_
        simp only [lexFrom, step, inBlock, finish, Bool.false_eq_true, if_false, if_neg hmark,
          if_neg hq]
        rfl

theorem lexFrom_append_newline {m : Mode} {cs : List Char} (hm : cs = [] → m.MayEnd)
    (h : cs.getLast? ≠ some '\r') :
    lexFrom m (cs ++ ['\n']) = lexFrom m cs ∨
      lexFrom m (cs ++ ['\n']) = (lexFrom m cs).map (· ++ [.newline]) := by
  induction cs generalizing m with
  | nil => exact Mode.finish_of_mayEnd (hm rfl)
  | cons c cs ih =>
    rw [List.cons_append, lexFrom, lexFrom]
    cases hs : m.step c with
    | none => exact .inl rfl
    | some move =>
      obtain ⟨done, next⟩ := move
      have hnext : cs = [] → next.MayEnd := by
        rintro rfl
        exact Mode.mayEnd_step hs fun hc => h (congrArg some hc)
      have hlast : cs.getLast? ≠ some '\r' := by
        cases cs with
        | nil => exact fun hc => nomatch hc
        | cons d ds => rwa [List.getLast?_cons_cons] at h
      simp only [bind, Option.bind]
      rcases ih hnext hlast with hsame | hmore
      · rw [hsame]
        exact .inl rfl
      · rw [hmore, Option.map_map, Option.map_map]
        refine .inr (congrArg (Option.map · _) (funext fun ts => ?_))
        exact (List.append_assoc done ts [.newline]).symm

-- ---------------------------------------------------------------------------
-- Statements
-- ---------------------------------------------------------------------------

theorem State.step_newline_of_step_newline {s s' : State} (h : s.step .newline = some s') :
    s'.step .newline = some s' := by
  obtain ⟨statements, frames, phase⟩ := s
  cases phase with
  | bracket | closing => cases h
  | lineStart | lineEnd | assign | tableKey | separator => cases h; rfl
  | key site parts dot =>
    -- within brackets alone may the sign after a key be on the next line
    cases dot with
    | true => cases h
    | false =>
      cases site with
      | table => cases h; rfl
      | line | header | repeatedHeader => cases h
  | value =>
    cases frames with
    | nil => cases h; rfl
    | cons frame _ => cases frame <;> cases h <;> rfl
  | scalar | gap =>
    -- the value is complete, and the innermost frame says where the machine goes
    cases frames with
    | nil => cases h
    | cons frame _ => cases frame <;> cases h <;> rfl

theorem State.finish_of_step_newline {s s' : State} (h : s.step .newline = some s') :
    s'.finish = s.finish := by
  simp only [finish, h, step_newline_of_step_newline h]

theorem State.run_append (s : State) (ts us : List Lexeme) :
    s.run (ts ++ us) = (s.run ts).bind (·.run us) := by
  induction ts generalizing s with
  | nil => rfl
  | cons t ts ih =>
    simp only [List.cons_append, run, bind]
    cases s.step t with
    | none => rfl
    | some next => exact ih next

theorem Statement.ofLexemes?_append_newline (ts : List Lexeme) :
    ofLexemes? (ts ++ [.newline]) = ofLexemes? ts := by
  simp only [ofLexemes?, State.run_append, bind]
  cases State.run {} ts with
  | none => rfl
  | some s =>
    simp only [Option.bind_some, State.run, bind]
    cases hs : s.step .newline with
    | none =>
      rw [State.finish, hs]
      rfl
    | some s' => exact State.finish_of_step_newline hs

-- ---------------------------------------------------------------------------
-- Documents
-- ---------------------------------------------------------------------------

theorem dropMark_cons {c : Char} (h : c ≠ '\ufeff') (cs : List Char) :
    dropMark (c :: cs) = c :: cs := by
  unfold dropMark
  split
  · rename_i heq
    exact absurd (List.cons.inj heq).1 h
  · rfl

theorem dropMark_append_newline (cs : List Char) :
    dropMark (cs ++ ['\n']) = dropMark cs ++ ['\n'] := by
  cases cs with
  | nil => rfl
  | cons c cs =>
    by_cases hc : c = '\ufeff'
    · rw [hc]
      rfl
    · rw [List.cons_append, dropMark_cons hc, dropMark_cons hc, List.cons_append]

theorem getLast?_dropMark_ne {cs : List Char} {c : Char} (h : cs.getLast? ≠ some c) :
    (dropMark cs).getLast? ≠ some c := by
  cases cs with
  | nil => exact h
  | cons d cs =>
    by_cases hd : d = '\ufeff'
    · rintro hlast
      have hlast : cs.getLast? = some c := by rwa [hd] at hlast
      rw [List.getLast?_cons, hlast] at h
      exact h rfl
    · rwa [dropMark_cons hd]

theorem parse_append_newline {document : String} (h : document.toList.getLast? ≠ some '\r') :
    parse (document ++ "\n") = parse document := by
  have hlex := lexFrom_append_newline (m := .plain) (fun _ => trivial) (getLast?_dropMark_ne h)
  have hlist : (document ++ "\n").toList = document.toList ++ ['\n'] := String.toList_append
  have hstatements : (lexemes? (document ++ "\n")).bind Statement.ofLexemes? =
      (lexemes? document).bind Statement.ofLexemes? := by
    rw [lexemes?, lexemes?, hlist, dropMark_append_newline]
    rcases hlex with hsame | hmore
    · rw [hsame]
    · rw [hmore, Option.bind_map]
      exact congrArg (Option.bind _) (funext Statement.ofLexemes?_append_newline)
  rw [parse, parse, hstatements]

end SimApprove.Toml
