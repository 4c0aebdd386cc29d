import SimApprove.Proofs.Toml.LineEnd
import SimApprove.Proofs.Toml.Lines

/-!
# Lines are read

What the lexer and the machine of statements do with the lines of `DocumentSpelling`:
`Lexes` says which lexemes some characters are, and `Reads` from which state to which they
take the machine. `parse_of_spelling` says that a document of lines is read by what they
mean.
-/

namespace SimApprove.Toml

-- ---------------------------------------------------------------------------
-- Lexemes
-- ---------------------------------------------------------------------------

/-- The characters are these lexemes, whatever comes after them. -/
def Lexes (cs : List Char) (ts : List Lexeme) : Prop :=
  ∀ rest, lexFrom .plain (cs ++ rest) = (lexFrom .plain rest).map (ts ++ ·)

def Starts (test : Char → Prop) (cs : List Char) : Prop := ∃ c rest, cs = c :: rest ∧ test c

def gap : List Char → List Lexeme
  | [] => []
  | c :: cs => [.blank (c :: cs)]

def Datum.lexeme : Datum → Lexeme
  | text s => .quoted (some s) false
  | number n => .bare (Nat.toDigits 10 n)

def keyLexemes (path : List String) (key : String) : List Lexeme :=
  path.flatMap (fun part => [.bare part.toList, .dot]) ++ [.bare key.toList]

theorem Starts.cons {test : Char → Prop} {c : Char} (h : test c) (cs : List Char) :
    Starts test (c :: cs) := ⟨c, cs, rfl, h⟩

theorem Starts.append {test : Char → Prop} {cs : List Char} (h : Starts test cs)
    (rest : List Char) : Starts test (cs ++ rest) := by
  obtain ⟨c, cs, rfl, hc⟩ := h
  exact .cons hc (cs ++ rest)

theorem Starts.after_gap {test : Char → Prop} {blanks cs : List Char} (hg : IsGap blanks)
    (ht : ∀ c, isBlankChar c = true → test c) (h : Starts test cs) :
    Starts test (blanks ++ cs) := by
  cases blanks with
  | nil => exact h
  | cons c blanks => exact .cons (ht c (hg c List.mem_cons_self)) (blanks ++ cs)

theorem Lexes.nil : Lexes [] [] := fun _ => Option.map_id'.symm

theorem Lexes.append {cs ds : List Char} {ts us : List Lexeme} (h : Lexes cs ts)
    (h' : Lexes ds us) : Lexes (cs ++ ds) (ts ++ us) := by
  intro rest
  rw [List.append_assoc, h, h', Option.map_map]
  simp only [Function.comp_def, List.append_assoc]

theorem Lexes.cons {c : Char} {t : Lexeme} (h : Mode.begin c = ([t], .plain)) {cs : List Char}
    {ts : List Lexeme} (hcs : Lexes cs ts) : Lexes (c :: cs) (t :: ts) := by
  have hstep : Mode.plain.step c = some ([t], .plain) := congrArg some h
  intro rest
  rw [List.cons_append, lexFrom_cons hstep, hcs, Option.map_map]
  rfl

theorem begin_of_isKeyChar {c : Char} (h : isKeyChar c = true) :
    endsBare c = false ∧ Mode.begin c = ([], .bare [c]) := by
  have hne : ∀ d, isKeyChar d = false → c ≠ d := by
    rintro d hd rfl
    rw [h] at hd
    cases hd
  have hends : endsBare c = false := by
    have hall : ['.', '=', ',', '[', ']', '\x7b', '\x7d', ' ', '\t', '#', '\r', '\n'].all
        (!isKeyChar ·) = true := by decide
    rw [endsBare, List.contains_eq_mem, decide_eq_false_iff_not]
    exact fun hm => hne c (by simpa using List.all_eq_true.mp hall c hm) rfl
  have hblank : isBlankChar c = false := by
    simp [isBlankChar, hne ' ' (by decide), hne '\t' (by decide)]
  refine ⟨hends, ?_⟩
  unfold Mode.begin
  split <;> first | exact absurd h (by decide) | simp [hblank]

theorem Lexes.run (mode : List Char → Mode) (lexeme : List Char → Lexeme) {ends : Char → Prop}
    {run cs : List Char} {ts : List Lexeme} (hne : run ≠ [])
    (hbegin : ∀ c ∈ run, Mode.begin c = ([], mode [c]))
    (hstep : ∀ c ∈ run, ∀ sofar, (mode sofar).step c = some ([], mode (c :: sofar)))
    (hend : ∀ sofar d, ends d →
      (mode sofar).step d = some (Mode.after (lexeme sofar.reverse) d))
    (hs : Starts ends cs) (h : Lexes cs ts) : Lexes (run ++ cs) (lexeme run :: ts) := by
  have hrun : ∀ sofar rest, (∀ c ∈ sofar, c ∈ run) → ∀ before,
      lexFrom (mode before) (sofar ++ rest) = lexFrom (mode (sofar.reverse ++ before)) rest := by
    intro sofar rest hsub
    induction sofar with
    | nil => exact fun _ => rfl
    | cons c sofar ih =>
      intro before
      obtain ⟨hc, hmore⟩ := List.forall_mem_cons.mp hsub
      rw [List.cons_append, lexFrom_cons_within (hstep c hc before), ih hmore,
        List.reverse_cons, List.append_assoc]
      rfl
  obtain ⟨c, more, rfl⟩ := List.exists_cons_of_ne_nil hne
  obtain ⟨d, ds, rfl, hd⟩ := hs
  have hfirst : Mode.plain.step c = some ([], mode [c]) :=
    congrArg some (hbegin c List.mem_cons_self)
  have hlast := hend (more.reverse ++ [c]) d hd
  rw [List.reverse_append, List.reverse_reverse] at hlast
  intro rest
  rw [List.append_assoc, List.cons_append, lexFrom_cons_within hfirst,
    hrun more _ (fun e he => List.mem_cons_of_mem _ he), List.cons_append, lexFrom_after hlast,
    ← List.cons_append, h, Option.map_map]
  rfl

theorem Lexes.bare {run cs : List Char} {ts : List Lexeme} (hr : ∀ c ∈ run, isKeyChar c = true)
    (hne : run ≠ []) (hs : Starts (endsBare · = true) cs) (h : Lexes cs ts) :
    Lexes (run ++ cs) (.bare run :: ts) :=
  .run .bare .bare hne (fun c hc => (begin_of_isKeyChar (hr c hc)).2)
    (fun c hc sofar => by simp [Mode.step, (begin_of_isKeyChar (hr c hc)).1])
    (fun sofar d hd => by simp [Mode.step, hd]) hs h

theorem eq_of_isBlankChar {c : Char} (h : isBlankChar c = true) : c = ' ' ∨ c = '\t' := by
  simpa [isBlankChar] using h

theorem endsBare_of_isBlankChar (c : Char) (h : isBlankChar c = true) : endsBare c = true := by
  rcases eq_of_isBlankChar h with rfl | rfl <;> decide

theorem begin_of_isBlankChar {c : Char} (h : isBlankChar c = true) :
    Mode.begin c = ([], .blank [c]) := by
  rcases eq_of_isBlankChar h with rfl | rfl <;> rfl

theorem Lexes.gap {run cs : List Char} {ts : List Lexeme} (hr : IsGap run)
    (hs : Starts (isBlankChar · = false) cs) (h : Lexes cs ts) :
    Lexes (run ++ cs) (Toml.gap run ++ ts) := by
  cases run with
  | nil => exact h
  | cons c run =>
    exact .run .blank .blank (List.cons_ne_nil c run)
      (fun d hd => begin_of_isBlankChar (hr d hd))
      (fun d hd sofar => by simp [Mode.step, hr d hd]) (fun sofar d hd => by simp [Mode.step, hd])
      hs h

theorem Lexes.quoted {text : String} {body cs : List Char} {ts : List Lexeme}
    (hb : Toml.Spelling text.toList body) (hs : Starts (· ≠ '"') cs) (h : Lexes cs ts) :
    Lexes ('"' :: (body ++ ['"']) ++ cs) (.quoted (some text) false :: ts) := by
  obtain ⟨d, ds, rfl, hd⟩ := hs
  intro rest
  have hhead : ∀ c ∈ (d :: ds ++ rest).head?, c ≠ '"' := by
    intro c hc
    obtain rfl : d = c := Option.some.inj hc
    exact hd
  have hq := hb.lexFrom_quoted hhead
  rw [h, Option.map_map] at hq
  simpa [Function.comp_def] using hq

theorem IsBareKey.lexes {key : String} (hk : IsBareKey key) {cs : List Char} {ts : List Lexeme}
    (hs : Starts (endsBare · = true) cs) (h : Lexes cs ts) :
    Lexes (key.toList ++ cs) (.bare key.toList :: ts) :=
  .bare (List.all_eq_true.mp hk.2) (by simpa using hk.1) hs h

theorem lexes_keyText {path : List String} {key : String} (hp : ∀ part ∈ path, IsBareKey part)
    (hk : IsBareKey key) {cs : List Char} {ts : List Lexeme} (hs : Starts (endsBare · = true) cs)
    (h : Lexes cs ts) : Lexes (keyText path key ++ cs) (keyLexemes path key ++ ts) := by
  induction path with
  | nil => exact hk.lexes hs h
  | cons part path ih =>
    obtain ⟨hpart, hpath⟩ := List.forall_mem_cons.mp hp
    have hdot : Lexes ('.' :: (keyText path key ++ cs)) (.dot :: (keyLexemes path key ++ ts)) :=
      .cons rfl (ih hpath)
    have hall := hpart.lexes (.cons (by decide) _) hdot
    simpa [keyText, keyLexemes] using hall

theorem Datum.Spelling.starts {datum : Datum} {cs : List Char} (h : datum.Spelling cs) :
    Starts (isBlankChar · = false) cs := by
  cases h with
  | text => exact .cons (by decide) _
  | number n =>
    obtain ⟨c, cs, hcs⟩ := List.exists_cons_of_ne_nil (Nat.toDigits_ne_nil (n := n) (b := 10))
    have hc : c.isDigit = true :=
      Nat.isDigit_of_mem_toDigits (by decide) (by decide) (hcs ▸ List.mem_cons_self)
    refine ⟨c, cs, hcs, Bool.eq_false_iff.mpr fun hb => ?_⟩
    rcases eq_of_isBlankChar hb with rfl | rfl <;> exact absurd hc (by decide)

theorem Datum.Spelling.lexes {datum : Datum} {vs cs : List Char} {ts : List Lexeme}
    (hv : datum.Spelling vs) (hs : Starts (endsBare · = true) cs) (h : Lexes cs ts) :
    Lexes (vs ++ cs) (datum.lexeme :: ts) := by
  cases hv with
  | text hb =>
    obtain ⟨c, cs, rfl, hc⟩ := hs
    exact Lexes.quoted hb (.cons (by rintro rfl; exact absurd hc (by decide)) cs) h
  | number n =>
    refine .bare (fun c hc => ?_) Nat.toDigits_ne_nil hs h
    have hd : c.isDigit = true := Nat.isDigit_of_mem_toDigits (by decide) (by decide) hc
    simp [isKeyChar, Char.isAlphanum, hd]

theorem Datum.Closed.exists_lexes {datum : Datum} {c : Char} {t : Lexeme} {cs : List Char}
    (h : datum.Closed c cs) (hc : Mode.begin c = ([t], .plain)) (hb : isBlankChar c = false)
    (he : endsBare c = true) :
    ∃ lead trail, Lexes cs (gap lead ++ datum.lexeme :: (gap trail ++ [t])) := by
  cases h with
  | @mk lead vs trail hl hd ht =>
    have hend : Lexes (trail ++ [c]) (gap trail ++ [t]) := .gap ht (.cons hb []) (.cons hc .nil)
    have hvalue := hd.lexes (.after_gap ht endsBare_of_isBlankChar (.cons he [])) hend
    exact ⟨lead, trail, .gap hl (hd.starts.append _) hvalue⟩

-- ---------------------------------------------------------------------------
-- States
-- ---------------------------------------------------------------------------

def Reads (s : State) (cs : List Char) (s' : State) : Prop :=
  ∃ ts, Lexes cs ts ∧ ∀ us, s.run (ts ++ us) = s'.run us

theorem Reads.nil (s : State) : Reads s [] s := ⟨[], .nil, fun _ => rfl⟩

theorem Reads.append {s s' s'' : State} {cs ds : List Char} (h : Reads s cs s')
    (h' : Reads s' ds s'') : Reads s (cs ++ ds) s'' := by
  obtain ⟨ts, hts, hrun⟩ := h
  obtain ⟨us, hus, hrun'⟩ := h'
  refine ⟨ts ++ us, hts.append hus, fun vs => ?_⟩
  rw [List.append_assoc, hrun, hrun']

theorem run_cons {s s' : State} {t : Lexeme} (h : s.step t = some s') (us : List Lexeme) :
    s.run (t :: us) = s'.run us := by
  simp only [State.run, h, bind, Option.bind]

theorem run_gap {s : State} (h : ∀ run, s.step (.blank run) = some s) (blanks : List Char)
    (us : List Lexeme) : s.run (gap blanks ++ us) = s.run us := by
  cases blanks with
  | nil => rfl
  | cons c blanks => exact run_cons (h _) us

variable {S : List Statement} {F : List Frame} {es : List (WrittenKey × WrittenValue)}
  {k : WrittenKey}

theorem step_part {site : Site} {parts : WrittenKey} {part : String} (h : IsBareKey part) :
    State.step ⟨S, F, .key site parts true⟩ (.bare part.toList) =
      some ⟨S, F, .key site (some part :: parts) false⟩ := by
  have hall : (part.toList.all fun c => c.isAlphanum || c = '_' || c = '-') = true :=
    h.2
  have hpart : State.keyPart? (.bare part.toList) = some (some part) := by
    rw [State.keyPart?, if_pos hall, String.ofList_toList]
  change State.inKey _ site parts true (.bare part.toList) = _
  simp only [State.inKey, hpart, if_true]
  rfl

theorem run_keyLexemes {site : Site} {path : List String} {key : String}
    (hp : ∀ part ∈ path, IsBareKey part) (hk : IsBareKey key) (parts : WrittenKey)
    (us : List Lexeme) :
    State.run ⟨S, F, .key site parts true⟩ (keyLexemes path key ++ us) =
      State.run ⟨S, F, .key site ((writtenKey path key).reverse ++ parts) false⟩ us := by
  induction path generalizing parts with
  | nil => exact run_cons (step_part hk) us
  | cons part path ih =>
    obtain ⟨hpart, hpath⟩ := List.forall_mem_cons.mp hp
    have hdot : State.step ⟨S, F, .key site (some part :: parts) false⟩ .dot =
        some ⟨S, F, .key site (some part :: parts) true⟩ := rfl
    have hrest := ih hpath (some part :: parts)
    simp only [keyLexemes, List.flatMap_cons, List.cons_append, List.nil_append] at hrest ⊢
    rw [run_cons (step_part hpart), run_cons hdot, hrest]
    simp [writtenKey]

theorem KeySpelling.exists_lexes {path : List String} {key : String} {ks : List Char}
    (h : KeySpelling path key ks) :
    ∃ before, Lexes ks (keyLexemes path key ++ (gap before ++ [.equals])) := by
  cases h with
  | @mk before hp hk hb =>
    have hequals : Lexes (before ++ ['=']) (gap before ++ [.equals]) :=
      .gap hb (.cons (by decide) []) (.cons rfl .nil)
    have hstarts : Starts (endsBare · = true) (before ++ ['=']) :=
      .after_gap hb endsBare_of_isBlankChar (.cons (by decide) [])
    exact ⟨before, lexes_keyText hp hk hstarts hequals⟩

theorem IsBareKey.starts {key : String} (hk : IsBareKey key) :
    Starts (isKeyChar · = true) key.toList := by
  obtain ⟨c, cs, hcs⟩ := List.exists_cons_of_ne_nil (l := key.toList) (by simpa using hk.1)
  exact ⟨c, cs, hcs, List.all_eq_true.mp hk.2 c (hcs ▸ List.mem_cons_self)⟩

theorem KeySpelling.starts {path : List String} {key : String} {ks : List Char}
    (h : KeySpelling path key ks) : Starts (isKeyChar · = true) ks := by
  obtain ⟨hp, hk, -⟩ := h
  cases path with
  | nil => exact hk.starts.append _
  | cons part path =>
    have hpart := (List.forall_mem_cons.mp hp).1.starts
    simpa [keyText] using hpart.append _

theorem KeySpelling.reads {s s' : State} {site : Site} {path : List String} {key : String}
    {lead ks : List Char} (hl : IsGap lead) (h : KeySpelling path key ks)
    (hblank : ∀ run, s.step (.blank run) = some s)
    (hbegin : ∀ run, s.step (.bare run) = State.step ⟨S, F, .key site [] true⟩ (.bare run))
    (hend : State.step ⟨S, F, .key site (writtenKey path key).reverse false⟩ .equals = some s') :
    Reads s (lead ++ ks) s' := by
  have hstarts : Starts (isBlankChar · = false) ks := by
    obtain ⟨c, cs, hcs, hc⟩ := h.starts
    refine ⟨c, cs, hcs, Bool.eq_false_iff.mpr fun hb => ?_⟩
    rcases eq_of_isBlankChar hb with rfl | rfl <;> exact absurd hc (by decide)
  obtain ⟨before, hlex⟩ := h.exists_lexes
  obtain ⟨hp, hk, -⟩ := h
  have hfirst : ∀ us, s.run (keyLexemes path key ++ us) =
      State.run ⟨S, F, .key site [] true⟩ (keyLexemes path key ++ us) := by
    intro us
    cases path <;> simp only [keyLexemes, List.flatMap_nil, List.flatMap_cons, List.nil_append,
      List.cons_append, State.run, hbegin]
  refine ⟨_, .gap hl hstarts hlex, fun us => ?_⟩
  rw [List.append_assoc, run_gap hblank, List.append_assoc, List.append_assoc, hfirst,
    run_keyLexemes hp hk, List.append_nil, run_gap fun _ => rfl]
  exact run_cons hend us

theorem KeySpelling.reads_line {path : List String} {key : String} {ks : List Char}
    (h : KeySpelling path key ks) :
    Reads ⟨S, [], .lineStart⟩ ks ⟨S, [.line (writtenKey path key)], .value⟩ := by
  have hnone : IsGap [] := fun _ hc => nomatch hc
  have hend : some (⟨S, [.line (writtenKey path key).reverse.reverse], .value⟩ : State) =
      some ⟨S, [.line (writtenKey path key)], .value⟩ := by rw [List.reverse_reverse]
  exact h.reads hnone (fun _ => rfl) (fun _ => rfl) hend

theorem KeySpelling.reads_table {key : String} {lead ks : List Char} (hl : IsGap lead)
    (h : KeySpelling [] key ks) :
    Reads ⟨S, F, .tableKey es⟩ (lead ++ ks) ⟨S, .table es (writtenKey [] key) :: F, .value⟩ :=
  h.reads hl (fun _ => rfl) (fun _ => rfl) rfl

theorem Datum.Closed.reads {s' : State} {datum : Datum} {c : Char} {t : Lexeme} {cs : List Char}
    (h : datum.Closed c cs) (hc : Mode.begin c = ([t], .plain)) (hb : isBlankChar c = false)
    (he : endsBare c = true)
    (hrun : ∀ trail us, State.run ⟨S, F, .value⟩ (datum.lexeme :: (gap trail ++ t :: us)) =
      s'.run us) : Reads ⟨S, F, .value⟩ cs s' := by
  obtain ⟨lead, trail, hlex⟩ := h.exists_lexes hc hb he
  refine ⟨_, hlex, fun us => ?_⟩
  rw [List.append_assoc, run_gap fun _ => rfl, List.cons_append, List.append_assoc]
  exact hrun trail us

theorem Datum.Closed.reads_line {datum : Datum} {cs : List Char} (h : datum.Closed '\n' cs) :
    Reads ⟨S, [.line k], .value⟩ cs ⟨.entry k datum.written :: S, [], .lineStart⟩ :=
  h.reads rfl (by decide) (by decide) fun trail _ => by cases datum <;> cases trail <;> rfl

theorem Datum.Closed.reads_comma {datum : Datum} {cs : List Char} (h : datum.Closed ',' cs) :
    Reads ⟨S, .table es k :: F, .value⟩ cs ⟨S, F, .tableKey ((k, datum.written) :: es)⟩ :=
  h.reads rfl (by decide) (by decide) fun trail _ => by cases datum <;> cases trail <;> rfl

theorem Datum.Closed.reads_curly {datum : Datum} {k' : WrittenKey} {cs : List Char}
    (h : datum.Closed '\x7d' cs) : Reads ⟨S, [.table es k, .line k'], .value⟩ cs
      ⟨.entry k' (.table ((k, datum.written) :: es).reverse) :: S, [], .lineEnd⟩ :=
  h.reads rfl (by decide) (by decide) fun trail _ => by cases datum <;> cases trail <;> rfl

theorem GroupSpelling.reads {entries : List (String × Datum)} {k' : WrittenKey} {cs : List Char}
    (h : GroupSpelling entries cs) : Reads ⟨S, [.line k'], .tableKey es⟩ cs
      ⟨.entry k' (.table (es.reverse ++ entries.map writtenEntry)) :: S, [], .lineEnd⟩ := by
  induction h generalizing es with
  | @nil lead hl =>
    refine ⟨gap lead ++ [.closeCurly], .gap hl (.cons (by decide) []) (.cons rfl .nil),
      fun us => ?_⟩
    rw [List.append_assoc, run_gap fun _ => rfl, List.map_nil, List.append_nil]
    rfl
  | last hl hk hd =>
    have hkey : Reads ⟨S, [.line k'], .tableKey es⟩ _ _ := hk.reads_table hl
    have hentry := hkey.append hd.reads_curly
    rw [List.append_assoc] at hentry
    simpa [writtenEntry] using hentry
  | cons hl hk hd _ ih =>
    have hkey : Reads ⟨S, [.line k'], .tableKey es⟩ _ _ := hk.reads_table hl
    have hall := (hkey.append hd.reads_comma).append ih
    simp only [List.append_assoc] at hall
    simpa [writtenEntry] using hall

theorem reads_newline {s : State} {trail : List Char} (h : IsGap trail)
    (hblank : ∀ run, s.step (.blank run) = some s)
    (hend : s.step .newline = some ⟨S, [], .lineStart⟩) :
    Reads s (trail ++ ['\n']) ⟨S, [], .lineStart⟩ := by
  refine ⟨gap trail ++ [.newline], .gap h (.cons (by decide) []) (.cons rfl .nil), fun us => ?_⟩
  rw [List.append_assoc, run_gap hblank]
  exact run_cons hend us

theorem Line.Spelling.reads {line : Line} {cs : List Char} (h : line.Spelling cs) :
    Reads ⟨S, [], .lineStart⟩ cs ⟨line.statement :: S, [], .lineStart⟩ := by
  cases h with
  | entry hk hd => exact hk.reads_line.append hd.reads_line
  | @group key entries ks lead cs trail hk hl hg ht =>
    have hopen : Reads ⟨S, [.line (writtenKey [] key)], .value⟩ (lead ++ ['\x7b'])
        ⟨S, [.line (writtenKey [] key)], .tableKey []⟩ := by
      refine ⟨gap lead ++ [.openCurly], .gap hl (.cons (by decide) []) (.cons rfl .nil),
        fun us => ?_⟩
      rw [List.append_assoc, run_gap fun _ => rfl]
      rfl
    have hall := hk.reads_line.append
      (hopen.append (hg.reads.append (reads_newline ht (fun _ => rfl) rfl)))
    simpa [Line.statement] using hall
  | @header key trail hk ht =>
    have hopen : Reads ⟨S, [], .lineStart⟩ ['['] ⟨S, [], .bracket⟩ :=
      ⟨[.openSquare], .cons rfl .nil, fun _ => rfl⟩
    have hkey : Reads ⟨S, [], .bracket⟩ (key.toList ++ [']'])
        ⟨.header (writtenKey [] key) :: S, [], .lineEnd⟩ := by
      refine ⟨_, hk.lexes (.cons (by decide) []) (.cons rfl .nil), fun us => ?_⟩
      exact (run_cons (step_part hk) _).trans rfl
    have hall := hopen.append (hkey.append (reads_newline ht (fun _ => rfl) rfl))
    simpa [Line.statement] using hall

-- ---------------------------------------------------------------------------
-- Documents
-- ---------------------------------------------------------------------------

theorem LinesSpelling.reads {lines : List Line} {cs : List Char} (h : LinesSpelling lines cs) :
    Reads ⟨S, [], .lineStart⟩ cs ⟨(lines.map Line.statement).reverse ++ S, [], .lineStart⟩ := by
  induction h generalizing S with
  | nil => exact .nil _
  | blank hl _ ih =>
    have hempty : Reads ⟨S, [], .lineStart⟩ _ ⟨S, [], .lineStart⟩ :=
      reads_newline hl (fun _ => rfl) rfl
    simpa using hempty.append ih
  | cons hline _ ih =>
    simpa using hline.reads.append ih

theorem Line.Spelling.starts {line : Line} {cs : List Char} (h : line.Spelling cs) :
    Starts (· ≠ '\ufeff') cs := by
  have hkey : ∀ {path key ks}, KeySpelling path key ks → Starts (· ≠ '\ufeff') ks := by
    intro path key ks hk
    obtain ⟨c, cs, hcs, hc⟩ := hk.starts
    exact ⟨c, cs, hcs, by rintro rfl; exact absurd hc (by decide)⟩
  cases h with
  | entry hk => exact (hkey hk).append _
  | group hk => exact (hkey hk).append _
  | header => exact .cons (by decide) _

theorem LinesSpelling.dropMark_eq {lines : List Line} {cs : List Char}
    (h : LinesSpelling lines cs) : dropMark cs = cs := by
  have hdrop : ∀ {cs : List Char}, Starts (· ≠ '\ufeff') cs → dropMark cs = cs := by
    rintro _ ⟨c, rest, rfl, hc⟩
    exact dropMark_cons hc rest
  cases h with
  | nil => rfl
  | blank hl =>
    refine hdrop (.after_gap hl (fun c hc => ?_) (.cons (by decide) _))
    rintro rfl
    exact absurd hc (by decide)
  | cons hline => exact hdrop (hline.starts.append _)

theorem LinesSpelling.parse_eq {lines : List Line} {document : String}
    (h : LinesSpelling lines document.toList) :
    parse document = build (lines.map Line.statement) := by
  obtain ⟨ts, hlex, hrun⟩ := h.reads (S := [])
  have hts : lexemes? document = some ts := by
    have hall := hlex []
    rw [List.append_nil] at hall
    rw [lexemes?, h.dropMark_eq, hall]
    exact congrArg some (List.append_nil ts)
  have hstate := hrun []
  rw [List.append_nil, List.append_nil] at hstate
  have hstatements : Statement.ofLexemes? ts = some (lines.map Line.statement) := by
    rw [Statement.ofLexemes?]
    change (State.run ⟨[], [], .lineStart⟩ ts).bind State.finish = _
    rw [hstate]
    exact congrArg some (List.reverse_reverse _)
  rw [parse, hts, Option.bind_some, hstatements]
  rfl

/-- Whether or not its last line has an end, a document is read by its lines. -/
theorem parse_of_spelling {lines : List Line} {document : String}
    (h : DocumentSpelling lines document.toList) :
    parse document = build (lines.map Line.statement) := by
  rcases h with hended | hopen
  · exact hended.parse_eq
  · have hlast : document.toList.getLast? ≠ some '\r' := fun hl =>
      hopen.notMem_return (List.mem_append_left _ (List.mem_of_getLast? hl))
    have hlist : (document ++ "\n").toList = document.toList ++ ['\n'] := String.toList_append
    rw [← parse_append_newline hlast]
    exact LinesSpelling.parse_eq (hlist ▸ hopen)

end SimApprove.Toml
