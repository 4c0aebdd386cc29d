import SimApprove.Proofs.CommandLine.Items

/-!
# Words of a command line

The step of a draft for one word, and the loops over words. What is pending in a draft is
judged later than it is read; `Draft.settle_operand` shows that for operands this comes
to the same as judging each when it is read. `Draft.Takes` says which words a draft takes
as part of an item and what draft that leaves, one case for each way to be part of an
item; it is exactly what the reader does with a word other than `--` and `approve`
(`itemWord_eq_ok_iff`). `TakesAll` is that for many words, and `takesAll_of_readProgram`
and `takesAll_of_readApprove` cut a command line that is read at its `approve` and `--`.
-/

namespace SimApprove.CommandLine

variable {d e r : Draft} {o : ValueOption} {word : String} {scope : Scope}

-- ---------------------------------------------------------------------------
-- Settling
-- ---------------------------------------------------------------------------

theorem permissionsOfWords_concat (words : List String) (word : String) :
    permissionsOfWords (words ++ [word]) =
      permissionsOfWords words >>= fun ps => (permissionOfWord word).map fun p => ps ++ [p] := by
  induction words with
  | nil =>
    simp only [List.nil_append, permissionsOfWords]
    cases permissionOfWord word <;> rfl
  | cons head words ih =>
    simp only [List.cons_append, permissionsOfWords, ih]
    cases permissionOfWord head with
    | error => rfl
    | ok p =>
      cases permissionsOfWords words with
      | error => rfl
      | ok ps => cases permissionOfWord word <;> rfl

theorem Draft.pending_of_settle (h : d.settle = .ok e) : e.pending = none := by
  unfold settle at h
  split at h
  · rename_i hp
    cases h
    exact hp
  · cases h
  · obtain ⟨-, rfl⟩ := give_eq_ok_iff.mp h
    simp
  · split at h <;> cases h
    rfl
  · obtain ⟨ps, -, hps⟩ := bind_eq_ok_iff.mp h
    cases hps
    rfl

theorem Draft.with_pending_none (h : d.pending = none) :
    ({ d with pending := none } : Draft) = d := by rw [← h]

def Draft.Consistent (d : Draft) : Prop :=
  ∀ words, d.pending = some (.permissions words) → d.bundleId ≠ none

theorem Draft.consistent_of_settle (h : d.settle = .ok e) : e.Consistent := by
  intro words hp
  rw [pending_of_settle h] at hp
  cases hp

theorem Draft.settle_of_permissions {words : List String}
    (hp : d.pending = some (.permissions words)) :
    d.settle = permissionsOfWords words >>= fun ps =>
      .ok { d with permissions := d.permissions ++ ps, pending := none } := by
  rw [settle, hp]

theorem Draft.settle_operand (hc : d.Consistent) (word : String) :
    (d.operand word >>= settle) = d.settle >>= fun e => e.accept word := by
  unfold operand
  split
  · -- the word joins those that wait, and all of them are judged together
    rename_i words hp
    have hb : d.bundleId.isSome = true := Option.isSome_iff_ne_none.mpr (hc words hp)
    rw [settle_of_permissions hp]
    show settle { d with pending := some (.permissions (words ++ [word])) } = _
    rw [settle_of_permissions rfl, permissionsOfWords_concat]
    cases permissionsOfWords words with
    | error => rfl
    | ok ps =>
      cases hw : permissionOfWord word <;> simp [bind, Except.bind, accept, hb, hw, Except.map]
  · -- what waits is judged first, and then the word waits alone
    cases hs : d.settle with
    | error => rfl
    | ok e =>
      have hp := pending_of_settle hs
      cases hb : e.bundleId with
      | none =>
        by_cases hw : word = "" <;> simp [bind, Except.bind, accept, hb, hw, settle, hp]
      | some b =>
        cases hw : permissionOfWord word <;>
          simp [bind, Except.bind, accept, hb, hw, settle, hp, permissionsOfWords, Except.map]

theorem Draft.operand_settle_eq_ok_iff {next : Draft} (hc : d.Consistent) :
    (∃ after, d.operand word = .ok after ∧ after.settle = .ok next) ↔
      ∃ e, d.settle = .ok e ∧ e.accept word = .ok next := by
  rw [← bind_eq_ok_iff, settle_operand hc, bind_eq_ok_iff]

-- ---------------------------------------------------------------------------
-- One word
-- ---------------------------------------------------------------------------

def Scope.knows (scope : Scope) (o : ValueOption) : Prop := o = .udid ∨ scope = .approve

theorem Scope.long?_eq_option_iff {name : String} :
    scope.long? name = some (.option o) ↔ name = o.name ∧ scope.knows o := by
  unfold long?
  cases scope <;> cases o <;> split <;> simp_all [knows, ValueOption.name]

theorem Scope.name_of_long?_switch {name : String} {w : Switch}
    (h : scope.long? name = some (.switch w)) : name = w.name := by
  unfold long? at h
  cases scope <;> split at h <;> cases h <;> rfl

theorem Scope.letter_of_short?_verbose {letter : Char}
    (h : scope.short? letter = some .verbose) : letter = 'v' := by
  unfold short? at h
  cases scope <;> split at h <;> first | rfl | cases h

theorem Draft.turnOn_eq_ok {w : Switch} (h : d.turnOn scope w = .ok e) : w = .verbose := by
  cases w <;> first | rfl | cases h

def Draft.Waits (d : Draft) : Prop := ∃ o, d.pending = some (.option o none)

theorem Draft.not_waits_of_settle (h : d.settle = .ok e) : ¬ d.Waits := by
  rintro ⟨o, hp⟩
  rw [settle, hp] at h
  cases h

theorem Draft.word_of_not_waits (h : ¬ d.Waits) (text : String) (other : Except UsageError Draft) :
    d.word text other = other := by
  unfold Draft.word
  split
  · rename_i o hp
    exact absurd ⟨o, hp⟩ h
  · rfl

def Draft.itemWord (scope : Scope) (d : Draft) (arg : String) : Except UsageError Draft :=
  match Token.ofString arg with
  | .escape => .error (.unknownArgument arg)
  | .long name value => d.long scope name value
  | .cluster letters => d.cluster scope letters
  | .word text =>
    d.word text (match scope with
      | .program => .error (.unknownCommand text)
      | .approve => d.operand text)

/-- The words of items that a draft takes, each with the draft that it leaves. -/
inductive Draft.Takes (scope : Scope) (d : Draft) : String → Draft → Prop
  | value {o : ValueOption} {word : String} (hp : d.pending = some (.option o none))
      (hw : optionLike word = false) :
      Takes scope d word { d with pending := some (.option o (some word)) }
  | attached {o : ValueOption} {value : String} {e after : Draft} (hk : scope.knows o)
      (hs : d.settle = .ok e) (hg : e.give o value = .ok after) :
      Takes scope d ("--" ++ o.name ++ "=" ++ value) after
  | name {o : ValueOption} {e : Draft} (hk : scope.knows o) (hs : d.settle = .ok e) :
      Takes scope d ("--" ++ o.name) { e with pending := some (.option o none) }
  | verbose (short : Bool) {e after : Draft} (hs : d.settle = .ok e)
      (ht : e.turnOn scope .verbose = .ok after) :
      Takes scope d (if short then "-v" else "--verbose") after
  | operand {word : String} {after : Draft} (hk : scope = .approve) (hw : optionLike word = false)
      (hn : ¬ d.Waits) (ho : d.operand word = .ok after) : Takes scope d word after

theorem Token.ofString_name (o : ValueOption) :
    Token.ofString ("--" ++ o.name) = .long o.name none := by
  cases o <;> decide

theorem Token.ofString_attached (o : ValueOption) (value : String) :
    Token.ofString ("--" ++ o.name ++ "=" ++ value) = .long o.name (some value) := by
  cases o <;> simp [ofString, ofLong, ValueOption.name]

theorem Draft.Takes.itemWord_eq {arg : String} {after : Draft} (h : Draft.Takes scope d arg after) :
    d.itemWord scope arg = .ok after := by
  cases h with
  | @value o word hp hw =>
    simp only [itemWord, Token.ofString_eq_word_iff.mpr ⟨rfl, hw⟩, Draft.word, hp]
  | attached hk hs hg =>
    simp only [itemWord, Token.ofString_attached, long,
      Scope.long?_eq_option_iff.mpr ⟨rfl, hk⟩, hs]
    exact hg
  | name hk hs =>
    simp only [itemWord, Token.ofString_name, long, Scope.long?_eq_option_iff.mpr ⟨rfl, hk⟩, hs]
    rfl
  | @verbose short e after hs ht =>
    have hl : scope.long? "verbose" = some (.switch .verbose) := by cases scope <;> decide
    have hv : scope.short? 'v' = some .verbose := by cases scope <;> decide
    cases short with
    | true =>
      have ht' : Token.ofString "-v" = .cluster ['v'] := by decide
      simp only [itemWord, if_true, ht', cluster, hv, hs]
      show (Draft.turnOn scope e .verbose >>= _) = _
      rw [ht]
      rfl
    | false =>
      have ht' : Token.ofString "--verbose" = .long "verbose" none := by decide
      simp only [itemWord, Bool.false_eq_true, if_false, ht', long, hl, hs]
      exact ht
  | operand hk hw hn ho =>
    subst hk
    simp only [itemWord, Token.ofString_eq_word_iff.mpr ⟨rfl, hw⟩, word_of_not_waits hn, ho]

theorem Draft.takes_of_long {name : String} {given : Option String} {after : Draft}
    (h : d.long scope name given = .ok after) :
    Draft.Takes scope d (Token.long name given).text after := by
  unfold long at h
  split at h
  · rename_i o ho
    obtain ⟨rfl, hk⟩ := Scope.long?_eq_option_iff.mp ho
    obtain ⟨e, hs, hg⟩ := bind_eq_ok_iff.mp h
    cases given with
    | some value => exact .attached hk hs hg
    | none =>
      cases hg
      exact .name hk hs
  · rename_i w hw
    cases given with
    | some value => cases h
    | none =>
      obtain ⟨e, hs, ht⟩ := bind_eq_ok_iff.mp h
      obtain rfl := turnOn_eq_ok ht
      obtain rfl := Scope.name_of_long?_switch hw
      exact .verbose false hs ht
  · cases h

/-- Of clusters only `-v` leaves a draft: a second letter would repeat it or ask for help. -/
theorem Draft.takes_of_cluster {letter : Char} {letters : List Char} {after : Draft}
    (h : d.cluster scope (letter :: letters) = .ok after) :
    Draft.Takes scope d (Token.cluster (letter :: letters)).text after := by
  unfold cluster at h
  split at h
  · rename_i w hw
    obtain ⟨e, hs, hturn⟩ := bind_eq_ok_iff.mp h
    obtain ⟨on, ht, hrest⟩ := bind_eq_ok_iff.mp hturn
    obtain rfl := turnOn_eq_ok ht
    obtain rfl := Scope.letter_of_short?_verbose hw
    cases letters with
    | nil =>
      cases hrest
      exact .verbose true hs ht
    | cons next letters =>
      obtain ⟨-, rfl⟩ := turnOn_verbose_eq_ok_iff.mp ht
      have hon : ({ e with verbose := true } : Draft).settle = .ok { e with verbose := true } := by
        rw [settle, pending_of_settle hs]
      unfold cluster at hrest
      split at hrest
      · rw [hon] at hrest
        obtain ⟨again, hagain, -⟩ := bind_eq_ok_iff.mp
          (show turnOn scope { e with verbose := true } _ >>= _ = _ from hrest)
        obtain rfl := turnOn_eq_ok hagain
        obtain ⟨hoff, -⟩ := turnOn_verbose_eq_ok_iff.mp hagain
        cases hoff
      · cases hrest
  · cases h

theorem Draft.itemWord_eq_ok_iff {arg : String} {after : Draft} :
    d.itemWord scope arg = .ok after ↔ Draft.Takes scope d arg after := by
  refine ⟨fun h => ?_, fun h => h.itemWord_eq⟩
  have ht := Token.text_ofString arg
  unfold itemWord at h
  split at h <;> rename_i heq <;> rw [heq] at ht
  · cases h
  · exact ht ▸ takes_of_long h
  · rename_i letters
    cases letters with
    | nil =>
      -- a lone dash is a word
      have : arg = "-" := ht.symm
      subst this
      exact absurd heq (by decide)
    | cons letter letters => exact ht ▸ takes_of_cluster h
  · obtain ⟨rfl, hw⟩ := Token.ofString_eq_word_iff.mp heq
    by_cases hd : d.Waits
    · obtain ⟨o, hp⟩ := hd
      simp only [Draft.word, hp] at h
      cases h
      exact .value hp hw
    · rw [word_of_not_waits hd] at h
      cases scope with
      | program => cases h
      | approve => exact .operand rfl hw hd h

theorem Draft.Takes.ne_escape {arg : String} {after : Draft} (h : Draft.Takes scope d arg after) :
    arg ≠ "--" := by
  rintro rfl
  have hi := h.itemWord_eq
  have ht : Token.ofString "--" = .escape := by decide
  simp only [itemWord, ht] at hi
  cases hi

-- ---------------------------------------------------------------------------
-- Words up to the end, `--` or `approve`
-- ---------------------------------------------------------------------------

inductive Draft.TakesAll (scope : Scope) : Draft → List String → Draft → Prop
  | nil {d : Draft} : TakesAll scope d [] d
  | cons {d mid after : Draft} {arg : String} {words : List String}
      (hw : Draft.Takes scope d arg mid) (hr : TakesAll scope mid words after) :
      TakesAll scope d (arg :: words) after

theorem Draft.readApprove_cons {arg : String} (hne : arg ≠ "--") (words : List String) :
    d.readApprove (arg :: words) =
      d.itemWord .approve arg >>= fun mid => mid.readApprove words := by
  have ht := Token.text_ofString arg
  rw [readApprove, if_neg hne]
  unfold approveWord itemWord
  cases heq : Token.ofString arg with
  | escape =>
    rw [heq] at ht
    exact absurd ht.symm hne
  | _ => rfl

theorem Draft.TakesAll.readApprove_append {words : List String} {after : Draft}
    (h : Draft.TakesAll .approve d words after) (rest : List String) :
    d.readApprove (words ++ rest) = after.readApprove rest := by
  induction h with
  | nil => rfl
  | cons hw hr ih =>
    rw [List.cons_append, readApprove_cons hw.ne_escape, hw.itemWord_eq]
    exact ih

theorem Draft.takesAll_of_readApprove {words : List String} (h : d.readApprove words = .ok r) :
    ∃ taken after, Draft.TakesAll .approve d taken after ∧
      ((words = taken ∧ after.settle = .ok r) ∨
        ∃ rest, words = taken ++ "--" :: rest ∧ after.readOperands rest = .ok r) := by
  induction words generalizing d with
  | nil => exact ⟨[], d, .nil, .inl ⟨rfl, h⟩⟩
  | cons arg words ih =>
    by_cases he : arg = "--"
    · subst he
      rw [readApprove, if_pos rfl] at h
      exact ⟨[], d, .nil, .inr ⟨words, rfl, h⟩⟩
    · rw [readApprove_cons he] at h
      obtain ⟨mid, hw, hrest⟩ := bind_eq_ok_iff.mp h
      obtain ⟨taken, after, hall, hend⟩ := ih hrest
      refine ⟨arg :: taken, after, .cons (itemWord_eq_ok_iff.mp hw) hall, ?_⟩
      rcases hend with ⟨rfl, hs⟩ | ⟨rest, rfl, hr⟩
      · exact .inl ⟨rfl, hs⟩
      · exact .inr ⟨rest, rfl, hr⟩

theorem Token.ne_approve {arg : String} (h : Token.ofString arg ≠ .word arg) :
    arg ≠ "approve" := by
  rintro rfl
  exact h (by decide)

theorem Draft.readProgram_cons_eq_ok_iff {arg : String} {words : List String} {i : Invocation} :
    d.readProgram (arg :: words) = .ok i ↔
      (∃ mid, Draft.Takes .program d arg mid ∧ mid.readProgram words = .ok i) ∨
      (arg = "approve" ∧ ¬ d.Waits ∧ d.invocation words = .ok i) := by
  simp only [← itemWord_eq_ok_iff]
  rw [readProgram]
  unfold itemWord
  cases heq : Token.ofString arg with
  | escape =>
    have hne : arg ≠ "approve" := Token.ne_approve (by simp [heq])
    simp [hne]
  | long name value =>
    have hne : arg ≠ "approve" := Token.ne_approve (by simp [heq])
    simp [bind_eq_ok_iff, hne]
  | cluster letters =>
    have hne : arg ≠ "approve" := Token.ne_approve (by simp [heq])
    simp [bind_eq_ok_iff, hne]
  | word text =>
    obtain ⟨rfl, hw⟩ := Token.ofString_eq_word_iff.mp heq
    by_cases hd : d.Waits
    · obtain ⟨o, hp⟩ := hd
      have hd : d.Waits := ⟨o, hp⟩
      simp [Draft.word, hp, hd]
    · simp only [word_of_not_waits hd, reduceCtorEq, false_and, exists_false, false_or, hd,
        not_false_eq_true, true_and]
      split
      · rename_i o hp
        exact absurd ⟨o, hp⟩ hd
      · by_cases ha : text = "approve"
        · simp [ha]
        · by_cases hh : text = "help" <;> simp [ha, hh]

theorem Draft.takesAll_of_readProgram {words : List String} {i : Invocation}
    (h : d.readProgram words = .ok i) :
    ∃ taken after rest, words = taken ++ "approve" :: rest ∧
      Draft.TakesAll .program d taken after ∧ after.invocation rest = .ok i := by
  induction words generalizing d with
  | nil => cases h
  | cons arg words ih =>
    rcases readProgram_cons_eq_ok_iff.mp h with ⟨mid, hw, hrest⟩ | ⟨rfl, -, hi⟩
    · obtain ⟨taken, after, rest, rfl, hall, hi⟩ := ih hrest
      exact ⟨arg :: taken, after, rest, rfl, .cons hw hall, hi⟩
    · exact ⟨[], d, words, rfl, .nil, hi⟩

theorem Draft.TakesAll.readProgram_eq {words rest : List String} {after : Draft} {i : Invocation}
    (h : Draft.TakesAll .program d words after) (hn : ¬ after.Waits)
    (hi : after.invocation rest = .ok i) :
    d.readProgram (words ++ "approve" :: rest) = .ok i := by
  induction h with
  | nil => exact readProgram_cons_eq_ok_iff.mpr (.inr ⟨rfl, hn, hi⟩)
  | cons hw hr ih => exact readProgram_cons_eq_ok_iff.mpr (.inl ⟨_, hw, ih hn hi⟩)

end SimApprove.CommandLine
