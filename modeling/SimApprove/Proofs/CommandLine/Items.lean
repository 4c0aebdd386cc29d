import SimApprove.CommandLine.Invocation

/-!
# Items of a command line

An operand, an option with its value, `--verbose`: what a user means by one word or two.
A command line is read by words, but what it says is said by items. `Draft.Holds` is the
link: with nothing pending, a draft is what some items say together. One item more is one
step of the draft (`Holds.give`, `Holds.turnOn`, `Holds.accept`), and the step can be
taken whenever there is a draft that holds the items with this one and perhaps others
behind it (`Holds.exists_give` and so on).
-/

namespace SimApprove.CommandLine

inductive Item
  | operand (word : String)
  /-- A value is attached in `--name=value` and a word of its own in `--name value`. -/
  | option (o : ValueOption) (value : String) (attached : Bool)
  | verbose (short : Bool)
  deriving DecidableEq, Repr

namespace Item

def words : Item → List String
  | operand word => [word]
  | option o value true => ["--" ++ o.name ++ "=" ++ value]
  | option o value false => ["--" ++ o.name, value]
  | verbose true => ["-v"]
  | verbose false => ["--verbose"]

theorem words_verbose (short : Bool) :
    (verbose short).words = [if short then "-v" else "--verbose"] := by
  cases short <;> rfl

/-- An item that reads as what it is: no word of it passes for an option by mistake. -/
def plain : Item → Bool
  | operand word => !optionLike word
  | option _ value false => !optionLike value
  | _ => true

theorem escape_notMem_words {x : Item} (h : x.plain = true) : "--" ∉ x.words := by
  have hdash : optionLike "--" = true := by decide
  cases x with
  | operand word =>
    intro hmem
    obtain rfl := List.mem_singleton.mp hmem
    simp [plain, hdash] at h
  | option o value attached =>
    cases attached with
    | true => cases o <;> simp [words, ← String.toList_inj, ValueOption.name]
    | false =>
      intro hmem
      simp only [words, List.mem_cons, List.not_mem_nil, or_false] at hmem
      rcases hmem with hname | rfl
      · cases o <;> exact absurd hname (by decide)
      · simp [plain, hdash] at h
  | verbose short => cases short <;> decide

def operand? : Item → Option String
  | operand word => some word
  | _ => none

def value? (o : ValueOption) : Item → Option String
  | option p value _ => if p = o then some value else none
  | _ => none

def isVerbose : Item → Bool
  | verbose _ => true
  | _ => false

end Item

def operands (items : List Item) : List String := items.filterMap Item.operand?

def values (o : ValueOption) (items : List Item) : List String := items.filterMap (Item.value? o)

def verboses (items : List Item) : Nat := items.countP Item.isVerbose

@[simp] theorem operands_nil : operands [] = [] := rfl

@[simp] theorem operands_cons (x : Item) (items : List Item) :
    operands (x :: items) = x.operand?.toList ++ operands items := by
  cases x <;> rfl

@[simp] theorem operands_append (first second : List Item) :
    operands (first ++ second) = operands first ++ operands second := List.filterMap_append

@[simp] theorem values_nil (o : ValueOption) : values o [] = [] := rfl

@[simp] theorem values_cons (o : ValueOption) (x : Item) (items : List Item) :
    values o (x :: items) = (x.value? o).toList ++ values o items := by
  cases h : x.value? o <;> simp [values, h]

@[simp] theorem values_append (o : ValueOption) (first second : List Item) :
    values o (first ++ second) = values o first ++ values o second := List.filterMap_append

@[simp] theorem verboses_nil : verboses [] = 0 := rfl

@[simp] theorem verboses_cons (x : Item) (items : List Item) :
    verboses (x :: items) = x.isVerbose.toNat + verboses items := by
  rw [verboses, List.countP_cons, Nat.add_comm]
  cases x <;> rfl

@[simp] theorem verboses_append (first second : List Item) :
    verboses (first ++ second) = verboses first + verboses second := List.countP_append

theorem operands_map_operand (words : List String) : operands (words.map .operand) = words := by
  rw [operands, List.filterMap_map]
  exact List.filterMap_some

theorem values_map_operand (o : ValueOption) (words : List String) :
    values o (words.map .operand) = [] :=
  List.filterMap_eq_nil_iff.mpr (by simp [Item.value?])

theorem verboses_map_operand (words : List String) : verboses (words.map .operand) = 0 :=
  List.countP_eq_zero.mpr (by simp [Item.isVerbose])

-- ---------------------------------------------------------------------------
-- What a draft holds
-- ---------------------------------------------------------------------------

/-- A draft with nothing pending holds what some items say. -/
structure Draft.Holds (d : Draft) (items : List Item) : Prop where
  given : ∀ o, values o items = (d.value? o).toList
  verbose : verboses items = d.verbose.toNat
  operands : operands items = d.bundleId.toList ++ d.permissions.map Permission.name
  ordered : d.bundleId = none → d.permissions = []
  named : d.bundleId ≠ some ""
  settled : d.pending = none

variable {d e r : Draft} {items seen rest : List Item} {x : Item} {o : ValueOption}
  {value word : String} {scope : Scope}

theorem Draft.holds_empty : ({} : Draft).Holds [] where
  given o := by cases o <;> rfl
  verbose := rfl
  operands := rfl
  ordered _ := rfl
  named := by simp
  settled := rfl

theorem Draft.Holds.unique (hd : d.Holds items) (he : e.Holds items) : d = e := by
  have hgiven : ∀ o, d.value? o = e.value? o := by
    intro o
    have := congrArg List.head? ((hd.given o).symm.trans (he.given o))
    simpa using this
  have hverbose : d.verbose = e.verbose := by
    have := hd.verbose.symm.trans he.verbose
    revert this
    cases d.verbose <;> cases e.verbose <;> decide
  have hoperands := hd.operands.symm.trans he.operands
  have hb : d.bundleId = e.bundleId ∧ d.permissions = e.permissions := by
    cases hdb : d.bundleId with
    | none =>
      cases heb : e.bundleId with
      | none => exact ⟨rfl, (hd.ordered hdb).trans (he.ordered heb).symm⟩
      | some b => simp [hdb, heb, hd.ordered hdb] at hoperands
    | some b =>
      cases heb : e.bundleId with
      | none => simp [hdb, heb, he.ordered heb] at hoperands
      | some c =>
        simp only [hdb, heb, Option.toList_some, List.cons_append, List.nil_append,
          List.cons.injEq] at hoperands
        exact ⟨congrArg some hoperands.1,
          (List.map_inj_right fun _ _ => Permission.name_injective).mp hoperands.2⟩
  have hu := hgiven .udid
  have hs := hgiven .scheme
  have hp := hd.settled.trans he.settled.symm
  obtain ⟨hb, hps⟩ := hb
  cases d
  cases e
  simp_all [Draft.value?]

theorem Draft.Holds.settle (h : d.Holds items) : d.settle = .ok d := by
  rw [Draft.settle, h.settled]

@[simp] theorem Draft.value?_setValue (d : Draft) (o p : ValueOption) (value : String) :
    (d.setValue o value).value? p = if o = p then some value else d.value? p := by
  cases o <;> cases p <;> rfl

@[simp] theorem Draft.verbose_setValue (d : Draft) (o : ValueOption) (value : String) :
    (d.setValue o value).verbose = d.verbose := by cases o <;> rfl

@[simp] theorem Draft.bundleId_setValue (d : Draft) (o : ValueOption) (value : String) :
    (d.setValue o value).bundleId = d.bundleId := by cases o <;> rfl

@[simp] theorem Draft.permissions_setValue (d : Draft) (o : ValueOption) (value : String) :
    (d.setValue o value).permissions = d.permissions := by cases o <;> rfl

@[simp] theorem Draft.pending_setValue (d : Draft) (o : ValueOption) (value : String) :
    (d.setValue o value).pending = d.pending := by cases o <;> rfl

theorem Draft.give_eq_ok_iff :
    d.give o value = .ok e ↔ d.value? o = none ∧ e = d.setValue o value := by
  unfold give
  cases d.value? o <;> simp [eq_comm]

theorem Draft.turnOn_verbose_eq_ok_iff :
    d.turnOn scope .verbose = .ok e ↔ d.verbose = false ∧ e = { d with verbose := true } := by
  unfold turnOn
  cases d.verbose <;> simp [eq_comm]

theorem Draft.Holds.give (h : d.Holds items) (hg : d.give o value = .ok e) (attached : Bool) :
    e.Holds (items ++ [.option o value attached]) := by
  obtain ⟨hn, rfl⟩ := give_eq_ok_iff.mp hg
  constructor
  case given =>
    intro p
    by_cases hp : o = p
    · subst hp
      simp [h.given, hn, Item.value?]
    · simp [h.given, hp, Item.value?]
  case verbose => simp [h.verbose, Item.isVerbose]
  case operands => simp [h.operands, Item.operand?]
  case ordered => simpa using h.ordered
  case named => simpa using h.named
  case settled => simpa using h.settled

theorem Draft.Holds.turnOn (h : d.Holds items) (ht : d.turnOn scope .verbose = .ok e)
    (short : Bool) : e.Holds (items ++ [.verbose short]) := by
  obtain ⟨hn, rfl⟩ := turnOn_verbose_eq_ok_iff.mp ht
  constructor
  case given =>
    intro p
    cases p <;> simp [h.given, Item.value?, value?]
  case verbose => simp [h.verbose, hn, Item.isVerbose]
  case operands => simp [h.operands, Item.operand?]
  case ordered => exact h.ordered
  case named => exact h.named
  case settled => exact h.settled

def Draft.accept (d : Draft) (word : String) : Except UsageError Draft :=
  if d.bundleId.isSome then
    (permissionOfWord word).map fun p => { d with permissions := d.permissions ++ [p] }
  else if word = "" then .error (.noValue (.operand .bundleId))
  else .ok { d with bundleId := some word }

theorem permissionOfWord_eq_ok_iff {p : Permission} :
    permissionOfWord word = .ok p ↔ word = p.name := by
  unfold permissionOfWord
  cases h : Permission.ofName? word with
  | none =>
    simp only [reduceCtorEq, false_iff]
    rintro rfl
    simp [Permission.ofName?_name] at h
  | some q =>
    have := Permission.name_of_ofName? h
    constructor
    · rintro ⟨⟩
      exact this.symm
    · intro hw
      rw [Permission.name_injective (this.trans hw)]

theorem Draft.accept_eq_ok_iff : d.accept word = .ok e ↔
    (d.bundleId = none ∧ word ≠ "" ∧ e = { d with bundleId := some word }) ∨
    (d.bundleId ≠ none ∧ ∃ p : Permission, word = p.name ∧
      e = { d with permissions := d.permissions ++ [p] }) := by
  unfold accept
  cases d.bundleId with
  | none =>
    by_cases hw : word = ""
    · simp [hw]
    · simp [hw, eq_comm (a := e)]
  | some b =>
    simp only [← permissionOfWord_eq_ok_iff, eq_comm (a := e)]
    cases permissionOfWord word <;> simp [Except.map]

theorem Draft.Holds.accept (h : d.Holds items) (ha : d.accept word = .ok e) :
    e.Holds (items ++ [.operand word]) := by
  have hgiven : ∀ p, values p (items ++ [.operand word]) = (d.value? p).toList := by
    simp [h.given, Item.value?]
  have hverbose : verboses (items ++ [.operand word]) = d.verbose.toNat := by
    simp [h.verbose, Item.isVerbose]
  rcases accept_eq_ok_iff.mp ha with ⟨hb, hw, rfl⟩ | ⟨hb, p, rfl, rfl⟩
  · refine ⟨fun o => ?_, hverbose, ?_, ?_, ?_, h.settled⟩
    · rw [hgiven o]
      cases o <;> rfl
    · simp [h.operands, hb, h.ordered hb, Item.operand?]
    · simp
    · simpa using hw
  · refine ⟨fun o => ?_, hverbose, ?_, fun hn => absurd hn hb, h.named, h.settled⟩
    · rw [hgiven o]
      cases o <;> rfl
    · simp [h.operands, Item.operand?]

-- ---------------------------------------------------------------------------
-- What follows has to find its place
-- ---------------------------------------------------------------------------

theorem Draft.Holds.exists_give {attached : Bool} (h : d.Holds items)
    (hr : r.Holds (items ++ .option o value attached :: rest)) :
    ∃ e, d.give o value = .ok e := by
  have hn : d.value? o = none := by
    have hg := hr.given o
    have hl := Option.length_toList_le (o := r.value? o)
    rw [← hg] at hl
    cases hd : d.value? o with
    | none => rfl
    | some _ => simp [h.given, hd, Item.value?] at hl
  exact ⟨_, give_eq_ok_iff.mpr ⟨hn, rfl⟩⟩

theorem Draft.Holds.exists_turnOn {short : Bool} (h : d.Holds items)
    (hr : r.Holds (items ++ .verbose short :: rest)) (scope : Scope) :
    ∃ e, d.turnOn scope .verbose = .ok e := by
  have hn : d.verbose = false := by
    have hv := hr.verbose
    have hl := Bool.toNat_le r.verbose
    cases hd : d.verbose with
    | false => rfl
    | true =>
      simp [h.verbose, hd, Item.isVerbose] at hv
      omega
  exact ⟨_, turnOn_verbose_eq_ok_iff.mpr ⟨hn, rfl⟩⟩

/-- Once there is an app, a further operand of a list that some draft holds is the name of
a permission. -/
theorem Draft.Holds.exists_accept (h : d.Holds items)
    (hr : r.Holds (items ++ .operand word :: rest)) : ∃ e, d.accept word = .ok e := by
  have ho := hr.operands
  cases hd : d.bundleId with
  | none =>
    refine ⟨_, accept_eq_ok_iff.mpr (.inl ⟨hd, ?_, rfl⟩)⟩
    rintro rfl
    cases hb : r.bundleId with
    | none => simp [hb, hr.ordered hb, Item.operand?] at ho
    | some b =>
      simp [h.operands, hd, h.ordered hd, hb, Item.operand?] at ho
      exact hr.named (by rw [hb, ho.1])
  | some b =>
    have hmem : word ∈ r.permissions.map Permission.name := by
      cases hb : r.bundleId with
      | none => simp [hb, hr.ordered hb, Item.operand?] at ho
      | some c =>
        simp only [h.operands, hd, hb, operands_append, operands_cons, Item.operand?,
          Option.toList_some, List.cons_append, List.nil_append, List.cons.injEq] at ho
        rw [← ho.2]
        simp
    obtain ⟨p, -, hp⟩ := List.mem_map.mp hmem
    exact ⟨_, accept_eq_ok_iff.mpr (.inr ⟨by simp [hd], p, hp.symm, rfl⟩)⟩

end SimApprove.CommandLine
