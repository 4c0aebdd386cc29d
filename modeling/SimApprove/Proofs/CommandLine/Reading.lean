import SimApprove.Proofs.CommandLine.Words

/-!
# Items and words

Both ways between items and words. Items that some draft holds can be written as words
which are taken one after the other (`Draft.Reads.exists_takesAll`), and words that were
taken up to a draft which settles are the words of items
(`Draft.TakesAll.exists_items`). Behind `--` each word is an item of its own.
-/

namespace SimApprove.CommandLine

variable {d e r : Draft} {items seen rest : List Item} {x : Item} {o : ValueOption}
  {value word : String} {scope : Scope}

-- ---------------------------------------------------------------------------
-- Items are read
-- ---------------------------------------------------------------------------

def Item.KnownIn (scope : Scope) : Item → Prop
  | operand _ => scope = .approve
  | option o _ _ => scope.knows o
  | verbose _ => True

structure Draft.Reads (d : Draft) (seen : List Item) : Prop where
  consistent : d.Consistent
  settles : ∃ e, d.settle = .ok e ∧ e.Holds seen

theorem Draft.Holds.reads (h : d.Holds seen) : d.Reads seen :=
  ⟨consistent_of_settle h.settle, d, h.settle, h⟩

theorem Draft.TakesAll.append {words more : List String} {mid after : Draft}
    (h : Draft.TakesAll scope d words mid) (h' : Draft.TakesAll scope mid more after) :
    Draft.TakesAll scope d (words ++ more) after := by
  induction h with
  | nil => exact h'
  | cons hw hr ih => exact .cons hw (ih h')

theorem Draft.Takes.single {arg : String} {after : Draft} (h : Draft.Takes scope d arg after) :
    Draft.TakesAll scope d [arg] after := .cons h .nil

theorem Draft.consistent_of_operand {after : Draft} (hc : d.Consistent)
    (h : d.operand word = .ok after) : after.Consistent := by
  intro words hp
  unfold operand at h
  split at h
  · rename_i old hold
    cases h
    exact hc old hold
  · obtain ⟨e, -, h⟩ := bind_eq_ok_iff.mp h
    split at h
    · rename_i hb
      cases h
      exact Option.isSome_iff_ne_none.mp hb
    · cases h
      cases hp

theorem Draft.Reads.exists_takesAll_item (h : d.Reads seen) (hr : r.Holds (seen ++ x :: rest))
    (hp : x.plain = true) (hk : x.KnownIn scope) :
    ∃ after, after.Reads (seen ++ [x]) ∧ Draft.TakesAll scope d x.words after := by
  obtain ⟨hc, e, hs, he⟩ := h
  cases x with
  | operand word =>
    have hw : optionLike word = false := by simpa [Item.plain] using hp
    obtain ⟨next, ha⟩ := he.exists_accept hr
    obtain ⟨after, ho, hs'⟩ := (operand_settle_eq_ok_iff hc).mpr ⟨e, hs, ha⟩
    exact ⟨after, ⟨consistent_of_operand hc ho, next, hs', he.accept ha⟩,
      (Takes.operand hk hw (not_waits_of_settle hs) ho).single⟩
  | option o value attached =>
    obtain ⟨next, hg⟩ := he.exists_give hr
    have hnext := he.give hg attached
    cases attached with
    | true => exact ⟨next, hnext.reads, (Takes.attached hk hs hg).single⟩
    | false =>
      -- after its name the draft waits, and after its value there is something to settle
      have hw : optionLike value = false := by simpa [Item.plain] using hp
      refine ⟨{ e with pending := some (.option o (some value)) }, ⟨?_, next, ?_, hnext⟩,
        .cons (.name hk hs) (Takes.value rfl hw).single⟩
      · intro words hp
        cases hp
      · rw [settle]
        simpa [with_pending_none he.settled] using hg
  | verbose short =>
    obtain ⟨next, ht⟩ := he.exists_turnOn hr scope
    refine ⟨next, (he.turnOn ht short).reads, ?_⟩
    rw [Item.words_verbose]
    exact (Takes.verbose short hs ht).single

theorem Draft.Reads.exists_takesAll (h : d.Reads seen) (items rest : List Item)
    (hr : r.Holds (seen ++ items ++ rest)) (hp : ∀ x ∈ items, x.plain = true)
    (hk : ∀ x ∈ items, x.KnownIn scope) :
    ∃ after, after.Reads (seen ++ items) ∧
      Draft.TakesAll scope d (items.flatMap Item.words) after := by
  induction items generalizing d seen with
  | nil => exact ⟨d, by simpa using h, .nil⟩
  | cons x items ih =>
    have hx : r.Holds (seen ++ x :: (items ++ rest)) := by simpa using hr
    obtain ⟨mid, hmid, htake⟩ :=
      h.exists_takesAll_item hx (hp x List.mem_cons_self) (hk x List.mem_cons_self)
    obtain ⟨after, hafter, hall⟩ := ih hmid (by simpa using hx)
      (fun y hy => hp y (List.mem_cons_of_mem _ hy)) fun y hy => hk y (List.mem_cons_of_mem _ hy)
    exact ⟨after, by simpa using hafter, htake.append hall⟩

theorem Draft.Reads.readOperands_eq {words : List String} (h : d.Reads seen)
    (hr : r.Holds (seen ++ words.map Item.operand)) : d.readOperands words = .ok r := by
  induction words generalizing d seen with
  | nil =>
    obtain ⟨-, e, hs, he⟩ := h
    rw [readOperands, hs, he.unique (by simpa using hr)]
  | cons word words ih =>
    obtain ⟨hc, e, hs, he⟩ := h
    have hword : r.Holds (seen ++ .operand word :: words.map Item.operand) := by simpa using hr
    obtain ⟨next, ha⟩ := he.exists_accept hword
    obtain ⟨after, ho, hs'⟩ := (operand_settle_eq_ok_iff hc).mpr ⟨e, hs, ha⟩
    rw [readOperands, ho]
    exact ih ⟨consistent_of_operand hc ho, next, hs', he.accept ha⟩ (by simpa using hword)

-- ---------------------------------------------------------------------------
-- What is read are items
-- ---------------------------------------------------------------------------

structure Spells (scope : Scope) (items : List Item) (words : List String) : Prop where
  words_eq : words = items.flatMap Item.words
  plain : ∀ x ∈ items, x.plain = true
  known : ∀ x ∈ items, x.KnownIn scope

theorem Spells.nil : Spells scope [] [] := ⟨rfl, by simp, by simp⟩

theorem Spells.cons {words : List String} (h : Spells scope items words) (hp : x.plain = true)
    (hk : x.KnownIn scope) : Spells scope (x :: items) (x.words ++ words) where
  words_eq := by rw [List.flatMap_cons, h.words_eq]
  plain := List.forall_mem_cons.mpr ⟨hp, h.plain⟩
  known := List.forall_mem_cons.mpr ⟨hk, h.known⟩

theorem Draft.not_waits_of_operand {after : Draft} (h : d.operand word = .ok after) :
    ¬ after.Waits := by
  rintro ⟨o, hp⟩
  unfold operand at h
  split at h
  · cases h
    cases hp
  · obtain ⟨e, -, h⟩ := bind_eq_ok_iff.mp h
    split at h <;> cases h <;> cases hp

theorem Draft.settle_of_give {after : Draft} (hs : d.settle = .ok e)
    (hg : e.give o value = .ok after) : after.settle = .ok after := by
  obtain ⟨-, rfl⟩ := give_eq_ok_iff.mp hg
  rw [settle, pending_setValue, pending_of_settle hs]

theorem Draft.settle_of_turnOn {after : Draft} (hs : d.settle = .ok e)
    (ht : e.turnOn scope .verbose = .ok after) : after.settle = .ok after := by
  obtain ⟨-, rfl⟩ := turnOn_verbose_eq_ok_iff.mp ht
  rw [settle, pending_of_settle hs]

/-- The draft `last` is `d` with some more items, whatever `d` held. -/
def Draft.Adds (d : Draft) (items : List Item) (last : Draft) : Prop :=
  ∀ seen, d.Holds seen → last.Holds (seen ++ items)

theorem Draft.Adds.cons (h : ∀ seen, d.Holds seen → e.Holds (seen ++ [x])) {last : Draft}
    (hl : e.Adds items last) : d.Adds (x :: items) last := by
  intro seen hd
  simpa using hl _ (h seen hd)

theorem Draft.Takes.consistent {arg : String} {after : Draft} (h : Draft.Takes scope d arg after)
    (hc : d.Consistent) : after.Consistent := by
  cases h with
  | value => intro words hw; cases hw
  | attached hk hs hg => exact consistent_of_settle (settle_of_give hs hg)
  | name => intro words hw; cases hw
  | verbose _ hs ht => exact consistent_of_settle (settle_of_turnOn hs ht)
  | operand hk hw hn ho => exact consistent_of_operand hc ho

theorem Draft.TakesAll.consistent {words : List String} {after : Draft}
    (h : Draft.TakesAll scope d words after) (hc : d.Consistent) : after.Consistent := by
  induction h with
  | nil => exact hc
  | cons hw hr ih => exact ih (hw.consistent hc)

/-- Where words end that a draft takes, as items. For a draft that waits for a value,
the first word is this value. -/
structure Draft.Ends (scope : Scope) (d : Draft) (words : List String) (last : Draft) : Prop where
  settled : ¬ d.Waits → ∃ e items, d.settle = .ok e ∧ Spells scope items words ∧ e.Adds items last
  waiting : ∀ o, d.pending = some (.option o none) → ∃ value items rest, words = value :: rest ∧
    optionLike value = false ∧ Spells scope items rest ∧
    ({ d with pending := none } : Draft).Adds (.option o value false :: items) last

theorem Draft.Ends.of_settle {words : List String} {last : Draft} (hs : d.settle = .ok e)
    (hsp : Spells scope items words) (ha : e.Adds items last) : Draft.Ends scope d words last where
  settled _ := ⟨e, items, hs, hsp, ha⟩
  waiting o hp := absurd ⟨o, hp⟩ (not_waits_of_settle hs)

theorem Draft.Ends.exists_items {words : List String} {last : Draft}
    (h : Draft.Ends scope d words last) (hs : d.settle = .ok e) :
    ∃ items, Spells scope items words ∧ e.Adds items last := by
  obtain ⟨e', items, hs', hsp, ha⟩ := h.settled (not_waits_of_settle hs)
  cases hs.symm.trans hs'
  exact ⟨items, hsp, ha⟩

theorem Draft.Takes.ends {arg : String} {words : List String} {mid last : Draft}
    (hw : Draft.Takes scope d arg mid) (hc : d.Consistent) (h : Draft.Ends scope mid words last) :
    Draft.Ends scope d (arg :: words) last := by
  cases hw with
  | @value o _ hp hw =>
    -- the second half of an item, which is counted with the word before this one
    refine ⟨fun hn => absurd ⟨o, hp⟩ hn, fun o' hp' => ?_⟩
    obtain ⟨e, items, hs, hsp, ha⟩ := h.settled (by rintro ⟨p, hq⟩; cases hq)
    rw [hp] at hp'
    cases hp'
    have hg : ({ d with pending := none } : Draft).give o arg = .ok e := by
      rw [settle] at hs
      exact hs
    exact ⟨arg, items, words, rfl, hw, hsp, .cons (fun seen hd => hd.give hg false) ha⟩
  | @attached o value e _ hk hs hg =>
    obtain ⟨items, hsp, ha⟩ := h.exists_items (settle_of_give hs hg)
    exact .of_settle hs (hsp.cons (x := .option o value true) rfl hk)
      (.cons (fun seen hd => hd.give hg true) ha)
  | @name o e hk hs =>
    obtain ⟨value, items, rest, rfl, hv, hsp, ha⟩ := h.waiting o rfl
    rw [with_pending_none (pending_of_settle hs)] at ha
    exact .of_settle hs (hsp.cons (x := .option o value false) (by simp [Item.plain, hv]) hk) ha
  | @verbose short e _ hs ht =>
    obtain ⟨items, hsp, ha⟩ := h.exists_items (settle_of_turnOn hs ht)
    have hsp := hsp.cons (x := .verbose short) rfl trivial
    rw [Item.words_verbose] at hsp
    exact .of_settle hs hsp (.cons (fun seen hd => hd.turnOn ht short) ha)
  | operand hk hw hn ho =>
    obtain ⟨next, items, hnext, hsp, ha⟩ := h.settled (not_waits_of_operand ho)
    obtain ⟨e, hs, haccept⟩ := (operand_settle_eq_ok_iff hc).mp ⟨_, ho, hnext⟩
    exact .of_settle hs (hsp.cons (x := .operand arg) (by simp [Item.plain, hw]) hk)
      (.cons (fun seen hd => hd.accept haccept) ha)

theorem Draft.TakesAll.ends {words : List String} {after last : Draft}
    (h : Draft.TakesAll scope d words after) (hlast : after.settle = .ok last)
    (hc : d.Consistent) : Draft.Ends scope d words last := by
  induction h with
  | nil => exact .of_settle hlast .nil fun seen hs => by simpa using hs
  | cons hw hr ih => exact hw.ends hc (ih hlast (hw.consistent hc))

theorem Draft.consistent_empty : ({} : Draft).Consistent :=
  consistent_of_settle holds_empty.settle

theorem Draft.TakesAll.exists_items {words : List String} {after last : Draft}
    (h : Draft.TakesAll scope {} words after) (hlast : after.settle = .ok last) :
    ∃ items, Spells scope items words ∧ last.Holds items := by
  obtain ⟨items, hspell, hadds⟩ := (h.ends hlast consistent_empty).exists_items holds_empty.settle
  exact ⟨items, hspell, hadds [] holds_empty⟩

theorem Draft.exists_of_readOperands {words : List String} (hc : d.Consistent)
    (h : d.readOperands words = .ok r) :
    ∃ e, d.settle = .ok e ∧ e.Adds (words.map .operand) r := by
  induction words generalizing d with
  | nil => exact ⟨r, h, fun seen hs => by simpa using hs⟩
  | cons word words ih =>
    obtain ⟨after, ho, hrest⟩ := bind_eq_ok_iff.mp h
    obtain ⟨next, hs', hadds⟩ := ih (consistent_of_operand hc ho) hrest
    obtain ⟨e, hs, ha⟩ := (operand_settle_eq_ok_iff hc).mp ⟨after, ho, hs'⟩
    exact ⟨e, hs, .cons (fun seen hd => hd.accept ha) hadds⟩

end SimApprove.CommandLine
