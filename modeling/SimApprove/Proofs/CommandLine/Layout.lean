import SimApprove.Proofs.CommandLine.Reading

/-!
# Layouts of a command line

The grammar of the command line, apart from the reader. `Layout` is a command line as
items, `Layout.words` how it is written, and `Layout.Writes` says when it stands for an
invocation. The reader accepts every such layout as that invocation
(`ofArguments_of_writes`) and reads nothing else (`exists_layout_of_ofArguments`).
-/

namespace SimApprove.CommandLine

variable {d r : Draft} {items : List Item} {x : Item}

/-- A command line as it is written: items in front of `approve` and after it, and then
perhaps `--` with operands only behind it. -/
structure Layout where
  front : List Item
  back : List Item
  escaped : Option (List String)
  deriving DecidableEq, Repr

namespace Layout

def backWords (back : List Item) : Option (List String) → List String
  | none => back.flatMap Item.words
  | some rest => back.flatMap Item.words ++ "--" :: rest

def words (l : Layout) : List String :=
  l.front.flatMap Item.words ++ "approve" :: backWords l.back l.escaped

def operands (l : Layout) : List String := CommandLine.operands l.back ++ l.escaped.getD []

/-- The layout is a way to write the invocation: each item reads as what it is, the
operands are the app and the names of the permissions in their order, and an option
stands at most once on a side of `approve`, the scheme only after it. Of two devices
the one after `approve` counts. -/
structure Writes (l : Layout) (i : Invocation) : Prop where
  plain : ∀ x ∈ l.front ++ l.back, x.plain = true
  front : ∀ x ∈ l.front, x.operand? = none ∧ x.value? .scheme = none
  operands : l.operands = i.command.bundleId :: i.command.permissions.map Permission.name
  bundleId : i.command.bundleId ≠ ""
  permissions : i.command.permissions ≠ []
  scheme : values .scheme l.back = i.command.scheme.toList
  udid : ∃ outer inner : Option String, values .udid l.front = outer.toList ∧
    values .udid l.back = inner.toList ∧ i.udid = inner.or outer
  verbose : ∃ outer inner : Bool, verboses l.front = outer.toNat ∧
    verboses l.back = inner.toNat ∧ i.verbose = (outer || inner)

def inner (l : Layout) : List Item := l.back ++ (l.escaped.getD []).map .operand

end Layout

variable {l : Layout} {i : Invocation}

theorem Layout.operands_inner (l : Layout) : CommandLine.operands l.inner = l.operands := by
  rw [inner, operands_append, operands_map_operand, operands]

theorem Layout.values_inner (l : Layout) (o : ValueOption) :
    values o l.inner = values o l.back := by
  rw [inner, values_append, values_map_operand, List.append_nil]

theorem Layout.verboses_inner (l : Layout) : verboses l.inner = verboses l.back := by
  rw [inner, verboses_append, verboses_map_operand, Nat.add_zero]

theorem Layout.Writes.exists_holds (h : l.Writes i) : ∃ outer inner : Draft,
    outer.Holds l.front ∧ inner.Holds l.inner ∧ inner.command = .ok i.command ∧
      i.udid = inner.udid.or outer.udid ∧ i.verbose = (outer.verbose || inner.verbose) := by
  obtain ⟨udid, udid', hu, hu', hudid⟩ := h.udid
  obtain ⟨verbose, verbose', hv, hv', hverbose⟩ := h.verbose
  have hfront : CommandLine.operands l.front = [] :=
    List.filterMap_eq_nil_iff.mpr fun x hx => (h.front x hx).1
  have hscheme : values .scheme l.front = [] :=
    List.filterMap_eq_nil_iff.mpr fun x hx => (h.front x hx).2
  refine ⟨{ udid := udid, verbose := verbose },
    { udid := udid', scheme := i.command.scheme, verbose := verbose',
      bundleId := some i.command.bundleId, permissions := i.command.permissions }, ?_, ?_, ?_,
    hudid, hverbose⟩
  · refine ⟨fun o => ?_, hv, by simpa using hfront, fun _ => rfl, by simp, rfl⟩
    cases o
    · exact hu
    · exact hscheme
  · refine ⟨fun o => ?_, ?_, ?_, by simp, by simpa using h.bundleId, rfl⟩
    · rw [l.values_inner]
      cases o
      · exact hu'
      · exact h.scheme
    · rw [l.verboses_inner]
      exact hv'
    · rw [l.operands_inner]
      exact h.operands
  · unfold Draft.command
    split <;> rename_i hb hps
    · cases hb
    · cases hb
    · exact absurd hps h.permissions
    · cases hb
      rfl

theorem Item.knownIn_program_iff :
    x.KnownIn .program ↔ x.operand? = none ∧ x.value? .scheme = none := by
  cases x with
  | operand => simp [KnownIn, operand?]
  | option o => cases o <;> simp [KnownIn, Scope.knows, operand?, value?]
  | verbose => simp [KnownIn, operand?, value?]

theorem Item.knownIn_approve (x : Item) : x.KnownIn .approve := by
  cases x with
  | operand => rfl
  | option => exact .inr rfl
  | verbose => trivial

theorem Layout.readApprove_eq (l : Layout) (hp : ∀ x ∈ l.back, x.plain = true)
    (hr : r.Holds l.inner) :
    ({} : Draft).readApprove (backWords l.back l.escaped) = .ok r := by
  have hr : r.Holds ([] ++ l.back ++ (l.escaped.getD []).map .operand) := hr
  obtain ⟨after, hafter, htake⟩ := Draft.holds_empty.reads.exists_takesAll l.back _ hr hp
    fun x _ => x.knownIn_approve
  cases he : l.escaped with
  | none =>
    obtain ⟨-, e, hs, hh⟩ := hafter
    have : r = e := hr.unique (by simpa [he] using hh)
    have hread := htake.readApprove_append []
    rw [List.append_nil] at hread
    rw [backWords, hread, Draft.readApprove, hs, this]
  | some rest =>
    rw [backWords, htake.readApprove_append, Draft.readApprove, if_pos rfl]
    exact hafter.readOperands_eq (by simpa [he] using hr)

theorem Draft.invocation_eq_ok_iff {words : List String} :
    d.invocation words = .ok i ↔ ∃ inner outer : Draft, ({} : Draft).readApprove words = .ok inner ∧
      inner.command = .ok i.command ∧ d.settle = .ok outer ∧
      i.udid = inner.udid.or outer.udid ∧ i.verbose = (outer.verbose || inner.verbose) := by
  simp only [invocation, bind_eq_ok_iff, Except.ok.injEq]
  constructor
  · rintro ⟨inner, hr, command, hc, outer, hs, rfl⟩
    exact ⟨inner, outer, hr, hc, hs, rfl, rfl⟩
  · rintro ⟨inner, outer, hr, hc, hs, hu, hv⟩
    refine ⟨inner, hr, i.command, hc, outer, hs, ?_⟩
    rw [← hu, ← hv]

/-- However the items of an invocation are laid out, they are read as this invocation. -/
theorem ofArguments_of_writes (h : l.Writes i) : Invocation.ofArguments l.words = .ok i := by
  obtain ⟨outer, inner, houter, hinner, hcommand, hudid, hverbose⟩ := h.exists_holds
  have hplain := List.forall_mem_append.mp h.plain
  have hread := l.readApprove_eq hplain.2 hinner
  have hfront : outer.Holds ([] ++ l.front ++ []) := by simpa using houter
  obtain ⟨front, hreads, htake⟩ := Draft.holds_empty.reads.exists_takesAll l.front [] hfront
    hplain.1 fun x hx => Item.knownIn_program_iff.mpr (h.front x hx)
  obtain ⟨-, e, hs, he⟩ := hreads
  obtain rfl : e = outer := he.unique houter
  exact htake.readProgram_eq (Draft.not_waits_of_settle hs)
    (Draft.invocation_eq_ok_iff.mpr ⟨inner, e, hread, hcommand, hs, hudid, hverbose⟩)

/-- The device is called like the command and the scheme like a permission, and options
stand between operands. -/
theorem ofArguments_interleaved :
    let l : Layout := ⟨[.option .udid "approve" false],
      [.operand "com.example.app", .option .scheme "photos" false, .operand "url", .verbose true,
        .operand "photos", .operand "url"], none⟩
    let i : Invocation :=
      ⟨some "approve", true, ⟨"com.example.app", [.url, .photos, .url], some "photos"⟩⟩
    l.Writes i ∧
      Invocation.ofArguments ["--udid", "approve", "approve", "com.example.app", "--scheme",
        "photos", "url", "-v", "photos", "url"] = .ok i := by
  intro l i
  have h : l.Writes i := {
    plain := by decide
    front := by decide
    operands := by decide
    bundleId := by decide
    permissions := by decide
    scheme := by decide
    udid := ⟨some "approve", none, by decide, by decide, rfl⟩
    verbose := ⟨false, true, by decide, by decide, rfl⟩ }
  exact ⟨h, ofArguments_of_writes h⟩

-- ---------------------------------------------------------------------------
-- What is read has a layout
-- ---------------------------------------------------------------------------

theorem Draft.Holds.command_eq {command : ApproveCommand} (h : d.Holds items)
    (hc : d.command = .ok command) :
    command.bundleId ≠ "" ∧ command.permissions ≠ [] ∧
      values .scheme items = command.scheme.toList ∧
      CommandLine.operands items = command.bundleId :: command.permissions.map Permission.name := by
  have hs := h.given .scheme
  have ho := h.operands
  unfold Draft.command at hc
  split at hc
  · cases hc
  · cases hc
  · cases hc
  · rename_i bundleId permissions hb hne
    cases hc
    refine ⟨?_, ?_, hs, by simpa [hb] using ho⟩
    · rintro rfl
      exact h.named hb
    · intro hp
      exact hne hp

theorem Draft.exists_back {words : List String} (h : ({} : Draft).readApprove words = .ok r) :
    ∃ back escaped, words = Layout.backWords back escaped ∧ (∀ x ∈ back, x.plain = true) ∧
      r.Holds (back ++ (escaped.getD []).map .operand) := by
  obtain ⟨taken, after, htake, ⟨rfl, hs⟩ | ⟨rest, rfl, hrest⟩⟩ := takesAll_of_readApprove h
  · obtain ⟨back, hspell, hholds⟩ := htake.exists_items hs
    exact ⟨back, none, hspell.words_eq, hspell.plain, by simpa using hholds⟩
  · obtain ⟨e, hs, hadds⟩ := exists_of_readOperands (htake.consistent consistent_empty) hrest
    obtain ⟨back, hspell, hholds⟩ := htake.exists_items hs
    exact ⟨back, some rest, by rw [Layout.backWords, hspell.words_eq], hspell.plain,
      hadds back hholds⟩

/-- Each word of a command line that is read belongs to an item of a layout that writes
what was read. No word before the first `--` is one itself. -/
theorem exists_layout_of_ofArguments {args : List String}
    (h : Invocation.ofArguments args = .ok i) :
    ∃ l : Layout, l.words = args ∧ l.Writes i ∧
      "--" ∉ (l.front ++ l.back).flatMap Item.words := by
  obtain ⟨taken, after, rest, rfl, htake, hi⟩ := Draft.takesAll_of_readProgram h
  obtain ⟨inner, outer, hread, hcommand, hs, hudid, hverbose⟩ := Draft.invocation_eq_ok_iff.mp hi
  obtain ⟨front, hspell, houter⟩ := htake.exists_items hs
  obtain ⟨back, escaped, rfl, hplain, hinner⟩ := Draft.exists_back hread
  obtain ⟨hb, hps, hscheme, hoperands⟩ := hinner.command_eq hcommand
  have hvalues := (⟨front, back, escaped⟩ : Layout).values_inner
  have hall : ∀ x ∈ front ++ back, x.plain = true :=
    List.forall_mem_append.mpr ⟨hspell.plain, hplain⟩
  refine ⟨⟨front, back, escaped⟩, by rw [Layout.words, hspell.words_eq], ?_, fun hmem => ?_⟩
  · constructor
    case plain => exact hall
    case front => exact fun x hx => Item.knownIn_program_iff.mp (hspell.known x hx)
    case operands => rw [← hoperands, ← Layout.operands_inner, Layout.inner]
    case bundleId => exact hb
    case permissions => exact hps
    case scheme => rw [← hscheme, ← Layout.values_inner, Layout.inner]
    case udid =>
      refine ⟨outer.udid, inner.udid, houter.given .udid, ?_, hudid⟩
      exact (hvalues .udid).symm.trans (hinner.given .udid)
    case verbose =>
      refine ⟨outer.verbose, inner.verbose, houter.verbose, ?_, hverbose⟩
      exact (Layout.verboses_inner _).symm.trans hinner.verbose
  · obtain ⟨x, hx, hword⟩ := List.mem_flatMap.mp hmem
    exact Item.escape_notMem_words (hall x hx) hword

/-- Behind `--` an app may look like an option. -/
theorem exists_layout_of_escaped :
    let args := ["-v", "approve", "--udid=x", "--", "-app", "photos", "photos"]
    let i : Invocation := ⟨some "x", true, ⟨"-app", [.photos, .photos], none⟩⟩
    Invocation.ofArguments args = .ok i ∧ ∃ l : Layout, l.words = args ∧ l.Writes i ∧
      "--" ∉ (l.front ++ l.back).flatMap Item.words := by
  intro args i
  have h : Invocation.ofArguments args = .ok i := by rfl
  exact ⟨h, exists_layout_of_ofArguments h⟩

end SimApprove.CommandLine
