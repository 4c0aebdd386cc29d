import SimApprove.Proofs.Toml.Spelling
import SimApprove.Toml.Statement

/-!
# Lines of a document

A part of the format that is enough for settings: lines with a key and a value, which is a
text, a number or a table between brackets of such values, and headers of tables. `Line`
says what a line means and `DocumentSpelling` how lines may be written, with blanks between
their parts. `linesSpelling_render` has a way to write any of them.
-/

namespace SimApprove.Toml

-- ---------------------------------------------------------------------------
-- Lines
-- ---------------------------------------------------------------------------

inductive Datum
  | text (s : String)
  | number (n : Nat)

inductive Line
  | entry (path : List String) (key : String) (datum : Datum)
  /-- The table that a key has between brackets. -/
  | group (key : String) (entries : List (String × Datum))
  | header (key : String)

def Datum.written : Datum → WrittenValue
  | text s => .quoted (some s)
  | number n => .scalar (Nat.toDigits 10 n)

def writtenKey (path : List String) (key : String) : WrittenKey := (path ++ [key]).map some

def writtenEntry (entry : String × Datum) : WrittenKey × WrittenValue :=
  (writtenKey [] entry.1, entry.2.written)

def Line.statement : Line → Statement
  | entry path key datum => .entry (writtenKey path key) datum.written
  | group key entries => .entry (writtenKey [] key) (.table (entries.map writtenEntry))
  | header key => .header (writtenKey [] key)

-- ---------------------------------------------------------------------------
-- Spellings
-- ---------------------------------------------------------------------------

def isKeyChar (c : Char) : Bool := c.isAlphanum || c = '_' || c = '-'

def IsBareKey (key : String) : Prop := key ≠ "" ∧ key.toList.all isKeyChar = true

def IsGap (cs : List Char) : Prop := ∀ c ∈ cs, isBlankChar c = true

def keyText (path : List String) (key : String) : List Char :=
  path.flatMap (fun part => part.toList ++ ['.']) ++ key.toList

inductive Datum.Spelling : Datum → List Char → Prop
  | text {text cs} (h : Toml.Spelling text.toList cs) : Spelling (.text text) ('"' :: (cs ++ ['"']))
  | number (n : Nat) : Spelling (.number n) (Nat.toDigits 10 n)

inductive KeySpelling (path : List String) (key : String) : List Char → Prop
  | mk {before} (hp : ∀ part ∈ path, IsBareKey part) (hk : IsBareKey key) (hb : IsGap before) :
      KeySpelling path key (keyText path key ++ (before ++ ['=']))

inductive Datum.Closed (datum : Datum) (c : Char) : List Char → Prop
  | mk {lead cs trail} (hl : IsGap lead) (hd : datum.Spelling cs) (ht : IsGap trail) :
      Closed datum c (lead ++ (cs ++ (trail ++ [c])))

/-- The entries of a table up to its closing bracket. A comma may follow the last one too. -/
inductive GroupSpelling : List (String × Datum) → List Char → Prop
  | nil {lead} (hl : IsGap lead) : GroupSpelling [] (lead ++ ['\x7d'])
  | last {key datum lead ks cs} (hl : IsGap lead) (hk : KeySpelling [] key ks)
      (hd : datum.Closed '\x7d' cs) : GroupSpelling [(key, datum)] (lead ++ (ks ++ cs))
  | cons {key datum lead ks cs entries more} (hl : IsGap lead) (hk : KeySpelling [] key ks)
      (hd : datum.Closed ',' cs) (h : GroupSpelling entries more) :
      GroupSpelling ((key, datum) :: entries) (lead ++ (ks ++ (cs ++ more)))

inductive Line.Spelling : Line → List Char → Prop
  | entry {path key datum ks cs} (hk : KeySpelling path key ks) (hd : datum.Closed '\n' cs) :
      Spelling (.entry path key datum) (ks ++ cs)
  | group {key entries ks lead cs trail} (hk : KeySpelling [] key ks) (hl : IsGap lead)
      (h : GroupSpelling entries cs) (ht : IsGap trail) :
      Spelling (.group key entries) (ks ++ (lead ++ ('\x7b' :: (cs ++ (trail ++ ['\n'])))))
  | header {key trail} (hk : IsBareKey key) (ht : IsGap trail) :
      Spelling (.header key) ('[' :: (key.toList ++ (']' :: (trail ++ ['\n']))))

inductive LinesSpelling : List Line → List Char → Prop
  | nil : LinesSpelling [] []
  | blank {lead lines rest} (hl : IsGap lead) (hr : LinesSpelling lines rest) :
      LinesSpelling lines (lead ++ '\n' :: rest)
  | cons {line lines cs rest} (h : line.Spelling cs) (hr : LinesSpelling lines rest) :
      LinesSpelling (line :: lines) (cs ++ rest)

/-- The last line of a document may go without its end. -/
def DocumentSpelling (lines : List Line) (cs : List Char) : Prop :=
  LinesSpelling lines cs ∨ LinesSpelling lines (cs ++ ['\n'])

-- ---------------------------------------------------------------------------
-- Writing
-- ---------------------------------------------------------------------------

def Datum.render : Datum → List Char
  | text s => '"' :: (s.toList.flatMap escape ++ ['"'])
  | number n => Nat.toDigits 10 n

/-- The usual spelling of a key with its value, up to what ends the value. -/
def renderPair (path : List String) (key : String) (datum : Datum) (stop : Char) : List Char :=
  keyText path key ++ ([' '] ++ ['=']) ++ ([' '] ++ (datum.render ++ ([] ++ [stop])))

def renderGroup : List (String × Datum) → List Char
  | [] => [] ++ ['\x7d']
  | [(key, datum)] => [' '] ++ renderPair [] key datum '\x7d'
  | (key, datum) :: entry :: entries =>
    [' '] ++ (renderPair [] key datum ',' ++ renderGroup (entry :: entries))

def Line.render : Line → List Char
  | entry path key datum => renderPair path key datum '\n'
  | group key entries =>
    keyText [] key ++ ([' '] ++ ['=']) ++
      ([' '] ++ '\x7b' :: (renderGroup entries ++ ([] ++ ['\n'])))
  | header key => '[' :: (key.toList ++ ']' :: ([] ++ ['\n']))

def Line.IsBare : Line → Prop
  | entry path key _ => (∀ part ∈ path, IsBareKey part) ∧ IsBareKey key
  | group key entries => IsBareKey key ∧ ∀ entry ∈ entries, IsBareKey entry.1
  | header key => IsBareKey key

theorem isGap_nil : IsGap [] := fun _ hc => nomatch hc

theorem isGap_space : IsGap [' '] := by
  intro c hc
  rw [List.mem_singleton.mp hc]
  rfl

theorem Datum.spelling_render (datum : Datum) : datum.Spelling datum.render := by
  cases datum with
  | text s => exact .text (spelling_escape s.toList)
  | number n => exact .number n

theorem KeySpelling.render {path : List String} {key : String}
    (hp : ∀ part ∈ path, IsBareKey part) (hk : IsBareKey key) :
    KeySpelling path key (keyText path key ++ ([' '] ++ ['='])) :=
  .mk hp hk isGap_space

theorem Datum.closed_render (datum : Datum) (stop : Char) :
    datum.Closed stop ([' '] ++ (datum.render ++ ([] ++ [stop]))) :=
  .mk isGap_space datum.spelling_render isGap_nil

theorem groupSpelling_renderGroup {entries : List (String × Datum)}
    (h : ∀ entry ∈ entries, IsBareKey entry.1) : GroupSpelling entries (renderGroup entries) := by
  have hnone : ∀ part ∈ ([] : List String), IsBareKey part := fun _ hp => nomatch hp
  induction entries with
  | nil => exact .nil isGap_nil
  | cons entry entries ih =>
    obtain ⟨key, datum⟩ := entry
    obtain ⟨hkey, hmore⟩ := List.forall_mem_cons.mp h
    cases entries with
    | nil => exact .last isGap_space (.render hnone hkey) (datum.closed_render _)
    | cons entry entries =>
      rw [renderGroup, renderPair, List.append_assoc]
      exact .cons isGap_space (.render hnone hkey) (datum.closed_render _) (ih hmore)

theorem Line.spelling_render {line : Line} (h : line.IsBare) : line.Spelling line.render := by
  have hnone : ∀ part ∈ ([] : List String), IsBareKey part := fun _ hp => nomatch hp
  cases line with
  | entry path key datum => exact .entry (.render h.1 h.2) (datum.closed_render _)
  | group key entries =>
    exact .group (.render hnone h.1) isGap_space (groupSpelling_renderGroup h.2) isGap_nil
  | header key => exact .header h isGap_nil

example : (Line.entry ["client"] "backend" (.text "a\"\n")).render =
    "client.backend = \"a\\\"\\u000a\"\n".toList := by decide

theorem linesSpelling_render {lines : List Line} (h : ∀ line ∈ lines, line.IsBare) :
    LinesSpelling lines (lines.flatMap Line.render) := by
  induction lines with
  | nil => exact .nil
  | cons line lines ih =>
    obtain ⟨hline, hmore⟩ := List.forall_mem_cons.mp h
    exact .cons (Line.spelling_render hline) (ih hmore)

-- ---------------------------------------------------------------------------
-- No carriage returns
-- ---------------------------------------------------------------------------

theorem IsGap.notMem_return {cs : List Char} (h : IsGap cs) : '\r' ∉ cs := by
  intro hm
  exact absurd (h _ hm) (by decide)

theorem IsBareKey.notMem_return {key : String} (h : IsBareKey key) : '\r' ∉ key.toList := by
  intro hm
  exact absurd (List.all_eq_true.mp h.2 _ hm) (by decide)

theorem KeySpelling.notMem_return {path : List String} {key : String} {ks : List Char}
    (h : KeySpelling path key ks) : '\r' ∉ ks := by
  cases h with
  | mk hp hk hb =>
    have hpath : ∀ part ∈ path, '\r' ∉ part.toList := fun part hm => (hp part hm).notMem_return
    simpa [keyText, hk.notMem_return, hb.notMem_return] using hpath

theorem Datum.Spelling.notMem_return {datum : Datum} {cs : List Char} (h : datum.Spelling cs) :
    '\r' ∉ cs := by
  cases h with
  | text hs => simpa using hs.notMem_return
  | number n =>
    intro hm
    have hd : '\r'.isDigit = true := Nat.isDigit_of_mem_toDigits (by decide) (by decide) hm
    exact absurd hd (by decide)

theorem Datum.Closed.notMem_return {datum : Datum} {c : Char} {cs : List Char}
    (h : datum.Closed c cs) (hc : '\r' ≠ c) : '\r' ∉ cs := by
  cases h with
  | mk hl hd ht => simp [hl.notMem_return, hd.notMem_return, ht.notMem_return, hc]

theorem GroupSpelling.notMem_return {entries : List (String × Datum)} {cs : List Char}
    (h : GroupSpelling entries cs) : '\r' ∉ cs := by
  induction h with
  | nil hl => simp [hl.notMem_return]
  | last hl hk hd => simp [hl.notMem_return, hk.notMem_return, hd.notMem_return]
  | cons hl hk hd _ ih => simp [hl.notMem_return, hk.notMem_return, hd.notMem_return, ih]

theorem LinesSpelling.notMem_return {lines : List Line} {cs : List Char}
    (h : LinesSpelling lines cs) : '\r' ∉ cs := by
  induction h with
  | nil => exact List.not_mem_nil
  | blank hl _ ih => simp [hl.notMem_return, ih]
  | cons hline _ ih =>
    refine List.not_mem_append ?_ ih
    cases hline with
    | entry hk hd => simp [hk.notMem_return, hd.notMem_return]
    | group hk hl hg ht =>
      simp [hk.notMem_return, hl.notMem_return, hg.notMem_return, ht.notMem_return]
    | header hk ht => simp [hk.notMem_return, ht.notMem_return]

end SimApprove.Toml
