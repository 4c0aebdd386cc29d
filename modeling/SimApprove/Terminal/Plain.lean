/-!
# Text without terminal controls

A message that quotes what the user typed must not steer the terminal. `plain`
drops control characters other than blanks, and whole control sequences: those
that start with an escape character, up to the character that ends them.
`plain_eq_self` says that other text stays as it is.
-/

namespace SimApprove.Terminal

/-- Whether a control sequence is open, and what kind it is. -/
inductive Sequence
  | none
  | start
  /-- After an escape character and a mark, with one more character to come. -/
  | marked
  /-- Parameters, up to a letter. -/
  | parameters
  /-- A command, up to a bell or the next sequence. -/
  | command
  /-- The head of a device string: at its start, in its numbers, in its marks. -/
  | device
  | deviceNumbers
  | deviceMarks
  /-- A string, up to its terminator or the next sequence. -/
  | string
  deriving DecidableEq, Repr

def isBlankControl (c : Char) : Bool := c = '\t' || c = '\n' || c = '\x0c' || c = '\r'

def isControl (c : Char) : Bool := c.toNat < 0x20 || c = '\x7f'

def isMark (c : Char) : Bool := 0x20 ≤ c.toNat && c.toNat ≤ 0x2F

def isNumeric (c : Char) : Bool := 0x30 ≤ c.toNat && c.toNat ≤ 0x3B

def isFinal (c : Char) : Bool := 0x40 ≤ c.toNat

def Sequence.after (c : Char) : Sequence :=
  if c = '[' then .parameters
  else if c = ']' then .command
  else if c = 'P' then .device
  else if ['X', '^', '_'].contains c then .string
  else if isMark c then .marked
  else .none

def Sequence.next (s : Sequence) (c : Char) : Sequence :=
  match s with
  | .none => .none
  | .start => .after c
  | .marked => if isMark c then .marked else .none
  | .parameters => if isFinal c then .none else .parameters
  | .command => .command
  | .device =>
    if isFinal c then .string else if isMark c then .deviceMarks else .deviceNumbers
  | .deviceNumbers =>
    if isMark c then .deviceMarks else if isNumeric c then .deviceNumbers else .string
  | .deviceMarks => if isMark c then .deviceMarks else .string
  | .string => .string

/-- The byte that ends strings, also where it is a part of a character. -/
def stringTerminator : UInt8 := 0x9C

def Sequence.beyond (s : Sequence) (c : Char) : Sequence :=
  if s = .string ∧ (String.utf8EncodeChar c).contains stringTerminator then .none else s

def Sequence.control (s : Sequence) (c : Char) : Sequence :=
  if c = '\x1b' then .start
  else if c = '\x18' ∨ c = '\x1a' then .none
  else if s = .command ∧ c = '\x07' then .none
  else s

/-- A blank shows up within all sequences but those that hold text of their own. -/
def Sequence.holdsText (s : Sequence) : Bool :=
  [.command, .device, .deviceNumbers, .deviceMarks, .string].contains s

def plainFrom (s : Sequence) : List Char → List Char
  | [] => []
  | c :: cs =>
    if isControl c then
      if isBlankControl c ∧ !s.holdsText then c :: plainFrom .none cs
      else plainFrom (s.control c) cs
    else if s = .none then c :: plainFrom .none cs
    else plainFrom (if c.toNat < 0x80 then s.next c else s.beyond c) cs

def plain (text : String) : String := String.ofList (plainFrom .none text.toList)

theorem plainFrom_eq_self (cs : List Char)
    (h : ∀ c ∈ cs, isControl c = true → isBlankControl c = true) : plainFrom .none cs = cs := by
  induction cs with
  | nil => rfl
  | cons c cs ih =>
    have hc := h c (List.mem_cons_self ..)
    have hrest := ih fun d hd => h d (List.mem_cons_of_mem c hd)
    simp only [plainFrom]
    split
    · next hcontrol => simp [hc hcontrol, Sequence.holdsText, hrest]
    · simp [hrest]

theorem plain_eq_self (text : String)
    (h : ∀ c ∈ text.toList, isControl c = true → isBlankControl c = true) : plain text = text := by
  simp [plain, plainFrom_eq_self _ h]

end SimApprove.Terminal
