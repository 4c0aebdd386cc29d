import SimApprove.Text.Numeral

/-!
# Quoted texts

What stands between quotes, and the text that it means. Between single quotes
every character stands for itself; between double quotes escapes are replaced,
and in a text of several lines a backslash at the end of a line joins it with the
next. The text is read by an automaton that takes one character at a time.
-/

namespace SimApprove.Toml

inductive Quote
  | basic
  | literal
  deriving DecidableEq, Repr

def Quote.mark : Quote → Char
  | basic => '"'
  | literal => '\x27'

structure Quoting where
  quote : Quote
  /-- Between three quotes instead of one. -/
  multiline : Bool
  deriving DecidableEq, Repr

def isTextChar (c : Char) : Bool := c = '\t' || (0x20 ≤ c.toNat && c.toNat ≠ 0x7F)

def isBlankChar (c : Char) : Bool := c = ' ' || c = '\t'

/-! ## Escapes -/

def shortEscape? : Char → Option Char
  | 'b' => some '\x08'
  | 't' => some '\t'
  | 'n' => some '\n'
  | 'f' => some '\x0c'
  | 'r' => some '\r'
  | 'e' => some '\x1b'
  | '"' => some '"'
  | '\\' => some '\\'
  | _ => none

def codeLength? : Char → Option Nat
  | 'x' => some 2
  | 'u' => some 4
  | 'U' => some 8
  | _ => none

def charOfCode? (n : Nat) : Option Char := if n.isValidChar then some (Char.ofNat n) else none

/-! ## Reading -/

inductive Reading
  | text
  /-- After a carriage return, which must begin a line end. -/
  | carriage
  | escape
  | code (more value : Nat)
  /-- After a backslash at the end of a line: before and after the line end. -/
  | joinBefore
  | joinCarriage
  | joinAfter
  deriving DecidableEq, Repr

namespace Reading

abbrev Move := Option (List Char × Reading)

def plain (q : Quoting) (c : Char) : Move :=
  if q.quote = .basic ∧ c = '\\' then some ([], .escape)
  else if q.multiline ∧ c = '\r' then some ([], .carriage)
  else if (q.multiline ∧ c = '\n') ∨ isTextChar c then some ([c], .text)
  else none

def joining (c : Char) : Move :=
  if isBlankChar c then some ([], .joinBefore)
  else if c = '\n' then some ([], .joinAfter)
  else if c = '\r' then some ([], .joinCarriage)
  else none

def escaped (q : Quoting) (c : Char) : Move :=
  match shortEscape? c, codeLength? c with
  | some e, _ => some ([e], .text)
  | none, some n => some ([], .code n 0)
  | none, none => if q.multiline then joining c else none

def step (q : Quoting) (r : Reading) (c : Char) : Move :=
  match r with
  | .text => plain q c
  | .carriage => if c = '\n' then some (['\r', '\n'], .text) else none
  | .escape => escaped q c
  | .code 0 _ => none
  | .code (more + 1) value => do
    let value := value * 16 + (← Text.hexValue? c)
    if more = 0 then some ([← charOfCode? value], .text) else some ([], .code more value)
  | .joinBefore => joining c
  | .joinCarriage => if c = '\n' then some ([], .joinAfter) else none
  | .joinAfter =>
    if isBlankChar c ∨ c = '\n' then some ([], .joinAfter)
    else if c = '\r' then some ([], .joinCarriage)
    else plain q c

def run (q : Quoting) (r : Reading) : List Char → Option (List Char)
  | [] => if r = .text ∨ r = .joinAfter then some [] else none
  | c :: cs => do
    let (added, r) ← r.step q c
    (run q r cs).map (added ++ ·)

end Reading

def dropLineEnd : List Char → List Char
  | '\n' :: cs => cs
  | '\r' :: '\n' :: cs => cs
  | cs => cs

def Quoting.read? (q : Quoting) (raw : List Char) : Option String :=
  (Reading.run q .text (if q.multiline then dropLineEnd raw else raw)).map String.ofList

end SimApprove.Toml
