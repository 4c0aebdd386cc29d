import SimApprove.Toml.Quoted

/-!
# Lexemes of TOML

A document is cut into lexemes by an automaton that takes one character at a
time. Comments vanish; runs of blanks and line ends stay, since they separate.
A quoted text becomes a lexeme even if what it holds is faulty, and one of a
single line even if its quote is never closed: whether that matters is decided
where its text is needed.

`lexemes?` is `none` for a document with a carriage return that ends no line, or
with a control character in a comment.
-/

namespace SimApprove.Toml

inductive Lexeme
  | dot
  | equals
  | comma
  | openSquare
  | closeSquare
  | openCurly
  | closeCurly
  | newline
  | blank (run : List Char)
  | bare (run : List Char)
  /-- A quoted text, or nothing if it is faulty. -/
  | quoted (text : Option String) (multiline : Bool)
  deriving DecidableEq, Repr

/-- Where the automaton stands. Texts read so far are in reverse, and `slash`
tells that a backslash takes the next character's meaning away. -/
inductive Mode
  | plain
  | carriage
  | comment
  | blank (run : List Char)
  | bare (run : List Char)
  | opening (q : Quote) (two : Bool)
  | line (q : Quote) (raw : List Char) (slash : Bool)
  /-- Within three quotes; so many of the closing ones have come. -/
  | block (q : Quote) (raw : List Char) (slash : Bool) (quotes : Nat)
  deriving DecidableEq, Repr

abbrev Move := List Lexeme × Mode

def endsBare (c : Char) : Bool :=
  ['.', '=', ',', '[', ']', '\x7b', '\x7d', ' ', '\t', '#', '\r', '\n'].contains c

def Mode.begin (c : Char) : Move :=
  match c with
  | '.' => ([.dot], .plain)
  | '=' => ([.equals], .plain)
  | ',' => ([.comma], .plain)
  | '[' => ([.openSquare], .plain)
  | ']' => ([.closeSquare], .plain)
  | '\x7b' => ([.openCurly], .plain)
  | '\x7d' => ([.closeCurly], .plain)
  | '\n' => ([.newline], .plain)
  | '\r' => ([], .carriage)
  | '#' => ([], .comment)
  | '"' => ([], .opening .basic false)
  | '\x27' => ([], .opening .literal false)
  | c => if isBlankChar c then ([], .blank [c]) else ([], .bare [c])

def Mode.after (done : Lexeme) (c : Char) : Move :=
  let (more, next) := Mode.begin c
  (done :: more, next)

def Lexeme.ofRaw (q : Quote) (multiline : Bool) (raw : List Char) : Lexeme :=
  .quoted (Quoting.read? ⟨q, multiline⟩ raw.reverse) multiline

def Quote.escapes (q : Quote) (c : Char) : Bool := q = .basic && c = '\\'

/-- Within single quotes of either kind. The end of the line ends the text too. -/
def Mode.inLine (q : Quote) (raw : List Char) (slash : Bool) (c : Char) : Move :=
  if c = '\n' then ([.quoted none false, .newline], .plain)
  else if slash then ([], .line q (c :: raw) false)
  else if c = q.mark then ([.ofRaw q false raw], .plain)
  else ([], .line q (c :: raw) (q.escapes c))

/-- Three quotes close the text, and up to two more before them belong to it. -/
def Mode.inBlock (q : Quote) (raw : List Char) (slash : Bool) (quotes : Nat) (c : Char) : Move :=
  if slash then ([], .block q (c :: raw) false 0)
  else if c = q.mark then
    if quotes = 4 then ([.ofRaw q true (q.mark :: q.mark :: raw)], .plain)
    else ([], .block q raw false (quotes + 1))
  else if 3 ≤ quotes then
    Mode.after (.ofRaw q true (List.replicate (quotes - 3) q.mark ++ raw)) c
  else ([], .block q (c :: (List.replicate quotes q.mark ++ raw)) (q.escapes c) 0)

def Mode.step (m : Mode) (c : Char) : Option Move :=
  match m with
  | .plain => some (Mode.begin c)
  | .carriage => if c = '\n' then some ([.newline], .plain) else none
  | .comment =>
    if c = '\n' then some ([.newline], .plain)
    else if c = '\r' then some ([], .carriage)
    else if isTextChar c then some ([], .comment)
    else none
  | .blank run =>
    some (if isBlankChar c then ([], .blank (c :: run)) else Mode.after (.blank run.reverse) c)
  | .bare run =>
    some (if endsBare c then Mode.after (.bare run.reverse) c else ([], .bare (c :: run)))
  | .opening q false =>
    some (if c = q.mark then ([], .opening q true) else Mode.inLine q [] false c)
  | .opening q true =>
    some (if c = q.mark then ([], .block q [] false 0) else Mode.after (.ofRaw q false []) c)
  | .line q raw slash => some (Mode.inLine q raw slash c)
  | .block q raw slash quotes => some (Mode.inBlock q raw slash quotes c)

def Mode.finish : Mode → Option (List Lexeme)
  | .plain | .comment => some []
  | .carriage => none
  | .blank run => some [.blank run.reverse]
  | .bare run => some [.bare run.reverse]
  | .opening q true => some [.ofRaw q false []]
  | .opening _ false | .line .. => some [.quoted none false]
  | .block q raw _ quotes =>
    some [if 3 ≤ quotes then .ofRaw q true (List.replicate (quotes - 3) q.mark ++ raw)
      else .quoted none true]

def lexFrom (m : Mode) : List Char → Option (List Lexeme)
  | [] => m.finish
  | c :: cs => do
    let (done, next) ← m.step c
    (lexFrom next cs).map (done ++ ·)

def dropMark : List Char → List Char
  | '\ufeff' :: cs => cs
  | cs => cs

def lexemes? (document : String) : Option (List Lexeme) := lexFrom .plain (dropMark document.toList)

end SimApprove.Toml
