/-!
# Reading UTF-8

A reader that takes one byte at a time and never stops at a fault: every
maximal ill-formed piece of the input counts as one fault. `decode?` accepts
the inputs without a fault; `decodeLossy` puts U+FFFD where a fault is.
Writing is `List.utf8Encode` of the standard library.
-/

namespace SimApprove.Text.Utf8

/-- Between characters, or within one: how many bytes it still needs after the
next, the range the next byte has to be in, and the number read so far. -/
inductive Progress
  | start
  | within (more low high sofar : Nat)
  deriving DecidableEq, Repr

/-- What one byte completes, faults being `none`, and where it leaves the reader. -/
abbrev Reading := List (Option Char) × Progress

def lead (b : Nat) : Reading :=
  if b ≤ 0x7F then ([some (Char.ofNat b)], .start)
  else if 0xC2 ≤ b ∧ b ≤ 0xDF then ([], .within 0 0x80 0xBF (b - 0xC0))
  else if b = 0xE0 then ([], .within 1 0xA0 0xBF 0)
  else if b = 0xED then ([], .within 1 0x80 0x9F 0xD)
  else if 0xE1 ≤ b ∧ b ≤ 0xEF then ([], .within 1 0x80 0xBF (b - 0xE0))
  else if b = 0xF0 then ([], .within 2 0x90 0xBF 0)
  else if 0xF1 ≤ b ∧ b ≤ 0xF3 then ([], .within 2 0x80 0xBF (b - 0xF0))
  else if b = 0xF4 then ([], .within 2 0x80 0x8F 4)
  else ([none], .start)

/-- A byte out of range ends the piece before it and starts a character itself. -/
def step : Progress → Nat → Reading
  | .start, b => lead b
  | .within more low high sofar, b =>
    if low ≤ b ∧ b ≤ high then
      match more with
      | 0 => ([some (Char.ofNat (sofar * 64 + b % 64))], .start)
      | more + 1 => ([], .within more 0x80 0xBF (sofar * 64 + b % 64))
    else
      let (done, next) := lead b
      (none :: done, next)

def decodeFrom : Progress → List UInt8 → List (Option Char)
  | .start, [] => []
  | .within .., [] => [none]
  | progress, b :: rest =>
    let (done, next) := step progress b.toNat
    done ++ decodeFrom next rest

def decode (bytes : List UInt8) : List (Option Char) := decodeFrom .start bytes

def decode? (bytes : List UInt8) : Option String :=
  ((decode bytes).mapM id).map String.ofList

/-- The text of any bytes, with U+FFFD for each fault. -/
def decodeLossy (bytes : List UInt8) : String :=
  String.ofList ((decode bytes).map (·.getD '\ufffd'))

end SimApprove.Text.Utf8
