/-!
# Dates and times

Recognises a date, a time of day, or both with an optional offset. The day must
exist in its month, and seconds may be left out.
-/

namespace SimApprove.Toml

def takeDigits? : Nat → List Char → Option (Nat × List Char)
  | 0, cs => some (0, cs)
  | count + 1, c :: cs =>
    if c.isDigit then
      (takeDigits? count cs).map fun (n, rest) =>
        ((c.toNat - '0'.toNat) * Nat.pow 10 count + n, rest)
    else none
  | _ + 1, [] => none

def takeChar? (expected : Char) : List Char → Option (List Char)
  | c :: cs => if c = expected then some cs else none
  | [] => none

def isLeapYear (year : Nat) : Bool := year % 4 = 0 && (year % 100 ≠ 0 || year % 400 = 0)

def daysInMonth (year month : Nat) : Nat :=
  if month = 2 then (if isLeapYear year then 29 else 28)
  else if [4, 6, 9, 11].contains month then 30
  else 31

def dropDate? (cs : List Char) : Option (List Char) := do
  let (year, cs) ← takeDigits? 4 cs
  let cs ← takeChar? '-' cs
  let (month, cs) ← takeDigits? 2 cs
  let cs ← takeChar? '-' cs
  let (day, cs) ← takeDigits? 2 cs
  if 1 ≤ month ∧ month ≤ 12 ∧ 1 ≤ day ∧ day ≤ daysInMonth year month then some cs else none

/-- A fraction of a second has at least one digit. -/
def dropFraction? : List Char → Option (List Char)
  | '.' :: c :: cs => if c.isDigit then some (cs.dropWhile Char.isDigit) else none
  | '.' :: [] => none
  | cs => some cs

/-- Seconds may reach 60, for a leap second. -/
def dropSeconds? : List Char → Option (List Char)
  | ':' :: cs => do
    let (second, cs) ← takeDigits? 2 cs
    if second ≤ 60 then dropFraction? cs else none
  | cs => some cs

def dropTime? (cs : List Char) : Option (List Char) := do
  let (hour, cs) ← takeDigits? 2 cs
  let cs ← takeChar? ':' cs
  let (minute, cs) ← takeDigits? 2 cs
  if hour ≤ 23 ∧ minute ≤ 59 then dropSeconds? cs else none

def isOffset : List Char → Bool
  | [] => true
  | c :: cs =>
    if c = 'Z' ∨ c = 'z' then cs.isEmpty
    else if c = '+' ∨ c = '-' then
      match takeDigits? 2 cs with
      | some (hours, ':' :: cs) =>
        match takeDigits? 2 cs with
        | some (minutes, []) => hours ≤ 23 && minutes ≤ 59
        | _ => false
      | _ => false
    else false

def isMoment (cs : List Char) : Bool :=
  match dropDate? cs with
  | some [] => true
  | some (separator :: rest) =>
    ['T', 't', ' '].contains separator &&
      (match dropTime? rest with
      | some offset => isOffset offset
      | none => false)
  | none => dropTime? cs = some []

end SimApprove.Toml
