import SimApprove.Text.Numeral
import SimApprove.Toml.Moment
import SimApprove.Toml.Value

/-!
# Unquoted values

Truth values, numbers, and dates and times. What kind of number a text is can be
told from its first characters. From then on the grammar looks at the
underscores of an integer, but not at all of its digits: `1_a` passes as an
integer, and only has no value.
-/

namespace SimApprove.Toml

/-! ## Underscores -/

/-- Underscores stand between digits. `sound` tells whether one may follow here. -/
def groupedFrom (isDigit : Char → Bool) (sound : Bool) : List Char → Bool
  | [] => true
  | '_' :: c :: cs => sound && isDigit c && groupedFrom isDigit true cs
  | '_' :: [] => false
  | c :: cs => groupedFrom isDigit (isDigit c) cs

/-- Underscores stand between digits, or after the first character whatever it
is, and each has a digit after it. -/
def isGrouped (isDigit : Char → Bool) : List Char → Bool
  | [] => true
  | c :: cs => c ≠ '_' && groupedFrom isDigit true cs

def ungroup (cs : List Char) : List Char := cs.filter (· ≠ '_')

/-! ## Digits of a base -/

def isHexDigit (c : Char) : Bool := (Text.hexValue? c).isSome

def isOctalDigit (c : Char) : Bool := '0' ≤ c && c ≤ '7'

def isBinaryDigit (c : Char) : Bool := c = '0' || c = '1'

def baseValue (base sofar : Nat) : List Char → Nat
  | [] => sofar
  | c :: cs => baseValue base (sofar * base + (Text.hexValue? c).getD 0) cs

/-! ## Integers -/

/-- An integer after the letter of its base. There may be no digit at all, and
then it has no value. -/
def readBase? (base : Nat) (isDigit : Char → Bool) (cs : List Char) : Option Value :=
  if (cs.all fun c => isDigit c || c = '_') && isGrouped isDigit cs then
    some (if cs.isEmpty then .unreadable else .ofInteger (baseValue base 0 (ungroup cs) : Nat))
  else none

/-- The value of a decimal integer. Its underscores are sound, but its digits
have not been looked at. -/
def decimalInteger (cs : List Char) : Value :=
  match Text.readSigned? (ungroup cs) with
  | some n => .ofInteger n
  | none => .unreadable

/-! ## Floating point numbers -/

def isExponentMark (c : Char) : Bool := c = 'e' || c = 'E'

def splitAtFirst (test : Char → Bool) (cs : List Char) : List Char × Option (List Char) :=
  (cs.takeWhile fun c => !test c,
    match cs.dropWhile fun c => !test c with
    | [] => none
    | _ :: rest => some rest)

def readDigits? (cs : List Char) : Option (List Char) := if Text.isNumeral cs then some cs else none

def readExponent? : Option (List Char) → Option Int
  | none => some 0
  | some cs => Text.readSigned? cs

def readFraction? : Option (List Char) → Option (List Char)
  | none => some []
  | some cs => readDigits? cs

def readDecimal? (cs : List Char) : Option FloatLiteral := do
  let (negative, cs) := Text.takeSign cs
  let (mantissa, exponent) := splitAtFirst isExponentMark cs
  let (whole, fraction) := splitAtFirst (· = '.') mantissa
  let whole ← readDigits? whole
  let fraction ← readFraction? fraction
  let exponent ← readExponent? exponent
  some (.decimal negative (Text.digitsValue 0 (whole ++ fraction)) (exponent - fraction.length))

/-! ## Numbers, dates and times -/

def hasLeadingZero (cs : List Char) : Bool :=
  cs.head? = some '0' && 2 ≤ (cs.takeWhile fun c => c.isDigit || c = '_').length

/-- A number without a base, or a date or time. What follows the first digits
tells which. -/
def readNumber? (cs : List Char) : Option Value :=
  let unsigned := (Text.takeSign cs).2
  match unsigned.dropWhile Char.isDigit with
  | [] => if unsigned.isEmpty || hasLeadingZero unsigned then none else some (decimalInteger cs)
  | '-' :: _ | ':' :: _ => if isMoment cs then some .moment else none
  | c :: rest =>
    if hasLeadingZero unsigned || (c :: rest).contains ' ' then none
    else if (c :: rest).any fun c => c = '.' || isExponentMark c then
      if isGrouped Char.isDigit cs then (readDecimal? (ungroup cs)).map .ofFloat else none
    else if c = '_' && isGrouped isHexDigit cs then some (decimalInteger cs)
    else none

def namedFloat? (cs : List Char) : Option FloatLiteral :=
  match Text.takeSign cs with
  | (negative, ['i', 'n', 'f']) => some (.infinity negative)
  | (_, ['n', 'a', 'n']) => some .nan
  | _ => none

def readScalar? (cs : List Char) : Option Value :=
  match cs with
  | ['t', 'r', 'u', 'e'] => some (.boolean true)
  | ['f', 'a', 'l', 's', 'e'] => some (.boolean false)
  | '0' :: 'x' :: cs => readBase? 16 isHexDigit cs
  | '0' :: 'o' :: cs => readBase? 8 isOctalDigit cs
  | '0' :: 'b' :: cs => readBase? 2 isBinaryDigit cs
  | cs =>
    match namedFloat? cs with
    | some f => some (.float f)
    | none => readNumber? cs

end SimApprove.Toml
