import SimApprove.Text.Graphic

/-!
# Quoted text

`quote` writes a text between double quotes so that it stays on one line: a
quote and a backslash are escaped, four controls have short names, and any
other character that is not graphic is written by its code point. Messages and
log lines use it for texts whose ends would not show otherwise.
-/

namespace SimApprove.Text

def hexDigits (n : Nat) : List Char := Nat.toDigits 16 n

def escapeChar (c : Char) : List Char :=
  if c = '"' then ['\\', '"']
  else if c = '\\' then ['\\', '\\']
  else if c = '\n' then ['\\', 'n']
  else if c = '\r' then ['\\', 'r']
  else if c = '\t' then ['\\', 't']
  else if c.toNat = 0 then ['\\', '0']
  else if isGraphic c then [c]
  else ['\\', 'u', '\x7b'] ++ hexDigits c.toNat ++ ['\x7d']

def quote (s : String) : String :=
  String.ofList ('"' :: (s.toList.flatMap escapeChar ++ ['"']))

end SimApprove.Text
