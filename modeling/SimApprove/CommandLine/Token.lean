/-!
# Tokens of the command line

What one word of the command line looks like, before its meaning is known. A
lone `-` is an ordinary word; `--name=value` is split at its first `=`.
-/

namespace SimApprove.CommandLine

inductive Token
  | escape
  | long (name : String) (value : Option String)
  | cluster (letters : List Char)
  | word (text : String)
  deriving DecidableEq, Repr

def Token.ofLong (cs : List Char) : Token :=
  match cs.dropWhile (· ≠ '=') with
  | [] => .long (String.ofList cs) none
  | _ :: value => .long (String.ofList (cs.takeWhile (· ≠ '='))) (some (String.ofList value))

def Token.ofString (s : String) : Token :=
  match s.toList with
  | ['-', '-'] => .escape
  | '-' :: '-' :: cs => .ofLong cs
  | ['-'] => .word s
  | '-' :: cs => .cluster cs
  | _ => .word s

def Token.text : Token → String
  | escape => "--"
  | long name none => "--" ++ name
  | long name (some value) => "--" ++ name ++ "=" ++ value
  | cluster letters => String.ofList ('-' :: letters)
  | word text => text

theorem Token.toList_text_ofLong (cs : List Char) :
    (Token.ofLong cs).text.toList = '-' :: '-' :: cs := by
  have hs := List.takeWhile_append_dropWhile (p := (· ≠ '=')) (l := cs)
  unfold ofLong
  cases h : cs.dropWhile (· ≠ '=') with
  | nil => simp [text]
  | cons c value =>
    have hc : c = '=' := by
      have := List.head?_dropWhile_not (fun c : Char => decide (c ≠ '=')) cs
      rw [h] at this
      simpa using this
    rw [h, hc] at hs
    simp only [text, String.toList_append, String.toList_ofList]
    exact congrArg (fun cs => '-' :: '-' :: cs) (by simpa using hs)

theorem Token.text_ofString (s : String) : (Token.ofString s).text = s := by
  unfold ofString
  split
  · rename_i h
    exact (String.toList_injective h).symm
  · rename_i h
    exact String.toList_injective ((toList_text_ofLong _).trans h.symm)
  · rfl
  · rename_i h
    rw [text, ← h, String.ofList_toList]
  · rfl

/-- A word that starts with `-` and goes on: never a value after its option, nor an
operand in front of `--`. -/
def optionLike (word : String) : Bool :=
  match word.toList with
  | '-' :: _ :: _ => true
  | _ => false

theorem Token.ofLong_ne_word (cs : List Char) (text : String) : Token.ofLong cs ≠ .word text := by
  unfold ofLong
  split <;> simp

theorem Token.ofString_eq_word_iff {word text : String} :
    Token.ofString word = .word text ↔ text = word ∧ optionLike word = false := by
  unfold ofString optionLike
  cases hw : word.toList with
  | nil => simp [eq_comm]
  | cons c cs =>
    by_cases hc : c = '-'
    · subst hc
      cases cs with
      | nil => simp [eq_comm]
      | cons d cs =>
        by_cases hd : d = '-'
        · subst hd
          cases cs <;> simp [ofLong_ne_word]
        · simp [hd]
    · simp [hc, eq_comm]

end SimApprove.CommandLine
