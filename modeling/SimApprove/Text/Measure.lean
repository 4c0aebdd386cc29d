/-!
# Size in bytes, cutting and searching

Limits on texts count UTF-8 bytes, but a text is only cut between characters:
`cut limit cs` is the longest start of `cs` that takes at most `limit` bytes.
`occursIn` searches for a contiguous piece.
-/

namespace SimApprove.Text

def byteSize : List Char → Nat
  | [] => 0
  | c :: cs => c.utf8Size + byteSize cs

def cut (limit : Nat) : List Char → List Char
  | [] => []
  | c :: cs => if c.utf8Size ≤ limit then c :: cut (limit - c.utf8Size) cs else []

theorem byteSize_append (cs ds : List Char) : byteSize (cs ++ ds) = byteSize cs + byteSize ds := by
  induction cs with
  | nil => simp [byteSize]
  | cons c cs ih => simp [byteSize, ih, Nat.add_assoc]

theorem byteSize_cut_le (limit : Nat) (cs : List Char) : byteSize (cut limit cs) ≤ limit := by
  induction cs generalizing limit with
  | nil => simp [cut, byteSize]
  | cons c cs ih =>
    simp only [cut]
    split
    · have := ih (limit - c.utf8Size)
      simp only [byteSize]
      omega
    · simp [byteSize]

theorem cut_append_drop (limit : Nat) (cs : List Char) :
    ∃ rest, cs = cut limit cs ++ rest := by
  induction cs generalizing limit with
  | nil => exact ⟨[], rfl⟩
  | cons c cs ih =>
    simp only [cut]
    split
    · obtain ⟨rest, h⟩ := ih (limit - c.utf8Size)
      exact ⟨rest, by rw [List.cons_append, ← h]⟩
    · exact ⟨c :: cs, rfl⟩

def occursIn (piece : List Char) : List Char → Bool
  | [] => piece.isEmpty
  | c :: cs => piece.isPrefixOf (c :: cs) || occursIn piece cs

def contains (text piece : String) : Bool := occursIn piece.toList text.toList

end SimApprove.Text
