import SimApprove.Terminal.Colors
import SimApprove.Terminal.Plain

/-!
# Styled text

Text whose pieces are marked by what they are: headings, words to type as they
stand, and words that are right or wrong. A stream with colours gets every piece
between display attributes and otherwise as it is. On a stream without colours
each piece loses its control sequences; one that is left open ends with its
piece. `renderAll_plain` says that text without control characters is shown as
it is.
-/

namespace SimApprove.Terminal

inductive Span
  | text (s : String)
  | heading (s : String)
  | literal (s : String)
  | error (s : String)
  | valid (s : String)
  | invalid (s : String)
  deriving DecidableEq, Repr

namespace Span

def content : Span → String
  | text s | heading s | literal s | error s | valid s | invalid s => s

/-- Headings are bold and underlined, errors bold and red, literals bold; valid
words are green and invalid ones yellow. -/
def attributes : Span → List Nat
  | text _ => []
  | heading _ => [1, 4]
  | literal _ => [1]
  | error _ => [1, 31]
  | valid _ => [32]
  | invalid _ => [33]

def render (colored : Bool) (s : Span) : String :=
  if colored then paint (s.attributes ≠ []) s.attributes s.content else plain s.content

end Span

def renderAll (colored : Bool) (spans : List Span) : String :=
  String.join (spans.map (Span.render colored))

theorem renderAll_plain (spans : List Span)
    (h : ∀ s ∈ spans, ∀ c ∈ s.content.toList, isControl c = true → isBlankControl c = true) :
    renderAll false spans = String.join (spans.map Span.content) := by
  have hmap : spans.map (Span.render false) = spans.map Span.content :=
    List.map_congr_left fun s hs => by simp [Span.render, plain_eq_self _ (h s hs)]
  rw [renderAll, hmap]

end SimApprove.Terminal
