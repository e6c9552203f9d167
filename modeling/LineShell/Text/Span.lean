/-!
# Spans of code points

Classes of characters are tables of spans, each given by its first and its last code point.
-/

set_option autoImplicit false
namespace LineShell
namespace Text

/-- `inSpans spans n` tells whether the code point `n` lies in one of the spans. -/
def inSpans (spans : List (Nat × Nat)) (n : Nat) : Bool :=
  spans.any fun span => span.1 ≤ n && n ≤ span.2

/-- A code point lies in a table if it lies between the ends of one of its spans. -/
theorem inSpans_iff {spans : List (Nat × Nat)} {n : Nat} :
    inSpans spans n = true ↔ ∃ span ∈ spans, span.1 ≤ n ∧ n ≤ span.2 := by
  simp [inSpans]

end Text
end LineShell
