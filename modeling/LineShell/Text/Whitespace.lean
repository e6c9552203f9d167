import LineShell.Text.Span

/-!
# White space

The characters with the property `White_Space` of the Unicode standard.  The scanner has its own,
much smaller notion of a blank; this one is for tidying the end of a message.
-/

set_option autoImplicit false
namespace LineShell
namespace Text

/-- The spans of code points, first and last, of the white space characters. -/
def whitespaceSpans : List (Nat × Nat) :=
  [(0x09, 0x0D), (0x20, 0x20), (0x85, 0x85), (0xA0, 0xA0), (0x1680, 0x1680), (0x2000, 0x200A),
    (0x2028, 0x2029), (0x202F, 0x202F), (0x205F, 0x205F), (0x3000, 0x3000)]

/-- Is this a white space character? -/
def isWhitespace (c : Char) : Bool :=
  inSpans whitespaceSpans c.toNat

/-- Every character that the core library takes for white space is white space here. -/
theorem isWhitespace_of_core {c : Char} (h : c.isWhitespace = true) :
    isWhitespace c = true := by
  simp only [Char.isWhitespace, Bool.or_eq_true, decide_eq_true_eq] at h
  rcases h with ((rfl | rfl) | rfl) | rfl <;> decide

end Text
end LineShell
