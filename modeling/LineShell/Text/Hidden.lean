import LineShell.Text.Extending
import LineShell.Text.Unassigned

/-!
# Characters that a quoted text hides

A quoted text is meant to be read on a terminal, so it shows by number whatever a reader could not
tell apart there: controls, format characters, every separator but the plain space, private use and
unassigned code points, blank letters, and characters that merge with the character before them.
-/

set_option autoImplicit false
namespace LineShell
namespace Text

/-- Is `n` a control character (general category `Cc`)? -/
def isControl (n : Nat) : Bool :=
  n ≤ 0x1F || (0x7F ≤ n && n ≤ 0x9F)

/-- The spans of the format characters (general category `Cf`). -/
def formatSpans : List (Nat × Nat) :=
  [(0x00AD, 0x00AD), (0x0600, 0x0605), (0x061C, 0x061C), (0x06DD, 0x06DD), (0x070F, 0x070F),
    (0x0890, 0x0891), (0x08E2, 0x08E2), (0x180E, 0x180E), (0x200B, 0x200F), (0x202A, 0x202E),
    (0x2060, 0x2064), (0x2066, 0x206F), (0xFEFF, 0xFEFF), (0xFFF9, 0xFFFB), (0x110BD, 0x110BD),
    (0x110CD, 0x110CD), (0x13430, 0x1343F), (0x1BCA0, 0x1BCA3), (0x1D173, 0x1D17A),
    (0xE0001, 0xE0001), (0xE0020, 0xE007F)]

/-- The spans of the separators (general categories `Zs`, `Zl` and `Zp`) other than the space. -/
def separatorSpans : List (Nat × Nat) :=
  [(0x00A0, 0x00A0), (0x1680, 0x1680), (0x2000, 0x200A), (0x2028, 0x2029), (0x202F, 0x202F),
    (0x205F, 0x205F), (0x3000, 0x3000)]

/-- The spans of the private use code points (general category `Co`). -/
def privateSpans : List (Nat × Nat) :=
  [(0xE000, 0xF8FF), (0xF0000, 0xFFFFD), (0x100000, 0x10FFFD)]

/-- The spans of the Hangul fillers, which are letters but leave their place blank. -/
def fillerSpans : List (Nat × Nat) :=
  [(0x115F, 0x1160), (0x3164, 0x3164), (0xFFA0, 0xFFA0)]

/-- Does the character with code point `n` merge with the character before it?  The two halfwidth
sound marks of Katakana extend a grapheme too, but they are letters with a place of their own. -/
def isMerging (n : Nat) : Bool :=
  isExtending n && !(0xFF9E ≤ n && n ≤ 0xFF9F)

/-- Is the character with code point `n` shown by number in a quoted text?  From the space to the
tilde no character is, which saves most texts the search in the tables. -/
def isHidden (n : Nat) : Bool :=
  if 0x20 ≤ n && n ≤ 0x7E then false
  else
    isControl n || inSpans separatorSpans n || inSpans formatSpans n || inSpans privateSpans n ||
      inSpans fillerSpans n || isMerging n || isUnassigned n

/-- A printable character of ASCII is never hidden. -/
theorem isHidden_eq_false_of_ascii {n : Nat} (h : 0x20 ≤ n) (h' : n ≤ 0x7E) :
    isHidden n = false := by
  simp [isHidden, h, h']

end Text
end LineShell
