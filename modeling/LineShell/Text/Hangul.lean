import LineShell.Text.Span

/-!
# Hangul syllables

Hangul is written in syllable blocks.  A block is one character, or it is spelled out as leading
consonants, vowels and trailing consonants, which are drawn together.  Both forms mix: a block that
still lacks its trailing consonant takes one that follows it.
-/

set_option autoImplicit false
namespace LineShell
namespace Text

/-- What a Hangul character contributes to a syllable block. -/
inductive HangulKind where
  /-- A leading consonant. -/
  | leading
  /-- A vowel. -/
  | vowel
  /-- A trailing consonant. -/
  | trailing
  /-- A block without a trailing consonant. -/
  | openBlock
  /-- A block with a trailing consonant. -/
  | closedBlock
  deriving DecidableEq, Repr

namespace HangulKind

/-- The spans of the leading consonants. -/
def leadingSpans : List (Nat × Nat) :=
  [(0x1100, 0x115F), (0xA960, 0xA97C)]

/-- The spans of the vowels. -/
def vowelSpans : List (Nat × Nat) :=
  [(0x1160, 0x11A7), (0xD7B0, 0xD7C6), (0x16D63, 0x16D63), (0x16D67, 0x16D6A)]

/-- The spans of the trailing consonants. -/
def trailingSpans : List (Nat × Nat) :=
  [(0x11A8, 0x11FF), (0xD7CB, 0xD7FB)]

/-- What the character with code point `n` contributes, if it is Hangul.  The blocks are numbered
so that every twenty-eighth one, from the first on, has no trailing consonant. -/
def ofCode? (n : Nat) : Option HangulKind :=
  if inSpans leadingSpans n then some leading
  else if inSpans vowelSpans n then some vowel
  else if inSpans trailingSpans n then some trailing
  else if 0xAC00 ≤ n ∧ n ≤ 0xD7A3 then
    some (if (n - 0xAC00) % 28 = 0 then openBlock else closedBlock)
  else none

/-- Is the second character drawn in the block of the first? -/
def joins : HangulKind → HangulKind → Bool
  | leading, next => next != trailing
  | vowel, next => next == vowel || next == trailing
  | openBlock, next => next == vowel || next == trailing
  | trailing, next => next == trailing
  | closedBlock, next => next == trailing

/-- Nothing but another trailing consonant joins a block that has one. -/
theorem closedBlock_joins_iff {next : HangulKind} :
    closedBlock.joins next = true ↔ next = trailing := by
  simp [joins]

end HangulKind

end Text
end LineShell
