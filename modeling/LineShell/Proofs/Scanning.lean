import LineShell.Scan.Line

/-!
# How a scan moves

The places in a line where a scan can stand, and what takes it from one to the next.

* `ScanState.Before s ts` — the tokens `ts` have been found and a command can start here: at the
  start of a line, behind a semicolon or behind a connective.
* `ScanState.Behind s ts` — the last of the tokens `ts` is a word, and the scan stands at its last
  character or at blanks behind it.  A word is turned into a token only when something ends it, so
  the statement is about `s.ended`, the state that comes out then.

Blanks change neither.  A word leads from `Before` to `Behind`, and so does an argument from
`Behind` to `Behind`; the marks lead back.  Each of these is one lemma, stated for the text that
does it, and `feed_append_eq` puts texts together.
-/

set_option autoImplicit false
namespace LineShell

/-- The space, the tab and the carriage return are the blanks. -/
theorem isBlank_iff (c : Char) : isBlank c = true ↔ c = ' ' ∨ c = '\t' ∨ c = '\r' := by
  simp [isBlank, or_assoc]

theorem isMark_of_isBlank {c : Char} (h : isBlank c = true) : isMark c = false := by
  rcases (isBlank_iff c).1 h with rfl | rfl | rfl <;> rfl

namespace ScanState

theorem feed_append_eq {s s' : ScanState} {cs : List Char} (h : s.feed cs = .ok s')
    (ds : List Char) : s.feed (cs ++ ds) = s'.feed ds := by
  rw [feed_append, h]
  rfl

theorem feed_cons_eq {s s' : ScanState} {c : Char} (h : s.step c = .ok s') (cs : List Char) :
    s.feed (c :: cs) = s'.feed cs := by
  rw [feed_cons, h]
  rfl

/-! ## Ending a word -/

/-- The state in which the word under construction, if there is one, has been ended. -/
def ended (s : ScanState) : ScanState :=
  match s.mode with
  | .word w => s.close w
  | _ => s

/-- Nothing is open but perhaps a word. -/
def Loose (s : ScanState) : Prop := s.mode = .boundary ∨ ∃ w, s.mode = .word w

theorem ended_of_boundary {s : ScanState} (h : s.mode = .boundary) : s.ended = s := by
  rw [ended, h]

theorem ended_of_word {s : ScanState} {w : Word} (h : s.mode = .word w) : s.ended = s.close w := by
  rw [ended, h]

/-- What can end a word ends it, and then starts something new. -/
theorem Loose.step_eq {s : ScanState} (h : s.Loose) {c : Char} (hc : endsWord c = true) :
    s.step c = .ok (s.ended.start c) := by
  rcases h with h | ⟨w, h⟩
  · rw [step, h, ended_of_boundary h]
  · rw [step, h, ended_of_word h]
    simp only [hc, if_true]

/-- So does the end of the text. -/
theorem Loose.pause_eq {s : ScanState} (h : s.Loose) : s.pause = .done (.ok s.ended.result) := by
  rcases h with h | ⟨w, h⟩
  · rw [pause, h, ended_of_boundary h]
  · rw [pause, h, ended_of_word h]

/-- The first sign of a connective waits for the second. -/
theorem Loose.step_sign {s : ScanState} (h : s.Loose) (k : Connective) :
    s.step k.sign = .ok { s.ended with mode := .half k } := by
  cases k <;> exact h.step_eq rfl

theorem step_half {s : ScanState} {k : Connective} (h : s.mode = .half k) :
    s.step k.sign = .ok (s.mark (.connective k) (.connective k true)) := by
  rw [step, h]
  simp only [if_true]

theorem Loose.feed_symbol {s : ScanState} (h : s.Loose) (k : Connective) :
    s.feed k.symbol.toList = .ok (s.ended.mark (.connective k) (.connective k true)) := by
  rw [k.symbol_toList, feed_cons_eq (h.step_sign k)]
  exact feed_cons_eq (step_half rfl) []

/-- A scan that is complete asks for nothing. -/
theorem settle_of_done {s : ScanState} {result : Except LexicalError (List Token)}
    (h : s.pause = .done result) (replies : List Reply) :
    settle replies (.ok s) = ⟨result, [], replies⟩ := by
  cases replies with
  | nil => rw [settle, h]
  | cons reply replies => rw [settle, h]

/-! ## Blanks -/

theorem start_blank (s : ScanState) {c : Char} (hc : isBlank c = true) :
    s.start c = { s with gap := true, mode := .boundary } := by
  rcases (isBlank_iff c).1 hc with rfl | rfl | rfl <;> rfl

/-- Blanks end a word and leave a gap behind it. -/
theorem Loose.feed_blanks {s : ScanState} (h : s.Loose) {bs : List Char}
    (hbs : ∀ b ∈ bs, isBlank b = true) :
    s.feed bs = .ok (if bs = [] then s else { s.ended with gap := true, mode := .boundary }) := by
  induction bs generalizing s with
  | nil => rfl
  | cons b bs ih =>
    have hb := hbs b List.mem_cons_self
    have hend : endsWord b = true := by simp [endsWord, hb]
    rw [feed_cons_eq (h.step_eq hend), start_blank _ hb,
      ih (.inl rfl) fun c hc => hbs c (List.mem_cons_of_mem _ hc)]
    simp only [reduceCtorEq, if_false, ended]
    split <;> rfl

/-! ## Words -/

/-- Can a word start here?  No other character is awaited. -/
def Opens (s : ScanState) : Prop :=
  s.mode = .boundary ∨ s.mode = .semicolon ∨ ∃ k bare, s.mode = .connective k bare

/-- What is neither a blank nor a mark starts something new wherever a word can start. -/
theorem Opens.step_eq {s : ScanState} (h : s.Opens) {c : Char} (hb : isBlank c = false)
    (hm : isMark c = false) : s.step c = .ok (s.start c) := by
  rcases h with h | h | ⟨k, bare, h⟩
  · rw [step, h]
  · rw [step, h]
    simp only [hm, Bool.false_eq_true, if_false]
  · have hsign : ¬ (c = '&' ∨ c = '|') := by
      rintro (rfl | rfl) <;> exact absurd hm (by decide)
    rw [step, h]
    simp only [hb, Bool.false_eq_true, if_false, if_neg hsign]

theorem start_backslash (s : ScanState) : s.start '\\' = { s with mode := .escape ⟨true, ""⟩ } :=
  rfl

/-- A character without a meaning of its own starts a word. -/
theorem start_letter (s : ScanState) {c : Char} (hend : endsWord c = false) (hslash : c ≠ '\\')
    (hhash : c ≠ '#') : s.start c = { s with mode := .word ⟨false, String.singleton c⟩ } := by
  simp only [endsWord, isMark, Bool.or_eq_false_iff, beq_eq_false_iff_ne] at hend
  obtain ⟨⟨hblank, hnewline⟩, ⟨hand, hor⟩, hsemi⟩ := hend
  simp only [start, hblank, hnewline, hand, hor, hsemi, hslash, hhash, if_false,
    Bool.false_eq_true]

/-- A backslash in a word, and the character behind it. -/
theorem feed_escaped {s : ScanState} {w : Word} (h : s.mode = .word w) (c : Char)
    (cs : List Char) :
    s.feed ('\\' :: c :: cs) = { s with mode := .word (w.push c) }.feed cs := by
  have hslash : s.step '\\' = .ok { s with mode := .escape w } := by
    rw [step, h]
    rfl
  rw [feed_cons_eq hslash]
  rfl

/-- Any other character in a word. -/
theorem feed_letter {s : ScanState} {w : Word} (h : s.mode = .word w) {c : Char}
    (hend : endsWord c = false) (hslash : c ≠ '\\') (cs : List Char) :
    s.feed (c :: cs) = { s with mode := .word (w.push c) }.feed cs := by
  refine feed_cons_eq ?_ cs
  rw [step, h]
  simp only [hend, hslash, if_false, Bool.false_eq_true]

/-! ## The places in a line -/

/-- The tokens `ts` have been found, and a command can start here. -/
structure Before (s : ScanState) (ts : List Token) : Prop where
  /-- A word can start. -/
  opens : s.Opens
  /-- The tokens so far. -/
  tokens : s.tokens = ts.reverse
  /-- The word will name a program. -/
  expects : s.expectsProgram = true

/-- The tokens `ts` have been found, and the last of them is a word that ends here or has ended
before blanks. -/
structure Behind (s : ScanState) (ts : List Token) : Prop where
  /-- Nothing else is open. -/
  loose : s.Loose
  /-- The tokens so far. -/
  tokens : s.ended.tokens = ts.reverse
  /-- A further word will be an argument. -/
  expects : s.ended.expectsProgram = false

/-- The first word of a command names its program. -/
theorem behind_program {s : ScanState} {ts : List Token} {w : Word} (hmode : s.mode = .word w)
    (hw : w.text ≠ "") (htokens : s.tokens = ts.reverse) (hexpects : s.expectsProgram = true) :
    s.Behind (ts ++ [⟨.programName, w.lexeme⟩]) := by
  have hended : s.ended = { s with
      tokens := ⟨.programName, w.lexeme⟩ :: s.tokens, gap := false, expectsProgram := false } := by
    rw [ended_of_word hmode, close, if_neg hw, if_pos hexpects]
  refine ⟨.inr ⟨w, hmode⟩, ?_, by rw [hended]⟩
  rw [hended, List.reverse_append, ← htokens]
  rfl

/-- A further word of it is an argument, if a blank stands before it. -/
theorem behind_argument {s : ScanState} {ts : List Token} {w : Word} (hmode : s.mode = .word w)
    (hw : w.text ≠ "") (htokens : s.tokens = ts.reverse) (hexpects : s.expectsProgram = false)
    (hgap : s.gap = true) : s.Behind (ts ++ [⟨.argument, w.lexeme⟩]) := by
  have hended : s.ended =
      { s with tokens := ⟨.argument, w.lexeme⟩ :: s.tokens, gap := false } := by
    rw [ended_of_word hmode, close, if_neg hw, if_neg (by simp [hexpects]),
      if_neg (by simp [hgap])]
  refine ⟨.inr ⟨w, hmode⟩, ?_, by rw [hended]; exact hexpects⟩
  rw [hended, List.reverse_append, ← htokens]
  rfl

theorem before_initial : initial.Before [] := ⟨.inl rfl, rfl, rfl⟩

theorem Before.step_blank {s : ScanState} {ts : List Token} (h : s.Before ts) {b : Char}
    (hb : isBlank b = true) : ∃ s', s.step b = .ok s' ∧ s'.Before ts := by
  have hstart : (s.start b).Before ts := by
    rw [start_blank s hb]
    exact ⟨.inl rfl, h.tokens, h.expects⟩
  rcases h.opens with hmode | hmode | ⟨k, bare, hmode⟩
  · exact ⟨s.start b, by rw [step, hmode], hstart⟩
  · refine ⟨s.start b, ?_, hstart⟩
    rw [step, hmode]
    simp only [isMark_of_isBlank hb, Bool.false_eq_true, if_false]
  · refine ⟨{ s with gap := true, mode := .connective k false }, ?_, ?_⟩
    · rw [step, hmode]
      simp only [hb, if_true]
    · exact ⟨.inr (.inr ⟨k, false, rfl⟩), h.tokens, h.expects⟩

/-- Blanks before a command change nothing. -/
theorem Before.feed_blanks {s : ScanState} {ts : List Token} (h : s.Before ts) {bs : List Char}
    (hbs : ∀ b ∈ bs, isBlank b = true) : ∃ s', s.feed bs = .ok s' ∧ s'.Before ts := by
  induction bs generalizing s with
  | nil => exact ⟨s, rfl, h⟩
  | cons b bs ih =>
    obtain ⟨s', hstep, hs'⟩ := h.step_blank (hbs b List.mem_cons_self)
    rw [feed_cons_eq hstep]
    exact ih hs' fun c hc => hbs c (List.mem_cons_of_mem _ hc)

/-- Nor do blanks behind a word. -/
theorem Behind.feed_blanks {s : ScanState} {ts : List Token} (h : s.Behind ts) {bs : List Char}
    (hbs : ∀ b ∈ bs, isBlank b = true) : ∃ s', s.feed bs = .ok s' ∧ s'.Behind ts := by
  refine ⟨_, h.loose.feed_blanks hbs, ?_⟩
  split
  · exact h
  · exact ⟨.inl rfl, h.tokens, h.expects⟩

/-- A semicolon behind a word. -/
theorem Behind.feed_semicolon {s : ScanState} {ts : List Token} (h : s.Behind ts) :
    ∃ s', s.feed [';'] = .ok s' ∧ s'.Before (ts ++ [Token.semicolon]) := by
  refine ⟨s.ended.mark .semicolon .semicolon, feed_cons_eq (h.loose.step_eq rfl) [], ?_⟩
  refine ⟨.inr (.inl rfl), ?_, rfl⟩
  rw [mark, h.tokens, List.reverse_append]
  rfl

/-- A connective behind a word. -/
theorem Behind.feed_connective {s : ScanState} {ts : List Token} (h : s.Behind ts)
    (k : Connective) :
    ∃ s', s.feed k.symbol.toList = .ok s' ∧ s'.Before (ts ++ [Token.connective k]) := by
  refine ⟨_, h.loose.feed_symbol k, .inr (.inr ⟨k, true, rfl⟩), ?_, rfl⟩
  rw [mark, h.tokens, List.reverse_append]
  rfl

end ScanState
end LineShell
