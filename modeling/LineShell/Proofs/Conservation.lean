import LineShell.Proofs.Continuation
import LineShell.Proofs.LineGrammar
import LineShell.Proofs.TokenShape

/-!
# What becomes of the characters of a line

A character of a line can come into a token in several ways: as part of a mark, as the start of a
word, behind a backslash, or in a word that continues the token before it.  None of them loses a
character, takes it twice or moves it.  What is dropped are the comments, the blanks and newlines
between the words, the backslashes that escape something, and spaces.

* `withoutComments` and `meant` — the text that a line stands for, read off the line.
* `ScanState.conserved` — the text that a scan has found, in tokens or in what is still open, with
  the text that the rest of the line stands for.  `Takes.conserved_eq` says that taking a character
  only moves it from the one to the other.

Spaces are left out everywhere, because the ends of a word lose theirs.

The main statement is `scan_keeps_characters`.
-/

set_option autoImplicit false
namespace LineShell

/-! ## The text that a line stands for -/

/-- Where a character of a line stands. -/
inductive Place where
  /-- Between the words. -/
  | boundary
  /-- In a word. -/
  | word
  /-- In a comment. -/
  | comment
  deriving DecidableEq, Repr

/-- A text without its comments.  A comment goes from a `#` between the words to the end of its
line; the newline there is no part of it.  A backslash keeps the character behind it, and is
kept. -/
def withoutComments : Place → List Char → List Char
  | _, [] => []
  | .comment, c :: cs =>
    if c = '\n' then c :: withoutComments .boundary cs else withoutComments .comment cs
  | .boundary, '#' :: cs => withoutComments .comment cs
  | _, '\\' :: c :: cs => '\\' :: c :: withoutComments .word cs
  | _, c :: cs =>
    c :: withoutComments
      (if c ∈ [' ', '\t', '\r', '\n', '&', '|', ';'] then .boundary else .word) cs

/-- The characters that are meant by a text without comments.  Blanks and newlines are dropped if
they are not escaped, and so are the backslashes that escape something. -/
def meant (cs : List Char) : List Char :=
  ((Glyph.ofText cs).filter
    (· ∉ [.bare ' ', .bare '\t', .bare '\r', .bare '\n'])).map Glyph.char

/-- A text without its spaces. -/
def spaceless (cs : List Char) : List Char := cs.filter (· != ' ')

/-! ### Equations -/

theorem spaceless_append (cs ds : List Char) :
    spaceless (cs ++ ds) = spaceless cs ++ spaceless ds :=
  List.filter_append cs ds

theorem mem_enders_iff (c : Char) :
    c ∈ [' ', '\t', '\r', '\n', '&', '|', ';'] ↔ endsWord c = true := by
  simp [endsWord, isBlank, isMark, or_assoc]

/-- Where no comment is open, what ends a word stays, and a word can start behind it. -/
theorem withoutComments_of_endsWord {p : Place} (hp : p ≠ .comment) {c : Char}
    (hc : endsWord c = true) (cs : List Char) :
    withoutComments p (c :: cs) = c :: withoutComments .boundary cs := by
  have hslash : c ≠ '\\' := by
    rintro rfl
    cases hc
  have hhash : c ≠ '#' := by
    rintro rfl
    cases hc
  rw [withoutComments, if_pos ((mem_enders_iff c).2 hc)]
  · exact fun _ _ h _ => hslash h
  · exact hp
  · exact fun _ => hhash

/-- A character of a word stays, too. -/
theorem withoutComments_of_letter {p : Place} (hp : p ≠ .comment) {c : Char}
    (hend : endsWord c = false) (hslash : c ≠ '\\') (hhash : p = .boundary → c ≠ '#')
    (cs : List Char) : withoutComments p (c :: cs) = c :: withoutComments .word cs := by
  have hnot : ¬ endsWord c = true := by simp [hend]
  rw [withoutComments, if_neg ((mem_enders_iff c).not.2 hnot)]
  · exact fun _ _ h _ => hslash h
  · exact hp
  · exact hhash

/-- A backslash is part of a word wherever it stands. -/
theorem withoutComments_backslash {p : Place} (hp : p ≠ .comment) (cs : List Char) :
    withoutComments p ('\\' :: cs) = withoutComments .word ('\\' :: cs) := by
  cases p with
  | boundary => cases cs <;> rfl
  | word => rfl
  | comment => exact absurd rfl hp

theorem ofText_cons {c : Char} (hc : c ≠ '\\') (cs : List Char) :
    Glyph.ofText (c :: cs) = .bare c :: Glyph.ofText cs := by
  rw [Glyph.ofText]
  exact fun _ _ h _ => hc h

/-- Blanks and newlines are not meant. -/
theorem meant_of_gap {c : Char} (hc : isBlank c = true ∨ c = '\n') (cs : List Char) :
    meant (c :: cs) = meant cs := by
  have hslash : c ≠ '\\' := by
    rintro rfl
    revert hc
    decide
  have hdropped : Glyph.bare c ∈
      [Glyph.bare ' ', Glyph.bare '\t', Glyph.bare '\r', Glyph.bare '\n'] := by
    simpa [isBlank, or_assoc] using hc
  rw [meant, ofText_cons hslash, List.filter_cons_of_neg]
  · rfl
  · rw [decide_eq_true_eq]
    exact not_not_intro hdropped

/-- Any other character is. -/
theorem meant_of_not_gap {c : Char} (hblank : isBlank c = false) (hnewline : c ≠ '\n')
    (hslash : c ≠ '\\') (cs : List Char) : meant (c :: cs) = c :: meant cs := by
  have hkept : Glyph.bare c ∉
      [Glyph.bare ' ', Glyph.bare '\t', Glyph.bare '\r', Glyph.bare '\n'] := by
    simp only [isBlank, Bool.or_eq_false_iff, beq_eq_false_iff_ne] at hblank
    simp [hblank, hnewline]
  rw [meant, ofText_cons hslash, List.filter_cons_of_pos (by simpa using hkept)]
  rfl

/-- So is whatever stands behind a backslash. -/
theorem meant_escaped (c : Char) (cs : List Char) : meant ('\\' :: c :: cs) = c :: meant cs := by
  rw [meant, Glyph.ofText, List.filter_cons_of_pos (by simp)]
  rfl

/-! ## The text that a scan has found -/

namespace Text

/-- Where what is trimmed is dropped anyway, trimming makes no difference. -/
theorem filter_trimBoth {p q : Char → Bool} (h : ∀ c, p c = true → q c = false)
    (cs : List Char) : (trimBoth p cs).filter q = cs.filter q := by
  obtain ⟨front, back, hcs, hfront, hback⟩ := (trimsTo_trimBoth p cs).removed
  have hdropped : ∀ {ds : List Char}, (∀ c ∈ ds, p c = true) → ds.filter q = [] := fun hds =>
    List.filter_eq_nil_iff.2 fun c hc => by simp [h c (hds c hc)]
  conv_rhs => rw [hcs]
  rw [List.filter_append, List.filter_append, hdropped hfront, hdropped hback, List.append_nil,
    List.nil_append]

end Text

theorem spaceless_lexeme (w : Word) : spaceless w.lexeme.toList = spaceless w.text.toList := by
  rw [Word.lexeme, String.toList_ofList]
  exact Text.filter_trimBoth (by simp) _

/-- What is open, as text: the word so far, or the first sign of a connective. -/
def Mode.pending : Mode → List Char
  | .word w => w.text.toList
  | .escape w => w.text.toList
  | .half k => [k.sign]
  | .clash c => [c]
  | _ => []

/-- The text that the rest of a line stands for, but for its comments.  An open backslash belongs to
the rest. -/
def Mode.rest : Mode → List Char → List Char
  | .comment, cs => withoutComments .comment cs
  | .word _, cs => withoutComments .word cs
  | .escape _, cs => withoutComments .word ('\\' :: cs)
  | _, cs => withoutComments .boundary cs

namespace ScanState

/-- The lexemes of the tokens found so far, in the order of the line. -/
def lexemes (s : ScanState) : List Char := s.tokens.reverse.flatMap (·.lexeme.toList)

/-- The text found so far. -/
def found (s : ScanState) : List Char := s.lexemes ++ s.mode.pending

/-- The text found so far and the text that the rest of the line stands for. -/
def conserved (s : ScanState) (cs : List Char) : List Char :=
  spaceless s.found ++ spaceless (meant (s.mode.rest cs))

theorem lexemes_of_cons {s s' : ScanState} {t : Token} (h : s'.tokens = t :: s.tokens) :
    s'.lexemes = s.lexemes ++ t.lexeme.toList := by
  rw [lexemes, h, List.reverse_cons, List.flatMap_append, List.flatMap_singleton]
  rfl

/-- Text added to the newest token comes behind all the others. -/
theorem lexemes_of_attach {s s' : ScanState} {lexeme : String}
    (h : s'.tokens = attach lexeme s.tokens) : s'.lexemes = s.lexemes ++ lexeme.toList := by
  rw [lexemes, lexemes, h]
  cases s.tokens with
  | nil => simp [attach]
  | cons t ts => simp [attach]

/-- **Ending a word moves its text into a token**, whether a new one or the one before it. -/
theorem spaceless_lexemes_close (s : ScanState) (w : Word) :
    spaceless (s.close w).lexemes = spaceless (s.lexemes ++ w.text.toList) := by
  rw [spaceless_append, ← spaceless_lexeme, ← spaceless_append]
  by_cases hempty : w.text = ""
  · have hlexeme : w.lexeme.toList = [] := by
      rw [Word.lexeme, hempty]
      rfl
    rw [close, if_pos hempty, hlexeme, List.append_nil]
  · refine congrArg spaceless ?_
    rw [close, if_neg hempty]
    split
    · exact lexemes_of_cons (t := ⟨.programName, w.lexeme⟩) rfl
    · split
      · exact lexemes_of_attach rfl
      · exact lexemes_of_cons (t := ⟨.argument, w.lexeme⟩) rfl

/-- So does ending whatever word is open, if nothing else is. -/
theorem spaceless_lexemes_ended {s : ScanState}
    (h : s.mode.pending = [] ∨ ∃ w, s.mode = .word w) :
    spaceless s.ended.lexemes = spaceless s.found := by
  rw [ended]
  split
  · rename_i w hmode
    rw [spaceless_lexemes_close, found, hmode]
    rfl
  · rename_i hword
    have hpending : s.mode.pending = [] := h.resolve_right (not_exists.2 hword)
    rw [found, hpending, List.append_nil]

/-! ### Characters -/

/-- Where nothing is open, the rest of the line starts between words. -/
theorem Ready.rest_eq {s : ScanState} {c : Char} (h : s.Ready c) (cs : List Char) :
    s.mode.rest (c :: cs) = withoutComments .boundary (c :: cs) := by
  cases h with
  | word hmode hc =>
    rw [hmode, Mode.rest, withoutComments_of_endsWord (p := .word) (by decide) hc,
      withoutComments_of_endsWord (p := .boundary) (by decide) hc]
  | boundary hmode => rw [hmode, Mode.rest] <;> nofun
  | semicolon hmode _ => rw [hmode, Mode.rest] <;> nofun
  | connective hmode _ _ => rw [hmode, Mode.rest] <;> nofun

theorem Ready.pending_eq {s : ScanState} {c : Char} (h : s.Ready c) :
    s.mode.pending = [] ∨ ∃ w, s.mode = .word w := by
  cases h with
  | word hmode _ => exact .inr ⟨_, hmode⟩
  | boundary hmode => exact .inl (by rw [hmode]; rfl)
  | semicolon hmode _ => exact .inl (by rw [hmode]; rfl)
  | connective hmode _ _ => exact .inl (by rw [hmode]; rfl)

/-- Where neither the tokens nor what is open change, the text found stays. -/
theorem found_congr {s s' : ScanState} (htokens : s'.tokens = s.tokens)
    (hpending : s'.mode.pending = s.mode.pending) : s'.found = s.found := by
  rw [found, found, lexemes, lexemes, htokens, hpending]

/-- A word with one more character. -/
theorem found_push {s s' : ScanState} {w : Word} {c : Char}
    (hpending : s.mode.pending = w.text.toList) (htokens : s'.tokens = s.tokens)
    (hmode : s'.mode = .word (w.push c)) : s'.found = s.found ++ [c] := by
  rw [found, found, lexemes, lexemes, htokens, hmode, hpending, Mode.pending, Word.push,
    String.toList_push, List.append_assoc]

/-- A connective with both of its signs. -/
theorem found_doubled {s : ScanState} {k : Connective} (hmode : s.mode = .half k) :
    (s.mark (.connective k) (.connective k true)).found = s.found ++ [k.sign] := by
  rw [found, found, lexemes_of_cons (s := s) (t := .connective k) rfl, hmode, Token.connective,
    k.symbol_toList, List.append_assoc, List.append_assoc]
  rfl

/-- A character that is meant has come to the text found, -/
theorem conserved_of_moved {s : ScanState} {c : Char} {cs before ahead : List Char}
    (hfound : s.found = before ++ [c]) (hahead : ahead = c :: meant (s.mode.rest cs)) :
    spaceless before ++ spaceless ahead = s.conserved cs := by
  rw [conserved, hfound, hahead, spaceless_append, List.append_assoc, ← spaceless_append [c]]
  rfl

/-- and any other one is just dropped. -/
theorem conserved_of_dropped {s : ScanState} {cs before ahead : List Char}
    (hfound : s.found = before) (hahead : ahead = meant (s.mode.rest cs)) :
    spaceless before ++ spaceless ahead = s.conserved cs := by
  rw [conserved, hfound, hahead]

theorem meant_of_mark {c : Char} (hc : isMark c = true) (cs : List Char) :
    meant (withoutComments .boundary (c :: cs)) = c :: meant (withoutComments .boundary cs) := by
  have hend : endsWord c = true := by simp [endsWord, hc]
  have hblank : isBlank c = false := by
    cases hblank : isBlank c with
    | false => rfl
    | true => exact absurd ((isMark_of_isBlank hblank).symm.trans hc) Bool.false_ne_true
  rw [withoutComments_of_endsWord (p := .boundary) (by decide) hend, meant_of_not_gap hblank]
  · rintro rfl
    cases hc
  · rintro rfl
    cases hc

theorem meant_of_skipped {c : Char} (hc : isBlank c = true ∨ c = '\n') (cs : List Char) :
    meant (withoutComments .boundary (c :: cs)) = meant (withoutComments .boundary cs) := by
  have hend : endsWord c = true := by
    rcases hc with hc | rfl
    · simp [endsWord, hc]
    · rfl
  rw [withoutComments_of_endsWord (p := .boundary) (by decide) hend, meant_of_gap hc]

theorem meant_of_letter {p : Place} (hp : p ≠ .comment) {c : Char} (hend : endsWord c = false)
    (hslash : c ≠ '\\') (hhash : p = .boundary → c ≠ '#') (cs : List Char) :
    meant (withoutComments p (c :: cs)) = c :: meant (withoutComments .word cs) := by
  have hclass := hend
  simp only [endsWord, Bool.or_eq_false_iff, beq_eq_false_iff_ne] at hclass
  rw [withoutComments_of_letter hp hend hslash hhash,
    meant_of_not_gap hclass.1.1 hclass.1.2 hslash]

/-- A character at which something new begins. -/
theorem Begins.conserved_eq {s s' : ScanState} {c : Char} (h : s.Begins c s') (cs : List Char) :
    spaceless s.lexemes ++ spaceless (meant (withoutComments .boundary (c :: cs))) =
      s'.conserved cs := by
  cases h with
  | semicolon =>
    refine conserved_of_moved (c := ';') ?_ (meant_of_mark rfl cs)
    rw [found, lexemes_of_cons (s := s) (t := .semicolon) rfl]
    exact List.append_nil _
  | sign k => exact conserved_of_moved rfl (meant_of_mark (by cases k <;> rfl) cs)
  | blank hc => exact conserved_of_dropped (List.append_nil _) (meant_of_skipped (.inl hc) cs)
  | newline => exact conserved_of_dropped (List.append_nil _) (meant_of_skipped (.inr rfl) cs)
  | comment => exact conserved_of_dropped (List.append_nil _) rfl
  | backslash =>
    refine conserved_of_dropped (List.append_nil _) ?_
    rw [withoutComments_backslash (p := .boundary) (by decide)]
    rfl
  | letter hend hslash hhash =>
    refine conserved_of_moved ?_
      (meant_of_letter (p := .boundary) (by decide) hend hslash (fun _ => hhash) cs)
    simp [found, lexemes, Mode.pending]

/-- **Taking a character loses nothing, takes nothing twice and moves nothing.** -/
theorem Takes.conserved_eq {s s' : ScanState} {c : Char} (h : s.Takes c s') (cs : List Char) :
    s.conserved (c :: cs) = s'.conserved cs := by
  cases h with
  | start hready h =>
    rw [conserved, ← spaceless_lexemes_ended hready.pending_eq, hready.rest_eq]
    exact h.conserved_eq cs
  | comment hmode hc =>
    refine conserved_of_dropped rfl ?_
    rw [hmode, Mode.rest, Mode.rest, withoutComments, if_neg hc]
  | commentEnd hmode hc =>
    subst hc
    refine conserved_of_dropped (found_congr rfl (by rw [hmode]; rfl)) ?_
    rw [hmode]
    exact meant_of_gap (.inr rfl) _
  | backslash hmode hc =>
    subst hc
    refine conserved_of_dropped (found_congr rfl (by rw [hmode]; rfl)) ?_
    rw [hmode]
    rfl
  | letter hmode hend hslash =>
    refine conserved_of_moved (found_push (by rw [hmode]; rfl) rfl rfl) ?_
    rw [hmode]
    exact meant_of_letter (p := .word) (by decide) hend hslash nofun cs
  | escaped hmode =>
    refine conserved_of_moved (found_push (by rw [hmode]; rfl) rfl rfl) ?_
    rw [hmode]
    exact meant_escaped c _
  | @doubled k hmode hc =>
    subst hc
    refine conserved_of_moved (found_doubled hmode) ?_
    rw [hmode]
    exact meant_of_mark (by cases k <;> rfl) cs
  | blank hmode hc =>
    refine conserved_of_dropped (found_congr rfl (by rw [hmode]; rfl)) ?_
    rw [hmode]
    exact meant_of_skipped (.inl hc) cs
  | clash hmode hsign =>
    have hpending : s.mode.pending = [] := by rw [hmode]; rfl
    refine conserved_of_moved (c := c) (by rw [found, found, hpending, List.append_nil]; rfl) ?_
    rw [hmode]
    exact meant_of_mark (by rcases hsign with rfl | rfl <;> rfl) cs

/-- The text found, with the text ahead, stays the same on the way through a line. -/
theorem conserved_of_feed {s s' : ScanState} {cs : List Char} (h : s.feed cs = .ok s') :
    s.conserved cs = s'.conserved [] := by
  induction cs generalizing s with
  | nil =>
    cases h
    rfl
  | cons c cs ih =>
    obtain ⟨s₁, hstep, hrest⟩ := exists_step_of_feed_cons h
    exact ((takes_of_step hstep).conserved_eq cs).trans (ih hrest)

/-! ### The end of the line -/

/-- A scan that shows no prompt is over at the end of its line. -/
theorem exists_pause_of_settle {replies : List Reply} {s : ScanState} {tokens : List Token}
    (hresult : (settle replies (.ok s)).result = .ok tokens)
    (hprompts : (settle replies (.ok s)).prompts = []) : s.pause = .done (.ok tokens) := by
  cases hpause : s.pause with
  | done result =>
    rw [settle_of_done hpause] at hresult
    cases hresult
    rfl
  | asks p =>
    match replies with
    | [] =>
      rw [settle, hpause] at hprompts
      cases hprompts
    | .error failure :: replies =>
      rw [settle, hpause] at hprompts
      cases hprompts
    | .ok reply :: replies =>
      rw [settle_of_asks hpause] at hprompts
      cases hprompts

/-- Where a scan is over, all its text is in tokens but for a word that the end of the line ends. -/
theorem spaceless_result {s : ScanState} {tokens : List Token}
    (h : s.pause = .done (.ok tokens)) :
    spaceless (tokens.flatMap (·.lexeme.toList)) = s.conserved [] := by
  have hends : (s.mode.pending = [] ∨ ∃ w, s.mode = .word w) ∧ s.mode.rest [] = [] := by
    rw [pause] at h
    cases hmode : s.mode with
    | word w => exact ⟨.inr ⟨w, rfl⟩, rfl⟩
    | escape w => simp [hmode] at h
    | half k => simp [hmode] at h
    | clash c => simp [hmode] at h
    | _ => exact ⟨.inl rfl, rfl⟩
  rw [eq_result_of_pause h, conserved, ← spaceless_lexemes_ended hends.1, hends.2, result,
    List.reverse_cons, List.flatMap_append, lexemes]
  simp [Token.endOfInput, spaceless, meant, Glyph.ofText]

end ScanState

/-- **Scanning loses no character of a line, takes none twice and moves none.**  Let a line come to
tokens without a reply being asked for.  But for spaces, the lexemes of the tokens, one after the
other, are the text that the line stands for: its characters without the comments, without the
blanks and newlines that are not escaped, and without the backslashes that escape something. -/
theorem scan_keeps_characters {line : String} {replies : List Reply} {tokens : List Token}
    (hscan : (scan line replies).result = .ok tokens)
    (hprompts : (scan line replies).prompts = []) :
    spaceless (tokens.flatMap (·.lexeme.toList)) =
      spaceless (meant (withoutComments .boundary line.toList)) := by
  obtain ⟨s, hfeed⟩ := ScanState.exists_feed_of_settle hscan
  rw [scan, hfeed] at hscan hprompts
  rw [ScanState.spaceless_result (ScanState.exists_pause_of_settle hscan hprompts),
    ← ScanState.conserved_of_feed hfeed]
  rfl

/-- A word on the second line continues the first one, and the space at its start is lost.  Behind
it there is a comment with marks in it and a backslash at its end. -/
theorem scan_keeps_characters_joined :
    (scan "a\n\\ b\\;c # && \\\n&&\\# d#e;" []).result =
        .ok [⟨.programName, "ab;c"⟩, Token.connective .and, ⟨.programName, "#"⟩,
          ⟨.argument, "d#e"⟩, Token.semicolon, Token.endOfInput] ∧
      (scan "a\n\\ b\\;c # && \\\n&&\\# d#e;" []).prompts = [] ∧
      withoutComments .boundary "a\n\\ b\\;c # && \\\n&&\\# d#e;".toList =
        "a\n\\ b\\;c \n&&\\# d#e;".toList ∧
      spaceless (meant "a\n\\ b\\;c \n&&\\# d#e;".toList) = "ab;c&&#d#e;".toList := by
  have hscan : (scan "a\n\\ b\\;c # && \\\n&&\\# d#e;" []).result =
      .ok [⟨.programName, "ab;c"⟩, Token.connective .and, ⟨.programName, "#"⟩,
        ⟨.argument, "d#e"⟩, Token.semicolon, Token.endOfInput] := rfl
  have hprompts : (scan "a\n\\ b\\;c # && \\\n&&\\# d#e;" []).prompts = [] := rfl
  have hcomments : withoutComments .boundary "a\n\\ b\\;c # && \\\n&&\\# d#e;".toList =
      "a\n\\ b\\;c \n&&\\# d#e;".toList := by decide
  have hkept := scan_keeps_characters hscan hprompts
  rw [hcomments] at hkept
  exact ⟨hscan, hprompts, hcomments, hkept.symm.trans (by decide)⟩

end LineShell
