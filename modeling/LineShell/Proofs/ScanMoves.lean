import LineShell.Proofs.Runs
import LineShell.Proofs.Scanning
import Mathlib.Tactic.SplitIfs

/-!
# The moves of a scan

A scan takes the characters of its text one by one.  At the end of the text it is over, or it asks
for a reply, whose characters are then the text to take.

* `ScanState.Takes` — everything that taking a character can do, one case for each.  A proof about
  all steps of the scanner goes by these cases, not by those of the scanner.
* `Stage` — where a scan stands: its state, the text that is still to be taken, and the replies
  still to come.
* `Stage.Moves` — one move, which takes a character or a reply.
* `Stage.Ends` — a last stage, and the report it leads to.

`Stage.exists_ends` says that a scan makes its moves and then ends with its report.  So what holds
at the start and is kept by each move holds wherever a scan gets to, also in one that fails.
-/

set_option autoImplicit false
namespace LineShell

namespace ScanState

/-! ## What a character does -/

/-- `Begins s c s'`: where nothing is open in `s`, the character `c` leads to `s'`. -/
inductive Begins (s : ScanState) : Char → ScanState → Prop
  | semicolon : Begins s ';' (s.mark .semicolon .semicolon)
  | sign (k : Connective) : Begins s k.sign { s with mode := .half k }
  | blank {c : Char} (hc : isBlank c = true) : Begins s c { s with gap := true, mode := .boundary }
  | newline : Begins s '\n' { s with mode := .boundary }
  | comment : Begins s '#' { s with mode := .comment }
  | backslash : Begins s '\\' { s with mode := .escape ⟨true, ""⟩ }
  | letter {c : Char} (hend : endsWord c = false) (hslash : c ≠ '\\') (hhash : c ≠ '#') :
      Begins s c { s with mode := .word ⟨false, String.singleton c⟩ }

theorem begins_start (s : ScanState) (c : Char) : s.Begins c (s.start c) := by
  by_cases hsemicolon : c = ';'
  · subst hsemicolon
    exact .semicolon
  by_cases hand : c = '&'
  · subst hand
    exact .sign .and
  by_cases hor : c = '|'
  · subst hor
    exact .sign .or
  by_cases hblank : isBlank c = true
  · rw [start_blank s hblank]
    exact .blank hblank
  by_cases hnewline : c = '\n'
  · subst hnewline
    exact .newline
  by_cases hhash : c = '#'
  · subst hhash
    exact .comment
  by_cases hslash : c = '\\'
  · subst hslash
    exact .backslash
  have hend : endsWord c = false := by
    simp [endsWord, isMark, hsemicolon, hand, hor, hblank, hnewline]
  rw [start_letter s hend hslash hhash]
  exact .letter hend hslash hhash

/-- Nothing that is open in `s` has to do with the character `c`, which only ends a word there. -/
inductive Ready (s : ScanState) (c : Char) : Prop
  | boundary (hmode : s.mode = .boundary)
  | word {w : Word} (hmode : s.mode = .word w) (hc : endsWord c = true)
  | semicolon (hmode : s.mode = .semicolon) (hc : isMark c = false)
  | connective {k : Connective} {bare : Bool} (hmode : s.mode = .connective k bare)
      (hblank : isBlank c = false) (hsign : ¬ (c = '&' ∨ c = '|'))

/-- `Takes s c s'`: in the state `s` the character `c` is taken, and leads to `s'`. -/
inductive Takes (s : ScanState) (c : Char) : ScanState → Prop
  | start {s' : ScanState} (hready : s.Ready c) (h : s.ended.Begins c s') : Takes s c s'
  | comment (hmode : s.mode = .comment) (hc : c ≠ '\n') : Takes s c s
  | commentEnd (hmode : s.mode = .comment) (hc : c = '\n') : Takes s c { s with mode := .boundary }
  | backslash {w : Word} (hmode : s.mode = .word w) (hc : c = '\\') :
      Takes s c { s with mode := .escape w }
  | letter {w : Word} (hmode : s.mode = .word w) (hend : endsWord c = false) (hslash : c ≠ '\\') :
      Takes s c { s with mode := .word (w.push c) }
  | escaped {w : Word} (hmode : s.mode = .escape w) : Takes s c { s with mode := .word (w.push c) }
  | doubled {k : Connective} (hmode : s.mode = .half k) (hc : c = k.sign) :
      Takes s c (s.mark (.connective k) (.connective k true))
  | blank {k : Connective} {bare : Bool} (hmode : s.mode = .connective k bare)
      (hc : isBlank c = true) : Takes s c { s with gap := true, mode := .connective k false }
  | clash {k : Connective} {bare : Bool} (hmode : s.mode = .connective k bare)
      (hsign : c = '&' ∨ c = '|') : Takes s c { s with mode := .clash c }

/-- **Whenever a character is taken, it is in one of these ways.** -/
theorem takes_of_step {s s' : ScanState} {c : Char} (h : s.step c = .ok s') : s.Takes c s' := by
  rw [step] at h
  cases hmode : s.mode with
  | boundary =>
    simp only [hmode, Except.ok.injEq] at h
    subst h
    refine .start (.boundary hmode) ?_
    rw [ended_of_boundary hmode]
    exact begins_start s c
  | comment =>
    simp only [hmode, Except.ok.injEq] at h
    subst h
    split
    · exact .commentEnd hmode ‹_›
    · exact .comment hmode ‹_›
  | word w =>
    simp only [hmode] at h
    split_ifs at h with hend hslash
    · cases h
      refine .start (.word hmode hend) ?_
      rw [ended_of_word hmode]
      exact begins_start _ c
    · cases h
      exact .backslash hmode hslash
    · cases h
      exact .letter hmode (by simpa using hend) hslash
  | escape w =>
    simp only [hmode, Except.ok.injEq] at h
    subst h
    exact .escaped hmode
  | semicolon =>
    simp only [hmode] at h
    split_ifs at h with hmark
    cases h
    refine .start (.semicolon hmode (by simpa using hmark)) ?_
    rw [ended, hmode]
    exact begins_start s c
  | half k =>
    simp only [hmode] at h
    split_ifs at h with hsign
    cases h
    exact .doubled hmode hsign
  | connective k bare =>
    simp only [hmode] at h
    split_ifs at h with hblank hsign
    · cases h
      exact .blank hmode hblank
    · cases h
      exact .clash hmode hsign
    · cases h
      refine .start (.connective hmode (by simpa using hblank) hsign) ?_
      rw [ended, hmode]
      exact begins_start s c
  | clash d =>
    simp only [hmode] at h
    cases h

/-- A text that is taken is taken from its first character on, -/
theorem exists_step_of_feed_cons {s s' : ScanState} {c : Char} {cs : List Char}
    (h : s.feed (c :: cs) = .ok s') : ∃ s₁, s.step c = .ok s₁ ∧ s₁.feed cs = .ok s' := by
  cases hstep : s.step c with
  | error e =>
    rw [feed, hstep] at h
    cases h
  | ok s₁ =>
    rw [feed_cons_eq hstep] at h
    exact ⟨s₁, rfl, h⟩

/-- and its last character in the state to which the others lead. -/
theorem takes_of_feed_concat {s s' : ScanState} {cs : List Char} {c : Char}
    (h : s.feed (cs ++ [c]) = .ok s') : ∃ s₁, s.feed cs = .ok s₁ ∧ s₁.Takes c s' := by
  induction cs generalizing s with
  | nil =>
    obtain ⟨s₁, hstep, hrest⟩ := exists_step_of_feed_cons h
    cases hrest
    exact ⟨s, rfl, takes_of_step hstep⟩
  | cons d cs ih =>
    obtain ⟨s₁, hstep, hrest⟩ := exists_step_of_feed_cons h
    obtain ⟨s₂, hfeed, htakes⟩ := ih hrest
    exact ⟨s₂, by rw [feed_cons_eq hstep, hfeed], htakes⟩

/-! ## What a reply does -/

/-- A reply as it is taken behind a connective: spaces, tabs, carriage returns and newlines at its
ends are dropped (`stripped_iff`). -/
def stripped (reply : String) : List Char :=
  Text.trimBoth (fun c => c ∈ [' ', '\t', '\r', '\n']) reply.toList

/-- What is dropped of a reply, and what is not. -/
theorem stripped_iff {reply : String} {text : List Char} :
    text = stripped reply ↔
      Text.TrimsTo (fun c => c ∈ [' ', '\t', '\r', '\n']) reply.toList text :=
  Text.trimsTo_iff.symm

theorem resume_of_escape {s : ScanState} {w : Word} (h : s.mode = .escape w) (reply : String) :
    s.resume reply = { s with mode := .word w }.feed reply.toList := by
  rw [resume, h]

theorem resume_of_connective {s : ScanState} {k : Connective} {bare : Bool}
    (h : s.mode = .connective k bare) (reply : String) :
    s.resume reply = s.feed (stripped reply) := by
  have hclass : (fun c => isBlank c || c == '\n') =
      fun c => decide (c ∈ [' ', '\t', '\r', '\n']) := by
    funext c
    rw [Bool.eq_iff_iff]
    simp [isBlank, or_assoc]
  rw [resume, h, stripped, hclass]

/-- Only behind a backslash or a connective is a reply asked for. -/
theorem mode_of_asks {s : ScanState} {p : Prompt} (h : s.pause = .asks p) :
    (p = .backslash ∧ ∃ w, s.mode = .escape w) ∨
      ∃ k, p = .connective k ∧ s.mode = .connective k true := by
  rw [pause] at h
  cases hmode : s.mode with
  | escape w =>
    simp only [hmode, Pause.asks.injEq] at h
    exact .inl ⟨h.symm, w, rfl⟩
  | connective k bare =>
    cases bare with
    | false =>
      simp only [hmode] at h
      cases h
    | true =>
      simp only [hmode, Pause.asks.injEq] at h
      exact .inr ⟨k, h.symm, rfl⟩
  | _ =>
    simp only [hmode] at h
    cases h

theorem pause_of_escape {s : ScanState} {w : Word} (h : s.mode = .escape w) :
    s.pause = .asks .backslash := by
  rw [pause, h]

theorem pause_of_connective {s : ScanState} {k : Connective} (h : s.mode = .connective k true) :
    s.pause = .asks (.connective k) := by
  rw [pause, h]

/-- A scan that asks gets its answer and goes on with it. -/
theorem settle_of_asks {s : ScanState} {p : Prompt} (h : s.pause = .asks p) (reply : String)
    (replies : List Reply) :
    settle (.ok reply :: replies) (.ok s) = (settle replies (s.resume reply)).after p := by
  rw [settle, h]

theorem settle_error (replies : List Reply) (e : LexicalError) :
    settle replies (.error e) = ⟨.error e, [], replies⟩ := by
  cases replies <;> rw [settle]

end ScanState

/-! ## Stages -/

/-- Where a scan stands. -/
structure Stage where
  /-- The state of the scan. -/
  state : ScanState
  /-- The text still to be taken. -/
  text : List Char
  /-- The replies still to come. -/
  replies : List Reply

namespace Stage

/-- The start of the scan of a line. -/
def start (line : String) (replies : List Reply) : Stage := ⟨.initial, line.toList, replies⟩

/-- The report on what is left of the scan. -/
def report (g : Stage) : ScanReport := ScanState.settle g.replies (g.state.feed g.text)

theorem report_start (line : String) (replies : List Reply) :
    (start line replies).report = scan line replies :=
  rfl

/-- A character that is taken leads to the same report. -/
theorem report_take {s s' : ScanState} {c : Char} (h : s.step c = .ok s') (cs : List Char)
    (replies : List Reply) : report ⟨s, c :: cs, replies⟩ = report ⟨s', cs, replies⟩ := by
  rw [report, report, ScanState.feed_cons_eq h]

/-- A character that has no place there ends the scan, -/
theorem report_rejected {s : ScanState} {c : Char} {e : LexicalError} (h : s.step c = .error e)
    (cs : List Char) (replies : List Reply) :
    report ⟨s, c :: cs, replies⟩ = ⟨.error e, [], replies⟩ := by
  rw [report, ScanState.feed, h]
  exact ScanState.settle_error replies _

/-- and so does the end of a text that is complete. -/
theorem report_settled {s : ScanState} {result : Except LexicalError (List Token)}
    (h : s.pause = .done result) (replies : List Reply) :
    report ⟨s, [], replies⟩ = ⟨result, [], replies⟩ :=
  ScanState.settle_of_done h replies

/-- Where more is asked for and there is none, the input is over. -/
theorem report_exhausted {s : ScanState} {p : Prompt} (h : s.pause = .asks p) :
    report ⟨s, [], []⟩ = ⟨.error (.read .endOfInput), [p], []⟩ := by
  rw [report, ScanState.feed_nil, ScanState.settle, h]

theorem report_failed {s : ScanState} {p : Prompt} (h : s.pause = .asks p) (failure : ReadFailure)
    (replies : List Reply) :
    report ⟨s, [], .error failure :: replies⟩ = ⟨.error (.read failure), [p], replies⟩ := by
  rw [report, ScanState.feed_nil, ScanState.settle, h]

/-- Where there is a line, the scan goes on with it, and the report shows the prompt in front. -/
theorem report_asked {s : ScanState} {p : Prompt} (h : s.pause = .asks p) (line : String)
    (replies : List Reply) :
    report ⟨s, [], .ok line :: replies⟩ = (ScanState.settle replies (s.resume line)).after p :=
  ScanState.settle_of_asks h line replies

/-- One move of a scan. -/
inductive Moves : Stage → Stage → Prop
  /-- The next character is taken. -/
  | take {s s' : ScanState} {c : Char} (h : s.step c = .ok s') (cs : List Char)
      (replies : List Reply) : Moves ⟨s, c :: cs, replies⟩ ⟨s', cs, replies⟩
  /-- Behind a backslash a reply is taken as it is, and the word goes on. -/
  | reopen {s : ScanState} {w : Word} (h : s.mode = .escape w) (reply : String)
      (replies : List Reply) :
      Moves ⟨s, [], .ok reply :: replies⟩ ⟨{ s with mode := .word w }, reply.toList, replies⟩
  /-- Behind a connective a reply is stripped. -/
  | extend {s : ScanState} {k : Connective} (h : s.mode = .connective k true) (reply : String)
      (replies : List Reply) :
      Moves ⟨s, [], .ok reply :: replies⟩ ⟨s, ScanState.stripped reply, replies⟩

/-- The scan comes from one stage to another. -/
abbrev Reaches : Stage → Stage → Prop := Relation.ReflTransGen Moves

/-- The last stage of a scan, and the report on it. -/
inductive Ends : Stage → ScanReport → Prop
  /-- The next character has no place there. -/
  | rejected {s : ScanState} {c : Char} {e : LexicalError} (h : s.step c = .error e)
      (cs : List Char) (replies : List Reply) :
      Ends ⟨s, c :: cs, replies⟩ ⟨.error e, [], replies⟩
  /-- The text is over, and nothing more is needed. -/
  | settled {s : ScanState} {result : Except LexicalError (List Token)}
      (h : s.pause = .done result) (replies : List Reply) :
      Ends ⟨s, [], replies⟩ ⟨result, [], replies⟩
  /-- More is needed, and there is none. -/
  | exhausted {s : ScanState} {p : Prompt} (h : s.pause = .asks p) :
      Ends ⟨s, [], []⟩ ⟨.error (.read .endOfInput), [p], []⟩
  /-- More is needed, and it cannot be read. -/
  | failed {s : ScanState} {p : Prompt} (h : s.pause = .asks p) (failure : ReadFailure)
      (replies : List Reply) :
      Ends ⟨s, [], .error failure :: replies⟩ ⟨.error (.read failure), [p], replies⟩

/-- A move leads to the result of the scan. -/
theorem Moves.result_eq {g g' : Stage} (h : Moves g g') : g.report.result = g'.report.result := by
  cases h with
  | take h cs replies => rw [report_take h]
  | reopen h reply replies =>
    rw [report_asked (ScanState.pause_of_escape h), ScanState.resume_of_escape h]
    rfl
  | extend h reply replies =>
    rw [report_asked (ScanState.pause_of_connective h), ScanState.resume_of_connective h]
    rfl

theorem Ends.report_eq {g : Stage} {r : ScanReport} (h : Ends g r) : g.report = r := by
  cases h with
  | rejected h cs replies => exact report_rejected h cs replies
  | settled h replies => exact report_settled h replies
  | exhausted h => exact report_exhausted h
  | failed h failure replies => exact report_failed h failure replies

/-- A text that is taken leads from stage to stage. -/
theorem reaches_of_feed {s s' : ScanState} {cs : List Char} (h : s.feed cs = .ok s')
    (ds : List Char) (replies : List Reply) :
    Reaches ⟨s, cs ++ ds, replies⟩ ⟨s', ds, replies⟩ := by
  induction cs generalizing s with
  | nil =>
    cases h
    exact .refl
  | cons c cs ih =>
    obtain ⟨s₁, hstep, hrest⟩ := ScanState.exists_step_of_feed_cons h
    exact (ih hrest).head (.take hstep _ replies)

/-- At every stage there is a move to make, or it is the last one. -/
theorem moves_or_ends (g : Stage) : (∃ g', Moves g g') ∨ ∃ r, Ends g r := by
  obtain ⟨s, text, replies⟩ := g
  cases text with
  | cons c cs =>
    cases hstep : s.step c with
    | error e => exact .inr ⟨_, .rejected hstep cs replies⟩
    | ok s' => exact .inl ⟨_, .take hstep cs replies⟩
  | nil =>
    cases hpause : s.pause with
    | done result => exact .inr ⟨_, .settled hpause replies⟩
    | asks p =>
      match replies with
      | [] => exact .inr ⟨_, .exhausted hpause⟩
      | .error failure :: replies => exact .inr ⟨_, .failed hpause failure replies⟩
      | .ok reply :: replies =>
        obtain ⟨-, w, hmode⟩ | ⟨k, -, hmode⟩ := ScanState.mode_of_asks hpause
        · exact .inl ⟨_, .reopen hmode reply replies⟩
        · exact .inl ⟨_, .extend hmode reply replies⟩

/-- A move takes a reply or, of the same text, a character. -/
theorem Moves.lex_lt {g g' : Stage} (h : Moves g g') :
    Prod.Lex (· < ·) (· < ·) (g'.replies.length, g'.text.length)
      (g.replies.length, g.text.length) := by
  cases h with
  | take h cs replies => exact .right _ (Nat.lt_succ_self _)
  | reopen h reply replies => exact .left _ _ (Nat.lt_succ_self _)
  | extend h reply replies => exact .left _ _ (Nat.lt_succ_self _)

/-- **A scan makes a number of moves and then ends**, and its result is that of its last stage. -/
theorem exists_ends (g : Stage) :
    ∃ last r, Reaches g last ∧ Ends last r ∧ r.result = g.report.result := by
  have hturn : ∀ a : Stage, a.report.result = g.report.result →
      (∃ b, Moves a b ∧ b.report.result = g.report.result ∧
        Prod.Lex (· < ·) (· < ·) (b.replies.length, b.text.length)
          (a.replies.length, a.text.length)) ∨ ∃ r, Ends a r := by
    intro a ha
    obtain ⟨b, hmove⟩ | hends := a.moves_or_ends
    · exact .inl ⟨b, hmove, hmove.result_eq.symm.trans ha, hmove.lex_lt⟩
    · exact .inr hends
  obtain ⟨last, hreaches, hresult, r, hends⟩ :=
    exists_reaches_end (fun a : Stage => (a.replies.length, a.text.length)) hturn rfl
  exact ⟨last, r, hreaches, hends, hends.report_eq ▸ hresult⟩

/-- A scan that comes to tokens does so at a stage with nothing left to take. -/
theorem exists_done {g : Stage} {tokens : List Token} (h : g.report.result = .ok tokens) :
    ∃ last, Reaches g last ∧ last.state.pause = .done (.ok tokens) := by
  obtain ⟨last, r, hreaches, hends, hr⟩ := g.exists_ends
  rw [h] at hr
  refine ⟨last, hreaches, ?_⟩
  cases hends with
  | rejected h cs replies => cases hr
  | settled h replies =>
    cases hr
    exact h
  | exhausted h => cases hr
  | failed h failure replies => cases hr

end Stage
end LineShell
