import LineShell.Proofs.Lookahead
import LineShell.Proofs.Requests
import LineShell.Scan.Scanner

/-!
# The buffer of a scan

A `Scanner` works on a text that can grow under it, and moves a cursor over it without looking back
at the bounds.  Two things could go wrong.  The cursor could leave the text: then the look past the
blanks behind a connective would fail, and the characters of the next reply would be passed over.
And the scan could go on for ever, as the rest of the text does not get shorter with every step: a
reply makes it longer, and some steps take nothing.  Neither happens.

* `Scanner.stage` — where the scan of `LineShell.Scan.Line` stands when a scanner stands at a point,
  and `Scanner.report`, the report on the whole scan.
* `Scanner.Sound` — the cursor is in the text or right behind it, and the scanner stands where it
  may stand.
* `Scanner.work` — a step asks for one of the replies left, or moves the cursor on in the same text,
  or is one of a few steps towards doing so.
* `Scanner.Right` — a turn is sound, keeps the report, and leaves less work.

There is one lemma for each point; `Scanner.right_step` puts them together.  The main statement is
`scan_reads`.
-/

set_option autoImplicit false
namespace LineShell

/-- How many steps from this point on can take neither a character nor a reply. -/
def Point.rank : Point → Nat
  | .line => 0
  | .comment | .word _ _ | .continuation _ | .operand _ => 1
  | .unit _ _ _ | .connective _ => 2
  | .token _ => 3

namespace Scanner

/-! ## Where a scanner stands -/

/-- The text from the cursor on. -/
def rest (s : Scanner) : List Char := s.input.drop s.cursor

/-- The state of the scan, with what the next character can mean. -/
def state (s : Scanner) (mode : Mode) : ScanState := ⟨s.tokens, s.gap, s.expectsProgram, mode⟩

/-- Where the scan that takes each character once stands when the scanner stands at a point. -/
def stageAt (s : Scanner) : Point → Stage
  | .line => ⟨s.state .boundary, s.rest, s.replies⟩
  | .token c => ⟨s.state .boundary, c :: s.rest, s.replies⟩
  | .comment => ⟨s.state .comment, s.rest, s.replies⟩
  | .unit w _ c => ⟨s.state (.word w), c :: s.rest, s.replies⟩
  | .word w _ => ⟨s.state (.word w), s.rest, s.replies⟩
  | .connective k =>
    ⟨(s.state .boundary).mark (.connective k) (.connective k true), s.rest, s.replies⟩
  | .continuation k | .operand k => ⟨s.state (.connective k true), s.rest, s.replies⟩

/-- Where that scan stands now. -/
def stage (s : Scanner) : Stage := s.stageAt s.point

/-- The report on the whole scan, as far as it has come and as it will go on from here. -/
def report (s : Scanner) : ScanReport :=
  { s.stage.report with prompts := s.prompts ++ s.stage.report.prompts }

theorem report_start (line : String) (replies : List Reply) :
    (start line replies).report = scan line replies :=
  rfl

theorem report_eq_of_stage {s s' : Scanner} (hprompts : s'.prompts = s.prompts)
    (hstage : s'.stage.report = s.stage.report) : s'.report = s.report := by
  rw [report, report, hprompts, hstage]

/-- The scanner can stand like this at a point. -/
def Fits (s : Scanner) : Point → Prop
  | .unit w found c => endsWord c = false ∧ (found = true ↔ w.text ≠ "")
  | .word w found => found = true ↔ w.text ≠ ""
  | .continuation _ => s.cursor = s.input.length
  | .operand _ => s.cursor < s.input.length
  | _ => True

/-- The cursor is in the text or right behind it, and the scanner stands where it can stand. -/
structure Sound (s : Scanner) : Prop where
  /-- The cursor has not left the text. -/
  cursor_le : s.cursor ≤ s.input.length
  /-- The scanner can stand like this where it stands. -/
  fits : s.Fits s.point

theorem Sound.fits_at {s : Scanner} (hs : s.Sound) {p : Point} (h : s.point = p) : s.Fits p :=
  h ▸ hs.fits

theorem sound_start (line : String) (replies : List Reply) : (start line replies).Sound :=
  ⟨Nat.zero_le _, trivial⟩

/-! ## The work that is left -/

/-- The replies left, the characters left, and the steps that take neither. -/
def work (s : Scanner) : Nat × Nat × Nat :=
  (s.replies.length, s.input.length - s.cursor, s.point.rank)

/-- There is less work left. -/
def Less (s' s : Scanner) : Prop :=
  Prod.Lex (· < ·) (Prod.Lex (· < ·) (· < ·)) s'.work s.work

/-! ## Turns -/

/-- A turn is what it should be: it leads to a sound scanner with the same report and less work, or
to the report. -/
def Right (s : Scanner) : Turn → Prop
  | .goesOn s' => s'.Sound ∧ s'.report = s.report ∧ s'.Less s
  | .ends r => r = s.report
  | .outOfBounds => False

/-- Two scanners have read the same. -/
structure Keeps (s s' : Scanner) : Prop where
  /-- They have got the same text, -/
  input : s'.input = s.input
  /-- they stand at the same place in it, -/
  cursor : s'.cursor = s.cursor
  /-- they have asked for as much, -/
  prompts : s'.prompts = s.prompts
  /-- and the same is still to come. -/
  replies : s'.replies = s.replies

theorem rest_of_peek {s : Scanner} {c : Char} (h : s.peek = some c) :
    s.rest = c :: s.bump.rest := by
  obtain ⟨hlt, rfl⟩ := List.getElem?_eq_some_iff.1 h
  exact List.drop_eq_getElem_cons hlt

theorem rest_of_peek_none {s : Scanner} (h : s.peek = none) : s.rest = [] :=
  List.drop_eq_nil_of_le (List.getElem?_eq_none_iff.1 h)

theorem cursor_lt_of_peek {s : Scanner} {c : Char} (h : s.peek = some c) :
    s.cursor < s.input.length :=
  (List.getElem?_eq_some_iff.1 h).1

theorem Sound.cursor_eq {s : Scanner} (hs : s.Sound) (h : s.peek = none) :
    s.cursor = s.input.length :=
  Nat.le_antisymm hs.cursor_le (List.getElem?_eq_none_iff.1 h)

variable {s : Scanner}

/-- A step that takes nothing is right if it leads on to a point of lower rank. -/
theorem right_reach (hs : s.Sound) {s' : Scanner} (hkeeps : s.Keeps s') {p : Point}
    (hrank : p.rank < s.point.rank) (hfits : s'.Fits p)
    (hstage : (s'.stageAt p).report = s.stage.report) :
    s.Right (s'.reach p) := by
  obtain ⟨hinput, hcursor, hprompts, hreplies⟩ := hkeeps
  refine ⟨⟨?_, hfits⟩, ?_, ?_⟩
  · show s'.cursor ≤ s'.input.length
    rw [hinput, hcursor]
    exact hs.cursor_le
  · exact report_eq_of_stage hprompts hstage
  · show Prod.Lex _ _ (s'.replies.length, s'.input.length - s'.cursor, p.rank) _
    rw [hinput, hcursor, hreplies]
    exact .right _ (.right _ hrank)

/-- A step that moves the cursor on is right if there is a character at the cursor. -/
theorem right_bump {c : Char} (hpeek : s.peek = some c) {p : Point}
    (hfits : s.bump.Fits p) (hstage : (s.bump.stageAt p).report = s.stage.report) :
    s.Right (s.bump.reach p) := by
  have hlt := cursor_lt_of_peek hpeek
  refine ⟨⟨hlt, hfits⟩, ?_, ?_⟩
  · exact report_eq_of_stage rfl hstage
  · refine .right _ (.left _ _ ?_)
    show s.input.length - (s.cursor + 1) < s.input.length - s.cursor
    omega

/-- The scan is over where no more is read. -/
theorem right_finish {result : Except LexicalError (List Token)}
    (h : s.stage.report = ⟨result, [], s.replies⟩) : s.Right (s.finish result) := by
  show ScanReport.mk result s.prompts s.replies = s.report
  rw [report, h, List.append_nil]

/-- A step that asks is right if the scan asks, and goes on with the reply. -/
theorem right_ask {p : Prompt} {next : Scanner → String → Turn} {t : ScanState}
    (hstage : s.stage.report = Stage.report ⟨t, [], s.replies⟩) (hasks : t.pause = .asks p)
    (hnext : ∀ line replies, s.replies = .ok line :: replies →
      ∃ s', next { s with prompts := s.prompts ++ [p], replies := replies } line = .goesOn s' ∧
        s'.Sound ∧ s'.prompts = s.prompts ++ [p] ∧ s'.replies = replies ∧
        s'.stage.report = ScanState.settle replies (t.resume line)) :
    s.Right (s.ask p next) := by
  rw [ask]
  match hreplies : s.replies with
  | [] =>
    show ScanReport.mk _ (s.prompts ++ [p]) _ = s.report
    rw [report, hstage, hreplies, Stage.report_exhausted hasks]
    rfl
  | .error failure :: replies =>
    show ScanReport.mk _ (s.prompts ++ [p]) _ = s.report
    rw [report, hstage, hreplies, Stage.report_failed hasks]
    rfl
  | .ok line :: replies =>
    obtain ⟨s', hgoes, hs', hprompts, hleft, hstage'⟩ := hnext line replies hreplies
    show s.Right (next { s with prompts := s.prompts ++ [p], replies := replies } line)
    rw [hgoes]
    refine ⟨hs', ?_, ?_⟩
    · rw [report, report, hstage, hreplies, Stage.report_asked hasks, hstage', hprompts,
        List.append_assoc]
      rfl
    · refine .left _ _ ?_
      rw [hleft, hreplies]
      exact Nat.lt_succ_self _

/-! ## The points -/

theorem right_line (h : s.point = .line) : s.Right s.step := by
  rw [step, h]
  cases hpeek : s.peek with
  | some c =>
    refine right_bump hpeek trivial ?_
    rw [stage, h, stageAt, stageAt, rest_of_peek hpeek]
    rfl
  | none =>
    refine right_finish ?_
    rw [stage, h, stageAt, rest_of_peek_none hpeek]
    exact Stage.report_settled rfl s.replies

theorem right_comment (hs : s.Sound) (h : s.point = .comment) : s.Right s.step := by
  have hrank : Point.line.rank < s.point.rank := h ▸ Nat.zero_lt_one
  rw [step, h]
  cases hpeek : s.peek with
  | some c =>
    by_cases hc : c = '\n'
    · -- the newline is left for the next step, and starts nothing there
      simp only [hc, ne_eq, not_true_eq_false, if_false]
      refine right_reach hs ⟨rfl, rfl, rfl, rfl⟩ hrank trivial ?_
      rw [stage, h, stageAt, stageAt, rest_of_peek hpeek, hc, Stage.report_take rfl,
        Stage.report_take rfl]
      rfl
    · simp only [ne_eq, hc, not_false_eq_true, if_true]
      refine right_bump hpeek trivial ?_
      have htake : (s.state .comment).step c = .ok (s.state .comment) :=
        congrArg Except.ok (if_neg hc)
      rw [stage, h, stageAt, stageAt, rest_of_peek hpeek, Stage.report_take htake]
      rfl
  | none =>
    refine right_reach hs ⟨rfl, rfl, rfl, rfl⟩ hrank trivial ?_
    rw [stage, h, stageAt, stageAt, rest_of_peek_none hpeek, Stage.report_settled rfl,
      Stage.report_settled rfl]
    rfl

/-- Ending a word reads nothing, -/
theorem keeps_close (s : Scanner) (w : Word) (found : Bool) : s.Keeps (s.close w found) := by
  rw [close]
  split_ifs <;> exact ⟨rfl, rfl, rfl, rfl⟩

/-- and it does what it should. -/
theorem state_close {w : Word} {found : Bool} (hfound : found = true ↔ w.text ≠ "")
    (mode : Mode) :
    (s.close w found).state .boundary = { (s.state mode).close w with mode := .boundary } := by
  cases found with
  | false =>
    have hempty : w.text = "" := by simpa using hfound
    rw [close, ScanState.close, if_pos hempty]
    rfl
  | true =>
    have hexpects : (s.state mode).expectsProgram = s.expectsProgram := rfl
    have hgap : (s.state mode).gap = s.gap := rfl
    rw [close, ScanState.close, if_neg (hfound.1 rfl), hexpects, hgap, if_neg (by decide)]
    split_ifs <;> rfl

theorem right_word (hs : s.Sound) {w : Word} {found : Bool} (h : s.point = .word w found) :
    s.Right s.step := by
  have hfound : found = true ↔ w.text ≠ "" := hs.fits_at h
  have hrank : Point.line.rank < s.point.rank := h ▸ Nat.zero_lt_one
  have hkeeps := s.keeps_close w found
  have hrest : (s.close w found).rest = s.rest := by
    rw [rest, hkeeps.input, hkeeps.cursor, rest]
  rw [step, h]
  cases hpeek : s.peek with
  | some c =>
    cases hc : endsWord c with
    | true =>
      simp only [hc, if_true]
      refine right_reach hs hkeeps hrank trivial ?_
      have hstep : (s.state (.word w)).step c = .ok (((s.state (.word w)).close w).start c) :=
        if_pos hc
      rw [stage, h, stageAt, stageAt, hrest, hkeeps.replies, rest_of_peek hpeek,
        Stage.report_take rfl, Stage.report_take hstep, state_close hfound (.word w)]
      exact congrArg (fun t => Stage.report ⟨t, _, _⟩) (ScanState.start_with_mode _ .boundary c)
    | false =>
      simp only [hc, Bool.false_eq_true, if_false]
      refine right_bump hpeek ⟨hc, hfound⟩ ?_
      rw [stage, h, stageAt, stageAt, rest_of_peek hpeek]
      rfl
  | none =>
    refine right_reach hs hkeeps hrank trivial ?_
    rw [stage, h, stageAt, stageAt, hrest, hkeeps.replies, rest_of_peek_none hpeek,
      Stage.report_settled rfl, Stage.report_settled rfl, state_close hfound (.word w)]
    rfl

theorem right_unit (hs : s.Sound) {w : Word} {found : Bool} {c : Char}
    (h : s.point = .unit w found c) : s.Right s.step := by
  obtain ⟨hend, hfound⟩ : endsWord c = false ∧ (found = true ↔ w.text ≠ "") := hs.fits_at h
  have hpushed : ∀ d, true = true ↔ (w.push d).text ≠ "" := fun d => by
    simp [Word.push]
  rw [step, h]
  show s.Right (s.take w found c)
  rw [take]
  by_cases hslash : c = '\\'
  · rw [if_pos hslash]
    subst hslash
    have hescape : (s.state (.word w)).step '\\' = .ok (s.state (.escape w)) := rfl
    cases hpeek : s.peek with
    | some d =>
      refine right_bump hpeek (hpushed d) ?_
      rw [stage, h, stageAt, stageAt, rest_of_peek hpeek, Stage.report_take hescape,
        Stage.report_take rfl]
      rfl
    | none =>
      have hlength : s.cursor = s.input.length := hs.cursor_eq hpeek
      refine right_ask ?_ (ScanState.pause_of_escape (s := s.state (.escape w)) rfl) ?_
      · rw [stage, h, stageAt, rest_of_peek_none hpeek, Stage.report_take hescape]
      · -- the cursor is right behind the text, so that it points to the start of the reply
        intro line replies _
        refine ⟨_, rfl, ⟨?_, hfound⟩, rfl, rfl, ?_⟩
        · show s.cursor ≤ (s.input ++ line.toList).length
          rw [List.length_append]
          exact Nat.le_add_right_of_le hs.cursor_le
        · show ScanState.settle _ (ScanState.feed _ ((s.input ++ line.toList).drop s.cursor)) = _
          rw [hlength, List.drop_left, ScanState.resume_of_escape rfl]
          rfl
  · rw [if_neg hslash]
    refine right_reach hs ⟨rfl, rfl, rfl, rfl⟩ (h ▸ Nat.lt_succ_self 1) (hpushed c) ?_
    rw [stage, h, stageAt, stageAt, Stage.report, Stage.report,
      ScanState.feed_letter rfl hend hslash]
    rfl

/-- A sign that is not doubled ends the scan. -/
theorem right_double {k : Connective} (h : s.point = .token k.sign) : s.Right (s.double k) := by
  have hhalf : s.stage.report = Stage.report ⟨s.state (.half k), s.rest, s.replies⟩ := by
    have hstep : (s.state .boundary).step k.sign = .ok (s.state (.half k)) := by
      cases k <;> rfl
    rw [stage, h, stageAt, Stage.report_take hstep]
  rw [double]
  by_cases hpeek : s.peek = some k.sign
  · rw [if_pos hpeek]
    refine right_bump hpeek trivial ?_
    rw [hhalf, stageAt, rest_of_peek hpeek, Stage.report_take (ScanState.step_half rfl)]
    rfl
  · rw [if_neg hpeek]
    refine right_finish ?_
    rw [hhalf]
    cases hnext : s.peek with
    | none =>
      rw [rest_of_peek_none hnext]
      exact Stage.report_settled rfl s.replies
    | some d =>
      have hne : d ≠ k.sign := fun hd => hpeek (hd ▸ hnext)
      have hstep : (s.state (.half k)).step d = .error (.unsupported k) := if_neg hne
      rw [rest_of_peek hnext]
      exact Stage.report_rejected hstep _ s.replies

theorem right_semicolon (hs : s.Sound) (h : s.point = .token ';') :
    s.Right (s.dispatch ';') := by
  have hmark : s.stage.report =
      Stage.report ⟨(s.state .boundary).mark .semicolon .semicolon, s.rest, s.replies⟩ := by
    rw [stage, h, stageAt, Stage.report_take rfl]
    rfl
  rw [dispatch, if_pos rfl]
  cases hfollowing : s.peek.filter isMark with
  | some d =>
    obtain ⟨hpeek, hd⟩ := Option.filter_eq_some_iff.1 hfollowing
    have hstep : ((s.state .boundary).mark .semicolon .semicolon).step d =
        .error (.unexpected (String.ofList [';', d])) :=
      if_pos hd
    refine right_finish ?_
    rw [hmark, rest_of_peek hpeek]
    exact Stage.report_rejected hstep _ s.replies
  | none =>
    have hkeeps : s.Keeps (s.mark .semicolon) := ⟨rfl, rfl, rfl, rfl⟩
    have hrank : Point.line.rank < s.point.rank := h ▸ Nat.zero_lt_succ 2
    have hfree : ∀ c ∈ s.rest.head?, isMark c = false := by
      intro c hc
      rw [rest, List.head?_drop] at hc
      simpa using Option.filter_eq_none_iff.1 hfollowing c hc
    refine right_reach hs hkeeps hrank trivial ?_
    exact (hmark.trans (ScanState.report_semicolon rfl hfree s.replies)).symm

theorem right_token (hs : s.Sound) {c : Char} (h : s.point = .token c) : s.Right s.step := by
  have hrank : ∀ p : Point, p.rank ≤ 2 → p.rank < s.point.rank := fun p hp => by
    rw [h]
    exact Nat.lt_succ_of_le hp
  have htake : s.stage.report =
      Stage.report ⟨(s.state .boundary).start c, s.rest, s.replies⟩ := by
    rw [stage, h, stageAt, Stage.report_take rfl]
  rw [step, h]
  show s.Right (s.dispatch c)
  by_cases hsemicolon : c = ';'
  · subst hsemicolon
    exact right_semicolon hs h
  by_cases hand : c = '&'
  · subst hand
    exact right_double h
  by_cases hor : c = '|'
  · subst hor
    exact right_double h
  rw [dispatch, if_neg hsemicolon, if_neg hand, if_neg hor]
  by_cases hblank : isBlank c = true
  · rw [if_pos hblank]
    have hkeeps : s.Keeps { s with gap := true } := ⟨rfl, rfl, rfl, rfl⟩
    refine right_reach hs hkeeps (hrank .line (Nat.zero_le 2)) trivial ?_
    rw [htake, ScanState.start_blank _ hblank]
    rfl
  rw [if_neg hblank]
  by_cases hnewline : c = '\n'
  · subst hnewline
    exact right_reach hs ⟨rfl, rfl, rfl, rfl⟩ (hrank .line (Nat.zero_le 2)) trivial htake.symm
  rw [if_neg hnewline]
  by_cases hhash : c = '#'
  · subst hhash
    exact right_reach hs ⟨rfl, rfl, rfl, rfl⟩ (hrank .comment (Nat.le_succ 1)) trivial htake.symm
  rw [if_neg hhash]
  have hend : endsWord c = false := by
    simp [endsWord, isMark, hsemicolon, hand, hor, hblank, hnewline]
  refine right_reach hs ⟨rfl, rfl, rfl, rfl⟩ (hrank (.unit _ _ _) (Nat.le_refl 2))
    ⟨hend, by simp⟩ ?_
  rw [htake, stageAt]
  by_cases hslash : c = '\\'
  · subst hslash
    exact Stage.report_take rfl _ _
  · have hfirst : (⟨c == '\\', ""⟩ : Word) = ⟨false, ""⟩ := by simp [hslash]
    rw [ScanState.start_letter _ hend hslash hhash, hfirst, Stage.report, Stage.report,
      ScanState.feed_letter rfl hend hslash]
    rfl

theorem ahead?_eq (h : s.cursor ≤ s.input.length) : s.ahead? = some s.rest := if_pos h

/-- The look past the blanks finds out what has no place behind a connective. -/
theorem right_unlessJoined (hs : s.Sound) {next : Turn}
    (hnear : ∀ near, ScanState.near? s.rest = some near →
      s.stage.report = ⟨.error (.unexpected near), [], s.replies⟩)
    (hnext : ScanState.near? s.rest = none → s.Right next) : s.Right (s.unlessJoined next) := by
  have hget : ∀ i, s.input[s.cursor + i]? = s.rest[i]? := fun i => List.getElem?_drop.symm
  rw [unlessJoined, ahead?_eq hs.cursor_le]
  simp only [Nat.add_assoc, hget]
  obtain ⟨hfind, hnone⟩ | ⟨offset, c, hfind, hc, hlook⟩ := ScanState.near?_cases s.rest
  · rw [hfind]
    exact hnext hnone
  · simp only [hfind, hc]
    split
    · rename_i hsign
      exact right_finish (hnear _ (hlook.trans (if_pos hsign)))
    · rename_i hsign
      exact hnext (hlook.trans (if_neg hsign))

theorem right_connective (hs : s.Sound) {k : Connective} (h : s.point = .connective k) :
    s.Right s.step := by
  have hkeeps : s.Keeps (s.mark (.connective k)) := ⟨rfl, rfl, rfl, rfl⟩
  rw [step, h]
  refine right_unlessJoined hs (fun near hnear => ?_) fun hnear => ?_
  · rw [stage, h, stageAt]
    exact ScanState.report_near rfl hnear s.replies
  · cases hpeek : s.peek with
    | none =>
      have hlength : s.cursor = s.input.length := hs.cursor_eq hpeek
      rw [if_pos rfl]
      refine right_reach hs hkeeps (h ▸ Nat.lt_succ_self 1) hlength ?_
      rw [stage, h]
      rfl
    | some c =>
      have hmode : ((s.state .boundary).mark (.connective k) (.connective k true)).mode =
          .connective k true := rfl
      have hne : s.rest = [] → true = false := by
        rw [rest_of_peek hpeek]
        exact nofun
      rw [if_neg nofun]
      refine right_reach hs hkeeps (h ▸ Nat.zero_lt_succ 1) trivial ?_
      rw [stage, h, stageAt, stageAt]
      exact (ScanState.report_connective hmode hnear hne s.replies).symm

theorem right_operand (hs : s.Sound) {k : Connective} (h : s.point = .operand k) :
    s.Right s.step := by
  have hlt : s.cursor < s.input.length := hs.fits_at h
  have hmode : (s.state (.connective k true)).mode = .connective k true := rfl
  have hne : s.rest = [] → true = false := by
    rw [rest, List.drop_eq_nil_iff]
    exact fun hle => absurd hlt (Nat.not_lt_of_le hle)
  rw [step, h]
  refine right_unlessJoined hs (fun near hnear => ?_) fun hnear => ?_
  · rw [stage, h, stageAt]
    exact ScanState.report_near rfl hnear s.replies
  · refine right_reach hs ⟨rfl, rfl, rfl, rfl⟩ (h ▸ Nat.zero_lt_one) trivial ?_
    rw [stage, h, stageAt, stageAt]
    exact (ScanState.report_connective hmode hnear hne s.replies).symm

theorem right_continuation (hs : s.Sound) {k : Connective} (h : s.point = .continuation k) :
    s.Right s.step := by
  have hlength : s.cursor = s.input.length := hs.fits_at h
  have hend : s.rest = [] := List.drop_eq_nil_of_le (Nat.le_of_eq hlength.symm)
  have hasks : (s.state (.connective k true)).pause = .asks (.connective k) := rfl
  rw [step, h]
  refine right_ask ?_ hasks fun line replies _ => ?_
  · rw [stage, h, stageAt, hend]
  · have hresume : (s.state (.connective k true)).resume line = (s.state (.connective k true)).feed
        (Text.trimBoth (fun c => isBlank c || c == '\n') line.toList) := rfl
    rw [hresume]
    generalize Text.trimBoth (fun c => isBlank c || c == '\n') line.toList = added
    by_cases hadded : added = []
    · refine ⟨_, if_pos hadded, ⟨hs.cursor_le, hlength⟩, rfl, rfl, ?_⟩
      rw [hadded]
      show ScanState.settle _ (ScanState.feed _ s.rest) = _
      rw [hend]
      rfl
    · have hgrown : s.cursor < (s.input ++ added).length := by
        rw [List.length_append, hlength]
        exact Nat.lt_add_of_pos_right (List.length_pos_iff.2 hadded)
      refine ⟨_, if_neg hadded, ⟨Nat.le_of_lt hgrown, hgrown⟩, rfl, rfl, ?_⟩
      show ScanState.settle _ (ScanState.feed _ ((s.input ++ added).drop s.cursor)) = _
      rw [hlength, List.drop_left]
      rfl

/-! ## Whole scans -/

/-- **Every step of a sound scanner is right.** -/
theorem right_step (hs : s.Sound) : s.Right s.step := by
  cases h : s.point with
  | line => exact right_line h
  | token c => exact right_token hs h
  | comment => exact right_comment hs h
  | unit w found c => exact right_unit hs h
  | word w found => exact right_word hs h
  | connective k => exact right_connective hs h
  | continuation k => exact right_continuation hs h
  | operand k => exact right_operand hs h

/-- A scanner takes one step. -/
def Moves (s s' : Scanner) : Prop := s.step = .goesOn s'

/-- A scanner comes from one state to another. -/
abbrev Reaches : Scanner → Scanner → Prop := Relation.ReflTransGen Moves

theorem Moves.right {s s' : Scanner} (h : s.Moves s') (hs : s.Sound) :
    s'.Sound ∧ s'.report = s.report ∧ s'.Less s := by
  have hright := right_step hs
  rwa [h] at hright

theorem Reaches.sound {s s' : Scanner} (h : Reaches s s') (hs : s.Sound) : s'.Sound := by
  induction h with
  | refl => exact hs
  | tail _ hmove ih => exact (hmove.right ih).1

/-- **A scanner makes a number of steps and then comes to its report.** -/
theorem exists_ends (hs : s.Sound) : ∃ last, Reaches s last ∧ last.step = .ends s.report := by
  have hturn : ∀ a : Scanner, a.Sound ∧ a.report = s.report →
      (∃ b, Moves a b ∧ (b.Sound ∧ b.report = s.report) ∧ b.Less a) ∨
        a.step = .ends s.report := by
    rintro a ⟨ha, hreport⟩
    have hright := right_step ha
    cases hstep : a.step with
    | goesOn b =>
      obtain ⟨hb, hkept, hless⟩ := Moves.right hstep ha
      exact .inl ⟨b, hstep, ⟨hb, hkept.trans hreport⟩, hless⟩
    | ends r =>
      rw [hstep] at hright
      exact .inr (congrArg Turn.ends (hright.trans hreport))
    | outOfBounds =>
      rw [hstep] at hright
      exact hright.elim
  obtain ⟨last, hreaches, -, hends⟩ := exists_reaches_end work hturn ⟨hs, rfl⟩
  exact ⟨last, hreaches, hends⟩

end Scanner

/-- **Every scan ends and reads no more than it is given.**  Let there be any replies to the scan of
a line, lines and failures, behind which the input ends.

* A scanner of the line makes a number of steps, and then it is over, with the report of the scan.
* Wherever it gets to, its cursor is in the text that it has got, or right behind it, so that the
  text can be cut there, and no step looks at the text where there is none.
* There is at most one request more than there are replies, all requests but the last were answered
  by lines, and the result is a failure to read exactly if that was the answer to the last one. -/
theorem scan_reads (line : String) (replies : List Reply) :
    (∃ last, Scanner.Reaches (.start line replies) last ∧
        last.step = .ends (scan line replies)) ∧
      (∀ s, Scanner.Reaches (.start line replies) s →
        s.cursor ≤ s.input.length ∧ s.ahead? = some (s.input.drop s.cursor) ∧
          s.step ≠ .outOfBounds) ∧
      (scan line replies).ReadsFrom replies := by
  have hstart := Scanner.sound_start line replies
  refine ⟨Scanner.exists_ends hstart, fun s hs => ?_, readsFrom_scan line replies⟩
  have hsound := Scanner.Reaches.sound hs hstart
  refine ⟨hsound.cursor_le, Scanner.ahead?_eq hsound.cursor_le, fun hstep => ?_⟩
  have hright := Scanner.right_step hsound
  rw [hstep] at hright
  exact hright

/-- Blank replies are asked for again until the input ends, one request behind the last reply. -/
example : scan "a &&" [.ok " ", .ok ""] =
    ⟨.error (.read .endOfInput), [.connective .and, .connective .and, .connective .and], []⟩ :=
  rfl

end LineShell
