import LineShell.Proofs.ScanMoves

/-!
# The shape of the tokens of a line

Whatever a line and its continuations look like, the tokens that it comes to have a shape: the end
of the input stands at their end and nowhere else, the tokens of marks are spelled as the marks, a
program name stands where a command starts, an argument behind another word, and no word has a space
at its ends.

Only one thing about the scanner is needed for this, which is that it knows what the newest token
is: `expectsProgram` is set exactly if there is none or if it is that of a mark.
`ScanState.Orderly` says so, and that each token fits the one before it.  It is kept by everything
that a scan does, so it holds at each stage that a scan gets to (`Stage.Reaches.orderly`).

The main statement is `scan_wellShaped`.  It also says that a word is joined to the token before it
only where there is one, and that this is a word.
-/

set_option autoImplicit false
namespace LineShell

/-! ## Shapes -/

/-- The token of a word. -/
def TokenKind.IsWord (k : TokenKind) : Prop := k = .programName ∨ k = .argument

/-- The token of a mark, behind which a command starts. -/
def TokenKind.IsMark (k : TokenKind) : Prop := k = .semicolon ∨ ∃ c, k = .connective c

/-- A text without a space at its ends. -/
structure Trimmed (w : String) : Prop where
  /-- It does not start with a space. -/
  head : w.toList.head? ≠ some ' '
  /-- It does not end with a space. -/
  last : w.toList.getLast? ≠ some ' '

/-- The shape of the tokens of a line. -/
structure WellShaped (tokens : List Token) : Prop where
  /-- The end of the input is the last token, and the only one of its kind. -/
  ends : ∃ ts, tokens = ts ++ [Token.endOfInput] ∧ ∀ t ∈ ts, t.kind ≠ .endOfInput
  /-- A semicolon is spelled as one. -/
  semicolon : ∀ t ∈ tokens, t.kind = .semicolon → t.lexeme = ";"
  /-- A connective is spelled as its symbol. -/
  connective : ∀ t ∈ tokens, ∀ k, t.kind = .connective k → t.lexeme = k.symbol
  /-- Right before an argument there is a word. -/
  argument : ∀ before t, before ++ [t] <+: tokens → t.kind = .argument →
    ∃ p ∈ before.getLast?, p.kind.IsWord
  /-- Right before a program name there is nothing at all, or a mark. -/
  program : ∀ before t, before ++ [t] <+: tokens → t.kind = .programName →
    ∀ p ∈ before.getLast?, p.kind.IsMark
  /-- Words have no space at their ends. -/
  trimmed : ∀ t ∈ tokens, t.kind.IsWord → Trimmed t.lexeme

/-! ## Texts without spaces at their ends -/

theorem Word.trimmed_lexeme (w : Word) : Trimmed w.lexeme := by
  have htrims := Text.trimsTo_trimBoth (· == ' ') w.text.toList
  constructor
  · rw [lexeme, String.toList_ofList]
    exact fun h => absurd (htrims.head _ h) (by decide)
  · rw [lexeme, String.toList_ofList]
    exact fun h => absurd (htrims.last _ h) (by decide)

/-- Joined texts have the ends that they have had. -/
theorem Trimmed.append {v w : String} (hv : Trimmed v) (hw : Trimmed w) : Trimmed (v ++ w) := by
  constructor
  · rw [String.toList_append, List.head?_append, Ne, Option.or_eq_some_iff]
    rintro (h | ⟨-, h⟩)
    · exact hv.head h
    · exact hw.head h
  · rw [String.toList_append, List.getLast?_append, Ne, Option.or_eq_some_iff]
    rintro (h | ⟨-, h⟩)
    · exact hw.last h
    · exact hv.last h

/-! ## Tokens in order -/

/-- The token fits behind the one before it, if there is one.  The end of the input is added behind
all the others and is not meant here. -/
def Token.Fits (t : Token) (before : Option Token) : Prop :=
  match t.kind with
  | .endOfInput => False
  | .programName => (∀ p ∈ before, p.kind.IsMark) ∧ Trimmed t.lexeme
  | .argument => (∃ p ∈ before, p.kind.IsWord) ∧ Trimmed t.lexeme
  | .semicolon => t.lexeme = ";"
  | .connective k => t.lexeme = k.symbol

theorem Token.Fits.trimmed {t : Token} {before : Option Token} (h : t.Fits before)
    (ht : t.kind.IsWord) : Trimmed t.lexeme := by
  rcases ht with hkind | hkind <;> simp only [Fits, hkind] at h <;> exact h.2

/-- A word fits where it did, also with more text behind it. -/
theorem Token.Fits.extend {t : Token} {before : Option Token} (h : t.Fits before)
    (ht : t.kind.IsWord) {lexeme : String} (hlexeme : Trimmed lexeme) :
    Token.Fits { t with lexeme := t.lexeme ++ lexeme } before := by
  rcases ht with hkind | hkind <;> simp only [Fits, hkind] at h ⊢ <;>
    exact ⟨h.1, h.2.append hlexeme⟩

namespace ScanState

/-- The tokens found so far are in order, and the scan knows what comes next. -/
structure Orderly (s : ScanState) : Prop where
  /-- Each token fits behind the one before it; the newest is the first of the list. -/
  fits : ∀ t ts, t :: ts <:+ s.tokens → t.Fits ts.head?
  /-- A program is expected at the start and behind marks, -/
  program : s.expectsProgram = true → ∀ p ∈ s.tokens.head?, p.kind.IsMark
  /-- and only there. -/
  argument : s.expectsProgram = false → ∃ p ∈ s.tokens.head?, p.kind.IsWord

theorem orderly_initial : initial.Orderly := by
  refine ⟨fun t ts h => ?_, fun _ => nofun, nofun⟩
  exact absurd (List.suffix_nil.1 h) (List.cons_ne_nil t ts)

/-- Neither the mode nor the gap matters. -/
theorem Orderly.congr {s s' : ScanState} (h : s.Orderly) (htokens : s'.tokens = s.tokens)
    (hexpects : s'.expectsProgram = s.expectsProgram) : s'.Orderly := by
  obtain ⟨hfits, hprogram, hargument⟩ := h
  rw [← htokens] at hfits hprogram hargument
  rw [← hexpects] at hprogram hargument
  exact ⟨hfits, hprogram, hargument⟩

theorem Orderly.fits_cons {s : ScanState} (h : s.Orderly) {u : Token}
    (hu : u.Fits s.tokens.head?) : ∀ t ts, t :: ts <:+ u :: s.tokens → t.Fits ts.head? := by
  intro t ts hsuffix
  rcases List.suffix_cons_iff.1 hsuffix with heq | hsuffix
  · cases heq
    exact hu
  · exact h.fits t ts hsuffix

theorem Orderly.mark {s : ScanState} (h : s.Orderly) {t : Token} (ht : t.kind.IsMark)
    (hfits : t.Fits s.tokens.head?) (mode : Mode) : (s.mark t mode).Orderly := by
  refine ⟨h.fits_cons hfits, fun _ p hp => ?_, nofun⟩
  cases hp
  exact ht

/-! ### Words -/

/-- The word continues the one before it. -/
def Joins (s : ScanState) (w : Word) : Prop :=
  w.text ≠ "" ∧ s.expectsProgram = false ∧ w.escaped = true ∧ s.gap = false

theorem Joins.tokens_close {s : ScanState} {w : Word} (h : s.Joins w) :
    (s.close w).tokens = attach w.lexeme s.tokens := by
  obtain ⟨hne, hexpects, hescaped, hgap⟩ := h
  rw [close, if_neg hne, hexpects, if_neg Bool.false_ne_true,
    if_pos (by rw [hescaped, hgap]; rfl)]

/-- Where the scan does not expect a program there is a word to be continued. -/
theorem Orderly.exists_word {s : ScanState} (h : s.Orderly) (hexpects : s.expectsProgram = false) :
    ∃ t ts, s.tokens = t :: ts ∧ t.kind.IsWord := by
  obtain ⟨t, ht, hword⟩ := h.argument hexpects
  obtain ⟨ts, hts⟩ := List.head?_eq_some_iff.1 ht
  exact ⟨t, ts, hts, hword⟩

/-- Continuing the newest word leaves its place as it is. -/
theorem Orderly.attach {s : ScanState} (h : s.Orderly) (hexpects : s.expectsProgram = false)
    {lexeme : String} (hlexeme : Trimmed lexeme) :
    Orderly { s with tokens := attach lexeme s.tokens, gap := false } := by
  obtain ⟨t, ts, htokens, hword⟩ := h.exists_word hexpects
  have hfits := h.fits
  rw [htokens] at hfits
  have hts : ∀ u us, u :: us <:+ ts → u.Fits us.head? := fun u us hsuffix =>
    hfits u us (hsuffix.trans (List.suffix_cons t ts))
  have ht : t.Fits ts.head? := hfits t ts (List.suffix_refl _)
  rw [htokens]
  refine ⟨fun u us hsuffix => ?_, fun hprogram => ?_, fun _ => ⟨_, rfl, hword⟩⟩
  · rcases List.suffix_cons_iff.1 hsuffix with heq | hsuffix
    · cases heq
      exact ht.extend hword hlexeme
    · exact hts u us hsuffix
  · exact absurd (hexpects.symm.trans hprogram) nofun

/-- **Ending a word keeps the tokens in order**, whatever becomes of it. -/
theorem Orderly.close {s : ScanState} (h : s.Orderly) (w : Word) : (s.close w).Orderly := by
  rw [ScanState.close]
  by_cases hempty : w.text = ""
  · rw [if_pos hempty]
    exact h
  rw [if_neg hempty]
  cases hexpects : s.expectsProgram with
  | true =>
    rw [if_pos rfl]
    exact ⟨h.fits_cons ⟨h.program hexpects, w.trimmed_lexeme⟩,
      fun hprogram => absurd hprogram Bool.false_ne_true, fun _ => ⟨_, rfl, .inl rfl⟩⟩
  | false =>
    rw [if_neg Bool.false_ne_true]
    by_cases hjoins : (w.escaped && !s.gap) = true
    · rw [if_pos hjoins]
      exact (h.attach hexpects w.trimmed_lexeme).congr rfl hexpects.symm
    · rw [if_neg hjoins]
      exact ⟨h.fits_cons ⟨h.argument hexpects, w.trimmed_lexeme⟩,
        fun hprogram => absurd hprogram Bool.false_ne_true, fun _ => ⟨_, rfl, .inr rfl⟩⟩

theorem Orderly.ended {s : ScanState} (h : s.Orderly) : s.ended.Orderly := by
  rw [ScanState.ended]
  split
  · exact h.close _
  · exact h

/-! ### Characters -/

theorem Begins.orderly {s s' : ScanState} {c : Char} (h : s.Begins c s') (hs : s.Orderly) :
    s'.Orderly := by
  cases h with
  | semicolon => exact hs.mark (t := .semicolon) (.inl rfl) rfl _
  | _ => exact hs.congr rfl rfl

theorem Takes.orderly {s s' : ScanState} {c : Char} (h : s.Takes c s') (hs : s.Orderly) :
    s'.Orderly := by
  cases h with
  | start _ h => exact h.orderly hs.ended
  | @doubled k _ _ => exact hs.mark (t := .connective k) (.inr ⟨k, rfl⟩) rfl _
  | _ => exact hs.congr rfl rfl

/-! ### The end of the text -/

/-- The tokens that a scan comes to are those it has found, once the last word is ended. -/
theorem eq_result_of_pause {s : ScanState} {tokens : List Token}
    (h : s.pause = .done (.ok tokens)) : tokens = s.ended.result := by
  rw [pause] at h
  rw [ScanState.ended]
  cases hmode : s.mode with
  | connective k bare =>
    cases bare <;> simp only [hmode] at h <;> cases h
    rfl
  | _ =>
    simp only [hmode] at h
    cases h <;> rfl

theorem Orderly.exists_fits {s : ScanState} (h : s.Orderly) {t : Token} (ht : t ∈ s.tokens) :
    ∃ before, t.Fits before := by
  obtain ⟨later, ts, htokens⟩ := List.append_of_mem ht
  exact ⟨ts.head?, h.fits t ts (by rw [htokens]; exact List.suffix_append later _)⟩

/-- A token that is not the end of the input fits behind the one before it. -/
theorem Orderly.fits_result {s : ScanState} (h : s.Orderly) {before : List Token} {t : Token}
    (hfront : before ++ [t] <+: s.result) (ht : t.kind ≠ .endOfInput) :
    t.Fits before.getLast? := by
  rw [result, List.reverse_cons, List.prefix_concat_iff] at hfront
  rcases hfront with heq | hfront
  · obtain ⟨-, hlast⟩ := List.append_inj' heq rfl
    cases hlast
    exact absurd rfl ht
  · rw [← List.reverse_suffix, List.reverse_append, List.reverse_reverse] at hfront
    have hfits := h.fits t before.reverse hfront
    rwa [List.head?_reverse] at hfits

/-- **Tokens in order have the shape of a line**, with the end of the input behind them. -/
theorem Orderly.wellShaped {s : ScanState} (h : s.Orderly) : WellShaped s.result := by
  have hmem : ∀ t ∈ s.result, t.kind ≠ .endOfInput → t ∈ s.tokens := by
    intro t ht hkind
    rw [result, List.mem_reverse, List.mem_cons] at ht
    rcases ht with rfl | ht
    · exact absurd rfl hkind
    · exact ht
  refine ⟨⟨s.tokens.reverse, List.reverse_cons, fun t ht hkind => ?_⟩, fun t ht hkind => ?_,
    fun t ht k hkind => ?_, fun before t hfront hkind => ?_, fun before t hfront hkind => ?_,
    fun t ht hword => ?_⟩
  · obtain ⟨before, hfits⟩ := h.exists_fits (List.mem_reverse.1 ht)
    simp only [Token.Fits, hkind] at hfits
  · obtain ⟨before, hfits⟩ := h.exists_fits (hmem t ht (by rw [hkind]; nofun))
    simpa only [Token.Fits, hkind] using hfits
  · obtain ⟨before, hfits⟩ := h.exists_fits (hmem t ht (by rw [hkind]; nofun))
    simpa only [Token.Fits, hkind] using hfits
  · have hfits := h.fits_result hfront (by rw [hkind]; nofun)
    simp only [Token.Fits, hkind] at hfits
    exact hfits.1
  · have hfits := h.fits_result hfront (by rw [hkind]; nofun)
    simp only [Token.Fits, hkind] at hfits
    exact hfits.1
  · have hkind : t.kind ≠ .endOfInput := by
      rcases hword with hkind | hkind <;> rw [hkind] <;> nofun
    obtain ⟨before, hfits⟩ := h.exists_fits (hmem t ht hkind)
    exact hfits.trimmed hword

end ScanState

/-! ## Scans -/

namespace Stage

theorem Moves.orderly {g g' : Stage} (h : Moves g g') (hg : g.state.Orderly) :
    g'.state.Orderly := by
  cases h with
  | take h cs replies => exact (ScanState.takes_of_step h).orderly hg
  | reopen h reply replies => exact hg.congr rfl rfl
  | extend h reply replies => exact hg

/-- **The tokens are in order at each stage of a scan.** -/
theorem Reaches.orderly {g g' : Stage} (h : Reaches g g') (hg : g.state.Orderly) :
    g'.state.Orderly := by
  induction h with
  | refl => exact hg
  | tail _ hmove ih => exact hmove.orderly ih

end Stage

/-- **The tokens of a line are well shaped**, whatever the line and the replies to it are.
Wherever the scan of a line gets to, also if it fails later, a word that continues the token before
it finds one there, and that is a word. -/
theorem scan_wellShaped (line : String) (replies : List Reply) :
    (∀ tokens, (scan line replies).result = .ok tokens → WellShaped tokens) ∧
      ∀ g, Stage.Reaches (.start line replies) g → ∀ w, g.state.mode = .word w → g.state.Joins w →
        ∃ t ts, g.state.tokens = t :: ts ∧ t.kind.IsWord ∧
          (g.state.close w).tokens = { t with lexeme := t.lexeme ++ w.lexeme } :: ts := by
  have horderly : ∀ g, Stage.Reaches (.start line replies) g → g.state.Orderly :=
    fun g hg => hg.orderly ScanState.orderly_initial
  refine ⟨fun tokens hresult => ?_, fun g hg w _ hjoins => ?_⟩
  · rw [← Stage.report_start] at hresult
    obtain ⟨last, hlast, hpause⟩ := Stage.exists_done hresult
    rw [ScanState.eq_result_of_pause hpause]
    exact (horderly last hlast).ended.wellShaped
  · obtain ⟨t, ts, htokens, hword⟩ := (horderly g hg).exists_word hjoins.2.1
    refine ⟨t, ts, htokens, hword, ?_⟩
    rw [hjoins.tokens_close, htokens]
    rfl

/-- A word on the second line continues the program name on the first.  It is joined without the
escaped space at its start. -/
theorem scan_wellShaped_joined :
    (scan "ls\n\\ a &&" [.ok "b"]).result =
        .ok [⟨.programName, "lsa"⟩, .connective .and, ⟨.programName, "b"⟩, .endOfInput] ∧
      WellShaped [⟨.programName, "lsa"⟩, .connective .and, ⟨.programName, "b"⟩, .endOfInput] ∧
      ∃ g, Stage.Reaches (.start "ls\n\\ a &&" [.ok "b"]) g ∧
        g.state.mode = .word ⟨true, " a"⟩ ∧ g.state.Joins ⟨true, " a"⟩ ∧
        (g.state.close ⟨true, " a"⟩).tokens = [⟨.programName, "lsa"⟩] := by
  have hresult : (scan "ls\n\\ a &&" [.ok "b"]).result =
      .ok [⟨.programName, "lsa"⟩, .connective .and, ⟨.programName, "b"⟩, .endOfInput] := rfl
  obtain ⟨hshaped, hjoined⟩ := scan_wellShaped "ls\n\\ a &&" [.ok "b"]
  have hfeed : ScanState.initial.feed "ls\n\\ a".toList =
      .ok ⟨[⟨.programName, "ls"⟩], false, false, .word ⟨true, " a"⟩⟩ := rfl
  have hreaches := Stage.reaches_of_feed hfeed " &&".toList [.ok "b"]
  have hjoins : ScanState.Joins ⟨[⟨.programName, "ls"⟩], false, false, .word ⟨true, " a"⟩⟩
      ⟨true, " a"⟩ := ⟨by decide, rfl, rfl, rfl⟩
  obtain ⟨t, ts, htokens, -, hclosed⟩ := hjoined _ hreaches _ rfl hjoins
  cases htokens
  exact ⟨hresult, hshaped _ hresult, _, hreaches, rfl, hjoins, hclosed⟩

end LineShell
