import LineShell.Proofs.LineGrammar

/-!
# The scanner follows the grammar

The scanner reads characters, and only finds out what a run is when it is over.  So it is followed
from run to run: `ScanState.Stands` describes the states that it can be in between two of them, and
`ScanState.Reads` says that from there on it does with the rest of the line what the grammar says.
There is one lemma for each kind of run, and `Stands.reads` puts them together.

The main statement, `scan_eq_ok_iff`, is that a line is scanned into tokens exactly if its marks are
right, and that these are the tokens of its runs.
-/

set_option autoImplicit false
namespace LineShell

namespace ScanState

/-! ## Being accepted -/

/-- From here on the scan takes the rest `cs` of a line, with nothing to follow it, and finds the
tokens `ts`. -/
def Accepts (s : ScanState) (cs : List Char) (ts : List Token) : Prop :=
  (settle [] (s.feed cs)).result = .ok ts

theorem accepts_append {s s' : ScanState} {cs : List Char} (h : s.feed cs = .ok s')
    (ds : List Char) (ts : List Token) : s.Accepts (cs ++ ds) ts ↔ s'.Accepts ds ts := by
  rw [Accepts, feed_append_eq h, Accepts]

theorem accepts_cons {s s' : ScanState} {c : Char} (h : s.step c = .ok s') (cs : List Char)
    (ts : List Token) : s.Accepts (c :: cs) ts ↔ s'.Accepts cs ts := by
  rw [Accepts, feed_cons_eq h, Accepts]

theorem not_accepts_cons {s : ScanState} {c : Char} {e : LexicalError} (h : s.step c = .error e)
    (cs : List Char) (ts : List Token) : ¬ s.Accepts (c :: cs) ts := by
  rw [Accepts, feed, h, settle]
  intro h
  cases h

theorem accepts_nil (s : ScanState) (ts : List Token) :
    s.Accepts [] ts ↔ s.pause = .done (.ok ts) := by
  rw [Accepts, feed_nil, settle]
  cases s.pause <;> simp

/-! ## Marks that do not fit -/

/-- Half a connective needs its other half. -/
theorem not_accepts_half {s : ScanState} {k : Connective} (h : s.mode = .half k) {cs : List Char}
    (hcs : cs.head? ≠ some k.sign) (ts : List Token) : ¬ s.Accepts cs ts := by
  cases cs with
  | nil =>
    rw [accepts_nil, pause, h]
    intro h
    cases h
  | cons c cs =>
    have hc : c ≠ k.sign := fun he => hcs (congrArg some he)
    have hstep : s.step c = .error (.unsupported k) := by
      rw [step, h]
      simp only [if_neg hc]
    exact not_accepts_cons hstep cs ts

/-- Nothing goes on after a clash. -/
theorem not_accepts_clash {s : ScanState} {c : Char} (h : s.mode = .clash c) (cs : List Char)
    (ts : List Token) : ¬ s.Accepts cs ts := by
  cases cs with
  | nil =>
    rw [accepts_nil, pause, h]
    intro h
    cases h
  | cons d cs => exact not_accepts_cons (by rw [step, h]) cs ts

/-- No marks may follow a semicolon directly. -/
theorem not_accepts_semicolon {s : ScanState} (h : s.mode = .semicolon) {ms : List Char}
    (hne : ms ≠ []) (hms : ∀ m ∈ ms, isMark m = true) (cs : List Char) (ts : List Token) :
    ¬ s.Accepts (ms ++ cs) ts := by
  obtain ⟨m, ms, rfl⟩ := List.exists_cons_of_ne_nil hne
  refine not_accepts_cons (e := .unexpected (String.ofList [';', m])) ?_ (ms ++ cs) ts
  rw [step, h]
  simp only [hms m List.mem_cons_self, if_true]

/-- A second connective clashes with the one before. -/
theorem not_accepts_connective {s : ScanState} {k : Connective} {bare : Bool}
    (h : s.mode = .connective k bare) (k' : Connective) (cs : List Char) (ts : List Token) :
    ¬ s.Accepts (k'.sign :: cs) ts := by
  have hstep : s.step k'.sign = .ok { s with mode := .clash k'.sign } := by
    rw [step, h]
    cases k' <;> rfl
  rw [accepts_cons hstep]
  exact not_accepts_clash rfl cs ts

/-- A semicolon may follow it. -/
theorem step_semicolon_of_connective {s : ScanState} {k : Connective} {bare : Bool}
    (h : s.mode = .connective k bare) : s.step ';' = .ok (s.mark .semicolon .semicolon) := by
  rw [step, h]
  rfl

theorem Loose.step_semicolon {s : ScanState} (h : s.Loose) :
    s.step ';' = .ok (s.ended.mark .semicolon .semicolon) :=
  h.step_eq rfl

/-- A mark is a semicolon or the sign of a connective. -/
theorem eq_semicolon_or_sign {c : Char} (h : isMark c = true) :
    c = ';' ∨ ∃ k : Connective, c = k.sign := by
  simp only [isMark, Bool.or_eq_true, beq_iff_eq] at h
  rcases h with (rfl | rfl) | rfl
  · exact .inr ⟨.and, rfl⟩
  · exact .inr ⟨.or, rfl⟩
  · exact .inl rfl

theorem isMark_sign (k : Connective) : isMark k.sign = true := by
  cases k <;> rfl

/-- Of the marks directly behind a connective, only a lone semicolon is right. -/
theorem not_accepts_marks_of_connective {s : ScanState} {k : Connective} {bare : Bool}
    (h : s.mode = .connective k bare) {ms : List Char} (hne : ms ≠ []) (hsemi : ms ≠ [';'])
    (hms : ∀ m ∈ ms, isMark m = true) (cs : List Char) (ts : List Token) :
    ¬ s.Accepts (ms ++ cs) ts := by
  obtain ⟨m, ms, rfl⟩ := List.exists_cons_of_ne_nil hne
  rw [List.cons_append]
  rcases eq_semicolon_or_sign (hms m List.mem_cons_self) with rfl | ⟨k', rfl⟩
  · rw [accepts_cons (step_semicolon_of_connective h)]
    refine not_accepts_semicolon rfl ?_ (fun m hm => hms m (List.mem_cons_of_mem _ hm)) cs ts
    rintro rfl
    exact hsemi rfl
  · exact not_accepts_connective h k' (ms ++ cs) ts

/-- Marks that make no block are not accepted, whatever stands behind them. -/
theorem Loose.not_accepts_unknown {s : ScanState} (h : s.Loose) {ms : List Char} (hne : ms ≠ [])
    (hms : ∀ m ∈ ms, isMark m = true) (hunknown : ∀ t ∈ blocks, ms ≠ t.toList) {cs : List Char}
    (hcs : ∀ c ∈ cs.head?, isMark c = false) (ts : List Token) : ¬ s.Accepts (ms ++ cs) ts := by
  obtain ⟨m, ms, rfl⟩ := List.exists_cons_of_ne_nil hne
  rw [List.cons_append]
  rcases eq_semicolon_or_sign (hms m List.mem_cons_self) with rfl | ⟨k, rfl⟩
  · -- a semicolon alone would be a block, so there is a mark behind it
    rw [accepts_cons h.step_semicolon]
    refine not_accepts_semicolon rfl ?_ (fun m hm => hms m (List.mem_cons_of_mem _ hm)) cs ts
    rintro rfl
    exact hunknown ";" (by decide) rfl
  · rw [accepts_cons (h.step_sign k)]
    by_cases hhead : (ms ++ cs).head? = some k.sign
    case neg => exact not_accepts_half rfl hhead ts
    rcases ms with _ | ⟨m₂, ms⟩
    · have hmark := hcs k.sign hhead
      rw [isMark_sign] at hmark
      cases hmark
    -- so would be a connective alone, and one with a semicolon behind it
    obtain rfl : m₂ = k.sign := Option.some.inj hhead
    rw [List.cons_append, accepts_cons (step_half rfl)]
    refine not_accepts_marks_of_connective rfl ?_ ?_ (fun m hm => hms m (by simp [hm])) cs ts
    · rintro rfl
      exact hunknown k.symbol (by cases k <;> decide) k.symbol_toList.symm
    · rintro rfl
      cases k
      · exact hunknown "&&;" (by decide) rfl
      · exact hunknown "||;" (by decide) rfl

end ScanState

/-! ## Between two runs -/

/-- The kind of run that cannot come next, because the one that ends here would go on. -/
def Mode.barred : Mode → Option GlyphKind
  | .word _ => some .word
  | .semicolon => some .mark
  | .connective _ true => some .mark
  | _ => none

/-- The mode behind blanks. -/
def Mode.pastBlank : Mode → Mode
  | .connective k _ => .connective k false
  | _ => .boundary

/-- What the mode asks of the runs to come, apart from their being well marked. -/
def Mode.Admits : Mode → List (List Glyph) → Prop
  | .connective _ bare, rs => (bare = true → rs ≠ []) ∧ Unjoined rs
  | _, _ => True

theorem Mode.pastBlank_eq (m : Mode) :
    m.pastBlank = .boundary ∨ ∃ k, m.pastBlank = .connective k false := by
  cases m with
  | connective k bare => exact .inr ⟨k, rfl⟩
  | _ => exact .inl rfl

theorem Mode.pastBlank_pastBlank (m : Mode) : m.pastBlank.pastBlank = m.pastBlank := by
  cases m <;> rfl

theorem Mode.barred_pastBlank (m : Mode) : m.pastBlank.barred = none := by
  cases m <;> rfl

theorem Mode.admits_cons_blank (m : Mode) {run : List Glyph} {rs : List (List Glyph)}
    (hrun : ∀ g ∈ run, g.kind = .blank) : m.Admits (run :: rs) ↔ m.pastBlank.Admits rs := by
  cases m with
  | connective k bare => simp [Mode.Admits, Mode.pastBlank, unjoined_cons_blank hrun]
  | _ => exact Iff.rfl

namespace ScanState

/-- The scan is between two runs and has found the tokens `ts`; the next word is the `first` of its
command, or it stands behind blanks. -/
structure Stands (s : ScanState) (first : Bool) (ts : List Token) : Prop where
  /-- Nothing is half done, except perhaps a word. -/
  rests : s.Loose ∨ s.mode = .semicolon ∨ ∃ k bare, s.mode = .connective k bare
  /-- The tokens so far, with that word. -/
  tokens : s.ended.tokens = ts.reverse
  /-- Does a program come next? -/
  expects : s.ended.expectsProgram = first
  /-- Two words have a gap between them. -/
  gap : first = false → s.gap = true ∨ ∃ w, s.mode = .word w

/-- From here on, the scan does with the runs what the grammar says. -/
def Reads (s : ScanState) (first : Bool) (ts : List Token) (rs : List (List Glyph)) : Prop :=
  ∀ tokens, s.Accepts (rs.flatten.flatMap Glyph.spelling) tokens ↔
    s.mode.Admits rs ∧ WellMarked rs ∧ tokens = ts ++ tokensOf first rs

theorem Loose.admits {s : ScanState} (h : s.Loose) (rs : List (List Glyph)) : s.mode.Admits rs := by
  rcases h with h | ⟨w, h⟩ <;> rw [h] <;> trivial

section Runs

variable {s : ScanState} {first : Bool} {ts : List Token} {run : List Glyph}
  {rs : List (List Glyph)}

theorem Behind.stands (h : s.Behind ts) {w : Word} (hmode : s.mode = .word w) :
    s.Stands false ts :=
  ⟨.inl h.loose, h.tokens, h.expects, fun _ => .inr ⟨w, hmode⟩⟩

theorem Stands.result_eq (hs : s.Stands first ts) : s.ended.result = ts ++ [Token.endOfInput] := by
  rw [result, hs.tokens, List.reverse_cons, List.reverse_reverse]

theorem Stands.opens (hs : s.Stands first ts) (hmode : s.mode.barred ≠ some .word) : s.Opens := by
  rcases hs.rests with (h | ⟨w, h⟩) | h | h
  · exact .inl h
  · rw [h] at hmode
    exact absurd rfl hmode
  · exact .inr (.inl h)
  · exact .inr (.inr h)

theorem Opens.ended_eq (h : s.Opens) : s.ended = s := by
  rcases h with h | h | ⟨k, bare, h⟩ <;> rw [ended, h]

/-- At the end of the line. -/
theorem Stands.reads_nil (hs : s.Stands first ts) : s.Reads first ts [] := by
  intro tokens
  have hresult := hs.result_eq
  rw [List.flatten_nil, List.flatMap_nil, accepts_nil, tokensOf, ← hresult,
    and_iff_right wellMarked_nil, eq_comm]
  rcases hs.rests with h | h | ⟨k, bare, h⟩
  · rw [h.pause_eq, and_iff_right (h.admits [])]
    simp
  · rw [Opens.ended_eq (.inr (.inl h)), pause, h, and_iff_right (by trivial)]
    simp
  · rw [Opens.ended_eq (.inr (.inr ⟨k, bare, h⟩)), pause, h]
    cases bare <;> simp [Mode.Admits, unjoined_nil]

/-! ### Words -/

/-- Where a word can start, a run of word glyphs is one. -/
theorem Stands.feed_word (hs : s.Stands first ts) (hopens : s.Opens) (hne : run ≠ [])
    (hrun : ∀ g ∈ run, g.kind = .word) (hplain : ∀ g ∈ run, g.Plain) :
    ∃ s' w, s.feed (run.flatMap Glyph.spelling) = .ok s' ∧ s'.mode = .word w ∧
      s'.Stands false (ts ++ [wordToken first run]) := by
  have hw : String.ofList (run.map Glyph.char) ≠ "" := by
    simpa [← String.toList_inj] using hne
  obtain ⟨e, hfeed⟩ := hopens.feed_word hw (Glyph.wordSpelled_of_word hrun hplain)
  have htokens := hs.tokens
  have hexpects := hs.expects
  rw [hopens.ended_eq] at htokens hexpects
  have hbehind : Behind { s with mode := .word ⟨e, String.ofList (run.map Glyph.char)⟩ }
      (ts ++ [⟨if first then .programName else .argument,
        Word.lexeme ⟨e, String.ofList (run.map Glyph.char)⟩⟩]) := by
    cases first with
    | true => exact behind_program rfl hw htokens hexpects
    | false =>
      have hgap : s.gap = true := by
        rcases hs.gap rfl with hgap | ⟨w, hmode⟩
        · exact hgap
        · rcases hopens with h | h | ⟨k, bare, h⟩ <;> rw [h] at hmode <;> cases hmode
      exact behind_argument rfl hw htokens hexpects hgap
  rw [Word.lexeme, String.toList_ofList] at hbehind
  exact ⟨_, _, hfeed, rfl, hbehind.stands rfl⟩

theorem Stands.reads_word (hs : s.Stands first ts) (hmode : s.mode.barred ≠ some .word)
    (hne : run ≠ []) (hrun : ∀ g ∈ run, g.kind = .word) (hplain : ∀ g ∈ run, g.Plain)
    (hrs : ∀ {s' : ScanState} {w : Word} {ts' : List Token}, s'.Stands false ts' →
      s'.mode = .word w → s'.Reads false ts' rs) :
    s.Reads first ts (run :: rs) := by
  intro tokens
  obtain ⟨s', w, hfeed, hmode', hs'⟩ := hs.feed_word (hs.opens hmode) hne hrun hplain
  have hadmits' : s'.mode.Admits rs := Loose.admits (.inr ⟨w, hmode'⟩) rs
  have hadmits : s.mode.Admits (run :: rs) := by
    rcases hs.rests with h | h | ⟨k, bare, h⟩
    · exact h.admits _
    · rw [h]
      trivial
    · rw [h]
      refine ⟨fun _ => by simp, ?_⟩
      obtain ⟨g, gs, rfl⟩ := List.exists_cons_of_ne_nil hne
      have hg := hrun g List.mem_cons_self
      rw [unjoined_cons_of_ne_blank (by rw [hg]; nofun)]
      intro hmem
      simp only [List.mem_cons, List.not_mem_nil, or_false] at hmem
      rcases hmem with rfl | rfl <;> cases hg
  rw [List.flatten_cons, List.flatMap_append, accepts_append hfeed, hrs hs' hmode',
    and_iff_right hadmits', and_iff_right hadmits, wellMarked_cons_of_ne_mark (by nofun) hne hrun,
    tokensOf_cons_word hne hrun, List.append_assoc, List.singleton_append]

/-! ### Blanks -/

theorem Stands.step_blank (hs : s.Stands first ts) {b : Char} (hb : isBlank b = true) :
    s.step b = .ok { s.ended with gap := true, mode := s.mode.pastBlank } := by
  rcases hs.rests with h | h | ⟨k, bare, h⟩
  · have hend : endsWord b = true := by simp [endsWord, hb]
    rw [h.step_eq hend, start_blank _ hb]
    rcases h with h | ⟨w, h⟩ <;> rw [h] <;> rfl
  · have hpast : s.mode.pastBlank = .boundary := by
      rw [h]
      rfl
    rw [Opens.ended_eq (.inr (.inl h)), hpast, step, h, ← start_blank s hb]
    simp only [isMark_of_isBlank hb, Bool.false_eq_true, if_false]
  · rw [Opens.ended_eq (.inr (.inr ⟨k, bare, h⟩)), step, h, Mode.pastBlank]
    simp only [hb, if_true]

/-- Blanks change nothing but the gap. -/
theorem Stands.behind_blank (hs : s.Stands first ts) :
    Stands { s.ended with gap := true, mode := s.mode.pastBlank } first ts := by
  rcases s.mode.pastBlank_eq with h | ⟨k, h⟩ <;> rw [h]
  · exact ⟨.inl (.inl rfl), hs.tokens, hs.expects, fun _ => .inl rfl⟩
  · exact ⟨.inr (.inr ⟨k, false, rfl⟩), hs.tokens, hs.expects, fun _ => .inl rfl⟩

theorem Stands.feed_blanks (hs : s.Stands first ts) {bs : List Char} (hne : bs ≠ [])
    (hbs : ∀ b ∈ bs, isBlank b = true) :
    ∃ s', s.feed bs = .ok s' ∧ s'.mode = s.mode.pastBlank ∧ s'.Stands first ts := by
  induction bs generalizing s with
  | nil => exact absurd rfl hne
  | cons b bs ih =>
    have hs₁ := hs.behind_blank
    rw [feed_cons_eq (hs.step_blank (hbs b List.mem_cons_self))]
    by_cases hbs' : bs = []
    · subst hbs'
      exact ⟨_, rfl, rfl, hs₁⟩
    · obtain ⟨s₂, hfeed, hmode, hs₂⟩ := ih hs₁ hbs' fun c hc => hbs c (List.mem_cons_of_mem _ hc)
      exact ⟨s₂, hfeed, hmode.trans s.mode.pastBlank_pastBlank, hs₂⟩

theorem Stands.reads_blank (hs : s.Stands first ts) (hne : run ≠ [])
    (hrun : ∀ g ∈ run, g.kind = .blank)
    (hrs : ∀ {s' : ScanState}, s'.Stands first ts → s'.mode = s.mode.pastBlank →
      s'.Reads first ts rs) : s.Reads first ts (run :: rs) := by
  intro tokens
  have hbare : ∀ g ∈ run, ∃ c, g = .bare c := fun g hg =>
    (Glyph.exists_bare_of_blank (hrun g hg)).imp fun _ => And.left
  have hblanks : ∀ b ∈ run.map Glyph.char, isBlank b = true := by
    intro b hb
    obtain ⟨g, hg, rfl⟩ := List.mem_map.1 hb
    obtain ⟨c, rfl, hc⟩ := Glyph.exists_bare_of_blank (hrun g hg)
    exact hc
  obtain ⟨s', hfeed, hmode, hs'⟩ := hs.feed_blanks (by simpa using hne) hblanks
  rw [List.flatten_cons, List.flatMap_append, Glyph.flatMap_spelling_of_bare hbare,
    accepts_append hfeed, hrs hs' hmode, hmode, s.mode.admits_cons_blank hrun,
    wellMarked_cons_of_ne_mark (by nofun) hne hrun, tokensOf_cons_blank hne hrun]

/-! ### Marks -/

theorem Stands.mark_semicolon (hs : s.Stands first ts) :
    (s.ended.mark .semicolon .semicolon).Stands true (ts ++ [Token.semicolon]) := by
  refine ⟨.inr (.inl rfl), ?_, rfl, nofun⟩
  rw [List.reverse_append, ← hs.tokens]
  rfl

theorem Stands.mark_connective (hs : s.Stands first ts) (k : Connective) :
    (s.ended.mark (.connective k) (.connective k true)).Stands true
      (ts ++ [Token.connective k]) := by
  refine ⟨.inr (.inr ⟨k, true, rfl⟩), ?_, rfl, nofun⟩
  rw [List.reverse_append, ← hs.tokens]
  rfl

/-- A block is a semicolon, a connective, or one behind the other. -/
theorem mem_blocks_iff {t : String} :
    t ∈ blocks ↔ t = ";" ∨ ∃ k : Connective, t = k.symbol ∨ t = k.symbol ++ ";" := by
  constructor
  · intro ht
    simp only [blocks, List.mem_cons, List.not_mem_nil, or_false] at ht
    rcases ht with rfl | rfl | rfl | rfl | rfl
    · exact .inl rfl
    · exact .inr ⟨.and, .inl rfl⟩
    · exact .inr ⟨.or, .inl rfl⟩
    · exact .inr ⟨.and, .inr rfl⟩
    · exact .inr ⟨.or, .inr rfl⟩
  · rintro (rfl | ⟨k, rfl | rfl⟩)
    · decide
    · cases k <;> decide
    · cases k <;> decide

/-- A block behind a word or blanks.  If it is a connective, the runs behind it have to be there and
may not start with another. -/
theorem Stands.feed_block (hs : s.Stands first ts) (hloose : s.Loose) {t : String}
    (ht : t ∈ blocks) :
    ∃ s', s.feed t.toList = .ok s' ∧ s'.Stands true (ts ++ operators t.toList) ∧
      s'.mode.barred = some .mark ∧
      ∀ rs, s'.mode.Admits rs ↔ ∀ k : Connective, t = k.symbol → rs ≠ [] ∧ Unjoined rs := by
  rcases mem_blocks_iff.1 ht with rfl | ⟨k, rfl | rfl⟩
  · refine ⟨_, feed_cons_eq hloose.step_semicolon [], hs.mark_semicolon, rfl, fun rs => ?_⟩
    exact iff_of_true trivial fun k hk => absurd hk (by cases k <;> decide)
  · have hoperators : operators k.symbol.toList = [Token.connective k] := by cases k <;> rfl
    rw [hoperators]
    refine ⟨_, hloose.feed_symbol k, hs.mark_connective k, rfl, fun rs => ⟨?_, ?_⟩⟩
    · exact fun h _ _ => ⟨h.1 rfl, h.2⟩
    · exact fun h => ⟨fun _ => (h k rfl).1, (h k rfl).2⟩
  · have hoperators : operators (k.symbol ++ ";").toList =
        [Token.connective k] ++ [Token.semicolon] := by
      cases k <;> rfl
    rw [hoperators, ← List.append_assoc]
    refine ⟨_, ?_, (hs.mark_connective k).mark_semicolon, rfl, fun rs => ?_⟩
    · rw [String.toList_append, feed_append_eq (hloose.feed_symbol k)]
      exact feed_cons_eq (step_semicolon_of_connective rfl) []
    · exact iff_of_true trivial fun k' hk => absurd hk (by cases k <;> cases k' <;> decide)

theorem Stands.reads_block (hs : s.Stands first ts) (hloose : s.Loose) (hne : run ≠ [])
    (hrun : ∀ g ∈ run, g.kind = .mark) (halt : Alternate (some .mark) rs)
    (hrs : ∀ {s' : ScanState} {ts' : List Token}, s'.Stands true ts' →
      s'.mode.barred = some .mark → s'.Reads true ts' rs) : s.Reads first ts (run :: rs) := by
  intro tokens
  have hbare : ∀ g ∈ run, ∃ c, g = .bare c := fun g hg =>
    (Glyph.exists_bare_of_mark (hrun g hg)).imp fun _ => And.left
  rw [List.flatten_cons, List.flatMap_append, Glyph.flatMap_spelling_of_bare hbare, wellMarked_cons,
    tokensOf_cons_mark hne hrun, and_iff_right (hloose.admits _)]
  by_cases hblock : ∃ t ∈ blocks, run = Glyph.bareText t
  case pos =>
    rw [and_iff_right fun _ => hblock]
    obtain ⟨t, ht, rfl⟩ := hblock
    obtain ⟨s', hfeed, hs', hbarred, hadmits⟩ := hs.feed_block hloose ht
    rw [Glyph.map_char_bareText, accepts_append hfeed, hrs hs' hbarred, hadmits,
      List.append_assoc, and_assoc]
    simp only [Glyph.bareText_inj]
  case neg =>
    refine iff_of_false ?_ fun h => hblock (h.1.1 hrun)
    refine hloose.not_accepts_unknown (by simpa using hne) ?_ ?_ halt.head_not_mark tokens
    · intro m hm
      obtain ⟨g, hg, rfl⟩ := List.mem_map.1 hm
      obtain ⟨c, rfl, hc⟩ := Glyph.exists_bare_of_mark (hrun g hg)
      exact hc
    · exact fun t ht he => hblock ⟨t, ht, Glyph.eq_bareText hbare he⟩

theorem Stands.reads_mark (hs : s.Stands first ts) (hmode : s.mode.barred ≠ some .mark)
    (hne : run ≠ []) (hrun : ∀ g ∈ run, g.kind = .mark) (halt : Alternate (some .mark) rs)
    (hrs : ∀ {s' : ScanState} {ts' : List Token}, s'.Stands true ts' →
      s'.mode.barred = some .mark → s'.Reads true ts' rs) : s.Reads first ts (run :: rs) := by
  rcases hs.rests with h | h | ⟨k, bare, h⟩
  · exact hs.reads_block h hne hrun halt hrs
  · rw [h] at hmode
    exact absurd rfl hmode
  · intro tokens
    obtain ⟨g, gs, rfl⟩ := List.exists_cons_of_ne_nil hne
    obtain ⟨m, rfl, hm⟩ := Glyph.exists_bare_of_mark (hrun g List.mem_cons_self)
    have hadmits : s.mode.Admits ((.bare m :: gs) :: rs) ↔ m ≠ '&' ∧ m ≠ '|' := by
      have hkind : (Glyph.bare m).kind ≠ .blank := by
        rw [hrun _ List.mem_cons_self]
        nofun
      rw [h, Mode.Admits, unjoined_cons_of_ne_blank hkind]
      simp
    rcases eq_semicolon_or_sign hm with rfl | ⟨k', rfl⟩
    · -- past blanks, a semicolon does behind a connective what it does at a boundary
      have hended : s.ended = s := Opens.ended_eq (.inr (.inr ⟨k, bare, h⟩))
      have hgap : first = false → s.gap = true ∨ ∃ w, Mode.boundary = .word w := fun hfirst =>
        (hs.gap hfirst).imp_right fun ⟨w, hw⟩ => nomatch h.symm.trans hw
      have hloose : Loose { s with mode := .boundary } := .inl rfl
      have hboundary : Stands { s with mode := .boundary } first ts :=
        ⟨.inl hloose, hended ▸ hs.tokens, hended ▸ hs.expects, hgap⟩
      have hreads := hboundary.reads_block hloose hne hrun halt hrs tokens
      rw [and_iff_right (hloose.admits _)] at hreads
      rw [and_iff_right (hadmits.2 (by decide)), ← hreads]
      exact (accepts_cons (step_semicolon_of_connective h) _ _).trans
        (accepts_cons hloose.step_semicolon _ _).symm
    · refine iff_of_false (not_accepts_connective h k' _ tokens) fun hr => ?_
      obtain ⟨hand, hor⟩ := hadmits.1 hr.1
      cases k'
      · exact hand rfl
      · exact hor rfl

end Runs

theorem stands_initial : initial.Stands true [] := ⟨.inl (.inl rfl), rfl, rfl, nofun⟩

/-- **The scanner follows the grammar** from any place between two runs. -/
theorem Stands.reads {s : ScanState} {first : Bool} {ts : List Token} {rs : List (List Glyph)}
    (hs : s.Stands first ts) (hrs : Alternate s.mode.barred rs)
    (hplain : ∀ run ∈ rs, ∀ g ∈ run, g.Plain) : s.Reads first ts rs := by
  induction rs generalizing s first ts with
  | nil => exact hs.reads_nil
  | cons run rs ih =>
    have hplain' : ∀ run ∈ rs, ∀ g ∈ run, g.Plain :=
      fun run hrun => hplain run (List.mem_cons_of_mem _ hrun)
    obtain _ | @⟨_, k, _, _, hk, hne, hrun, hrs⟩ := hrs
    cases k with
    | word =>
      refine hs.reads_word hk hne hrun (hplain run List.mem_cons_self) fun hs' hmode => ?_
      exact ih hs' (by rw [hmode]; exact hrs) hplain'
    | blank =>
      refine hs.reads_blank hne hrun fun hs' hmode => ?_
      exact ih hs' (by rw [hmode, Mode.barred_pastBlank]; exact hrs.free) hplain'
    | mark =>
      refine hs.reads_mark hk hne hrun hrs fun hs' hbarred => ?_
      exact ih hs' (by rw [hbarred]; exact hrs) hplain'

end ScanState

/-- **The lexical grammar.**  A line of plain glyphs is scanned without any more input exactly if
its marks are right, and then into the tokens of its runs. -/
theorem scan_eq_ok_iff {line : String} (hplain : ∀ g ∈ Glyph.ofText line.toList, g.Plain)
    (tokens : List Token) :
    (scan line []).result = .ok tokens ↔
      WellMarked (Glyph.runs (Glyph.ofText line.toList)) ∧
        tokens = tokensOf true (Glyph.runs (Glyph.ofText line.toList)) := by
  have halt := Glyph.alternate_runs (Glyph.ofText line.toList)
  have hreads := ScanState.stands_initial.reads halt ?_ tokens
  · rw [Glyph.flatten_runs, Glyph.flatMap_spelling_ofText, List.nil_append] at hreads
    exact hreads.trans (and_iff_right trivial)
  · intro run hrun g hg
    refine hplain g ?_
    rw [← Glyph.flatten_runs (Glyph.ofText line.toList)]
    exact List.mem_flatten_of_mem hrun hg

/-- Escaped marks next to marks, an escaped space at the start of a word, and a block at the end. -/
theorem scan_eq_ok_iff_escapes :
    (∀ g ∈ Glyph.ofText "a\\&&&b \\;; \\ c||\t\\|d &&;".toList, g.Plain) ∧
      (scan "a\\&&&b \\;; \\ c||\t\\|d &&;" []).result =
        .ok [⟨.programName, "a&"⟩, Token.connective .and, ⟨.programName, "b"⟩, ⟨.argument, ";"⟩,
          Token.semicolon, ⟨.programName, "c"⟩, Token.connective .or, ⟨.programName, "|d"⟩,
          Token.connective .and, Token.semicolon, Token.endOfInput] ∧
      WellMarked (Glyph.runs (Glyph.ofText "a\\&&&b \\;; \\ c||\t\\|d &&;".toList)) := by
  have hplain : ∀ g ∈ Glyph.ofText "a\\&&&b \\;; \\ c||\t\\|d &&;".toList, g.Plain := by decide
  refine ⟨hplain, rfl, ?_⟩
  exact ((scan_eq_ok_iff hplain _).1 rfl).1

end LineShell
