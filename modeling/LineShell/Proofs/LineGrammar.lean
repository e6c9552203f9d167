import LineShell.Proofs.RoundTrip
import Mathlib.Data.List.SplitBy

/-!
# The lexical grammar of a line

A line without a continuation, a comment or a newline can be described without a scanner.  Its
*glyphs* are the characters that stand on their own and the pairs of a backslash and a character;
each is part of a word, of the blanks or of the marks, and the line falls into *runs*, the longest
stretches of one kind.  Then

* `WellMarked rs` says which lines are right, in terms of the runs of marks and of what stands next
  to them, and
* `tokensOf true rs` reads off the tokens, run by run.

Both are about a line as a whole.  `alternate_runs` and `wellMarked_cons` are the way into them for
a proof that goes through the line run by run: what the runs of a line are like, and what the marks
of one more run at the front ask for.
-/

set_option autoImplicit false
namespace LineShell

/-! ## Glyphs and runs -/

/-- A unit of a line. -/
inductive Glyph where
  /-- A character behind a backslash. -/
  | escaped (c : Char)
  /-- A character on its own. -/
  | bare (c : Char)
  deriving DecidableEq, Repr

/-- What a glyph is part of. -/
inductive GlyphKind where
  /-- A word. -/
  | word
  /-- The blanks between words. -/
  | blank
  /-- The marks. -/
  | mark
  deriving DecidableEq, Repr

namespace Glyph

/-- The glyphs of a text.  A backslash with nothing behind it stands on its own. -/
def ofText : List Char → List Glyph
  | [] => []
  | '\\' :: c :: cs => .escaped c :: ofText cs
  | c :: cs => .bare c :: ofText cs

/-- The character that is meant. -/
def char : Glyph → Char
  | .escaped c => c
  | .bare c => c

/-- The characters that are written. -/
def spelling : Glyph → List Char
  | .escaped c => ['\\', c]
  | .bare c => [c]

/-- A backslash makes everything part of a word. -/
def kind : Glyph → GlyphKind
  | .escaped _ => .word
  | .bare c =>
    if c ∈ ['&', '|', ';'] then .mark else if c ∈ [' ', '\t', '\r'] then .blank else .word

/-- The glyph leaves the line as it is: it ends no line, starts no comment and asks for nothing. -/
def Plain (g : Glyph) : Prop := g ∉ [.bare '\n', .bare '#', .bare '\\']

instance (g : Glyph) : Decidable g.Plain :=
  inferInstanceAs (Decidable (g ∉ [.bare '\n', .bare '#', .bare '\\']))

/-- A text without backslashes, as glyphs. -/
def bareText (t : String) : List Glyph := t.toList.map .bare

/-- The longest stretches of glyphs of one kind. -/
def runs (gs : List Glyph) : List (List Glyph) :=
  gs.splitBy fun g g' => g.kind == g'.kind

end Glyph

/-! ## The grammar -/

/-- The runs of marks that mean something. -/
def blocks : List String := [";", "&&", "||", "&&;", "||;"]

/-- Past blanks, the runs do not start with the sign of a connective. -/
def Unjoined (rs : List (List Glyph)) : Prop :=
  ∀ g, rs.flatten.find? (fun g => g.kind != .blank) = some g → g ∉ [.bare '&', .bare '|']

/-- The marks of a line are right. -/
structure WellMarked (rs : List (List Glyph)) : Prop where
  /-- Each run of marks is one of the blocks. -/
  known : ∀ run ∈ rs, (∀ g ∈ run, g.kind = .mark) → ∃ t ∈ blocks, run = Glyph.bareText t
  /-- Behind a connective, and behind blanks, there is not another one. -/
  apart : ∀ (before after : List (List Glyph)) (k : Connective),
    rs = before ++ Glyph.bareText k.symbol :: after → Unjoined after
  /-- The last run is not a connective. -/
  closed : ∀ k : Connective, rs.getLast? ≠ some (Glyph.bareText k.symbol)

/-- The tokens of a run of marks, operator by operator. -/
def operators : List Char → List Token
  | ';' :: cs => Token.semicolon :: operators cs
  | '&' :: '&' :: cs => Token.connective .and :: operators cs
  | '|' :: '|' :: cs => Token.connective .or :: operators cs
  | _ => []

/-- The token of a run that is a word: its text without the backslashes and without the spaces at
its ends (`lexeme_wordToken`). -/
def wordToken (first : Bool) (run : List Glyph) : Token :=
  ⟨if first then .programName else .argument,
    String.ofList (Text.trimBoth (· == ' ') (run.map Glyph.char))⟩

/-- The tokens of a line, run by run.  A word is the name of a program if it is the `first` one
since the start of the line or the last marks. -/
def tokensOf (first : Bool) : List (List Glyph) → List Token
  | [] => [Token.endOfInput]
  | run :: rs =>
    match run.head?.map Glyph.kind with
    | some .word => wordToken first run :: tokensOf false rs
    | some .mark => operators (run.map Glyph.char) ++ tokensOf true rs
    | _ => tokensOf first rs

/-! ## What glyphs and runs are -/

namespace Glyph

/-- The glyphs of a text spell it. -/
theorem flatMap_spelling_ofText (cs : List Char) : (ofText cs).flatMap spelling = cs := by
  fun_induction ofText cs with
  | case1 => rfl
  | case2 c cs ih => simp [spelling, ih]
  | case3 c cs _ ih => simp [spelling, ih]

/-- The kinds follow the scanner's classes of characters. -/
theorem kind_bare (c : Char) :
    (bare c).kind = if isMark c then .mark else if isBlank c then .blank else .word := by
  simp [kind, isMark, isBlank, or_assoc]

theorem exists_bare_of_mark {g : Glyph} (h : g.kind = .mark) :
    ∃ c, g = .bare c ∧ isMark c = true := by
  cases g with
  | escaped c => cases h
  | bare c =>
    rw [kind_bare] at h
    refine ⟨c, rfl, ?_⟩
    split_ifs at h
    assumption

theorem exists_bare_of_blank {g : Glyph} (h : g.kind = .blank) :
    ∃ c, g = .bare c ∧ isBlank c = true := by
  cases g with
  | escaped c => cases h
  | bare c =>
    rw [kind_bare] at h
    refine ⟨c, rfl, ?_⟩
    split_ifs at h
    assumption

theorem isMark_of_kind_ne {c : Char} (h : (bare c).kind ≠ .mark) : isMark c = false := by
  rw [kind_bare] at h
  simpa using fun hc => h (if_pos hc)

theorem not_reserved_of_word {c : Char} (h : (bare c).kind = .word) (hplain : (bare c).Plain) :
    c ∉ reserved := by
  intro hc
  simp only [reserved, List.mem_cons, List.not_mem_nil, or_false] at hc
  rcases hc with rfl | rfl | rfl | rfl | rfl | rfl | rfl | rfl
  · cases h
  · cases h
  · cases h
  · exact hplain (by decide)
  · cases h
  · cases h
  · cases h
  · exact hplain (by decide)

/-- The glyphs of a word spell its characters. -/
theorem lettered_of_word {gs : List Glyph} (hword : ∀ g ∈ gs, g.kind = .word)
    (hplain : ∀ g ∈ gs, g.Plain) : Lettered (gs.map char) (gs.flatMap spelling) := by
  induction gs with
  | nil => exact .nil
  | cons g gs ih =>
    have hgs := ih (fun g hg => hword g (List.mem_cons_of_mem _ hg))
      fun g hg => hplain g (List.mem_cons_of_mem _ hg)
    cases g with
    | escaped c => exact .escaped c hgs
    | bare c =>
      exact .plain (not_reserved_of_word (hword _ List.mem_cons_self) (hplain _ List.mem_cons_self))
        hgs

theorem wordSpelled_of_word {gs : List Glyph} (hword : ∀ g ∈ gs, g.kind = .word)
    (hplain : ∀ g ∈ gs, g.Plain) :
    WordSpelled (String.ofList (gs.map char)) (gs.flatMap spelling) := by
  refine ⟨by simpa using lettered_of_word hword hplain, ?_⟩
  cases gs with
  | nil => simp
  | cons g gs =>
    cases g with
    | escaped c => simp [spelling]
    | bare c =>
      have hhash := hplain (.bare c) List.mem_cons_self
      rintro ⟨⟩
      exact hhash (by decide)

/-- Where nothing is escaped, the characters that are meant are the ones that are written. -/
theorem flatMap_spelling_of_bare {gs : List Glyph} (h : ∀ g ∈ gs, ∃ c, g = .bare c) :
    gs.flatMap spelling = gs.map char := by
  induction gs with
  | nil => rfl
  | cons g gs ih =>
    obtain ⟨c, rfl⟩ := h g List.mem_cons_self
    rw [List.flatMap_cons, ih fun g hg => h g (List.mem_cons_of_mem _ hg)]
    rfl

end Glyph

/-- Runs of one kind each, next to each other of different kinds.  The first of them is not of the
kind that is barred. -/
inductive Alternate : Option GlyphKind → List (List Glyph) → Prop
  | nil (barred : Option GlyphKind) : Alternate barred []
  | cons {barred : Option GlyphKind} {k : GlyphKind} {run : List Glyph} {rs : List (List Glyph)}
      (hk : barred ≠ some k) (hne : run ≠ []) (hrun : ∀ g ∈ run, g.kind = k)
      (hrs : Alternate (some k) rs) : Alternate barred (run :: rs)

theorem Alternate.free {barred : Option GlyphKind} {rs : List (List Glyph)}
    (h : Alternate barred rs) : Alternate none rs := by
  cases h with
  | nil => exact .nil none
  | cons hk hne hrun hrs => exact .cons nofun hne hrun hrs

/-- Behind marks, and at the end of a line, there is no mark. -/
theorem Alternate.head_not_mark {rs : List (List Glyph)} (h : Alternate (some .mark) rs) :
    ∀ c ∈ (rs.flatten.flatMap Glyph.spelling).head?, isMark c = false := by
  obtain _ | @⟨_, k, run, rs, hk, hne, hrun, -⟩ := h
  · nofun
  · obtain ⟨g, gs, rfl⟩ := List.exists_cons_of_ne_nil hne
    have hg : g.kind ≠ .mark := by
      rw [hrun g List.mem_cons_self]
      exact fun he => hk (congrArg some he.symm)
    cases g with
    | escaped c =>
      rintro _ ⟨⟩
      rfl
    | bare c =>
      rintro _ ⟨⟩
      exact Glyph.isMark_of_kind_ne hg

namespace Glyph

theorem kind_eq_head {g : Glyph} {gs : List Glyph}
    (h : (g :: gs).IsChain fun a b => a.kind == b.kind) : ∀ g' ∈ g :: gs, g'.kind = g.kind := by
  induction gs generalizing g with
  | nil => simp
  | cons g₂ gs ih =>
    obtain ⟨hkind, hgs⟩ := List.isChain_cons_cons.1 h
    intro g' hg'
    rcases List.mem_cons.1 hg' with rfl | hg'
    · rfl
    · rw [ih hgs g' hg', beq_iff_eq.1 hkind]

/-- What keeps the stretches of a text apart is that each is of one kind and the next of another. -/
theorem alternate_of_isChain {rs : List (List Glyph)} {barred : Option GlyphKind}
    (hne : [] ∉ rs) (hrun : ∀ run ∈ rs, run.IsChain fun a b => a.kind == b.kind)
    (hnext : rs.IsChain fun a b => ∃ ha hb, ((a.getLast ha).kind == (b.head hb).kind) = false)
    (hbarred : ∀ run ∈ rs.head?, ∀ g ∈ run.head?, barred ≠ some g.kind) : Alternate barred rs := by
  induction rs generalizing barred with
  | nil => exact .nil barred
  | cons run rs ih =>
    cases run with
    | nil => exact absurd List.mem_cons_self hne
    | cons g gs =>
      have hkind := kind_eq_head (hrun _ List.mem_cons_self)
      refine .cons (hbarred _ rfl g rfl) (by simp) hkind ?_
      obtain ⟨hfirst, hrest⟩ := List.isChain_cons.1 hnext
      refine ih (fun h => hne (List.mem_cons_of_mem _ h))
        (fun run h => hrun run (List.mem_cons_of_mem _ h)) hrest ?_
      rintro (_ | ⟨g₂, gs₂⟩) hrun₂ g' hg'
      · cases hg'
      · cases hg'
        obtain ⟨ha, hb, hdiffer⟩ := hfirst _ hrun₂
        rw [hkind _ (List.getLast_mem ha)] at hdiffer
        simpa using hdiffer

theorem alternate_runs (gs : List Glyph) : Alternate none (runs gs) := by
  obtain ⟨-, hne, hrun, hnext⟩ := List.splitBy_eq_iff.1 (rfl : gs.splitBy _ = runs gs)
  exact alternate_of_isChain hne hrun hnext nofun

theorem map_char_bareText (t : String) : (bareText t).map char = t.toList := by
  rw [bareText, List.map_map]
  exact List.map_id _

/-- Where nothing is escaped, the characters determine the glyphs. -/
theorem eq_bareText {gs : List Glyph} (h : ∀ g ∈ gs, ∃ c, g = .bare c) {t : String}
    (ht : gs.map char = t.toList) : gs = bareText t := by
  rw [bareText, ← ht, List.map_map]
  refine (List.map_id' gs).symm.trans (List.map_congr_left fun g hg => ?_)
  obtain ⟨c, rfl⟩ := h g hg
  rfl

theorem bareText_inj {t u : String} : bareText t = bareText u ↔ t = u := by
  constructor
  · intro h
    rw [← String.toList_inj, ← map_char_bareText t, h, map_char_bareText]
  · exact congrArg bareText

theorem flatten_runs (gs : List Glyph) : (runs gs).flatten = gs := List.flatten_splitBy _ gs

end Glyph

/-! ## The grammar, run by run -/

theorem unjoined_nil : Unjoined [] := by simp [Unjoined]

theorem unjoined_cons_blank {run : List Glyph} {rs : List (List Glyph)}
    (h : ∀ g ∈ run, g.kind = .blank) : Unjoined (run :: rs) ↔ Unjoined rs := by
  have hfind : run.find? (fun g => g.kind != .blank) = none := by simpa using h
  rw [Unjoined, List.flatten_cons, List.find?_append, hfind, Option.none_or, Unjoined]

theorem unjoined_cons_of_ne_blank {g : Glyph} {gs : List Glyph} {rs : List (List Glyph)}
    (h : g.kind ≠ .blank) : Unjoined ((g :: gs) :: rs) ↔ g ∉ [.bare '&', .bare '|'] := by
  rw [Unjoined, List.flatten_cons, List.cons_append, List.find?_cons_of_pos (by simpa using h)]
  simp

theorem wellMarked_nil : WellMarked [] := ⟨by simp, by simp, by simp⟩

theorem wellMarked_cons {run : List Glyph} {rs : List (List Glyph)} :
    WellMarked (run :: rs) ↔
      ((∀ g ∈ run, g.kind = .mark) → ∃ t ∈ blocks, run = Glyph.bareText t) ∧
        (∀ k : Connective, run = Glyph.bareText k.symbol → rs ≠ [] ∧ Unjoined rs) ∧
        WellMarked rs := by
  constructor
  · rintro ⟨hknown, hapart, hclosed⟩
    refine ⟨hknown run List.mem_cons_self, fun k hk => ⟨?_, hapart [] rs k (by rw [hk]; rfl)⟩, ?_⟩
    · rintro rfl
      exact hclosed k (by rw [hk]; rfl)
    · refine ⟨fun run h => hknown run (List.mem_cons_of_mem _ h),
        fun before after k h => hapart (run :: before) after k (by rw [h]; rfl), fun k h => ?_⟩
      exact hclosed k (by rw [List.getLast?_cons, h]; rfl)
  · rintro ⟨hblock, hnext, hknown, hapart, hclosed⟩
    refine ⟨?_, ?_, ?_⟩
    · intro r hr
      rcases List.mem_cons.1 hr with rfl | hr
      · exact hblock
      · exact hknown r hr
    · rintro (_ | ⟨r, before⟩) after k h
      · obtain ⟨hk, rfl⟩ := List.cons.inj h
        exact (hnext k hk).2
      · exact hapart before after k (List.cons.inj h).2
    · intro k h
      rw [List.getLast?_cons, Option.some.injEq] at h
      cases hlast : rs.getLast? with
      | none =>
        rw [hlast] at h
        exact (hnext k h).1 (List.getLast?_eq_none_iff.1 hlast)
      | some r =>
        rw [hlast] at h
        exact hclosed k (by rw [hlast, ← h]; rfl)

theorem wellMarked_cons_of_ne_mark {k : GlyphKind} (hk : k ≠ .mark) {run : List Glyph}
    (hne : run ≠ []) (hrun : ∀ g ∈ run, g.kind = k) {rs : List (List Glyph)} :
    WellMarked (run :: rs) ↔ WellMarked rs := by
  obtain ⟨g, gs, rfl⟩ := List.exists_cons_of_ne_nil hne
  have hg : g.kind ≠ .mark := by
    rw [hrun g List.mem_cons_self]
    exact hk
  rw [wellMarked_cons, and_iff_right, and_iff_right]
  · intro c hc
    refine absurd ?_ hg
    rw [Glyph.bareText, c.symbol_toList] at hc
    obtain ⟨rfl, -⟩ := List.cons.inj hc
    cases c <;> rfl
  · exact fun h => absurd (h g List.mem_cons_self) hg

section Tokens

variable {first : Bool} {run : List Glyph} {rs : List (List Glyph)}

/-- Which spaces the token of a word loses, and which it keeps. -/
theorem lexeme_wordToken {lexeme : String} :
    lexeme = (wordToken first run).lexeme ↔
      Text.TrimsTo (· == ' ') (run.map Glyph.char) lexeme.toList := by
  rw [Text.trimsTo_iff, ← String.toList_inj, wordToken, String.toList_ofList]

theorem tokensOf_cons_word (hne : run ≠ []) (hrun : ∀ g ∈ run, g.kind = .word) :
    tokensOf first (run :: rs) = wordToken first run :: tokensOf false rs := by
  obtain ⟨g, gs, rfl⟩ := List.exists_cons_of_ne_nil hne
  simp only [tokensOf, List.head?_cons, Option.map_some, hrun g List.mem_cons_self]

theorem tokensOf_cons_blank (hne : run ≠ []) (hrun : ∀ g ∈ run, g.kind = .blank) :
    tokensOf first (run :: rs) = tokensOf first rs := by
  obtain ⟨g, gs, rfl⟩ := List.exists_cons_of_ne_nil hne
  simp only [tokensOf, List.head?_cons, Option.map_some, hrun g List.mem_cons_self]

theorem tokensOf_cons_mark (hne : run ≠ []) (hrun : ∀ g ∈ run, g.kind = .mark) :
    tokensOf first (run :: rs) = operators (run.map Glyph.char) ++ tokensOf true rs := by
  obtain ⟨g, gs, rfl⟩ := List.exists_cons_of_ne_nil hne
  simp only [tokensOf, List.head?_cons, Option.map_some, hrun g List.mem_cons_self]

end Tokens

end LineShell
