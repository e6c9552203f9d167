import LineShell.Proofs.Grouping
import LineShell.Proofs.Scanning

/-!
# Writing statements down and reading them back

There are many ways to write a list of statements as a line.  A character of a word may stand
behind a backslash even if it needs none, and blanks are free almost everywhere.  `LineSpelled`
says what counts as a way of writing, level by level: the letters of a word, the words of a call,
the calls of a chain, the chains of a line.  None of it mentions the scanner.

The main statement, `parse_scan_spelled`, is that all these ways are read back as the statements
that were written, and that nobody is asked for more of the line.

Words are any texts that are not empty and have no space at their ends.  Spaces inside them,
newlines, marks and backslashes are all allowed.
-/

set_option autoImplicit false
namespace LineShell

/-! ## Ways of writing -/

/-- A text of blanks. -/
def BlankText (bs : List Char) : Prop := ∀ b ∈ bs, b = ' ' ∨ b = '\t' ∨ b = '\r'

-- by running through the text, not through all characters
instance (bs : List Char) : Decidable (BlankText bs) :=
  List.decidableBAll (fun b => b = ' ' ∨ b = '\t' ∨ b = '\r') bs

/-- The characters that have to stand behind a backslash. -/
def reserved : List Char := [' ', '\t', '\r', '\n', '&', '|', ';', '\\']

/-- `Lettered w cs`: the characters of `w` are written as `cs`, each behind a backslash or, if it
is not reserved, as it is. -/
inductive Lettered : List Char → List Char → Prop
  | nil : Lettered [] []
  | escaped (c : Char) {w cs : List Char} (h : Lettered w cs) : Lettered (c :: w) ('\\' :: c :: cs)
  | plain {c : Char} (hc : c ∉ reserved) {w cs : List Char} (h : Lettered w cs) :
      Lettered (c :: w) (c :: cs)

/-- A word is written letter by letter, but a `#` at its start has to stand behind a backslash. -/
structure WordSpelled (w : String) (cs : List Char) : Prop where
  /-- The letters. -/
  lettered : Lettered w.toList cs
  /-- There is no bare `#` at the start. -/
  noComment : cs.head? ≠ some '#'

/-- Arguments are written one after the other, each behind one or more blanks. -/
inductive ArgsSpelled : List String → List Char → Prop
  | nil : ArgsSpelled [] []
  | cons {arg : String} {args : List String} {bs cs ds : List Char} (hbs : BlankText bs)
      (hne : bs ≠ []) (harg : WordSpelled arg cs) (hargs : ArgsSpelled args ds) :
      ArgsSpelled (arg :: args) (bs ++ (cs ++ ds))

/-- A call is written as its program with the arguments behind it. -/
inductive CallSpelled : Call → List Char → Prop
  | mk {c : Call} {cs ds : List Char} (hprogram : WordSpelled c.program cs)
      (hargs : ArgsSpelled c.args ds) : CallSpelled c (cs ++ ds)

/-- A chain is written as its calls, with the symbols of its connectives between them and any blanks
around these. -/
inductive ChainSpelled : Chain → List Char → Prop
  | one {c : Call} {cs : List Char} (hc : CallSpelled c cs) : ChainSpelled (.one c) cs
  | link {c : Call} {k : Connective} {rest : Chain} {cs bs bs' ds : List Char}
      (hc : CallSpelled c cs) (hbs : BlankText bs) (hbs' : BlankText bs')
      (hrest : ChainSpelled rest ds) :
      ChainSpelled (.link c k rest) (cs ++ (bs ++ (k.symbol.toList ++ (bs' ++ ds))))

/-- Statements are written with semicolons between them and any blanks around these. -/
inductive ScriptSpelled : List Chain → List Char → Prop
  | one {chain : Chain} {cs : List Char} (hchain : ChainSpelled chain cs) :
      ScriptSpelled [chain] cs
  | cons {chain next : Chain} {chains : List Chain} {cs bs bs' ds : List Char}
      (hchain : ChainSpelled chain cs) (hbs : BlankText bs) (hbs' : BlankText bs')
      (hrest : ScriptSpelled (next :: chains) ds) :
      ScriptSpelled (chain :: next :: chains) (cs ++ (bs ++ ([';'] ++ (bs' ++ ds))))

/-- A line is its statements with any blanks at both ends; without statements it is blank. -/
inductive LineSpelled : List Chain → List Char → Prop
  | blank {bs : List Char} (hbs : BlankText bs) : LineSpelled [] bs
  | script {chains : List Chain} {bs cs bs' : List Char} (hbs : BlankText bs)
      (hcs : ScriptSpelled chains cs) (hbs' : BlankText bs') :
      LineSpelled chains (bs ++ (cs ++ bs'))

/-- A text that can be a word of a statement. -/
structure IsWord (w : String) : Prop where
  /-- It is not empty. -/
  ne_empty : w ≠ ""
  /-- It does not start with a space. -/
  head : w.toList.head? ≠ some ' '
  /-- It does not end with a space. -/
  last : w.toList.getLast? ≠ some ' '

instance (w : String) : Decidable (IsWord w) :=
  decidable_of_iff (w ≠ "" ∧ w.toList.head? ≠ some ' ' ∧ w.toList.getLast? ≠ some ' ')
    ⟨fun ⟨hne, hhead, hlast⟩ => ⟨hne, hhead, hlast⟩, fun h => ⟨h.ne_empty, h.head, h.last⟩⟩

/-! ## Words -/

theorem BlankText.isBlank {bs : List Char} (h : BlankText bs) : ∀ b ∈ bs, isBlank b = true :=
  fun b hb => (isBlank_iff b).2 (h b hb)

theorem endsWord_of_not_reserved {c : Char} (h : c ∉ reserved) : endsWord c = false := by
  simp only [reserved, List.mem_cons, List.not_mem_nil, or_false, not_or] at h
  simp [endsWord, isBlank, isMark, h]

theorem ne_backslash_of_not_reserved {c : Char} (h : c ∉ reserved) : c ≠ '\\' := by
  rintro rfl
  exact h (by decide)

theorem IsWord.lexeme_eq {w : String} (h : IsWord w) (e : Bool) : Word.lexeme ⟨e, w⟩ = w := by
  rw [Word.lexeme, Text.trimBoth_eq_self, String.ofList_toList]
  · intro c hc
    have := h.head
    rw [Option.mem_def.1 hc] at this
    simpa using this
  · intro c hc
    have := h.last
    rw [Option.mem_def.1 hc] at this
    simpa using this

namespace ScanState

/-- The letters of a word go into the word under construction. -/
theorem feed_lettered {t cs : List Char} (h : Lettered t cs) {s : ScanState} {w : Word}
    (hs : s.mode = .word w) :
    s.feed cs = .ok { s with mode := .word ⟨w.escaped, w.text ++ String.ofList t⟩ } := by
  induction h generalizing s w with
  | nil => simp [← hs]
  | escaped c h ih =>
    rw [feed_escaped hs, ih rfl]
    simp [Word.push, ← String.toList_inj]
  | plain hc h ih =>
    rw [feed_letter hs (endsWord_of_not_reserved hc) (ne_backslash_of_not_reserved hc), ih rfl]
    simp [Word.push, ← String.toList_inj]

/-- A word that is written where one can start is read as that word. -/
theorem Opens.feed_word {s : ScanState} (hs : s.Opens) {w : String} (hw : w ≠ "") {cs : List Char}
    (h : WordSpelled w cs) : ∃ e, s.feed cs = .ok { s with mode := .word ⟨e, w⟩ } := by
  obtain ⟨hletters, hhash⟩ := h
  generalize ht : w.toList = t at hletters
  cases hletters with
  | nil => exact absurd (String.toList_eq_nil_iff.1 ht) hw
  | @escaped c t cs hrest =>
    refine ⟨true, ?_⟩
    rw [feed_cons_eq (hs.step_eq rfl rfl), start_backslash, feed_cons_eq rfl,
      feed_lettered hrest rfl]
    simp [Word.push, ← String.toList_inj, ht]
  | @plain c hc t cs hrest =>
    have hend := endsWord_of_not_reserved hc
    have hslash := ne_backslash_of_not_reserved hc
    have hne : c ≠ '#' := fun he => hhash (by rw [he]; rfl)
    have hblank : isBlank c = false := by
      simp only [endsWord, Bool.or_eq_false_iff] at hend
      exact hend.1.1
    have hmark : isMark c = false := by
      simp only [endsWord, Bool.or_eq_false_iff] at hend
      exact hend.2
    refine ⟨false, ?_⟩
    rw [feed_cons_eq (hs.step_eq hblank hmark), start_letter s hend hslash hne,
      feed_lettered hrest rfl]
    simp [← String.toList_inj, ht]

/-! ## Calls -/

/-- The first word of a command names its program. -/
theorem Before.feed_program {s : ScanState} {ts : List Token} (hs : s.Before ts) {w : String}
    (hw : IsWord w) {cs : List Char} (h : WordSpelled w cs) :
    ∃ s', s.feed cs = .ok s' ∧ s'.Behind (ts ++ [⟨.programName, w⟩]) := by
  obtain ⟨e, hfeed⟩ := hs.opens.feed_word hw.ne_empty h
  have hbehind : Behind { s with mode := .word ⟨e, w⟩ }
      (ts ++ [⟨.programName, Word.lexeme ⟨e, w⟩⟩]) :=
    behind_program rfl hw.ne_empty hs.tokens hs.expects
  rw [hw.lexeme_eq] at hbehind
  exact ⟨_, hfeed, hbehind⟩

/-- A further word behind blanks is an argument. -/
theorem Behind.feed_argument {s : ScanState} {ts : List Token} (hs : s.Behind ts) {w : String}
    (hw : IsWord w) {bs cs : List Char} (hbs : BlankText bs) (hne : bs ≠ [])
    (h : WordSpelled w cs) :
    ∃ s', s.feed (bs ++ cs) = .ok s' ∧ s'.Behind (ts ++ [⟨.argument, w⟩]) := by
  have hblanks := hs.loose.feed_blanks hbs.isBlank
  rw [if_neg hne] at hblanks
  have hopens : Opens { s.ended with gap := true, mode := .boundary } := .inl rfl
  obtain ⟨e, hfeed⟩ := hopens.feed_word hw.ne_empty h
  have hbehind : Behind { s.ended with gap := true, mode := .word ⟨e, w⟩ }
      (ts ++ [⟨.argument, Word.lexeme ⟨e, w⟩⟩]) :=
    behind_argument rfl hw.ne_empty hs.tokens hs.expects rfl
  rw [hw.lexeme_eq] at hbehind
  rw [feed_append_eq hblanks]
  exact ⟨_, hfeed, hbehind⟩

theorem Behind.feed_args {s : ScanState} {ts : List Token} (hs : s.Behind ts) {args : List String}
    (hw : ∀ w ∈ args, IsWord w) {cs : List Char} (h : ArgsSpelled args cs) :
    ∃ s', s.feed cs = .ok s' ∧ s'.Behind (ts ++ args.map fun arg => ⟨.argument, arg⟩) := by
  induction h generalizing s ts with
  | nil => exact ⟨s, rfl, by simpa using hs⟩
  | @cons arg args bs cs ds hbs hne harg hargs ih =>
    obtain ⟨s₁, hfeed, hs₁⟩ := hs.feed_argument (hw arg List.mem_cons_self) hbs hne harg
    obtain ⟨s₂, hfeed', hs₂⟩ := ih hs₁ fun w h => hw w (List.mem_cons_of_mem _ h)
    refine ⟨s₂, ?_, by simpa using hs₂⟩
    rw [← List.append_assoc, feed_append_eq hfeed, hfeed']

theorem Before.feed_call {s : ScanState} {ts : List Token} (hs : s.Before ts) {c : Call}
    (hw : ∀ w ∈ c.words, IsWord w) {cs : List Char} (h : CallSpelled c cs) :
    ∃ s', s.feed cs = .ok s' ∧ s'.Behind (ts ++ c.tokens) := by
  obtain ⟨hprogram, hargs⟩ := h
  obtain ⟨s₁, hfeed, hs₁⟩ := hs.feed_program (hw _ List.mem_cons_self) hprogram
  obtain ⟨s₂, hfeed', hs₂⟩ := hs₁.feed_args (fun w h => hw w (List.mem_cons_of_mem _ h)) hargs
  refine ⟨s₂, ?_, by simpa [Call.tokens] using hs₂⟩
  rw [feed_append_eq hfeed, hfeed']

/-! ## Chains and statements -/

theorem Before.feed_chain {s : ScanState} {ts : List Token} (hs : s.Before ts) {chain : Chain}
    (hw : ∀ w ∈ chain.words, IsWord w) {cs : List Char} (h : ChainSpelled chain cs) :
    ∃ s', s.feed cs = .ok s' ∧ s'.Behind (ts ++ chain.tokens) := by
  induction h generalizing s ts with
  | one hc => exact hs.feed_call hw hc
  | @link c k rest cs bs bs' ds hc hbs hbs' hrest ih =>
    obtain ⟨s₁, hcall, hs₁⟩ := hs.feed_call (fun w h => hw w (List.mem_append_left _ h)) hc
    obtain ⟨s₂, hblanks, hs₂⟩ := hs₁.feed_blanks hbs.isBlank
    obtain ⟨s₃, hsymbol, hs₃⟩ := hs₂.feed_connective k
    obtain ⟨s₄, hblanks', hs₄⟩ := hs₃.feed_blanks hbs'.isBlank
    obtain ⟨s₅, hchain, hs₅⟩ := ih hs₄ fun w h => hw w (List.mem_append_right _ h)
    refine ⟨s₅, ?_, by simpa [Chain.tokens] using hs₅⟩
    rw [feed_append_eq hcall, feed_append_eq hblanks, feed_append_eq hsymbol,
      feed_append_eq hblanks', hchain]

theorem Before.feed_script {s : ScanState} {ts : List Token} (hs : s.Before ts)
    {chains : List Chain} (hw : ∀ chain ∈ chains, ∀ w ∈ chain.words, IsWord w) {cs : List Char}
    (h : ScriptSpelled chains cs) :
    ∃ s', s.feed cs = .ok s' ∧ s'.Behind (ts ++ Chain.scriptTokens chains) := by
  induction h generalizing s ts with
  | one hchain => exact hs.feed_chain (hw _ List.mem_cons_self) hchain
  | @cons chain next chains cs bs bs' ds hchain hbs hbs' hrest ih =>
    obtain ⟨s₁, hfeed, hs₁⟩ := hs.feed_chain (hw _ List.mem_cons_self) hchain
    obtain ⟨s₂, hblanks, hs₂⟩ := hs₁.feed_blanks hbs.isBlank
    obtain ⟨s₃, hsemi, hs₃⟩ := hs₂.feed_semicolon
    obtain ⟨s₄, hblanks', hs₄⟩ := hs₃.feed_blanks hbs'.isBlank
    obtain ⟨s₅, hscript, hs₅⟩ := ih hs₄ fun d hd => hw d (List.mem_cons_of_mem _ hd)
    refine ⟨s₅, ?_, by simpa [Chain.scriptTokens] using hs₅⟩
    rw [feed_append_eq hfeed, feed_append_eq hblanks, feed_append_eq hsemi,
      feed_append_eq hblanks', hscript]

/-- The whole of a line. -/
theorem feed_line {chains : List Chain} (hw : ∀ chain ∈ chains, ∀ w ∈ chain.words, IsWord w)
    {cs : List Char} (h : LineSpelled chains cs) :
    ∃ s, initial.feed cs = .ok s ∧ s.Loose ∧
      s.ended.tokens = (Chain.scriptTokens chains).reverse := by
  cases h with
  | blank hbs =>
    have hloose : initial.Loose := .inl rfl
    refine ⟨_, hloose.feed_blanks hbs.isBlank, ?_⟩
    split
    · exact ⟨hloose, rfl⟩
    · exact ⟨.inl rfl, rfl⟩
  | script hbs hscript hbs' =>
    obtain ⟨s₁, hblanks, hs₁⟩ := before_initial.feed_blanks hbs.isBlank
    obtain ⟨s₂, hfeed, hs₂⟩ := hs₁.feed_script hw hscript
    obtain ⟨s₃, hblanks', hs₃⟩ := hs₂.feed_blanks hbs'.isBlank
    refine ⟨s₃, ?_, hs₃.loose, by simpa using hs₃.tokens⟩
    rw [feed_append_eq hblanks, feed_append_eq hfeed, hblanks']

end ScanState

/-! ## Reading back -/

/-- A written line is scanned without asking for more, into the tokens of its statements. -/
theorem scan_eq_scriptTokens {chains : List Chain}
    (hw : ∀ chain ∈ chains, ∀ w ∈ chain.words, IsWord w) {line : String}
    (h : LineSpelled chains line.toList) (replies : List Reply) :
    scan line replies = ⟨.ok (Chain.scriptTokens chains ++ [Token.endOfInput]), [], replies⟩ := by
  obtain ⟨s, hfeed, hloose, htokens⟩ := ScanState.feed_line hw h
  rw [scan, hfeed, ScanState.settle_of_done hloose.pause_eq, ScanState.result, htokens,
    List.reverse_cons, List.reverse_reverse]

/-- **Reading undoes writing.**  However a list of statements is written down, the line is scanned
without asking for more of it, and its tokens are read as these statements. -/
theorem parse_scan_spelled {chains : List Chain}
    (hw : ∀ chain ∈ chains, ∀ w ∈ chain.words, IsWord w) {line : String}
    (h : LineSpelled chains line.toList) (replies : List Reply) :
    ∃ tokens, scan line replies = ⟨.ok tokens, [], replies⟩ ∧
      parse tokens = chains.map Chain.toCommand := by
  refine ⟨_, scan_eq_scriptTokens hw h replies, ?_⟩
  rw [parse_eq_chains, Chain.ofTokens_scriptTokens]

/-- Two statements whose words are full of marks: `#` with the argument `a b`, or else `&&`; and
then a backslash between newlines. -/
theorem parse_scan_spelled_marks :
    (∀ chain ∈ [Chain.link ⟨"#", ["a b"]⟩ .or (.one ⟨"&&", []⟩), .one ⟨"\n\\\n", []⟩],
        ∀ w ∈ chain.words, IsWord w) ∧
      LineSpelled [.link ⟨"#", ["a b"]⟩ .or (.one ⟨"&&", []⟩), .one ⟨"\n\\\n", []⟩]
        "\\# \ta\\ b||\\&\\& ;\\\n\\\\\\\n ".toList ∧
      ∃ tokens, scan "\\# \ta\\ b||\\&\\& ;\\\n\\\\\\\n " [.ok "unread"] =
          ⟨.ok tokens, [], [.ok "unread"]⟩ ∧
        parse tokens =
          [.join .or (.simple "#" ["a b"]) (.simple "&&" []), .simple "\n\\\n" []] := by
  have hw : ∀ chain ∈ [Chain.link ⟨"#", ["a b"]⟩ .or (.one ⟨"&&", []⟩), .one ⟨"\n\\\n", []⟩],
      ∀ w ∈ chain.words, IsWord w := by decide
  have hhash : WordSpelled "#" ['\\', '#'] := ⟨.escaped '#' .nil, by decide⟩
  have hspaced : WordSpelled "a b" ['a', '\\', ' ', 'b'] :=
    ⟨.plain (by decide) (.escaped ' ' (.plain (by decide) .nil)), by decide⟩
  have hsigns : WordSpelled "&&" ['\\', '&', '\\', '&'] :=
    ⟨.escaped '&' (.escaped '&' .nil), by decide⟩
  have hlines : WordSpelled "\n\\\n" ['\\', '\n', '\\', '\\', '\\', '\n'] :=
    ⟨.escaped '\n' (.escaped '\\' (.escaped '\n' .nil)), by decide⟩
  have hblank : BlankText [' ', '\t'] := by decide
  have hargs : ArgsSpelled ["a b"] ([' ', '\t'] ++ (['a', '\\', ' ', 'b'] ++ [])) :=
    .cons hblank (by simp) hspaced .nil
  have hfirst := ChainSpelled.link (k := .or) (CallSpelled.mk (c := ⟨"#", ["a b"]⟩) hhash hargs)
    (show BlankText [] by decide) (show BlankText [] by decide)
    (.one (CallSpelled.mk (c := ⟨"&&", []⟩) hsigns .nil))
  have hsecond := ChainSpelled.one (CallSpelled.mk (c := ⟨"\n\\\n", []⟩) hlines .nil)
  have hline : LineSpelled _ "\\# \ta\\ b||\\&\\& ;\\\n\\\\\\\n ".toList :=
    .script (show BlankText [] by decide)
      (.cons hfirst (show BlankText [' '] by decide) (show BlankText [] by decide) (.one hsecond))
      (show BlankText [' '] by decide)
  exact ⟨hw, hline, parse_scan_spelled hw hline [.ok "unread"]⟩

end LineShell
