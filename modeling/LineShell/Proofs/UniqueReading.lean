import LineShell.Proofs.ReadingOrder
import Mathlib.Data.List.TakeWhile

/-!
# Reading the text of statements

`Command.renderAll` writes statements as one line, with spaces, parentheses, symbols and semicolons
between the words.  If none of these characters occurs in a word, the line tells the statements:
two lists of statements with the same text are equal.

The proof reads both texts from the left and finds the same boundaries in them.  A word ends before
the first character that no word holds.  The arguments of a call are harder to tell from what
follows, since a space stands in front of an argument and in front of a symbol as well.  The
character behind the space decides.

* `Command.Plain` — a command of plain words, which are not empty and hold no delimiter.
* `Closes` — a text that cannot be part of a command in front of it.
* `separated_append_inj` — the boundaries in a list of items, used for the arguments of a call and
  for statements.
* `Command.render_append_inj` — the end of a command is where its text ends, whatever else of the
  line follows.  This is the induction over trees.

The main statement is `renderAll_eq_iff`.
-/

set_option autoImplicit false
namespace LineShell

/-! ## Plain words -/

/-- The characters that the text of a command has beside those of its words. -/
def delimiters : List Char := [' ', '(', ')', ';', '&', '|']

/-- A word that cannot be mistaken for anything else. -/
structure PlainWord (w : String) : Prop where
  /-- It is not empty. -/
  ne_empty : w ≠ ""
  /-- It holds no delimiter. -/
  not_delimiter : ∀ c ∈ w.toList, c ∉ delimiters

-- by running through the word, not through all characters
instance (w : String) : Decidable (∀ c ∈ w.toList, c ∉ delimiters) :=
  List.decidableBAll (· ∉ delimiters) w.toList

instance (w : String) : Decidable (PlainWord w) :=
  decidable_of_iff (w ≠ "" ∧ ∀ c ∈ w.toList, c ∉ delimiters)
    ⟨fun ⟨hne, hchars⟩ => ⟨hne, hchars⟩, fun h => ⟨h.ne_empty, h.not_delimiter⟩⟩

/-- All the programs and arguments of a command are plain words. -/
def Command.Plain (command : Command) : Prop :=
  ∀ c ∈ command.calls, ∀ w ∈ c.words, PlainWord w

instance (command : Command) : Decidable command.Plain :=
  inferInstanceAs (Decidable (∀ c ∈ command.calls, ∀ w ∈ c.words, PlainWord w))

theorem PlainWord.exists_cons {w : String} (h : PlainWord w) :
    ∃ c cs, w.toList = c :: cs ∧ c ∉ delimiters := by
  cases hw : w.toList with
  | nil => exact absurd (String.toList_eq_nil_iff.1 hw) h.ne_empty
  | cons c cs => exact ⟨c, cs, rfl, h.not_delimiter c (by rw [hw]; exact List.mem_cons_self)⟩

namespace Command

theorem plain_simple_iff {program : String} {args : List String} :
    (simple program args).Plain ↔ PlainWord program ∧ ∀ arg ∈ args, PlainWord arg := by
  rw [Plain, calls, List.forall_mem_singleton, Call.words, List.forall_mem_cons]

theorem plain_join_iff {k : Connective} {left right : Command} :
    (join k left right).Plain ↔ left.Plain ∧ right.Plain := by
  rw [Plain, calls, List.forall_mem_append]
  rfl

end Command

/-! ## Where something ends -/

/-- The text starts with a delimiter, if with anything. -/
def Breaks (r : List Char) : Prop := ∀ c ∈ r.head?, c ∈ delimiters

/-- The text of a line behind a command: nothing more, a closing parenthesis, a semicolon, or the
symbol of a connective behind a space. -/
inductive Closes : List Char → Prop
  | nil : Closes []
  | parenthesis (t : List Char) : Closes (')' :: t)
  | semicolon (t : List Char) : Closes (';' :: t)
  | connective (k : Connective) (t : List Char) : Closes (' ' :: k.sign :: t)

theorem Closes.breaks {r : List Char} (h : Closes r) : Breaks r := by
  intro c hc
  cases h with
  | nil => cases hc
  | parenthesis t => cases hc; decide
  | semicolon t => cases hc; decide
  | connective k t => cases hc; decide

theorem Connective.sign_mem_delimiters (k : Connective) : k.sign ∈ delimiters := by
  cases k <;> decide

theorem Connective.sign_inj {k k' : Connective} (h : k.sign = k'.sign) : k = k' := by
  cases k <;> cases k' <;> first | rfl | cases h

/-- An argument is no text behind a command. -/
theorem PlainWord.not_closes {w : String} (h : PlainWord w) (t : List Char) :
    ¬ Closes (' ' :: (w.toList ++ t)) := by
  obtain ⟨c, cs, hw, hc⟩ := h.exists_cons
  rw [hw, List.cons_append]
  intro hcloses
  cases hcloses with
  | connective k t => exact hc k.sign_mem_delimiters

/-- The characters of a word in front of a text that breaks are those before the first delimiter. -/
theorem PlainWord.takeWhile_append {w : String} (hw : PlainWord w) {r : List Char}
    (hr : Breaks r) : (w.toList ++ r).takeWhile (fun c => decide (c ∉ delimiters)) = w.toList := by
  have hchars : ∀ c ∈ w.toList, decide (c ∉ delimiters) = true := by
    intro c hc
    exact decide_eq_true (hw.not_delimiter c hc)
  have hnone : r.takeWhile (fun c => decide (c ∉ delimiters)) = [] := by
    cases r with
    | nil => rfl
    | cons c r =>
      have hc : c ∈ delimiters := hr c rfl
      rw [List.takeWhile_cons_of_neg (by simpa using hc)]
  rw [List.takeWhile_append_of_pos hchars, hnone, List.append_nil]

/-- **A word ends before the first delimiter**, and so two texts that start with words and are
equal have the same word there. -/
theorem PlainWord.append_inj {v w : String} (hv : PlainWord v) (hw : PlainWord w)
    {r r' : List Char} (hr : Breaks r) (hr' : Breaks r') (h : v.toList ++ r = w.toList ++ r') :
    v = w ∧ r = r' := by
  have hword : v.toList = w.toList := by
    rw [← hv.takeWhile_append hr, ← hw.takeWhile_append hr', h]
  rw [hword] at h
  exact ⟨String.toList_inj.1 hword, List.append_cancel_left h⟩

/-! ## Items behind separators -/

section Separated

variable {α : Type} {text : α → List Char} {good : α → Prop} {ends : List Char → Prop}
  {sep : List Char}

/-- Behind an item there is another one, or the end of them all. -/
theorem ends_separated (hsep : ∀ t, ends (sep ++ t)) (xs : List α) {r : List Char} (hr : ends r) :
    ends (xs.flatMap (fun x => sep ++ text x) ++ r) := by
  cases xs with
  | nil => exact hr
  | cons x xs =>
    rw [List.flatMap_cons, List.append_assoc, List.append_assoc]
    exact hsep _

/-- **Items with a separator in front of each are told by their text**, if a single item is and if
what follows them all does not look like one more of them. -/
theorem separated_append_inj
    (hitem : ∀ {x y : α} {r r' : List Char}, good x → good y → ends r → ends r' →
      text x ++ r = text y ++ r' → x = y ∧ r = r')
    (hsep : ∀ t, ends (sep ++ t)) {xs ys : List α} (hxs : ∀ x ∈ xs, good x)
    (hys : ∀ y ∈ ys, good y) {r r' : List Char} (hr : ends r) (hr' : ends r')
    (hmore : ∀ x t, good x → r ≠ sep ++ (text x ++ t))
    (hmore' : ∀ x t, good x → r' ≠ sep ++ (text x ++ t))
    (h : xs.flatMap (fun x => sep ++ text x) ++ r = ys.flatMap (fun y => sep ++ text y) ++ r') :
    xs = ys ∧ r = r' := by
  induction xs generalizing ys with
  | nil =>
    cases ys with
    | nil => exact ⟨rfl, h⟩
    | cons y ys =>
      rw [List.flatMap_cons, List.append_assoc, List.append_assoc] at h
      exact absurd h (hmore y _ (hys y List.mem_cons_self))
  | cons x xs ih =>
    cases ys with
    | nil =>
      rw [List.flatMap_cons, List.append_assoc, List.append_assoc] at h
      exact absurd h.symm (hmore' x _ (hxs x List.mem_cons_self))
    | cons y ys =>
      rw [List.forall_mem_cons] at hxs hys
      rw [List.flatMap_cons, List.flatMap_cons, List.append_assoc, List.append_assoc,
        List.append_assoc, List.append_assoc] at h
      obtain ⟨rfl, hrest⟩ := hitem hxs.1 hys.1 (ends_separated hsep xs hr)
        (ends_separated hsep ys hr') (List.append_cancel_left h)
      obtain ⟨rfl, hr⟩ := ih hxs.2 hys.2 hrest
      exact ⟨rfl, hr⟩

end Separated

/-! ## Commands -/

/-- Texts with a separator between each two of them are the first one, and then the others with the
separator in front of each. -/
theorem Text.toList_intercalate_cons (sep first : String) (others : List String) :
    (sep.intercalate (first :: others)).toList =
      first.toList ++ others.flatMap fun w => sep.toList ++ w.toList := by
  induction others generalizing first with
  | nil => rw [String.intercalate_singleton, List.flatMap_nil, List.append_nil]
  | cons second others ih =>
    rw [String.intercalate_cons_cons, String.toList_append, String.toList_append, ih,
      List.flatMap_cons, List.append_assoc, List.append_assoc]

namespace Command

theorem toList_render_simple (program : String) (args : List String) :
    (simple program args).render.toList =
      program.toList ++ args.flatMap fun arg => [' '] ++ arg.toList :=
  Text.toList_intercalate_cons " " program args

theorem toList_render_join (k : Connective) (left right : Command) (r : List Char) :
    (join k left right).render.toList ++ r =
      '(' :: (left.render.toList ++ ' ' :: k.sign :: k.sign :: ' ' ::
        (right.render.toList ++ ')' :: r)) := by
  simp [render, k.symbol_toList]

/-- The text of a call does not start with a parenthesis. -/
theorem head?_render_simple_ne {program : String} (h : PlainWord program) (args : List String)
    (r : List Char) : ((simple program args).render.toList ++ r).head? ≠ some '(' := by
  obtain ⟨c, cs, hprogram, hc⟩ := h.exists_cons
  rw [toList_render_simple, hprogram]
  intro hhead
  cases hhead
  exact hc (by decide)

/-- Calls are told by their text. -/
theorem render_simple_append_inj {program program' : String} {args args' : List String}
    (hplain : (simple program args).Plain) (hplain' : (simple program' args').Plain)
    {r r' : List Char} (hr : Closes r) (hr' : Closes r')
    (h : (simple program args).render.toList ++ r =
      (simple program' args').render.toList ++ r') :
    simple program args = simple program' args' ∧ r = r' := by
  obtain ⟨hprogram, hargs⟩ := plain_simple_iff.1 hplain
  obtain ⟨hprogram', hargs'⟩ := plain_simple_iff.1 hplain'
  have hspace : ∀ t, Breaks ([' '] ++ t) := by
    intro t c hc
    cases hc
    decide
  have hmore : ∀ {t : List Char}, Closes t → ∀ w s, PlainWord w → t ≠ [' '] ++ (w.toList ++ s) := by
    rintro t ht w s hw rfl
    exact hw.not_closes s ht
  rw [toList_render_simple, toList_render_simple, List.append_assoc, List.append_assoc] at h
  obtain ⟨rfl, hrest⟩ := hprogram.append_inj hprogram' (ends_separated hspace args hr.breaks)
    (ends_separated hspace args' hr'.breaks) h
  obtain ⟨rfl, hr⟩ := separated_append_inj (fun hv hw hr hr' h => hv.append_inj hw hr hr' h) hspace
    hargs hargs' hr.breaks hr'.breaks (hmore hr) (hmore hr') hrest
  exact ⟨rfl, hr⟩

/-- **Commands are told by their text**, and so is where the text ends. -/
theorem render_append_inj {c d : Command} (hc : c.Plain) (hd : d.Plain) {r r' : List Char}
    (hr : Closes r) (hr' : Closes r') (h : c.render.toList ++ r = d.render.toList ++ r') :
    c = d ∧ r = r' := by
  induction c generalizing d r r' with
  | simple program args =>
    cases d with
    | simple program' args' => exact render_simple_append_inj hc hd hr hr' h
    | join k' left' right' =>
      have hhead := head?_render_simple_ne (plain_simple_iff.1 hc).1 args r
      rw [h, toList_render_join] at hhead
      exact absurd rfl hhead
  | join k left right ihl ihr =>
    cases d with
    | simple program' args' =>
      have hhead := head?_render_simple_ne (plain_simple_iff.1 hd).1 args' r'
      rw [← h, toList_render_join] at hhead
      exact absurd rfl hhead
    | join k' left' right' =>
      obtain ⟨hleft, hright⟩ := plain_join_iff.1 hc
      obtain ⟨hleft', hright'⟩ := plain_join_iff.1 hd
      rw [toList_render_join, toList_render_join, List.cons.injEq] at h
      obtain ⟨rfl, hbehind⟩ := ihl hleft hleft' (.connective k _) (.connective k' _) h.2
      simp only [List.cons.injEq, true_and] at hbehind
      obtain ⟨hsign, -, hbehind⟩ := hbehind
      obtain rfl := Connective.sign_inj hsign
      obtain ⟨rfl, hr⟩ := ihr hright hright' (.parenthesis r) (.parenthesis r') hbehind
      rw [List.cons.injEq] at hr
      exact ⟨rfl, hr.2⟩

theorem render_ne_nil {command : Command} (h : command.Plain) : command.render.toList ≠ [] := by
  cases command with
  | simple program args =>
    obtain ⟨c, cs, hprogram, -⟩ := (plain_simple_iff.1 h).1.exists_cons
    rw [toList_render_simple, hprogram]
    exact List.cons_ne_nil _ _
  | join k left right =>
    have htext := toList_render_join k left right []
    rw [List.append_nil] at htext
    rw [htext]
    exact List.cons_ne_nil _ _

end Command

/-! ## Statements -/

theorem toList_renderAll_cons (command : Command) (commands : List Command) :
    (Command.renderAll (command :: commands)).toList =
      command.render.toList ++ commands.flatMap fun c => [';', ' '] ++ c.render.toList := by
  rw [Command.renderAll, List.map_cons, Text.toList_intercalate_cons, List.flatMap_map]
  rfl

theorem renderAll_ne_empty {command : Command} (h : command.Plain) (commands : List Command) :
    Command.renderAll (command :: commands) ≠ "" := by
  rw [← String.toList_inj.ne, toList_renderAll_cons]
  exact List.append_ne_nil_of_left_ne_nil (Command.render_ne_nil h) _

/-- **Statements of plain words are told by their text**, whatever the shapes of the trees. -/
theorem renderAll_eq_iff {commands commands' : List Command} (h : ∀ c ∈ commands, c.Plain)
    (h' : ∀ c ∈ commands', c.Plain) :
    Command.renderAll commands = Command.renderAll commands' ↔ commands = commands' := by
  refine ⟨fun htext => ?_, fun heq => heq ▸ rfl⟩
  cases commands with
  | nil =>
    cases commands' with
    | nil => rfl
    | cons c' commands' =>
      rw [List.forall_mem_cons] at h'
      exact absurd htext.symm (renderAll_ne_empty h'.1 commands')
  | cons c commands =>
    rw [List.forall_mem_cons] at h
    cases commands' with
    | nil => exact absurd htext (renderAll_ne_empty h.1 commands)
    | cons c' commands' =>
      rw [List.forall_mem_cons] at h'
      have hsemicolon : ∀ t, Closes ([';', ' '] ++ t) := fun t => .semicolon _
      rw [← String.toList_inj, toList_renderAll_cons, toList_renderAll_cons,
        ← List.append_nil (commands.flatMap _), ← List.append_nil (commands'.flatMap _)] at htext
      obtain ⟨rfl, hrest⟩ := Command.render_append_inj h.1 h'.1
        (ends_separated hsemicolon commands .nil) (ends_separated hsemicolon commands' .nil) htext
      obtain ⟨rfl, -⟩ := separated_append_inj
        (fun hc hd hr hr' h => Command.render_append_inj hc hd hr hr' h) hsemicolon h.2 h'.2
        .nil .nil (fun _ _ _ => nofun) (fun _ _ _ => nofun) hrest
      rfl

/-- The same words in the same order, with the same symbols between them, can be grouped in two
ways.  The texts `((a && b) || c -d); e` and `(a && (b || c -d)); e` tell which is meant. -/
theorem renderAll_eq_iff_grouped :
    (∀ c ∈ [.join .or (.join .and (.simple "a" []) (.simple "b" [])) (.simple "c" ["-d"]),
        .simple "e" []], Command.Plain c) ∧
      (∀ c ∈ [.join .and (.simple "a" []) (.join .or (.simple "b" []) (.simple "c" ["-d"])),
        .simple "e" []], Command.Plain c) ∧
      Command.renderAll
          [.join .or (.join .and (.simple "a" []) (.simple "b" [])) (.simple "c" ["-d"]),
            .simple "e" []] ≠
        Command.renderAll
          [.join .and (.simple "a" []) (.join .or (.simple "b" []) (.simple "c" ["-d"])),
            .simple "e" []] := by
  refine ⟨by decide, by decide, ?_⟩
  rw [Ne, renderAll_eq_iff (by decide) (by decide)]
  decide

/-- A word with a space in it is not plain, and reads like two. -/
example : Command.renderAll [.simple "a b" []] = Command.renderAll [.simple "a" ["b"]] := rfl

end LineShell
