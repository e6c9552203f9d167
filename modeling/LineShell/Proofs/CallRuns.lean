import LineShell.Proofs.ReadingOrder
import Mathlib.Data.List.SplitBy
import Mathlib.Data.List.TakeWhile

/-!
# Calls as runs of tokens

Any list of tokens has a meaning, also one that no line comes to: with the end of the input in the
middle, arguments without a program, connectives without operands.  Whatever is passed over on the
way, it is never a program name or an argument behind one.

* `Token.callRuns` — the calls as they stand among the tokens, each a program name with all the
  arguments behind it.  The definition only cuts the list of tokens; it knows nothing of items or
  statements.
* `Command.Within` — the parts of a command.

The main statement is `parse_keeps_calls`.  Read from left to right, statements are exactly those
runs; what joins them are connectives among the tokens, in their order; and the left side of each
connective is a single call.
-/

set_option autoImplicit false
namespace LineShell

/-! ## Runs -/

namespace Token

/-- Is the token an argument? -/
def isArgument (t : Token) : Bool := t.kind == .argument

/-- Is the token the name of a program? -/
def isProgram (t : Token) : Bool := t.kind == .programName

/-- The connective that a token is, if it is one. -/
def connective? (t : Token) : Option Connective :=
  match t.kind with
  | .connective k => some k
  | _ => none

/-- The tokens before the first end of input. -/
def beforeEnd (tokens : List Token) : List Token := tokens.takeWhile (·.kind != .endOfInput)

/-- The tokens cut into pieces, each of them a token with all the arguments behind it. -/
def pieces (tokens : List Token) : List (List Token) := tokens.splitBy fun _ t => t.isArgument

/-- Does the piece start with the name of a program? -/
def startsCall (piece : List Token) : Bool := piece.head?.any isProgram

/-- The pieces that do. -/
def runs (tokens : List Token) : List (List Token) := (pieces tokens).filter startsCall

/-- The runs of a program name and all the arguments behind it, before the first end of input. -/
def callRuns (tokens : List Token) : List (List Token) := runs (beforeEnd tokens)

/-- A token with arguments behind it stays in one piece. -/
theorem isChain_piece (t : Token) {args : List Token} (hargs : ∀ u ∈ args, u.isArgument = true) :
    (t :: args).IsChain fun _ u => u.isArgument := by
  induction args generalizing t with
  | nil => exact .singleton t
  | cons u args ih =>
    exact .cons_cons (hargs u List.mem_cons_self)
      (ih u fun v hv => hargs v (List.mem_cons_of_mem _ hv))

/-- A token takes all the arguments behind it into its piece. -/
theorem pieces_cons (t : Token) (ts : List Token) :
    pieces (t :: ts) = (t :: ts.takeWhile isArgument) :: pieces (ts.dropWhile isArgument) := by
  have hpiece : (t :: ts.takeWhile isArgument).IsChain fun _ u => u.isArgument :=
    isChain_piece t fun _ => List.mem_takeWhile_imp
  have hnext : ∀ x ∈ (t :: ts.takeWhile isArgument).getLast?,
      ∀ u ∈ (ts.dropWhile isArgument).head?, u.isArgument = false := by
    intro _ _ u hu
    have hnot := List.head?_dropWhile_not isArgument ts
    rw [hu] at hnot
    simpa using hnot
  calc pieces (t :: ts)
      = pieces (t :: ts.takeWhile isArgument ++ ts.dropWhile isArgument) := by
        rw [List.cons_append, List.takeWhile_append_dropWhile]
    _ = pieces (t :: ts.takeWhile isArgument) ++ pieces (ts.dropWhile isArgument) :=
        List.splitBy_append hnext
    _ = (t :: ts.takeWhile isArgument) :: pieces (ts.dropWhile isArgument) := by
        rw [pieces, List.splitBy_of_isChain (List.cons_ne_nil _ _) hpiece]
        rfl

/-- Arguments without a program start no run. -/
theorem runs_dropWhile_isArgument (ts : List Token) : runs (ts.dropWhile isArgument) = runs ts := by
  cases ts with
  | nil => rfl
  | cons t ts =>
    cases ht : t.isArgument with
    | false => rw [List.dropWhile_cons_of_neg (by simp [ht])]
    | true =>
      have hstarts : ¬ startsCall (t :: ts.takeWhile isArgument) = true := by
        rw [isArgument, beq_iff_eq] at ht
        simp [startsCall, isProgram, ht]
      rw [List.dropWhile_cons_of_pos ht, runs, runs, pieces_cons, List.filter_cons_of_neg hstarts]

theorem runs_cons_of_isProgram {t : Token} (ht : t.isProgram = true) (ts : List Token) :
    runs (t :: ts) = (t :: ts.takeWhile isArgument) :: runs ts := by
  have hstarts : startsCall (t :: ts.takeWhile isArgument) = true := ht
  rw [← runs_dropWhile_isArgument ts, runs, pieces_cons, List.filter_cons_of_pos hstarts]
  rfl

theorem runs_cons_of_not_isProgram {t : Token} (ht : t.isProgram = false) (ts : List Token) :
    runs (t :: ts) = runs ts := by
  have hstarts : ¬ startsCall (t :: ts.takeWhile isArgument) = true := by simp [startsCall, ht]
  rw [← runs_dropWhile_isArgument ts, runs, pieces_cons, List.filter_cons_of_neg hstarts]
  rfl

end Token

/-! ## Items and their tokens -/

namespace Item

/-- The arguments at the start of a list of items are those at the start of its tokens. -/
theorem leadingArgs_ofTokens (tokens : List Token) :
    (leadingArgs (ofTokens tokens)).map (fun arg => (⟨.argument, arg⟩ : Token)) =
      (Token.beforeEnd tokens).takeWhile Token.isArgument := by
  induction tokens with
  | nil => rfl
  | cons t tokens ih =>
    obtain ⟨kind, text⟩ := t
    cases kind with
    | argument => exact congrArg (⟨.argument, text⟩ :: ·) ih
    | _ => rfl

/-- What looks at no argument does not miss those that are dropped. -/
theorem filterMap_dropArgs {α : Type} {f : Item → Option α} (hf : ∀ text, f (.argument text) = none)
    (items : List Item) : (dropArgs items).filterMap f = items.filterMap f := by
  fun_induction dropArgs items with
  | case1 text items ih => rw [List.filterMap_cons_none (hf text), ih]
  | case2 items _ => rfl

/-- **The calls among the items are the runs among the tokens.** -/
theorem tokens_calls_ofTokens (tokens : List Token) :
    ((ofTokens tokens).filterMap call?).map Call.tokens = Token.callRuns tokens := by
  induction tokens with
  | nil => rfl
  | cons t tokens ih =>
    obtain ⟨kind, text⟩ := t
    cases kind with
    | endOfInput => rfl
    | programName =>
      have hrun := Token.runs_cons_of_isProgram (t := ⟨.programName, text⟩) rfl
        (Token.beforeEnd tokens)
      have hcall : call? (.simple text (leadingArgs (ofTokens tokens))) =
          some ⟨text, leadingArgs (ofTokens tokens)⟩ := rfl
      rw [ofTokens, List.filterMap_cons_some hcall, filterMap_dropArgs fun _ => rfl, List.map_cons,
        ih, Call.tokens, leadingArgs_ofTokens]
      exact hrun.symm
    | _ => exact ih.trans (Token.runs_cons_of_not_isProgram rfl _).symm

/-- So are the connectives. -/
theorem connectives_ofTokens (tokens : List Token) :
    (ofTokens tokens).filterMap connective? =
      (Token.beforeEnd tokens).filterMap Token.connective? := by
  induction tokens with
  | nil => rfl
  | cons t tokens ih =>
    obtain ⟨kind, text⟩ := t
    cases kind with
    | endOfInput => rfl
    | programName =>
      rw [ofTokens, List.filterMap_cons_none rfl, filterMap_dropArgs fun _ => rfl, ih]
      rfl
    | connective k => exact congrArg (k :: ·) ih
    | _ => exact ih

end Item

/-! ## Parts of a command -/

namespace Command

/-- `Within part command`: the command has the part somewhere in it, or is the part. -/
inductive Within (part : Command) : Command → Prop
  | refl : Within part part
  | left {left : Command} (h : Within part left) (k : Connective) (right : Command) :
      Within part (.join k left right)
  | right {right : Command} (h : Within part right) (k : Connective) (left : Command) :
      Within part (.join k left right)

end Command

/-- Wherever two commands are joined in a chain, the left one is a call. -/
theorem Chain.exists_call_of_within {chain : Chain} {k : Connective} {left right : Command}
    (h : Command.Within (.join k left right) chain.toCommand) : ∃ c : Call, left = c.toCommand := by
  induction chain with
  | one c => cases h
  | link c k' rest ih =>
    cases h with
    | refl => exact ⟨c, rfl⟩
    | left h => cases h
    | right h => exact ih h

/-- **Reading statements keeps the calls.**  For any list of tokens,

* the calls of its statements, read from left to right, are written with exactly the runs of a
  program name and the arguments behind it, before the first end of input;
* the left side of each connective in a statement is a single call;
* the connectives of its statements stand among the tokens before the first end of input, in the
  same order. -/
theorem parse_keeps_calls (tokens : List Token) :
    ((parse tokens).flatMap Command.calls).map Call.tokens = Token.callRuns tokens ∧
      (∀ command ∈ parse tokens, ∀ k left right,
        Command.Within (.join k left right) command → ∃ c : Call, left = c.toCommand) ∧
      ((parse tokens).flatMap Command.connectives).Sublist
        ((Token.beforeEnd tokens).filterMap Token.connective?) := by
  refine ⟨?_, fun command hcommand k left right hwithin => ?_, ?_⟩
  · rw [calls_parse, Item.tokens_calls_ofTokens]
  · rw [parse_eq_chains] at hcommand
    obtain ⟨chain, -, rfl⟩ := List.mem_map.1 hcommand
    exact chain.exists_call_of_within hwithin
  · rw [← Item.connectives_ofTokens]
    exact connectives_parse tokens

end LineShell
