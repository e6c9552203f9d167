import LineShell.Command.Parse
import LineShell.Proofs.Chain

/-!
# Which calls share a statement

Reading items never loses a call: each one ends up in some statement.  What the items between two
calls decide is only whether the two share one.

* `Layout` takes a list of items apart into its calls and the *gaps* between them.
* `Item.joint?` looks at one gap.  The calls around it are joined exactly if every second item of
  it, from the first to the last, is a connective; and the first one is the connective that joins
  them.  The items in between, whatever they are, have been passed over.
* `Layout.chains` gathers the calls into chains, one gap at a time.

The main statement is `parse_eq_chains`: what a list of tokens means is what its layout gathers.
It says at once that all statements are chains.
-/

set_option autoImplicit false
namespace LineShell

/-! ## Gaps -/

namespace Item

/-- Do these items, read where a command is expected, lead to the command behind them?  They do if
each item that is passed over has a connective behind it. -/
def leadsOn : List Item → Bool
  | [] => true
  | _ :: .connective _ :: gap => leadsOn gap
  | _ => false

/-- The connective that joins the commands before and behind a gap, if they are joined. -/
def joint? : List Item → Option Connective
  | .connective k :: gap => if leadsOn gap then some k else none
  | _ => none

end Item

/-! ## Layouts -/

/-- A list of items with its calls picked out. -/
structure Layout where
  /-- The items before the first call. -/
  lead : List Item
  /-- The calls, each with the gap behind it. -/
  calls : List (Call × List Item)
  deriving DecidableEq, Repr

namespace Layout

/-- Picks the calls out of a list of items. -/
def ofItems : List Item → Layout
  | [] => ⟨[], []⟩
  | .simple program args :: items =>
    let l := ofItems items
    ⟨[], (⟨program, args⟩, l.lead) :: l.calls⟩
  | x :: items =>
    let l := ofItems items
    ⟨x :: l.lead, l.calls⟩

/-- Puts a call in front of the chains behind it: into the first of them if there is a joint, and
before it if not. -/
def prepend (c : Call) : Option Connective → List Chain → List Chain
  | some k, chain :: chains => .link c k chain :: chains
  | _, chains => .one c :: chains

/-- Gathers calls into chains. -/
def chains : List (Call × List Item) → List Chain
  | [] => []
  | (c, gap) :: calls => prepend c (Item.joint? gap) (chains calls)

end Layout

/-! ## Reading items is gathering chains -/

namespace Layout

/-- An item that is no call only lengthens the lead. -/
theorem ofItems_cons_of_not_command {x : Item} (hx : x.command? = none) (items : List Item) :
    ofItems (x :: items) = ⟨x :: (ofItems items).lead, (ofItems items).calls⟩ := by
  cases x with
  | simple program args => simp [Item.command?] at hx
  | argument text => rfl
  | semicolon => rfl
  | connective k => rfl

/-- The lead starts with the first item, unless that is a call. -/
theorem head?_lead_ofItems_ne (items : List Item) (k : Connective)
    (h : ∀ rest, items ≠ .connective k :: rest) :
    (ofItems items).lead.head? ≠ some (.connective k) := by
  cases items with
  | nil => simp [ofItems]
  | cons x items =>
    cases x with
    | connective k' =>
      have hk : k' ≠ k := fun he => h items (he ▸ rfl)
      simpa [ofItems] using hk
    | _ => simp [ofItems]

end Layout

namespace Item

/-- An item is a call, or else no command. -/
theorem eq_simple_or (x : Item) :
    (∃ program args, x = .simple program args) ∨ x.command? = none := by
  cases x with
  | simple program args => exact .inl ⟨program, args, rfl⟩
  | _ => exact .inr rfl

theorem joint?_eq_none {gap : List Item} (h : ∀ k, gap.head? ≠ some (.connective k)) :
    joint? gap = none := by
  cases gap with
  | nil => rfl
  | cons x gap =>
    cases x with
    | connective k => exact absurd rfl (h k)
    | _ => rfl

theorem leadsOn_cons_eq_false (x : Item) {gap : List Item}
    (h : ∀ k, gap.head? ≠ some (.connective k)) : leadsOn (x :: gap) = false := by
  cases gap with
  | nil => rfl
  | cons y gap =>
    cases y with
    | connective k => exact absurd rfl (h k)
    | _ => rfl

end Item

theorem Command.join?_none_left (k : Connective) (right : Option Command) :
    Command.join? k none right = right := by
  cases right <;> rfl

namespace Statements

/-- The statements of a list of chains.  The first of them stands at the start if the items before
it lead on to it. -/
def ofChains (leads : Bool) (chains : List Chain) : Statements :=
  let statements := chains.map Chain.toCommand
  if leads then ⟨statements.head?, statements.tail⟩ else ⟨none, statements⟩

theorem toList_ofChains (leads : Bool) (chains : List Chain) :
    (ofChains leads chains).toList = chains.map Chain.toCommand := by
  cases leads with
  | false => rfl
  | true => cases chains <;> rfl

/-- A connective behind a call joins it to the first chain behind, if that chain stands at the
start of what follows. -/
theorem ofChains_prepend_joint (c : Call) (k : Connective) (leads : Bool) (chains : List Chain) :
    ofChains true (Layout.prepend c (if leads then some k else none) chains) =
      ⟨Command.join? k (some c.toCommand) (ofChains leads chains).first,
        (ofChains leads chains).later⟩ := by
  cases leads with
  | false => rfl
  | true => cases chains <;> rfl

/-- **What a list of items means**, in terms of its layout. -/
theorem ofItems_eq_ofChains (items : List Item) :
    ofItems items =
      ofChains (Item.leadsOn (Layout.ofItems items).lead)
        (Layout.chains (Layout.ofItems items).calls) := by
  fun_induction ofItems items with
  | case1 => rfl
  | case2 x k items rest ih =>
    -- a connective behind `x`: the rest is its right side
    have hlead := Layout.ofItems_cons_of_not_command (x := .connective k) rfl items
    obtain ⟨program, args, rfl⟩ | hx := x.eq_simple_or
    · rw [Layout.ofItems, hlead]
      simp only [Layout.chains, Item.joint?, Item.leadsOn, ofChains_prepend_joint, ← ih]
      rfl
    · rw [Layout.ofItems_cons_of_not_command hx, hlead, hx, Command.join?_none_left]
      simp only [Item.leadsOn, ← ih]
      rfl
  | case3 x items ih =>
    have hlead := Layout.ofItems_cons_of_not_command (x := .semicolon) rfl items
    have htail : (ofItems items).toList =
        (Layout.chains (Layout.ofItems items).calls).map Chain.toCommand := by
      rw [ih, toList_ofChains]
    obtain ⟨program, args, rfl⟩ | hx := x.eq_simple_or
    · rw [Layout.ofItems, hlead, htail]
      rfl
    · rw [Layout.ofItems_cons_of_not_command hx, hlead, htail, hx]
      rfl
  | case4 x items hk hs ih =>
    have hhead : ∀ k, (Layout.ofItems items).lead.head? ≠ some (.connective k) := fun k =>
      Layout.head?_lead_ofItems_ne items k (hk k)
    have htail : (ofItems items).toList =
        (Layout.chains (Layout.ofItems items).calls).map Chain.toCommand := by
      rw [ih, toList_ofChains]
    obtain ⟨program, args, rfl⟩ | hx := x.eq_simple_or
    · rw [Layout.ofItems, Layout.chains, Item.joint?_eq_none hhead, htail]
      rfl
    · rw [Layout.ofItems_cons_of_not_command hx, Item.leadsOn_cons_eq_false x hhead, htail, hx]
      rfl

end Statements

/-! ## From tokens to layouts -/

namespace Item

theorem leadingArgs_map (args : List String) : leadingArgs (args.map .argument) = args := by
  induction args with
  | nil => rfl
  | cons arg args ih => rw [List.map_cons, leadingArgs, ih]

theorem dropArgs_map (args : List String) : dropArgs (args.map .argument) = [] := by
  induction args with
  | nil => rfl
  | cons arg args ih => rw [List.map_cons, dropArgs, ih]

theorem ofTokens_args_append (args : List String) (ts : List Token) :
    ofTokens ((args.map fun arg => ⟨.argument, arg⟩) ++ ts) =
      args.map .argument ++ ofTokens ts := by
  induction args with
  | nil => rfl
  | cons arg args ih => rw [List.map_cons, List.cons_append, ofTokens, ih]; rfl

/-- Items that do not continue a call in front of them. -/
def StartsFresh (items : List Item) : Prop := ∀ text rest, items ≠ .argument text :: rest

theorem startsFresh_nil : StartsFresh [] := by
  intro text rest h
  exact absurd h (by simp)

theorem startsFresh_semicolon (items : List Item) : StartsFresh (.semicolon :: items) := by
  intro text rest h
  exact absurd h (by simp)

theorem startsFresh_connective (k : Connective) (items : List Item) :
    StartsFresh (.connective k :: items) := by
  intro text rest h
  exact absurd h (by simp)

theorem StartsFresh.append {front items : List Item} (hfront : StartsFresh front)
    (h : StartsFresh items) : StartsFresh (front ++ items) := by
  intro text rest he
  cases front with
  | nil => exact h text rest he
  | cons x front =>
    have hx : x = .argument text := List.head_eq_of_cons_eq he
    exact hfront text front (by rw [hx])

theorem StartsFresh.leadingArgs_append {items : List Item} (h : StartsFresh items)
    (front : List Item) : leadingArgs (front ++ items) = leadingArgs front := by
  fun_induction leadingArgs front with
  | case1 text front ih => rw [List.cons_append, leadingArgs, ih]
  | case2 front hfront =>
    rw [leadingArgs]
    exact StartsFresh.append hfront h

theorem StartsFresh.dropArgs_append {items : List Item} (h : StartsFresh items)
    (front : List Item) : dropArgs (front ++ items) = dropArgs front ++ items := by
  fun_induction dropArgs front with
  | case1 text front ih => rw [List.cons_append, dropArgs, ih]
  | case2 front hfront =>
    rw [dropArgs]
    exact StartsFresh.append hfront h

/-- The tokens of a call make up one item. -/
theorem ofTokens_call_append (c : Call) {ts : List Token} (h : StartsFresh (ofTokens ts)) :
    ofTokens (c.tokens ++ ts) = .simple c.program c.args :: ofTokens ts := by
  rw [Call.tokens, List.cons_append, ofTokens, ofTokens_args_append, h.leadingArgs_append,
    h.dropArgs_append, leadingArgs_map, dropArgs_map, List.nil_append]

end Item

/-- The layout of the tokens before the first end of input. -/
def Layout.ofTokens (tokens : List Token) : Layout := .ofItems (Item.ofTokens tokens)

/-- The chains in a list of tokens. -/
def Chain.ofTokens (tokens : List Token) : List Chain :=
  Layout.chains (Layout.ofTokens tokens).calls

/-- **The statements of a list of tokens** are the chains that its layout gathers. -/
theorem parse_eq_chains (tokens : List Token) :
    parse tokens = (Chain.ofTokens tokens).map Chain.toCommand := by
  rw [parse, Statements.ofItems_eq_ofChains, Statements.toList_ofChains]
  rfl

/-! ## Scripts

Where calls stand between single connectives, and chains between single semicolons, nothing is
passed over. -/

/-- A call in front of other tokens. -/
theorem Layout.ofTokens_call_append (c : Call) (ts : List Token)
    (h : Item.StartsFresh (Item.ofTokens ts)) :
    Layout.ofTokens (c.tokens ++ ts) = ⟨[], (c, (ofTokens ts).lead) :: (ofTokens ts).calls⟩ := by
  rw [Layout.ofTokens, Item.ofTokens_call_append c h]
  rfl

namespace Chain

/-- A chain in front of tokens that neither continue its last call nor join it. -/
theorem ofTokens_chain_append (chain : Chain) (ts : List Token)
    (hfresh : Item.StartsFresh (Item.ofTokens ts))
    (hjoint : Item.joint? (Layout.ofTokens ts).lead = none) :
    (Layout.ofTokens (chain.tokens ++ ts)).lead = [] ∧
      ofTokens (chain.tokens ++ ts) = chain :: ofTokens ts := by
  induction chain with
  | one c =>
    rw [tokens, ofTokens, Layout.ofTokens_call_append c ts hfresh, Layout.chains, hjoint]
    exact ⟨rfl, rfl⟩
  | link c k rest ih =>
    obtain ⟨hlead, hrest⟩ := ih
    have hcall := Layout.ofTokens_call_append c (Token.connective k :: (rest.tokens ++ ts))
      (Item.startsFresh_connective k _)
    have hgap : (Layout.ofTokens (Token.connective k :: (rest.tokens ++ ts))).lead =
        [.connective k] := by
      rw [← hlead]
      rfl
    rw [tokens, List.append_assoc, List.cons_append, ofTokens, hcall, hgap, Layout.chains]
    refine ⟨rfl, ?_⟩
    show Layout.prepend c (some k) (ofTokens (rest.tokens ++ ts)) = _
    rw [hrest]
    rfl

/-- The chains of a script are those it was made of. -/
theorem ofTokens_scriptTokens (chains : List Chain) :
    ofTokens (scriptTokens chains ++ [Token.endOfInput]) = chains := by
  fun_induction scriptTokens chains with
  | case1 => rfl
  | case2 chain =>
    exact (ofTokens_chain_append chain [Token.endOfInput] Item.startsFresh_nil rfl).2
  | case3 chain chains h ih =>
    have hchain := ofTokens_chain_append chain
      (Token.semicolon :: (scriptTokens chains ++ [Token.endOfInput]))
      (Item.startsFresh_semicolon _) rfl
    rw [List.append_assoc, List.cons_append, hchain.2]
    exact congrArg _ ih

end Chain
end LineShell
