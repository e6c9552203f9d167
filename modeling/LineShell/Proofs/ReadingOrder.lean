import LineShell.Proofs.Grouping

/-!
# Commands from left to right

A command is a tree, but it was written as a line.  `Command.calls` and `Command.connectives` read
the tree from left to right, whatever its shape, and give back what stood on the line: a call, a
connective, a call, and so on.

The main statements are `calls_parse` and `connectives_parse`.  Reading the statements of a list of
tokens from left to right gives all the calls of the tokens, in their order, and connectives that
stand among the tokens in this order, too.  Connectives can get lost, namely those that join
nothing.
-/

set_option autoImplicit false
namespace LineShell

namespace Command

/-- The calls of a command, from left to right. -/
def calls : Command → List Call
  | .simple program args => [⟨program, args⟩]
  | .join _ left right => left.calls ++ right.calls

/-- The connectives of a command, from left to right. -/
def connectives : Command → List Connective
  | .simple _ _ => []
  | .join k left right => left.connectives ++ k :: right.connectives

/-- There is one connective between each two calls. -/
theorem length_calls (command : Command) :
    command.calls.length = command.connectives.length + 1 := by
  induction command with
  | simple program args => rfl
  | join k left right ihl ihr =>
    rw [calls, connectives, List.length_append, List.length_append, List.length_cons, ihl, ihr]
    omega

theorem calls_ne_nil (command : Command) : command.calls ≠ [] := by
  intro h
  have hlen := command.length_calls
  rw [h, List.length_nil] at hlen
  omega

end Command

namespace Chain

theorem calls_link (c : Call) (k : Connective) (rest : Chain) :
    (link c k rest).toCommand.calls = c :: rest.toCommand.calls :=
  rfl

theorem connectives_link (c : Call) (k : Connective) (rest : Chain) :
    (link c k rest).toCommand.connectives = k :: rest.toCommand.connectives :=
  rfl

end Chain

/-! ## Tokens -/

namespace Item

/-- The call that an item is, if it is one. -/
def call? : Item → Option Call
  | .simple program args => some ⟨program, args⟩
  | _ => none

/-- The connective that an item is, if it is one. -/
def connective? : Item → Option Connective
  | .connective k => some k
  | _ => none

end Item

namespace Layout

/-- A layout has the calls of its items, in their order. -/
theorem map_calls_ofItems (items : List Item) :
    (ofItems items).calls.map Prod.fst = items.filterMap Item.call? := by
  induction items with
  | nil => rfl
  | cons x items ih =>
    cases x with
    | simple program args => exact congrArg (Call.mk program args :: ·) ih
    | argument text => exact ih
    | semicolon => exact ih
    | connective k => exact ih

/-- The connectives of the items stand in the lead and in the gaps. -/
theorem connectives_ofItems (items : List Item) :
    items.filterMap Item.connective? =
      (ofItems items).lead.filterMap Item.connective? ++
        (ofItems items).calls.flatMap fun call => call.2.filterMap Item.connective? := by
  induction items with
  | nil => rfl
  | cons x items ih =>
    cases x with
    | simple program args => exact ih
    | argument text => exact ih
    | semicolon => exact ih
    | connective k => exact congrArg (k :: ·) ih

/-- Putting a call in front of chains puts it in front of their calls. -/
theorem calls_prepend (c : Call) (k : Option Connective) (chains : List Chain) :
    (prepend c k chains).flatMap (·.toCommand.calls) =
      c :: chains.flatMap (·.toCommand.calls) := by
  cases k with
  | none => rfl
  | some k => cases chains <;> rfl

/-- Gathering calls into chains keeps them all, in their order. -/
theorem calls_chains (calls : List (Call × List Item)) :
    (chains calls).flatMap (·.toCommand.calls) = calls.map Prod.fst := by
  induction calls with
  | nil => rfl
  | cons call calls ih => rw [chains, calls_prepend, ih, List.map_cons]

/-- A joint is the first connective of its gap. -/
theorem joint?_toList_sublist (gap : List Item) :
    (Item.joint? gap).toList.Sublist (gap.filterMap Item.connective?) := by
  cases gap with
  | nil => exact List.Sublist.refl _
  | cons x gap =>
    cases x with
    | connective k =>
      rw [Item.joint?]
      split
      · exact (List.nil_sublist _).cons_cons k
      · exact List.nil_sublist _
    | _ => exact List.nil_sublist _

/-- Putting a call in front of chains adds at most the joint to their connectives. -/
theorem connectives_prepend (c : Call) (k : Option Connective) (chains : List Chain) :
    ((prepend c k chains).flatMap (·.toCommand.connectives)).Sublist
      (k.toList ++ chains.flatMap (·.toCommand.connectives)) := by
  cases k with
  | none => exact List.Sublist.refl _
  | some k =>
    cases chains with
    | nil => exact List.nil_sublist _
    | cons chain chains => exact List.Sublist.refl _

theorem connectives_chains (calls : List (Call × List Item)) :
    ((chains calls).flatMap (·.toCommand.connectives)).Sublist
      (calls.flatMap fun call => call.2.filterMap Item.connective?) := by
  induction calls with
  | nil => exact List.Sublist.refl _
  | cons call calls ih =>
    obtain ⟨c, gap⟩ := call
    rw [chains, List.flatMap_cons]
    exact (connectives_prepend c _ _).trans ((joint?_toList_sublist gap).append ih)

end Layout

/-- **Statements keep the calls of their tokens, in their order.** -/
theorem calls_parse (tokens : List Token) :
    (parse tokens).flatMap Command.calls = (Item.ofTokens tokens).filterMap Item.call? := by
  rw [parse_eq_chains, List.flatMap_map, Chain.ofTokens, Layout.calls_chains, Layout.ofTokens,
    Layout.map_calls_ofItems]

/-- **The connectives of statements stand among their tokens in the same order.** -/
theorem connectives_parse (tokens : List Token) :
    ((parse tokens).flatMap Command.connectives).Sublist
      ((Item.ofTokens tokens).filterMap Item.connective?) := by
  rw [parse_eq_chains, List.flatMap_map, Chain.ofTokens, Layout.connectives_ofItems]
  exact (Layout.connectives_chains _).trans (List.sublist_append_right _ _)

end LineShell
