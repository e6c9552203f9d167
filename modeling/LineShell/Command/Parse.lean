import LineShell.Command
import LineShell.Token

/-!
# From tokens to commands

Every list of tokens, well formed or not, has a meaning.

First the tokens before the end of the input are grouped into *items*: a program name takes the
arguments behind it and becomes a simple command, and a connective, a semicolon or an argument
without a program is an item of its own.

Then the items are read in statements.  A statement is a chain of commands with connectives between
them, and a command is followed by the rest of its chain exactly if the next item is a connective.
An item that is no command can still stand where a command is expected: it is passed over, and a
connective that misses an operand for this reason stands for the operand it has.  A semicolon
behind a command, or behind an item passed over, ends the statement.
-/

set_option autoImplicit false
namespace LineShell

/-! ## Items -/

/-- What the reader of statements sees. -/
inductive Item where
  /-- A program name with the arguments behind it. -/
  | simple (program : String) (args : List String)
  /-- An argument without a program. -/
  | argument (text : String)
  /-- `;` -/
  | semicolon
  /-- `&&` or `||`. -/
  | connective (k : Connective)
  deriving DecidableEq, Repr, Inhabited

namespace Item

/-- The texts of the arguments at the start of a list of items. -/
def leadingArgs : List Item → List String
  | .argument text :: items => text :: leadingArgs items
  | _ => []

/-- The items behind the arguments at the start of a list. -/
def dropArgs : List Item → List Item
  | .argument _ :: items => dropArgs items
  | items => items

/-- Groups the tokens before the first end of input into items. -/
def ofTokens : List Token → List Item
  | [] => []
  | ⟨.endOfInput, _⟩ :: _ => []
  | ⟨.programName, program⟩ :: ts =>
    let items := ofTokens ts
    .simple program (leadingArgs items) :: dropArgs items
  | ⟨.argument, text⟩ :: ts => .argument text :: ofTokens ts
  | ⟨.semicolon, _⟩ :: ts => .semicolon :: ofTokens ts
  | ⟨.connective k, _⟩ :: ts => .connective k :: ofTokens ts

/-- The command that an item is, if it is one. -/
def command? : Item → Option Command
  | .simple program args => some (.simple program args)
  | _ => none

end Item

/-! ## Statements -/

/-- Joins two operands if both are there; otherwise the one that is there stands alone. -/
def Command.join? (k : Connective) : Option Command → Option Command → Option Command
  | some left, some right => some (.join k left right)
  | left, none => left
  | none, right => right

/-- The statements in a list of items: the one that the list starts with, if it holds a command,
and the later ones. -/
structure Statements where
  /-- The statement at the start. -/
  first : Option Command
  /-- The statements after it. -/
  later : List Command
  deriving Repr

namespace Statements

/-- All the statements, in order. -/
def toList (s : Statements) : List Command :=
  s.first.toList ++ s.later

/-- Reads the statements in a list of items. -/
def ofItems : List Item → Statements
  | [] => ⟨none, []⟩
  | x :: .connective k :: items =>
    let rest := ofItems items
    ⟨Command.join? k x.command? rest.first, rest.later⟩
  | x :: .semicolon :: items => ⟨x.command?, (ofItems items).toList⟩
  | x :: items => ⟨x.command?, (ofItems items).toList⟩

end Statements

/-- The statements of a list of tokens, up to its first end of input. -/
def parse (tokens : List Token) : List Command :=
  (Statements.ofItems (Item.ofTokens tokens)).toList

end LineShell
