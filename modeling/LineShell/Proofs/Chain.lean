import LineShell.Command
import LineShell.Token

/-!
# Chains

The statements that a line can hold are *chains*: calls of programs with a connective between each
two of them.  A chain is a special tree, one that nests to the right and has a single call as the
left side of each connective; `Chain.toCommand` is that tree.

## What is here

* `Call` — a program with its arguments, and the tokens it is written with.
* `Chain` — a chain of calls, the tree it stands for and its tokens.
* `Chain.scriptTokens` — the tokens of several statements, with semicolons between them.
-/

set_option autoImplicit false
namespace LineShell

/-- A program with its arguments. -/
structure Call where
  /-- The program. -/
  program : String
  /-- Its arguments. -/
  args : List String
  deriving DecidableEq, Repr, Inhabited

namespace Call

/-- The call as a statement of its own. -/
def toCommand (c : Call) : Command := .simple c.program c.args

/-- The words of the call, the program first. -/
def words (c : Call) : List String := c.program :: c.args

/-- The tokens of the call. -/
def tokens (c : Call) : List Token :=
  ⟨.programName, c.program⟩ :: c.args.map fun arg => ⟨.argument, arg⟩

end Call

/-- Calls with connectives between them. -/
inductive Chain where
  /-- A single call. -/
  | one (c : Call)
  /-- A call, and a chain behind a connective. -/
  | link (c : Call) (k : Connective) (rest : Chain)
  deriving DecidableEq, Repr, Inhabited

namespace Chain

/-- The tree of a chain: what stands behind a connective is its right side as a whole. -/
def toCommand : Chain → Command
  | .one c => c.toCommand
  | .link c k rest => .join k c.toCommand rest.toCommand

/-- The words of a chain, in order. -/
def words : Chain → List String
  | .one c => c.words
  | .link c _ rest => c.words ++ rest.words

/-- The tokens of a chain. -/
def tokens : Chain → List Token
  | .one c => c.tokens
  | .link c k rest => c.tokens ++ Token.connective k :: rest.tokens

/-- The tokens of statements with semicolons between them. -/
def scriptTokens : List Chain → List Token
  | [] => []
  | [chain] => chain.tokens
  | chain :: chains => chain.tokens ++ Token.semicolon :: scriptTokens chains

end Chain
end LineShell
