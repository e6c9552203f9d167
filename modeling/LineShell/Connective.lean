/-!
# Connectives

The two operators that join commands into a chain.  `&&` runs its right side if the left side
succeeded, `||` if it failed.  Each is written as one sign, doubled.
-/

set_option autoImplicit false
namespace LineShell

/-- The operators between the commands of a chain. -/
inductive Connective where
  /-- `&&`: go on after success. -/
  | and
  /-- `||`: go on after failure. -/
  | or
  deriving DecidableEq, Repr, Inhabited

namespace Connective

/-- The character that, doubled, spells the connective. -/
def sign : Connective → Char
  | .and => '&'
  | .or => '|'

/-- The spelling of the connective. -/
def symbol : Connective → String
  | .and => "&&"
  | .or => "||"

/-- The symbol is the sign written twice. -/
theorem symbol_toList (k : Connective) : k.symbol.toList = [k.sign, k.sign] := by
  cases k <;> rfl

end Connective
end LineShell
