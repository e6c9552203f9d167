/-!
# Whole numbers of 32 bits

The reader of decimal numerals in command arguments.  A numeral is an optional sign and at least
one ASCII digit, and its value lies between `-2 ^ 31` and `2 ^ 31 - 1`.  The digits are read from
the left, and the first one that cannot be accepted decides the error: a character that is no digit
is reported as such even where one more digit would have been too many.
-/

set_option autoImplicit false
namespace LineShell
namespace Text

/-- Why a text is not a numeral of 32 bits. -/
inductive NumeralError where
  /-- There is no character at all. -/
  | empty
  /-- A character is no digit, or a sign stands alone. -/
  | invalidDigit
  /-- The value exceeds `2 ^ 31 - 1`. -/
  | tooLarge
  /-- The value is below `-2 ^ 31`. -/
  | tooSmall
  deriving DecidableEq, Repr

/-- The wording of each reason. -/
def NumeralError.message : NumeralError → String
  | .empty => "cannot parse integer from empty string"
  | .invalidDigit => "invalid digit found in string"
  | .tooLarge => "number too large to fit in target type"
  | .tooSmall => "number too small to fit in target type"

/-- The value of an ASCII digit. -/
def digit? (c : Char) : Option Nat :=
  if '0' ≤ c ∧ c ≤ '9' then some (c.toNat - '0'.toNat) else none

/-- Reads digits after a number `n` already read, and fails with `excess` as soon as the number
passes `limit`. -/
def readDigits (limit : Nat) (excess : NumeralError) : Nat → List Char → Except NumeralError Nat
  | n, [] => .ok n
  | n, c :: cs =>
    match digit? c with
    | none => .error .invalidDigit
    | some d =>
      if limit < 10 * n + d then .error excess else readDigits limit excess (10 * n + d) cs

/-- Reads digits as a number of at most `2 ^ 31 - 1`. -/
def readPositive (cs : List Char) : Except NumeralError Int :=
  (readDigits 2147483647 .tooLarge 0 cs).map Int.ofNat

/-- Reads digits as the magnitude, at most `2 ^ 31`, of a negative number. -/
def readNegative (cs : List Char) : Except NumeralError Int :=
  (readDigits 2147483648 .tooSmall 0 cs).map fun n => -Int.ofNat n

/-- Reads a numeral of 32 bits. -/
def readNumeral (s : String) : Except NumeralError Int :=
  match s.toList with
  | [] => .error .empty
  | c :: cs =>
    if (c = '+' ∨ c = '-') ∧ cs = [] then .error .invalidDigit
    else if c = '+' then readPositive cs
    else if c = '-' then readNegative cs
    else readPositive (c :: cs)

end Text
end LineShell
