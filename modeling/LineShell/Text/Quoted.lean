import LineShell.Text.Hidden

/-!
# Quoted text

Program names and lexemes are shown to the user between double quotes, on one line and with nothing
invisible in them.  The quote, the backslash and the four controls newline, tab, carriage return
and NUL are written with a backslash and one more character; every other hidden character is
written as `\u` and its code point in braces, in lower case hexadecimal without leading zeros;
every other character, the single quote included, stands for itself.
-/

set_option autoImplicit false
namespace LineShell
namespace Text

/-- The spelling of one character inside a quoted text. -/
def quoteChar (c : Char) : List Char :=
  if c = '"' then ['\\', '"']
  else if c = '\\' then ['\\', '\\']
  else if c = '\n' then ['\\', 'n']
  else if c = '\t' then ['\\', 't']
  else if c = '\r' then ['\\', 'r']
  else if c = '\x00' then ['\\', '0']
  else if isHidden c.toNat then ['\\', 'u', '\x7b'] ++ Nat.toDigits 16 c.toNat ++ ['\x7d']
  else [c]

/-- The text between double quotes, each character spelled by `quoteChar`. -/
def quoted (s : String) : String :=
  String.ofList (['"'] ++ s.toList.flatMap quoteChar ++ ['"'])

/-- Quoting works character by character. -/
theorem toList_quoted (s : String) :
    (quoted s).toList = '"' :: (s.toList.flatMap quoteChar ++ ['"']) := by
  simp [quoted]

example : quoted "it's \"x\"" = "\"it's \\\"x\\\"\"" := by decide +kernel

end Text
end LineShell
