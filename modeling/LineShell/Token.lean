import LineShell.Connective
import LineShell.Text.Quoted

/-!
# Tokens

A command line is read as a list of tokens: the words, each marked as the name of a program or as
an argument, and the marks between them.  The list of a whole line ends with the one token
`Token.endOfInput`.

A token keeps its lexeme next to its kind.  For a word that is the text with the escapes resolved,
for a mark it is the spelling.
-/

set_option autoImplicit false
namespace LineShell

/-- What a token is. -/
inductive TokenKind where
  /-- The end of the line. -/
  | endOfInput
  /-- The first word of a command. -/
  | programName
  /-- A later word of a command. -/
  | argument
  /-- `;`, the mark between statements. -/
  | semicolon
  /-- `&&` or `||`. -/
  | connective (k : Connective)
  deriving DecidableEq, Repr, Inhabited

/-- The name under which a kind of token is shown. -/
def TokenKind.name : TokenKind → String
  | .endOfInput => "EOF"
  | .programName => "PROGRAM_NAME"
  | .argument => "ARGUMENT"
  | .semicolon => "SEMICOLON"
  | .connective .and => "AND"
  | .connective .or => "OR"

/-- A piece of a command line. -/
structure Token where
  /-- What the token is. -/
  kind : TokenKind
  /-- Its text. -/
  lexeme : String
  deriving DecidableEq, Repr, Inhabited

namespace Token

/-- The token that ends a line. -/
def endOfInput : Token := ⟨.endOfInput, ""⟩

/-- The token for `;`. -/
def semicolon : Token := ⟨.semicolon, ";"⟩

/-- The token for a connective. -/
def connective (k : Connective) : Token := ⟨.connective k, k.symbol⟩

/-- The token as shown to a user: its kind, and its lexeme quoted in parentheses. -/
def display (t : Token) : String :=
  t.kind.name ++ "(" ++ Text.quoted t.lexeme ++ ")"

end Token
end LineShell
