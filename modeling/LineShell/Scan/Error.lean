import LineShell.Reply

/-!
# Lexical errors

A line is rejected as a whole, before anything of it runs, when its marks do not fit together, when
it asks for something the shell does not do, or when the rest of it cannot be read.
-/

set_option autoImplicit false
namespace LineShell

/-- Why a line has no tokens. -/
inductive LexicalError where
  /-- Marks follow each other in a way that means nothing; `near` holds the first of them. -/
  | unexpected (near : String)
  /-- A connective's sign stands alone: background execution for `&`, a pipe for `|`. -/
  | unsupported (k : Connective)
  /-- The line goes on, but the next part of it could not be read. -/
  | read (failure : ReadFailure)
  deriving DecidableEq, Repr, Inhabited

/-- The wording of each error. -/
def LexicalError.message : LexicalError → String
  | .unexpected near => "Parse error near " ++ near
  | .unsupported .and => "Background execution (&) Not implemented"
  | .unsupported .or => "Piping (|) Not implemented"
  | .read failure => failure.message

end LineShell
