import LineShell.Connective

/-!
# Commands

A statement of the shell is a tree: a program with its arguments, or two commands joined by a
connective.  The trees that come from a line lean to the right, `a && (b || c)`, but every
definition here is about trees of any shape.

`Command.render` writes a tree as one line, with every joined pair in parentheses, and
`Command.renderAll` writes a list of statements.
-/

set_option autoImplicit false
namespace LineShell

/-- A statement of the shell. -/
inductive Command where
  /-- A program with its arguments. -/
  | simple (program : String) (args : List String)
  /-- Two commands joined by a connective. -/
  | join (k : Connective) (left right : Command)
  deriving DecidableEq, Repr, Inhabited

namespace Command

/-- The command as text: the words of a simple command between spaces, and a joined pair with its
connective in parentheses. -/
def render : Command → String
  | .simple program args => " ".intercalate (program :: args)
  | .join k left right => "(" ++ left.render ++ " " ++ k.symbol ++ " " ++ right.render ++ ")"

/-- A list of statements as text. -/
def renderAll (commands : List Command) : String :=
  "; ".intercalate (commands.map render)

/-- Is the command a pair joined by `||`? -/
def isAlternative : Command → Bool
  | .join .or _ _ => true
  | _ => false

end Command
end LineShell
