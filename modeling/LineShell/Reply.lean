import LineShell.Connective

/-!
# Asking for another line

A line that is not complete makes the shell ask for more.  It shows a prompt that tells why, and
gets a reply: a line, or the news that there is none.

A source of replies is the finite list of replies still to come.  Once the list is used up there
is no more input, however often one asks.
-/

set_option autoImplicit false
namespace LineShell

/-- Why a line could not be read. -/
inductive ReadFailure where
  /-- The user pressed `^C`. -/
  | interrupted
  /-- There is no more input. -/
  | endOfInput
  /-- Reading failed, for the given reason. -/
  | other (reason : String)
  deriving DecidableEq, Repr, Inhabited

/-- The wording of each failure. -/
def ReadFailure.message : ReadFailure → String
  | .interrupted => "reader: ^C pressed"
  | .endOfInput => "reader: end of input"
  | .other reason => "reader: " ++ reason

/-- The answer to one request for a line. -/
abbrev Reply := Except ReadFailure String

/-- Why the shell asks for another line in the middle of a command. -/
inductive Prompt where
  /-- The line ends in a backslash. -/
  | backslash
  /-- The line ends in a connective. -/
  | connective (k : Connective)
  deriving DecidableEq, Repr, Inhabited

/-- The text of each prompt. -/
def Prompt.text : Prompt → String
  | .backslash => ">"
  | .connective .and => "cmdand>"
  | .connective .or => "cmdor>"

end LineShell
