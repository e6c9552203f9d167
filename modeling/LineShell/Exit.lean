import LineShell.Arguments
import LineShell.Session
import LineShell.Text.Numeral
import LineShell.Text.Trim
import LineShell.Text.Whitespace

/-!
# The command `exit`

The one command that the shell runs itself.  It takes at most one argument, the exit status, which
is 0 if it is left out.  `exit` does not end anything by itself: it leaves a request in the status,
and whoever runs the session honours it.

Text that is written to standard output is taken to arrive there, so that the help text is always
shown.  A stream that refuses it (a full device, a closed pipe) is not in the model; the refusal
would be recorded as a failure of the command, like arguments that cannot be read.
-/

set_option autoImplicit false
namespace LineShell
namespace Exit

/-- The name of the command. -/
def name : String := "exit"

/-- The help text of the command. -/
def help : String :=
  "Usage: exit [--] [<status>]\n" ++
  "\n" ++
  "Exit the shell.\n" ++
  "\n" ++
  "Positional Arguments:\n" ++
  "  status            exit status of the shell; 0 when omitted.\n" ++
  "\n" ++
  "Options:\n" ++
  "  --help, help      display usage information\n"

/-- The arguments of the command: no options, and one exit status. -/
def grammar : ArgGrammar (Option Int) where
  option? _ := none
  positional arg status :=
    match status with
    | some _ => .error (.unrecognized arg)
    | none =>
      match Text.readNumeral arg with
      | .ok n => .ok (some n)
      | .error e => .error (.badPositional "status" arg e.message)

/-- What the arguments ask for: help, or to leave with the status given, if any. -/
def read (args : List String) : Except UsageError (Request (Option Int)) :=
  grammar.read args none

/-- The message recorded for arguments that cannot be read. -/
def complaint (e : UsageError) : String :=
  name ++ ": " ++ String.ofList (Text.trimEnd Text.isWhitespace e.message.toList)

/-- Runs the command.  The help text always reaches standard output. -/
def run {σ : Type} (args : List String) (s : Session σ) : Session σ :=
  match read args with
  | .ok .help => s.emit [.write .output help]
  | .ok (.run status) => s.mapStatus (·.requestExit (status.getD 0))
  | .error e => s.recordFailure (complaint e)

end Exit
end LineShell
