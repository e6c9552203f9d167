import LineShell.Command
import LineShell.Exit

/-!
# Evaluating commands

Commands are run from the left, and a connective decides from the status after its left side
whether its right side runs.  A request to leave counts as an error, so that `&&` stops at it, and
`||` does not take it for a failure it could make good.

Every statement starts with a clean status: what lasts for one statement is cleared after each of
them.  A statement that is a pair joined by `||` and ends without an error makes good all the
failures before it.
-/

set_option autoImplicit false
namespace LineShell

variable {σ : Type}

/-- Does the right side of a connective run, given the status after its left side? -/
def Connective.proceeds (k : Connective) (s : Status) : Bool :=
  match k with
  | .and => !s.failed
  | .or => s.failed && !s.exiting

/-- The status in which the right side of a connective starts. -/
def Connective.prepare (k : Connective) (s : Status) : Status :=
  match k with
  | .and => s
  | .or => s.clearTransient

/-- Runs a simple command: `exit`, or else a program. -/
def evaluateSimple (run : Runner σ) (program : String) (args : List String) (s : Session σ) :
    Session σ :=
  if program = Exit.name then Exit.run args s else s.call run program args

/-- Runs a command. -/
def evaluate (run : Runner σ) : Command → Session σ → Session σ
  | .simple program args, s => evaluateSimple run program args s
  | .join k left right, s =>
    let s' := evaluate run left s
    if k.proceeds s'.status then evaluate run right (s'.mapStatus k.prepare) else s'

/-- Makes good the failures so far, if the statement just run is able to. -/
def settleStatement (command : Command) (s : Session σ) : Session σ :=
  if command.isAlternative && !s.status.failed then s.mapStatus Status.forgive else s

/-- Runs statements in order, up to one that asks to leave. -/
def interpret (run : Runner σ) : List Command → Session σ → Session σ
  | [], s => s
  | command :: commands, s =>
    let s' := settleStatement command (evaluate run command s)
    if s'.status.exiting then s'
    else interpret run commands (s'.mapStatus Status.clearTransient)

end LineShell
