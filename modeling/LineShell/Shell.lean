import LineShell.Command.Parse
import LineShell.Evaluate
import LineShell.Scan.Line

/-!
# Running a line

A line is scanned as a whole, together with its continuations, before anything of it runs.  If it
has no tokens, the reason is recorded and that is all; otherwise its statements run in order.
-/

set_option autoImplicit false
namespace LineShell

variable {σ : Type}

/-- A shell: a runner, and whether each line is shown as it was understood before it runs. -/
structure Shell (σ : Type) where
  /-- Runs the programs. -/
  runner : Runner σ
  /-- Is each line shown before it runs? -/
  echoes : Bool

namespace Shell

/-- Shows the statements of a line, if the shell does so. -/
def echo (sh : Shell σ) (commands : List Command) (s : Session σ) : Session σ :=
  if sh.echoes then s.emit [.write .output (Command.renderAll commands ++ "\n")] else s

/-- Runs what a scan came to. -/
def perform (sh : Shell σ) (result : Except LexicalError (List Token)) (s : Session σ) :
    Session σ :=
  match result with
  | .error e => s.record e.message
  | .ok tokens =>
    let commands := parse tokens
    interpret sh.runner commands (sh.echo commands s)

/-- Runs a line.  The replies answer requests for the rest of it; those that were not needed are
returned. -/
def runLine (sh : Shell σ) (line : String) (replies : List Reply) (s : Session σ) :
    Session σ × List Reply :=
  let report := scan line replies
  (sh.perform report.result (s.emit (report.prompts.map fun p => .prompt p.text)), report.unread)

theorem length_runLine_le (sh : Shell σ) (line : String) (replies : List Reply) (s : Session σ) :
    (sh.runLine line replies s).2.length ≤ replies.length :=
  length_unread_scan_le line replies

end Shell
end LineShell
