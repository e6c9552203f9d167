import LineShell.Shell

/-!
# The console

The console reads lines and runs them until the user leaves: by `exit`, by ending the input, or by
interrupting twice in a row.  The first interrupt shows a hint and any line, even an empty one,
takes it back.  An interrupt that answers a continuation prompt belongs to the line being read and
does not count.

Between two lines the status is reset, so no line sees the failures of another.

The lines that the console reads and those that continue them come from the same list of replies.
-/

set_option autoImplicit false
namespace LineShell

variable {σ : Type}

/-- A console: a shell and the prompt before each line. -/
structure Console (σ : Type) where
  /-- Runs the lines. -/
  shell : Shell σ
  /-- Shown before each line. -/
  prompt : String

/-- How a console ended. -/
inductive Ending where
  /-- The user left; `n` is the status asked for, or 0. -/
  | left (n : Int)
  /-- Reading failed. -/
  | readFailed (reason : String)
  deriving DecidableEq, Repr, Inhabited

/-- What a console did. -/
structure ConsoleReport (σ : Type) where
  /-- How it ended. -/
  ending : Ending
  /-- The session at the end. -/
  session : Session σ
  /-- The replies that were not read. -/
  unread : List Reply

namespace Console

/-- Reads and runs lines until the user leaves.  `armed` tells whether the last thing read was an
interrupt. -/
def runFrom (c : Console σ) (replies : List Reply) (armed : Bool) (session : Session σ) :
    ConsoleReport σ :=
  let s := session.emit [.prompt c.prompt]
  match replies with
  | [] => ⟨.left 0, s, []⟩
  | .error .endOfInput :: rest => ⟨.left 0, s, rest⟩
  | .error .interrupted :: rest =>
    if armed then ⟨.left 0, s, rest⟩ else c.runFrom rest true (s.emit [.hint])
  | .error (.other reason) :: rest => ⟨.readFailed reason, s, rest⟩
  | .ok line :: rest =>
    if line = "" then c.runFrom rest false s
    else
      let outcome := c.shell.runLine line rest s
      if outcome.1.status.exiting then ⟨.left outcome.1.status.exitCode, outcome.1, outcome.2⟩
      else c.runFrom outcome.2 false (outcome.1.mapStatus Status.reset)
termination_by replies.length
decreasing_by
  · simp
  · simp
  · exact Nat.lt_succ_of_le (c.shell.length_runLine_le line rest s)

/-- Reads and runs lines from the start of a session. -/
def run (c : Console σ) (replies : List Reply) (session : Session σ) : ConsoleReport σ :=
  c.runFrom replies false session

end Console
end LineShell
