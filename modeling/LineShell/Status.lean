/-!
# The status of a session

What the shell remembers about failures.  A status has a part that lasts for one statement, the
flag `failed` with the messages recorded since it was last cleared, and a part that lasts until it
is reset: whether some command failed, and whether the user asked to leave.
-/

set_option autoImplicit false
namespace LineShell

/-- How recorded messages are shown to the user. -/
inductive Reporting where
  /-- Not at all. -/
  | silent
  /-- As a line of text. -/
  | plain
  /-- As a line of red text. -/
  | colored
  deriving DecidableEq, Repr, Inhabited

/-- What is written when a message is recorded. -/
def Reporting.diagnostic (message : String) : Reporting → Option String
  | .silent => none
  | .plain => some ("simp-shell: " ++ message ++ "\n")
  | .colored => some ("\x1b[38;5;9msimp-shell: " ++ message ++ "\x1b[39m\n")

/-- The status of a session. -/
structure Status where
  /-- How messages are shown. -/
  reporting : Reporting
  /-- Did the line, or the statement under way, meet an error or a request to leave? -/
  failed : Bool
  /-- Did a command fail, and was it not made good since? -/
  commandFailed : Bool
  /-- Did the user ask to leave? -/
  exiting : Bool
  /-- The exit status asked for, and 0 as long as the user did not ask for one. -/
  exitStatus : Int
  /-- The messages recorded since the last clearing, in order. -/
  messages : List String
  deriving DecidableEq, Repr, Inhabited

namespace Status

/-- The lead of messages about programs that could not be started.  A user who typed a command
needs no reminder that one was to be run, so the lead is not shown. -/
def redundantLead : String := "exec: "

/-- A message about a failed command without its redundant lead. -/
def withoutLead (message : String) : String :=
  if redundantLead.toList.isPrefixOf message.toList then
    String.ofList (message.toList.drop redundantLead.length)
  else message

/-- A status at the start of a session. -/
def fresh (reporting : Reporting) : Status := ⟨reporting, false, false, false, 0, []⟩

/-- Records a message. -/
def record (s : Status) (message : String) : Status :=
  { s with failed := true, messages := s.messages ++ [message] }

/-- Notes that a command failed, without a message yet. -/
def noteFailure (s : Status) : Status :=
  { s with commandFailed := true }

/-- Notes that the user asked to leave with the given exit status. -/
def requestExit (s : Status) (n : Int) : Status :=
  { s with failed := true, exiting := true, exitStatus := n }

/-- Clears what lasts for one statement only. -/
def clearTransient (s : Status) : Status :=
  { s with failed := false, messages := [] }

/-- Forgets that a command failed. -/
def forgive (s : Status) : Status :=
  { s with commandFailed := false }

/-- Back to the start of a session; only the way of reporting stays. -/
def reset (s : Status) : Status := fresh s.reporting

/-- The exit status asked for, once the user asked to leave. -/
def exit (s : Status) : Option Int := if s.exiting then some s.exitStatus else none

/-- The messages as one text. -/
def text (s : Status) : String := "\n".intercalate s.messages

/-- The exit code of the shell in this status: the one asked for, or else whether anything
failed. -/
def exitCode (s : Status) : Int :=
  if s.exiting then s.exitStatus else if s.failed || s.commandFailed then 1 else 0

@[simp]
theorem isSome_exit (s : Status) : s.exit.isSome = s.exiting := by
  rw [exit]
  cases s.exiting <;> rfl

theorem exit_eq_none_iff {s : Status} : s.exit = none ↔ s.exiting = false := by
  rw [← isSome_exit, Option.isSome_eq_false_iff, Option.isNone_iff_eq_none]

theorem exiting_of_exit {s : Status} {n : Int} (h : s.exit = some n) : s.exiting = true := by
  rw [← isSome_exit, h]
  rfl

/-- The request to leave is for the exit status that is kept. -/
theorem exitStatus_of_exit {s : Status} {n : Int} (h : s.exit = some n) : s.exitStatus = n := by
  rw [exit, exiting_of_exit h] at h
  exact Option.some.inj h

/-- The exit code is the exit status asked for. -/
theorem exitCode_of_exit {s : Status} {n : Int} (h : s.exit = some n) : s.exitCode = n := by
  rw [exitCode, exiting_of_exit h, exitStatus_of_exit h]
  rfl

end Status
end LineShell
