import LineShell.Execution
import LineShell.Reply
import LineShell.Status

/-!
# Sessions

A session is the status of the shell together with the state of its runner and a log.  The log
holds, in order, everything that can be observed from outside: prompts, programs started and text
written.  Writing never fails here: what is written is in the log.
-/

set_option autoImplicit false
namespace LineShell

/-- Something that can be observed. -/
inductive Event where
  /-- A prompt was shown. -/
  | prompt (text : String)
  /-- A program was handed to the runner. -/
  | call (program : String) (args : List String)
  /-- Text was written. -/
  | write (stream : Stream) (text : String)
  /-- The user was told how to leave. -/
  | hint
  deriving DecidableEq, Repr, Inhabited

/-- What a program wrote, as events. -/
def Execution.events (e : Execution) : List Event :=
  e.writes.map fun w => .write w.1 w.2

/-- A session whose runner has states of type `σ`. -/
structure Session (σ : Type) where
  /-- The status of the shell. -/
  status : Status
  /-- The state of the runner. -/
  world : σ
  /-- What has been observed. -/
  log : List Event
  deriving Repr

namespace Session

variable {σ : Type}

/-- A session at its start. -/
def fresh (reporting : Reporting) (world : σ) : Session σ :=
  ⟨Status.fresh reporting, world, []⟩

/-- Adds events to the log. -/
def emit (s : Session σ) (events : List Event) : Session σ :=
  { s with log := s.log ++ events }

/-- Changes the status. -/
def mapStatus (s : Session σ) (f : Status → Status) : Session σ :=
  { s with status := f s.status }

/-- Records a message and shows it as the session reports messages. -/
def record (s : Session σ) (message : String) : Session σ :=
  (s.emit ((s.status.reporting.diagnostic message).toList.map (.write .error))).mapStatus
    (·.record message)

/-- Records that a command failed. -/
def recordFailure (s : Session σ) (message : String) : Session σ :=
  (s.mapStatus Status.noteFailure).record (Status.withoutLead message)

/-- Hands a program to the runner and records its failure, if it fails. -/
def call (run : Runner σ) (program : String) (args : List String) (s : Session σ) : Session σ :=
  let outcome := run s.world program args
  let s' := { s with world := outcome.2 }.emit (.call program args :: outcome.1.events)
  match outcome.1.failure with
  | none => s'
  | some failure => s'.recordFailure failure.message

/-! ## What each operation does to the parts of a session -/

@[simp]
theorem emit_status (s : Session σ) (events : List Event) : (s.emit events).status = s.status :=
  rfl

@[simp]
theorem emit_world (s : Session σ) (events : List Event) : (s.emit events).world = s.world :=
  rfl

@[simp]
theorem emit_log (s : Session σ) (events : List Event) : (s.emit events).log = s.log ++ events :=
  rfl

@[simp]
theorem mapStatus_status (s : Session σ) (f : Status → Status) :
    (s.mapStatus f).status = f s.status :=
  rfl

@[simp]
theorem mapStatus_world (s : Session σ) (f : Status → Status) : (s.mapStatus f).world = s.world :=
  rfl

@[simp]
theorem mapStatus_log (s : Session σ) (f : Status → Status) : (s.mapStatus f).log = s.log :=
  rfl

@[simp]
theorem record_status (s : Session σ) (message : String) :
    (s.record message).status = s.status.record message :=
  rfl

@[simp]
theorem record_world (s : Session σ) (message : String) : (s.record message).world = s.world :=
  rfl

@[simp]
theorem record_log (s : Session σ) (message : String) :
    (s.record message).log =
      s.log ++ (s.status.reporting.diagnostic message).toList.map (.write .error) :=
  rfl

end Session

/-! ## Views of a log -/

namespace Event

/-- Is the event a prompt? -/
def isPrompt : Event → Bool
  | .prompt _ => true
  | _ => false

/-- The calls in a log, each as the program followed by its arguments. -/
def calls (log : List Event) : List (List String) :=
  log.filterMap fun
    | .call program args => some (program :: args)
    | _ => none

/-- The prompts in a log. -/
def prompts (log : List Event) : List String :=
  log.filterMap fun
    | .prompt text => some text
    | _ => none

/-- All the text written to a stream, in order. -/
def written (stream : Stream) (log : List Event) : String :=
  String.join (log.filterMap fun
    | .write target text => if target = stream then some text else none
    | _ => none)

@[simp]
theorem calls_append (a b : List Event) : calls (a ++ b) = calls a ++ calls b := by
  simp [calls]

@[simp]
theorem prompts_append (a b : List Event) : prompts (a ++ b) = prompts a ++ prompts b := by
  simp [prompts]

@[simp]
theorem written_append (stream : Stream) (a b : List Event) :
    written stream (a ++ b) = written stream a ++ written stream b := by
  simp [written]

/-- What a program writes is never a call. -/
@[simp]
theorem calls_events (e : Execution) : calls e.events = [] := by
  simp [calls, Execution.events, List.filterMap_map]

end Event
end LineShell
