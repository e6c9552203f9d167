import LineShell.Proofs.Coherence
import LineShell.Proofs.ShortCircuit
import LineShell.Shell

/-!
# What a line leaves behind

A line that cannot be scanned is recorded as an error and does nothing else.  A line that can be
scanned may meet any number of failures on its way, and still the status at its end holds none of
their messages: `||` clears what it recovers from, and the end of a statement clears the rest.  All
that a line leaves in the status for others to see is a request to leave, if there was one, and the
memory that some command failed.

* `Status.Tells` — a status shows an outcome and holds messages only if that outcome is a failure.
  This is what each part of the evaluator keeps.
* `interpret_tells` — the status at the end of a list of statements, which tells the first request
  to leave among their outcomes.

The main statement is `Shell.runLine_reset`.
-/

set_option autoImplicit false
namespace LineShell

variable {σ : Type}

/-! ## Statuses without leftovers -/

/-- The status shows an outcome, and messages are left in it only by a failure. -/
structure Status.Tells (s : Status) (o : Outcome) : Prop where
  /-- The flags of the status show the outcome. -/
  shows : s.Shows o
  /-- There are no messages unless something failed. -/
  quiet : o ≠ .fail → s.messages = []

theorem Status.tells_fresh (reporting : Reporting) : (Status.fresh reporting).Tells .ok :=
  ⟨⟨rfl, rfl⟩, fun _ => rfl⟩

/-- Clearing a status without a request to leave makes it tell success. -/
theorem Status.tells_clearTransient {s : Status} (h : s.exit = none) : s.clearTransient.Tells .ok :=
  ⟨⟨rfl, h⟩, fun _ => rfl⟩

/-- The right side of a connective starts with a clean status. -/
theorem Connective.prepare_tells {s : Status} {o : Outcome} (h : s.Tells o) {k : Connective}
    (hk : k.goesOn o = true) : (k.prepare s).Tells .ok := by
  cases k with
  | and =>
    cases o with
    | ok => exact h
    | _ => simp [goesOn] at hk
  | or =>
    cases o with
    | fail => exact Status.tells_clearTransient h.shows.exit
    | _ => simp [goesOn] at hk

/-- Making good earlier failures leaves the outcome and the messages as they are. -/
theorem Status.Tells.settleStatement {s : Session σ} {o : Outcome} (h : s.status.Tells o)
    (command : Command) : (settleStatement command s).status.Tells o := by
  rw [LineShell.settleStatement]
  split
  · exact ⟨⟨h.shows.failed, h.shows.exit⟩, h.quiet⟩
  · exact h

/-! ## Commands -/

/-- `exit` records a message only about arguments that it cannot read. -/
theorem Exit.messages_run {args : List String} (h : Exit.outcome args ≠ .fail) (s : Session σ) :
    (Exit.run args s).status.messages = s.status.messages := by
  rw [Exit.outcome] at h
  rw [Exit.run]
  cases hread : Exit.read args with
  | error e =>
    rw [hread] at h
    exact absurd rfl h
  | ok request =>
    cases request with
    | help => rfl
    | run status => rfl

/-- A program that succeeds adds no message. -/
theorem Session.messages_call {run : Runner σ} {program : String} {args : List String}
    {s : Session σ} (h : (run s.world program args).1.outcome ≠ .fail) :
    (s.call run program args).status.messages = s.status.messages := by
  rw [Execution.outcome] at h
  rw [Session.call]
  cases hfailure : (run s.world program args).1.failure with
  | none => rfl
  | some failure =>
    rw [hfailure] at h
    exact absurd rfl h

/-- **A command leaves messages only if it fails.** -/
theorem evaluate_tells (run : Runner σ) (command : Command) {s : Session σ}
    (h : s.status.Tells .ok) :
    (evaluate run command s).status.Tells (command.course run s.world).result := by
  refine ⟨(evaluate_follows run command h.shows).shows, ?_⟩
  induction command generalizing s with
  | simple program args =>
    intro hne
    have hmessages : s.status.messages = [] := h.quiet (by simp)
    rw [evaluate, evaluateSimple]
    rw [Command.course] at hne
    split
    · rename_i hprogram
      rw [if_pos hprogram] at hne
      rw [Exit.messages_run hne, hmessages]
    · rename_i hprogram
      rw [if_neg hprogram] at hne
      rw [Session.messages_call hne, hmessages]
  | join k left right ihl ihr =>
    have hleft := evaluate_follows run left h.shows
    have htells : (evaluate run left s).status.Tells (left.course run s.world).result :=
      ⟨hleft.shows, ihl h⟩
    rw [evaluate, Command.course]
    simp only [Connective.proceeds_eq hleft.shows k]
    split
    · rename_i hk
      -- the right side starts from the status that the connective prepares
      have hright := @ihr ((evaluate run left s).mapStatus k.prepare)
        (Connective.prepare_tells htells hk)
      rw [Session.mapStatus_world, hleft.world] at hright
      exact hright
    · exact htells.quiet

/-! ## What never changes -/

/-- Running a command does not change the way of reporting. -/
theorem reporting_evaluate (run : Runner σ) (command : Command) (s : Session σ) :
    (evaluate run command s).status.reporting = s.status.reporting := by
  induction command generalizing s with
  | simple program args =>
    rw [evaluate, evaluateSimple]
    split
    · rw [Exit.run]
      split <;> rfl
    · rw [Session.call]
      split <;> rfl
  | join k left right ihl ihr =>
    rw [evaluate]
    split
    · rw [ihr, Session.mapStatus_status]
      cases k <;> exact ihl s
    · exact ihl s

/-- Making good earlier failures touches nothing else. -/
theorem settleStatement_world (command : Command) (s : Session σ) :
    (settleStatement command s).world = s.world := by
  rw [settleStatement]
  split <;> rfl

theorem settleStatement_log (command : Command) (s : Session σ) :
    (settleStatement command s).log = s.log := by
  rw [settleStatement]
  split <;> rfl

theorem settleStatement_reporting (command : Command) (s : Session σ) :
    (settleStatement command s).status.reporting = s.status.reporting := by
  rw [settleStatement]
  split <;> rfl

/-! ## Statements -/

/-- What statements come to as a whole: the first request to leave among their outcomes, and
success if there is none. -/
def Outcome.verdict : List Outcome → Outcome
  | [] => .ok
  | .exit n :: _ => .exit n
  | _ :: outcomes => verdict outcomes

namespace Outcome

theorem verdict_cons_of_exit {o : Outcome} (h : o.exit?.isSome = true) (outcomes : List Outcome) :
    verdict (o :: outcomes) = o := by
  cases o with
  | exit n => rfl
  | _ => simp [exit?] at h

theorem verdict_cons_of_stay {o : Outcome} (h : o.exit? = none) (outcomes : List Outcome) :
    verdict (o :: outcomes) = verdict outcomes := by
  cases o with
  | exit n => simp [exit?] at h
  | _ => rfl

/-- Statements as a whole never fail. -/
theorem verdict_ne_fail (outcomes : List Outcome) : verdict outcomes ≠ .fail := by
  fun_induction verdict outcomes with
  | case1 => simp
  | case2 => simp
  | case3 o outcomes h ih => exact ih

theorem exit?_verdict (outcomes : List Outcome) :
    (verdict outcomes).exit? = outcomes.findSome? exit? := by
  fun_induction verdict outcomes with
  | case1 => rfl
  | case2 => rfl
  | case3 o outcomes h ih =>
    cases o with
    | exit n => exact absurd rfl (h n)
    | _ => exact ih

/-- An outcome other than failure is an error exactly if it is a request to leave. -/
theorem isError_of_ne_fail {o : Outcome} (h : o ≠ .fail) : o.isError = o.exit?.isSome := by
  cases o with
  | fail => exact absurd rfl h
  | _ => rfl

end Outcome

/-- **Statements leave nothing behind but a request to leave**, whatever they met on their way. -/
theorem interpret_tells (run : Runner σ) (commands : List Command) {s : Session σ}
    (h : s.status.Tells .ok) :
    (interpret run commands s).status.Tells
      (Outcome.verdict (Command.courseAll run commands s.world).result) := by
  induction commands generalizing s with
  | nil => exact h
  | cons command commands ih =>
    have hfollows := (evaluate_follows run command h.shows).settleStatement command
    have htells := (evaluate_tells run command h).settleStatement command
    have hexiting : (settleStatement command (evaluate run command s)).status.exiting =
        (command.course run s.world).result.exit?.isSome :=
      htells.shows.exiting
    rw [interpret, Command.courseAll]
    simp only [hexiting]
    split
    · rename_i hleaves
      rw [Outcome.verdict_cons_of_exit hleaves]
      exact htells
    · rename_i hstays
      have hnone : (command.course run s.world).result.exit? = none := by simpa using hstays
      have hcleared : ((settleStatement command (evaluate run command s)).mapStatus
          Status.clearTransient).status.Tells .ok :=
        Status.tells_clearTransient (htells.shows.exit.trans hnone)
      have hrest := ih hcleared
      rw [Session.mapStatus_world, hfollows.world] at hrest
      rw [Outcome.verdict_cons_of_stay hnone]
      exact hrest

/-! ## Lines -/

/-- Showing the statements of a line changes neither the status nor the runner. -/
theorem Shell.echo_status (sh : Shell σ) (commands : List Command) (s : Session σ) :
    (sh.echo commands s).status = s.status := by
  rw [Shell.echo]
  split <;> rfl

theorem Shell.echo_world (sh : Shell σ) (commands : List Command) (s : Session σ) :
    (sh.echo commands s).world = s.world := by
  rw [Shell.echo]
  split <;> rfl

/-- The events of the prompts that a scan has shown. -/
def ScanReport.events (r : ScanReport) : List Event :=
  r.prompts.map fun p => .prompt p.text

/-- A line that can be scanned runs its statements, once the prompts of the scan and, if the shell
does so, the statements are shown. -/
theorem Shell.runLine_of_ok (sh : Shell σ) {line : String} {replies : List Reply}
    {tokens : List Token} (h : (scan line replies).result = .ok tokens) (s : Session σ) :
    (sh.runLine line replies s).1 = interpret sh.runner (parse tokens)
      (sh.echo (parse tokens) (s.emit (scan line replies).events)) := by
  rw [Shell.runLine, h]
  rfl

/-- A line that cannot be scanned records why, once the prompts are shown. -/
theorem Shell.runLine_of_error (sh : Shell σ) {line : String} {replies : List Reply}
    {e : LexicalError} (h : (scan line replies).result = .error e) (s : Session σ) :
    (sh.runLine line replies s).1 = (s.emit (scan line replies).events).record e.message := by
  rw [Shell.runLine, h]
  rfl

/-- The statements of a line start with a clean status, if it has just been reset. -/
theorem Shell.tells_echo_reset (sh : Shell σ) (commands : List Command) (events : List Event)
    (s : Session σ) :
    (sh.echo commands ((s.mapStatus Status.reset).emit events)).status.Tells .ok := by
  rw [Shell.echo_status]
  exact Status.tells_fresh s.status.reporting

/-- **A line runs as a whole or not at all, and leaves a clean status.**  It runs in a session whose
status has just been reset.

If the scan fails with an error, the status is a fresh one in which that error is recorded, the
runner is as it was, and the log shows the prompts of the scan and the error, so that nothing of
the line ran.

If the scan succeeds, no messages are left, there is an error exactly if there is a request to
leave, and there is a request to leave exactly if some statement came to one: then it is the first,
and the exit status is the one that it asks for.  Otherwise the exit status is 0. -/
theorem Shell.runLine_reset (sh : Shell σ) (line : String) (replies : List Reply) (s : Session σ) :
    let after := (sh.runLine line replies (s.mapStatus Status.reset)).1
    match (scan line replies).result with
    | .error e =>
      after.status =
          { Status.fresh s.status.reporting with failed := true, messages := [e.message] } ∧
        after.world = s.world ∧
        after.log = s.log ++ (scan line replies).events ++
          (s.status.reporting.diagnostic e.message).toList.map (.write .error)
    | .ok tokens =>
      after.status.messages = [] ∧
        after.status.failed = after.status.exiting ∧
        after.status.exit =
          (Command.courseAll sh.runner (parse tokens) s.world).result.findSome? Outcome.exit? ∧
        after.status.exitStatus = ((Command.courseAll sh.runner (parse tokens)
          s.world).result.findSome? Outcome.exit?).getD 0 := by
  intro after
  cases hresult : (scan line replies).result with
  | error e =>
    have hafter : after = _ := sh.runLine_of_error hresult (s.mapStatus Status.reset)
    rw [hafter]
    exact ⟨rfl, rfl, rfl⟩
  | ok tokens =>
    have hafter : after = _ := sh.runLine_of_ok hresult (s.mapStatus Status.reset)
    have htells := interpret_tells sh.runner (parse tokens)
      (sh.tells_echo_reset (parse tokens) (scan line replies).events s)
    rw [← hafter, Shell.echo_world, Session.emit_world, Session.mapStatus_world] at htells
    have hne := Outcome.verdict_ne_fail
      (Command.courseAll sh.runner (parse tokens) s.world).result
    have hexit : after.status.exit =
        (Command.courseAll sh.runner (parse tokens) s.world).result.findSome? Outcome.exit? := by
      rw [htells.shows.exit, Outcome.exit?_verdict]
    have hcoherent : after.status.Coherent := by
      rw [hafter]
      refine (interpret_leadsTo sh.runner (parse tokens) _).coherent ?_
      rw [Shell.echo_status]
      exact Status.coherent_fresh s.status.reporting
    refine ⟨htells.quiet hne, ?_, hexit, ?_⟩
    · rw [htells.shows.failed, htells.shows.exiting]
      exact Outcome.isError_of_ne_fail hne
    · rw [hcoherent.exitStatus_eq, hexit]

end LineShell
