import LineShell.Proofs.ConsoleTurns
import LineShell.Proofs.LineStatus

/-!
# Lines of a console do not see each other

Between two lines a console keeps the state of its runner and a log, and forgets everything else.
So each line runs as it would in a session of its own, with the runner in the state in which the
lines before have left it and with the same replies to come.

* `Session.withPast` puts a past in front of the log of a session.  Nothing that runs looks at the
  log, so a past stays where it is: this is shown for each operation, up to
  `Shell.runLine_withPast`.
* `Reaches.status_eq` — whenever a console waits at its main prompt its status is fresh.

Together they are `Reaches.lineRun_eq`, and the main statement is `Console.run_isolated`.
-/

set_option autoImplicit false
namespace LineShell

variable {σ : Type}

/-! ## The past of a session -/

namespace Session

/-- The session with events in its log from before it started. -/
def withPast (past : List Event) (s : Session σ) : Session σ :=
  { s with log := past ++ s.log }

@[simp]
theorem withPast_status (past : List Event) (s : Session σ) :
    (s.withPast past).status = s.status :=
  rfl

@[simp]
theorem withPast_world (past : List Event) (s : Session σ) : (s.withPast past).world = s.world :=
  rfl

theorem emit_withPast (past : List Event) (s : Session σ) (events : List Event) :
    (s.withPast past).emit events = (s.emit events).withPast past := by
  simp only [emit, withPast, List.append_assoc]

theorem record_withPast (past : List Event) (s : Session σ) (message : String) :
    (s.withPast past).record message = (s.record message).withPast past := by
  rw [record, emit_withPast]
  rfl

theorem recordFailure_withPast (past : List Event) (s : Session σ) (message : String) :
    (s.withPast past).recordFailure message = (s.recordFailure message).withPast past :=
  record_withPast past (s.mapStatus Status.noteFailure) _

theorem call_withPast (run : Runner σ) (program : String) (args : List String)
    (past : List Event) (s : Session σ) :
    (s.withPast past).call run program args = (s.call run program args).withPast past := by
  have hcalled : ∀ events, Session.emit { s.withPast past with
      world := (run s.world program args).2 } events =
        (Session.emit { s with world := (run s.world program args).2 } events).withPast past :=
    emit_withPast past { s with world := (run s.world program args).2 }
  rw [call, call]
  simp only [withPast_world, hcalled]
  cases (run s.world program args).1.failure with
  | none => rfl
  | some failure => exact recordFailure_withPast past _ _

/-- A session with a fresh status is a new one, but for its past. -/
theorem eq_withPast_fresh {s : Session σ} {reporting : Reporting}
    (h : s.status = Status.fresh reporting) :
    s = (Session.fresh reporting s.world).withPast s.log := by
  obtain ⟨status, world, log⟩ := s
  have hstatus : status = Status.fresh reporting := h
  rw [hstatus, withPast, fresh, List.append_nil]

end Session

theorem Exit.run_withPast (args : List String) (past : List Event) (s : Session σ) :
    Exit.run args (s.withPast past) = (Exit.run args s).withPast past := by
  rw [Exit.run, Exit.run]
  cases Exit.read args with
  | error e => exact Session.recordFailure_withPast past s _
  | ok request =>
    cases request with
    | help => exact Session.emit_withPast past s _
    | run status => rfl

/-- A command leaves the past alone. -/
theorem evaluate_withPast (run : Runner σ) (command : Command) (past : List Event)
    (s : Session σ) :
    evaluate run command (s.withPast past) = (evaluate run command s).withPast past := by
  induction command generalizing s with
  | simple program args =>
    rw [evaluate, evaluate, evaluateSimple, evaluateSimple]
    split
    · exact Exit.run_withPast args past s
    · exact Session.call_withPast run program args past s
  | join k left right ihl ihr =>
    rw [evaluate, evaluate, ihl]
    cases hk : k.proceeds (evaluate run left s).status with
    | true =>
      simp only [Session.withPast_status, hk, if_true]
      exact ihr ((evaluate run left s).mapStatus k.prepare)
    | false => simp only [Session.withPast_status, hk, Bool.false_eq_true, if_false]

theorem settleStatement_withPast (command : Command) (past : List Event) (s : Session σ) :
    settleStatement command (s.withPast past) = (settleStatement command s).withPast past := by
  rw [settleStatement, settleStatement, Session.withPast_status]
  split <;> rfl

theorem interpret_withPast (run : Runner σ) (commands : List Command) (past : List Event)
    (s : Session σ) :
    interpret run commands (s.withPast past) = (interpret run commands s).withPast past := by
  induction commands generalizing s with
  | nil => rfl
  | cons command commands ih =>
    rw [interpret, interpret, evaluate_withPast, settleStatement_withPast]
    cases hexit : (settleStatement command (evaluate run command s)).status.exiting with
    | true => simp only [Session.withPast_status, hexit, if_true]
    | false =>
      simp only [Session.withPast_status, hexit, Bool.false_eq_true, if_false]
      exact ih ((settleStatement command (evaluate run command s)).mapStatus
        Status.clearTransient)

theorem Shell.echo_withPast (sh : Shell σ) (commands : List Command) (past : List Event)
    (s : Session σ) :
    sh.echo commands (s.withPast past) = (sh.echo commands s).withPast past := by
  rw [Shell.echo, Shell.echo]
  split
  · exact Session.emit_withPast past s _
  · rfl

/-- **A line leaves the past alone.** -/
theorem Shell.runLine_withPast (sh : Shell σ) (line : String) (replies : List Reply)
    (past : List Event) (s : Session σ) :
    sh.runLine line replies (s.withPast past) =
      ((sh.runLine line replies s).1.withPast past, (sh.runLine line replies s).2) := by
  refine Prod.ext ?_ rfl
  cases hresult : (scan line replies).result with
  | error e =>
    rw [sh.runLine_of_error hresult, sh.runLine_of_error hresult, Session.emit_withPast,
      Session.record_withPast]
  | ok tokens =>
    rw [sh.runLine_of_ok hresult, sh.runLine_of_ok hresult, Session.emit_withPast,
      Shell.echo_withPast, interpret_withPast]

/-! ## The way of reporting -/

theorem reporting_interpret (run : Runner σ) (commands : List Command) (s : Session σ) :
    (interpret run commands s).status.reporting = s.status.reporting := by
  induction commands generalizing s with
  | nil => rfl
  | cons command commands ih =>
    have hfirst : (settleStatement command (evaluate run command s)).status.reporting =
        s.status.reporting :=
      (settleStatement_reporting _ _).trans (reporting_evaluate run command s)
    rw [interpret]
    split
    · exact hfirst
    · exact (ih _).trans hfirst

/-- A line does not change the way of reporting. -/
theorem Shell.reporting_runLine (sh : Shell σ) (line : String) (replies : List Reply)
    (s : Session σ) : (sh.runLine line replies s).1.status.reporting = s.status.reporting := by
  cases hresult : (scan line replies).result with
  | error e =>
    rw [sh.runLine_of_error hresult]
    rfl
  | ok tokens =>
    rw [sh.runLine_of_ok hresult, reporting_interpret, Shell.echo_status]
    rfl

namespace Console

/-! ## At the main prompt -/

/-- A turn that starts with a fresh status leads back to one. -/
theorem Turn.status_eq {c : Console σ} {w w' : Waiting σ} {reporting : Reporting}
    (h : c.Turn w w') (hfresh : w.session.status = Status.fresh reporting) :
    w'.session.status = Status.fresh reporting := by
  cases h with
  | interrupt rest s => exact hfresh
  | empty rest armed s => exact hfresh
  | @line line hne rest armed s hstay =>
    have hkept : (c.lineRun line rest s).1.status.reporting = reporting := by
      rw [lineRun, Shell.reporting_runLine]
      exact congrArg Status.reporting hfresh
    show Status.fresh (c.lineRun line rest s).1.status.reporting = _
    rw [hkept]

/-- **Whenever the console waits at its main prompt, its status is fresh.** -/
theorem Reaches.status_eq {c : Console σ} {w w' : Waiting σ} {reporting : Reporting}
    (h : c.Reaches w w') (hfresh : w.session.status = Status.fresh reporting) :
    w'.session.status = Status.fresh reporting := by
  induction h with
  | refl => exact hfresh
  | tail _ hturn ih => exact hturn.status_eq ih

/-- **A line runs as in a session of its own**, if it is read with a fresh status. -/
theorem lineRun_eq (c : Console σ) (line : String) (rest : List Reply) {s : Session σ}
    {reporting : Reporting} (hfresh : s.status = Status.fresh reporting) :
    c.lineRun line rest s =
      ((c.shell.runLine line rest (Session.fresh reporting s.world)).1.withPast
          (s.log ++ [.prompt c.prompt]),
        (c.shell.runLine line rest (Session.fresh reporting s.world)).2) := by
  have hprompted : c.prompted s =
      (Session.fresh reporting s.world).withPast (s.log ++ [.prompt c.prompt]) :=
    Session.eq_withPast_fresh (s := c.prompted s) hfresh
  rw [lineRun, hprompted, Shell.runLine_withPast]

/-- A console that started with `replies` in a new session waits at its main prompt, and the line
read next will be on its own.  The report is that of the whole run. -/
structure Isolated (c : Console σ) (reporting : Reporting) (replies : List Reply)
    (report : ConsoleReport σ) (w : Waiting σ) : Prop where
  /-- The rest of the run leads to the report. -/
  run : c.runOn w = report
  /-- The status is fresh. -/
  fresh : w.session.status = Status.fresh reporting
  /-- The replies still to come are the last ones of all. -/
  order : w.replies <:+ replies
  /-- A turn takes the first of them and, if that is a line, those behind it that the scan of the
  line takes. -/
  takes : ∀ w', c.Turn w w' →
    ∃ reply continuation, w.replies = reply :: (continuation ++ w'.replies) ∧
      (continuation ≠ [] → ∃ line, reply = .ok line ∧
        (scan line (continuation ++ w'.replies)).unread = w'.replies)
  /-- A line does what it does in a new session, with the runner in the same state and the same
  replies to come: its status, what it writes behind the past and the replies it leaves are the
  same. -/
  alone : ∀ line rest, w.replies = .ok line :: rest → line ≠ "" →
    c.lineRun line rest w.session =
      ((c.shell.runLine line rest (Session.fresh reporting w.session.world)).1.withPast
          (w.session.log ++ [.prompt c.prompt]),
        (c.shell.runLine line rest (Session.fresh reporting w.session.world)).2)
  /-- If the line asks there to leave with `n`, the run ends with it and with `n`: no further reply
  is taken. -/
  leaves : ∀ line rest n, w.replies = .ok line :: rest → line ≠ "" →
    (c.shell.runLine line rest (Session.fresh reporting w.session.world)).1.status.exit = some n →
      report.ending = .left n ∧
        report.session = (c.lineRun line rest w.session).1 ∧
        report.unread = (c.lineRun line rest w.session).2

/-- **Lines of a console are isolated from each other.**  Let a console run in a new session, with
lines, interrupts and ends of input for replies.  Then its run is a number of turns and a last one,
it is `Isolated` whenever it waits at its main prompt, it takes replies from the front only, and it
ends with 0 if none of its lines asks, in a new session, to leave. -/
theorem run_isolated (c : Console σ) {replies : List Reply}
    (hread : ∀ reason, Except.error (.other reason) ∉ replies) (reporting : Reporting)
    (world : σ) :
    let start : Waiting σ := ⟨replies, false, Session.fresh reporting world⟩
    let report := c.run replies (Session.fresh reporting world)
    (∃ last, c.Reaches start last ∧ c.Ends last report) ∧
      (∀ w, c.Reaches start w → c.Isolated reporting replies report w) ∧
      report.unread <:+ replies ∧
      ((∀ w, c.Reaches start w → ∀ line rest, w.replies = .ok line :: rest → line ≠ "" →
          (c.shell.runLine line rest
            (Session.fresh reporting w.session.world)).1.status.exit = none) →
        report.ending = .left 0) := by
  intro start report
  have hreport : report = c.runOn start := rfl
  obtain ⟨last, hlast, hends⟩ := c.exists_ends start
  rw [← hreport] at hends
  refine ⟨⟨last, hlast, hends⟩, fun w hw => ?_, hends.unread_suffix.trans hlast.replies_suffix,
    fun hstays => ?_⟩
  · have hfresh : w.session.status = Status.fresh reporting := hw.status_eq rfl
    have hrun : c.runOn w = report := hw.runOn_eq.symm
    refine ⟨hrun, hfresh, hw.replies_suffix, fun w' hturn => hturn.exists_taken,
      fun line rest _ _ => c.lineRun_eq line rest hfresh, ?_⟩
    intro line rest n hreplies hne hn
    have hexit : (c.lineRun line rest w.session).1.status.exit = some n := by
      rw [c.lineRun_eq line rest hfresh]
      exact hn
    obtain ⟨_, armed, s⟩ := w
    cases hreplies
    rw [← hrun, (Ends.exited hne rest armed s hexit).runOn_eq]
    exact ⟨rfl, rfl, rfl⟩
  · have hfresh : last.session.status = Status.fresh reporting := hlast.status_eq rfl
    have hlines := hstays last hlast
    have hsuffix := hlast.replies_suffix
    clear_value report
    cases hends with
    | exhausted armed s => rfl
    | closed rest armed s => rfl
    | interrupted rest s => rfl
    | failed reason rest armed s =>
      exact absurd (hsuffix.subset List.mem_cons_self) (hread reason)
    | @exited line hne rest armed s n hexit =>
      rw [c.lineRun_eq line rest hfresh] at hexit
      exact absurd (hexit.symm.trans (hlines line rest rfl hne)) (by simp)

/-- The line `a` fails, and the next one, which is continued by `b`, asks to leave with 7 all the
same; the line `c` is never read. -/
theorem run_isolated_failsFirst :
    (∀ reason, Except.error (.other reason) ∉
        ([.ok "a", .ok "exit 7 &&", .ok "b", .ok "c"] : List Reply)) ∧
      ((Console.mk ⟨failsFirst, false⟩ "$ ").run [.ok "a", .ok "exit 7 &&", .ok "b", .ok "c"]
        (Session.fresh .plain 0)).ending = .left 7 ∧
      ((Console.mk ⟨failsFirst, false⟩ "$ ").run [.ok "a", .ok "exit 7 &&", .ok "b", .ok "c"]
        (Session.fresh .plain 0)).unread = [.ok "c"] := by
  have hread : ∀ reason, Except.error (.other reason) ∉
      ([.ok "a", .ok "exit 7 &&", .ok "b", .ok "c"] : List Reply) := by
    intro reason
    simp
  obtain ⟨-, hisolated, -⟩ :=
    run_isolated (Console.mk ⟨failsFirst, false⟩ "$ ") hread .plain 0
  have hne : "a" ≠ "" := by decide
  have hturn := Turn.line (c := Console.mk ⟨failsFirst, false⟩ "$ ") hne
    [.ok "exit 7 &&", .ok "b", .ok "c"] false (Session.fresh .plain 0) (by decide +kernel)
  have hleaves := (hisolated _ (Relation.ReflTransGen.single hturn)).leaves "exit 7 &&"
    [.ok "b", .ok "c"] 7 rfl (by decide) (by decide +kernel)
  exact ⟨hread, hleaves.1, hleaves.2.2⟩

end Console
end LineShell
