import LineShell.Proofs.Deeds
import LineShell.Proofs.Isolation

/-!
# Interrupts

Two interrupts end a console, but only if they come one right after the other at its main prompt.
Which replies are read there and which continue a line depends on the lines, and the console itself
remembers no more than one bit.  This file says in terms of the replies what that bit is for.

* `Console.Reads` — from one wait at the main prompt to another, with the replies read at the main
  prompt on the way.  `Reads.armed_iff` says that the console is armed exactly if the last of them
  was an interrupt, whatever came between it and the one before.
* `Shell.hints_runLine` — a line never shows the hint, so there is one for each interrupt read at
  the main prompt.
* `ScanState.settle_of_failure` — a failure read as a continuation is what the scan of that line
  comes to.  So an interrupt there ends the line and is not seen at the main prompt at all
  (`Reads.abort`).

The main statement is `Console.run_interrupts`.
-/

set_option autoImplicit false
namespace LineShell

variable {σ : Type}

namespace Reply

/-- The reply that is an interrupt. -/
abbrev interrupt : Reply := .error .interrupted

/-- Is the reply an interrupt? -/
def isInterrupt : Reply → Bool
  | .error .interrupted => true
  | _ => false

end Reply

/-! ## Hints in the log -/

/-- The number of hints in a log. -/
def Event.hints (log : List Event) : Nat := log.count .hint

theorem Event.hints_append (a b : List Event) : hints (a ++ b) = hints a + hints b :=
  List.count_append

theorem Event.hints_map_write (stream : Stream) (texts : List String) :
    hints (texts.map (.write stream)) = 0 := by
  simp [hints, List.count_eq_zero]

theorem Event.hints_eq_zero {log : List Event} (h : Event.hint ∉ log) : hints log = 0 :=
  List.count_eq_zero.2 h

theorem Deed.hint_not_mem_events (reporting : Reporting) (d : Deed σ) :
    Event.hint ∉ d.events reporting := by
  cases d <;> simp [events, Execution.events]

theorem hints_interpret (run : Runner σ) (commands : List Command) (s : Session σ) :
    Event.hints (interpret run commands s).log = Event.hints s.log := by
  have hnone : Event.hint ∉
      (Command.deedsAll run commands s).flatMap (Deed.events s.status.reporting) := by
    rw [List.mem_flatMap]
    rintro ⟨d, -, hd⟩
    exact Deed.hint_not_mem_events _ d hd
  rw [← performAll_deedsAll, Deed.log_performAll, Event.hints_append, Event.hints_eq_zero hnone,
    Nat.add_zero]

/-- Prompts are no hints. -/
theorem ScanReport.hints_events (r : ScanReport) : Event.hints r.events = 0 :=
  Event.hints_eq_zero (by simp [ScanReport.events])

theorem Shell.hints_echo (sh : Shell σ) (commands : List Command) (s : Session σ) :
    Event.hints (sh.echo commands s).log = Event.hints s.log := by
  rw [Shell.echo]
  split
  · exact Event.hints_append _ _
  · rfl

/-- **A line shows no hint.** -/
theorem Shell.hints_runLine (sh : Shell σ) (line : String) (replies : List Reply)
    (s : Session σ) : Event.hints (sh.runLine line replies s).1.log = Event.hints s.log := by
  cases hresult : (scan line replies).result with
  | error e =>
    rw [sh.runLine_of_error hresult, Session.record_log, Event.hints_append, Session.emit_log,
      Event.hints_append, ScanReport.hints_events, Event.hints_map_write]
    rfl
  | ok tokens =>
    rw [sh.runLine_of_ok hresult, hints_interpret, Shell.hints_echo, Session.emit_log,
      Event.hints_append, ScanReport.hints_events, Nat.add_zero]

/-! ## Failures among the continuations of a line -/

/-- A failure that a scan reads is the last reply that it reads, and what it comes to. -/
theorem ScanState.settle_of_failure {replies continuation : List Reply}
    {r : Except LexicalError ScanState} {failure : ReadFailure}
    (hreplies : replies = continuation ++ (settle replies r).unread)
    (hmem : .error failure ∈ continuation) :
    (settle replies r).result = .error (.read failure) ∧
      continuation.getLast? = some (.error failure) := by
  induction replies generalizing continuation r with
  | nil =>
    rw [(List.append_eq_nil_iff.1 hreplies.symm).1] at hmem
    exact absurd hmem List.not_mem_nil
  | cons reply replies ih =>
    obtain ⟨first, rest, rfl⟩ := List.exists_cons_of_ne_nil (List.ne_nil_of_mem hmem)
    obtain ⟨rfl, hrest⟩ := List.cons.inj hreplies
    -- a scan that does not ask leaves all the replies, and here it has read one
    have hshorter : ∀ unread : List Reply, replies = rest ++ unread →
        unread ≠ reply :: replies := by
      rintro unread hunread rfl
      have hlen := congrArg List.length hunread
      rw [List.length_append, List.length_cons] at hlen
      omega
    cases r with
    | error e => exact absurd rfl (hshorter _ hrest)
    | ok s =>
      cases hpause : s.pause with
      | done result =>
        have hunread : (settle (reply :: replies) (.ok s)).unread = reply :: replies := by
          rw [settle, hpause]
        exact absurd hunread (hshorter _ hrest)
      | asks p =>
        cases reply with
        | error found =>
          rw [settle, hpause] at hrest ⊢
          obtain rfl : rest = [] := by simpa using hrest.symm
          obtain rfl : failure = found := by simpa using hmem
          exact ⟨rfl, rfl⟩
        | ok line =>
          rw [settle, hpause] at hrest ⊢
          have hmem' : .error failure ∈ rest := by simpa using hmem
          obtain ⟨hresult, hlast⟩ := ih hrest hmem'
          refine ⟨hresult, ?_⟩
          rw [List.getLast?_cons, hlast]
          rfl

namespace Console

/-! ## What is read at the main prompt -/

/-- The console comes from one wait at its main prompt to another, and these are the replies that
it reads at the main prompt on the way, in order. -/
inductive Reads (c : Console σ) (start : Waiting σ) : List Reply → Waiting σ → Prop
  | nil : Reads c start [] start
  | concat {reads : List Reply} {w w' : Waiting σ} {reply : Reply} (h : Reads c start reads w)
      (hreply : w.replies.head? = some reply) (hturn : c.Turn w w') :
      Reads c start (reads ++ [reply]) w'

theorem Reads.reaches {c : Console σ} {start w : Waiting σ} {reads : List Reply}
    (h : c.Reads start reads w) : c.Reaches start w := by
  induction h with
  | nil => exact .refl
  | concat _ _ hturn ih => exact ih.tail hturn

theorem Reaches.exists_reads {c : Console σ} {start w : Waiting σ} (h : c.Reaches start w) :
    ∃ reads, c.Reads start reads w := by
  induction h with
  | refl => exact ⟨[], .nil⟩
  | tail _ hturn ih =>
    obtain ⟨reads, hreads⟩ := ih
    obtain ⟨reply, continuation, hreplies, -⟩ := hturn.exists_taken
    exact ⟨reads ++ [reply], hreads.concat (by rw [hreplies]; rfl) hturn⟩

/-- A turn that reads an interrupt arms the console, and any other one disarms it. -/
theorem Turn.armed_iff {c : Console σ} {w w' : Waiting σ} {reply : Reply} (h : c.Turn w w')
    (hreply : w.replies.head? = some reply) : w'.armed = true ↔ reply = Reply.interrupt := by
  cases h with
  | interrupt rest s => cases hreply; simp
  | empty rest armed s => cases hreply; simp
  | line hne rest armed s hstay => cases hreply; simp

/-- A turn that reads an interrupt starts unarmed. -/
theorem Turn.unarmed {c : Console σ} {w w' : Waiting σ} (h : c.Turn w w')
    (hreply : w.replies.head? = some Reply.interrupt) : w.armed = false := by
  cases h with
  | interrupt rest s => rfl
  | empty rest armed s => cases hreply
  | line hne rest armed s hstay => cases hreply

/-- Showing the main prompt shows no hint. -/
theorem hints_prompted (c : Console σ) (s : Session σ) :
    Event.hints (c.prompted s).log = Event.hints s.log :=
  Event.hints_append _ _

/-- A turn that reads an interrupt shows the hint once, and any other one does not show it. -/
theorem Turn.hints_eq {c : Console σ} {w w' : Waiting σ} {reply : Reply} (h : c.Turn w w')
    (hreply : w.replies.head? = some reply) :
    Event.hints w'.session.log = Event.hints w.session.log + [reply].countP Reply.isInterrupt := by
  cases h with
  | interrupt rest s =>
    cases hreply
    show Event.hints ((c.prompted s).log ++ [.hint]) = _
    rw [Event.hints_append, hints_prompted]
    rfl
  | empty rest armed s =>
    cases hreply
    exact c.hints_prompted s
  | line hne rest armed s hstay =>
    cases hreply
    exact (c.shell.hints_runLine _ rest _).trans (c.hints_prompted s)

/-- **The console is armed exactly if the last reply read at its main prompt is an interrupt.** -/
theorem Reads.armed_iff {c : Console σ} {start w : Waiting σ} {reads : List Reply}
    (h : c.Reads start reads w) (hstart : start.armed = false) :
    w.armed = true ↔ reads.getLast? = some Reply.interrupt := by
  cases h with
  | nil => simp [hstart]
  | concat _ hreply hturn => rw [hturn.armed_iff hreply, List.getLast?_concat, Option.some_inj]

theorem Reads.hints_eq {c : Console σ} {start w : Waiting σ} {reads : List Reply}
    (h : c.Reads start reads w) :
    Event.hints w.session.log = Event.hints start.session.log + reads.countP Reply.isInterrupt := by
  induction h with
  | nil => rfl
  | concat _ hreply hturn ih => rw [hturn.hints_eq hreply, ih, List.countP_append, Nat.add_assoc]

/-- As long as the console goes on, no two interrupts are read one right after the other. -/
theorem Reads.not_twice {c : Console σ} {start w : Waiting σ} {reads : List Reply}
    (h : c.Reads start reads w) (hstart : start.armed = false) :
    ¬ [Reply.interrupt, Reply.interrupt] <:+: reads := by
  induction h with
  | nil => simp
  | @concat reads w w' reply hreads hreply hturn ih =>
    rw [List.infix_concat_iff]
    rintro (⟨before, hpair⟩ | hpair)
    · have hsplit : (before ++ [Reply.interrupt]) ++ [Reply.interrupt] = reads ++ [reply] := by
        rw [← hpair, List.append_assoc]
        rfl
      obtain ⟨rfl, hlast⟩ := List.append_inj' hsplit rfl
      obtain rfl : reply = Reply.interrupt := (List.singleton_inj.1 hlast).symm
      have harmed : w.armed = true := (hreads.armed_iff hstart).2 List.getLast?_concat
      exact absurd (harmed.symm.trans (hturn.unarmed hreply)) nofun
    · exact ih hpair

/-! ## Interrupts behind a line -/

/-- **An interrupt that answers a continuation prompt ends the line, and only the line.**  It is the
last reply read for the line, nothing of the line runs, and the console is back at its main prompt,
not armed. -/
theorem Reads.abort {c : Console σ} {start w : Waiting σ} {reads : List Reply}
    {reporting : Reporting} (h : c.Reads start reads w)
    (hfresh : start.session.status = Status.fresh reporting) {line : String}
    {continuation : List Reply} (hne : line ≠ "")
    (hreplies : w.replies = .ok line :: (continuation ++ (scan line w.replies.tail).unread))
    (hmem : Reply.interrupt ∈ continuation) :
    continuation.getLast? = some Reply.interrupt ∧
      ∃ w', c.Reads start (reads ++ [.ok line]) w' ∧ w'.armed = false ∧
        w'.replies = (scan line w.replies.tail).unread ∧
        w'.session.status = Status.fresh reporting ∧ w'.session.world = w.session.world ∧
        w'.session.log = w.session.log ++ [.prompt c.prompt] ++
          (scan line w.replies.tail).events ++
          (reporting.diagnostic ReadFailure.interrupted.message).toList.map (.write .error) := by
  obtain ⟨replies, armed, s⟩ := w
  have hs : s.status = Status.fresh reporting := h.reaches.status_eq hfresh
  cases replies with
  | nil => cases hreplies
  | cons reply rest =>
    obtain ⟨rfl, hrest⟩ := List.cons.inj hreplies
    obtain ⟨hresult, hlast⟩ := ScanState.settle_of_failure hrest hmem
    have hrun : (c.shell.runLine line rest (c.prompted s)).1 =
        ((c.prompted s).emit (scan line rest).events).record ReadFailure.interrupted.message :=
      c.shell.runLine_of_error hresult _
    have hexit : (c.lineRun line rest s).1.status.exit = none := by
      rw [lineRun, hrun]
      exact congrArg Status.exit hs
    have hback := h.concat rfl (.line hne rest armed s hexit)
    refine ⟨hlast, _, hback, rfl, rfl, hback.reaches.status_eq hfresh, ?_, ?_⟩
    · show (c.shell.runLine line rest (c.prompted s)).1.world = _
      rw [hrun]
      rfl
    · show (c.shell.runLine line rest (c.prompted s)).1.log = _
      rw [hrun]
      show _ ++ (s.status.reporting.diagnostic _).toList.map _ = _
      rw [hs]
      rfl

/-! ## The end of a run -/

/-- An interrupt ends the console only if it is armed. -/
theorem Ends.armed {c : Console σ} {w : Waiting σ} {r : ConsoleReport σ} (h : c.Ends w r)
    (hreply : w.replies.head? = some Reply.interrupt) : w.armed = true := by
  cases h with
  | interrupted rest s => rfl
  | _ => cases hreply

/-- With an interrupt the user leaves with status 0. -/
theorem Ends.left {c : Console σ} {w : Waiting σ} {r : ConsoleReport σ} (h : c.Ends w r)
    (hreply : w.replies.head? = some Reply.interrupt) : r.ending = .left 0 := by
  cases h with
  | interrupted rest s => rfl
  | _ => cases hreply

/-- The last turn shows no hint. -/
theorem Ends.hints_eq {c : Console σ} {w : Waiting σ} {r : ConsoleReport σ} (h : c.Ends w r) :
    Event.hints r.session.log = Event.hints w.session.log := by
  cases h with
  | exited hne rest armed s hexit =>
    exact (c.shell.hints_runLine _ rest _).trans (c.hints_prompted s)
  | _ => exact c.hints_prompted _

/-- Two interrupts one right after the other can only be the last two replies read. -/
theorem Reads.eq_interrupt_of_twice {c : Console σ} {start w : Waiting σ} {reads : List Reply}
    (h : c.Reads start reads w) (hstart : start.armed = false) {last : Option Reply}
    {before after : List Reply}
    (htwice : reads ++ last.toList = before ++ Reply.interrupt :: Reply.interrupt :: after) :
    last = some Reply.interrupt ∧ after = [] := by
  have hnot := h.not_twice hstart
  cases last with
  | none =>
    rw [Option.toList_none, List.append_nil] at htwice
    exact absurd ⟨before, after, by rw [htwice, List.append_assoc]; rfl⟩ hnot
  | some reply =>
    obtain rfl | ⟨later, final, rfl⟩ := List.eq_nil_or_concat after
    · have hsplit : reads ++ [reply] = (before ++ [Reply.interrupt]) ++ [Reply.interrupt] := by
        rw [List.append_assoc]
        exact htwice
      obtain ⟨-, hlast⟩ := List.append_inj' hsplit rfl
      exact ⟨congrArg some (List.singleton_inj.1 hlast), rfl⟩
    · -- a pair in front of other replies is among those behind which the console went on
      have hsplit : reads ++ [reply] =
          (before ++ Reply.interrupt :: Reply.interrupt :: later) ++ [final] := by
        rw [List.concat_eq_append] at htwice
        rw [List.append_assoc]
        exact htwice
      obtain ⟨hreads, -⟩ := List.append_inj' hsplit rfl
      exact absurd ⟨before, later, by rw [hreads, List.append_assoc]; rfl⟩ hnot

/-- A console that started with `start` has read `reads` at its main prompt and waits there
again. -/
structure Attentive (c : Console σ) (reporting : Reporting) (start : Waiting σ)
    (reads : List Reply) (w : Waiting σ) : Prop where
  /-- It is armed exactly if the last reply read there was an interrupt.  So any line takes an
  interrupt back. -/
  armed : w.armed = true ↔ reads.getLast? = some Reply.interrupt
  /-- It has shown a hint for each interrupt read there. -/
  hints : Event.hints w.session.log = reads.countP Reply.isInterrupt
  /-- If it is to read a line next, and an interrupt among the replies that the line takes, then
  this interrupt is the last of them, nothing of the line runs, and it is back at its main prompt
  as after any other line. -/
  abort : ∀ line continuation, line ≠ "" →
    w.replies = .ok line :: (continuation ++ (scan line w.replies.tail).unread) →
    Reply.interrupt ∈ continuation →
      continuation.getLast? = some Reply.interrupt ∧
        ∃ w', c.Reads start (reads ++ [.ok line]) w' ∧ w'.armed = false ∧
          w'.replies = (scan line w.replies.tail).unread ∧
          w'.session.status = Status.fresh reporting ∧ w'.session.world = w.session.world ∧
          w'.session.log = w.session.log ++ [.prompt c.prompt] ++
            (scan line w.replies.tail).events ++
            (reporting.diagnostic ReadFailure.interrupted.message).toList.map (.write .error)

/-- A run has read `reads` at its main prompt and then `last`, if there was another reply, with
which it ended. -/
structure Interruptible (reads : List Reply) (last : Option Reply) (report : ConsoleReport σ) :
    Prop where
  /-- An interrupt ends the run exactly if two of them were read one right after the other. -/
  ends_iff : last = some Reply.interrupt ↔
    ∃ before after, reads ++ last.toList =
      before ++ Reply.interrupt :: Reply.interrupt :: after
  /-- Then the user has left with status 0. -/
  left : last = some Reply.interrupt → report.ending = .left 0
  /-- The run ends with the first two such interrupts. -/
  first : ∀ before after,
    reads ++ last.toList = before ++ Reply.interrupt :: Reply.interrupt :: after → after = []
  /-- If an interrupt ends the run, there was a hint for each other one. -/
  hints_of_interrupt : last = some Reply.interrupt →
    Event.hints report.session.log + 1 = (reads ++ last.toList).countP Reply.isInterrupt
  /-- Otherwise there was a hint for each of them. -/
  hints_of_other : last ≠ some Reply.interrupt →
    Event.hints report.session.log = (reads ++ last.toList).countP Reply.isInterrupt

/-- **Two interrupts one right after the other end a console.**  A console runs in a new session,
with any replies.  Then it reads some replies at its main prompt and ends with a last one.  It is
`Attentive` whenever it waits at its main prompt, and the whole run is `Interruptible`. -/
theorem run_interrupts (c : Console σ) (replies : List Reply) (reporting : Reporting)
    (world : σ) :
    let start : Waiting σ := ⟨replies, false, Session.fresh reporting world⟩
    let report := c.run replies (Session.fresh reporting world)
    (∃ reads last, c.Reads start reads last ∧ c.Ends last report) ∧
      (∀ reads w, c.Reads start reads w → c.Attentive reporting start reads w) ∧
      ∀ reads last, c.Reads start reads last → c.Ends last report →
        Interruptible reads last.replies.head? report := by
  intro start report
  have hhints : ∀ reads w, c.Reads start reads w →
      Event.hints w.session.log = reads.countP Reply.isInterrupt := fun reads w hreads =>
    hreads.hints_eq.trans (Nat.zero_add _)
  refine ⟨?_, fun reads w hreads => ⟨hreads.armed_iff rfl, hhints reads w hreads, ?_⟩,
    fun reads last hreads hends => ?_⟩
  · obtain ⟨last, hlast, hends⟩ := c.exists_ends start
    obtain ⟨reads, hreads⟩ := hlast.exists_reads
    exact ⟨reads, last, hreads, hends⟩
  · intro line continuation hne hreplies hmem
    exact hreads.abort rfl hne hreplies hmem
  · have hend : Event.hints report.session.log = reads.countP Reply.isInterrupt :=
      hends.hints_eq.trans (hhints reads last hreads)
    refine ⟨⟨fun hlast => ?_, ?_⟩, hends.left, fun before after htwice => ?_, fun hlast => ?_,
      fun hlast => ?_⟩
    · obtain ⟨before, hbefore⟩ :=
        List.getLast?_eq_some_iff.1 ((hreads.armed_iff rfl).1 (hends.armed hlast))
      exact ⟨before, [], by rw [hlast, hbefore, List.append_assoc]; rfl⟩
    · rintro ⟨before, after, htwice⟩
      exact (hreads.eq_interrupt_of_twice rfl htwice).1
    · exact (hreads.eq_interrupt_of_twice rfl htwice).2
    · rw [hlast, hend, List.countP_append]
      rfl
    · rw [hend, List.countP_append]
      cases hreply : last.replies.head? with
      | none => rfl
      | some reply =>
        rw [hreply] at hlast
        cases reply with
        | ok line => rfl
        | error failure =>
          cases failure with
          | interrupted => exact absurd rfl hlast
          | endOfInput => rfl
          | other reason => rfl

/-- The empty line takes the first interrupt back, and the second one only ends the line `a &&`.
The next two end the session, in which there are two hints, and the line `b` is not read. -/
theorem run_interrupts_continuation :
    let c : Console Nat := ⟨⟨failsFirst, false⟩, "$ "⟩
    let replies : List Reply := [Reply.interrupt, .ok "", .ok "a &&", Reply.interrupt,
      Reply.interrupt, Reply.interrupt, .ok "b"]
    let report := c.run replies (Session.fresh .plain 0)
    Event.hints report.session.log = 2 ∧ report.unread = [.ok "b"] ∧
      Interruptible [Reply.interrupt, .ok "", .ok "a &&", Reply.interrupt]
        (some Reply.interrupt) report := by
  intro c replies report
  obtain ⟨-, hattentive, hruns⟩ := c.run_interrupts replies .plain 0
  have hline := ((Reads.nil.concat rfl (.interrupt _ _)).concat rfl (.empty _ _ _) :
    c.Reads ⟨replies, false, Session.fresh .plain 0⟩ [Reply.interrupt, .ok ""] _)
  obtain ⟨-, w, hreads, harmed, hunread, -⟩ :=
    (hattentive _ _ hline).abort "a &&" [Reply.interrupt] (by decide) rfl (by simp)
  obtain ⟨_, armed, s⟩ := w
  obtain rfl : armed = false := harmed
  subst hunread
  have hlast := hreads.concat rfl (.interrupt _ s)
  have hends := Ends.interrupted (c := c) [.ok "b"] ((c.prompted s).emit [.hint])
  have hreport : report = _ := hlast.reaches.runOn_eq.trans hends.runOn_eq
  rw [← hreport] at hends
  have hinterruptible := hruns _ _ hlast hends
  have hcount := hinterruptible.hints_of_interrupt rfl
  refine ⟨?_, by rw [hreport], hinterruptible⟩
  exact Nat.succ.inj hcount

end Console
end LineShell
