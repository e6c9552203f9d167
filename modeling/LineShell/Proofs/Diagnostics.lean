import LineShell.Proofs.Deeds
import LineShell.Proofs.ExecutedPrefix

/-!
# Diagnostics

A failure is shown when it is recorded, and the messages recorded are cleared now and then.  So
what the user sees and what the status holds could go apart: a message might be shown twice, or be
cleared before anybody has seen it.  They do not.  What statements leave in the log is, call for
call, what each call shows of itself and one line behind it if it has failed; and the status never
holds more than the message of the last failure.

* `Attempt` — a call that is executed, and what it leaves in the log.
* `Command.attempts` and `Command.attemptsAll` — the calls that a command and statements execute, by
  the short-circuit semantics.
* `evaluate_moments` and `interpret_moments` — at no moment are there two messages.

The main statement is `interpret_diagnoses`.
-/

set_option autoImplicit false
namespace LineShell

variable {σ : Type}

/-! ## The lead of a message -/

namespace Status

theorem withoutLead_append (message : String) :
    withoutLead (redundantLead ++ message) = message := by
  have hlead : redundantLead.toList.isPrefixOf (redundantLead ++ message).toList = true := by
    rw [String.toList_append, List.isPrefixOf_iff_prefix]
    exact List.prefix_append _ _
  rw [withoutLead, if_pos hlead, String.toList_append, ← String.length_toList, List.drop_left,
    String.ofList_toList]

theorem withoutLead_of_not_prefix {message : String}
    (h : ¬ redundantLead.toList <+: message.toList) : withoutLead message = message := by
  rw [withoutLead, if_neg (by rwa [List.isPrefixOf_iff_prefix])]

end Status

/-! ## Attempts -/

/-- A call that is executed, with the state in which it finds the runner. -/
structure Attempt (σ : Type) where
  /-- The call. -/
  call : Call
  /-- The state of the runner. -/
  world : σ

namespace Attempt

/-- What the call comes to. -/
def outcome (run : Runner σ) (a : Attempt σ) : Outcome :=
  (a.call.toCommand.course run a.world).result

/-- The text of the error, if the call fails. -/
def complaint? (run : Runner σ) (a : Attempt σ) : Option String :=
  if a.call.program = Exit.name then
    match Exit.read a.call.args with
    | .ok _ => none
    | .error e => some (Exit.complaint e)
  else (run a.world a.call.program a.call.args).1.failure.map ExecFailure.message

/-- What the call shows of itself: a program is in the log with all that it writes, and `exit`
shows its help text if it is asked to. -/
def shown (run : Runner σ) (a : Attempt σ) : List Event :=
  if a.call.program = Exit.name then
    match Exit.read a.call.args with
    | .ok .help => [.write .output Exit.help]
    | _ => []
  else .call a.call.program a.call.args :: (run a.world a.call.program a.call.args).1.events

/-- What the call leaves in the log. -/
def account (run : Runner σ) (reporting : Reporting) (a : Attempt σ) : List Event :=
  a.shown run ++ (a.complaint? run).toList.flatMap fun message =>
    (reporting.diagnostic (Status.withoutLead message)).toList.map (.write .error)

/-- There is an error to tell about exactly if the call fails. -/
theorem isSome_complaint?_iff (run : Runner σ) (a : Attempt σ) :
    (a.complaint? run).isSome = true ↔ a.outcome run = .fail := by
  rw [complaint?, outcome, Call.toCommand, Command.course]
  split
  · rw [Exit.outcome]
    cases Exit.read a.call.args with
    | error e => simp
    | ok request => cases request <;> simp
  · simp only [Execution.outcome]
    cases (run a.world a.call.program a.call.args).1.failure <;> simp

/-- If a message is shown with `before` and `after` around it, the error of a call is one line
behind the rest. -/
theorem account_eq {reporting : Reporting} {before after : String}
    (hline : ∀ message, reporting.diagnostic message = some (before ++ message ++ after))
    (run : Runner σ) (a : Attempt σ) :
    a.account run reporting = a.shown run ++ (a.complaint? run).toList.map fun message =>
      .write .error (before ++ Status.withoutLead message ++ after) := by
  rw [account]
  cases a.complaint? run with
  | none => rfl
  | some message => simp [hline]

end Attempt

/-- What a call leaves in the log is its account. -/
theorem Call.events_eq (run : Runner σ) (reporting : Reporting) (c : Call) (world : σ) :
    c.events run reporting world = Attempt.account run reporting ⟨c, world⟩ := by
  rw [events, ← performAll_deeds, Deed.log_performAll, toCommand, Command.deeds, Attempt.account,
    Attempt.shown, Attempt.complaint?]
  split
  · rw [Exit.deeds]
    cases Exit.read c.args with
    | error e => simp [Deed.events, Session.fresh, Status.fresh]
    | ok request => cases request <;> simp [Deed.events, Session.fresh]
  · rw [Session.callDeeds]
    cases hfailure : (run world c.program c.args).1.failure <;>
      simp [Deed.events, Session.fresh, Status.fresh, hfailure]

/-! ## The calls that are executed -/

namespace Command

/-- The calls that a command executes, in order. -/
def attempts (run : Runner σ) : Command → σ → List (Attempt σ)
  | .simple program args, world => [⟨⟨program, args⟩, world⟩]
  | .join k left right, world =>
    let first := left.course run world
    left.attempts run world ++
      if k.goesOn first.result then right.attempts run first.world else []

/-- The calls that statements execute, up to the first that asks to leave. -/
def attemptsAll (run : Runner σ) : List Command → σ → List (Attempt σ)
  | [], _ => []
  | command :: commands, world =>
    let first := command.course run world
    command.attempts run world ++
      if first.result.exit?.isSome then [] else attemptsAll run commands first.world

end Command

/-- A command leaves in the log the accounts of the calls that it executes. -/
theorem log_evaluate_eq (run : Runner σ) (command : Command) {s : Session σ}
    (h : s.status.Tells .ok) :
    (evaluate run command s).log =
      s.log ++ (command.attempts run s.world).flatMap (·.account run s.status.reporting) := by
  induction command generalizing s with
  | simple program args =>
    rw [Command.attempts, List.flatMap_singleton, ← Call.events_eq]
    exact Call.log_evaluate run ⟨program, args⟩ s
  | join k left right ihl ihr =>
    have hleft := evaluate_follows run left h.shows
    rw [evaluate, Command.attempts]
    simp only [Connective.proceeds_eq hleft.shows k]
    split
    · rename_i hk
      have hright := @ihr ((evaluate run left s).mapStatus k.prepare)
        (Connective.prepare_tells (evaluate_tells run left h) hk)
      have hreporting : (k.prepare (evaluate run left s).status).reporting =
          s.status.reporting := by
        rw [← reporting_evaluate run left s]
        cases k <;> rfl
      rw [Session.mapStatus_log, Session.mapStatus_world, Session.mapStatus_status, hreporting,
        hleft.world, ihl h] at hright
      rw [hright, List.flatMap_append, List.append_assoc]
    · rw [ihl h, List.append_nil]

/-- **Statements leave in the log the accounts of the calls that they execute.** -/
theorem log_interpret_eq (run : Runner σ) (commands : List Command) {s : Session σ}
    (h : s.status.Tells .ok) :
    (interpret run commands s).log = s.log ++
      (Command.attemptsAll run commands s.world).flatMap (·.account run s.status.reporting) := by
  induction commands generalizing s with
  | nil => exact (List.append_nil _).symm
  | cons command commands ih =>
    have hfollows := (evaluate_follows run command h.shows).settleStatement command
    have hfirst : (settleStatement command (evaluate run command s)).log = _ :=
      (settleStatement_log command _).trans (log_evaluate_eq run command h)
    have hexiting : (settleStatement command (evaluate run command s)).status.exiting =
        (command.course run s.world).result.exit?.isSome :=
      hfollows.shows.exiting
    rw [interpret, Command.attemptsAll]
    simp only [hexiting]
    split
    · rw [hfirst, List.append_nil]
    · rename_i hstays
      have hnone : (command.course run s.world).result.exit? = none := by simpa using hstays
      have hrest := @ih ((settleStatement command (evaluate run command s)).mapStatus
        Status.clearTransient) (Status.tells_clearTransient (hfollows.shows.exit.trans hnone))
      have hreporting : (settleStatement command (evaluate run command
          s)).status.clearTransient.reporting = s.status.reporting :=
        (settleStatement_reporting _ _).trans (reporting_evaluate run command s)
      rw [Session.mapStatus_log, Session.mapStatus_world, Session.mapStatus_status, hreporting,
        hfollows.world, hfirst] at hrest
      rw [hrest, List.flatMap_append, List.append_assoc]

/-! ## The messages at every moment -/

/-- There is at most one message. -/
def Session.Terse (s : Session σ) : Prop := s.status.messages.length ≤ 1

theorem Session.terse_of_messages_eq_nil {s : Session σ} (h : s.status.messages = []) :
    s.Terse := by
  rw [Terse, h]
  exact Nat.zero_le 1

/-- A session in which success is told has no messages. -/
theorem Status.Tells.terse {s : Session σ} (h : s.status.Tells .ok) : s.Terse :=
  Session.terse_of_messages_eq_nil (h.quiet (by simp))

/-- The failure of a call is the only message then. -/
theorem Session.terse_recordFailure {s : Session σ} (h : s.status.messages = [])
    (message : String) : (s.recordFailure message).Terse := by
  have hmessages : (s.recordFailure message).status.messages = [Status.withoutLead message] :=
    congrArg (· ++ [Status.withoutLead message]) h
  rw [Terse, hmessages]
  exact Nat.le_refl 1

/-- The deeds of a call record at most one message. -/
theorem simple_moments (run : Runner σ) (program : String) (args : List String) {s : Session σ}
    (h : s.status.messages = []) :
    ∀ t ∈ Deed.moments ((Command.simple program args).deeds run s) s, t.Terse := by
  have hs : s.Terse := Session.terse_of_messages_eq_nil h
  rw [Command.deeds]
  split
  · rw [Exit.deeds]
    cases Exit.read args with
    | error e =>
      rw [Deed.forall_moments_cons, Deed.forall_moments_nil]
      exact ⟨hs, Session.terse_recordFailure h _⟩
    | ok request =>
      cases request with
      | help => rw [Deed.forall_moments_cons, Deed.forall_moments_nil]; exact ⟨hs, hs⟩
      | run status => rw [Deed.forall_moments_cons, Deed.forall_moments_nil]; exact ⟨hs, hs⟩
  · rw [Session.callDeeds, Deed.forall_moments_cons]
    refine ⟨hs, ?_⟩
    cases (run s.world program args).1.failure with
    | none => exact Deed.forall_moments_nil.2 hs
    | some failure =>
      refine Deed.forall_moments_cons.2 ⟨hs, Deed.forall_moments_nil.2 ?_⟩
      exact Session.terse_recordFailure h _

/-- In front of the right side of a connective the messages are left alone or cleared. -/
theorem Connective.moments_deeds (k : Connective) {s : Session σ} (h : s.Terse) :
    ∀ t ∈ Deed.moments k.deeds s, t.Terse := by
  cases k with
  | and => exact Deed.forall_moments_nil.2 h
  | or =>
    refine Deed.forall_moments_cons.2 ⟨h, Deed.forall_moments_nil.2 ?_⟩
    exact Session.terse_of_messages_eq_nil rfl

/-- Making good earlier failures leaves the messages alone. -/
theorem settlingDeeds_moments (command : Command) {s : Session σ} (h : s.Terse) :
    ∀ t ∈ Deed.moments (settlingDeeds command s) s, t.Terse := by
  rw [settlingDeeds]
  split
  · exact Deed.forall_moments_cons.2 ⟨h, Deed.forall_moments_nil.2 h⟩
  · exact Deed.forall_moments_nil.2 h

/-- **While a command runs there is never more than one message.** -/
theorem evaluate_moments (run : Runner σ) (command : Command) {s : Session σ}
    (h : s.status.Tells .ok) : ∀ t ∈ Deed.moments (command.deeds run s) s, t.Terse := by
  induction command generalizing s with
  | simple program args => exact simple_moments run program args (h.quiet (by simp))
  | join k left right ihl ihr =>
    have htells := evaluate_tells run left h
    have hend := ihl h _ (Deed.performAll_mem_moments _ _)
    rw [performAll_deeds] at hend
    rw [Command.deeds, Deed.forall_moments_append, performAll_deeds]
    refine ⟨ihl h, ?_⟩
    by_cases hk : k.proceeds (evaluate run left s).status = true
    · have hprepared : (k.prepare (evaluate run left s).status).Tells .ok :=
        Connective.prepare_tells htells (Connective.proceeds_eq htells.shows k ▸ hk)
      simp only [if_pos hk]
      rw [Deed.forall_moments_append, Connective.performAll_deeds]
      exact ⟨k.moments_deeds hend, @ihr ((evaluate run left s).mapStatus k.prepare) hprepared⟩
    · simp only [if_neg hk]
      exact Deed.forall_moments_nil.2 hend

/-- **While statements run there is never more than one message.** -/
theorem interpret_moments (run : Runner σ) (commands : List Command) {s : Session σ}
    (h : s.status.Tells .ok) :
    ∀ t ∈ Deed.moments (Command.deedsAll run commands s) s, t.Terse := by
  induction commands generalizing s with
  | nil => exact Deed.forall_moments_nil.2 h.terse
  | cons command commands ih =>
    have hcommand := evaluate_moments run command h
    have hend := hcommand _ (Deed.performAll_mem_moments _ _)
    rw [performAll_deeds] at hend
    have hsettling := settlingDeeds_moments command hend
    have hsettled := hsettling _ (Deed.performAll_mem_moments _ _)
    rw [performAll_settlingDeeds] at hsettled
    rw [Command.deedsAll, Deed.forall_moments_append, Deed.forall_moments_append,
      Deed.performAll_append, performAll_deeds, performAll_settlingDeeds]
    refine ⟨⟨hcommand, hsettling⟩, ?_⟩
    cases hexit : (settleStatement command (evaluate run command s)).status.exit with
    | some n =>
      simp only [← Status.isSome_exit, hexit, Option.isSome_some, if_true]
      exact Deed.forall_moments_nil.2 hsettled
    | none =>
      simp only [← Status.isSome_exit, hexit, Option.isSome_none, Bool.false_eq_true, if_false]
      have hcleared : ((settleStatement command (evaluate run command s)).mapStatus
          Status.clearTransient).status.Tells .ok :=
        Status.tells_clearTransient hexit
      exact Deed.forall_moments_cons.2 ⟨hsettled, ih hcleared⟩

/-! ## Statements -/

/-- **Diagnostics are complete and in step with execution.**  Statements of any shape run in a new
session that shows messages, plain or in red.  The log at the end is made of the calls that they
execute, in order: what the call shows of itself — for a program, that it was handed to the runner,
and what it wrote — and, if the call fails and only then, one line with the text of the error, from
which one lead `exec: ` has been dropped if there was one.

Seen as deeds, one after the other, clearing the status leaves the log as it is; at no moment does
the status hold more than one message; and at the end it holds none. -/
theorem interpret_diagnoses (run : Runner σ) (commands : List Command) (reporting : Reporting)
    (world : σ) :
    let start := Session.fresh reporting world
    let deeds := Command.deedsAll run commands start
    let told := fun before after : String =>
      (Command.attemptsAll run commands world).flatMap fun a => a.shown run ++
        (a.complaint? run).toList.map fun message =>
          Event.write .error (before ++ Status.withoutLead message ++ after)
    (reporting = .plain → (interpret run commands start).log = told "simp-shell: " "\n") ∧
      (reporting = .colored →
        (interpret run commands start).log =
          told "\x1b[38;5;9msimp-shell: " "\x1b[39m\n") ∧
      (∀ a : Attempt σ, (a.complaint? run).isSome = true ↔ a.outcome run = .fail) ∧
      (∀ message, Status.withoutLead ("exec: " ++ message) = message ∧
        (¬ "exec: ".toList <+: message.toList → Status.withoutLead message = message)) ∧
      Deed.performAll deeds start = interpret run commands start ∧
      (∀ before after, deeds = before ++ .clear :: after →
        (Deed.performAll (before ++ [.clear]) start).log = (Deed.performAll before start).log) ∧
      (∀ s ∈ Deed.moments deeds start, s.status.messages.length ≤ 1) ∧
      (interpret run commands start).status.messages = [] := by
  intro start deeds told
  have hstart : start.status.Tells .ok := Status.tells_fresh reporting
  have hlog : ∀ before after,
      (∀ message, reporting.diagnostic message = some (before ++ message ++ after)) →
      (interpret run commands start).log = told before after := fun before after hline => by
    simp only [told, ← Attempt.account_eq hline]
    exact log_interpret_eq run commands hstart
  refine ⟨?_, ?_, Attempt.isSome_complaint?_iff run,
    fun message => ⟨Status.withoutLead_append message, Status.withoutLead_of_not_prefix⟩,
    performAll_deedsAll run commands start, fun before after _ => ?_,
    interpret_moments run commands hstart, ?_⟩
  · rintro rfl
    exact hlog _ _ fun message => rfl
  · rintro rfl
    exact hlog _ _ fun message => rfl
  · rw [Deed.performAll_append]
    rfl
  · exact (interpret_tells run commands hstart).quiet (Outcome.verdict_ne_fail _)

/-- In `(a && b) || exit x; c` both `a` and `exit x` fail, and each of them is told about once, in
either way of showing messages. -/
theorem interpret_diagnoses_twice :
    ∃ commands, commands =
        [.join .or (.join .and (.simple "a" []) (.simple "b" [])) (.simple "exit" ["x"]),
          .simple "c" []] ∧
      (interpret failsFirst commands (Session.fresh .plain 0)).log =
        [.call "a" [], .write .error "simp-shell: exit status 1\n",
          .write .error ("simp-shell: exit: Error parsing positional argument 'status' with " ++
            "value 'x': invalid digit found in string\n"),
          .call "c" []] ∧
      (interpret failsFirst commands (Session.fresh .colored 0)).log =
        [.call "a" [], .write .error "\x1b[38;5;9msimp-shell: exit status 1\x1b[39m\n",
          .write .error ("\x1b[38;5;9msimp-shell: exit: Error parsing positional argument " ++
            "'status' with value 'x': invalid digit found in string\x1b[39m\n"),
          .call "c" []] ∧
      (interpret failsFirst commands (Session.fresh .colored 0)).status.messages = [] := by
  refine ⟨_, rfl, ?_, ?_, ?_⟩
  · obtain ⟨hplain, -⟩ := interpret_diagnoses failsFirst _ .plain 0
    rw [hplain rfl]
    decide +kernel
  · obtain ⟨-, hcolored, -⟩ := interpret_diagnoses failsFirst _ .colored 0
    rw [hcolored rfl]
    decide +kernel
  · obtain ⟨-, -, -, -, -, -, -, hend⟩ := interpret_diagnoses failsFirst _ .colored 0
    exact hend

end LineShell
