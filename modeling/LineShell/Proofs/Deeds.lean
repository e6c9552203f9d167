import LineShell.Proofs.LineStatus

/-!
# The deeds of the evaluator

The evaluator is a recursion over trees and lists of them.  What it does to a session is a sequence
of *deeds*, each of which changes the session once: a program runs, a failure is recorded, the
status is cleared, and so on.

* `Deed` — the deeds, with `Deed.perform` for what each of them does and `Deed.events` for what it
  adds to the log.
* `Command.deeds` and `Command.deedsAll` — the deeds of a command and of statements, in order.
  `performAll_deeds` and `performAll_deedsAll` say that these are what the evaluator does, from any
  session.
* `Deed.moments` — the sessions that deeds lead through.  A statement about all of them is one about
  every moment of an evaluation, and not only about its end.

A deed never takes anything out of the log, which is `Deed.log_performAll`.
-/

set_option autoImplicit false
namespace LineShell

variable {σ : Type}

/-- Something that the evaluator does to a session. -/
inductive Deed (σ : Type) where
  /-- A program runs, with this result, and leaves the runner in this state. -/
  | call (program : String) (args : List String) (execution : Execution) (world : σ)
  /-- The help text of `exit` is written. -/
  | help
  /-- A failure is recorded, and its message is shown. -/
  | fail (message : String)
  /-- A request to leave is noted. -/
  | leave (n : Int)
  /-- What lasts for one statement only is cleared. -/
  | clear
  /-- The failures so far are made good. -/
  | forgive

namespace Deed

/-- What a deed does to a session. -/
def perform : Deed σ → Session σ → Session σ
  | .call program args execution world, s =>
    { s with world := world }.emit (.call program args :: execution.events)
  | .help, s => s.emit [.write .output Exit.help]
  | .fail message, s => s.recordFailure message
  | .leave n, s => s.mapStatus (·.requestExit n)
  | .clear, s => s.mapStatus Status.clearTransient
  | .forgive, s => s.mapStatus Status.forgive

/-- What deeds do to a session, one after the other. -/
def performAll (ds : List (Deed σ)) (s : Session σ) : Session σ :=
  ds.foldl (fun s d => d.perform s) s

/-- The sessions that deeds lead through, from the first to the last. -/
def moments : List (Deed σ) → Session σ → List (Session σ)
  | [], s => [s]
  | d :: ds, s => s :: moments ds (d.perform s)

/-- What a deed adds to the log. -/
def events (reporting : Reporting) : Deed σ → List Event
  | .call program args execution _ => .call program args :: execution.events
  | .help => [.write .output Exit.help]
  | .fail message =>
    (reporting.diagnostic (Status.withoutLead message)).toList.map (.write .error)
  | .leave _ | .clear | .forgive => []

/-! ## Deeds one after the other -/

@[simp]
theorem performAll_nil (s : Session σ) : performAll [] s = s := rfl

@[simp]
theorem performAll_cons (d : Deed σ) (ds : List (Deed σ)) (s : Session σ) :
    performAll (d :: ds) s = performAll ds (d.perform s) :=
  rfl

theorem performAll_append (ds es : List (Deed σ)) (s : Session σ) :
    performAll (ds ++ es) s = performAll es (performAll ds s) :=
  List.foldl_append

theorem forall_moments_nil {p : Session σ → Prop} {s : Session σ} :
    (∀ t ∈ moments [] s, p t) ↔ p s :=
  List.forall_mem_singleton

theorem forall_moments_cons {p : Session σ → Prop} {d : Deed σ} {ds : List (Deed σ)}
    {s : Session σ} :
    (∀ t ∈ moments (d :: ds) s, p t) ↔ p s ∧ ∀ t ∈ moments ds (d.perform s), p t :=
  List.forall_mem_cons

/-- Deeds start in one of their moments. -/
theorem mem_moments (ds : List (Deed σ)) (s : Session σ) : s ∈ moments ds s := by
  cases ds with
  | nil => exact List.mem_singleton.2 rfl
  | cons d ds => exact List.mem_cons_self

/-- They also end in one. -/
theorem performAll_mem_moments (ds : List (Deed σ)) (s : Session σ) :
    performAll ds s ∈ moments ds s := by
  induction ds generalizing s with
  | nil => exact List.mem_singleton.2 rfl
  | cons d ds ih => exact List.mem_cons_of_mem _ (ih _)

theorem forall_moments_append {p : Session σ → Prop} {ds es : List (Deed σ)} {s : Session σ} :
    (∀ t ∈ moments (ds ++ es) s, p t) ↔
      (∀ t ∈ moments ds s, p t) ∧ ∀ t ∈ moments es (performAll ds s), p t := by
  induction ds generalizing s with
  | nil =>
    rw [List.nil_append, performAll_nil, forall_moments_nil]
    exact ⟨fun h => ⟨h s (mem_moments es s), h⟩, fun h => h.2⟩
  | cons d ds ih =>
    rw [List.cons_append, forall_moments_cons, forall_moments_cons, performAll_cons, ih,
      and_assoc]

/-! ## Deeds and the log -/

theorem reporting_perform (d : Deed σ) (s : Session σ) :
    (d.perform s).status.reporting = s.status.reporting := by
  cases d <;> rfl

theorem log_perform (d : Deed σ) (s : Session σ) :
    (d.perform s).log = s.log ++ d.events s.status.reporting := by
  cases d with
  | call program args execution world => rfl
  | help => rfl
  | fail message => rfl
  | leave n => exact (List.append_nil _).symm
  | clear => exact (List.append_nil _).symm
  | forgive => exact (List.append_nil _).symm

/-- **Deeds only add to the log.** -/
theorem log_performAll (ds : List (Deed σ)) (s : Session σ) :
    (performAll ds s).log = s.log ++ ds.flatMap (events s.status.reporting) := by
  induction ds generalizing s with
  | nil => exact (List.append_nil _).symm
  | cons d ds ih =>
    rw [performAll_cons, ih, reporting_perform, log_perform, List.flatMap_cons,
      List.append_assoc]

end Deed

/-! ## The deeds of commands -/

/-- The deed of `exit`. -/
def Exit.deeds (args : List String) : List (Deed σ) :=
  match Exit.read args with
  | .ok .help => [.help]
  | .ok (.run status) => [.leave (status.getD 0)]
  | .error e => [.fail (Exit.complaint e)]

/-- The deeds of a program: it runs, and its failure is recorded, if it fails. -/
def Session.callDeeds (run : Runner σ) (program : String) (args : List String) (s : Session σ) :
    List (Deed σ) :=
  let outcome := run s.world program args
  .call program args outcome.1 outcome.2 ::
    (outcome.1.failure.map fun failure => .fail failure.message).toList

/-- What happens in front of the right side of a connective. -/
def Connective.deeds : Connective → List (Deed σ)
  | .and => []
  | .or => [.clear]

/-- What happens behind a statement. -/
def settlingDeeds (command : Command) (s : Session σ) : List (Deed σ) :=
  if command.isAlternative && !s.status.failed then [.forgive] else []

namespace Command

/-- The deeds of a command, in order. -/
def deeds (run : Runner σ) : Command → Session σ → List (Deed σ)
  | .simple program args, s =>
    if program = Exit.name then Exit.deeds args else s.callDeeds run program args
  | .join k left right, s =>
    let s' := evaluate run left s
    left.deeds run s ++
      if k.proceeds s'.status then k.deeds ++ right.deeds run (s'.mapStatus k.prepare) else []

/-- The deeds of statements, in order. -/
def deedsAll (run : Runner σ) : List Command → Session σ → List (Deed σ)
  | [], _ => []
  | command :: commands, s =>
    let s' := settleStatement command (evaluate run command s)
    command.deeds run s ++ settlingDeeds command (evaluate run command s) ++
      if s'.status.exiting then []
      else .clear :: deedsAll run commands (s'.mapStatus Status.clearTransient)

end Command

theorem Exit.performAll_deeds (args : List String) (s : Session σ) :
    Deed.performAll (Exit.deeds args) s = Exit.run args s := by
  rw [Exit.deeds, Exit.run]
  cases Exit.read args with
  | error e => rfl
  | ok request =>
    cases request with
    | help => rfl
    | run status => rfl

theorem Session.performAll_callDeeds (run : Runner σ) (program : String) (args : List String)
    (s : Session σ) :
    Deed.performAll (s.callDeeds run program args) s = s.call run program args := by
  rw [Session.callDeeds, Session.call]
  cases (run s.world program args).1.failure with
  | none => rfl
  | some failure => rfl

theorem Connective.performAll_deeds (k : Connective) (s : Session σ) :
    Deed.performAll k.deeds s = s.mapStatus k.prepare := by
  cases k with
  | and => rfl
  | or => rfl

theorem performAll_settlingDeeds (command : Command) (s : Session σ) :
    Deed.performAll (settlingDeeds command s) s = settleStatement command s := by
  rw [settlingDeeds, settleStatement]
  split <;> rfl

/-- **The evaluator does the deeds of a command.** -/
theorem performAll_deeds (run : Runner σ) (command : Command) (s : Session σ) :
    Deed.performAll (command.deeds run s) s = evaluate run command s := by
  induction command generalizing s with
  | simple program args =>
    rw [Command.deeds, evaluate, evaluateSimple]
    split
    · exact Exit.performAll_deeds args s
    · exact s.performAll_callDeeds run program args
  | join k left right ihl ihr =>
    rw [Command.deeds, evaluate, Deed.performAll_append, ihl]
    by_cases hk : k.proceeds (evaluate run left s).status = true
    · simp only [if_pos hk]
      rw [Deed.performAll_append, Connective.performAll_deeds, ihr]
    · simp only [if_neg hk]
      exact Deed.performAll_nil _

/-- **Statements run as their deeds, one after the other.** -/
theorem performAll_deedsAll (run : Runner σ) (commands : List Command) (s : Session σ) :
    Deed.performAll (Command.deedsAll run commands s) s = interpret run commands s := by
  induction commands generalizing s with
  | nil => rfl
  | cons command commands ih =>
    rw [Command.deedsAll, interpret, Deed.performAll_append, Deed.performAll_append,
      performAll_deeds, performAll_settlingDeeds]
    split
    · rfl
    · exact ih _

end LineShell
