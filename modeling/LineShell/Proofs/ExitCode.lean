import LineShell.Proofs.Chain
import LineShell.Proofs.LineStatus
import Mathlib.Data.List.Basic

/-!
# The exit code of a line

A shell that runs a single line has to say at its end whether the line went well.  It does so by one
flag, which a failing call sets and a statement of the form `a || b` takes back if it ends without
an error.  So what counts is not how the last statement ended but whether some failure has not been
made good:

* a failure that `||` recovers from is remembered all the same, unless that `||` is the top of its
  statement: `a && (b || c)` leaves it;
* `a || b` as a whole statement, if it ends well, makes good whatever has failed up to there, also
  in the statements before it.

`Evaluation` is a statement with the state in which it finds the runner; what happens in it is read
off the short-circuit semantics, with no flags.  `Outstanding` says that some failure has not been
made good, and `interpret_commandFailed_iff` that the flag shows it.

The main statement is `Shell.exitCode_runLine`.
-/

set_option autoImplicit false
namespace LineShell

variable {σ : Type}

/-! ## What happens in a statement -/

/-- What the calls that a command executes come to, in order. -/
def Command.outcomes (run : Runner σ) : Command → σ → List Outcome
  | .simple program args, world => [((simple program args).course run world).result]
  | .join k left right, world =>
    let first := left.course run world
    left.outcomes run world ++
      if k.goesOn first.result then right.outcomes run first.world else []

/-- The run of a statement. -/
structure Evaluation (σ : Type) where
  /-- The statement. -/
  command : Command
  /-- The state in which it finds the runner. -/
  world : σ

/-- The statements that are run, up to the first that asks to leave. -/
def Command.evaluations (run : Runner σ) : List Command → σ → List (Evaluation σ)
  | [], _ => []
  | command :: commands, world =>
    let first := command.course run world
    ⟨command, world⟩ ::
      if first.result.exit?.isSome then [] else evaluations run commands first.world

namespace Evaluation

/-- Some call of the statement fails. -/
def Stumbles (run : Runner σ) (e : Evaluation σ) : Prop :=
  .fail ∈ e.command.outcomes run e.world

/-- Some call of the statement asks to leave with exit status `n`. -/
def Leaves (run : Runner σ) (e : Evaluation σ) (n : Int) : Prop :=
  .exit n ∈ e.command.outcomes run e.world

/-- The statement makes good what has failed: it is a pair joined by `||`, and ends without an
error. -/
def MakesGood (run : Runner σ) (e : Evaluation σ) : Prop :=
  e.command.isAlternative = true ∧ (e.command.course run e.world).result = .ok

end Evaluation

/-- In some statement a call fails, and neither this statement nor a later one makes it good. -/
def Outstanding (run : Runner σ) (es : List (Evaluation σ)) : Prop :=
  ∃ before e after, es = before ++ e :: after ∧ e.Stumbles run ∧
    ∀ e' ∈ e :: after, ¬ e'.MakesGood run

theorem not_outstanding_nil (run : Runner σ) : ¬ Outstanding run [] := by
  rintro ⟨before, e, after, h, -⟩
  exact absurd h.symm (List.append_ne_nil_of_right_ne_nil _ (List.cons_ne_nil _ _))

theorem outstanding_cons_iff {run : Runner σ} {e : Evaluation σ} {es : List (Evaluation σ)} :
    Outstanding run (e :: es) ↔
      (e.Stumbles run ∧ ∀ e' ∈ e :: es, ¬ e'.MakesGood run) ∨ Outstanding run es := by
  constructor
  · rintro ⟨_ | ⟨e₀, before⟩, e₁, after, h, hstumbles, hopen⟩
    · cases h
      exact .inl ⟨hstumbles, hopen⟩
    · cases h
      exact .inr ⟨before, e₁, after, rfl, hstumbles, hopen⟩
  · rintro (⟨hstumbles, hopen⟩ | ⟨before, e₁, after, rfl, hstumbles, hopen⟩)
    · exact ⟨[], e, es, rfl, hstumbles, hopen⟩
    · exact ⟨e :: before, e₁, after, rfl, hstumbles, hopen⟩

/-- **What makes good makes good everything before it.** -/
theorem outstanding_append_iff {run : Runner σ} {e : Evaluation σ} (h : e.MakesGood run)
    (before after : List (Evaluation σ)) :
    Outstanding run (before ++ e :: after) ↔ Outstanding run after := by
  induction before with
  | nil =>
    exact outstanding_cons_iff.trans (or_iff_right fun hopen => hopen.2 e List.mem_cons_self h)
  | cons e₀ before ih =>
    refine outstanding_cons_iff.trans ((or_iff_right fun hopen => hopen.2 e ?_ h).trans ih)
    exact List.mem_cons_of_mem _ List.mem_append_cons_self

/-! ## Requests to leave -/

/-- A connective goes on only where nobody has asked to leave. -/
theorem Connective.ne_exit_of_goesOn {k : Connective} {o : Outcome} (h : k.goesOn o = true)
    (n : Int) : o ≠ .exit n := by
  rintro rfl
  cases k <;> cases h

/-- A call that asks to leave is the end of its statement. -/
theorem Command.exit_mem_outcomes_iff (run : Runner σ) (command : Command) (world : σ) (n : Int) :
    .exit n ∈ command.outcomes run world ↔ (command.course run world).result = .exit n := by
  induction command generalizing world with
  | simple program args => rw [outcomes, List.mem_singleton, eq_comm]
  | join k left right ihl ihr =>
    rw [outcomes, course, List.mem_append, ihl]
    split
    · rename_i hk
      rw [ihr, or_iff_right (Connective.ne_exit_of_goesOn hk n)]
    · simp

/-- The exit status asked for is that of the statement in which a call asks to leave. -/
theorem Command.findSome?_courseAll_iff (run : Runner σ) (commands : List Command) (world : σ)
    (n : Int) : (courseAll run commands world).result.findSome? Outcome.exit? = some n ↔
      ∃ e ∈ evaluations run commands world, e.Leaves run n := by
  induction commands generalizing world with
  | nil => simp [courseAll, evaluations]
  | cons command commands ih =>
    have hfirst : Evaluation.Leaves run ⟨command, world⟩ n ↔
        (command.course run world).result.exit? = some n := by
      rw [Evaluation.Leaves, exit_mem_outcomes_iff, Outcome.eq_exit_iff]
    rw [courseAll, evaluations, List.exists_mem_cons_iff, hfirst]
    split
    · simp
    · rename_i hstays
      have hnone : (command.course run world).result.exit? = none := by simpa using hstays
      rw [List.findSome?_cons_of_isNone (by rw [hnone]; rfl), ih, hnone]
      simp

/-! ## The flag -/

/-- A command sets the flag exactly if one of its calls fails, and never takes it back. -/
theorem evaluate_commandFailed_iff (run : Runner σ) (command : Command) {s : Session σ}
    (h : s.status.Shows .ok) :
    (evaluate run command s).status.commandFailed = true ↔
      s.status.commandFailed = true ∨ .fail ∈ command.outcomes run s.world := by
  induction command generalizing s with
  | simple program args =>
    rw [evaluate, evaluateSimple, Command.outcomes, Command.course, List.mem_singleton]
    by_cases hprogram : program = Exit.name
    · rw [if_pos hprogram, if_pos hprogram, Exit.run, Exit.outcome]
      cases Exit.read args with
      | error e => simp [Session.recordFailure, Status.noteFailure, Status.record]
      | ok request => cases request <;> simp [Status.requestExit]
    · simp only [if_neg hprogram]
      rw [Session.call, Execution.outcome]
      cases (run s.world program args).1.failure with
      | none => simp
      | some failure => simp [Session.recordFailure, Status.noteFailure, Status.record]
  | join k left right ihl ihr =>
    have hleft := evaluate_follows run left h
    rw [evaluate, Command.outcomes, List.mem_append]
    simp only [Connective.proceeds_eq hleft.shows k]
    split
    · rename_i hk
      have hflag : (k.prepare (evaluate run left s).status).commandFailed =
          (evaluate run left s).status.commandFailed := by
        cases k <;> rfl
      have hright := @ihr ((evaluate run left s).mapStatus k.prepare)
        (Connective.prepare_shows hleft.shows hk)
      rw [Session.mapStatus_world, Session.mapStatus_status, hleft.world, hflag, ihl h] at hright
      rw [hright, or_assoc]
    · rw [ihl h]
      simp

/-- A statement as a whole takes the flag back exactly if it makes good what has failed. -/
theorem settleStatement_commandFailed_iff (run : Runner σ) (command : Command) {s : Session σ}
    (h : s.status.Shows .ok) :
    (settleStatement command (evaluate run command s)).status.commandFailed = true ↔
      (s.status.commandFailed = true ∨ Evaluation.Stumbles run ⟨command, s.world⟩) ∧
        ¬ Evaluation.MakesGood run ⟨command, s.world⟩ := by
  have hfollows := evaluate_follows run command h
  have hgood : (command.isAlternative && !(evaluate run command s).status.failed) = true ↔
      Evaluation.MakesGood run ⟨command, s.world⟩ := by
    rw [Evaluation.MakesGood, hfollows.shows.failed, Bool.and_eq_true]
    cases (command.course run s.world).result <;> simp [Outcome.isError]
  rw [settleStatement]
  split
  · rename_i hgoes
    exact iff_of_false Bool.false_ne_true fun hopen => hopen.2 (hgood.1 hgoes)
  · rename_i hgoes
    rw [evaluate_commandFailed_iff run command h]
    exact (and_iff_left fun hmakes => hgoes (hgood.2 hmakes)).symm

/-- **The flag shows whether something has failed and has not been made good.**  This may be from
before the statements. -/
theorem interpret_commandFailed_iff (run : Runner σ) (commands : List Command) {s : Session σ}
    (h : s.status.Shows .ok) :
    (interpret run commands s).status.commandFailed = true ↔
      (s.status.commandFailed = true ∧
          ∀ e ∈ Command.evaluations run commands s.world, ¬ e.MakesGood run) ∨
        Outstanding run (Command.evaluations run commands s.world) := by
  induction commands generalizing s with
  | nil =>
    rw [interpret, Command.evaluations]
    simp [not_outstanding_nil]
  | cons command commands ih =>
    have hfollows := (evaluate_follows run command h).settleStatement command
    have hflag := settleStatement_commandFailed_iff run command h
    have hexiting : (settleStatement command (evaluate run command s)).status.exiting =
        (command.course run s.world).result.exit?.isSome :=
      hfollows.shows.exiting
    rw [interpret, Command.evaluations, outstanding_cons_iff, List.forall_mem_cons]
    simp only [hexiting]
    split
    · rw [hflag]
      simp only [not_outstanding_nil, List.not_mem_nil, false_imp_iff, implies_true, and_true,
        or_false]
      exact or_and_right
    · rename_i hstays
      have hnone : (command.course run s.world).result.exit? = none := by simpa using hstays
      have hrest := @ih ((settleStatement command (evaluate run command s)).mapStatus
        Status.clearTransient) ⟨rfl, hfollows.shows.exit.trans hnone⟩
      rw [Session.mapStatus_world, hfollows.world, Session.mapStatus_status] at hrest
      have hkept : (settleStatement command
          (evaluate run command s)).status.clearTransient.commandFailed = true ↔ _ := hflag
      rw [hrest, hkept, or_and_right, or_and_right, and_assoc, and_assoc, or_assoc]

/-! ## Lines -/

/-- Without an error and a request to leave, the exit code shows the flag. -/
theorem Status.exitCode_of_staying {s : Status} (hexit : s.exit = none) (hfailed : s.failed = false)
    {p : Prop} (hflag : s.commandFailed = true ↔ p) :
    (p → s.exitCode = 1) ∧ (¬ p → s.exitCode = 0) := by
  rw [exitCode, exit_eq_none_iff.1 hexit, hfailed, Bool.false_or, ← hflag]
  exact ⟨fun h => if_pos h, fun h => if_neg h⟩

/-- **The exit code of a line.**  A line that can be scanned runs in a session that is new, or whose
status has just been reset.  The exit code behind it is

* `n`, if some call asks to leave with exit status `n`;
* otherwise 1, if in some statement a call fails and neither this statement nor a later one makes
  that good, as a pair joined by `||` does that ends without an error;
* and 0 otherwise. -/
theorem Shell.exitCode_runLine (sh : Shell σ) {line : String} {replies : List Reply}
    {tokens : List Token} (hscan : (scan line replies).result = .ok tokens) (s : Session σ) :
    let es := Command.evaluations sh.runner (parse tokens) s.world
    let code := (sh.runLine line replies (s.mapStatus Status.reset)).1.status.exitCode
    (∀ n, (∃ e ∈ es, e.Leaves sh.runner n) → code = n) ∧
      ((∀ e ∈ es, ∀ n, ¬ e.Leaves sh.runner n) →
        (Outstanding sh.runner es → code = 1) ∧ (¬ Outstanding sh.runner es → code = 0)) := by
  intro es code
  have hstart := sh.tells_echo_reset (parse tokens) (scan line replies).events s
  have htells := interpret_tells sh.runner (parse tokens) hstart
  have hflag := interpret_commandFailed_iff sh.runner (parse tokens) hstart.shows
  rw [← sh.runLine_of_ok hscan] at htells hflag
  rw [Shell.echo_world, Session.emit_world, Session.mapStatus_world] at htells hflag
  have hfresh : (sh.echo (parse tokens) ((s.mapStatus Status.reset).emit
      (scan line replies).events)).status.commandFailed = false := by
    rw [Shell.echo_status]
    rfl
  have hexit : ∀ n, (sh.runLine line replies (s.mapStatus Status.reset)).1.status.exit = some n ↔
      ∃ e ∈ es, e.Leaves sh.runner n := fun n => by
    rw [htells.shows.exit, Outcome.exit?_verdict, Command.findSome?_courseAll_iff]
  refine ⟨fun n hleaves => Status.exitCode_of_exit ((hexit n).2 hleaves), fun hstays => ?_⟩
  have hnone : (sh.runLine line replies (s.mapStatus Status.reset)).1.status.exit = none :=
    Option.eq_none_iff_forall_ne_some.2 fun n hn =>
      have ⟨e, he, hleaves⟩ := (hexit n).1 hn
      hstays e he n hleaves
  have hfailed : (sh.runLine line replies (s.mapStatus Status.reset)).1.status.failed = false := by
    rw [htells.shows.failed, Outcome.isError_of_ne_fail (Outcome.verdict_ne_fail _),
      ← htells.shows.exit, hnone]
    rfl
  refine Status.exitCode_of_staying hnone hfailed (hflag.trans (or_iff_right fun h => ?_))
  exact absurd (hfresh.symm.trans h.1) Bool.false_ne_true

/-- A runner that refuses one program. -/
def refuses (bad : String) : Runner Unit := fun _ program _ =>
  (⟨[], if program = bad then some (.exitStatus 1) else none⟩, ())

/-- The program `b` fails.  What `||` recovers from under `&&` is remembered; the same as a
statement of its own behind it makes that good, too. -/
theorem Shell.exitCode_runLine_nested :
    let sh := Shell.mk (refuses "b") false
    let start := Session.fresh .plain ()
    (∃ tokens, (scan "b || c; a && b || c" []).result = .ok tokens) ∧
      (sh.runLine "b || c; a && b || c" [] start).1.status.exitCode = 1 ∧
      (∃ tokens, (scan "a && b || c; b || c" []).result = .ok tokens) ∧
      (sh.runLine "a && b || c; b || c" [] start).1.status.exitCode = 0 := by
  intro sh start
  let recovery : Chain := .link ⟨"b", []⟩ .or (.one ⟨"c", []⟩)
  let nested : Chain := .link ⟨"a", []⟩ .and recovery
  have hscan : (scan "b || c; a && b || c" []).result =
      .ok (Chain.scriptTokens [recovery, nested] ++ [Token.endOfInput]) := rfl
  have hscan' : (scan "a && b || c; b || c" []).result =
      .ok (Chain.scriptTokens [nested, recovery] ++ [Token.endOfInput]) := rfl
  have hrecovery : recovery.toCommand.outcomes (refuses "b") () = [.fail, .ok] := by decide
  have hnested : nested.toCommand.outcomes (refuses "b") () = [.ok, .fail, .ok] := by decide
  have hstay : ∀ n, ¬ Evaluation.Leaves (refuses "b") ⟨recovery.toCommand, ()⟩ n ∧
      ¬ Evaluation.Leaves (refuses "b") ⟨nested.toCommand, ()⟩ n := by
    simp [Evaluation.Leaves, hrecovery, hnested]
  have hgood : Evaluation.MakesGood (refuses "b") ⟨recovery.toCommand, ()⟩ := ⟨rfl, by decide⟩
  have hopen : Outstanding (refuses "b") [⟨nested.toCommand, ()⟩] := by
    refine ⟨[], _, [], rfl, ?_, ?_⟩
    · simp [Evaluation.Stumbles, hnested]
    · simp [Evaluation.MakesGood, nested, Chain.toCommand, Command.isAlternative]
  have hcode := (Shell.exitCode_runLine sh hscan (Session.fresh .plain ())).2
  have hcode' := (Shell.exitCode_runLine sh hscan' (Session.fresh .plain ())).2
  refine ⟨⟨_, hscan⟩, (hcode ?_).1 ?_, ⟨_, hscan'⟩, (hcode' ?_).2 ?_⟩
  · exact List.forall_mem_cons.2 ⟨fun n => (hstay n).1,
      List.forall_mem_singleton.2 fun n => (hstay n).2⟩
  · exact (outstanding_append_iff hgood [] _).2 hopen
  · exact List.forall_mem_cons.2 ⟨fun n => (hstay n).2,
      List.forall_mem_singleton.2 fun n => (hstay n).1⟩
  · exact (outstanding_append_iff hgood [⟨nested.toCommand, ()⟩] []).not.2 (not_outstanding_nil _)

end LineShell
