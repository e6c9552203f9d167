import LineShell.Evaluate

/-!
# Short-circuit evaluation

The evaluator works on a status that is set, looked at and cleared in several places.  What it
comes to is simple.  Every command has an *outcome*: it succeeds, it fails, or it asks to leave.
`a && b` has the outcome of `a` unless `a` succeeds, and `a || b` has it unless `a` fails; in the
one case left the outcome is that of `b`.

* `Command.course` and `Command.courseAll` say this as a definition, with the calls made and the
  state of the runner carried along and no status at all.
* `Status.Shows` is the link: the flags with which each outcome leaves the status.
* `Follows` says that a session has gone along with a course, and each part of the evaluator is
  shown to do so: `Session.call` and `Exit.run`, then a command by induction on its tree, then a
  list of statements.

The main statement is `interpret_refines`.
-/

set_option autoImplicit false
namespace LineShell

variable {σ : Type}

/-! ## Outcomes -/

/-- What a command comes to. -/
inductive Outcome where
  /-- It succeeds. -/
  | ok
  /-- It fails. -/
  | fail
  /-- It asks to leave with an exit status. -/
  | exit (n : Int)
  deriving DecidableEq, Repr

namespace Outcome

/-- Is the outcome anything but success? -/
def isError : Outcome → Bool
  | .ok => false
  | _ => true

/-- The exit status asked for, if the command asks to leave. -/
def exit? : Outcome → Option Int
  | .exit n => some n
  | _ => none

theorem isError_of_exit {o : Outcome} (h : o.exit?.isSome = true) : o.isError = true := by
  cases o with
  | exit n => rfl
  | _ => simp [exit?] at h

theorem eq_exit_iff (o : Outcome) (n : Int) : o = .exit n ↔ o.exit? = some n := by
  cases o <;> simp [exit?]

end Outcome

/-- What `exit` comes to with its arguments. -/
def Exit.outcome (args : List String) : Outcome :=
  match Exit.read args with
  | .ok .help => .ok
  | .ok (.run status) => .exit (status.getD 0)
  | .error _ => .fail

/-- What a program comes to. -/
def Execution.outcome (e : Execution) : Outcome :=
  match e.failure with
  | none => .ok
  | some _ => .fail

/-- Does the right side of a connective decide, given the outcome of the left side? -/
def Connective.goesOn : Connective → Outcome → Bool
  | .and, .ok => true
  | .or, .fail => true
  | _, _ => false

/-! ## Courses -/

/-- What happens when commands run: what they come to, the state in which they leave the runner and
the calls they make of it, each as the program followed by its arguments. -/
structure Course (σ α : Type) where
  /-- What it comes to. -/
  result : α
  /-- The state of the runner at the end. -/
  world : σ
  /-- The calls, in order. -/
  calls : List (List String)

namespace Command

/-- The course of a command. -/
def course (run : Runner σ) : Command → σ → Course σ Outcome
  | .simple program args, world =>
    if program = Exit.name then ⟨Exit.outcome args, world, []⟩
    else
      let answer := run world program args
      ⟨answer.1.outcome, answer.2, [program :: args]⟩
  | .join k left right, world =>
    let first := left.course run world
    if k.goesOn first.result then
      let second := right.course run first.world
      ⟨second.result, second.world, first.calls ++ second.calls⟩
    else first

/-- The course of statements, one after the other, up to the first that asks to leave. -/
def courseAll (run : Runner σ) : List Command → σ → Course σ (List Outcome)
  | [], world => ⟨[], world, []⟩
  | command :: commands, world =>
    let first := command.course run world
    if first.result.exit?.isSome then ⟨[first.result], first.world, first.calls⟩
    else
      let rest := courseAll run commands first.world
      ⟨first.result :: rest.result, rest.world, first.calls ++ rest.calls⟩

end Command

/-! ## The status after an outcome -/

/-- The status shows an outcome. -/
structure Status.Shows (s : Status) (o : Outcome) : Prop where
  /-- There is an error unless the outcome is success. -/
  failed : s.failed = o.isError
  /-- There is a request to leave if that is the outcome. -/
  exit : s.exit = o.exit?

/-- A status asks to leave exactly if the outcome that it shows does. -/
theorem Status.Shows.exiting {s : Status} {o : Outcome} (h : s.Shows o) :
    s.exiting = o.exit?.isSome := by
  rw [← Status.isSome_exit, h.exit]

/-- A connective goes on from a status exactly if it goes on from the outcome shown. -/
theorem Connective.proceeds_eq {s : Status} {o : Outcome} (h : s.Shows o) (k : Connective) :
    k.proceeds s = k.goesOn o := by
  cases k with
  | and =>
    rw [proceeds, h.failed]
    cases o <;> rfl
  | or =>
    rw [proceeds, h.failed, h.exiting]
    cases o <;> rfl

/-- The right side of a connective starts with a clean status. -/
theorem Connective.prepare_shows {s : Status} {o : Outcome} (h : s.Shows o) {k : Connective}
    (hk : k.goesOn o = true) : (k.prepare s).Shows .ok := by
  cases k with
  | and =>
    cases o with
    | ok => exact h
    | _ => simp [goesOn] at hk
  | or =>
    cases o with
    | fail => exact ⟨rfl, h.exit⟩
    | _ => simp [goesOn] at hk

/-! ## Going along with a course -/

/-- A session has gone from `s` to `s'` along a course. -/
structure Follows (s s' : Session σ) (c : Course σ Outcome) : Prop where
  /-- The status shows the outcome. -/
  shows : s'.status.Shows c.result
  /-- The runner is in the same state. -/
  world : s'.world = c.world
  /-- The log has grown by the calls of the course, whatever else was written. -/
  calls : Event.calls s'.log = Event.calls s.log ++ c.calls

/-- Text written is no call. -/
theorem Event.calls_map_write (stream : Stream) (texts : List String) :
    Event.calls (texts.map (.write stream)) = [] := by
  simp [Event.calls, List.filterMap_map]

theorem Session.calls_recordFailure (s : Session σ) (message : String) :
    Event.calls (s.recordFailure message).log = Event.calls s.log := by
  rw [Session.recordFailure, Session.record_log, Event.calls_append, Event.calls_map_write,
    List.append_nil, Session.mapStatus_log]

/-- A failure is recorded without a request to leave. -/
theorem Session.recordFailure_shows {s : Session σ} (h : s.status.exit = none) (message : String) :
    (s.recordFailure message).status.Shows .fail :=
  ⟨rfl, h⟩

/-- The command `exit`. -/
theorem Exit.run_follows (args : List String) {s : Session σ} (h : s.status.Shows .ok) :
    Follows s (Exit.run args s) ⟨Exit.outcome args, s.world, []⟩ := by
  rw [Exit.run, Exit.outcome]
  cases Exit.read args with
  | error e =>
    refine ⟨Session.recordFailure_shows h.exit _, rfl, ?_⟩
    rw [Session.calls_recordFailure, List.append_nil]
  | ok request =>
    cases request with
    | help => exact ⟨h, rfl, Event.calls_append _ _⟩
    | run status => exact ⟨⟨rfl, rfl⟩, rfl, (List.append_nil _).symm⟩

/-- A program handed to the runner. -/
theorem Session.call_follows (run : Runner σ) (program : String) (args : List String)
    {s : Session σ} (h : s.status.Shows .ok) :
    Follows s (s.call run program args)
      ⟨(run s.world program args).1.outcome, (run s.world program args).2, [program :: args]⟩ := by
  have hcalls : Event.calls (s.log ++
      (.call program args :: (run s.world program args).1.events)) =
        Event.calls s.log ++ [program :: args] := by
    rw [Event.calls_append, ← List.singleton_append, Event.calls_append, Event.calls_events]
    rfl
  rw [Session.call, Execution.outcome]
  cases (run s.world program args).1.failure with
  | none => exact ⟨h, rfl, hcalls⟩
  | some failure =>
    refine ⟨Session.recordFailure_shows h.exit _, rfl, ?_⟩
    rw [Session.calls_recordFailure]
    exact hcalls

/-- **A command goes along with its course**, if it starts with a clean status. -/
theorem evaluate_follows (run : Runner σ) (command : Command) {s : Session σ}
    (h : s.status.Shows .ok) :
    Follows s (evaluate run command s) (command.course run s.world) := by
  induction command generalizing s with
  | simple program args =>
    rw [evaluate, evaluateSimple, Command.course]
    split
    · exact Exit.run_follows args h
    · exact Session.call_follows run program args h
  | join k left right ihl ihr =>
    have hleft := ihl h
    rw [evaluate, Command.course]
    simp only [Connective.proceeds_eq hleft.shows k]
    split
    · rename_i hk
      -- the right side starts where the left side ended, but for the status
      have hright := @ihr ((evaluate run left s).mapStatus k.prepare)
        (Connective.prepare_shows hleft.shows hk)
      rw [Session.mapStatus_world, hleft.world] at hright
      refine ⟨hright.shows, hright.world, ?_⟩
      rw [hright.calls, Session.mapStatus_log, hleft.calls, List.append_assoc]
    · exact hleft

/-- Making good earlier failures changes neither the outcome nor anything outside the status. -/
theorem Follows.settleStatement {s s' : Session σ} {c : Course σ Outcome} (h : Follows s s' c)
    (command : Command) : Follows s (settleStatement command s') c := by
  rw [LineShell.settleStatement]
  split
  · exact ⟨⟨h.shows.failed, h.shows.exit⟩, h.world, h.calls⟩
  · exact h

/-! ## Statements -/

/-- **Evaluation refines the short-circuit semantics.**  From a status without an error and without
a request to leave, statements of any shape make exactly the calls of their course and leave the
runner in the same state.  At the end the status holds a request to leave with exit status `n`
exactly if some statement of the course came to that, and there is an error exactly if there is
a request to leave. -/
theorem interpret_refines (run : Runner σ) (commands : List Command) {s : Session σ}
    (hfailed : s.status.failed = false) (hexit : s.status.exit = none) :
    Event.calls (interpret run commands s).log =
        Event.calls s.log ++ (Command.courseAll run commands s.world).calls ∧
      (interpret run commands s).world = (Command.courseAll run commands s.world).world ∧
      (∀ n, (interpret run commands s).status.exit = some n ↔
        .exit n ∈ (Command.courseAll run commands s.world).result) ∧
      (interpret run commands s).status.failed = (interpret run commands s).status.exiting := by
  induction commands generalizing s with
  | nil =>
    rw [interpret, Command.courseAll]
    refine ⟨(List.append_nil _).symm, rfl, fun n => ?_, ?_⟩
    · rw [hexit]
      simp
    · rw [hfailed, Status.exit_eq_none_iff.1 hexit]
  | cons command commands ih =>
    have hfirst := (evaluate_follows run command ⟨hfailed, hexit⟩).settleStatement command
    have hexiting : (settleStatement command (evaluate run command s)).status.exiting =
        (command.course run s.world).result.exit?.isSome :=
      hfirst.shows.exiting
    rw [interpret, Command.courseAll]
    simp only [hexiting]
    split
    · rename_i hleaves
      refine ⟨hfirst.calls, hfirst.world, fun n => ?_, ?_⟩
      · rw [hfirst.shows.exit, List.mem_singleton, eq_comm (a := Outcome.exit n),
          Outcome.eq_exit_iff]
      · rw [hexiting, hleaves, hfirst.shows.failed]
        exact Outcome.isError_of_exit hleaves
    · rename_i hstays
      have hnone : (command.course run s.world).result.exit? = none := by simpa using hstays
      obtain ⟨hcalls, hworld, hexits, hend⟩ :=
        @ih ((settleStatement command (evaluate run command s)).mapStatus Status.clearTransient)
          rfl (hfirst.shows.exit.trans hnone)
      rw [Session.mapStatus_world, hfirst.world] at hcalls hworld hexits
      refine ⟨?_, hworld, fun n => ?_, hend⟩
      · rw [hcalls, Session.mapStatus_log, hfirst.calls, List.append_assoc]
      · rw [hexits, List.mem_cons, eq_comm (a := Outcome.exit n), Outcome.eq_exit_iff, hnone]
        simp

/-- A runner that counts its calls and fails the first one. -/
def failsFirst : Runner Nat := fun n _ _ =>
  (⟨[], if n = 0 then some (.exitStatus 1) else none⟩, n + 1)

/-- In `(a && b) || c; exit 3 || d; e` the failure of `a` leads to `c`, and `exit` ends the rest. -/
theorem interpret_refines_failsFirst :
    (Session.fresh .plain 0).status.failed = false ∧ (Session.fresh .plain 0).status.exit = none ∧
      Event.calls (interpret failsFirst
          [.join .or (.join .and (.simple "a" []) (.simple "b" [])) (.simple "c" []),
            .join .or (.simple "exit" ["3"]) (.simple "d" []), .simple "e" []]
          (Session.fresh .plain 0)).log = [["a"], ["c"]] ∧
      (interpret failsFirst
          [.join .or (.join .and (.simple "a" []) (.simple "b" [])) (.simple "c" []),
            .join .or (.simple "exit" ["3"]) (.simple "d" []), .simple "e" []]
          (Session.fresh .plain 0)).status.exit = some 3 := by
  obtain ⟨hcalls, -, hexits, -⟩ := interpret_refines failsFirst
    [.join .or (.join .and (.simple "a" []) (.simple "b" [])) (.simple "c" []),
      .join .or (.simple "exit" ["3"]) (.simple "d" []), .simple "e" []]
    (s := Session.fresh .plain 0) rfl rfl
  refine ⟨rfl, rfl, ?_, (hexits 3).2 (by decide)⟩
  rw [hcalls]
  decide

end LineShell
