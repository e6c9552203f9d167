import LineShell.Proofs.LineStatus
import LineShell.Proofs.ReadingOrder
import Mathlib.Order.Bounds.Defs

/-!
# What of a line is executed

The evaluator walks through trees and looks at flags.  Seen from outside it is simpler: it executes
the calls of a statement from left to right, and at some point it stops.  It stops behind a call
that asks to leave, behind one that fails in front of `&&`, behind one that succeeds in front of
`||`, and behind the last one.  Nothing behind that point is executed, also if a later connective
would go on from what happened before it.

This is so because statements are chains.  In a tree with a join on the left, `(a && b) || c`, the
failure of `a` leads past `b` to `c`.

* `OverAt` — where the calls of a statement stop, and `Executes`, the calls up to there.
* `ExecutesAll` — the same for statements one after the other, up to the first that asks to leave.
* `Call.courseAll` and `Call.trace` — what calls come to and what they leave in the log if they run
  one after the other.

The main statement is `Shell.runLine_executes`.
-/

set_option autoImplicit false
namespace LineShell

variable {σ : Type}

/-! ## Calls one after the other -/

namespace Call

/-- The course of calls that run one after the other, whatever they come to. -/
def courseAll (run : Runner σ) : List Call → σ → Course σ (List Outcome)
  | [], world => ⟨[], world, []⟩
  | c :: cs, world =>
    let first := c.toCommand.course run world
    let rest := courseAll run cs first.world
    ⟨first.result :: rest.result, rest.world, first.calls ++ rest.calls⟩

/-- What a call leaves in the log of a session of its own. -/
def events (run : Runner σ) (reporting : Reporting) (c : Call) (world : σ) : List Event :=
  (evaluate run c.toCommand (Session.fresh reporting world)).log

/-- What calls leave in the log if they run one after the other. -/
def trace (run : Runner σ) (reporting : Reporting) : List Call → σ → List Event
  | [], _ => []
  | c :: cs, world =>
    c.events run reporting world ++ trace run reporting cs (c.toCommand.course run world).world

theorem length_result_courseAll (run : Runner σ) (cs : List Call) (world : σ) :
    (courseAll run cs world).result.length = cs.length := by
  induction cs generalizing world with
  | nil => rfl
  | cons c cs ih => rw [courseAll, List.length_cons, List.length_cons, ih]

theorem courseAll_append (run : Runner σ) (cs ds : List Call) (world : σ) :
    courseAll run (cs ++ ds) world =
      ⟨(courseAll run cs world).result ++
          (courseAll run ds (courseAll run cs world).world).result,
        (courseAll run ds (courseAll run cs world).world).world,
        (courseAll run cs world).calls ++
          (courseAll run ds (courseAll run cs world).world).calls⟩ := by
  induction cs generalizing world with
  | nil => rfl
  | cons c cs ih =>
    rw [List.cons_append, courseAll, courseAll]
    simp only [ih, List.cons_append, List.append_assoc]

theorem trace_append (run : Runner σ) (reporting : Reporting) (cs ds : List Call) (world : σ) :
    trace run reporting (cs ++ ds) world =
      trace run reporting cs world ++
        trace run reporting ds (courseAll run cs world).world := by
  induction cs generalizing world with
  | nil => rfl
  | cons c cs ih => rw [List.cons_append, trace, trace, ih, List.append_assoc, courseAll]

/-- The calls made of the runner are in the log. -/
theorem calls_trace (run : Runner σ) (reporting : Reporting) (cs : List Call) (world : σ) :
    Event.calls (trace run reporting cs world) = (courseAll run cs world).calls := by
  induction cs generalizing world with
  | nil => rfl
  | cons c cs ih =>
    have hfollows := evaluate_follows run c.toCommand
      (s := Session.fresh reporting world) (Status.tells_fresh reporting).shows
    have hcalls : Event.calls (c.events run reporting world) =
        (c.toCommand.course run world).calls := hfollows.calls
    rw [trace, Event.calls_append, hcalls, ih, courseAll]

/-- In any session a call leaves in the log what it leaves there on its own: this depends only on
the way of reporting and on the state of the runner. -/
theorem log_evaluate (run : Runner σ) (c : Call) (s : Session σ) :
    (evaluate run c.toCommand s).log =
      s.log ++ c.events run s.status.reporting s.world := by
  rw [events, toCommand, evaluate, evaluate, evaluateSimple, evaluateSimple]
  split
  · rw [Exit.run, Exit.run]
    cases Exit.read c.args with
    | error e => rfl
    | ok request =>
      cases request with
      | help => rfl
      | run status => exact (List.append_nil _).symm
  · rw [Session.call, Session.call]
    simp only [Session.fresh]
    cases (run s.world c.program c.args).1.failure with
    | none => rfl
    | some failure => exact List.append_assoc _ _ _

end Call

/-! ## How a statement is executed -/

/-- The calls of a statement are over behind the one at position `i`, counted from 0: there is no
further call, or this one asks to leave, or the connective behind it does not go on from what it
came to. -/
def OverAt (connectives : List Connective) (outcomes : List Outcome) (i : Nat) : Prop :=
  i + 1 = outcomes.length ∨
    (∃ n, outcomes[i]? = some (.exit n)) ∨
    (connectives[i]? = some .and ∧ outcomes[i]? = some .fail) ∨
    (connectives[i]? = some .or ∧ outcomes[i]? = some .ok)

/-- A statement executes the calls `cs`: its first calls, up to the first position behind which
they are over. -/
def Executes (run : Runner σ) (command : Command) (world : σ) (cs : List Call) : Prop :=
  ∃ i, IsLeast {i | OverAt command.connectives (Call.courseAll run command.calls world).result i} i ∧
    cs = command.calls.take (i + 1)

/-- Statements execute the calls `css`, one list for each statement: they are executed in order,
and none behind the first in which a call asks to leave. -/
inductive ExecutesAll (run : Runner σ) : List Command → σ → List (List Call) → Prop
  | nil (world : σ) : ExecutesAll run [] world []
  | leave {command : Command} {commands : List Command} {world : σ} {cs : List Call}
      (h : Executes run command world cs)
      (hexit : ∃ n, .exit n ∈ (Call.courseAll run cs world).result) :
      ExecutesAll run (command :: commands) world [cs]
  | next {command : Command} {commands : List Command} {world : σ} {cs : List Call}
      {css : List (List Call)} (h : Executes run command world cs)
      (hstay : ∀ n, .exit n ∉ (Call.courseAll run cs world).result)
      (hrest : ExecutesAll run commands (Call.courseAll run cs world).world css) :
      ExecutesAll run (command :: commands) world (cs :: css)

/-! ## Chains -/

theorem overAt_zero_iff (k : Connective) (ks : List Connective) (o : Outcome) {os : List Outcome}
    (hos : os ≠ []) : OverAt (k :: ks) (o :: os) 0 ↔ k.goesOn o = false := by
  have hlen : ¬ 0 + 1 = (o :: os).length := by
    have := List.length_pos_iff.2 hos
    rw [List.length_cons]
    omega
  simp only [OverAt, hlen, false_or, List.getElem?_cons_zero, Option.some_inj]
  cases k <;> cases o <;> simp [Connective.goesOn]

theorem overAt_succ_iff (k : Connective) (ks : List Connective) (o : Outcome) (os : List Outcome)
    (i : Nat) : OverAt (k :: ks) (o :: os) (i + 1) ↔ OverAt ks os i := by
  simp only [OverAt, List.getElem?_cons_succ, List.length_cons, Nat.add_right_cancel_iff]

namespace Chain

/-- The position behind which a chain stops, found by running it. -/
def reach (run : Runner σ) : Chain → σ → Nat
  | .one _, _ => 0
  | .link c k rest, world =>
    let first := c.toCommand.course run world
    if k.goesOn first.result then rest.reach run first.world + 1 else 0

/-- The calls that a chain executes. -/
def executed (run : Runner σ) (chain : Chain) (world : σ) : List Call :=
  chain.toCommand.calls.take (chain.reach run world + 1)

theorem executed_one (run : Runner σ) (c : Call) (world : σ) : (one c).executed run world = [c] :=
  rfl

theorem executed_link_of_goesOn {run : Runner σ} {c : Call} {k : Connective} {world : σ}
    (hk : k.goesOn (c.toCommand.course run world).result = true) (rest : Chain) :
    (link c k rest).executed run world =
      c :: rest.executed run (c.toCommand.course run world).world := by
  rw [executed, reach, if_pos hk, calls_link, List.take_succ_cons]
  rfl

theorem executed_link_of_stops {run : Runner σ} {c : Call} {k : Connective} {world : σ}
    (hk : ¬ k.goesOn (c.toCommand.course run world).result = true) (rest : Chain) :
    (link c k rest).executed run world = [c] := by
  rw [executed, reach, if_neg hk, calls_link, List.take_succ_cons, List.take_zero]

/-- A chain stops at the first position behind which its calls are over. -/
theorem isLeast_reach (run : Runner σ) (chain : Chain) (world : σ) :
    IsLeast {i | OverAt chain.toCommand.connectives
      (Call.courseAll run chain.toCommand.calls world).result i} (chain.reach run world) := by
  induction chain generalizing world with
  | one c => exact ⟨.inl rfl, fun i _ => Nat.zero_le i⟩
  | link c k rest ih =>
    have hne : (Call.courseAll run rest.toCommand.calls
        (c.toCommand.course run world).world).result ≠ [] := by
      rw [← List.length_pos_iff, Call.length_result_courseAll, List.length_pos_iff]
      exact rest.toCommand.calls_ne_nil
    obtain ⟨hmem, hleast⟩ := ih (c.toCommand.course run world).world
    rw [calls_link, connectives_link, Call.courseAll, reach]
    split
    · rename_i hk
      refine ⟨(overAt_succ_iff _ _ _ _ _).2 hmem, fun i hi => ?_⟩
      cases i with
      | zero =>
        have hstops := (overAt_zero_iff k _ _ hne).1 hi
        rw [hk] at hstops
        exact absurd hstops (by simp)
      | succ i => exact Nat.succ_le_succ (hleast ((overAt_succ_iff _ _ _ _ _).1 hi))
    · rename_i hk
      exact ⟨(overAt_zero_iff k _ _ hne).2 (by simpa using hk), fun i _ => Nat.zero_le i⟩

theorem executes (run : Runner σ) (chain : Chain) (world : σ) :
    Executes run chain.toCommand world (chain.executed run world) :=
  ⟨chain.reach run world, chain.isLeast_reach run world, rfl⟩

/-- The course of a chain is that of the calls it executes.  Only the last of them can have asked
to leave. -/
theorem course_executed (run : Runner σ) (chain : Chain) (world : σ) :
    (Call.courseAll run (chain.executed run world) world).world =
        (chain.toCommand.course run world).world ∧
      (Call.courseAll run (chain.executed run world) world).result.findSome? Outcome.exit? =
        (chain.toCommand.course run world).result.exit? := by
  induction chain generalizing world with
  | one c =>
    rw [executed_one, Call.courseAll, Call.courseAll]
    exact ⟨rfl, List.findSome?_singleton⟩
  | link c k rest ih =>
    obtain ⟨hworld, hexit⟩ := ih (c.toCommand.course run world).world
    rw [toCommand, Command.course]
    split
    · rename_i hk
      have hstay : (c.toCommand.course run world).result.exit? = none := by
        cases k <;> cases hresult : (c.toCommand.course run world).result <;>
          simp [hresult, Connective.goesOn, Outcome.exit?] at hk ⊢
      rw [executed_link_of_goesOn hk, Call.courseAll]
      refine ⟨hworld, ?_⟩
      rw [List.findSome?_cons_of_isNone (by rw [hstay]; rfl)]
      exact hexit
    · rename_i hk
      rw [executed_link_of_stops hk, Call.courseAll, Call.courseAll]
      exact ⟨rfl, List.findSome?_singleton⟩

end Chain

/-! ## The log -/

/-- A chain leaves in the log what the calls that it executes leave there. -/
theorem Chain.log_evaluate (run : Runner σ) (chain : Chain) {s : Session σ}
    (h : s.status.Tells .ok) :
    (evaluate run chain.toCommand s).log =
      s.log ++ Call.trace run s.status.reporting (chain.executed run s.world) s.world := by
  induction chain generalizing s with
  | one c =>
    rw [toCommand, c.log_evaluate, executed_one, Call.trace, Call.trace, List.append_nil]
  | link c k rest ih =>
    have hfirst := evaluate_follows run c.toCommand h.shows
    rw [toCommand, evaluate]
    simp only [Connective.proceeds_eq hfirst.shows k]
    split
    · rename_i hk
      -- the rest of the chain runs in the world that the first call has left
      have hrest := @ih ((evaluate run c.toCommand s).mapStatus k.prepare)
        (Connective.prepare_tells (evaluate_tells run c.toCommand h) hk)
      have hreporting : (k.prepare (evaluate run c.toCommand s).status).reporting =
          s.status.reporting := by
        rw [← reporting_evaluate run c.toCommand s]
        cases k <;> rfl
      rw [Session.mapStatus_log, Session.mapStatus_world, Session.mapStatus_status, hreporting,
        hfirst.world, c.log_evaluate] at hrest
      rw [hrest, executed_link_of_goesOn hk, Call.trace, List.append_assoc]
    · rename_i hk
      rw [c.log_evaluate, executed_link_of_stops hk, Call.trace, Call.trace, List.append_nil]

/-! ## Statements -/

theorem findSome?_exit?_eq_none_iff (os : List Outcome) :
    os.findSome? Outcome.exit? = none ↔ ∀ n, .exit n ∉ os := by
  rw [List.findSome?_eq_none_iff]
  constructor
  · intro h n hn
    exact absurd (h _ hn) (by simp [Outcome.exit?])
  · intro h o ho
    cases o with
    | exit n => exact absurd ho (h n)
    | _ => rfl

theorem exit_mem_of_findSome? {os : List Outcome} {n : Int}
    (h : os.findSome? Outcome.exit? = some n) : .exit n ∈ os := by
  obtain ⟨o, ho, hexit⟩ := List.exists_of_findSome?_eq_some h
  rwa [← (o.eq_exit_iff n).2 hexit]

/-- A session has gone from `s` to `s'` by executing the calls `cs` and nothing else. -/
structure Performs (run : Runner σ) (s s' : Session σ) (cs : List Call) : Prop where
  /-- The runner is in the state in which the calls leave it. -/
  world : s'.world = (Call.courseAll run cs s.world).world
  /-- The log has grown by what the calls leave in it. -/
  log : s'.log = s.log ++ Call.trace run s.status.reporting cs s.world
  /-- There is a request to leave if one of the calls has left one. -/
  exit : s'.status.exit = (Call.courseAll run cs s.world).result.findSome? Outcome.exit?

/-- A statement performs the calls that its chain executes. -/
theorem Chain.performs (run : Runner σ) (chain : Chain) {s : Session σ} (h : s.status.Tells .ok) :
    Performs run s (settleStatement chain.toCommand (evaluate run chain.toCommand s))
      (chain.executed run s.world) := by
  have hfollows := evaluate_follows run chain.toCommand h.shows
  obtain ⟨hworld, hexit⟩ := chain.course_executed run s.world
  refine ⟨?_, ?_, ?_⟩
  · rw [settleStatement_world, hfollows.world, hworld]
  · rw [settleStatement_log, chain.log_evaluate run h]
  · rw [(hfollows.settleStatement chain.toCommand).shows.exit, hexit]

/-- **Statements perform the first calls of each of them.** -/
theorem interpret_performs (run : Runner σ) (chains : List Chain) {s : Session σ}
    (h : s.status.Tells .ok) :
    ∃ css, ExecutesAll run (chains.map Chain.toCommand) s.world css ∧
      Performs run s (interpret run (chains.map Chain.toCommand) s) css.flatten := by
  induction chains generalizing s with
  | nil => exact ⟨[], .nil s.world, rfl, (List.append_nil _).symm, h.shows.exit⟩
  | cons chain chains ih =>
    have hfirst := chain.performs run h
    have hexecutes := chain.executes run s.world
    rw [List.map_cons, interpret]
    cases hexit : (settleStatement chain.toCommand
        (evaluate run chain.toCommand s)).status.exit with
    | some n =>
      have hmem := exit_mem_of_findSome? (hfirst.exit.symm.trans hexit)
      refine ⟨[chain.executed run s.world], .leave hexecutes ⟨n, hmem⟩, ?_⟩
      simp only [← Status.isSome_exit, hexit, Option.isSome_some, if_true, List.flatten_singleton]
      exact hfirst
    | none =>
      have hstay : ∀ n, .exit n ∉
          (Call.courseAll run (chain.executed run s.world) s.world).result := by
        rw [← findSome?_exit?_eq_none_iff, ← hfirst.exit, hexit]
      obtain ⟨css, hcss, hrest⟩ := @ih ((settleStatement chain.toCommand
        (evaluate run chain.toCommand s)).mapStatus Status.clearTransient)
        (Status.tells_clearTransient hexit)
      have hreporting : (settleStatement chain.toCommand
          (evaluate run chain.toCommand s)).status.clearTransient.reporting =
            s.status.reporting :=
        (settleStatement_reporting _ _).trans (reporting_evaluate run _ s)
      obtain ⟨hworld, hlog, hleave⟩ := hrest
      rw [Session.mapStatus_world, hfirst.world] at hcss hworld hlog hleave
      rw [Session.mapStatus_log, Session.mapStatus_status, hreporting, hfirst.log] at hlog
      refine ⟨chain.executed run s.world :: css, .next hexecutes hstay hcss, ?_⟩
      simp only [← Status.isSome_exit, hexit, Option.isSome_none, Bool.false_eq_true, if_false,
        List.flatten_cons]
      refine ⟨?_, ?_, ?_⟩
      · rw [hworld, Call.courseAll_append]
      · rw [hlog, Call.trace_append, List.append_assoc]
      · rw [hleave, Call.courseAll_append, List.findSome?_append,
          (findSome?_exit?_eq_none_iff _).2 hstay, Option.none_or]

/-! ## Lines -/

/-- Prompts are no calls of the runner. -/
theorem ScanReport.calls_events (r : ScanReport) : Event.calls r.events = [] := by
  simp [Event.calls, ScanReport.events, List.filterMap_map]

/-- Nor are statements that are shown. -/
theorem Shell.calls_echo (sh : Shell σ) (commands : List Command) (s : Session σ) :
    Event.calls (sh.echo commands s).log = Event.calls s.log := by
  rw [Shell.echo]
  split
  · rw [Session.emit_log, Event.calls_append]
    exact List.append_nil _
  · rfl

/-- **What a line executes.**  A line that can be scanned runs in a session whose status has just
been reset.  Its statements, read from left to right, hold the calls of the line in their order,
and between them connectives of the line in their order.

Of each statement the line executes the calls up to the first position behind which they are over,
and of the statements none behind the first in which a call asks to leave.  Once the prompts and,
if the shell does so, the statements are shown, it does nothing else: the state of the runner, what
comes into the log, the calls made of the runner and the request to leave are those of the calls
executed, run one after the other. -/
theorem Shell.runLine_executes (sh : Shell σ) {line : String} {replies : List Reply}
    {tokens : List Token} (hscan : (scan line replies).result = .ok tokens) (s : Session σ) :
    (parse tokens).flatMap Command.calls = (Item.ofTokens tokens).filterMap Item.call? ∧
      ((parse tokens).flatMap Command.connectives).Sublist
        ((Item.ofTokens tokens).filterMap Item.connective?) ∧
      ∃ css, ExecutesAll sh.runner (parse tokens) s.world css ∧
        Performs sh.runner
          (sh.echo (parse tokens) ((s.mapStatus Status.reset).emit (scan line replies).events))
          (sh.runLine line replies (s.mapStatus Status.reset)).1 css.flatten ∧
        Event.calls (sh.runLine line replies (s.mapStatus Status.reset)).1.log =
          Event.calls s.log ++ (Call.courseAll sh.runner css.flatten s.world).calls := by
  refine ⟨calls_parse tokens, connectives_parse tokens, ?_⟩
  obtain ⟨css, hcss, hperforms⟩ := interpret_performs sh.runner (Chain.ofTokens tokens)
    (sh.tells_echo_reset (parse tokens) (scan line replies).events s)
  rw [← parse_eq_chains] at hcss hperforms
  rw [← sh.runLine_of_ok hscan] at hperforms
  rw [Shell.echo_world] at hcss
  refine ⟨css, hcss, hperforms, ?_⟩
  rw [hperforms.log, Event.calls_append, Call.calls_trace, Shell.calls_echo, Shell.echo_world,
    Session.emit_log, Event.calls_append, ScanReport.calls_events, List.append_nil]
  rfl

/-- In `a && b || c; exit 3 || d; e` the failure of `a` leads past all of its statement, also past
the right side of `||`, and `exit` leads past all the rest: `a` is the one call made. -/
theorem Shell.runLine_executes_failsFirst :
    ∃ tokens, (scan "a && b || c; exit 3 || d; e" []).result = .ok tokens ∧
      ∃ css, ExecutesAll failsFirst (parse tokens) 0 css ∧
        (Call.courseAll failsFirst css.flatten 0).calls = [["a"]] ∧
        (Call.courseAll failsFirst css.flatten 0).result.findSome? Outcome.exit? = some 3 := by
  have hscan : (scan "a && b || c; exit 3 || d; e" []).result =
      .ok [⟨.programName, "a"⟩, Token.connective .and, ⟨.programName, "b"⟩,
        Token.connective .or, ⟨.programName, "c"⟩, Token.semicolon, ⟨.programName, "exit"⟩,
        ⟨.argument, "3"⟩, Token.connective .or, ⟨.programName, "d"⟩, Token.semicolon,
        ⟨.programName, "e"⟩, Token.endOfInput] := rfl
  obtain ⟨-, -, css, hcss, hperforms, hcalls⟩ :=
    Shell.runLine_executes ⟨failsFirst, false⟩ hscan (Session.fresh .plain 0)
  have hmade : Event.calls ((Shell.mk failsFirst false).runLine "a && b || c; exit 3 || d; e" []
      ((Session.fresh .plain 0).mapStatus Status.reset)).1.log = [["a"]] := by decide +kernel
  have hleft : ((Shell.mk failsFirst false).runLine "a && b || c; exit 3 || d; e" []
      ((Session.fresh .plain 0).mapStatus Status.reset)).1.status.exit = some 3 := by
    decide +kernel
  have hexit := hperforms.exit
  have hnone : Event.calls (Session.fresh .plain 0).log = [] := rfl
  rw [hmade, hnone, List.nil_append] at hcalls
  rw [hleft, Shell.echo_world] at hexit
  exact ⟨_, hscan, css, hcss, hcalls.symm, hexit.symm⟩

end LineShell
