import LineShell.Proofs.LineStatus

/-!
# Sessions that are not reset between lines

A line need not start with a clean status.  If nobody resets the session, the error of a line that
could not be scanned is still there when the next line starts, and so is its message, or a request
to leave that nobody has honoured.  This file is about what holds in such a session all the same:
the parts of the status fit together (`Status.Coherent`) after any lines and resets.

The main statement is `Shell.actAll_coherent`.
-/

set_option autoImplicit false
namespace LineShell

variable {σ : Type}

/-! ## Histories -/

/-- Something done with a shell. -/
inductive Action where
  /-- A line is run, with the replies that continue it. -/
  | line (text : String) (replies : List Reply)
  /-- The status is reset. -/
  | reset

namespace Shell

/-- What an action does to the session. -/
def act (sh : Shell σ) (s : Session σ) : Action → Session σ
  | .line text replies => (sh.runLine text replies s).1
  | .reset => s.mapStatus Status.reset

/-- Actions one after the other. -/
def actAll (sh : Shell σ) (actions : List Action) (s : Session σ) : Session σ :=
  actions.foldl sh.act s

theorem leadsTo_runLine (sh : Shell σ) (line : String) (replies : List Reply) (s : Session σ) :
    s.status.LeadsTo (sh.runLine line replies s).1.status := by
  cases hresult : (scan line replies).result with
  | error e =>
    rw [sh.runLine_of_error hresult]
    exact s.status.leadsTo_record e.message
  | ok tokens =>
    rw [sh.runLine_of_ok hresult]
    have hechoed := interpret_leadsTo sh.runner (parse tokens)
      (sh.echo (parse tokens) (s.emit (scan line replies).events))
    rwa [echo_status, Session.emit_status] at hechoed

theorem act_coherent (sh : Shell σ) {s : Session σ} (h : s.status.Coherent) (action : Action) :
    (sh.act s action).status.Coherent := by
  cases action with
  | line text replies => exact (sh.leadsTo_runLine text replies s).coherent h
  | reset => exact Status.coherent_fresh _

theorem act_exiting (sh : Shell σ) {s : Session σ} (h : s.status.exiting = true)
    {action : Action} (hreset : action ≠ .reset) : (sh.act s action).status.exiting = true := by
  cases action with
  | line text replies => exact (sh.leadsTo_runLine text replies s).exiting h
  | reset => exact absurd rfl hreset

theorem coherent_of_actAll (sh : Shell σ) (actions : List Action) {s : Session σ}
    (h : s.status.Coherent) : (sh.actAll actions s).status.Coherent := by
  induction actions generalizing s with
  | nil => exact h
  | cons action actions ih => exact ih (sh.act_coherent h action)

theorem exiting_of_actAll (sh : Shell σ) {actions : List Action} (hreset : .reset ∉ actions)
    {s : Session σ} (h : s.status.exiting = true) :
    (sh.actAll actions s).status.exiting = true := by
  induction actions generalizing s with
  | nil => exact h
  | cons action actions ih =>
    rw [List.mem_cons, not_or] at hreset
    exact ih hreset.2 (sh.act_exiting h (Ne.symm hreset.1))

/-- **The status is coherent throughout a session**, whatever lines are run in it and whenever it
is reset.  A request to leave stays until the next reset.  A line that can be scanned and holds a
statement leaves an error exactly if there is a request to leave then: an error or a message from
before it does not outlive it, and a request to leave from before it does. -/
theorem actAll_coherent (sh : Shell σ) (reporting : Reporting) (world : σ)
    (actions : List Action) :
    let s := sh.actAll actions (Session.fresh reporting world)
    s.status.Coherent ∧
      (s.status.exiting = true → ∀ later, .reset ∉ later →
        (sh.actAll later s).status.exiting = true) ∧
      ∀ line replies tokens, (scan line replies).result = .ok tokens → parse tokens ≠ [] →
        (sh.runLine line replies s).1.status.failed =
          (sh.runLine line replies s).1.status.exiting := by
  intro s
  have hs : s.status.Coherent :=
    sh.coherent_of_actAll actions (Status.coherent_fresh reporting)
  refine ⟨hs, fun hexiting later hreset => sh.exiting_of_actAll hreset hexiting, ?_⟩
  intro line replies tokens hresult hne
  rw [sh.runLine_of_ok hresult]
  refine interpret_failed_eq sh.runner ?_ (.inl hne)
  rw [echo_status]
  exact hs

/-- The line `a;;` cannot be scanned.  Its message is still there when `exit 3` has run, and so is
the request to leave when `a` has run after that. -/
theorem actAll_coherent_stale :
    ∃ s, s = actAll ⟨failsFirst, false⟩ [.line "a;;" [], .line "exit 3" []]
        (Session.fresh .plain 0) ∧
      s.status.messages = ["Parse error near ;;"] ∧ s.status.exitStatus = 3 ∧
      s.status.failed = true ∧
      (actAll ⟨failsFirst, false⟩ [.line "a" []] s).status.exiting = true ∧
      ((Shell.mk failsFirst false).runLine "a" [] s).1.status.failed =
        ((Shell.mk failsFirst false).runLine "a" [] s).1.status.exiting := by
  have hall := actAll_coherent ⟨failsFirst, false⟩ .plain 0 [.line "a;;" [], .line "exit 3" []]
  have hscan : (scan "a" []).result = .ok [⟨.programName, "a"⟩, .endOfInput] := rfl
  have hmessages : (actAll ⟨failsFirst, false⟩ [.line "a;;" [], .line "exit 3" []]
      (Session.fresh .plain 0)).status.messages = ["Parse error near ;;"] := by decide +kernel
  have hexiting : (actAll ⟨failsFirst, false⟩ [.line "a;;" [], .line "exit 3" []]
      (Session.fresh .plain 0)).status.exiting = true := by decide +kernel
  have hstatus : (actAll ⟨failsFirst, false⟩ [.line "a;;" [], .line "exit 3" []]
      (Session.fresh .plain 0)).status.exitStatus = 3 := by decide +kernel
  generalize hs : actAll ⟨failsFirst, false⟩ [.line "a;;" [], .line "exit 3" []]
    (Session.fresh .plain 0) = s at hall hmessages hexiting hstatus
  obtain ⟨hcoherent, hstays, hline⟩ := hall
  refine ⟨s, rfl, hmessages, hstatus, hcoherent.failed_of_exiting hexiting,
    hstays hexiting _ (by simp), ?_⟩
  exact hline "a" [] _ hscan (by decide)

end Shell
end LineShell
