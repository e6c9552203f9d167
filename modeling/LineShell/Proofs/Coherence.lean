import LineShell.Evaluate

/-!
# Statuses that fit together

Not every status can come up.  A request to leave is an error, so is whatever a message tells about,
and there is no exit status where nobody has asked to leave.

* `Status.Coherent` — the parts of a status fit together.  Clearing a status can spoil this, for it
  drops the error and keeps a request to leave.  The evaluator is careful: it clears only where
  nobody has asked to leave.
* `Status.LeadsTo` — how the status moves as long as it is not reset: coherence is kept, and so is
  a request to leave.  There is one lemma for each part of the evaluator, from any status.
* `interpret_failed_eq` — statements leave an error exactly if they leave a request to leave, also
  where they have found either of them at their start.
-/

set_option autoImplicit false
namespace LineShell

variable {σ : Type}

/-! ## Coherent statuses -/

namespace Status

/-- The parts of a status fit together. -/
structure Coherent (s : Status) : Prop where
  /-- A request to leave is an error. -/
  failed_of_exiting : s.exiting = true → s.failed = true
  /-- So is whatever a message was recorded about. -/
  failed_of_messages : s.messages ≠ [] → s.failed = true
  /-- Without a request to leave there is no exit status to report. -/
  exitStatus_of_staying : s.exiting = false → s.exitStatus = 0

/-- The status `s'` can come after `s` in a session that is not reset. -/
structure LeadsTo (s s' : Status) : Prop where
  /-- Coherence is kept. -/
  coherent : s.Coherent → s'.Coherent
  /-- A request to leave stays. -/
  exiting : s.exiting = true → s'.exiting = true

theorem LeadsTo.refl (s : Status) : s.LeadsTo s := ⟨fun h => h, fun h => h⟩

theorem LeadsTo.trans {s s' s'' : Status} (h : s.LeadsTo s') (h' : s'.LeadsTo s'') :
    s.LeadsTo s'' :=
  ⟨fun hs => h'.coherent (h.coherent hs), fun hs => h'.exiting (h.exiting hs)⟩

/-- A status in which something failed is coherent, if its exit status is right. -/
theorem coherent_of_failed {s : Status} (h : s.failed = true)
    (hstatus : s.exiting = false → s.exitStatus = 0) : s.Coherent :=
  ⟨fun _ => h, fun _ => h, hstatus⟩

theorem coherent_fresh (reporting : Reporting) : (fresh reporting).Coherent :=
  ⟨nofun, fun h => absurd rfl h, fun _ => rfl⟩

/-- A status without a request to leave is coherent once it is cleared. -/
theorem coherent_clearTransient {s : Status} (h : s.exiting = false) (hs : s.Coherent) :
    s.clearTransient.Coherent :=
  ⟨fun hexiting => absurd (h.symm.trans hexiting) nofun, fun hne => absurd rfl hne,
    hs.exitStatus_of_staying⟩

/-- The exit status of a coherent status is the one asked for, and 0 if there is none. -/
theorem Coherent.exitStatus_eq {s : Status} (h : s.Coherent) : s.exitStatus = s.exit.getD 0 := by
  cases hexit : s.exit with
  | none => exact h.exitStatus_of_staying (exit_eq_none_iff.1 hexit)
  | some n => exact exitStatus_of_exit hexit

/-! ### The operations on a status -/

theorem leadsTo_record (s : Status) (message : String) : s.LeadsTo (s.record message) :=
  ⟨fun h => coherent_of_failed rfl h.exitStatus_of_staying, fun h => h⟩

theorem leadsTo_requestExit (s : Status) (n : Int) : s.LeadsTo (s.requestExit n) :=
  ⟨fun _ => coherent_of_failed rfl nofun, fun _ => rfl⟩

theorem leadsTo_noteFailure (s : Status) : s.LeadsTo s.noteFailure :=
  ⟨fun h => ⟨h.failed_of_exiting, h.failed_of_messages, h.exitStatus_of_staying⟩, fun h => h⟩

theorem leadsTo_forgive (s : Status) : s.LeadsTo s.forgive :=
  ⟨fun h => ⟨h.failed_of_exiting, h.failed_of_messages, h.exitStatus_of_staying⟩, fun h => h⟩

/-- Clearing a status is fine as long as nobody has asked to leave. -/
theorem leadsTo_clearTransient {s : Status} (h : s.exiting = false) :
    s.LeadsTo s.clearTransient :=
  ⟨coherent_clearTransient h, fun hexiting => absurd (h.symm.trans hexiting) nofun⟩

end Status

/-! ## The evaluator, from any status -/

theorem Session.leadsTo_recordFailure (s : Session σ) (message : String) :
    s.status.LeadsTo (s.recordFailure message).status :=
  s.status.leadsTo_noteFailure.trans (Status.leadsTo_record _ _)

theorem Exit.leadsTo_run (args : List String) (s : Session σ) :
    s.status.LeadsTo (Exit.run args s).status := by
  rw [Exit.run]
  cases Exit.read args with
  | error e => exact s.leadsTo_recordFailure _
  | ok request =>
    cases request with
    | help => exact .refl _
    | run status => exact s.status.leadsTo_requestExit _

theorem Session.leadsTo_call (run : Runner σ) (program : String) (args : List String)
    (s : Session σ) : s.status.LeadsTo (s.call run program args).status := by
  rw [Session.call]
  cases (run s.world program args).1.failure with
  | none => exact .refl _
  | some failure => exact Session.leadsTo_recordFailure _ _

/-- The right side of a connective starts from a status that nobody has asked to leave in, if that
status is cleared. -/
theorem Connective.leadsTo_prepare {k : Connective} {s : Status} (h : k.proceeds s = true) :
    s.LeadsTo (k.prepare s) := by
  cases k with
  | and => exact .refl s
  | or =>
    rw [Connective.proceeds, Bool.and_eq_true, Bool.not_eq_true'] at h
    exact Status.leadsTo_clearTransient h.2

theorem evaluate_leadsTo (run : Runner σ) (command : Command) (s : Session σ) :
    s.status.LeadsTo (evaluate run command s).status := by
  induction command generalizing s with
  | simple program args =>
    rw [evaluate, evaluateSimple]
    split
    · exact Exit.leadsTo_run args s
    · exact s.leadsTo_call run program args
  | join k left right ihl ihr =>
    have hleft := ihl s
    rw [evaluate]
    by_cases hk : k.proceeds (evaluate run left s).status = true
    · simp only [if_pos hk]
      have hprepared := hleft.trans (Connective.leadsTo_prepare hk)
      exact hprepared.trans (ihr ((evaluate run left s).mapStatus k.prepare))
    · simp only [if_neg hk]
      exact hleft

theorem settleStatement_leadsTo (command : Command) (s : Session σ) :
    s.status.LeadsTo (settleStatement command s).status := by
  rw [settleStatement]
  split
  · exact s.status.leadsTo_forgive
  · exact .refl _

/-- A statement as a whole. -/
theorem settleStatement_evaluate_leadsTo (run : Runner σ) (command : Command) (s : Session σ) :
    s.status.LeadsTo (settleStatement command (evaluate run command s)).status :=
  (evaluate_leadsTo run command s).trans (settleStatement_leadsTo command _)

/-- A statement that leaves a request to leave is the last one. -/
theorem interpret_cons_of_exiting {run : Runner σ} {command : Command} {s : Session σ}
    (h : (settleStatement command (evaluate run command s)).status.exiting = true)
    (commands : List Command) :
    interpret run (command :: commands) s = settleStatement command (evaluate run command s) := by
  rw [interpret]
  exact if_pos h

/-- Any other is followed by the rest, in a cleared status. -/
theorem interpret_cons_of_staying {run : Runner σ} {command : Command} {s : Session σ}
    (h : (settleStatement command (evaluate run command s)).status.exiting = false)
    (commands : List Command) :
    interpret run (command :: commands) s = interpret run commands
      ((settleStatement command (evaluate run command s)).mapStatus Status.clearTransient) := by
  rw [interpret, h]
  exact if_neg Bool.false_ne_true

theorem interpret_leadsTo (run : Runner σ) (commands : List Command) (s : Session σ) :
    s.status.LeadsTo (interpret run commands s).status := by
  induction commands generalizing s with
  | nil => exact .refl _
  | cons command commands ih =>
    have hfirst := settleStatement_evaluate_leadsTo run command s
    cases hexiting : (settleStatement command (evaluate run command s)).status.exiting with
    | true =>
      rw [interpret_cons_of_exiting hexiting]
      exact hfirst
    | false =>
      have hcleared := hfirst.trans (Status.leadsTo_clearTransient hexiting)
      rw [interpret_cons_of_staying hexiting]
      exact hcleared.trans
        (ih ((settleStatement command (evaluate run command s)).mapStatus Status.clearTransient))

/-- **Statements leave an error exactly if they leave a request to leave**, whatever the coherent
status in which they start.  A single statement is enough, and none is, if this has been so
before. -/
theorem interpret_failed_eq (run : Runner σ) {commands : List Command} {s : Session σ}
    (hs : s.status.Coherent)
    (h : commands ≠ [] ∨ s.status.failed = s.status.exiting) :
    (interpret run commands s).status.failed = (interpret run commands s).status.exiting := by
  induction commands generalizing s with
  | nil => exact h.resolve_left fun hne => hne rfl
  | cons command commands ih =>
    have hfirst := (settleStatement_evaluate_leadsTo run command s).coherent hs
    cases hexiting : (settleStatement command (evaluate run command s)).status.exiting with
    | true =>
      rw [interpret_cons_of_exiting hexiting, hexiting]
      exact hfirst.failed_of_exiting hexiting
    | false =>
      rw [interpret_cons_of_staying hexiting]
      -- the statements behind this one start without an error
      exact ih (Status.coherent_clearTransient hexiting hfirst) (.inr hexiting.symm)

end LineShell
