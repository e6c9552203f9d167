import LineShell.Console
import LineShell.Proofs.Runs

/-!
# The turns of a console

A console runs in *turns*.  A turn starts when the console asks for a line at its main prompt.  It
reads one reply there and, if that is a line which needs to be continued, further replies behind it.
Then the console is back at its main prompt, or it has ended.

* `Waiting` — a console about to read at its main prompt.
* `Console.Turn` — one turn that leads back to the main prompt.
* `Console.Ends` — a last turn, and the report it leads to.

`Turn.runOn_eq` and `Ends.runOn_eq` say that the console does take these turns, and `turn_or_ends`
that nothing else can happen at the main prompt.  So a console waits exactly in the states that it
reaches by turns, and `exists_ends` is the whole run.

Each turn takes a reply from the front of those still to come (`Turn.exists_taken`), which is why a
run ends.
-/

set_option autoImplicit false
namespace LineShell

variable {σ : Type}

/-! ## What a scan leaves unread -/

namespace ScanState

/-- A scan takes replies from the front. -/
theorem unread_settle_suffix (replies : List Reply) (r : Except LexicalError ScanState) :
    (settle replies r).unread <:+ replies := by
  induction replies generalizing r with
  | nil =>
    cases r with
    | error e => exact List.suffix_refl _
    | ok s =>
      rw [settle]
      split
      · exact List.suffix_refl _
      · exact List.suffix_refl _
  | cons reply replies ih =>
    cases r with
    | error e => exact List.suffix_refl _
    | ok s =>
      rw [settle]
      split
      · exact List.suffix_refl _
      · split
        · exact List.suffix_cons _ _
        · exact (ih _).trans (List.suffix_cons _ _)

end ScanState

/-- The replies that a line does not take are the last ones. -/
theorem Shell.unread_runLine_suffix (sh : Shell σ) (line : String) (replies : List Reply)
    (s : Session σ) : (sh.runLine line replies s).2 <:+ replies :=
  ScanState.unread_settle_suffix _ _

/-! ## Turns -/

/-- A console that is about to read at its main prompt. -/
structure Waiting (σ : Type) where
  /-- The replies still to come. -/
  replies : List Reply
  /-- Was the last reply read at the main prompt an interrupt? -/
  armed : Bool
  /-- The session so far. -/
  session : Session σ

namespace Console

/-- The session once the main prompt is shown. -/
def prompted (c : Console σ) (s : Session σ) : Session σ := s.emit [.prompt c.prompt]

/-- What a line read at the main prompt comes to, with the replies behind it to continue it. -/
def lineRun (c : Console σ) (line : String) (rest : List Reply) (s : Session σ) :
    Session σ × List Reply :=
  c.shell.runLine line rest (c.prompted s)

/-- What is left of the run from the main prompt on. -/
def runOn (c : Console σ) (w : Waiting σ) : ConsoleReport σ :=
  c.runFrom w.replies w.armed w.session

/-- One turn of the console, which leads back to its main prompt. -/
inductive Turn (c : Console σ) : Waiting σ → Waiting σ → Prop
  /-- An interrupt that does not follow another one. -/
  | interrupt (rest : List Reply) (s : Session σ) :
      Turn c ⟨.error .interrupted :: rest, false, s⟩ ⟨rest, true, (c.prompted s).emit [.hint]⟩
  /-- An empty line. -/
  | empty (rest : List Reply) (armed : Bool) (s : Session σ) :
      Turn c ⟨.ok "" :: rest, armed, s⟩ ⟨rest, false, c.prompted s⟩
  /-- A line that runs without a request to leave. -/
  | line {line : String} (hne : line ≠ "") (rest : List Reply) (armed : Bool) (s : Session σ)
      (hstay : (c.lineRun line rest s).1.status.exit = none) :
      Turn c ⟨.ok line :: rest, armed, s⟩
        ⟨(c.lineRun line rest s).2, false, (c.lineRun line rest s).1.mapStatus Status.reset⟩

/-- The last turn of the console. -/
inductive Ends (c : Console σ) : Waiting σ → ConsoleReport σ → Prop
  /-- There are no more replies. -/
  | exhausted (armed : Bool) (s : Session σ) : Ends c ⟨[], armed, s⟩ ⟨.left 0, c.prompted s, []⟩
  /-- The input ends. -/
  | closed (rest : List Reply) (armed : Bool) (s : Session σ) :
      Ends c ⟨.error .endOfInput :: rest, armed, s⟩ ⟨.left 0, c.prompted s, rest⟩
  /-- A second interrupt. -/
  | interrupted (rest : List Reply) (s : Session σ) :
      Ends c ⟨.error .interrupted :: rest, true, s⟩ ⟨.left 0, c.prompted s, rest⟩
  /-- Reading fails for another reason. -/
  | failed (reason : String) (rest : List Reply) (armed : Bool) (s : Session σ) :
      Ends c ⟨.error (.other reason) :: rest, armed, s⟩ ⟨.readFailed reason, c.prompted s, rest⟩
  /-- A line asks to leave. -/
  | exited {line : String} (hne : line ≠ "") (rest : List Reply) (armed : Bool) (s : Session σ)
      {n : Int} (hexit : (c.lineRun line rest s).1.status.exit = some n) :
      Ends c ⟨.ok line :: rest, armed, s⟩
        ⟨.left n, (c.lineRun line rest s).1, (c.lineRun line rest s).2⟩

/-! ## Turns and runs -/

/-- The console takes its turns. -/
theorem Turn.runOn_eq {c : Console σ} {w w' : Waiting σ} (h : c.Turn w w') :
    c.runOn w = c.runOn w' := by
  cases h with
  | interrupt rest s =>
    rw [runOn, runFrom]
    rfl
  | empty rest armed s =>
    rw [runOn, runFrom]
    rfl
  | @line line hne rest armed s hstay =>
    have hexiting : (c.shell.runLine line rest (s.emit [.prompt c.prompt])).1.status.exiting =
        false :=
      Status.exit_eq_none_iff.1 hstay
    rw [runOn, runFrom]
    simp only [if_neg hne, hexiting, Bool.false_eq_true, if_false]
    rfl

/-- The console ends as it should. -/
theorem Ends.runOn_eq {c : Console σ} {w : Waiting σ} {r : ConsoleReport σ} (h : c.Ends w r) :
    c.runOn w = r := by
  cases h with
  | exhausted armed s => rw [runOn, runFrom]; rfl
  | closed rest armed s => rw [runOn, runFrom]; rfl
  | interrupted rest s => rw [runOn, runFrom]; rfl
  | failed reason rest armed s => rw [runOn, runFrom]; rfl
  | @exited line hne rest armed s n hexit =>
    have hexit' : (c.shell.runLine line rest (s.emit [.prompt c.prompt])).1.status.exit = some n :=
      hexit
    rw [runOn, runFrom]
    simp only [if_neg hne, Status.exiting_of_exit hexit', Status.exitCode_of_exit hexit', if_true]
    rfl

/-- At the main prompt there is always a turn to take, and it is the last one or not. -/
theorem turn_or_ends (c : Console σ) (w : Waiting σ) :
    (∃ w', c.Turn w w') ∨ ∃ r, c.Ends w r := by
  obtain ⟨replies, armed, s⟩ := w
  match replies with
  | [] => exact .inr ⟨_, .exhausted armed s⟩
  | .error .endOfInput :: rest => exact .inr ⟨_, .closed rest armed s⟩
  | .error (.other reason) :: rest => exact .inr ⟨_, .failed reason rest armed s⟩
  | .error .interrupted :: rest =>
    cases armed with
    | false => exact .inl ⟨_, .interrupt rest s⟩
    | true => exact .inr ⟨_, .interrupted rest s⟩
  | .ok line :: rest =>
    by_cases hne : line = ""
    · subst hne
      exact .inl ⟨_, .empty rest armed s⟩
    · cases hexit : (c.lineRun line rest s).1.status.exit with
      | none => exact .inl ⟨_, .line hne rest armed s hexit⟩
      | some n => exact .inr ⟨_, .exited hne rest armed s hexit⟩

/-- A turn takes one reply at the main prompt, and behind it, if that reply is a line, those that
the scan of this line asks for. -/
theorem Turn.exists_taken {c : Console σ} {w w' : Waiting σ} (h : c.Turn w w') :
    ∃ reply continuation, w.replies = reply :: (continuation ++ w'.replies) ∧
      (continuation ≠ [] → ∃ line, reply = .ok line ∧
        (scan line (continuation ++ w'.replies)).unread = w'.replies) := by
  cases h with
  | interrupt rest s => exact ⟨.error .interrupted, [], rfl, fun hne => absurd rfl hne⟩
  | empty rest armed s => exact ⟨.ok "", [], rfl, fun hne => absurd rfl hne⟩
  | @line line hne rest armed s hstay =>
    obtain ⟨continuation, hrest⟩ := c.shell.unread_runLine_suffix line rest (c.prompted s)
    refine ⟨.ok line, continuation, congrArg (Except.ok line :: ·) hrest.symm, fun _ => ?_⟩
    refine ⟨line, rfl, ?_⟩
    show (scan line (continuation ++ (c.shell.runLine line rest (c.prompted s)).2)).unread = _
    rw [hrest]
    rfl

theorem Turn.length_lt {c : Console σ} {w w' : Waiting σ} (h : c.Turn w w') :
    w'.replies.length < w.replies.length := by
  obtain ⟨reply, continuation, hreplies, -⟩ := h.exists_taken
  rw [hreplies, List.length_cons, List.length_append]
  omega

theorem Turn.replies_suffix {c : Console σ} {w w' : Waiting σ} (h : c.Turn w w') :
    w'.replies <:+ w.replies := by
  obtain ⟨reply, continuation, hreplies, -⟩ := h.exists_taken
  exact ⟨reply :: continuation, hreplies.symm⟩

theorem Ends.unread_suffix {c : Console σ} {w : Waiting σ} {r : ConsoleReport σ}
    (h : c.Ends w r) : r.unread <:+ w.replies := by
  cases h with
  | exhausted armed s => exact List.suffix_refl _
  | closed rest armed s => exact List.suffix_cons _ _
  | interrupted rest s => exact List.suffix_cons _ _
  | failed reason rest armed s => exact List.suffix_cons _ _
  | @exited line hne rest armed s n hexit =>
    have hrest := c.shell.unread_runLine_suffix line rest (c.prompted s)
    exact hrest.trans (List.suffix_cons _ _)

/-! ## Whole runs -/

/-- The console comes from one wait at its main prompt to another. -/
abbrev Reaches (c : Console σ) : Waiting σ → Waiting σ → Prop := Relation.ReflTransGen c.Turn

theorem Reaches.runOn_eq {c : Console σ} {w w' : Waiting σ} (h : c.Reaches w w') :
    c.runOn w = c.runOn w' := by
  induction h with
  | refl => rfl
  | tail _ hturn ih => exact ih.trans hturn.runOn_eq

/-- The replies are taken in their order, none of them twice. -/
theorem Reaches.replies_suffix {c : Console σ} {w w' : Waiting σ} (h : c.Reaches w w') :
    w'.replies <:+ w.replies := by
  induction h with
  | refl => exact List.suffix_refl _
  | tail _ hturn ih => exact hturn.replies_suffix.trans ih

/-- **A run is a number of turns and a last one.** -/
theorem exists_ends (c : Console σ) (w : Waiting σ) :
    ∃ last, c.Reaches w last ∧ c.Ends last (c.runOn w) := by
  have hturn : ∀ v : Waiting σ, c.runOn v = c.runOn w →
      (∃ v', c.Turn v v' ∧ c.runOn v' = c.runOn w ∧ v'.replies.length < v.replies.length) ∨
        c.Ends v (c.runOn w) := by
    intro v hv
    obtain ⟨v', hturn⟩ | ⟨r, hends⟩ := c.turn_or_ends v
    · exact .inl ⟨v', hturn, hturn.runOn_eq.symm.trans hv, hturn.length_lt⟩
    · rw [← hv, hends.runOn_eq]
      exact .inr hends
  obtain ⟨last, hreaches, -, hends⟩ :=
    exists_reaches_end (fun v : Waiting σ => v.replies.length) hturn rfl
  exact ⟨last, hreaches, hends⟩

end Console
end LineShell
