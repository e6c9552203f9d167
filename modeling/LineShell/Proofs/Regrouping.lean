import LineShell.Proofs.ShortCircuit
import Mathlib.Data.List.Forall2

/-!
# Regrouping a chain

`(a && b) && c` and `a && (b && c)` do the same, and so do the two forms with `||`.  The evaluator
does not treat them alike.  If `a` is the last to run, the form on the left looks at its status
twice, once inside the left operand and once outside of it, and with `||` the status is cleared at
different depths.  But where a connective does not go on, it leaves the status as it is, and so the
second look finds what the first one has found.

* `Connective.advance` — what a connective does with one operand: it runs it if the status in front
  of it says so.
* `Command.operands` — what a connective joins at the top of a command, however it is grouped.
* `evaluate_eq_row` — a command runs its operands from the left, each behind a look at the status.
  The grouping does not occur in this, so it cannot matter: `evaluate_eq_of_regrouped`.

Nothing is assumed about the session in which this happens; its status may hold failures, messages
and a request to leave from before.  All of the session is the same in the end, the log and the
state of the runner included.

The main statement is `interpret_join_assoc`.  Both connectives have to be the same:
`(a && b) || c` is not `a && (b || c)`.
-/

set_option autoImplicit false
namespace LineShell

variable {σ : Type}

/-! ## One operand -/

/-- The session once a connective has dealt with an operand: if it goes on from the status, the
operand has run in the status prepared for it. -/
def Connective.advance (run : Runner σ) (k : Connective) (s : Session σ) (operand : Command) :
    Session σ :=
  if k.proceeds s.status then evaluate run operand (s.mapStatus k.prepare) else s

theorem evaluate_join (run : Runner σ) (k : Connective) (left right : Command) (s : Session σ) :
    evaluate run (.join k left right) s = k.advance run (evaluate run left s) right :=
  rfl

/-- **A joined operand is two operands.**  If the connective does not go on to the first of them,
the session is as it was, so it does not go on to the second either. -/
theorem Connective.advance_join (run : Runner σ) (k : Connective) (s : Session σ)
    (left right : Command) :
    k.advance run s (.join k left right) = k.advance run (k.advance run s left) right := by
  by_cases hk : k.proceeds s.status = true
  · have hleft : k.advance run s left = evaluate run left (s.mapStatus k.prepare) := by
      rw [advance, if_pos hk]
    rw [hleft, advance, if_pos hk, evaluate_join]
  · have hstays : ∀ operand, k.advance run s operand = s := by
      intro operand
      rw [advance, if_neg hk]
    rw [hstays, hstays, hstays]

/-! ## All operands -/

namespace Command

/-- What the connective `k` joins at the top of a command, from left to right. -/
def operands (k : Connective) : Command → List Command
  | .simple program args => [.simple program args]
  | .join k' left right =>
    if k' = k then left.operands k ++ right.operands k else [.join k' left right]

theorem operands_join (k : Connective) (left right : Command) :
    (join k left right).operands k = left.operands k ++ right.operands k := by
  rw [operands, if_pos rfl]

/-- A command that is not joined by the connective is its only operand. -/
theorem join_or_operands_eq (k : Connective) (command : Command) :
    (∃ left right, command = .join k left right) ∨ command.operands k = [command] := by
  cases command with
  | simple program args => exact .inr rfl
  | join k' left right =>
    by_cases hk : k' = k
    · subst hk
      exact .inl ⟨left, right, rfl⟩
    · right
      rw [operands, if_neg hk]

theorem operands_ne_nil (k : Connective) (command : Command) : command.operands k ≠ [] := by
  induction command with
  | simple program args => exact List.cons_ne_nil _ _
  | join k' left right ihl _ =>
    rw [operands]
    split
    · exact List.append_ne_nil_of_left_ne_nil ihl _
    · exact List.cons_ne_nil _ _

/-- A joined command has two operands at least. -/
theorem two_le_length_operands (k : Connective) (left right : Command) :
    2 ≤ ((join k left right).operands k).length := by
  have hleft := List.length_pos_iff.2 (left.operands_ne_nil k)
  have hright := List.length_pos_iff.2 (right.operands_ne_nil k)
  rw [operands_join, List.length_append]
  omega

end Command

/-- A connective that deals with a command deals with its operands, one after the other. -/
theorem Connective.advance_eq_foldl (run : Runner σ) (k : Connective) (command : Command)
    (s : Session σ) :
    k.advance run s command = (command.operands k).foldl (k.advance run) s := by
  induction command generalizing s with
  | simple program args => rfl
  | join k' left right ihl ihr =>
    by_cases hk : k' = k
    · subst hk
      rw [advance_join, ihl, ihr, Command.operands_join, List.foldl_append]
    · rw [Command.operands, if_neg hk]
      rfl

/-- Runs the operands of a connective: the first in any case, and the others as the connective goes
on to them. -/
def evaluateRow (run : Runner σ) (k : Connective) : List Command → Session σ → Session σ
  | [], s => s
  | first :: others, s => others.foldl (k.advance run) (evaluate run first s)

theorem evaluateRow_append (run : Runner σ) (k : Connective) {front : List Command}
    (hfront : front ≠ []) (back : List Command) (s : Session σ) :
    evaluateRow run k (front ++ back) s =
      back.foldl (k.advance run) (evaluateRow run k front s) := by
  cases front with
  | nil => exact absurd rfl hfront
  | cons first others => exact List.foldl_append

/-- **A command runs its operands from the left**, whatever the connective is by which one looks
at it. -/
theorem evaluate_eq_row (run : Runner σ) (k : Connective) (command : Command) (s : Session σ) :
    evaluate run command s = evaluateRow run k (command.operands k) s := by
  induction command with
  | simple program args => rfl
  | join k' left right ihl _ =>
    by_cases hk : k' = k
    · subst hk
      rw [evaluate_join, Connective.advance_eq_foldl, ihl, Command.operands_join,
        evaluateRow_append run k' (left.operands_ne_nil k')]
    · rw [Command.operands, if_neg hk]
      rfl

/-! ## Regrouping -/

/-- One command is the other with the operands of some connective grouped in another way. -/
def Command.Regrouped (command command' : Command) : Prop :=
  ∃ k, command.operands k = command'.operands k

/-- Operands may be grouped to the left or to the right. -/
theorem Command.regrouped_join (k : Connective) (a b c : Command) :
    Regrouped (.join k (.join k a b) c) (.join k a (.join k b c)) := by
  refine ⟨k, ?_⟩
  rw [operands_join, operands_join, operands_join, operands_join, List.append_assoc]

/-- Regrouping does not change the connective at the top. -/
theorem Command.Regrouped.isAlternative_eq {command command' : Command}
    (h : command.Regrouped command') : command.isAlternative = command'.isAlternative := by
  obtain ⟨k, hoperands⟩ := h
  rcases command.join_or_operands_eq k with ⟨l, r, rfl⟩ | hsingle <;>
    rcases command'.join_or_operands_eq k with ⟨l', r', rfl⟩ | hsingle'
  · cases k <;> rfl
  · have hlength := two_le_length_operands k l r
    rw [hoperands, hsingle', List.length_singleton] at hlength
    omega
  · have hlength := two_le_length_operands k l' r'
    rw [← hoperands, hsingle, List.length_singleton] at hlength
    omega
  · rw [hsingle, hsingle', List.cons.injEq] at hoperands
    rw [hoperands.1]

/-- **Regrouped commands run alike**, in any session. -/
theorem evaluate_eq_of_regrouped (run : Runner σ) {command command' : Command}
    (h : command.Regrouped command') (s : Session σ) :
    evaluate run command s = evaluate run command' s := by
  obtain ⟨k, hoperands⟩ := h
  rw [evaluate_eq_row run k command, evaluate_eq_row run k command', hoperands]

/-- Statements run alike if each of them is regrouped. -/
theorem interpret_eq_of_regrouped (run : Runner σ) {commands commands' : List Command}
    (h : List.Forall₂ Command.Regrouped commands commands') (s : Session σ) :
    interpret run commands s = interpret run commands' s := by
  induction h generalizing s with
  | nil => rfl
  | cons hcommand _ ih =>
    rw [interpret, interpret, evaluate_eq_of_regrouped run hcommand, settleStatement,
      settleStatement, hcommand.isAlternative_eq]
    simp only [ih]

/-- **Chains of one connective may be regrouped.**  From any session, a statement comes to the same
session whether the operands of a connective are grouped to the left or to the right: the calls and
the text written are the same, in the same order, and so are the whole status and the state of the
runner. -/
theorem interpret_join_assoc (run : Runner σ) (k : Connective) (a b c : Command) (s : Session σ) :
    interpret run [.join k (.join k a b) c] s = interpret run [.join k a (.join k b c)] s :=
  interpret_eq_of_regrouped run (.cons (Command.regrouped_join k a b c) .nil) s

/-- With two different connectives the grouping matters: if `a` fails, `(a && b) || c` goes on to
`c`, and `a && (b || c)` does not. -/
example :
    Event.calls (interpret failsFirst [.join .or (.join .and (.simple "a" []) (.simple "b" []))
      (.simple "c" [])] (Session.fresh .plain 0)).log = [["a"], ["c"]] ∧
    Event.calls (interpret failsFirst [.join .and (.simple "a" []) (.join .or (.simple "b" [])
      (.simple "c" []))] (Session.fresh .plain 0)).log = [["a"]] := by
  decide

end LineShell
