import LineShell.Proofs.ScanMoves

/-!
# Looking ahead

A scan that takes each character once remembers a semicolon or a connective until it sees what
follows.  A scan that can look ahead in its text need not: it finds out at once whether what follows
has a place there, and if so, the mark says no more about the rest of the text.

* `ScanState.near?` — what has no place behind a connective, read off the text.
* `ScanState.report_semicolon` and `ScanState.report_connective` — a mark may be forgotten if what
  follows has a place there.
* `ScanState.report_near` — a scan ends at a connective that follows another one.
-/

set_option autoImplicit false
namespace LineShell
namespace ScanState

/-! ## Behind a semicolon -/

/-- What a character starts does not depend on what it could have meant. -/
theorem start_with_mode (s : ScanState) (mode : Mode) (c : Char) :
    { s with mode := mode }.start c = s.start c := by
  simp only [start, mark]

/-- A semicolon says no more about the text than that no mark follows. -/
theorem report_semicolon {s : ScanState} (h : s.mode = .semicolon) {cs : List Char}
    (hcs : ∀ c ∈ cs.head?, isMark c = false) (replies : List Reply) :
    Stage.report ⟨s, cs, replies⟩ = Stage.report ⟨{ s with mode := .boundary }, cs, replies⟩ := by
  cases cs with
  | nil =>
    have hpause : s.pause = .done (.ok s.result) := by rw [pause, h]
    rw [Stage.report_settled hpause, Stage.report_settled rfl]
    rfl
  | cons c cs =>
    have hstep : s.step c = .ok (s.start c) := by
      rw [step, h]
      simp only [hcs c rfl, Bool.false_eq_true, if_false]
    rw [Stage.report_take hstep, Stage.report_take rfl, start_with_mode s .boundary c]

/-! ## Behind a connective -/

/-- The signs that have no place behind a connective: the first character of the text that is no
blank, if it is the sign of a connective, and a mark right behind it. -/
def near? (cs : List Char) : Option String :=
  match cs.dropWhile isBlank with
  | [] => none
  | c :: rest =>
    if isMark c && c != ';' then some (String.ofList (c :: (rest.head?.filter isMark).toList))
    else none

theorem near?_cons_of_blank {c : Char} (hc : isBlank c = true) (cs : List Char) :
    near? (c :: cs) = near? cs := by
  rw [near?, List.dropWhile_cons_of_pos hc, near?]

theorem near?_cons {c : Char} (hc : isBlank c = false) (cs : List Char) :
    near? (c :: cs) = if isMark c && c != ';' then
      some (String.ofList (c :: (cs.head?.filter isMark).toList)) else none := by
  rw [near?, List.dropWhile_cons_of_neg (by simp [hc])]

/-- The same by the place of the first character that is no blank. -/
theorem near?_cases (cs : List Char) :
    (cs.findIdx? (!isBlank ·) = none ∧ near? cs = none) ∨
      ∃ i c, cs.findIdx? (!isBlank ·) = some i ∧ cs[i]? = some c ∧
        near? cs = if isMark c && c != ';' then
          some (String.ofList (c :: (cs[i + 1]?.filter isMark).toList)) else none := by
  induction cs with
  | nil => exact .inl ⟨rfl, rfl⟩
  | cons d cs ih =>
    cases hd : isBlank d with
    | true =>
      rw [List.findIdx?_cons, near?_cons_of_blank hd]
      simp only [hd, Bool.not_true, Bool.false_eq_true, if_false]
      obtain ⟨hfind, hnone⟩ | ⟨i, c, hfind, hc, hlook⟩ := ih
      · exact .inl ⟨congrArg _ hfind, hnone⟩
      · exact .inr ⟨i + 1, c, congrArg _ hfind, hc, hlook⟩
    | false =>
      refine .inr ⟨0, d, ?_, rfl, ?_⟩
      · rw [List.findIdx?_cons, if_pos (by simp [hd])]
      · rw [near?_cons hd, List.head?_eq_getElem?]
        rfl

theorem isSign_iff (c : Char) : (isMark c && c != ';') = true ↔ c = '&' ∨ c = '|' := by
  simp only [isMark, Bool.and_eq_true, Bool.or_eq_true, beq_iff_eq, bne_iff_ne]
  constructor
  · rintro ⟨(h | h) | h, hne⟩
    · exact .inl h
    · exact .inr h
    · exact absurd h hne
  · rintro (rfl | rfl) <;> decide

theorem step_connective_blank {s : ScanState} {k : Connective} {bare : Bool}
    (h : s.mode = .connective k bare) {c : Char} (hc : isBlank c = true) :
    s.step c = .ok { s with gap := true, mode := .connective k false } := by
  rw [step, h]
  simp only [hc, if_true]

/-- A connective says no more about the text than that no other one follows, if something does. -/
theorem report_connective {s : ScanState} {k : Connective} {bare : Bool}
    (h : s.mode = .connective k bare) {cs : List Char} (hnear : near? cs = none)
    (hbare : cs = [] → bare = false) (replies : List Reply) :
    Stage.report ⟨s, cs, replies⟩ = Stage.report ⟨{ s with mode := .boundary }, cs, replies⟩ := by
  induction cs generalizing s bare with
  | nil =>
    have hpause : s.pause = .done (.ok s.result) := by rw [pause, h, hbare rfl]
    rw [Stage.report_settled hpause, Stage.report_settled rfl]
    rfl
  | cons c cs ih =>
    cases hc : isBlank c with
    | true =>
      have hstart : { s with mode := .boundary }.step c =
          .ok { s with gap := true, mode := .boundary } :=
        congrArg Except.ok (start_blank _ hc)
      rw [near?_cons_of_blank hc] at hnear
      rw [Stage.report_take (step_connective_blank h hc), Stage.report_take hstart]
      exact ih rfl hnear fun _ => rfl
    | false =>
      have hsign : ¬ (c = '&' ∨ c = '|') := by
        rw [near?_cons hc, ite_eq_right_iff] at hnear
        exact fun h => Option.some_ne_none _ (hnear ((isSign_iff c).2 h))
      have hstep : s.step c = .ok (s.start c) := by
        rw [step, h]
        simp only [hc, Bool.false_eq_true, if_false, if_neg hsign]
      rw [Stage.report_take hstep, Stage.report_take rfl, start_with_mode s .boundary c]

/-- Another connective ends the scan. -/
theorem report_near {s : ScanState} {k : Connective} {bare : Bool}
    (h : s.mode = .connective k bare) {cs : List Char} {near : String}
    (hnear : near? cs = some near) (replies : List Reply) :
    Stage.report ⟨s, cs, replies⟩ = ⟨.error (.unexpected near), [], replies⟩ := by
  induction cs generalizing s bare with
  | nil => cases hnear
  | cons c cs ih =>
    cases hc : isBlank c with
    | true =>
      rw [near?_cons_of_blank hc] at hnear
      rw [Stage.report_take (step_connective_blank h hc)]
      exact ih rfl hnear
    | false =>
      rw [near?_cons hc, Option.ite_none_right_eq_some, isSign_iff] at hnear
      obtain ⟨hsign, hnear⟩ := hnear
      cases hnear
      have hstep : s.step c = .ok { s with mode := .clash c } := by
        rw [step, h]
        simp only [hc, Bool.false_eq_true, if_false, if_pos hsign]
      rw [Stage.report_take hstep]
      cases cs with
      | nil => exact Stage.report_settled rfl replies
      | cons d ds =>
        rw [Stage.report_rejected rfl, List.head?_cons, Option.filter_some]
        cases isMark d <;> rfl

end ScanState
end LineShell
