import LineShell.Proofs.ScanMoves

/-!
# What a scan asks for

A scan asks for a reply whenever it has taken all of its text and the line is not complete.  Each
request shows a prompt, so the prompts of a report count the requests.  They are answered by the
replies, one after the other, and behind the last reply the input ends, however often one asks.

* `answer` — the answer to each request.
* `ScanReport.ReadsFrom` — what a report says about the requests that were made.

The scan itself never makes up a failure to read (`ScanState.feed_ne_read`), so a report that holds
one has got it as an answer, and no other request follows: `ScanState.readsFrom_settle`.
-/

set_option autoImplicit false
namespace LineShell

/-! ## Answers -/

/-- The answer to the request number `i`, counted from 0.  Behind the replies the input ends,
however often one asks. -/
def answer (replies : List Reply) (i : Nat) : Reply := replies.getD i (.error .endOfInput)

@[simp]
theorem answer_nil (i : Nat) : answer [] i = .error .endOfInput := rfl

@[simp]
theorem answer_cons_zero (reply : Reply) (replies : List Reply) :
    answer (reply :: replies) 0 = reply :=
  rfl

namespace ScanReport

/-- What a report says about the requests of a scan, each of which shows a prompt. -/
structure ReadsFrom (r : ScanReport) (replies : List Reply) : Prop where
  /-- Behind the last reply there is at most one more request. -/
  length_le : r.prompts.length ≤ replies.length + 1
  /-- The replies that were not asked for are left. -/
  unread : r.unread = replies.drop r.prompts.length
  /-- All answers but the last are lines. -/
  lines : ∀ i, i + 1 < r.prompts.length → ∃ reply, answer replies i = .ok reply
  /-- The result is a failure to read exactly if the last answer is that failure. -/
  failed_iff : ∀ failure, r.result = .error (.read failure) ↔
    ∃ i, r.prompts.length = i + 1 ∧ answer replies i = .error failure

/-- Nothing is asked for. -/
theorem readsFrom_of_no_request {result : Except LexicalError (List Token)}
    (h : ∀ failure, result ≠ .error (.read failure)) (replies : List Reply) :
    ReadsFrom ⟨result, [], replies⟩ replies := by
  refine ⟨Nat.zero_le _, rfl, nofun, fun failure => ⟨fun hread => absurd hread (h failure), ?_⟩⟩
  rintro ⟨i, hi, -⟩
  cases hi

/-- The one request fails, and the failure is the result. -/
theorem readsFrom_of_failure (p : Prompt) {replies : List Reply} {failure : ReadFailure}
    (h : answer replies 0 = .error failure) :
    ReadsFrom ⟨.error (.read failure), [p], replies.tail⟩ replies := by
  refine ⟨Nat.succ_le_succ (Nat.zero_le _), List.drop_one.symm, fun i hi => ?_, fun other => ?_⟩
  · exact absurd (Nat.lt_of_succ_lt_succ hi) (Nat.not_lt_zero i)
  · constructor
    · intro hother
      cases hother
      exact ⟨0, rfl, h⟩
    · rintro ⟨i, hi, hanswer⟩
      obtain rfl : 0 = i := Nat.succ.inj hi
      rw [h] at hanswer
      cases hanswer
      rfl

/-- A request that is answered by a line comes before those of the rest. -/
theorem ReadsFrom.after {r : ScanReport} {replies : List Reply} (h : r.ReadsFrom replies)
    (p : Prompt) (line : String) : (r.after p).ReadsFrom (.ok line :: replies) := by
  refine ⟨Nat.succ_le_succ h.length_le, h.unread, fun i hi => ?_, fun failure => ?_⟩
  · cases i with
    | zero => exact ⟨line, rfl⟩
    | succ i => exact h.lines i (Nat.lt_of_succ_lt_succ hi)
  · refine (h.failed_iff failure).trans ⟨?_, ?_⟩
    · rintro ⟨i, hi, hanswer⟩
      exact ⟨i + 1, congrArg Nat.succ hi, hanswer⟩
    · rintro ⟨i, hi, hanswer⟩
      cases i with
      | zero => cases hanswer
      | succ i => exact ⟨i, Nat.succ.inj hi, hanswer⟩

end ScanReport

namespace ScanState

/-! ## Failures to read are not made up -/

theorem step_ne_read (s : ScanState) (c : Char) (failure : ReadFailure) :
    s.step c ≠ .error (.read failure) := by
  intro h
  rw [step] at h
  cases hmode : s.mode with
  | word w => simp only [hmode] at h; split_ifs at h
  | semicolon => simp only [hmode] at h; split_ifs at h; cases h
  | half k => simp only [hmode] at h; split_ifs at h; cases h
  | connective k bare => simp only [hmode] at h; split_ifs at h
  | _ => simp only [hmode] at h; cases h

theorem feed_ne_read (s : ScanState) (cs : List Char) (failure : ReadFailure) :
    s.feed cs ≠ .error (.read failure) := by
  induction cs generalizing s with
  | nil => exact nofun
  | cons c cs ih =>
    intro h
    rw [feed] at h
    cases hstep : s.step c with
    | error e =>
      rw [hstep] at h
      exact step_ne_read s c failure (hstep.trans h)
    | ok s' =>
      rw [hstep] at h
      exact ih s' h

theorem pause_ne_read (s : ScanState) (failure : ReadFailure) :
    s.pause ≠ .done (.error (.read failure)) := by
  intro h
  rw [pause] at h
  cases hmode : s.mode with
  | connective k bare => cases bare <;> simp only [hmode] at h <;> cases h
  | _ => simp only [hmode] at h; cases h

theorem resume_ne_read (s : ScanState) (line : String) (failure : ReadFailure) :
    s.resume line ≠ .error (.read failure) := by
  rw [resume]
  split
  · exact feed_ne_read _ _ failure
  · exact feed_ne_read _ _ failure

/-! ## Requests -/

/-- **A scan reads what it is given, and nothing else.** -/
theorem readsFrom_settle (replies : List Reply) {r : Except LexicalError ScanState}
    (h : ∀ failure, r ≠ .error (.read failure)) : (settle replies r).ReadsFrom replies := by
  induction replies generalizing r with
  | nil =>
    cases r with
    | error e =>
      refine ScanReport.readsFrom_of_no_request (fun failure hread => h failure ?_) []
      cases hread
      rfl
    | ok s =>
      rw [settle]
      cases hpause : s.pause with
      | done result =>
        refine ScanReport.readsFrom_of_no_request (fun failure hread => ?_) []
        exact s.pause_ne_read failure (hread ▸ hpause)
      | asks p => exact ScanReport.readsFrom_of_failure p (answer_nil 0)
  | cons reply replies ih =>
    cases r with
    | error e =>
      refine ScanReport.readsFrom_of_no_request (fun failure hread => h failure ?_) _
      cases hread
      rfl
    | ok s =>
      rw [settle]
      cases hpause : s.pause with
      | done result =>
        refine ScanReport.readsFrom_of_no_request (fun failure hread => ?_) _
        exact s.pause_ne_read failure (hread ▸ hpause)
      | asks p =>
        cases reply with
        | error failure => exact ScanReport.readsFrom_of_failure p (answer_cons_zero _ replies)
        | ok line => exact (ih fun failure => s.resume_ne_read line failure).after p line

end ScanState

theorem readsFrom_scan (line : String) (replies : List Reply) :
    (scan line replies).ReadsFrom replies :=
  ScanState.readsFrom_settle replies fun failure => ScanState.feed_ne_read _ _ failure

end LineShell
