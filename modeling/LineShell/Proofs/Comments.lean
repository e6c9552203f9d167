import LineShell.Proofs.ScanMoves

/-!
# Comments

A comment starts with a `#` behind a blank and goes on to the end of its line.  Nothing in it means
anything: neither the marks, nor a backslash, also if that is its last character.  So a scan stands
at the same place behind a comment and behind the newline that would be there without it.

This is not true behind a backslash, which takes the blank for itself.  There the line ends in that
backslash (`ScanState.getLast?_of_escape`), and nowhere else is there an exception.

The main statement is `scan_comment_deleted`.
-/

set_option autoImplicit false
namespace LineShell

namespace ScanState

/-! ## Behind a backslash -/

theorem Begins.eq_backslash {s s' : ScanState} {c : Char} (h : s.Begins c s') {w : Word}
    (hmode : s'.mode = .escape w) : c = '\\' := by
  cases h with
  | backslash => rfl
  | _ => cases hmode

/-- Only a backslash waits for the character behind it. -/
theorem Takes.eq_backslash {s s' : ScanState} {c : Char} (h : s.Takes c s') {w : Word}
    (hmode : s'.mode = .escape w) : c = '\\' := by
  cases h with
  | start _ h => exact h.eq_backslash hmode
  | comment hcomment _ => exact absurd (hcomment.symm.trans hmode) nofun
  | backslash _ hc => exact hc
  | _ => cases hmode

/-- A text behind which a character is awaited ends in a backslash. -/
theorem getLast?_of_escape {cs : List Char} {s : ScanState} (h : initial.feed cs = .ok s)
    {w : Word} (hmode : s.mode = .escape w) : cs.getLast? = some '\\' := by
  obtain rfl | ⟨ds, c, rfl⟩ := cs.eq_nil_or_concat
  · cases h
    cases hmode
  · rw [List.concat_eq_append] at h ⊢
    obtain ⟨s₁, -, htakes⟩ := takes_of_feed_concat h
    rw [htakes.eq_backslash hmode, List.getLast?_concat]

/-! ## In a comment -/

/-- Nothing but a newline means anything in a comment. -/
theorem feed_comment {s : ScanState} (h : s.mode = .comment) {t : List Char} (ht : '\n' ∉ t)
    (u : List Char) : s.feed (t ++ '\n' :: u) = { s with mode := .boundary }.feed u := by
  induction t with
  | nil =>
    refine feed_cons_eq ?_ u
    rw [step, h]
    rfl
  | cons c t ih =>
    rw [List.mem_cons, not_or] at ht
    have hstep : s.step c = .ok s := by
      rw [step, h]
      simp only [if_neg (Ne.symm ht.1)]
    rw [List.cons_append, feed_cons_eq hstep]
    exact ih ht.2

/-! ## At a blank -/

theorem Begins.mode_of_blank {s s' : ScanState} {c : Char} (h : s.Begins c s')
    (hc : isBlank c = true) : s'.mode = .boundary := by
  cases h with
  | blank => rfl
  | sign k => cases k <;> cases hc
  | letter hend =>
    rw [endsWord, hc] at hend
    cases hend
  | _ => cases hc

/-- A blank leads to where a word can start. -/
theorem Takes.opens_of_blank {s s' : ScanState} {c : Char} (h : s.Takes c s')
    (hc : isBlank c = true) (hcomment : s.mode ≠ .comment) (hescape : ∀ w, s.mode ≠ .escape w) :
    s'.Opens := by
  cases h with
  | start _ h => exact .inl (h.mode_of_blank hc)
  | comment hmode _ => exact absurd hmode hcomment
  | commentEnd hmode _ => exact absurd hmode hcomment
  | backslash _ hslash =>
    subst hslash
    cases hc
  | letter _ hend _ =>
    rw [endsWord, hc] at hend
    cases hend
  | escaped hmode => exact absurd hmode (hescape _)
  | @doubled k _ hsign =>
    subst hsign
    cases k <;> cases hc
  | @blank k _ _ _ => exact .inr (.inr ⟨k, false, rfl⟩)
  | clash _ hsign => rcases hsign with rfl | rfl <;> cases hc

/-- **Behind a comment the scan stands where it would stand without it.** -/
theorem feed_blank_comment {s : ScanState} (hescape : ∀ w, s.mode ≠ .escape w) {t : List Char}
    (ht : '\n' ∉ t) (u : List Char) :
    s.feed (' ' :: '#' :: (t ++ '\n' :: u)) = s.feed (' ' :: '\n' :: u) := by
  by_cases hcomment : s.mode = .comment
  · -- the blank and the `#` are two more characters of the comment that is open already
    have hlong : '\n' ∉ ' ' :: '#' :: t := by simpa using ht
    have hshort : '\n' ∉ [' '] := by decide
    exact (feed_comment hcomment hlong u).trans (feed_comment hcomment hshort u).symm
  · cases hstep : s.step ' ' with
    | error e => rw [feed, feed, hstep]
    | ok s' =>
      have hopens : s'.Opens := (takes_of_step hstep).opens_of_blank rfl hcomment hescape
      have hhash : s'.step '#' = .ok { s' with mode := .comment } := hopens.step_eq rfl rfl
      have hnewline : s'.step '\n' = .ok { s' with mode := .boundary } := hopens.step_eq rfl rfl
      rw [feed_cons_eq hstep, feed_cons_eq hstep, feed_cons_eq hhash, feed_cons_eq hnewline,
        feed_comment rfl ht]

end ScanState

/-- **Comments can be deleted.**  Let a text not end in a backslash.  With a blank and a comment
behind it, and more lines behind that, it is scanned as if the comment were not there: the result is
the same, and so are the prompts and the replies left. -/
theorem scan_comment_deleted {s t : String} (hs : s.toList.getLast? ≠ some '\\')
    (ht : '\n' ∉ t.toList) (u : String) (replies : List Reply) :
    scan (s ++ " #" ++ t ++ "\n" ++ u) replies = scan (s ++ " " ++ "\n" ++ u) replies := by
  have hwith : (s ++ " #" ++ t ++ "\n" ++ u).toList =
      s.toList ++ ' ' :: '#' :: (t.toList ++ '\n' :: u.toList) := by
    simp
  have hwithout : (s ++ " " ++ "\n" ++ u).toList = s.toList ++ ' ' :: '\n' :: u.toList := by
    simp
  rw [scan, scan, hwith, hwithout]
  cases hfeed : ScanState.initial.feed s.toList with
  | error e =>
    rw [ScanState.feed_append, ScanState.feed_append, hfeed]
    rfl
  | ok s' =>
    have hescape : ∀ w, s'.mode ≠ .escape w := fun w hmode =>
      hs (ScanState.getLast?_of_escape hfeed hmode)
    rw [ScanState.feed_append_eq hfeed, ScanState.feed_append_eq hfeed,
      ScanState.feed_blank_comment hescape ht]

/-- The comment stands behind a connective.  It has marks in it and ends in a backslash, and the
line behind it asks for a reply. -/
theorem scan_comment_deleted_marks :
    "ls &&".toList.getLast? ≠ some '\\' ∧ '\n' ∉ "&& ;; | \\".toList ∧
      scan ("ls &&" ++ " #" ++ "&& ;; | \\" ++ "\n" ++ "pwd \\") [.ok "x"] =
        scan ("ls &&" ++ " " ++ "\n" ++ "pwd \\") [.ok "x"] ∧
      scan ("ls &&" ++ " #" ++ "&& ;; | \\" ++ "\n" ++ "pwd \\") [.ok "x"] =
        ⟨.ok [⟨.programName, "ls"⟩, Token.connective .and, ⟨.programName, "pwd"⟩,
          ⟨.argument, "x"⟩, Token.endOfInput], [.backslash], []⟩ := by
  have hs : "ls &&".toList.getLast? ≠ some '\\' := by decide
  have ht : '\n' ∉ "&& ;; | \\".toList := by decide
  have hscan := scan_comment_deleted hs ht "pwd \\" [.ok "x"]
  exact ⟨hs, ht, hscan, hscan.trans rfl⟩

end LineShell
