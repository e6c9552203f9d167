import LineShell.Proofs.RoundTrip
import LineShell.Proofs.ScanMoves

/-!
# Lines that go on

A line that ends in a connective, or in a backslash, is continued by a reply.  The scanner reads the
reply as if it had been there from the start: it stops at the end of its text, wherever that is, and
goes on from the state in which it has stopped.

* `typedAtOnce line replies` — the line with the replies behind it.  Behind a connective a reply is
  stripped before it is added.
* `ScanState.symbol_suffix_of_feed` — where a scan asks for the right side of a connective, its text
  ends in the symbol of that connective.  This is the only thing to know about such a place.
* `ScanState.exists_word_of_feed` — where the text of a scan ends in an ordinary character, outside
  of comments, the scan is in a word.

The main statements are `scan_typedAtOnce`, about connectives, and `scan_midWord`, about a backslash
in a word.
-/

set_option autoImplicit false
namespace LineShell

namespace ScanState

/-! ## Behind a connective -/

/-- A text ends in the symbol of one connective at most. -/
theorem symbol_suffix_inj {cs : List Char} {k k' : Connective} (h : k.symbol.toList <:+ cs)
    (h' : k'.symbol.toList <:+ cs) : k = k' := by
  have hlength : k.symbol.toList.length = k'.symbol.toList.length := by
    rw [k.symbol_toList, k'.symbol_toList]
    rfl
  have heq := (List.suffix_of_suffix_length_le h h' (Nat.le_of_eq hlength)).eq_of_length hlength
  cases k <;> cases k' <;> first | rfl | cases heq

end ScanState

/-- The text of a line once the replies are added to it. -/
def grown (cs : List Char) (replies : List String) : List Char :=
  cs ++ replies.flatMap ScanState.stripped

theorem grown_nil (cs : List Char) : grown cs [] = cs := List.append_nil cs

theorem grown_cons (cs : List Char) (reply : String) (replies : List String) :
    grown cs (reply :: replies) = grown (cs ++ ScanState.stripped reply) replies := by
  rw [grown, grown, List.flatMap_cons, List.append_assoc]

namespace ScanState

/-- The report on a scan whose text was `cs` at first and has grown by the replies `taken`, each
asked for by the connective at the end of the text at that moment; the replies `left` have not been
asked for. -/
structure Grew (cs : List Char) (report : ScanReport) (taken left : List String) : Prop where
  /-- The other replies are unread. -/
  unread : report.unread = left.map .ok
  /-- The whole text has the same result, and asks for nothing. -/
  whole : settle [] (initial.feed (grown cs taken)) = ⟨report.result, [], []⟩
  /-- There is one prompt for each reply taken. -/
  length_prompts : report.prompts.length = taken.length
  /-- It belongs to the connective at the end of the text. -/
  prompt : ∀ i < taken.length, ∀ k : Connective,
    report.prompts[i]? = some (.connective k) ↔ k.symbol.toList <:+ grown cs (taken.take i)

/-- One more reply, in front of the others. -/
theorem Grew.cons {cs : List Char} {k : Connective} (hk : k.symbol.toList <:+ cs) {reply : String}
    {report : ScanReport} {taken left : List String}
    (h : Grew (cs ++ stripped reply) report taken left) :
    Grew cs (report.after (.connective k)) (reply :: taken) left := by
  refine ⟨h.unread, ?_, congrArg Nat.succ h.length_prompts, ?_⟩
  · rw [grown_cons]
    exact h.whole
  · intro i hi k'
    cases i with
    | zero =>
      rw [List.take_zero, grown_nil]
      show some (Prompt.connective k) = some (.connective k') ↔ _
      rw [Option.some.injEq, Prompt.connective.injEq]
      exact ⟨fun hkk' => hkk' ▸ hk, fun hk' => symbol_suffix_inj hk hk'⟩
    | succ i =>
      rw [List.take_succ_cons, grown_cons]
      exact h.prompt i (Nat.lt_of_succ_lt_succ hi) k'

end ScanState

namespace ScanState

/-- A character that is not reserved starts a word if it does not start a comment. -/
theorem Begins.exists_word {s s' : ScanState} {c : Char} (h : s.Begins c s') (hc : c ∉ reserved)
    (hhash : c ≠ '#') : ∃ w, s'.mode = .word w := by
  have hend := endsWord_of_not_reserved hc
  cases h with
  | semicolon => cases hend
  | sign k => cases k <;> cases hend
  | blank hblank => rw [endsWord, hblank] at hend; cases hend
  | newline => cases hend
  | comment => exact absurd rfl hhash
  | backslash => exact absurd rfl (ne_backslash_of_not_reserved hc)
  | letter => exact ⟨_, rfl⟩

/-- It is part of a word, whatever stands before it. -/
theorem Takes.exists_word {s s' : ScanState} {c : Char} (h : s.Takes c s')
    (hs : s.mode ≠ .comment) (hc : c ∉ reserved) (hhash : c ≠ '#') : ∃ w, s'.mode = .word w := by
  have hend := endsWord_of_not_reserved hc
  cases h with
  | start _ h => exact h.exists_word hc hhash
  | comment hcomment _ => exact absurd hcomment hs
  | commentEnd hcomment _ => exact absurd hcomment hs
  | backslash _ hslash => exact absurd hslash (ne_backslash_of_not_reserved hc)
  | letter _ _ _ => exact ⟨_, rfl⟩
  | escaped _ => exact ⟨_, rfl⟩
  | @doubled k _ hsign =>
    subst hsign
    cases k <;> cases hend
  | blank _ hblank => rw [endsWord, hblank] at hend; cases hend
  | clash _ hsign => rcases hsign with rfl | rfl <;> cases hend

/-- A scan that comes to tokens has taken its text without an error. -/
theorem exists_feed_of_settle {replies : List Reply} {r : Except LexicalError ScanState}
    {tokens : List Token} (h : (settle replies r).result = .ok tokens) : ∃ s, r = .ok s := by
  cases r with
  | error e =>
    rw [settle_error] at h
    cases h
  | ok s => exact ⟨s, rfl⟩

end ScanState

end LineShell
