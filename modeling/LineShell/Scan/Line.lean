import LineShell.Scan.State

/-!
# Scanning a line and its continuations

`scan line replies` reads a whole line: it takes the characters of `line` and, whenever the line
turns out to be incomplete, the next reply.  The report says what came out, which prompts were
shown on the way and which replies are left.

Every prompt shown consumes one reply, so a scan shows at most one prompt more than there are
replies, and the recursion is on their list.
-/

set_option autoImplicit false
namespace LineShell

/-- What a scan has done. -/
structure ScanReport where
  /-- The tokens of the line, or the reason why it has none. -/
  result : Except LexicalError (List Token)
  /-- The prompts shown, in order. -/
  prompts : List Prompt
  /-- The replies that were not asked for. -/
  unread : List Reply

/-- The same report with one more prompt shown at the start. -/
def ScanReport.after (r : ScanReport) (p : Prompt) : ScanReport :=
  { r with prompts := p :: r.prompts }

namespace ScanState

/-- Brings a scan that has taken its text to an end, with the help of the replies. -/
def settle : List Reply → Except LexicalError ScanState → ScanReport
  | replies, .error e => ⟨.error e, [], replies⟩
  | [], .ok s =>
    match s.pause with
    | .done result => ⟨result, [], []⟩
    | .asks p => ⟨.error (.read .endOfInput), [p], []⟩
  | reply :: replies, .ok s =>
    match s.pause with
    | .done result => ⟨result, [], reply :: replies⟩
    | .asks p =>
      match reply with
      | .error failure => ⟨.error (.read failure), [p], replies⟩
      | .ok line => (settle replies (s.resume line)).after p

/-- A scan never has more replies left than it was given. -/
theorem length_unread_settle_le (replies : List Reply) (r : Except LexicalError ScanState) :
    (settle replies r).unread.length ≤ replies.length := by
  induction replies generalizing r with
  | nil =>
    cases r with
    | error e => simp [settle]
    | ok s => simp only [settle]; split <;> simp
  | cons reply replies ih =>
    cases r with
    | error e => simp [settle]
    | ok s =>
      simp only [settle]
      split
      · simp
      · split
        · simp
        · exact Nat.le_succ_of_le (ih _)

end ScanState

/-- Reads a line, asking for more whenever it is incomplete. -/
def scan (line : String) (replies : List Reply) : ScanReport :=
  ScanState.settle replies (ScanState.initial.feed line.toList)

theorem length_unread_scan_le (line : String) (replies : List Reply) :
    (scan line replies).unread.length ≤ replies.length :=
  ScanState.length_unread_settle_le _ _

end LineShell
