import LineShell.Scan.Error
import LineShell.Text.Trim
import LineShell.Token

/-!
# Reading a line character by character

A line is read from left to right, one character at a time, by a small automaton.  `ScanState`
holds the tokens found so far and a `Mode`, which says what the next character can mean;
`ScanState.step` takes one character, and `ScanState.feed` a whole text.

The rules, in the order in which the modes appear:

* At a *boundary* a character starts something new.  Blanks (space, tab, carriage return) separate
  words; a newline is skipped and, unlike a blank, does not count as a gap between words; `#`
  starts a *comment* that lasts to the end of the line; everything that is not a mark starts a
  *word*.
* In a word a backslash takes away the meaning of the character after it.  A word ends before a
  blank, a newline or a mark, and `#` is an ordinary character in it.
* `;` may not be followed directly by another mark.
* A connective's sign has to be doubled.  After a connective, and after blanks behind it, no
  second connective may start.

The text that ends in the middle of a line is the other half of the story: `ScanState.pause` tells
whether the tokens are complete or more text is needed, and `ScanState.resume` goes on with it.
-/

set_option autoImplicit false
namespace LineShell

/-! ## Classes of characters -/

/-- Blanks separate the words of a command. -/
def isBlank (c : Char) : Bool :=
  c == ' ' || c == '\t' || c == '\r'

/-- Marks structure the line, unless they are escaped or stand in a comment. -/
def isMark (c : Char) : Bool :=
  c == '&' || c == '|' || c == ';'

/-- The characters before which a word ends. -/
def endsWord (c : Char) : Bool :=
  isBlank c || c == '\n' || isMark c

/-! ## The state -/

/-- A word under construction. -/
structure Word where
  /-- Did the word start with a backslash? -/
  escaped : Bool
  /-- The characters of the word so far, with the escapes resolved. -/
  text : String
  deriving DecidableEq, Repr, Inhabited

/-- The word with one more character. -/
def Word.push (w : Word) (c : Char) : Word :=
  { w with text := w.text.push c }

/-- The text of a word as it goes into a token: spaces at the ends, which can only have come from
escapes, are dropped. -/
def Word.lexeme (w : Word) : String :=
  String.ofList (Text.trimBoth (· == ' ') w.text.toList)

/-- What the next character can mean. -/
inductive Mode where
  /-- Nothing is open. -/
  | boundary
  /-- In a comment. -/
  | comment
  /-- In a word. -/
  | word (w : Word)
  /-- In a word, right after a backslash. -/
  | escape (w : Word)
  /-- Right after `;`. -/
  | semicolon
  /-- After the first sign of a connective. -/
  | half (k : Connective)
  /-- After a connective; `bare` as long as nothing follows it. -/
  | connective (k : Connective) (bare : Bool)
  /-- After a connective and a sign `c` that has no place there. -/
  | clash (c : Char)
  deriving DecidableEq, Repr, Inhabited

/-- The state of a scan. -/
structure ScanState where
  /-- The tokens found so far, the newest first. -/
  tokens : List Token
  /-- Was there a blank since the last word? -/
  gap : Bool
  /-- Is the next word the name of a program? -/
  expectsProgram : Bool
  /-- What the next character can mean. -/
  mode : Mode
  deriving DecidableEq, Repr, Inhabited

namespace ScanState

/-- The state before the first character of a line. -/
def initial : ScanState := ⟨[], false, true, .boundary⟩

/-! ## Finding tokens -/

/-- Adds text to the newest token; if there is none, the text becomes an argument. -/
def attach (lexeme : String) : List Token → List Token
  | [] => [⟨.argument, lexeme⟩]
  | t :: ts => { t with lexeme := t.lexeme ++ lexeme } :: ts

/-- Ends a word.  The first word of a command names its program.  Among the others, a word that
starts with an escape continues the one before it if no blank stands between them, which happens
when they are on different lines.  A word without characters leaves no trace. -/
def close (s : ScanState) (w : Word) : ScanState :=
  if w.text = "" then s
  else if s.expectsProgram then
    { s with tokens := ⟨.programName, w.lexeme⟩ :: s.tokens, gap := false, expectsProgram := false }
  else if w.escaped && !s.gap then
    { s with tokens := attach w.lexeme s.tokens, gap := false }
  else
    { s with tokens := ⟨.argument, w.lexeme⟩ :: s.tokens, gap := false }

/-- Adds the token of a mark, after which a new command starts. -/
def mark (s : ScanState) (t : Token) (mode : Mode) : ScanState :=
  { s with tokens := t :: s.tokens, expectsProgram := true, mode := mode }

/-! ## Taking characters -/

/-- Takes a character at a boundary. -/
def start (s : ScanState) (c : Char) : ScanState :=
  if c = ';' then s.mark .semicolon .semicolon
  else if c = '&' then { s with mode := .half .and }
  else if c = '|' then { s with mode := .half .or }
  else if isBlank c then { s with gap := true, mode := .boundary }
  else if c = '\n' then { s with mode := .boundary }
  else if c = '#' then { s with mode := .comment }
  else if c = '\\' then { s with mode := .escape ⟨true, ""⟩ }
  else { s with mode := .word ⟨false, String.singleton c⟩ }

/-- Takes one character. -/
def step (s : ScanState) (c : Char) : Except LexicalError ScanState :=
  match s.mode with
  | .boundary => .ok (s.start c)
  | .comment => .ok (if c = '\n' then { s with mode := .boundary } else s)
  | .word w =>
    if endsWord c then .ok ((s.close w).start c)
    else if c = '\\' then .ok { s with mode := .escape w }
    else .ok { s with mode := .word (w.push c) }
  | .escape w => .ok { s with mode := .word (w.push c) }
  | .semicolon =>
    if isMark c then .error (.unexpected (String.ofList [';', c])) else .ok (s.start c)
  | .half k =>
    if c = k.sign then .ok (s.mark (.connective k) (.connective k true))
    else .error (.unsupported k)
  | .connective k _ =>
    if isBlank c then .ok { s with gap := true, mode := .connective k false }
    else if c = '&' ∨ c = '|' then .ok { s with mode := .clash c }
    else .ok (s.start c)
  | .clash first =>
    .error (.unexpected (String.ofList (if isMark c then [first, c] else [first])))

/-- Takes the characters of a text, up to the first error. -/
def feed (s : ScanState) : List Char → Except LexicalError ScanState
  | [] => .ok s
  | c :: cs =>
    match s.step c with
    | .error e => .error e
    | .ok s' => s'.feed cs

/-! ## At the end of the text -/

/-- The tokens found so far in the order of the line, with the end of the line behind them. -/
def result (s : ScanState) : List Token :=
  (Token.endOfInput :: s.tokens).reverse

/-- Where a scan stands when it has taken all its text. -/
inductive Pause where
  /-- The line is complete, or known to be wrong. -/
  | done (result : Except LexicalError (List Token))
  /-- The line goes on; the prompt asks for the rest. -/
  | asks (prompt : Prompt)
  deriving Repr

/-- Looks at the end of the text.  A backslash with nothing after it and a connective with nothing
at all after it ask for another line; anything else is complete as it stands. -/
def pause (s : ScanState) : Pause :=
  match s.mode with
  | .boundary | .comment | .semicolon | .connective _ false => .done (.ok s.result)
  | .word w => .done (.ok (s.close w).result)
  | .escape _ => .asks .backslash
  | .half k => .done (.error (.unsupported k))
  | .connective k true => .asks (.connective k)
  | .clash c => .done (.error (.unexpected (String.ofList [c])))

/-- Takes a line that was asked for.  Behind a backslash it continues the word as it is.  Behind a
connective it loses blanks and newlines at both ends, so that a line of nothing else changes
nothing, and the scan goes on asking. -/
def resume (s : ScanState) (line : String) : Except LexicalError ScanState :=
  match s.mode with
  | .escape w => { s with mode := .word w }.feed line.toList
  | _ => s.feed (Text.trimBoth (fun c => isBlank c || c == '\n') line.toList)

/-! ## Equations -/

@[simp]
theorem feed_nil (s : ScanState) : s.feed [] = .ok s := rfl

theorem feed_cons (s : ScanState) (c : Char) (cs : List Char) :
    s.feed (c :: cs) = (s.step c).bind (·.feed cs) := by
  rw [feed]
  cases s.step c <;> rfl

/-- Taking two texts one after the other is taking them as one. -/
theorem feed_append (s : ScanState) (cs ds : List Char) :
    s.feed (cs ++ ds) = (s.feed cs).bind (·.feed ds) := by
  induction cs generalizing s with
  | nil => rfl
  | cons c cs ih =>
    rw [List.cons_append, feed_cons, feed_cons]
    cases s.step c with
    | error e => rfl
    | ok s' => exact ih s'

end ScanState
end LineShell
