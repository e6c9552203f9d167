import LineShell.Scan.Line

/-!
# Scanning with a cursor

The scan of `LineShell.Scan.Line` takes each character once and remembers what matters of it.  A
`Scanner` does the same work in another way: it keeps the whole text that it has got, moves a cursor
over it, and looks ahead where it wants to know what follows.  When the text is over and the line is
not complete, it asks for a reply and puts it behind the text.

Its work is done in loops.  The outermost one goes over the tokens of the line; inside it, others go
over the characters of a comment, over the characters of a word, and over the replies behind a
connective until one is not blank.  A `Point` says where in these loops a scanner stands, and
`Scanner.step` does what is to be done there.  At some points the cursor is moved on after a look at
the character that it stands at; and the look past the blanks behind a connective cuts the text at
the cursor, which cannot be done if the cursor has left the text.
-/

set_option autoImplicit false
namespace LineShell

/-- Where a scanner stands in its loops. -/
inductive Point where
  /-- In front of a token. -/
  | line
  /-- At a token whose first character `c` has been taken. -/
  | token (c : Char)
  /-- In a comment. -/
  | comment
  /-- In a word whose next character `c` has been taken.  Until something is `found`, the word has
  no characters. -/
  | unit (w : Word) (found : Bool) (c : Char)
  /-- In a word, behind what was taken last. -/
  | word (w : Word) (found : Bool)
  /-- Behind both signs of a connective. -/
  | connective (k : Connective)
  /-- Behind a connective that nothing follows. -/
  | continuation (k : Connective)
  /-- Behind a connective, in front of the reply that follows it. -/
  | operand (k : Connective)
  deriving DecidableEq, Repr, Inhabited

/-- A scan with a cursor. -/
structure Scanner where
  /-- The line, and behind it what was taken of the replies. -/
  input : List Char
  /-- How many characters of the text lie behind the scanner. -/
  cursor : Nat
  /-- The tokens found so far, the newest first. -/
  tokens : List Token
  /-- Was there a blank since the last word? -/
  gap : Bool
  /-- Is the next word the name of a program? -/
  expectsProgram : Bool
  /-- The prompts shown so far, one for each request for a reply. -/
  prompts : List Prompt
  /-- The replies still to come. -/
  replies : List Reply
  /-- Where the scanner stands. -/
  point : Point

namespace Scanner

/-- What a step comes to. -/
inductive Turn where
  /-- The scan goes on. -/
  | goesOn (s : Scanner)
  /-- The scan is over. -/
  | ends (r : ScanReport)
  /-- The text was to be looked at where there is none. -/
  | outOfBounds

/-- The scanner of a line. -/
def start (line : String) (replies : List Reply) : Scanner :=
  ⟨line.toList, 0, [], false, true, [], replies, .line⟩

/-! ## The text -/

/-- The character at the cursor, if the text is not over. -/
def peek (s : Scanner) : Option Char := s.input[s.cursor]?

/-- Moves the cursor on, whatever it stands at. -/
def bump (s : Scanner) : Scanner := { s with cursor := s.cursor + 1 }

/-- The text from the cursor on, which there is only if the cursor has not left the text. -/
def ahead? (s : Scanner) : Option (List Char) :=
  if s.cursor ≤ s.input.length then some (s.input.drop s.cursor) else none

/-- Puts characters behind the text. -/
def extend (s : Scanner) (cs : List Char) : Scanner := { s with input := s.input ++ cs }

/-! ## Tokens -/

/-- Adds the token of a mark, after which a new command starts. -/
def mark (s : Scanner) (t : Token) : Scanner :=
  { s with tokens := t :: s.tokens, expectsProgram := true }

/-- Ends a word.  It becomes the name of a program, or a part of the token before it if it starts
with an escape and no blank stands before it, or else an argument. -/
def close (s : Scanner) (w : Word) (found : Bool) : Scanner :=
  if !found then s
  else if s.expectsProgram then
    { s with tokens := ⟨.programName, w.lexeme⟩ :: s.tokens, gap := false, expectsProgram := false }
  else if w.escaped && !s.gap then
    { s with tokens := ScanState.attach w.lexeme s.tokens, gap := false }
  else
    { s with tokens := ⟨.argument, w.lexeme⟩ :: s.tokens, gap := false }

/-! ## Turns -/

/-- Goes on at a point. -/
def reach (s : Scanner) (p : Point) : Turn := .goesOn { s with point := p }

/-- Ends the scan. -/
def finish (s : Scanner) (result : Except LexicalError (List Token)) : Turn :=
  .ends ⟨result, s.prompts, s.replies⟩

/-- Shows a prompt and goes on with the reply, if it is a line. -/
def ask (s : Scanner) (p : Prompt) (next : Scanner → String → Turn) : Turn :=
  let asking := { s with prompts := s.prompts ++ [p], replies := s.replies.tail }
  match s.replies with
  | [] => asking.finish (.error (.read .endOfInput))
  | .error failure :: _ => asking.finish (.error (.read failure))
  | .ok line :: _ => next asking line

/-- Goes on with `next` unless the first character from the cursor on that is no blank is the sign
of a connective.  If it is, it has no place there, and neither has a mark behind it. -/
def unlessJoined (s : Scanner) (next : Turn) : Turn :=
  match s.ahead? with
  | none => .outOfBounds
  | some ahead =>
    match ahead.findIdx? (!isBlank ·) with
    | none => next
    | some offset =>
      match s.input[s.cursor + offset]? with
      | none => .outOfBounds
      | some c =>
        if isMark c && c != ';' then
          let second := s.input[s.cursor + offset + 1]?.filter isMark
          s.finish (.error (.unexpected (String.ofList (c :: second.toList))))
        else next

/-- Takes the second sign of a connective. -/
def double (s : Scanner) (k : Connective) : Turn :=
  if s.peek = some k.sign then s.bump.reach (.connective k)
  else s.finish (.error (.unsupported k))

/-- Finds out what the token is that starts with a character. -/
def dispatch (s : Scanner) (c : Char) : Turn :=
  if c = ';' then
    match s.peek.filter isMark with
    | some d => s.finish (.error (.unexpected (String.ofList [';', d])))
    | none => (s.mark .semicolon).reach .line
  else if c = '&' then s.double .and
  else if c = '|' then s.double .or
  else if isBlank c then { s with gap := true }.reach .line
  else if c = '\n' then s.reach .line
  else if c = '#' then s.reach .comment
  else s.reach (.unit ⟨c == '\\', ""⟩ false c)

/-- Takes a character into a word.  A backslash takes the character behind it along; with nothing
behind it, it asks for a reply, with which the word goes on. -/
def take (s : Scanner) (w : Word) (found : Bool) (c : Char) : Turn :=
  if c = '\\' then
    match s.peek with
    | some d => s.bump.reach (.word (w.push d) true)
    | none => s.ask .backslash fun s line => (s.extend line.toList).reach (.word w found)
  else s.reach (.word (w.push c) true)

/-- Does what is to be done at the point where the scanner stands. -/
def step (s : Scanner) : Turn :=
  match s.point with
  | .line =>
    match s.peek with
    | some c => s.bump.reach (.token c)
    | none => s.finish (.ok (Token.endOfInput :: s.tokens).reverse)
  | .token c => s.dispatch c
  | .comment =>
    match s.peek with
    | some c => if c ≠ '\n' then s.bump.reach .comment else s.reach .line
    | none => s.reach .line
  | .unit w found c => s.take w found c
  | .word w found =>
    match s.peek with
    | some c =>
      if endsWord c then (s.close w found).reach .line else s.bump.reach (.unit w found c)
    | none => (s.close w found).reach .line
  | .connective k =>
    s.unlessJoined ((s.mark (.connective k)).reach
      (if s.peek = none then .continuation k else .line))
  | .continuation k =>
    s.ask (.connective k) fun s line =>
      let added := Text.trimBoth (fun c => isBlank c || c == '\n') line.toList
      if added = [] then s.reach (.continuation k) else (s.extend added).reach (.operand k)
  | .operand _ => s.unlessJoined (s.reach .line)

end Scanner
end LineShell
