import LineShell.Arguments
import LineShell.Console
import LineShell.Text.Backspace
import LineShell.Text.Lines

/-!
# The shell as a program

The command line of the shell decides what it does: run one line given there, or read lines from
its input until it ends.  `CommandLine.run` turns arguments and input into an exit status and a log
of everything written.
-/

set_option autoImplicit false
namespace LineShell

variable {σ : Type}

/-- The values of the command line. -/
structure Invocation where
  /-- The line to run instead of reading lines. -/
  command : Option String
  /-- Are diagnostics in color? -/
  color : Bool
  /-- The prompt shown before each line. -/
  prompt : Option String
  /-- Is each line shown before it runs? -/
  echoes : Bool
  deriving DecidableEq, Repr, Inhabited

/-- What a run of the shell came to. -/
structure ProgramReport where
  /-- The exit status, from 0 to 255. -/
  status : Nat
  /-- What was observed. -/
  log : List Event
  deriving DecidableEq, Repr

namespace CommandLine

/-- The help text. -/
def help : String :=
  "Usage: simp-shell [-c <command>] [--no-color] [--prompt <prompt>] [--dump-ast]\n" ++
  "\n" ++
  "A small interactive shell with `;`, `&&` and `||`.\n" ++
  "\n" ++
  "Options:\n" ++
  "  -c, --command     run this command line and exit instead of starting the\n" ++
  "                    prompt.\n" ++
  "  --no-color        print diagnostics without color.\n" ++
  "  --prompt          prompt shown before each line.\n" ++
  "  --dump-ast        print each parsed line before running it.\n" ++
  "  --help, help      display usage information\n"

/-- The prompt shown if none is given. -/
def defaultPrompt : String := "$ "

/-- The values without any argument. -/
def defaults : Invocation := ⟨none, true, none, false⟩

/-- An option that may be given once only. -/
def once (option : String) (given : Invocation → Option String)
    (set : String → Invocation → Invocation) : OptionRule Invocation :=
  .valued fun value v =>
    if (given v).isSome then .error (.badOption option value "duplicate values provided")
    else .ok (set value v)

/-- The arguments of the shell: four options, and nothing positional. -/
def grammar : ArgGrammar Invocation where
  option? arg :=
    if arg = "-c" ∨ arg = "--command" then
      some (once arg Invocation.command fun value v => { v with command := some value })
    else if arg = "--prompt" then
      some (once arg Invocation.prompt fun value v => { v with prompt := some value })
    else if arg = "--no-color" then some (.switch fun v => { v with color := false })
    else if arg = "--dump-ast" then some (.switch fun v => { v with echoes := true })
    else none
  positional arg _ := .error (.unrecognized arg)

/-! ## Input and output -/

/-- The replies that an input of bytes holds, one for each line.  Backspaces are carried out, as if
the line had been typed. -/
def repliesOf (input : List UInt8) : List Reply :=
  (Text.lines input).map fun
    | some line => .ok (Text.rubOut line)
    | none => .error (.other "stream did not contain valid UTF-8")

/-- On which terminals are prompts written as text, because no line editor works there? -/
def isBareTerminal (term : String) : Bool :=
  ["dumb", "cons25", "emacs"].contains term.toLower

/-- What an event adds to the standard output; prompts count on a bare terminal only. -/
def outputText (bare : Bool) : Event → String
  | .prompt text => if bare then text else ""
  | .write .output text => text
  | .hint => "To exit, press Ctrl+C again or Ctrl+D\n"
  | _ => ""

/-! ## Running -/

/-- The part of an exit status that a process can pass on. -/
def exitByte (n : Int) : Nat :=
  (n % 256).toNat

/-- The report on a line that could not be read. -/
def readComplaint (reason : String) : String :=
  "Error: Failed to read line\n\nCaused by:\n    0: " ++ reason ++ "\n    1: " ++ reason ++ "\n"

/-- Runs the shell with the values of its command line.  A line given there cannot be continued,
and nobody is asked to. -/
def runInvocation (runner : Runner σ) (v : Invocation) (replies : List Reply) (world : σ) :
    ProgramReport :=
  let shell : Shell σ := ⟨runner, v.echoes⟩
  let session := Session.fresh (if v.color then .colored else .plain) world
  match v.command with
  | some line =>
    let s := (shell.runLine line [] session).1
    ⟨exitByte s.status.exitCode, s.log.filter fun e => !e.isPrompt⟩
  | none =>
    let console : Console σ := ⟨shell, v.prompt.getD defaultPrompt⟩
    let report := console.run replies session
    match report.ending with
    | .left n => ⟨exitByte n, report.session.log⟩
    | .readFailed reason =>
      ⟨1, report.session.log ++ [.write .error (readComplaint reason)]⟩

/-- Do the arguments make the shell read its input? -/
def readsInput (args : List String) : Bool :=
  match grammar.read args defaults with
  | .ok (.run v) => v.command.isNone
  | _ => false

/-- Runs the shell with its arguments on an input. -/
def run (runner : Runner σ) (args : List String) (replies : List Reply) (world : σ) :
    ProgramReport :=
  match grammar.read args defaults with
  | .error e =>
    ⟨1, [.write .error (e.message ++ "\nRun simp-shell --help for more information.\n")]⟩
  | .ok .help => ⟨0, [.write .output (help ++ "\n")]⟩
  | .ok (.run v) => runInvocation runner v replies world

end CommandLine
end LineShell
