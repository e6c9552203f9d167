import LineShell.Text.Quoted

/-!
# Running programs

The shell itself starts no programs; it hands them to a *runner*.  A runner is a function with a
state of its own, so that anything can stand behind it: a table of prepared answers, or a machine
with files whose contents matter.
-/

set_option autoImplicit false
namespace LineShell

/-- The two streams that a program and the shell write to. -/
inductive Stream where
  /-- Standard output. -/
  | output
  /-- Standard error. -/
  | error
  deriving DecidableEq, Repr, Inhabited

/-- Why a program did not succeed. -/
inductive ExecFailure where
  /-- There is no such program. -/
  | notFound (program : String)
  /-- The program could not be started. -/
  | spawn (program reason : String)
  /-- The end of the program could not be awaited. -/
  | wait (reason : String)
  /-- The program ended with a status other than 0. -/
  | exitStatus (n : Int)
  /-- The program was ended by a signal. -/
  | signal (n : Int)
  deriving DecidableEq, Repr, Inhabited

/-- The wording of each failure. -/
def ExecFailure.message : ExecFailure → String
  | .notFound program => "exec: " ++ Text.quoted program ++ ": executable file not found in $PATH"
  | .spawn program reason => "exec: " ++ Text.quoted program ++ ": " ++ reason
  | .wait reason => "wait: " ++ reason
  | .exitStatus n => "exit status " ++ toString n
  | .signal n => "signal: " ++ toString n

/-- What running a program led to. -/
structure Execution where
  /-- What the program wrote, in order. -/
  writes : List (Stream × String)
  /-- Why it failed, if it did. -/
  failure : Option ExecFailure
  deriving DecidableEq, Repr, Inhabited

/-- Runs a program with its arguments in a state of type `σ`. -/
abbrev Runner (σ : Type) := σ → String → List String → Execution × σ

end LineShell
