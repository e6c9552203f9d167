/-!
# Command line arguments

The reader of arguments that `exit` and the shell itself share.  Arguments are read from the left.

* `--help` and `help` ask for the help text.  Reading goes on behind them, and it is an error that
  decides, if there is one; but no option may follow.
* `--` ends the options: everything behind it is positional, `--help` and `help` included.
* Any other argument that starts with `-` has to be an option the grammar knows.  A switch stands
  alone; an option with a value takes the next argument for it, whatever that looks like.
* Everything else is positional.

A grammar says what each option and each positional argument does to the values read so far.
-/

set_option autoImplicit false
namespace LineShell

/-- Why arguments cannot be read. -/
inductive UsageError where
  /-- An argument has no meaning here. -/
  | unrecognized (arg : String)
  /-- An option came last, without the value it takes. -/
  | missingValue (option : String)
  /-- The value of an option is refused. -/
  | badOption (option value reason : String)
  /-- A positional argument is refused. -/
  | badPositional (name value reason : String)
  /-- An option came after a request for help. -/
  | optionAfterHelp
  deriving DecidableEq, Repr

/-- The wording of each error.  All but the last one end in a newline. -/
def UsageError.message : UsageError → String
  | .unrecognized arg => "Unrecognized argument: " ++ arg ++ "\n"
  | .missingValue option => "No value provided for option '" ++ option ++ "'.\n"
  | .badOption option value reason =>
    "Error parsing option '" ++ option ++ "' with value '" ++ value ++ "': " ++ reason ++ "\n"
  | .badPositional name value reason =>
    "Error parsing positional argument '" ++ name ++ "' with value '" ++ value ++ "': " ++ reason ++
      "\n"
  | .optionAfterHelp => "Trailing arguments are not allowed after `help`."

/-- What an option does. -/
inductive OptionRule (α : Type) where
  /-- It stands alone. -/
  | switch (set : α → α)
  /-- It takes a value. -/
  | valued (set : String → α → Except UsageError α)

/-- The options and positional arguments of a command whose values are of type `α`. -/
structure ArgGrammar (α : Type) where
  /-- The rule of each option, and `none` for an unknown one. -/
  option? : String → Option (OptionRule α)
  /-- What a positional argument does. -/
  positional : String → α → Except UsageError α

/-- What arguments ask for. -/
inductive Request (α : Type) where
  /-- The help text. -/
  | help
  /-- To go on with these values. -/
  | run (values : α)
  deriving DecidableEq, Repr

/-- Does the argument ask for help? -/
def asksHelp (arg : String) : Bool :=
  arg == "--help" || arg == "help"

/-- Does the argument look like an option? -/
def looksLikeOption (arg : String) : Bool :=
  arg.toList.head? == some '-'

namespace ArgGrammar

variable {α : Type}

/-- Reads arguments that are all positional. -/
def readPositionals (g : ArgGrammar α) : List String → α → Except UsageError α
  | [], a => .ok a
  | arg :: args, a => (g.positional arg a).bind (g.readPositionals args)

/-- Reads arguments after the values `a`; `help` tells whether help was asked for before them. -/
def readFrom (g : ArgGrammar α) : List String → Bool → α → Except UsageError (Request α)
  | [], help, a => .ok (if help then .help else .run a)
  | arg :: args, help, a =>
    if asksHelp arg then g.readFrom args true a
    else if arg = "--" then
      (g.readPositionals args a).map fun b => if help then .help else .run b
    else if looksLikeOption arg then
      if help then .error .optionAfterHelp
      else
        match g.option? arg with
        | none => .error (.unrecognized arg)
        | some (.switch set) => g.readFrom args help (set a)
        | some (.valued set) =>
          match args with
          | [] => .error (.missingValue arg)
          | value :: rest => (set value a).bind (g.readFrom rest help)
    else (g.positional arg a).bind (g.readFrom args help)

/-- Reads arguments, starting from the values `a`. -/
def read (g : ArgGrammar α) (args : List String) (a : α) : Except UsageError (Request α) :=
  g.readFrom args false a

end ArgGrammar
end LineShell
