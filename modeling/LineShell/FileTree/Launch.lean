import LineShell.FileTree

/-!
# Starting the programs of a file tree

`Machine.run` is the runner that finds and starts the programs of a file tree.  Finding is the
shell's own business; starting is left to the machine, which has rules of its own: it refuses
directories, files that are not executable and arguments that are too long, and it looks for a path
without a slash in a search list that need not be the shell's.
-/

set_option autoImplicit false
namespace LineShell

/-- Why a program could not be started. -/
inductive LaunchError where
  /-- It is a directory, or not executable. -/
  | denied
  /-- There is no such file, or no interpreter for it. -/
  | missing
  /-- A file stands in its path where a directory is needed. -/
  | notDirectory
  /-- Its path or a name in it is too long. -/
  | nameTooLong
  /-- An argument is too long. -/
  | argumentTooLong
  /-- The program or an argument holds a NUL character. -/
  | nulCharacter
  deriving DecidableEq, Repr, Inhabited

/-- The wording of each error. -/
def LaunchError.message : LaunchError → String
  | .denied => "Permission denied (os error 13)"
  | .missing => "No such file or directory (os error 2)"
  | .notDirectory => "Not a directory (os error 20)"
  | .nameTooLong => "File name too long (os error 36)"
  | .argumentTooLong => "Argument list too long (os error 7)"
  | .nulCharacter => "nul byte found in provided data"

/-- Does the error put an end to the search for a program?  The others only tell that the program
is not there, or not to be started from there. -/
def LaunchError.endsSearch : LaunchError → Bool
  | .nameTooLong | .argumentTooLong | .nulCharacter => true
  | .denied | .missing | .notDirectory => false

namespace FileTree

/-- The number of bytes that an argument has to stay below. -/
def argumentLimit : Nat := 131072

/-- Starts the program with exactly this path. -/
def start (t : FileTree) (args : List String) (path : String) : Except LaunchError ProgramRun :=
  match t.resolve path with
  | .error .missing => .error .missing
  | .error .notDirectory => .error .notDirectory
  | .error .tooLong => .error .nameTooLong
  | .ok .directory => .error .denied
  | .ok (.file f) =>
    if !f.executable then .error .denied
    else if args.any fun arg => argumentLimit ≤ arg.utf8ByteSize then .error .argumentTooLong
    else
      match f.content with
      | .orphanScript => .error .missing
      | .program run => .ok (run path args)

/-- Starts the first of the paths that can be started.  If none can, the last refusal decides,
unless one of them ended the search or was for lack of permission. -/
def startFirst (t : FileTree) (args : List String) :
    LaunchError → List String → Except LaunchError ProgramRun
  | refusal, [] => .error refusal
  | refusal, path :: paths =>
    match t.start args path with
    | .ok run => .ok run
    | .error e =>
      if e.endsSearch then .error e
      else t.startFirst args (if refusal = .denied then refusal else e) paths

/-- The paths under which a program without a slash is looked for.  An entry that is too long for
any path counts as empty, which is the working directory, but as nothing if it is the last one. -/
def candidates (program : String) : List String → List String
  | [] => []
  | entry :: later =>
    if entry.utf8ByteSize < pathLimit then
      (if entry = "" then program else entry ++ "/" ++ program) :: candidates program later
    else if later = [] then []
    else program :: candidates program later

/-- Starts a program; one without a slash is looked for in the search list. -/
def launch (t : FileTree) (search program : String) (args : List String) :
    Except LaunchError ProgramRun :=
  if (program :: args).any fun word => word.toList.contains '\x00' then .error .nulCharacter
  else if program.toList.contains '/' then t.start args program
  else t.startFirst args .missing (candidates program (Lookup.entries search))

end FileTree

/-- A file tree with the search list of the shell and the one of the machine. -/
structure Machine where
  /-- The files. -/
  files : FileTree
  /-- Where the shell looks for programs. -/
  search : String
  /-- Where the machine looks for programs started without a slash. -/
  launchSearch : String

/-- Finds a program and starts it. -/
def Machine.run : Runner Machine := fun m program args =>
  match Lookup.find? m.files.tests m.search program with
  | none => (⟨[], some (.notFound program)⟩, m)
  | some path =>
    match m.files.launch m.launchSearch path args with
    | .error e => (⟨[], some (.spawn program e.message)⟩, m)
    | .ok r => (⟨r.writes, r.halt.failure⟩, m)

end LineShell
