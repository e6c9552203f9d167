import LineShell.Execution
import LineShell.Lookup

/-!
# Files and programs

A machine, as far as the shell can tell: a tree of directories and files, some of which are
programs.  `FileTree.resolve` follows a path through the tree the way an operating system does, so
that every part of a path but the last has to be a directory, and the last one too if a slash
follows it.
-/

set_option autoImplicit false
namespace LineShell

/-- How a program ended. -/
inductive Halt where
  /-- By itself, with a status. -/
  | status (n : Nat)
  /-- By a signal. -/
  | signal (n : Nat)
  deriving DecidableEq, Repr, Inhabited

/-- The failure that an ending amounts to. -/
def Halt.failure : Halt → Option ExecFailure
  | .status 0 => none
  | .status n => some (.exitStatus n)
  | .signal n => some (.signal n)

/-- What a program did. -/
structure ProgramRun where
  /-- What it wrote, in order. -/
  writes : List (Stream × String)
  /-- How it ended. -/
  halt : Halt
  deriving DecidableEq, Repr, Inhabited

/-- What a file holds. -/
inductive Content where
  /-- A program, as a function of the path it is started by and its arguments. -/
  | program (run : String → List String → ProgramRun)
  /-- A script for an interpreter that does not exist. -/
  | orphanScript
  deriving Inhabited

/-- A file. -/
structure File where
  /-- May it be executed? -/
  executable : Bool
  /-- What it holds. -/
  content : Content
  deriving Inhabited

/-- What stands at a place in the tree. -/
inductive Node where
  /-- A directory. -/
  | directory
  /-- A file. -/
  | file (f : File)
  deriving Inhabited

/-- A tree of directories and files.  A place is the list of names that leads to it from the
root. -/
structure FileTree where
  /-- What stands at each place. -/
  node? : List String → Option Node
  /-- The place where relative paths start. -/
  workingDir : List String

/-- Why a path leads nowhere. -/
inductive PathError where
  /-- A name does not exist. -/
  | missing
  /-- A file stands where a directory is needed. -/
  | notDirectory
  /-- The path or one of its names is too long. -/
  | tooLong
  deriving DecidableEq, Repr, Inhabited

namespace FileTree

/-- The number of bytes that a path has to stay below. -/
def pathLimit : Nat := 4096

/-- The largest number of bytes of a name in a directory. -/
def nameLimit : Nat := 255

/-- One step of a path from a place in the tree. -/
def enter (t : FileTree) (place : List String) (name : String) : Except PathError (List String) :=
  match t.node? place with
  | none => .error .missing
  | some (.file _) => .error .notDirectory
  | some .directory =>
    if name = "" ∨ name = "." then .ok place
    else if name = ".." then .ok place.dropLast
    else if nameLimit < name.utf8ByteSize then .error .tooLong
    else
      match t.node? (place ++ [name]) with
      | none => .error .missing
      | some _ => .ok (place ++ [name])

/-- Follows the parts of a path from a place in the tree. -/
def follow (t : FileTree) : List String → List String → Except PathError (List String)
  | place, [] => .ok place
  | place, name :: names => (t.enter place name).bind (t.follow · names)

/-- The node that a path leads to.  The empty path, a path with a NUL character and a path that is
too long lead nowhere, whatever stands in the tree. -/
def resolve (t : FileTree) (path : String) : Except PathError Node :=
  if path = "" ∨ '\x00' ∈ path.toList then .error .missing
  else if pathLimit ≤ path.utf8ByteSize then .error .tooLong
  else
    let start := if Lookup.isAbsolute path then [] else t.workingDir
    let names := (Text.fields '/' path.toList).map String.ofList
    (t.follow start names).bind fun place =>
      match t.node? place with
      | none => .error .missing
      | some node => .ok node

/-- What the search for programs can find out about the tree. -/
def tests (t : FileTree) : FileTests where
  present path := (t.resolve path).toOption.isSome
  isFile path :=
    match t.resolve path with
    | .ok (.file _) => true
    | _ => false

end FileTree
end LineShell
