import LineShell.Text.Fields

/-!
# Finding the file of a program

A program is named by a path.  A path that consists of a single name is looked for in the
directories of a *search list*, which are separated by colons; any other path names its file
directly and is only tested for being there.

Paths are compared by their components, so `ok/` and `ok/.` are single names just like `ok`.  A
path that starts with the component `.` is first taken as it stands.
-/

set_option autoImplicit false
namespace LineShell

/-- What the search can find out about the files of a machine. -/
structure FileTests where
  /-- Is there a file or a directory with this path? -/
  present : String → Bool
  /-- Is there a file with this path? -/
  isFile : String → Bool

namespace Lookup

/-- Does the path start at the root? -/
def isAbsolute (path : String) : Bool :=
  path.toList.head? == some '/'

/-- The components of a relative path.  Empty parts, which come from repeated and trailing slashes,
and parts `.` other than a leading one do not count. -/
def components (path : String) : List String :=
  match Text.fields '/' path.toList with
  | [] => []
  | first :: later =>
    ((if first = [] then [] else [first]) ++ later.filter fun part => part ≠ [] ∧ part ≠ ['.']).map
      String.ofList

/-- The entries of a search list, empty ones included. -/
def entries (search : String) : List String :=
  (Text.fields ':' search.toList).map String.ofList

/-- The path of a name in a directory.  An empty directory adds nothing, and a directory that ends
in a slash needs no other. -/
def join (dir name : String) : String :=
  if dir = "" ∨ dir.toList.getLast? = some '/' then dir ++ name else dir ++ "/" ++ name

/-- The path itself, if there is something there. -/
def direct (tests : FileTests) (path : String) : Option String :=
  if tests.present path then some path else none

/-- The first file with the given name in the directories of a search list. -/
def searched (tests : FileTests) (search name : String) : Option String :=
  ((entries search).map (join · name)).find? tests.isFile

/-- The path of the file of a program. -/
def find? (tests : FileTests) (search path : String) : Option String :=
  if isAbsolute path then direct tests path
  else
    let parts := components path
    if parts.head? = some "." ∧ tests.present path then some path
    else
      match parts with
      | [] => none
      | [name] => searched tests search name
      | _ => direct tests path

end Lookup
end LineShell
