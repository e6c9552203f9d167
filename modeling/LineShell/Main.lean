import LineShell.CommandLine
import LineShell.FileTree.Launch

/-!
# The executable

The outer layer: it reads the input, hands it with the arguments to `CommandLine.run` and writes
what the log holds.  It starts no processes itself.  The programs are those of a file tree, and the
one used here is empty, so that every program is reported as not found.
-/

set_option autoImplicit false
namespace LineShell
namespace Main

/-- A machine without files. -/
def bareMachine (search : String) : Machine :=
  ⟨⟨fun place => if place = [] then some .directory else none, []⟩, search, search⟩

/-- Reads a stream to its end. -/
partial def readAll (input : IO.FS.Stream) (bytes : ByteArray) : IO ByteArray := do
  let chunk ← input.read 65536
  if chunk.isEmpty then return bytes else readAll input (bytes ++ chunk)

/-- Writes what an event shows. -/
def showEvent (bare : Bool) (e : Event) : IO Unit := do
  match e with
  | .write .error text => (← IO.getStderr).putStr text
  | _ =>
    let output ← IO.getStdout
    output.putStr (CommandLine.outputText bare e)
    output.flush

end Main
end LineShell

open LineShell in
/-- Runs the shell. -/
def main (args : List String) : IO UInt32 := do
  let bytes ←
    if CommandLine.readsInput args then Main.readAll (← IO.getStdin) ByteArray.empty
    else pure ByteArray.empty
  let search := (← IO.getEnv "PATH").getD ""
  let bare := CommandLine.isBareTerminal ((← IO.getEnv "TERM").getD "")
  let report := CommandLine.run Machine.run args (CommandLine.repliesOf bytes.toList)
    (Main.bareMachine search)
  report.log.forM (Main.showEvent bare)
  return UInt32.ofNat report.status
