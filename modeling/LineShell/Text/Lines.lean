import LineShell.Text.Fields

/-!
# Lines of a byte stream

Input that does not come from a terminal arrives as bytes.  A line ends at a newline, and a
carriage return right before that newline belongs to the line end; the last line may lack its
newline, and then keeps a carriage return.  A line whose bytes are not UTF-8 has no text, but it
still is a line, so the lines after it are read as usual.
-/

set_option autoImplicit false
namespace LineShell
namespace Text

/-- A line as it stands before its newline, without the carriage return that may end it. -/
def dropReturn (line : List UInt8) : List UInt8 :=
  if line.getLast? = some 13 then line.dropLast else line

/-- The lines of a byte stream, without their line ends. -/
def byteLines (bytes : List UInt8) : List (List UInt8) :=
  let pieces := fields 10 bytes
  let last := pieces.getLastD []
  pieces.dropLast.map dropReturn ++ if last = [] then [] else [last]

/-- The text of a line, if its bytes are UTF-8. -/
def decode? (line : List UInt8) : Option String :=
  String.fromUTF8? ⟨line.toArray⟩

/-- The texts of the lines of a byte stream. -/
def lines (bytes : List UInt8) : List (Option String) :=
  (byteLines bytes).map decode?

end Text
end LineShell
