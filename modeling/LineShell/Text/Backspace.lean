import LineShell.Text.Grapheme

/-!
# Backspaces

A backspace in a line takes back the grapheme cluster before it; a backspace with nothing before it
does nothing.  `rubOut` gives the line that remains, and a line without backspaces remains as it is
(`rubOut_eq_self`).

How much to take back is noted in one byte for each cluster, so that of a cluster of 256 bytes or
more only the remainder of its size modulo 256 is taken back.
-/

set_option autoImplicit false
namespace LineShell
namespace Text

/-- The character that takes back what stands before it. -/
def backspace : Char := '\x08'

/-- The number of bytes of a list of characters in UTF-8. -/
def byteSize : List Char → Nat
  | [] => 0
  | c :: chars => c.utf8Size + byteSize chars

/-- Takes `n` bytes from the end of a text whose characters are given last first.  A character of
which any byte is to go goes as a whole. -/
def takeBack : List Char → Nat → List Char
  | text, 0 => text
  | [], _ => []
  | c :: text, n => takeBack text (n - c.utf8Size)

/-- A line up to the place where its backspaces have been carried out. -/
structure Draft where
  /-- The characters that remain, last first. -/
  text : List Char
  /-- The size of each cluster that can be taken back, last first. -/
  sizes : List UInt8
  deriving DecidableEq, Repr

namespace Draft

/-- The draft without any character. -/
def empty : Draft := ⟨[], []⟩

/-- Adds a cluster at the end, or carries it out if it is a backspace. -/
def put (d : Draft) (cluster : List Char) : Draft :=
  if cluster = [backspace] then
    match d.sizes with
    | [] => d
    | n :: sizes => ⟨takeBack d.text n.toNat, sizes⟩
  else ⟨cluster.reverse ++ d.text, UInt8.ofNat (byteSize cluster) :: d.sizes⟩

/-- Clusters other than a backspace are added in order. -/
theorem text_foldl_put (cs : List (List Char)) (d : Draft) (h : ∀ c ∈ cs, c ≠ [backspace]) :
    (cs.foldl put d).text = cs.flatten.reverse ++ d.text := by
  induction cs generalizing d with
  | nil => rfl
  | cons c cs ih =>
    have hc : c ≠ [backspace] := h c (by simp)
    rw [List.foldl_cons, ih _ fun x hx => h x (by simp [hx])]
    simp [put, hc]

end Draft

/-- The line that remains when its backspaces have been carried out. -/
def rubOut (line : String) : String :=
  String.ofList ((clusters line.toList).foldl Draft.put Draft.empty).text.reverse

/-- A line without backspaces remains as it is. -/
theorem rubOut_eq_self {line : String} (h : backspace ∉ line.toList) : rubOut line = line := by
  have hc : ∀ c ∈ clusters line.toList, c ≠ [backspace] := by
    rintro c hc rfl
    refine h ?_
    rw [← flatten_clusters line.toList]
    exact List.mem_flatten.2 ⟨_, hc, by simp⟩
  rw [rubOut, Draft.text_foldl_put _ _ hc, flatten_clusters]
  simp [Draft.empty]

end Text
end LineShell
