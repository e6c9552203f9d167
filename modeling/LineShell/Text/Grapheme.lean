import LineShell.Text.Conjunct
import LineShell.Text.Extending
import LineShell.Text.Hangul
import LineShell.Text.Pictograph
import LineShell.Text.Spacing

/-!
# Grapheme clusters

What a reader takes for one character may be several: a letter and its accents, a flag made of two
letters, a family of pictographs.  `clusters` cuts a text into such *clusters* by the rules for
extended grapheme clusters of the Unicode standard.

Each character has a class, and a character is added to the cluster before it or not according to
its own class and to those of the cluster (`joins`).  Nothing is lost: the clusters of a text one
after the other are the text (`flatten_clusters`).
-/

set_option autoImplicit false
namespace LineShell
namespace Text

/-- How a character takes part in clusters. -/
inductive GraphemeClass where
  /-- A carriage return. -/
  | carriageReturn
  /-- A line feed. -/
  | lineFeed
  /-- Any other control, format character or separator of lines. -/
  | control
  /-- A mark that is drawn with the character before it, or a modifier of a pictograph. -/
  | extender
  /-- The zero width non-joiner, which extends a cluster but no conjunct. -/
  | nonJoiner
  /-- A mark that links two consonants to a conjunct. -/
  | linker
  /-- The zero width joiner. -/
  | joiner
  /-- A sign that is drawn with the character after it. -/
  | prepended
  /-- A spacing mark. -/
  | spacing
  /-- A part of a Hangul syllable, or a whole one. -/
  | hangul (kind : HangulKind)
  /-- A consonant that forms conjuncts. -/
  | consonant
  /-- A pictograph. -/
  | pictograph
  /-- A letter of which two make a flag. -/
  | regional
  /-- Any other character. -/
  | other
  deriving DecidableEq, Repr

/-- The spans of the characters that are a cluster of their own, carriage return and line feed
apart. -/
def loneSpans : List (Nat × Nat) :=
  [(0x0000, 0x001F), (0x007F, 0x009F), (0x00AD, 0x00AD), (0x061C, 0x061C), (0x180E, 0x180E),
    (0x200B, 0x200B), (0x200E, 0x200F), (0x2028, 0x202E), (0x2060, 0x206F), (0xFEFF, 0xFEFF),
    (0xFFF0, 0xFFFB), (0x13430, 0x1343F), (0x1BCA0, 0x1BCA3), (0x1D173, 0x1D17A),
    (0xE0000, 0xE001F), (0xE0080, 0xE00FF), (0xE01F0, 0xE0FFF)]

/-- The spans of the signs that are drawn with the character after them. -/
def prependedSpans : List (Nat × Nat) :=
  [(0x0600, 0x0605), (0x06DD, 0x06DD), (0x070F, 0x070F), (0x0890, 0x0891), (0x08E2, 0x08E2),
    (0x0D4E, 0x0D4E), (0x110BD, 0x110BD), (0x110CD, 0x110CD), (0x111C2, 0x111C3),
    (0x113D1, 0x113D1), (0x1193F, 0x1193F), (0x11941, 0x11941), (0x11A84, 0x11A89),
    (0x11D46, 0x11D46), (0x11F02, 0x11F02)]

namespace GraphemeClass

/-- The class of the character with code point `n`. -/
def ofCode (n : Nat) : GraphemeClass :=
  if 0x20 ≤ n ∧ n ≤ 0x7E then other
  else if n = 0x0D then carriageReturn
  else if n = 0x0A then lineFeed
  else if inSpans loneSpans n then control
  else if n = 0x200C then nonJoiner
  else if n = 0x200D then joiner
  else if isLinker n then linker
  else if isExtending n ∨ (0x1F3FB ≤ n ∧ n ≤ 0x1F3FF) then extender
  else if isSpacingMark n then spacing
  else if inSpans prependedSpans n then prepended
  else if 0x1F1E6 ≤ n ∧ n ≤ 0x1F1FF then regional
  else if isPictograph n then pictograph
  else if isConsonant n then consonant
  else
    match HangulKind.ofCode? n with
    | some kind => hangul kind
    | none => other

/-- Is a character of this class a cluster of its own? -/
def isLone : GraphemeClass → Bool
  | carriageReturn | lineFeed | control => true
  | _ => false

/-- Does a character of this class extend the cluster before it? -/
def isExtender : GraphemeClass → Bool
  | extender | nonJoiner | linker => true
  | _ => false

/-- Does a character of this class belong to the cluster before it, whatever that is? -/
def isAttached : GraphemeClass → Bool
  | extender | nonJoiner | linker | joiner | spacing => true
  | _ => false

/-- May a character of this class stand between the consonants of a conjunct? -/
def isConjunctSign : GraphemeClass → Bool
  | extender | linker | joiner => true
  | _ => false

end GraphemeClass

/-! ## Where a cluster goes on

The classes of the cluster before a place are given last first. -/

/-- Does the cluster end in a consonant and signs, one of which links it to the next consonant? -/
def endsLinked (before : List GraphemeClass) : Bool :=
  (before.takeWhile GraphemeClass.isConjunctSign).contains .linker &&
    (before.dropWhile GraphemeClass.isConjunctSign).head? == some .consonant

/-- Does the cluster end in a pictograph, with or without marks, and a joiner? -/
def endsJoined : List GraphemeClass → Bool
  | .joiner :: earlier => (earlier.dropWhile GraphemeClass.isExtender).head? == some .pictograph
  | _ => false

/-- Does the cluster end in the first letter of a flag? -/
def endsInHalfFlag (before : List GraphemeClass) : Bool :=
  (before.takeWhile (· == .regional)).length % 2 == 1

/-- Does a character of the class `next` belong to the cluster before it? -/
def joins : List GraphemeClass → GraphemeClass → Bool
  | [], _ => false
  | last :: earlier, next =>
    if last = .carriageReturn ∧ next = .lineFeed then true
    else if last.isLone || next.isLone then false
    else if next.isAttached || last == .prepended then true
    else
      match next, last with
      | .hangul second, .hangul first => first.joins second
      | .consonant, _ => endsLinked (last :: earlier)
      | .pictograph, _ => endsJoined (last :: earlier)
      | .regional, _ => endsInHalfFlag (last :: earlier)
      | _, _ => false

/-! ## The clusters of a text -/

/-- The clusters of a text that goes on after the characters of `cluster`, whose classes are
`classes`; both are given last first. -/
def clustersFrom (cluster : List Char) (classes : List GraphemeClass) :
    List Char → List (List Char)
  | [] => [cluster.reverse]
  | c :: cs =>
    let next := GraphemeClass.ofCode c.toNat
    if joins classes next then clustersFrom (c :: cluster) (next :: classes) cs
    else cluster.reverse :: clustersFrom [c] [next] cs

/-- The clusters of a text, in order. -/
def clusters : List Char → List (List Char)
  | [] => []
  | c :: cs => clustersFrom [c] [GraphemeClass.ofCode c.toNat] cs

theorem flatten_clustersFrom (cluster : List Char) (classes : List GraphemeClass)
    (text : List Char) :
    (clustersFrom cluster classes text).flatten = cluster.reverse ++ text := by
  induction text generalizing cluster classes with
  | nil => simp [clustersFrom]
  | cons c cs ih =>
    simp only [clustersFrom]
    split <;> simp [ih]

/-- The clusters of a text one after the other are the text. -/
theorem flatten_clusters (text : List Char) : (clusters text).flatten = text := by
  cases text with
  | nil => rfl
  | cons c cs => simp [clusters, flatten_clustersFrom]

end Text
end LineShell
