/-!
# Trimming the ends of a text

A text is trimmed by removing the longest run of unwanted characters from one end or from both.
The unwanted characters are given by a predicate, because the callers disagree about them: a word
loses only spaces, a continuation line loses blanks and newlines, a message loses every kind of
white space.

Everything here works on lists of characters; `String.toList` and `String.ofList` connect it with
strings.

`TrimsTo` says what trimming both ends removes and what it keeps, and `trimsTo_iff` that this is
what `trimBoth` does.
-/

set_option autoImplicit false
namespace LineShell
namespace Text

/-- `trimEnd p cs` is `cs` without the longest run at its end whose characters all satisfy `p`. -/
def trimEnd (p : Char → Bool) (cs : List Char) : List Char :=
  (cs.reverse.dropWhile p).reverse

/-- `trimBoth p cs` is `cs` without the longest such run at either end. -/
def trimBoth (p : Char → Bool) (cs : List Char) : List Char :=
  trimEnd p (cs.dropWhile p)

@[simp]
theorem trimEnd_nil (p : Char → Bool) : trimEnd p [] = [] := rfl

@[simp]
theorem trimBoth_nil (p : Char → Bool) : trimBoth p [] = [] := rfl

/-- Trimming the end looks at the last character first. -/
theorem trimEnd_concat (p : Char → Bool) (cs : List Char) (c : Char) :
    trimEnd p (cs ++ [c]) = if p c then trimEnd p cs else cs ++ [c] := by
  by_cases h : p c <;> simp [trimEnd, h]

/-! ## What is removed and what is kept -/

/-- Trimming `cs` at both ends comes to `ds`. -/
structure TrimsTo (p : Char → Bool) (cs ds : List Char) : Prop where
  /-- All that is removed is unwanted, and it is removed at the ends. -/
  removed : ∃ front back, cs = front ++ ds ++ back ∧ (∀ c ∈ front, p c = true) ∧
    ∀ c ∈ back, p c = true
  /-- What is kept does not start with an unwanted character, -/
  head : ∀ c ∈ ds.head?, p c = false
  /-- and it does not end with one. -/
  last : ∀ c ∈ ds.getLast?, p c = false

variable {p : Char → Bool} {cs ds : List Char}

theorem dropWhile_eq_self (h : ∀ c ∈ cs.head?, p c = false) : cs.dropWhile p = cs := by
  cases cs with
  | nil => rfl
  | cons c cs => rw [List.dropWhile_cons_of_neg (by simp [h c rfl])]

/-- The end of a text that ends as it should is left alone. -/
theorem trimEnd_eq_self (h : ∀ c ∈ cs.getLast?, p c = false) : trimEnd p cs = cs := by
  rw [← List.head?_reverse] at h
  rw [trimEnd, dropWhile_eq_self h, List.reverse_reverse]

/-- Unwanted characters at the end are removed. -/
theorem trimEnd_append {back : List Char} (hback : ∀ c ∈ back, p c = true) (cs : List Char) :
    trimEnd p (cs ++ back) = trimEnd p cs := by
  rw [trimEnd, List.reverse_append,
    List.dropWhile_append_of_pos fun c hc => hback c (List.mem_reverse.1 hc), trimEnd]

/-- Nothing else is. -/
theorem exists_trimEnd_append (p : Char → Bool) (cs : List Char) :
    ∃ back, trimEnd p cs ++ back = cs ∧ ∀ c ∈ back, p c = true := by
  refine ⟨(cs.reverse.takeWhile p).reverse, ?_, fun c hc => ?_⟩
  · rw [trimEnd, ← List.reverse_append, List.takeWhile_append_dropWhile, List.reverse_reverse]
  · exact List.all_eq_true.1 List.all_takeWhile c (List.mem_reverse.1 hc)

theorem head?_dropWhile {c : Char} (h : c ∈ (cs.dropWhile p).head?) : p c = false := by
  have hnot := List.head?_dropWhile_not p cs
  rwa [Option.mem_def.1 h] at hnot

theorem getLast?_trimEnd {c : Char} (h : c ∈ (trimEnd p cs).getLast?) : p c = false := by
  rw [trimEnd, List.getLast?_reverse] at h
  exact head?_dropWhile h

theorem trimsTo_trimBoth (p : Char → Bool) (cs : List Char) : TrimsTo p cs (trimBoth p cs) := by
  obtain ⟨back, hback, hunwanted⟩ := exists_trimEnd_append p (cs.dropWhile p)
  refine ⟨⟨cs.takeWhile p, back, ?_, List.all_eq_true.1 List.all_takeWhile, hunwanted⟩,
    fun c hc => ?_, fun c hc => getLast?_trimEnd hc⟩
  · rw [trimBoth, List.append_assoc, hback, List.takeWhile_append_dropWhile]
  · -- the first character that is kept is the first one behind those removed in front
    have hfirst : c ∈ (cs.dropWhile p).head? := by
      rw [← hback, List.head?_append]
      exact Option.or_eq_some_iff.2 (.inl hc)
    exact head?_dropWhile hfirst

/-- **What trimming removes and keeps determines its result.** -/
theorem trimsTo_iff : TrimsTo p cs ds ↔ ds = trimBoth p cs := by
  constructor
  · rintro ⟨⟨front, back, rfl, hfront, hback⟩, hhead, hlast⟩
    rw [trimBoth, List.append_assoc, List.dropWhile_append_of_pos hfront]
    cases ds with
    | nil =>
      have hnil : (back ++ []).dropWhile p = [] := List.dropWhile_append_of_pos hback
      rw [List.append_nil] at hnil
      rw [List.nil_append, hnil, trimEnd_nil]
    | cons d ds =>
      have hkept : (d :: ds ++ back).dropWhile p = d :: ds ++ back := dropWhile_eq_self hhead
      rw [hkept, trimEnd_append hback, trimEnd_eq_self hlast]
  · rintro rfl
    exact trimsTo_trimBoth p cs

/-- A text that starts and ends as it should is left alone. -/
theorem trimBoth_eq_self (hhead : ∀ c ∈ cs.head?, p c = false)
    (hlast : ∀ c ∈ cs.getLast?, p c = false) : trimBoth p cs = cs :=
  (trimsTo_iff.1 ⟨⟨[], [], by simp, nofun, nofun⟩, hhead, hlast⟩).symm

end Text
end LineShell
