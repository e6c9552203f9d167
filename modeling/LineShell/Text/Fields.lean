/-!
# Fields between separators

`fields sep xs` cuts a list at every occurrence of `sep`.  Nothing is dropped: two separators in a
row enclose an empty field, and so do a separator and the end of the list, so that a list with `n`
separators always has `n + 1` fields and `fields_join` gives the list back.
-/

set_option autoImplicit false
namespace LineShell
namespace Text

variable {α : Type} [DecidableEq α]

/-- Puts one more element in front of the first field. -/
def consField (x : α) : List (List α) → List (List α)
  | [] => [[x]]
  | field :: later => (x :: field) :: later

/-- The fields of a list between the occurrences of `sep`, in order. -/
def fields (sep : α) : List α → List (List α)
  | [] => [[]]
  | x :: xs => if x = sep then [] :: fields sep xs else consField x (fields sep xs)

omit [DecidableEq α] in
theorem consField_ne_nil (x : α) (fs : List (List α)) : consField x fs ≠ [] := by
  cases fs <;> simp [consField]

/-- There is always at least one field. -/
theorem fields_ne_nil (sep : α) (xs : List α) : fields sep xs ≠ [] := by
  cases xs with
  | nil => simp [fields]
  | cons x xs =>
    rw [fields]
    split
    · simp
    · exact consField_ne_nil _ _

/-- Writing the separator between the fields gives the list back. -/
theorem fields_join (sep : α) (xs : List α) : [sep].intercalate (fields sep xs) = xs := by
  induction xs with
  | nil => rfl
  | cons x xs ih =>
    obtain ⟨f, fs, hf⟩ := List.exists_cons_of_ne_nil (fields_ne_nil sep xs)
    rw [hf] at ih
    by_cases hx : x = sep
    · simp [fields, hx, hf, List.intercalate_cons_cons, ih]
    · cases fs with
      | nil => simpa [fields, hx, hf, consField] using ih
      | cons g gs =>
        simp only [List.intercalate_cons_cons] at ih
        simp [fields, hx, hf, consField, List.intercalate_cons_cons, ih]

end Text
end LineShell
