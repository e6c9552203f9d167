import LineShell.Lookup

/-!
# Where the file of a program is found

`Lookup.find?` goes by the components of a path, but what it returns is a path as it was written:
either the one given or one joined from an entry of the search list and a component.

* `Text.fields_eq_splitOn` — cutting at a separator is the library's `List.splitOn`.
* `Lookup.ConsistsOf` — the components of a path, from the way the path is written.
* `Lookup.Lists` — the entries of a search list, from the way the list is written.
* `Lookup.Rooted` — a path that starts at the root, from the way it is written.
* `Lookup.Joined` — the path of a name in a directory, from the way the directory is written.
* `Lookup.First` — the first file with a name in some directories.
* `Lookup.find?_append` — a search list may be cut at any colon.

The main statement is `Lookup.find?_spec`.
-/

set_option autoImplicit false
namespace LineShell

/-! ## Fields -/

namespace Text

variable {α : Type} [DecidableEq α]

/-- Cutting at a separator is the library's `splitOn`, whose laws are used from here on. -/
theorem fields_eq_splitOn (sep : α) (xs : List α) : fields sep xs = xs.splitOn sep := by
  induction xs with
  | nil => rw [fields, List.splitOn_nil]
  | cons x xs ih =>
    rw [fields, List.splitOn_cons_eq_if_modifyHead, ih]
    obtain ⟨f, fs, hsplit⟩ := List.exists_cons_of_ne_nil (List.splitOn_ne_nil sep xs)
    simp only [hsplit, consField, List.modifyHead_cons, beq_iff_eq]

theorem fields_append (sep : α) (xs ys : List α) :
    fields sep (xs ++ sep :: ys) = fields sep xs ++ fields sep ys := by
  rw [fields_eq_splitOn, List.splitOn_append_cons_self, fields_eq_splitOn, fields_eq_splitOn]

theorem not_mem_of_mem_fields {sep : α} {xs : List α} :
    ∀ field ∈ fields sep xs, sep ∉ field := by
  induction xs with
  | nil => simp [fields]
  | cons x xs ih =>
    rw [fields]
    by_cases hx : x = sep
    · rw [if_pos hx, List.forall_mem_cons]
      exact ⟨List.not_mem_nil, ih⟩
    · obtain ⟨f, fs, hsplit⟩ := List.exists_cons_of_ne_nil (fields_ne_nil sep xs)
      rw [hsplit, List.forall_mem_cons] at ih
      rw [if_neg hx, hsplit, consField, List.forall_mem_cons, List.mem_cons, not_or]
      exact ⟨⟨Ne.symm hx, ih.1⟩, ih.2⟩

/-- Fields are what a list is written from, with the separator between them. -/
theorem eq_fields_iff {sep : α} {xs : List α} {parts : List (List α)} :
    parts = fields sep xs ↔
      parts ≠ [] ∧ (∀ part ∈ parts, sep ∉ part) ∧ [sep].intercalate parts = xs := by
  constructor
  · rintro rfl
    exact ⟨fields_ne_nil sep xs, not_mem_of_mem_fields, fields_join sep xs⟩
  · rintro ⟨hne, hsep, rfl⟩
    rw [fields_eq_splitOn, List.splitOn_intercalate sep hsep hne]

/-- The same for texts. -/
theorem eq_map_fields_iff {sep : Char} {s : String} {parts : List String} :
    parts = (fields sep s.toList).map String.ofList ↔
      parts ≠ [] ∧ (∀ part ∈ parts, sep ∉ part.toList) ∧
        (String.singleton sep).intercalate parts = s := by
  have hmap : parts = (fields sep s.toList).map String.ofList ↔
      parts.map String.toList = fields sep s.toList := by
    constructor
    · rintro rfl
      rw [List.map_map]
      exact List.map_id'' (fun _ => String.toList_ofList) _
    · intro h
      rw [← h, List.map_map]
      exact (List.map_id'' (fun _ => String.ofList_toList) parts).symm
  rw [hmap, eq_fields_iff, ← String.toList_inj, String.toList_intercalate, String.toList_singleton,
    List.forall_mem_map, Ne, List.map_eq_nil_iff]

end Text

namespace Lookup

/-! ## How paths and search lists are written -/

/-- The components of a path: written with slashes between its parts, the path consists of the first
part and of the later ones but `.`, as far as they are not empty. -/
def ConsistsOf (path : String) (parts : List String) : Prop :=
  ∃ first later, (∀ part ∈ first :: later, '/' ∉ part.toList) ∧
    "/".intercalate (first :: later) = path ∧
    parts = (first :: later.filter (· ≠ ".")).filter (· ≠ "")

/-- The entries of a search list: it is written with colons between them. -/
structure Lists (search : String) (dirs : List String) : Prop where
  /-- There is at least one entry. -/
  ne_nil : dirs ≠ []
  /-- The colons are those between the entries. -/
  colonless : ∀ dir ∈ dirs, ':' ∉ dir.toList
  /-- The list is written from its entries. -/
  written : ":".intercalate dirs = search

theorem lists_iff {search : String} {dirs : List String} :
    Lists search dirs ↔ dirs = entries search := by
  rw [entries, Text.eq_map_fields_iff]
  exact ⟨fun h => ⟨h.ne_nil, h.colonless, h.written⟩, fun h => ⟨h.1, h.2.1, h.2.2⟩⟩

theorem components_eq {path : String} {first : List Char} {later : List (List Char)}
    (h : Text.fields '/' path.toList = first :: later) :
    components path = (String.ofList first ::
      (later.map String.ofList).filter (· ≠ ".")).filter (· ≠ "") := by
  have hempty : ∀ part, String.ofList part = "" ↔ part = [] := fun part => by
    rw [← String.toList_inj, String.toList_ofList]
    rfl
  have hdot : ∀ part, String.ofList part = "." ↔ part = ['.'] := fun part => by
    rw [← String.toList_inj, String.toList_ofList]
    rfl
  have hlater : (later.filter fun part => part ≠ [] ∧ part ≠ ['.']).map String.ofList =
      ((later.map String.ofList).filter (· ≠ ".")).filter (· ≠ "") := by
    rw [List.filter_filter, List.filter_map]
    congr 1
    refine List.filter_congr fun part _ => ?_
    simp only [Function.comp, ne_eq, hempty, hdot, Bool.decide_and]
  rw [components, h]
  show ((if first = [] then [] else [first]) ++ _).map String.ofList = _
  rw [List.map_append, hlater]
  by_cases hfirst : first = []
  · rw [if_pos hfirst, List.filter_cons_of_neg (by simp [hfirst])]
    rfl
  · rw [if_neg hfirst, List.filter_cons_of_pos (by simp [hfirst])]
    rfl

theorem consistsOf_iff {path : String} {parts : List String} :
    ConsistsOf path parts ↔ parts = components path := by
  obtain ⟨first, later, hfields⟩ := List.exists_cons_of_ne_nil (Text.fields_ne_nil '/' path.toList)
  have hwritten : ∀ f l, f :: l = String.ofList first :: later.map String.ofList ↔
      (∀ part ∈ f :: l, '/' ∉ part.toList) ∧ "/".intercalate (f :: l) = path := by
    intro f l
    rw [← List.map_cons, ← hfields, Text.eq_map_fields_iff, and_iff_right (List.cons_ne_nil f l)]
    rfl
  rw [components_eq hfields]
  constructor
  · rintro ⟨f, l, hslash, hpath, rfl⟩
    obtain ⟨rfl, rfl⟩ := List.cons.inj ((hwritten f l).2 ⟨hslash, hpath⟩)
    rfl
  · rintro rfl
    obtain ⟨hslash, hpath⟩ := (hwritten _ _).1 rfl
    exact ⟨_, _, hslash, hpath, rfl⟩

theorem entries_append (p q : String) : entries (p ++ ":" ++ q) = entries p ++ entries q := by
  rw [entries, String.toList_append, String.toList_append, List.append_assoc]
  show (Text.fields ':' (p.toList ++ ':' :: q.toList)).map String.ofList = _
  rw [Text.fields_append, List.map_append, entries, entries]

/-! ## How paths are joined -/

/-- A path starts at the root. -/
def Rooted (path : String) : Prop := ∃ rest, path = "/" ++ rest

/-- The path of a name in a directory. -/
inductive Joined (name : String) : String → String → Prop
  /-- The empty entry of a search list stands for the current directory, and adds nothing. -/
  | here : Joined name "" name
  /-- A directory that ends in a slash gets no other one. -/
  | slashed (dir : String) : Joined name (dir ++ "/") (dir ++ "/" ++ name)
  /-- Between any other directory and the name there is a slash. -/
  | plain {dir : String} (hne : dir ≠ "") (hslash : ∀ front, dir ≠ front ++ "/") :
      Joined name dir (dir ++ "/" ++ name)

theorem isAbsolute_iff {path : String} : isAbsolute path = true ↔ Rooted path := by
  rw [isAbsolute, beq_iff_eq, List.head?_eq_some_iff, Rooted]
  constructor
  · rintro ⟨rest, hrest⟩
    refine ⟨String.ofList rest, ?_⟩
    rw [← String.toList_inj, hrest]
    simp only [String.toList_append, String.toList_ofList]
    rfl
  · rintro ⟨rest, rfl⟩
    exact ⟨rest.toList, String.toList_append⟩

theorem getLast?_slash_iff {dir : String} :
    dir.toList.getLast? = some '/' ↔ ∃ front, dir = front ++ "/" := by
  rw [List.getLast?_eq_some_iff]
  constructor
  · rintro ⟨front, hfront⟩
    refine ⟨String.ofList front, ?_⟩
    rw [← String.toList_inj, hfront, String.toList_append, String.toList_ofList]
    rfl
  · rintro ⟨front, rfl⟩
    exact ⟨front.toList, String.toList_append⟩

theorem joined_iff {name dir file : String} : Joined name dir file ↔ join dir name = file := by
  constructor
  · rintro (_ | dir | ⟨hne, hslash⟩)
    · rw [join, if_pos (.inl rfl), String.empty_append]
    · rw [join, if_pos (.inr (getLast?_slash_iff.2 ⟨dir, rfl⟩))]
    · rw [join, if_neg]
      rintro (hempty | hlast)
      · exact hne hempty
      · obtain ⟨front, hfront⟩ := getLast?_slash_iff.1 hlast
        exact hslash front hfront
  · rintro rfl
    by_cases hempty : dir = ""
    · subst hempty
      rw [join, if_pos (.inl rfl), String.empty_append]
      exact .here
    by_cases hlast : dir.toList.getLast? = some '/'
    · obtain ⟨front, rfl⟩ := getLast?_slash_iff.1 hlast
      rw [join, if_pos (.inr hlast)]
      exact .slashed front
    · rw [join, if_neg (not_or.2 ⟨hempty, hlast⟩)]
      exact .plain hempty fun front hfront => hlast (getLast?_slash_iff.2 ⟨front, hfront⟩)

/-! ## Searching -/

variable {tests : FileTests} {search path : String}

/-- The file is the first one with the given name in the directories. -/
def First (tests : FileTests) (name : String) (dirs : List String) (file : String) : Prop :=
  ∃ before dir after, dirs = before ++ dir :: after ∧ Joined name dir file ∧
    tests.isFile file = true ∧
    ∀ other ∈ before, ∀ path, Joined name other path → ¬tests.isFile path = true

theorem forall_joined_iff {name dir : String} {P : String → Prop} :
    (∀ path, Joined name dir path → P path) ↔ P (join dir name) := by
  simp only [joined_iff, forall_eq']

theorem searched_eq_some_iff {name file : String} :
    searched tests search name = some file ↔ First tests name (entries search) file := by
  rw [searched, List.find?_map, Option.map_eq_some_iff]
  simp only [List.find?_eq_some_iff_append, First, joined_iff]
  constructor
  · rintro ⟨dir, ⟨hfile, before, after, hdirs, hbefore⟩, rfl⟩
    exact ⟨before, dir, after, hdirs, rfl, hfile, fun other hother => by
      simpa using hbefore other hother⟩
  · rintro ⟨before, dir, after, hdirs, rfl, hfile, hbefore⟩
    exact ⟨dir, ⟨hfile, before, after, hdirs, fun other hother => by
      simpa using hbefore other hother⟩, rfl⟩

theorem searched_eq_none_iff {name : String} :
    searched tests search name = none ↔
      ∀ dir ∈ entries search, ∀ path, Joined name dir path → ¬tests.isFile path = true := by
  simp only [forall_joined_iff]
  rw [searched, List.find?_eq_none, List.forall_mem_map]

theorem searched_append (p q name : String) :
    searched tests (p ++ ":" ++ q) name = (searched tests p name).or (searched tests q name) := by
  rw [searched, entries_append, List.map_append, List.find?_append, searched, searched]

/-! ## Finding -/

theorem find?_of_direct (h : isAbsolute path = true ∨ 2 ≤ (components path).length) :
    find? tests search path = if tests.present path = true then some path else none := by
  rw [find?]
  by_cases hroot : isAbsolute path = true
  · rw [if_pos hroot, direct]
  · rw [if_neg hroot]
    have hlength := h.resolve_left hroot
    by_cases hdot : (components path).head? = some "." ∧ tests.present path = true
    · rw [if_pos hdot, if_pos hdot.2]
    · rw [if_neg hdot]
      match components path, hlength with
      | _ :: _ :: _, _ => rw [direct]

theorem find?_empty : find? tests search "" = none := by
  rw [find?, if_neg (by decide)]
  exact if_neg fun h => absurd h.1 (by decide)

theorem find?_of_name {name : String} (hrelative : ¬isAbsolute path = true)
    (hparts : components path = [name]) (hname : name ≠ ".") :
    find? tests search path = searched tests search name := by
  rw [find?, if_neg hrelative, hparts, if_neg fun h => hname (Option.some.inj h.1)]

/-- A search list may be cut at any colon, and the front part comes first. -/
theorem find?_append (p q : String) :
    find? tests (p ++ ":" ++ q) path = (find? tests p path).or (find? tests q path) := by
  simp only [find?]
  split
  · rw [Option.or_self]
  · split
    · rw [Option.or_self]
    · split
      · rfl
      · exact searched_append p q _
      · rw [Option.or_self]

/-- **Where the file of a program is found.**  A path that starts at the root or has several
components is its own file, whatever the search list says.  A single component is looked for in the
entries of the search list, and the first file decides: the path that is found is the one joined
from the entry and the component. -/
theorem find?_spec (tests : FileTests) (search path : String) :
    (∀ parts, ConsistsOf path parts ↔ parts = components path) ∧
      (∀ dirs, Lists search dirs ↔ dirs = entries search) ∧
      (Rooted path ∨ 2 ≤ (components path).length →
        find? tests search path = if tests.present path = true then some path else none) ∧
      find? tests search "" = none ∧
      (∀ name, ¬Rooted path → components path = [name] → name ≠ "." →
        (∀ file, find? tests search path = some file ↔
          First tests name (entries search) file) ∧
        (find? tests search path = none ↔
          ∀ dir ∈ entries search, ∀ file, Joined name dir file → ¬tests.isFile file = true)) ∧
      ∀ p q, find? tests (p ++ ":" ++ q) path = (find? tests p path).or (find? tests q path) := by
  simp only [← isAbsolute_iff]
  refine ⟨fun parts => consistsOf_iff, fun dirs => lists_iff, find?_of_direct, find?_empty,
    fun name hrelative hparts hname => ?_, find?_append⟩
  rw [find?_of_name hrelative hparts hname]
  exact ⟨fun file => searched_eq_some_iff, searched_eq_none_iff⟩

/-- An entry of the search list may end in a slash, and an empty one stands for the current
directory; the slash behind the name is not part of it.  Here the name is in the directory of the
last entry, and in a second run it is in that of the first one as well.  A path of two components is
not looked for. -/
theorem find?_spec_slashed :
    components "ok/" = ["ok"] ∧ entries "bin/::usr" = ["bin/", "", "usr"] ∧
      find? ⟨fun _ => false, fun file => file = "usr/ok"⟩ "bin/::usr" "ok/" = some "usr/ok" ∧
      find? ⟨fun _ => false, fun file => file = "usr/ok" ∨ file = "bin/ok"⟩ "bin/::usr" "ok/" =
        some "bin/ok" ∧
      find? ⟨fun file => file = "./ok", fun _ => true⟩ "bin/::usr" "./ok" = some "./ok" := by
  obtain ⟨-, -, -, -, hlast, -⟩ :=
    find?_spec ⟨fun _ => false, fun file => file = "usr/ok"⟩ "bin/::usr" "ok/"
  obtain ⟨-, -, -, -, hfirst, -⟩ :=
    find?_spec ⟨fun _ => false, fun file => file = "usr/ok" ∨ file = "bin/ok"⟩ "bin/::usr" "ok/"
  obtain ⟨-, -, hdirect, -⟩ :=
    find?_spec ⟨fun file => file = "./ok", fun _ => true⟩ "bin/::usr" "./ok"
  have hparts : components "ok/" = ["ok"] := by decide
  have hentries : entries "bin/::usr" = ["bin/", "", "usr"] := by decide
  have hrelative : ¬Rooted "ok/" := fun h => absurd (isAbsolute_iff.2 h) (by decide)
  refine ⟨hparts, hentries, ?_, ?_, hdirect (.inr (by decide))⟩
  · refine ((hlast "ok" hrelative hparts (by decide)).1 "usr/ok").2 ?_
    rw [hentries]
    refine ⟨["bin/", ""], "usr", [], rfl, joined_iff.2 (by decide), by decide, ?_⟩
    simp only [forall_joined_iff]
    decide
  · refine ((hfirst "ok" hrelative hparts (by decide)).1 "bin/ok").2 ?_
    rw [hentries]
    exact ⟨[], "bin/", ["", "usr"], rfl, .slashed "bin", by decide, nofun⟩

end Lookup
end LineShell
