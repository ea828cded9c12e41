import EdgeFleet.Files.Path

/-!
# The parts of a path

The place of a name within a directory is one part further than the directory (`parts_child`), so
that names within directories are the same place only if they are the same name in the same
directory, however the directory is written.
-/

namespace EdgeFleet.Files.Path

/-- A name that is a part of its own and can be looked up. -/
structure IsName (name : String) : Prop where
  ne_empty : name ≠ ""
  ne_here : name ≠ "."
  ne_back : name ≠ back
  no_slash : '/' ∉ name.toList
  no_nul : '\x00' ∉ name.toList

variable {name : String}

/-- A name leads one part further. -/
theorem step_name (h : IsName name) (walked : List String) :
    step walked name = walked ++ [name] := by
  simp [step, h.ne_empty, h.ne_here, h.ne_back]

/-- The part before a slash at the end leads nowhere. -/
theorem step_empty (walked : List String) : step walked "" = walked := by
  simp [step]

/-- The first part, from which the others go on. -/
def start (text : List Char) : List String :=
  if ['/'] <+: text then [top] else []

/-- The parts of a path, by its characters. -/
def walk (text : List Char) : List String :=
  ((text.splitOn '/').map String.ofList).foldl step (start text)

/-- A text that ends in a slash has it as its last character. -/
theorem ends_slash (text : String) :
    text.endsWith "/" = true ↔ text.toList.getLast? = some '/' := by
  have hslice : text.toSlice.endsWith "/" = true ↔ "/".toList <:+ text.toSlice.copy.toList :=
    String.Slice.endsWith_string_iff
  rw [String.copy_toSlice] at hslice
  exact hslice.trans List.singleton_suffix_iff_getLast?_eq_some

theorem parts_eq (path : Path) : path.parts = walk path.text.toList := by
  have hstart : (path.text.startsWith top) = decide (['/'] <+: path.text.toList) := by
    rw [Bool.eq_iff_iff, decide_eq_true_iff]
    exact String.startsWith_string_iff
  simp only [parts, walk, start, hstart, decide_eq_true_eq]

/-- A name behind a slash is one part further. -/
theorem walk_slash (h : IsName name) (text : List Char) :
    walk (text ++ '/' :: name.toList) = walk (text ++ ['/']) ++ [name] := by
  have hstart : start (text ++ '/' :: name.toList) = start (text ++ ['/']) := by
    cases text <;> simp [start]
  rw [walk, walk, hstart, List.splitOn_append_cons_self, List.splitOn_append_cons_self,
    List.splitOn_eq_singleton h.no_slash]
  simp [step_name h, step_empty]

/-- A slash at the end leads nowhere, unless it is all there is. -/
theorem walk_closed {text : List Char} (h : text ≠ []) : walk (text ++ ['/']) = walk text := by
  have hstart : start (text ++ ['/']) = start text := by
    cases text with
    | nil => exact absurd rfl h
    | cons first rest => simp [start]
  rw [walk, walk, hstart, List.splitOn_append_cons_self]
  simp [step_empty]

/-- The place of a name within a directory is one part further than the directory. -/
theorem parts_child (directory : Path) (h : IsName name) :
    (directory.child name).parts = directory.parts ++ [name] := by
  rw [parts_eq, parts_eq]
  -- Whether a slash is put before the name depends on how the directory is written.
  by_cases hends : (directory.text.isEmpty || directory.text.endsWith "/") = true
  · rw [child, if_pos hends, String.toList_append]
    by_cases hempty : directory.text = ""
    · have hstart : ¬ ['/'] <+: name.toList := by
        rintro ⟨rest, hrest⟩
        exact h.no_slash (by rw [← hrest]; simp)
      simp [hempty, walk, hstart, List.splitOn_eq_singleton h.no_slash, step_name h, start,
        step_empty]
    · obtain ⟨text, htext⟩ := List.getLast?_eq_some_iff.1
        ((ends_slash directory.text).1 (by simpa [hempty] using hends))
      rw [htext, List.append_assoc, List.singleton_append, walk_slash h]
  · have hne : directory.text.toList ≠ [] := by
      intro hnil
      simp [String.toList_eq_nil_iff.1 hnil] at hends
    rw [child, if_neg hends, String.toList_append, String.toList_append, List.append_assoc]
    exact (walk_slash h _).trans (by rw [walk_closed hne])

/-- Names within directories are the same place only if they are the same name in the same
directory. -/
theorem parts_child_inj {directory other : Path} {name otherName : String} (h : IsName name)
    (hother : IsName otherName) :
    (directory.child name).parts = (other.child otherName).parts ↔
      directory.parts = other.parts ∧ name = otherName := by
  rw [parts_child directory h, parts_child other hother]
  constructor
  · intro hparts
    obtain ⟨hdirectory, hname⟩ := List.append_inj' hparts rfl
    exact ⟨hdirectory, List.singleton_inj.1 hname⟩
  · rintro ⟨hdirectory, rfl⟩
    rw [hdirectory]

/-- The place of a name within a directory does not end in a slash. -/
theorem child_open (directory : Path) (h : IsName name) :
    (directory.child name).text.endsWith "/" = false := by
  have hname : name.toList ≠ [] := fun hnil => h.ne_empty (String.toList_eq_nil_iff.1 hnil)
  have hlast : ∀ text : List Char, (text ++ name.toList).getLast? ≠ some '/' := by
    intro text hslash
    rw [List.getLast?_append, List.getLast?_eq_some_getLast hname, Option.some_or] at hslash
    exact h.no_slash (Option.some.inj hslash ▸ List.getLast_mem hname)
  rw [Bool.eq_false_iff, Ne, ends_slash, child]
  split <;> (rw [String.toList_append]; exact hlast _)

/-- Nor is it written as nothing. -/
theorem child_ne_empty (directory : Path) (h : IsName name) : (directory.child name).text ≠ "" := by
  rw [child]
  split <;> simp [h.ne_empty]

/-- A path that is written as something can be looked up unless it holds a character that no name
has. -/
theorem check_cases {path : Path} (h : path.text ≠ "") :
    path.check = .ok () ∨ path.check = .error .invalidName := by
  simp only [check, String.isEmpty_iff, h, if_false]
  split <;> simp

/-- What can be looked up holds no character that no name has. -/
theorem check_iff {path : Path} :
    path.check = .ok () ↔ '\x00' ∉ path.text.toList ∧ path.text ≠ "" := by
  by_cases hname : '\x00' ∈ path.text.toList
  · simp [check, hname]
  · by_cases hempty : path.text = "" <;> simp [check, hname, hempty]

/-- A name within a directory can be looked up if the directory can. -/
theorem check_child {directory : Path} (h : IsName name) (hcheck : directory.check = .ok ()) :
    (directory.child name).check = .ok () := by
  refine check_iff.2 ⟨?_, child_ne_empty directory h⟩
  have hdirectory := (check_iff.1 hcheck).1
  rw [child]
  split <;> simp [hdirectory, h.no_nul]

end EdgeFleet.Files.Path
