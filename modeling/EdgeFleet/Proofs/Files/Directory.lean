import EdgeFleet.Proofs.Bytes
import EdgeFleet.Proofs.Files.Tree

/-!
# Files of a directory

What the operations do to the files of a directory that is there. Such a file is read, written and
removed at its place alone (`read_child`, `write_child`, `remove_child`), and making the directory
and setting who may use it changes none of them (`find_prepared`).
-/

namespace EdgeFleet.Files.Tree

variable {tree before after : Tree} {directory path : Path} {place : List String} {name : String}
  {content bytes : Bytes} {mode : Nat}

/-- The bytes of the file at a place. -/
def file? (tree : Tree) (place : List String) : Option Bytes :=
  match tree.find? place with
  | some (.file _ content) => some content
  | _ => none

/-- The text of the file at a place, if there is one; it fails for bytes that are no text and for a
directory. -/
def textAt (tree : Tree) (place : List String) : Except Fault (Option String) :=
  match tree.find? place with
  | none => .ok none
  | some (.directory _) => .error .isADirectory
  | some (.file _ content) => (text content).map some

/-- A file that has a text is there. -/
theorem text_at_iff {found : String} : tree.textAt place = .ok (some found) ↔
    ∃ content, tree.file? place = some content ∧ text content = .ok found := by
  unfold textAt file?
  cases tree.find? place with
  | none => simp
  | some node =>
      cases node with
      | directory mode => simp
      | file mode content => cases hcontent : text content <;> simp [Except.map, hcontent]

/-- A file with a text holds the bytes of this text. -/
theorem file_of_text_at {found : String} (h : tree.textAt place = .ok (some found)) :
    tree.file? place = some (.ofText found) := by
  obtain ⟨content, hfile, htext⟩ := text_at_iff.1 h
  rw [of_text_of_text htext]
  exact hfile

/-- A place whose text can be told is not that of a directory. -/
theorem free_of_text_at {found : Option String} (h : tree.textAt place = .ok found) :
    ∀ mode, tree.find? place ≠ some (.directory mode) := by
  intro mode hfind
  rw [textAt, hfind] at h
  cases h

/-- A place with a text is that of a file. -/
theorem find_of_text_at {found : String} (h : tree.textAt place = .ok (some found)) :
    ∃ mode content, tree.find? place = some (.file mode content) := by
  obtain ⟨content, hfile, -⟩ := text_at_iff.1 h
  unfold file? at hfile
  split at hfile
  · rename_i mode content hfind
    exact ⟨mode, content, hfind⟩
  · cases hfile

/-- The text of a place cannot be told for one of two reasons. -/
theorem text_at_fault {fault : Fault} (h : tree.textAt place = .error fault) :
    fault = .isADirectory ∨ fault = .notText := by
  unfold textAt at h
  split at h
  · cases h
  · exact .inl (Except.error.inj h).symm
  · rename_i mode content hfind
    unfold text at h
    split at h
    · cases h
    · exact .inr (Except.error.inj h).symm

/-- Whether the file at a place holds a text, if it is there. -/
def HoldsText (tree : Tree) (place : List String) : Prop :=
  ∀ content, tree.file? place = some content → ∃ text, content = .ofText text

/-- Then its text can be told, unless a directory is there. -/
theorem text_at_of_holds (h : tree.HoldsText place)
    (hfree : ∀ mode, tree.find? place ≠ some (.directory mode)) :
    ∃ found, tree.textAt place = .ok found := by
  unfold HoldsText file? at h
  unfold textAt
  split
  · exact ⟨none, rfl⟩
  · rename_i mode hfind
    exact absurd hfind (hfree mode)
  · rename_i mode content hfind
    rw [hfind] at h
    obtain ⟨found, rfl⟩ := h content rfl
    exact ⟨some found, by rw [text_of_text]; rfl⟩

/-- Else it cannot. -/
theorem text_at_of_holds_none (h : ¬ tree.HoldsText place) :
    tree.textAt place = .error .notText := by
  obtain ⟨content, hcontent⟩ := Classical.not_forall.1 h
  obtain ⟨hfile, hno⟩ := Classical.not_imp.1 hcontent
  unfold file? at hfile
  split at hfile
  · rename_i mode found hfind
    obtain rfl := Option.some.inj hfile
    have hnone : found.text? = none := by
      cases htext : found.text? with
      | none => rfl
      | some text => exact absurd ⟨text, (Bytes.of_text_of_text htext).symm⟩ hno
    rw [textAt, hfind]
    show (text found).map some = _
    rw [text, hnone]
    rfl
  · cases hfile

/-- What is at a place decides its text. -/
theorem text_at_congr (h : after.find? place = before.find? place) :
    after.textAt place = before.textAt place := by
  rw [textAt, textAt, h]

theorem file_congr (h : after.find? place = before.find? place) :
    after.file? place = before.file? place := by
  rw [file?, file?, h]

/-- A file that is put at a place has its bytes. -/
theorem file_put (tree : Tree) (place : List String) (mode : Nat) (content : Bytes) :
    (tree.put place (.file mode content)).file? place = some content := by
  rw [file?, find_put, if_pos rfl]

/-- Setting who may use something changes no bytes. -/
theorem file_set_mode (h : before.setMode path mode = .ok after) (place : List String) :
    after.file? place = before.file? place := by
  obtain ⟨node, hresolve, rfl⟩ := set_mode_iff.1 h
  obtain ⟨-, -, hfind, -⟩ := resolve_iff.1 hresolve
  by_cases hplace : place = path.parts
  · rw [file?, file?, find_put, if_pos hplace, hplace, hfind]
    cases node <;> rfl
  · rw [file?, file?, find_put, if_neg hplace]

/-- Its text is that of its bytes. -/
theorem text_at_put (tree : Tree) (place : List String) (mode : Nat) (found : String) :
    (tree.put place (.file mode (.ofText found))).textAt place = .ok (some found) :=
  text_at_iff.2 ⟨_, file_put tree place mode _, text_of_text found⟩

/-! ### A directory that is there -/

/-- Whether a directory can be looked up. -/
def IsThere (tree : Tree) (directory : Path) : Prop :=
  ∃ mode, tree.resolve directory = .ok (.directory mode)

/-- A name leads to another place than the directory that it is in. -/
theorem child_place_ne (directory : Path) (h : Path.IsName name) :
    (directory.child name).parts ≠ directory.parts := by
  rw [Path.parts_child directory h]
  exact fun heq => absurd (congrArg List.length heq) (by simp)

/-- Two names lead to two places. -/
theorem child_places_ne (directory : Path) {other : String} (h : Path.IsName name)
    (hother : Path.IsName other) (hne : name ≠ other) :
    (directory.child name).parts ≠ (directory.child other).parts :=
  fun heq => hne ((Path.parts_child_inj h hother).1 heq).2

namespace IsThere

/-- The way to a file of a directory that is there can be gone. -/
theorem open_way (h : tree.IsThere directory) (hname : Path.IsName name) :
    (directory.child name).check = .ok () ∧ tree.blocked? (directory.child name).parts = none := by
  obtain ⟨mode, hresolve⟩ := h
  obtain ⟨hcheck, hblocked, hfind, -⟩ := resolve_iff.1 hresolve
  rw [Path.parts_child directory hname]
  exact ⟨Path.check_child hname hcheck, blocked_child hblocked hfind⟩

/-- A file is looked up at its place. -/
theorem resolve_child (h : tree.IsThere directory) (hname : Path.IsName name) :
    tree.resolve (directory.child name) =
      match tree.find? (directory.child name).parts with
      | none => .error .notFound
      | some node => .ok node := by
  obtain ⟨hcheck, hblocked⟩ := h.open_way hname
  unfold resolve
  rw [hcheck, hblocked, Path.child_open directory hname]
  cases tree.find? (directory.child name).parts with
  | none => rfl
  | some node => simp [bind, Except.bind, pure, Except.pure]

/-- The text of a file is read at its place. -/
theorem read_text_child (h : tree.IsThere directory) (hname : Path.IsName name) :
    (tree.read (directory.child name)).bind text =
      match tree.textAt (directory.child name).parts with
      | .ok (some found) => .ok found
      | .ok none => .error .notFound
      | .error fault => .error fault := by
  unfold read textAt
  rw [h.resolve_child hname]
  cases tree.find? (directory.child name).parts with
  | none => rfl
  | some node =>
      cases node with
      | directory mode => rfl
      | file mode content =>
          show text content = match (text content).map some with
            | .ok (some found) => .ok found
            | .ok none => .error .notFound
            | .error fault => .error fault
          cases text content with
          | error fault => rfl
          | ok found => rfl

/-- A file that is there is read. -/
theorem read_child (h : tree.IsThere directory) (hname : Path.IsName name)
    (hfile : tree.file? (directory.child name).parts = some content) :
    tree.read (directory.child name) = .ok content := by
  unfold read
  rw [h.resolve_child hname]
  unfold file? at hfile
  split at hfile
  · rename_i hfind
    rw [hfind]
    obtain rfl := Option.some.inj hfile
    rfl
  · cases hfile

/-- A file is written to its place, unless a directory is there. -/
theorem write_child (h : tree.IsThere directory) (hname : Path.IsName name)
    (hfree : ∀ mode, tree.find? (directory.child name).parts ≠ some (.directory mode))
    (bytes : Bytes) :
    tree.writePrivate (directory.child name) bytes =
      .ok (tree.put (directory.child name).parts (.file privateMode bytes)) := by
  obtain ⟨hcheck, hblocked⟩ := h.open_way hname
  exact write_private_iff.2 ⟨hcheck, hblocked, hfree, Path.child_open directory hname, rfl⟩

/-- A file is removed from its place. -/
theorem remove_child (h : tree.IsThere directory) (hname : Path.IsName name)
    (hfile : tree.find? (directory.child name).parts = some (.file mode content)) :
    tree.remove (directory.child name) = .ok (tree.erase (directory.child name).parts) := by
  refine remove_iff.2 ⟨mode, content, ?_, rfl⟩
  rw [h.resolve_child hname, hfile]

/-- A directory stays there while its files change. -/
theorem change_child (h : tree.IsThere directory) (hname : Path.IsName name)
    (hfree : ∀ mode, tree.find? (directory.child name).parts ≠ some (.directory mode))
    (bytes : Bytes) :
    (tree.put (directory.child name).parts (.file privateMode bytes)).IsThere directory := by
  have hwrite := h.write_child hname hfree bytes
  obtain ⟨mode, hresolve⟩ := h
  exact Stays.resolve_kept
    (fun _ mode hdirectory => stays_write_private hwrite (.inr ⟨mode, hdirectory⟩)) hresolve

/-- So it does while they are removed. -/
theorem erase_child (h : tree.IsThere directory) (hname : Path.IsName name)
    (hfile : tree.find? (directory.child name).parts = some (.file mode content)) :
    (tree.erase (directory.child name).parts).IsThere directory := by
  have hremove := h.remove_child hname hfile
  obtain ⟨mode, hresolve⟩ := h
  exact Stays.resolve_kept
    (fun _ mode hdirectory => stays_remove hremove (.inr ⟨mode, hdirectory⟩)) hresolve

end IsThere

/-- No file of a directory is the present directory, or one that it is within. -/
theorem child_not_above (directory : Path) (h : Path.IsName name) :
    Path.isAbove (directory.child name).parts = false := by
  rw [Path.parts_child directory h]
  unfold Path.isAbove
  have htop : directory.parts ++ [name] ≠ [Path.top] := by
    intro heq
    have hname : name = Path.top := by
      have hlast := congrArg List.getLast? heq
      simpa using hlast
    exact h.no_slash (hname ▸ by decide)
  simp [htop, h.ne_back]

/-- Nothing is left where a file was removed. -/
theorem find_erase_child (tree : Tree) (directory : Path) (h : Path.IsName name) :
    (tree.erase (directory.child name).parts).find? (directory.child name).parts = none := by
  have hlookup : (tree.erase (directory.child name).parts).nodes.lookup
      (directory.child name).parts = none := by
    rw [List.lookup_eq_none_iff]
    rintro ⟨place, node⟩ hmem
    have hne : place ≠ (directory.child name).parts := by
      simpa using (List.mem_filter.1 hmem).2
    exact bne_iff_ne.2 hne.symm
  rw [find?, hlookup, child_not_above directory h]
  rfl

/-- Writing a file in the place of one that was removed is writing it there at once. -/
theorem put_erase (tree : Tree) (place : List String) (node : Node) :
    (tree.erase place).put place node = tree.put place node := by
  unfold put erase
  simp only [List.filter_filter, Bool.and_self]

/-! ### Preparing a directory -/

/-- Making the directories that are missing among some places changes nothing elsewhere. -/
theorem find_foldl {places : List (List String)} (h : place ∉ places) (tree : Tree) :
    (places.foldl (fun tree passed => if (tree.find? passed).isSome then tree
      else tree.put passed (.directory directoryMode)) tree).find? place = tree.find? place := by
  induction places generalizing tree with
  | nil => rfl
  | cons passed rest ih =>
      obtain ⟨hne, hrest⟩ := not_or.1 (mt List.mem_cons.2 h)
      rw [List.foldl_cons, ih hrest]
      split
      · rfl
      · rw [find_put, if_neg hne]

/-- What is made for a directory, unless its path says nothing: the directories that are missing on
the way, and the directory, where there was no file. -/
theorem of_create_directory (h : before.createDirectory path = .ok after) :
    (path.text = "" ∧ after = before) ∨
      ((∀ mode content, before.find? path.parts ≠ some (.file mode content)) ∧
        after = (way path.parts ++ [path.parts]).foldl
          (fun tree passed => if (tree.find? passed).isSome then tree
            else tree.put passed (.directory directoryMode)) before) := by
  simp only [createDirectory] at h
  split at h
  · rename_i hempty
    exact .inl ⟨String.isEmpty_iff.1 hempty, (Except.ok.inj h).symm⟩
  · split at h
    · cases h
    · split at h
      · cases h
      · split at h
        · cases h
        · rename_i hfile
          refine .inr ⟨fun mode content hfind => hfile ?_, (Except.ok.inj h).symm⟩
          rw [hfind]
          rfl

/-- Making a directory changes nothing that is further than it. -/
theorem find_create_directory (h : before.createDirectory path = .ok after)
    (hplace : path.parts.length < place.length) : after.find? place = before.find? place := by
  have hway : place ∉ way path.parts ++ [path.parts] := by
    intro hmem
    rw [List.mem_append, List.mem_singleton] at hmem
    rcases hmem with hpassed | rfl
    · obtain ⟨length, -, rfl⟩ := List.mem_map.1 hpassed
      have hle : (path.parts.take length).length ≤ path.parts.length :=
        List.length_take_le' length path.parts
      omega
    · omega
  rcases of_create_directory h with ⟨-, rfl⟩ | ⟨-, rfl⟩
  · rfl
  · exact find_foldl hway before

/-- What is made where there is no file is no file. -/
theorem no_file_foldl (places : List (List String))
    (h : ∀ mode content, tree.find? place ≠ some (.file mode content)) :
    ∀ mode content, (places.foldl (fun tree passed => if (tree.find? passed).isSome then tree
      else tree.put passed (.directory directoryMode)) tree).find? place ≠
        some (.file mode content) := by
  induction places generalizing tree with
  | nil => exact h
  | cons passed rest ih =>
      rw [List.foldl_cons]
      refine ih ?_
      split
      · exact h
      · intro mode content
        rw [find_put]
        split
        · simp
        · exact h mode content

/-- A directory that was made, and that only certain users may use from then on, is there. -/
theorem is_there_of_prepared {between : Tree} (hcreate : before.createDirectory path = .ok between)
    (hset : between.setMode path mode = .ok after) : after.IsThere path := by
  obtain ⟨node, hresolve, -⟩ := set_mode_iff.1 hset
  obtain ⟨hcheck, -, hfind, -⟩ := resolve_iff.1 hresolve
  have hempty : path.text ≠ "" := (Path.check_iff.1 hcheck).2
  have hbetween : ∃ mode, between.resolve path = .ok (.directory mode) := by
    rcases of_create_directory hcreate with ⟨habsurd, -⟩ | ⟨hfree, rfl⟩
    · exact absurd habsurd hempty
    · cases node with
      | directory found => exact ⟨found, hresolve⟩
      | file found content => exact absurd hfind (no_file_foldl _ hfree found content)
  obtain ⟨found, hdirectory⟩ := hbetween
  exact Stays.resolve_kept (fun _ _ _ => stays_set_mode hset _) hdirectory

/-- Preparing a directory changes none of its files. -/
theorem find_prepared {between : Tree} (hcreate : before.createDirectory directory = .ok between)
    (hset : between.setMode directory mode = .ok after) (hname : Path.IsName name) :
    after.find? (directory.child name).parts = before.find? (directory.child name).parts := by
  have hlength : directory.parts.length < (directory.child name).parts.length := by
    rw [Path.parts_child directory hname]
    simp
  obtain ⟨node, -, rfl⟩ := set_mode_iff.1 hset
  rw [find_put, if_neg (child_place_ne directory hname), find_create_directory hcreate hlength]

end EdgeFleet.Files.Tree
