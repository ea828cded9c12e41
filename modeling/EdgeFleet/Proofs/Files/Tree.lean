import EdgeFleet.Files.Tree
import EdgeFleet.Proofs.Files.Path

/-!
# What stays in a tree of files

`content?` is the content of the file at a place that can be reached. The operations on a tree leave
the content of every other file as it was: what is on the way to a file is a directory, and no
operation makes a directory into something else or takes one away (`Stays`). In a directory that is
`Ready` for some files, these can be written one after another.
-/

namespace EdgeFleet.Files

namespace Node

@[simp] theorem with_mode_self (node : Node) : node.withMode node.mode = node := by
  cases node <;> rfl

@[simp] theorem with_mode_twice (node : Node) (first second : Nat) :
    (node.withMode first).withMode second = node.withMode second := by
  cases node <;> rfl

end Node

namespace Tree

variable {tree before between after : Tree} {path : Path} {place other : List String} {node : Node}
  {content bytes : Bytes} {mode : Nat}

/-- Taking nodes away from a place does not change what is found at another. -/
theorem lookup_filter_ne (h : other ≠ place) (nodes : List (List String × Node)) :
    (nodes.filter fun (known, _) => known ≠ place).lookup other = nodes.lookup other := by
  induction nodes with
  | nil => rfl
  | cons first rest ih =>
      obtain ⟨known, node⟩ := first
      rw [List.filter_cons]
      by_cases hplace : known = place
      · subst hplace
        have hother : (other == known) = false := beq_eq_false_iff_ne.2 h
        simp [List.lookup_cons, hother, ← ih]
      · simp only [ne_eq, hplace, not_false_eq_true, decide_true, if_true, List.lookup_cons]
        cases other == known with
        | true => rfl
        | false => exact ih

/-- A place that is taken away is all that is taken away. -/
theorem find_erase (h : other ≠ place) : (tree.erase place).find? other = tree.find? other := by
  rw [find?, find?, erase, lookup_filter_ne h]

/-- What is put at a place is there, and nothing else is changed. -/
theorem find_put (tree : Tree) (place other : List String) (node : Node) :
    (tree.put place node).find? other = if other = place then some node else tree.find? other := by
  by_cases h : other = place
  · subst h
    simp [find?, put]
  · have hne : (other == place) = false := beq_eq_false_iff_ne.2 h
    simp only [if_neg h, find?, put, erase, List.lookup_cons, hne, lookup_filter_ne h]

/-! ### When operations succeed -/

/-- What can be looked up is there. -/
theorem resolve_iff :
    tree.resolve path = .ok node ↔ path.check = .ok () ∧ tree.blocked? path.parts = none ∧
      tree.find? path.parts = some node ∧ (node.isFile && path.text.endsWith "/") = false := by
  unfold resolve
  cases hcheck : path.check with
  | error fault => simp [bind, Except.bind]
  | ok =>
      cases hblocked : tree.blocked? path.parts with
      | some fault => simp [bind, Except.bind, throw, throwThe, MonadExceptOf.throw]
      | none =>
          cases hfind : tree.find? path.parts with
          | none => simp [bind, Except.bind, throw, throwThe, MonadExceptOf.throw]
          | some found =>
              simp only [bind, Except.bind, true_and, Option.some.injEq]
              split
              · next hslash =>
                constructor
                · intro herror
                  cases herror
                · rintro ⟨rfl, hopen⟩
                  simp [hslash] at hopen
              · next hslash =>
                constructor
                · intro hfound
                  cases hfound
                  exact ⟨rfl, by simpa using hslash⟩
                · rintro ⟨rfl, -⟩
                  rfl

/-- Setting who may use something puts it back in its place. -/
theorem set_mode_iff : before.setMode path mode = .ok after ↔
    ∃ node, before.resolve path = .ok node ∧
      after = before.put path.parts (node.withMode mode) := by
  unfold setMode
  cases hresolve : before.resolve path with
  | error fault => simp [bind, Except.bind]
  | ok node => simp [bind, Except.bind, pure, Except.pure, eq_comm]

/-- A file is removed from its place. -/
theorem remove_iff : before.remove path = .ok after ↔
    ∃ mode content, before.resolve path = .ok (.file mode content) ∧
      after = before.erase path.parts := by
  unfold remove
  cases hresolve : before.resolve path with
  | error fault => simp [bind, Except.bind]
  | ok node =>
      cases node <;> simp [bind, Except.bind, pure, Except.pure, throw, throwThe,
        MonadExceptOf.throw, eq_comm]

/-- A file is read where it is. -/
theorem read_iff : tree.read path = .ok content ↔
    ∃ mode, tree.resolve path = .ok (.file mode content) := by
  unfold read
  cases hresolve : tree.resolve path with
  | error fault => simp [bind, Except.bind]
  | ok node =>
      cases node <;> simp [bind, Except.bind, pure, Except.pure, throw, throwThe,
        MonadExceptOf.throw, eq_comm]

/-- A file is written to a place that can be reached and is not that of a directory. -/
theorem write_private_iff : before.writePrivate path bytes = .ok after ↔
    path.check = .ok () ∧ before.blocked? path.parts = none ∧
      (∀ mode, before.find? path.parts ≠ some (.directory mode)) ∧
      path.text.endsWith "/" = false ∧
      after = before.put path.parts (.file privateMode bytes) := by
  unfold writePrivate
  cases hcheck : path.check with
  | error fault => simp [bind, Except.bind]
  | ok =>
      cases hblocked : before.blocked? path.parts with
      | some fault => simp [bind, Except.bind, throw, throwThe, MonadExceptOf.throw]
      | none =>
          cases hslash : path.text.endsWith "/" <;> cases hfind : before.find? path.parts with
          | none => simp [bind, Except.bind, pure, Except.pure, throw, throwThe,
              MonadExceptOf.throw, eq_comm]
          | some node =>
              cases node <;> simp [bind, Except.bind, pure, Except.pure, throw, throwThe,
                MonadExceptOf.throw, eq_comm]

/-- The way to a place within a place goes through that place. -/
theorem way_concat (place : List String) (name : String) :
    way (place ++ [name]) = way place ++ [place] := by
  have htake : ∀ length ∈ List.range place.length,
      (place ++ [name]).take length = place.take length := fun length hlength =>
    List.take_append_of_le_length (Nat.le_of_lt (List.mem_range.1 hlength))
  rw [way, way, List.length_append, List.length_singleton, List.range_succ, List.map_append,
    List.map_congr_left htake]
  simp

/-- The way to a place can be gone if there are directories all along. -/
theorem blocked_iff : tree.blocked? place = none ↔
    ∀ passed ∈ way place, ∃ mode, tree.find? passed = some (.directory mode) := by
  rw [blocked?, List.findSome?_eq_none_iff]
  refine forall₂_congr fun passed _ => ?_
  cases tree.find? passed with
  | none => simp
  | some node => cases node <;> simp

/-- The way to a place within a directory can be gone. -/
theorem blocked_child {name : String} (hblocked : tree.blocked? place = none)
    (hplace : tree.find? place = some (.directory mode)) :
    tree.blocked? (place ++ [name]) = none := by
  refine blocked_iff.2 fun passed hpassed => ?_
  rw [way_concat, List.mem_append, List.mem_singleton] at hpassed
  obtain hpassed | rfl := hpassed
  · exact blocked_iff.1 hblocked passed hpassed
  · exact ⟨mode, hplace⟩

/-- Places where there are directories are none that must be made. -/
theorem foldl_there {places : List (List String)}
    (h : ∀ passed ∈ places, ∃ mode, tree.find? passed = some (.directory mode)) :
    places.foldl (fun tree passed => if (tree.find? passed).isSome then tree
      else tree.put passed (.directory directoryMode)) tree = tree := by
  induction places with
  | nil => rfl
  | cons passed rest ih =>
      obtain ⟨mode, hdirectory⟩ := h passed List.mem_cons_self
      rw [List.foldl_cons, hdirectory, Option.isSome_some, if_pos rfl]
      exact ih fun passed hpassed => h passed (List.mem_cons_of_mem _ hpassed)

/-- A directory that is there is not made anew. -/
theorem create_directory_there (h : tree.resolve path = .ok (.directory mode)) :
    tree.createDirectory path = .ok tree := by
  obtain ⟨hcheck, hblocked, hfind, -⟩ := resolve_iff.1 h
  obtain ⟨hname, hempty⟩ := Path.check_iff.1 hcheck
  have hway := blocked_iff.1 hblocked
  have hfiles :
      ((way path.parts).any fun passed => (tree.find? passed).any Node.isFile) = false := by
    refine List.any_eq_false.2 fun passed hpassed => ?_
    obtain ⟨mode, hdirectory⟩ := hway passed hpassed
    simp [hdirectory, Node.isFile]
  -- Nothing on the way is missing, so that nothing is left to be made.
  have hthere : ∀ passed ∈ way path.parts ++ [path.parts],
      ∃ mode, tree.find? passed = some (.directory mode) := by
    intro passed hpassed
    rw [List.mem_append, List.mem_singleton] at hpassed
    obtain hpassed | rfl := hpassed
    · exact hway passed hpassed
    · exact ⟨mode, hfind⟩
  simp [createDirectory, hempty, hname, hfiles, hfind, Node.isFile, foldl_there hthere]

/-! ### What stays -/

/-- Whether what is at a place in one tree is there in another too, but for who may use it. -/
def Stays (before after : Tree) (place : List String) : Prop :=
  ∀ node, before.find? place = some node → ∃ mode, after.find? place = some (node.withMode mode)

theorem Stays.refl (tree : Tree) (place : List String) : tree.Stays tree place :=
  fun node h => ⟨node.mode, by rw [h, Node.with_mode_self]⟩

theorem Stays.trans (hfirst : before.Stays between place) (hsecond : between.Stays after place) :
    before.Stays after place := by
  intro node hnode
  obtain ⟨mode, hbetween⟩ := hfirst node hnode
  obtain ⟨last, hafter⟩ := hsecond _ hbetween
  exact ⟨last, by rw [hafter, Node.with_mode_twice]⟩

/-- What is put at one place leaves all others alone. -/
theorem stays_put (h : place ≠ other) (node : Node) : tree.Stays (tree.put other node) place := by
  intro found hfound
  exact ⟨found.mode, by rw [find_put, if_neg h, hfound, Node.with_mode_self]⟩

/-- Making the directories that are missing among some places changes nothing that is there. -/
theorem stays_foldl (places : List (List String)) (tree : Tree) (place : List String) :
    tree.Stays (places.foldl (fun tree passed => if (tree.find? passed).isSome then tree
      else tree.put passed (.directory directoryMode)) tree) place := by
  induction places generalizing tree with
  | nil => exact .refl tree place
  | cons passed rest ih =>
      rw [List.foldl_cons]
      refine .trans ?_ (ih _)
      by_cases hthere : (tree.find? passed).isSome
      · rw [if_pos hthere]
        exact .refl tree place
      · rw [if_neg hthere]
        intro node hnode
        have hplace : place ≠ passed := by
          rintro rfl
          simp [hnode] at hthere
        exact stays_put hplace _ node hnode

/-- Making a directory changes nothing that is there. -/
theorem stays_create_directory (h : before.createDirectory path = .ok after)
    (place : List String) : before.Stays after place := by
  simp only [createDirectory] at h
  split at h
  · cases h
    exact .refl _ place
  · split at h
    · cases h
    · split at h
      · cases h
      · split at h
        · cases h
        · cases h
          exact stays_foldl _ before place

/-- Setting who may use something changes nothing else. -/
theorem stays_set_mode (h : before.setMode path mode = .ok after) (place : List String) :
    before.Stays after place := by
  obtain ⟨found, hresolve, rfl⟩ := set_mode_iff.1 h
  obtain ⟨-, -, hfind, -⟩ := resolve_iff.1 hresolve
  by_cases hplace : place = path.parts
  · subst hplace
    intro node hnode
    obtain rfl : found = node := Option.some.inj (hfind.symm.trans hnode)
    exact ⟨mode, by rw [find_put, if_pos rfl]⟩
  · exact stays_put hplace _

/-- Writing a file changes nothing but this file. -/
theorem stays_write_private (h : before.writePrivate path bytes = .ok after)
    (hplace : place ≠ path.parts ∨ ∃ mode, before.find? place = some (.directory mode)) :
    before.Stays after place := by
  obtain ⟨-, -, hkind, -, rfl⟩ := write_private_iff.1 h
  obtain hplace | ⟨mode, hdirectory⟩ := hplace
  · exact stays_put hplace _
  · refine stays_put ?_ _
    rintro rfl
    exact hkind mode hdirectory

/-- Removing a file changes nothing but this file. -/
theorem stays_remove (h : before.remove path = .ok after)
    (hplace : place ≠ path.parts ∨ ∃ mode, before.find? place = some (.directory mode)) :
    before.Stays after place := by
  obtain ⟨mode, content, hresolve, rfl⟩ := remove_iff.1 h
  obtain ⟨-, -, hfind, -⟩ := resolve_iff.1 hresolve
  have hne : place ≠ path.parts := by
    obtain hplace | ⟨mode, hdirectory⟩ := hplace
    · exact hplace
    · rintro rfl
      simp [hfind] at hdirectory
  intro node hnode
  exact ⟨node.mode, by rw [find_erase hne, hnode, Node.with_mode_self]⟩

/-! ### The content of files -/

/-- The content of the file at a place that can be reached. -/
def content? (tree : Tree) (place : List String) : Option Bytes :=
  match tree.blocked? place, tree.find? place with
  | none, some (.file _ content) => some content
  | _, _ => none

theorem content_iff : tree.content? place = some content ↔
    tree.blocked? place = none ∧ ∃ mode, tree.find? place = some (.file mode content) := by
  unfold content?
  cases tree.blocked? place with
  | some fault => simp
  | none =>
      cases tree.find? place with
      | none => simp
      | some node => cases node <;> simp

/-- What is read is the content of the file at the place of the path. -/
theorem content_of_read (h : tree.read path = .ok content) :
    tree.content? path.parts = some content := by
  obtain ⟨mode, hresolve⟩ := read_iff.1 h
  obtain ⟨-, hblocked, hfind, -⟩ := resolve_iff.1 hresolve
  exact content_iff.2 ⟨hblocked, mode, hfind⟩

/-- The content of a file is what is read there, if the path can be looked up. -/
theorem read_of_content (h : tree.content? path.parts = some content) (hcheck : path.check = .ok ())
    (hopen : path.text.endsWith "/" = false) : tree.read path = .ok content := by
  obtain ⟨hblocked, mode, hfind⟩ := content_iff.1 h
  exact read_iff.2 ⟨mode, resolve_iff.2 ⟨hcheck, hblocked, hfind, by simp [hopen]⟩⟩

/-- What can be read in one tree is read in another with the content that it has there. -/
theorem read_elsewhere (hread : before.read path = .ok content)
    (h : after.content? path.parts = some bytes) : after.read path = .ok bytes := by
  obtain ⟨_, hresolve⟩ := read_iff.1 hread
  obtain ⟨hcheck, -, -, hopen⟩ := resolve_iff.1 hresolve
  exact read_of_content h hcheck (by simpa [Node.isFile] using hopen)

/-- A path that cannot be looked up cannot be read. -/
theorem read_of_check {fault : Fault} (h : path.check = .error fault) :
    tree.read path = .error fault := by
  simp [read, resolve, h, bind, Except.bind]

section Kept

variable (hway : ∀ passed mode, before.find? passed = some (.directory mode) →
  before.Stays after passed)
include hway

/-- The way to a place stays open if all directories stay. -/
theorem Stays.blocked_kept (h : before.blocked? place = none) : after.blocked? place = none := by
  refine blocked_iff.2 fun passed hpassed => ?_
  obtain ⟨mode, hdirectory⟩ := blocked_iff.1 h passed hpassed
  exact hway passed mode hdirectory _ hdirectory

/-- A directory can still be looked up if all directories stay. -/
theorem Stays.resolve_kept (h : before.resolve path = .ok (.directory mode)) :
    ∃ mode, after.resolve path = .ok (.directory mode) := by
  obtain ⟨hcheck, hblocked, hfind, -⟩ := resolve_iff.1 h
  obtain ⟨last, hafter⟩ := hway _ mode hfind _ hfind
  exact ⟨last, resolve_iff.2 ⟨hcheck, blocked_kept hway hblocked, hafter, rfl⟩⟩

/-- A file keeps its content if it stays and all directories do. -/
theorem Stays.content_kept (hplace : before.Stays after place)
    (h : before.content? place = some content) : after.content? place = some content := by
  obtain ⟨hblocked, mode, hfind⟩ := content_iff.1 h
  exact content_iff.2 ⟨blocked_kept hway hblocked, hplace _ hfind⟩

end Kept

/-- Making directories leaves the content of all files alone. -/
theorem content_create_directory (h : before.createDirectory path = .ok after)
    (hcontent : before.content? place = some content) : after.content? place = some content :=
  Stays.content_kept (fun _ _ _ => stays_create_directory h _) (stays_create_directory h place)
    hcontent

/-- Setting who may use something leaves the content of all files alone. -/
theorem content_set_mode (h : before.setMode path mode = .ok after)
    (hcontent : before.content? place = some content) : after.content? place = some content :=
  Stays.content_kept (fun _ _ _ => stays_set_mode h _) (stays_set_mode h place) hcontent

/-- Writing a file leaves the content of all others alone. -/
theorem content_write_other (h : before.writePrivate path bytes = .ok after)
    (hplace : place ≠ path.parts) (hcontent : before.content? place = some content) :
    after.content? place = some content :=
  Stays.content_kept (fun _ mode hdirectory => stays_write_private h (.inr ⟨mode, hdirectory⟩))
    (stays_write_private h (.inl hplace)) hcontent

/-- What is written is the content of the file from then on. -/
theorem content_write (h : before.writePrivate path bytes = .ok after) :
    after.content? path.parts = some bytes := by
  obtain ⟨-, hblocked, -, -, hput⟩ := write_private_iff.1 h
  refine content_iff.2 ⟨?_, privateMode, by rw [hput, find_put, if_pos rfl]⟩
  exact Stays.blocked_kept
    (fun _ mode hdirectory => stays_write_private h (.inr ⟨mode, hdirectory⟩)) hblocked

/-- Removing a file leaves the content of all others alone. -/
theorem content_remove_other (h : before.remove path = .ok after)
    (hplace : place ≠ path.parts) (hcontent : before.content? place = some content) :
    after.content? place = some content :=
  Stays.content_kept (fun _ mode hdirectory => stays_remove h (.inr ⟨mode, hdirectory⟩))
    (stays_remove h (.inl hplace)) hcontent

/-- What can be read can still be read after setting who may use something. -/
theorem read_set_mode {other : Path} (h : before.setMode path mode = .ok after)
    (hread : before.read other = .ok content) : after.read other = .ok content :=
  read_elsewhere hread (content_set_mode h (content_of_read hread))

/-! ### Directories to write to -/

/-- A directory that can be looked up, where no directory is in the place of some files. -/
structure Ready (tree : Tree) (directory : Path) (names : List String) : Prop where
  there : ∃ mode, tree.resolve directory = .ok (.directory mode)
  clear : ∀ name ∈ names, ∀ mode,
    tree.find? (directory.parts ++ [name]) ≠ some (.directory mode)

namespace Ready

variable {directory : Path} {name : String} {names : List String}

/-- Setting who may use something keeps a directory ready. -/
theorem set_mode (h : before.Ready directory names) (hset : before.setMode path mode = .ok after) :
    after.Ready directory names := by
  obtain ⟨found, hresolve, rfl⟩ := set_mode_iff.1 hset
  obtain ⟨-, -, hfind, -⟩ := resolve_iff.1 hresolve
  obtain ⟨old, hthere⟩ := h.there
  refine ⟨Stays.resolve_kept (fun _ _ _ => stays_set_mode hset _) hthere, ?_⟩
  intro name hname last
  have hclear := h.clear name hname
  rw [find_put]
  -- The mode may be that of a file of the directory, which does not turn it into a directory.
  split
  · next hplace =>
    rw [hplace, hfind] at hclear
    cases found with
    | file found content => simp [Node.withMode]
    | directory found => exact absurd rfl (hclear found)
  · exact hclear last

/-- The files can be written, which keeps the directory ready. -/
theorem write (h : before.Ready directory names) (hname : name ∈ names) (hpart : Path.IsName name)
    (bytes : Bytes) :
    ∃ after, before.writePrivate (directory.child name) bytes = .ok after ∧
      after.Ready directory names := by
  obtain ⟨old, hthere⟩ := h.there
  obtain ⟨hcheck, hblocked, hfind, -⟩ := resolve_iff.1 hthere
  have hparts := Path.parts_child directory hpart
  have hwrite : before.writePrivate (directory.child name) bytes =
      .ok (before.put (directory.child name).parts (.file privateMode bytes)) :=
    write_private_iff.2 ⟨Path.check_child hpart hcheck, hparts ▸ blocked_child hblocked hfind,
      hparts ▸ h.clear name hname, Path.child_open directory hpart, rfl⟩
  refine ⟨_, hwrite, Stays.resolve_kept (fun _ mode hdirectory =>
    stays_write_private hwrite (.inr ⟨mode, hdirectory⟩)) hthere, ?_⟩
  intro other hother mode
  rw [find_put]
  split
  · simp
  · exact h.clear other hother mode

end Ready

end Tree

end EdgeFleet.Files
