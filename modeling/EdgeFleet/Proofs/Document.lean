import EdgeFleet.Document
import EdgeFleet.Proofs.Check
import Mathlib.Data.List.Nodup

/-!
# Documents that are read back

What a structure is written as gives each of its fields the value that was written for it
(`Fields.of_written`). Read `Faithful` first: a reader that undoes a writer. How a list, an optional
part and a part with a default are read follows from how the part itself is.
-/

namespace EdgeFleet

/-- A name that is there once is found at its place. -/
theorem idx_of_append_cons {names rest : List String} {name : String} (h : name ∉ names) :
    (names ++ name :: rest).idxOf? name = some names.length := by
  induction names with
  | nil => simp [List.idxOf?_cons]
  | cons other names ih =>
      obtain ⟨hother, hnames⟩ := not_or.1 (mt List.mem_cons.2 h)
      simp [List.idxOf?_cons, ih hnames, Ne.symm hother]

namespace Fields

/-- The values of fields that were written. -/
def written (fields : List (String × Option Document)) : Fields :=
  ⟨fields.map Prod.fst, fields.map Prod.snd, false⟩

variable {fields : List (String × Option Document)}

/-- An entry is put in the place of its field, if nothing is there yet. -/
theorem put_next {name : String} {names : List String} {values : List (Option Document)}
    (hname : name ∉ names) (hlength : values.length = names.length) (rest : List String)
    (value : Document) (others : List (Option Document)) :
    put (names ++ name :: rest) (values ++ none :: others) (.text name, value) =
      some (values ++ some value :: others) := by
  simp [put, Document.position?, idx_of_append_cons hname, ← hlength]

/-- The entries of the last fields are put behind the values of the others. -/
theorem put_written (before after : List (String × Option Document))
    (hnodup : ((before ++ after).map Prod.fst).Nodup) :
    (after.filterMap fun (name, value) => value.map fun value => (Document.text name, value)).foldlM
      (put ((before ++ after).map Prod.fst))
      (before.map Prod.snd ++ List.replicate after.length none) =
      some ((before ++ after).map Prod.snd) := by
  induction after generalizing before with
  | nil => simp
  | cons field after ih =>
      obtain ⟨name, value⟩ := field
      have happend : before ++ (name, value) :: after = (before ++ [(name, value)]) ++ after := by
        simp
      have hrest := ih (before ++ [(name, value)]) (happend ▸ hnodup)
      rw [← happend] at hrest
      -- A field that is absent has no entry, and its place stays empty.
      cases value with
      | none => simpa [List.replicate_succ] using hrest
      | some value =>
          have hname : name ∉ before.map Prod.fst := by
            rw [List.map_append, List.nodup_append'] at hnodup
            exact fun hmem => hnodup.2.2 hmem (by simp)
          have hlength : (before.map Prod.snd).length = (before.map Prod.fst).length := by simp
          have hput := put_next hname hlength (after.map Prod.fst) value
            (List.replicate after.length none)
          simpa [List.replicate_succ, hput] using hrest

/-- The fields of a structure that was written are read with their values. -/
theorem of_written {names : List String} (hnames : fields.map Prod.fst = names)
    (hnodup : names.Nodup) : ofDocument? names (.ofFields fields) = some (written fields) := by
  subst hnames
  have hput := put_written [] fields hnodup
  simp only [List.nil_append, List.map_nil] at hput
  simp only [ofDocument?, Document.ofFields, List.map_const', List.length_map, hput,
    Option.map_some, written]

variable {α : Type} {name : String} {read : Document → Option α}

/-- The value that was written for a field is the one that it is given. -/
@[simp] theorem get?_written :
    (written fields).get? name = (fields.find? (·.1 == name)).bind (·.2) := by
  rw [get?, written, List.zip_map']
  simp

@[simp] theorem required_written :
    (written fields).required name read =
      ((fields.find? (·.1 == name)).bind (·.2)).bind read := by
  rw [required, get?_written]

@[simp] theorem with_default_written {default : α} :
    (written fields).withDefault name default read =
      ((fields.find? (·.1 == name)).bind (·.2)).elim (some default) read := by
  rw [withDefault, get?_written]
  cases (fields.find? (·.1 == name)).bind (·.2) <;> rfl

@[simp] theorem trailing_written :
    (written fields).trailing name read =
      ((fields.find? (·.1 == name)).bind (·.2)).elim (some none) (nullable? read) := by
  rw [trailing, get?_written]
  cases (fields.find? (·.1 == name)).bind (·.2) <;> rfl

@[simp] theorem optional_written :
    (written fields).optional name read =
      ((fields.find? (·.1 == name)).bind (·.2)).elim (some none) (nullable? read) := by
  rw [optional, get?_written]
  cases (fields.find? (·.1 == name)).bind (·.2) <;> rfl

end Fields

namespace Document

/-- A reader that gets back every value that a writer has written. Nothing is written as null, which
stands for a value that is not there. -/
structure Faithful {α : Type} (read : Document → Option α) (write : α → Document) : Prop where
  read_write (value : α) : read (write value) = some value
  write_ne_null (value : α) : write value ≠ .null

namespace Faithful

variable {α : Type} {read : Document → Option α} {write : α → Document}

theorem text : Faithful text? .text where
  read_write _ := rfl
  write_ne_null _ := nofun

/-- A list is read back if its items are. -/
theorem list (h : Faithful read write) :
    Faithful (listOf? read) fun items => .list (items.map write) where
  read_write := map_all_read h.read_write
  write_ne_null _ := nofun

theorem texts : Faithful texts? ofTexts :=
  text.list

/-- What is written as a map of fields is not null. -/
theorem of_fields {fields : α → List (String × Option Document)}
    (h : ∀ value, read (.ofFields (fields value)) = some value) :
    Faithful read fun value => .ofFields (fields value) where
  read_write := h
  write_ne_null _ := nofun

/-- A value that is there is read as one that is. -/
theorem nullable (h : Faithful read write) (value : α) :
    Fields.nullable? read (write value) = some (some value) := by
  have hnull := h.write_ne_null value
  unfold Fields.nullable?
  split
  · contradiction
  · rw [h.read_write, Option.map_some]

/-- A part that is left out when it is not there is read back. -/
theorem left_out (h : Faithful read write) (part : Option α) :
    (part.map write).elim (some none) (Fields.nullable? read) = some part := by
  cases part with
  | none => rfl
  | some value => exact h.nullable value

/-- A part that is null when it is not there is read back. -/
theorem or_null (h : Faithful read write) (part : Option α) :
    Fields.nullable? read ((part.map write).getD .null) = some part := by
  cases part with
  | none => rfl
  | some value => exact h.nullable value

end Faithful

end Document

end EdgeFleet
