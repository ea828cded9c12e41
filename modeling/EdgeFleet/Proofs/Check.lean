import EdgeFleet.Record.Violation
import Mathlib.Data.List.Forall2

/-!
# Checks that pass

When a check made of checks passes. Read `each_passes` first: a check of all items of a list passes
exactly if every item passes at its position. `map_all_iff` says the same of calculations that give
a value for each item, and `bind_ok` takes those that go on with another one apart.
-/

namespace EdgeFleet

/-- A calculation that goes on with another succeeds only if both do. -/
theorem bind_ok {ε α β : Type} {first : Except ε α} {next : α → Except ε β} {result : β}
    (h : (first >>= next) = .ok result) : ∃ value, first = .ok value ∧ next value = .ok result := by
  cases first with
  | error error => cases h
  | ok value => exact ⟨value, rfl, h⟩

/-- A calculation succeeds whatever its errors are turned into. -/
theorem map_error_ok {ε ε' α : Type} {result : Except ε α} {f : ε → ε'} {value : α} :
    result.mapError f = .ok value ↔ result = .ok value := by
  cases result <;> simp [Except.mapError]

/-- A calculation over all items of a list succeeds exactly if it does on each of them, and the
values stand in the order of the items. -/
theorem map_all_iff {ε α β : Type} {f : α → Except ε β} {items : List α} {values : List β} :
    items.mapM f = .ok values ↔
      List.Forall₂ (fun item value => f item = .ok value) items values := by
  induction items generalizing values with
  | nil => cases values <;> simp [pure, Except.pure]
  | cons item rest ih =>
      rw [List.mapM_cons]
      cases hitem : f item with
      | error error => cases values <;> simp [bind, Except.bind, hitem]
      | ok value =>
          cases hrest : rest.mapM f with
          | error error => cases values <;> simp [bind, Except.bind, hitem, ← ih, hrest]
          | ok others =>
              cases values <;> simp [bind, Except.bind, pure, Except.pure, hitem, ← ih, hrest]

/-- A calculation that succeeds on each item of a list succeeds over all of them. -/
theorem map_all_ok {ε α β : Type} {f : α → Except ε β} {items : List α}
    (h : ∀ item ∈ items, ∃ value, f item = .ok value) : ∃ values, items.mapM f = .ok values := by
  induction items with
  | nil => exact ⟨[], rfl⟩
  | cons item rest ih =>
      obtain ⟨value, hvalue⟩ := h item (by simp)
      obtain ⟨values, hvalues⟩ := ih fun other hother => h other (by simp [hother])
      exact ⟨value :: values, map_all_iff.2 (.cons hvalue (map_all_iff.1 hvalues))⟩

/-- A calculation that succeeds over all items of a list does on each of them. -/
theorem ok_of_map_all {ε α β : Type} {f : α → Except ε β} {items : List α} {values : List β}
    (h : items.mapM f = .ok values) : ∀ item ∈ items, ∃ value, f item = .ok value := by
  rw [map_all_iff] at h
  induction h with
  | nil => simp
  | cons hitem hrest ih => exact List.forall_mem_cons.2 ⟨⟨_, hitem⟩, ih⟩

/-- A calculation over all items of a list that fails does so as it fails on one of them. -/
theorem map_all_error {ε α β : Type} {f : α → Except ε β} {items : List α} {error : ε}
    (h : items.mapM f = .error error) : ∃ item ∈ items, f item = .error error := by
  induction items with
  | nil => simp [pure, Except.pure] at h
  | cons item rest ih =>
      rw [List.mapM_cons] at h
      cases hitem : f item with
      | error failure =>
          obtain rfl : failure = error := by simpa [bind, Except.bind, hitem] using h
          exact ⟨item, by simp, hitem⟩
      | ok value =>
          cases hrest : rest.mapM f with
          | error failure =>
              obtain rfl : failure = error := by simpa [bind, Except.bind, hitem, hrest] using h
              obtain ⟨other, hother, hfailed⟩ := ih hrest
              exact ⟨other, by simp [hother], hfailed⟩
          | ok others => simp [bind, Except.bind, pure, Except.pure, hitem, hrest] at h

/-- Values that a calculation over all items of a list gives are each given for an item. -/
theorem mem_of_map_all {ε α β : Type} {f : α → Except ε β} {items : List α} {values : List β}
    (h : items.mapM f = .ok values) : ∀ value ∈ values, ∃ item ∈ items, f item = .ok value := by
  rw [map_all_iff] at h
  induction h with
  | nil => simp
  | @cons item value items values hitem hrest ih =>
      refine List.forall_mem_cons.2 ⟨⟨item, by simp, hitem⟩, fun other hother => ?_⟩
      obtain ⟨found, hfound, hgiven⟩ := ih other hother
      exact ⟨found, by simp [hfound], hgiven⟩

/-- The values of a calculation over all items of a list can be taken further one by one. -/
theorem map_all_map {ε α β γ : Type} (f : α → Except ε β) (g : β → γ) (items : List α) :
    (items.mapM fun item => (f item).map g) = (items.mapM f).map (List.map g) := by
  induction items with
  | nil => rfl
  | cons item rest ih =>
      rw [List.mapM_cons, List.mapM_cons, ih]
      cases f item with
      | error error => rfl
      | ok value => cases rest.mapM f <;> rfl

section Related

variable {α β γ : Type} {related : α → β → Prop} {items : List α} {values : List β}
  (h : List.Forall₂ related items values)
include h

/-- Values are the same to a function as the items that they stand for are to another one. -/
theorem map_eq_of_forall₂ {f : α → γ} {g : β → γ}
    (heq : ∀ item value, related item value → g value = f item) : values.map g = items.map f := by
  induction h with
  | nil => rfl
  | cons hvalue hrest ih => rw [List.map_cons, List.map_cons, heq _ _ hvalue, ih]

/-- So they are where a function gives lists. -/
theorem flat_map_eq_of_forall₂ {f : α → List γ} {g : β → List γ}
    (heq : ∀ item value, related item value → g value = f item) :
    values.flatMap g = items.flatMap f := by
  rw [List.flatMap_def, List.flatMap_def, map_eq_of_forall₂ h heq]

end Related

/-- Items that are read back one by one are read back as a list. -/
theorem map_all_read {ω α : Type} {read : ω → Option α} {write : α → ω}
    (h : ∀ value, read (write value) = some value) (items : List α) :
    (items.map write).mapM read = some items := by
  induction items with
  | nil => rfl
  | cons item rest ih => simp [List.mapM_cons, h, ih]

namespace Check

variable {α : Type} {check : Check} {next : Unit → Check} {place : Place}

/-- A requirement passes if it is met. -/
theorem require_passes {condition : Bool} {fault : Fault} :
    require condition fault = .ok () ↔ condition = true := by
  cases condition <;> simp [require]

/-- Naming the place of a part does not change whether the part passes. -/
theorem inside_passes : inside place check = .ok () ↔ check = .ok () := by
  cases check <;> simp [inside]

/-- A check after another passes if both do. -/
theorem bind_passes : (check >>= next) = .ok () ↔ check = .ok () ∧ next () = .ok () := by
  cases check <;> simp [bind, Except.bind]

/-- A check of all items passes if every item passes at its position. -/
theorem each_passes {check : Nat → α → Check} {items : List α} :
    each check items = .ok () ↔ ∀ i (h : i < items.length), check i items[i] = .ok () := by
  have hall : ∀ pairs : List (α × Nat),
      (pairs.forM fun pair => check pair.2 pair.1) = .ok () ↔
        ∀ pair ∈ pairs, check pair.2 pair.1 = .ok () := by
    intro pairs
    induction pairs with
    | nil => exact ⟨fun _ => by simp, fun _ => rfl⟩
    | cons pair rest ih =>
        rw [List.forall_mem_cons, ← ih]
        exact bind_passes
  refine (hall items.zipIdx).trans ⟨?_, ?_⟩
  · intro h i hi
    exact h (items[i], i) (List.mk_mem_zipIdx_iff_getElem?.2 (List.getElem?_eq_getElem hi))
  · rintro h ⟨item, i⟩ hpair
    obtain ⟨hi, hitem⟩ := List.getElem?_eq_some_iff.1 (List.mk_mem_zipIdx_iff_getElem?.1 hpair)
    exact hitem ▸ h i hi

/-- Every item of a list passes that passes a check which does not look at positions. -/
theorem each_mem {check : Nat → α → Check} {passes : α → Prop} {items : List α}
    (h : each check items = .ok ()) (hcheck : ∀ i item, check i item = .ok () → passes item) :
    ∀ item ∈ items, passes item := by
  intro item hitem
  obtain ⟨i, hi, rfl⟩ := List.getElem_of_mem hitem
  exact hcheck i _ (each_passes.1 h i hi)

end Check

end EdgeFleet
