import EdgeFleet.Uuid

/-!
# Spellings of UUIDs

The four spellings have four lengths, and no spelling of one is the beginning of a spelling of
another. Read `length_eq_spelled` first: how long a UUID is can be read off its first nine
characters, whatever stands behind it. `prefix_free` follows.
-/

namespace EdgeFleet.Uuid

/-- How many characters of a text belong to the UUID that it begins with. -/
def spelled (text : List Char) : Nat :=
  match text[0]?, text[8]? with
  | some first, some ninth =>
    if first = '\x7b' then 38
    else if !isHexDigit first then 45
    else if ninth = '-' then 36
    else 32
  | _, _ => 0

/-- The first nine characters decide how long a UUID is. -/
theorem spelled_append {text : List Char} (h : 8 < text.length) (rest : List Char) :
    spelled (text ++ rest) = spelled text := by
  simp only [spelled, List.getElem?_append_left h, List.getElem?_append_left (Nat.zero_lt_of_lt h)]

/-- Several groups are digits of the first length, a hyphen, and the other groups. -/
theorem groups_cons {n m : Nat} {lengths : List Nat} {text : List Char}
    (h : areGroups (n :: m :: lengths) text) :
    ∃ digits rest, text = digits ++ '-' :: rest ∧ digits.length = n ∧
      digits.all isHexDigit ∧ areGroups (m :: lengths) rest := by
  simp only [areGroups, Bool.and_eq_true, beq_iff_eq] at h
  obtain ⟨⟨hlength, hdigits⟩, hrest⟩ := h
  split at hrest
  · next rest hdrop =>
      refine ⟨text.take n, rest, ?_, hlength, hdigits, hrest⟩
      rw [← hdrop, List.take_append_drop]
  · cases hrest

/-- Groups of digits are as long as their lengths and the hyphens between them. -/
theorem length_of_groups {n : Nat} {lengths : List Nat} {text : List Char}
    (h : areGroups (n :: lengths) text) :
    text.length = n + lengths.foldr (· + ·) 0 + lengths.length := by
  induction lengths generalizing n text with
  | nil =>
      simp only [areGroups, Bool.and_eq_true, beq_iff_eq] at h
      simp [h.1]
  | cons m lengths ih =>
      obtain ⟨digits, rest, rfl, hdigits, _, hrest⟩ := groups_cons h
      have hlength := ih hrest
      simp only [List.length_append, List.length_cons, List.foldr_cons] at hlength ⊢
      omega

/-- A text that begins with a digit is the plain or the hyphenated spelling; the ninth character
tells which. -/
theorem spelled_of_digit {text : List Char} {first ninth : Char} (hfirst : text[0]? = some first)
    (hninth : text[8]? = some ninth) (hdigit : isHexDigit first) :
    spelled text = if ninth = '-' then 36 else 32 := by
  have hbrace : first ≠ '\x7b' := by
    rintro rfl
    exact absurd hdigit (by decide)
  simp only [spelled, hfirst, hninth, hbrace, hdigit, if_false, Bool.not_true, Bool.false_eq_true]

/-- The plain spelling has 32 characters, all of them digits. -/
theorem spelled_simple {text : List Char} (h : isSimple text) :
    text.length = 32 ∧ spelled text = 32 := by
  simp only [isSimple, Bool.and_eq_true, beq_iff_eq] at h
  obtain ⟨hlength, hdigits⟩ := h
  have hdigit : ∀ i (hi : i < text.length), isHexDigit text[i] := by
    intro i hi
    exact List.all_eq_true.1 hdigits _ (List.getElem_mem hi)
  have hhyphen : text[8] ≠ '-' := by
    intro heq
    exact absurd (heq ▸ hdigit 8 (by omega)) (by decide)
  refine ⟨hlength, ?_⟩
  -- A digit in front, and no hyphen where the hyphenated spelling has its first one.
  rw [spelled_of_digit (List.getElem?_eq_getElem (by omega)) (List.getElem?_eq_getElem (by omega))
    (hdigit 0 (by omega)), if_neg hhyphen]

/-- The hyphenated spelling has 36 characters and a hyphen behind the first eight digits. -/
theorem spelled_hyphenated {text : List Char} (h : isHyphenated text) :
    text.length = 36 ∧ spelled text = 36 := by
  have hlength : text.length = 36 := length_of_groups h
  obtain ⟨digits, rest, rfl, height, hdigits, _⟩ := groups_cons h
  obtain ⟨first, others, rfl⟩ := List.exists_cons_of_length_eq_add_one height
  have hninth : (first :: others ++ '-' :: rest)[8]? = some '-' := by
    rw [List.getElem?_append_right (Nat.le_of_eq height), height]
    rfl
  have hdigit : isHexDigit first := List.all_eq_true.1 hdigits _ (List.mem_cons_self ..)
  refine ⟨hlength, ?_⟩
  rw [spelled_of_digit rfl hninth hdigit, if_pos rfl]

/-- The braced spelling has 38 characters and begins with a brace. -/
theorem spelled_braced {text : List Char} (h : isBraced text) :
    text.length = 38 ∧ spelled text = 38 := by
  unfold isBraced at h
  split at h
  · next rest =>
      simp only [Bool.and_eq_true] at h
      have hlength := (spelled_hyphenated h.2).1
      simp only [List.length_dropLast] at hlength
      refine ⟨by simp only [List.length_cons]; omega, ?_⟩
      have hninth : 7 < rest.length := by omega
      simp [spelled, List.getElem?_eq_getElem hninth]
  · cases h

/-- Only the letter itself, in either case, has the lower case `u`. -/
theorem eq_of_to_lower_u {c : Char} (h : c.toLower = 'u') : c = 'u' ∨ c = 'U' := by
  unfold Char.toLower at h
  split at h
  · right
    have hval : c.val + ('a'.val - 'A'.val) = 117 := congrArg Char.val h
    apply Char.ext
    rw [show c.val = c.val + ('a'.val - 'A'.val) - 32 by simp, hval]
    rfl
  · exact Or.inl h

/-- The spelling behind the name of the URN scheme has 45 characters and begins with no digit. -/
theorem spelled_urn {text : List Char} (h : isUrn text) :
    text.length = 45 ∧ spelled text = 45 := by
  simp only [isUrn, Bool.and_eq_true, beq_iff_eq] at h
  obtain ⟨hscheme, hrest⟩ := h
  have hlength := (spelled_hyphenated hrest).1
  simp only [List.length_drop] at hlength
  have hninth : 8 < text.length := by omega
  cases text with
  | nil => simp at hninth
  | cons first others =>
      have hfirst : first.toLower = 'u' := by
        simpa using congrArg List.head? hscheme
      refine ⟨by omega, ?_⟩
      rw [spelled, List.getElem?_eq_getElem hninth]
      obtain rfl | rfl := eq_of_to_lower_u hfirst <;> rfl

/-- A UUID is as long as its first nine characters say. -/
theorem length_eq_spelled {text : List Char}
    (h : isSimple text || isHyphenated text || isBraced text || isUrn text) :
    8 < text.length ∧ text.length = spelled text := by
  simp only [Bool.or_eq_true] at h
  obtain ((h | h) | h) | h := h
  · have := spelled_simple h
    omega
  · have := spelled_hyphenated h
    omega
  · have := spelled_braced h
    omega
  · have := spelled_urn h
    omega

/-- No UUID is the beginning of another text that begins with a UUID: two texts that begin with
UUIDs are equal only if the UUIDs are equal and so is what stands behind them. -/
theorem prefix_free {a b : String} (ha : isValid a) (hb : isValid b) {s t : List Char}
    (h : a.toList ++ s = b.toList ++ t) : a = b ∧ s = t := by
  obtain ⟨hlonga, hlengtha⟩ := length_eq_spelled ha
  obtain ⟨hlongb, hlengthb⟩ := length_eq_spelled hb
  -- Both lengths are read off the same first nine characters.
  have hlength : a.toList.length = b.toList.length := by
    rw [hlengtha, hlengthb, ← spelled_append hlonga s, h, spelled_append hlongb]
  obtain ⟨hid, hrest⟩ := List.append_inj h hlength
  exact ⟨String.toList_inj.1 hid, hrest⟩

/-- No UUID is empty. -/
theorem ne_of_valid {id : String} (h : isValid id) : id ≠ "" := by
  rintro rfl
  exact absurd h (by decide)

end EdgeFleet.Uuid
