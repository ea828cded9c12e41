import Mathlib.Data.List.TakeDrop
import Mathlib.Data.List.TakeWhile
import EdgeFleet.Text.Number

/-!
# Numerals

A number is read back from the digits that it is written with (`digits_of_nat`). `leading_nat_iff`
says what `leadingNat?` takes from the head of a text: all the digits there, and a decimal numeral
without a leading zero is the one that its value is written with (`eq_to_digits`).
-/

namespace EdgeFleet.Text

/-! ### Digits -/

/-- Whether a character is a digit in a radix. -/
def IsDigit (radix : Nat) (c : Char) : Prop :=
  (digitValue? radix c).isSome = true

instance (radix : Nat) (c : Char) : Decidable (IsDigit radix c) :=
  inferInstanceAs (Decidable ((digitValue? radix c).isSome = true))

/-- A digit is one in every greater radix, with the same value. -/
theorem digit_value_mono {radix larger value : Nat} {c : Char} (hle : radix ≤ larger)
    (h : digitValue? radix c = some value) : digitValue? larger c = some value := by
  unfold digitValue? at h ⊢
  rw [Option.filter_eq_some_iff] at h ⊢
  obtain ⟨hvalue, hlt⟩ := h
  have hless : value < larger := Nat.lt_of_lt_of_le (of_decide_eq_true hlt) hle
  exact ⟨hvalue, decide_eq_true hless⟩

theorem IsDigit.mono {radix larger : Nat} {c : Char} (h : IsDigit radix c)
    (hle : radix ≤ larger) : IsDigit larger c := by
  obtain ⟨value, hvalue⟩ := Option.isSome_iff_exists.1 h
  exact Option.isSome_iff_exists.2 ⟨value, digit_value_mono hle hvalue⟩

/-- The digit of a value has this value. -/
theorem digit_value_digit_char {radix value : Nat} (hradix : radix ≤ 16) (h : value < radix) :
    digitValue? radix value.digitChar = some value := by
  have hall : ∀ value < 16, digitValue? 16 (Nat.digitChar value) = some value := by decide +kernel
  have hvalue := hall value (Nat.lt_of_lt_of_le h hradix)
  unfold digitValue? at hvalue ⊢
  rw [Option.filter_eq_some_iff] at hvalue ⊢
  exact ⟨hvalue.1, decide_eq_true h⟩

/-- Characters are ordered by their numbers. -/
theorem le_to_nat_of_range {low high c : Char} (h : (low ≤ c && c ≤ high) = true) :
    low.toNat ≤ c.toNat :=
  UInt32.le_iff_toNat_le.1 (Char.le_def.1 (of_decide_eq_true (Bool.and_eq_true_iff.1 h).1))

/-- A decimal digit is the digit of its value. -/
theorem digit_char_of_value {value : Nat} {c : Char} (h : digitValue? 10 c = some value) :
    value < 10 ∧ c = value.digitChar := by
  unfold digitValue? at h
  obtain ⟨hvalue, hlt⟩ := Option.filter_eq_some_iff.1 h
  have hless : value < 10 := of_decide_eq_true hlt
  refine ⟨hless, Char.toNat_inj.1 ?_⟩
  rw [Nat.toNat_digitChar_of_lt_ten hless]
  -- The values of letters are ten and more.
  split at hvalue
  · next hrange =>
      have hlow : 48 ≤ c.toNat := le_to_nat_of_range hrange
      have heq := Option.some.inj hvalue
      omega
  · split at hvalue
    · next hrange =>
        have hlow : 97 ≤ c.toNat := le_to_nat_of_range hrange
        have heq := Option.some.inj hvalue
        omega
    · split at hvalue
      · next hrange =>
          have hlow : 65 ≤ c.toNat := le_to_nat_of_range hrange
          have heq := Option.some.inj hvalue
          omega
      · cases hvalue

/-- What a number is written with is the digits of values below the radix. -/
theorem mem_to_digits {radix n : Nat} (hradix : 1 < radix) {c : Char}
    (h : c ∈ Nat.toDigits radix n) : ∃ value < radix, c = value.digitChar := by
  induction n using Nat.strongRecOn with
  | ind n ih =>
      rw [Nat.toDigits_eq_if hradix] at h
      split at h
      · rename_i hlt
        exact ⟨n, hlt, List.mem_singleton.1 h⟩
      · rename_i hge
        have hpos : 0 < n := by omega
        rcases List.mem_append.1 h with hhigh | hlast
        · exact ih (n / radix) (Nat.div_lt_self hpos hradix) hhigh
        · exact ⟨n % radix, Nat.mod_lt n (by omega), List.mem_singleton.1 hlast⟩

/-! ### Reading numerals back -/

/-- The value of digits, if all are digits, continued from the value of what came before them. -/
def valueAfter? (radix : Nat) (before : Option Nat) (cs : List Char) : Option Nat :=
  cs.foldl (fun value c => return (← value) * radix + (← digitValue? radix c)) before

theorem digits_eq {radix : Nat} {cs : List Char} (h : cs ≠ []) :
    digits? radix cs = valueAfter? radix (some 0) cs := by
  unfold digits?
  rw [if_neg (by simpa using h)]
  rfl

/-- Once a character was no digit, there is no value. -/
theorem value_after_none (radix : Nat) (cs : List Char) : valueAfter? radix none cs = none := by
  induction cs with
  | nil => rfl
  | cons c rest ih => exact ih

/-- What has a value consists of digits. -/
theorem value_after_digits {radix value : Nat} {before : Option Nat} {cs : List Char}
    (h : valueAfter? radix before cs = some value) : ∀ c ∈ cs, IsDigit radix c := by
  induction cs generalizing before with
  | nil => simp
  | cons c rest ih =>
      refine List.forall_mem_cons.2 ⟨?_, ih h⟩
      show (digitValue? radix c).isSome = true
      cases hdigit : digitValue? radix c with
      | some _ => rfl
      | none =>
          have hnone : valueAfter? radix before (c :: rest) = valueAfter? radix none rest := by
            show valueAfter? radix
              (before.bind fun value => (digitValue? radix c).bind fun digit =>
                some (value * radix + digit)) rest = _
            rw [hdigit]
            cases before <;> rfl
          rw [hnone, value_after_none] at h
          cases h

/-- A text with a value consists of digits. -/
theorem digits_all {radix value : Nat} {cs : List Char} (h : digits? radix cs = some value) :
    ∀ c ∈ cs, IsDigit radix c := by
  by_cases hempty : cs = []
  · rw [hempty]
    simp
  · rw [digits_eq hempty] at h
    exact value_after_digits h

/-- A digit goes on from the value of what came before it. -/
theorem value_after_cons (radix before : Nat) (c : Char) (cs : List Char) :
    valueAfter? radix (some before) (c :: cs) =
      valueAfter? radix ((digitValue? radix c).map (before * radix + ·)) cs := by
  cases hdigit : digitValue? radix c <;> simp [valueAfter?, hdigit]

/-- The digits of a number have it as their value. -/
theorem value_after_to_digits {radix : Nat} (hlow : 1 < radix) (hhigh : radix ≤ 16) (n : Nat) :
    valueAfter? radix (some 0) (Nat.toDigits radix n) = some n := by
  induction n using Nat.strongRecOn with
  | ind n ih =>
      rw [Nat.toDigits_eq_if hlow]
      split
      · rename_i hlt
        rw [value_after_cons, digit_value_digit_char hhigh hlt, Nat.zero_mul, Option.map_some,
          Nat.zero_add]
        rfl
      · rename_i hge
        have hpos : 0 < n := by omega
        have hfirst : valueAfter? radix (some 0) (Nat.toDigits radix (n / radix)) =
            some (n / radix) := ih (n / radix) (Nat.div_lt_self hpos hlow)
        have hlast : digitValue? radix (n % radix).digitChar = some (n % radix) :=
          digit_value_digit_char hhigh (Nat.mod_lt n (by omega))
        calc valueAfter? radix (some 0)
              (Nat.toDigits radix (n / radix) ++ [(n % radix).digitChar])
            = valueAfter? radix (some (n / radix)) [(n % radix).digitChar] := by
                unfold valueAfter? at hfirst ⊢
                rw [List.foldl_append, hfirst]
          _ = some (n / radix * radix + n % radix) := by
                rw [value_after_cons, hlast]
                rfl
          _ = some n := by rw [Nat.div_add_mod']

/-- A number is read back from its digits. -/
theorem digits_to_digits {radix : Nat} (hlow : 1 < radix) (hhigh : radix ≤ 16) (n : Nat) :
    digits? radix (Nat.toDigits radix n) = some n := by
  rw [digits_eq Nat.toDigits_ne_nil]
  exact value_after_to_digits hlow hhigh n

/-- A number is read back from its decimal digits. -/
theorem digits_of_nat (n : Nat) : digits? 10 (toString n).toList = some n := by
  rw [Nat.toString_eq_ofList_toDigits, String.toList_ofList]
  exact digits_to_digits (by decide) (by decide) n

/-- Digits are what a number is written with. -/
theorem is_digit_to_digits {radix : Nat} (hlow : 1 < radix) (hhigh : radix ≤ 16) (n : Nat) :
    ∀ c ∈ Nat.toDigits radix n, IsDigit radix c :=
  digits_all (digits_to_digits hlow hhigh n)

/-- Decimal digits are what a number is written with. -/
theorem is_digit_of_nat (n : Nat) : ∀ c ∈ (toString n).toList, IsDigit 10 c :=
  digits_all (digits_of_nat n)

/-! ### The form of a numeral -/

/-- What a number other than zero is written with does not begin with a zero. -/
theorem to_digits_head {radix n : Nat} (hradix : 1 < radix) (hn : n ≠ 0) :
    (Nat.toDigits radix n).head? ≠ some '0' := by
  induction n using Nat.strongRecOn with
  | ind n ih =>
      rw [Nat.toDigits_eq_if hradix]
      split
      · intro hzero
        exact hn (Nat.digitChar_eq_zero.1 (Option.some.inj hzero))
      · rename_i hge
        have hpos : 0 < n := by omega
        have hquotient : n / radix ≠ 0 := by
          rw [Nat.div_ne_zero_iff]
          omega
        rw [List.head?_append, List.head?_eq_some_head Nat.toDigits_ne_nil, Option.some_or,
          ← List.head?_eq_some_head]
        exact ih (n / radix) (Nat.div_lt_self hpos hradix) hquotient

/-- Decimal digits behind those of a number other than zero make the digits of a number. -/
theorem to_digits_append {before value : Nat} {cs : List Char} (hbefore : 0 < before)
    (h : valueAfter? 10 (some before) cs = some value) :
    Nat.toDigits 10 before ++ cs = Nat.toDigits 10 value := by
  induction cs generalizing before with
  | nil =>
      obtain rfl := Option.some.inj h
      exact List.append_nil _
  | cons c rest ih =>
      rw [value_after_cons] at h
      cases hdigit : digitValue? 10 c with
      | none =>
          rw [hdigit, Option.map_none, value_after_none] at h
          cases h
      | some digit =>
          obtain ⟨hless, rfl⟩ := digit_char_of_value hdigit
          rw [hdigit, Option.map_some] at h
          have hgrown : Nat.toDigits 10 before ++ [digit.digitChar] =
              Nat.toDigits 10 (before * 10 + digit) := by
            rw [← Nat.toDigits_of_lt_base hless, Nat.mul_comm before,
              Nat.toDigits_append_toDigits (by decide) hbefore hless]
          rw [← ih (by omega) h, ← hgrown, List.append_assoc, List.singleton_append]

/-- A decimal numeral without a leading zero is what its value is written with. -/
theorem eq_to_digits {value : Nat} {cs : List Char} (h : digits? 10 cs = some value)
    (hform : cs.length ≤ 1 ∨ cs.head? ≠ some '0') : cs = Nat.toDigits 10 value := by
  cases cs with
  | nil => cases h
  | cons c rest =>
      rw [digits_eq (List.cons_ne_nil c rest), value_after_cons] at h
      cases hdigit : digitValue? 10 c with
      | none =>
          rw [hdigit, Option.map_none, value_after_none] at h
          cases h
      | some digit =>
          obtain ⟨hless, rfl⟩ := digit_char_of_value hdigit
          rw [hdigit, Option.map_some, Nat.zero_mul, Nat.zero_add] at h
          rcases Nat.eq_zero_or_pos digit with rfl | hpos
          · -- A zero stands alone.
            obtain rfl : rest = [] := by simpa using hform
            obtain rfl := Option.some.inj h
            rfl
          · rw [← to_digits_append hpos h, Nat.toDigits_of_lt_base hless, List.singleton_append]

/-! ### Numerals within a text -/

/-- Whether a text does not begin with a digit. -/
def NoDigit (radix : Nat) (cs : List Char) : Prop :=
  ∀ c ∈ cs.head?, ¬ IsDigit radix c

theorem no_digit_nil (radix : Nat) : NoDigit radix [] := nofun

theorem no_digit_cons {radix : Nat} {c : Char} (h : ¬ IsDigit radix c) (cs : List Char) :
    NoDigit radix (c :: cs) := by
  rintro _ ⟨⟩
  exact h

/-- A digit of a smaller radix would be one of the larger. -/
theorem NoDigit.anti {radix larger : Nat} {cs : List Char} (h : NoDigit larger cs)
    (hle : radix ≤ larger) : NoDigit radix cs :=
  fun c hc hdigit => h c hc (hdigit.mono hle)

/-- All digits at the head of a text are split off. -/
theorem span_digits_iff {radix : Nat} {cs digits rest : List Char} :
    spanDigits radix cs = (digits, rest) ↔
      cs = digits ++ rest ∧ (∀ c ∈ digits, IsDigit radix c) ∧ NoDigit radix rest := by
  let isDigit (c : Char) : Bool := (digitValue? radix c).isSome
  have hspan : spanDigits radix cs = (cs.takeWhile isDigit, cs.dropWhile isDigit) :=
    List.span_eq_takeWhile_dropWhile _ _
  rw [hspan, Prod.mk.injEq]
  constructor
  · rintro ⟨rfl, rfl⟩
    have hdigits : ∀ c ∈ cs.takeWhile isDigit, isDigit c := fun c => List.mem_takeWhile_imp
    refine ⟨List.takeWhile_append_dropWhile.symm, hdigits, ?_⟩
    intro c hc hdigit
    have hnot := List.head?_dropWhile_not isDigit cs
    rw [Option.mem_def.1 hc] at hnot
    cases hdigit.symm.trans hnot
  · rintro ⟨rfl, hdigits, hrest⟩
    have hstop : rest.takeWhile isDigit = [] ∧ rest.dropWhile isDigit = rest := by
      cases rest with
      | nil => exact ⟨rfl, rfl⟩
      | cons c others =>
          have hc : isDigit c = false := Bool.eq_false_iff.2 (hrest c rfl)
          exact ⟨List.takeWhile_cons_of_neg (by simp [hc]),
            List.dropWhile_cons_of_neg (by simp [hc])⟩
    rw [List.takeWhile_append_of_pos hdigits, List.dropWhile_append_of_pos hdigits, hstop.1,
      hstop.2, List.append_nil]
    exact ⟨rfl, rfl⟩

/-- A whole numeral consists of digits, but for a sign. -/
theorem nat_below_all {bound value : Nat} {cs : List Char} (h : natBelow? bound cs = some value) :
    ∀ c ∈ cs, c = '+' ∨ IsDigit 10 c := by
  unfold natBelow? at h
  have hdigits := (Option.filter_eq_some_iff.1 h).1
  intro c hc
  split at hdigits
  · rcases List.mem_cons.1 hc with rfl | hrest
    · exact .inl rfl
    · exact .inr (digits_all hdigits c hrest)
  · exact .inr (digits_all hdigits c hc)

/-- What is written for a number is read as it, if it is not too large. -/
theorem nat_below_of_nat {bound n : Nat} (h : n < bound) :
    natBelow? bound (toString n).toList = some n := by
  unfold natBelow?
  dsimp only
  split
  · rename_i rest hsign
    have hdigit := is_digit_of_nat n '+' (hsign ▸ List.mem_cons_self)
    exact absurd hdigit (by decide)
  · rw [digits_of_nat]
    simpa using h

/-- The numeral at the head of a text is made of all the digits there. It may have to be short,
small, and without a leading zero. -/
theorem leading_nat_iff {radix width bound value : Nat} {leadingZero : Bool}
    {cs rest : List Char} :
    leadingNat? radix width bound leadingZero cs = some (value, rest) ↔
      ∃ digits, cs = digits ++ rest ∧ (∀ c ∈ digits, IsDigit radix c) ∧ NoDigit radix rest ∧
        digits.length ≤ width ∧
        (leadingZero = true ∨ digits.length ≤ 1 ∨ digits.head? ≠ some '0') ∧
        digits? radix digits = some value ∧ value < bound := by
  obtain ⟨found, after, hspan⟩ : ∃ found after, spanDigits radix cs = (found, after) := ⟨_, _, rfl⟩
  have hread : leadingNat? radix width bound leadingZero cs = some (value, rest) ↔
      found.length ≤ width ∧
        (leadingZero = true ∨ found.length ≤ 1 ∨ found.head? ≠ some '0') ∧
        digits? radix found = some value ∧ value < bound ∧ after = rest := by
    unfold leadingNat?
    rw [hspan]
    dsimp only
    split
    · next hlong =>
        exact iff_of_false nofun fun hread => Nat.not_lt.2 hread.1 hlong
    · next hwidth =>
        split
        · next hzero =>
            refine iff_of_false nofun fun hread => ?_
            simp only [Bool.and_eq_true, Bool.not_eq_true', decide_eq_true_eq, beq_iff_eq] at hzero
            obtain ⟨⟨hplain, hlong⟩, hhead⟩ := hzero
            rcases hread.2.1 with hallowed | hshort | hother
            · cases hplain.symm.trans hallowed
            · omega
            · exact hother hhead
        · next hform =>
            simp only [Bool.and_eq_true, Bool.not_eq_true', decide_eq_true_eq, beq_iff_eq] at hform
            cases hdigits : digits? radix found with
            | none => simp
            | some number => grind
  rw [hread]
  constructor
  · rintro ⟨hwidth, hzero, hdigits, hbound, rfl⟩
    obtain ⟨htext, hall, hrest⟩ := span_digits_iff.1 hspan
    exact ⟨found, htext, hall, hrest, hwidth, hzero, hdigits, hbound⟩
  · rintro ⟨digits, htext, hall, hrest, hwidth, hzero, hdigits, hbound⟩
    cases hspan.symm.trans (span_digits_iff.2 ⟨htext, hall, hrest⟩)
    exact ⟨hwidth, hzero, hdigits, hbound, rfl⟩

/-- The numeral at the head of a text is made of digits. -/
theorem leading_nat_reads {radix width bound value : Nat} {leadingZero : Bool}
    {cs rest : List Char} (h : leadingNat? radix width bound leadingZero cs = some (value, rest)) :
    ∃ digits, cs = digits ++ rest ∧ ∀ c ∈ digits, IsDigit radix c := by
  obtain ⟨digits, htext, hall, -⟩ := leading_nat_iff.1 h
  exact ⟨digits, htext, hall⟩

/-- There is no numeral at the head of a text that does not begin with a digit. -/
theorem leading_nat_none {radix width bound : Nat} {leadingZero : Bool} {cs : List Char}
    (h : NoDigit radix cs) : leadingNat? radix width bound leadingZero cs = none := by
  rw [Option.eq_none_iff_forall_not_mem]
  rintro ⟨value, rest⟩ hread
  obtain ⟨digits, rfl, hall, -, -, -, hdigits, -⟩ := leading_nat_iff.1 hread
  cases digits with
  | nil => cases hdigits
  | cons c others => exact h c rfl (hall c List.mem_cons_self)

/-- A number is read from its digits at the head of a text, up to what follows them. -/
theorem leading_nat_to_digits {radix width bound n : Nat} {leadingZero : Bool} {rest : List Char}
    (hlow : 1 < radix) (hhigh : radix ≤ 16) (hwidth : (Nat.toDigits radix n).length ≤ width)
    (hbound : n < bound) (hrest : NoDigit radix rest) :
    leadingNat? radix width bound leadingZero (Nat.toDigits radix n ++ rest) = some (n, rest) := by
  have hform : (Nat.toDigits radix n).length ≤ 1 ∨ (Nat.toDigits radix n).head? ≠ some '0' := by
    by_cases hzero : n = 0
    · exact .inl (by simp [hzero])
    · exact .inr (to_digits_head hlow hzero)
  exact leading_nat_iff.2 ⟨Nat.toDigits radix n, rfl, is_digit_to_digits hlow hhigh n, hrest,
    hwidth, .inr hform, digits_to_digits hlow hhigh n, hbound⟩

end EdgeFleet.Text
