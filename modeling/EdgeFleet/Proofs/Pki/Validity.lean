import EdgeFleet.Pki.Validity
import EdgeFleet.Proofs.Der.Reader
import EdgeFleet.Proofs.Time.Calendar

/-!
# Points in time that were written can be read

A point in time of the years 0 to 9999 is read back from either form in which it is written
(`Validity.reads_time`), and so is a period (`Validity.reads`).
-/

namespace EdgeFleet.Pki

open Der Time
open Reader (Reads ReadsAll Sees)

namespace Validity

/-! ### Digits -/

theorem padded_list (width value : Nat) : (Instant.padded width value).toList =
    List.replicate (width - (Nat.toDigits 10 value).length) '0' ++ Nat.toDigits 10 value := by
  unfold Instant.padded
  rw [Nat.toString_eq_ofList_toDigits]
  simp

/-- The last digit stands behind the others, if there is room for another one. -/
theorem padded_succ {width : Nat} (h : 0 < width) (value : Nat) :
    (Instant.padded (width + 1) value).toList =
      (Instant.padded width (value / 10)).toList ++ [(value % 10).digitChar] := by
  rw [padded_list, padded_list, Nat.toDigits_eq_if (by decide)]
  split
  · rename_i hlt
    have hzero : value / 10 = 0 := Nat.div_eq_of_lt hlt
    obtain ⟨room, rfl⟩ := Nat.exists_eq_add_of_lt h
    rw [hzero, Nat.mod_eq_of_lt hlt, Nat.zero_add]
    show List.replicate (room + 1) '0' ++ _ = (List.replicate room '0' ++ ['0']) ++ _
    rw [← List.replicate_succ']
  · rename_i hge
    rw [List.length_append, List.length_singleton, Nat.add_sub_add_right, List.append_assoc]

/-- Four digits are two times two. -/
theorem padded_four (value : Nat) :
    Instant.padded 4 value = Instant.padded 2 (value / 100) ++ Instant.padded 2 (value % 100) := by
  have hone {digit : Nat} (hdigit : digit < 10) :
      (Instant.padded 1 digit).toList = [digit.digitChar] := by
    rw [padded_list, Nat.toDigits_of_lt_base hdigit]
    rfl
  have htens : value % 100 / 10 = value / 10 % 10 := by omega
  have hones : value % 100 % 10 = value % 10 := by omega
  apply String.toList_inj.1
  rw [String.toList_append, padded_succ (by decide), padded_succ (by decide),
    padded_succ (by decide) (value % 100), hone (by omega), Nat.div_div_eq_div_mul,
    List.append_assoc, htens, hones]

/-- Two digits. -/
def digits (value : Nat) : Bytes := .ofText (Instant.padded 2 value)

theorem digits_eq {value : Nat} (h : value < 100) :
    digits value = [.ofNat (48 + value / 10), .ofNat (48 + value % 10)] := by
  have hall : ∀ value < 100,
      digits value = [.ofNat (48 + value / 10), .ofNat (48 + value % 10)] := by
    decide +kernel
  exact hall value h

/-- Two digits are read back. -/
theorem reads_digits {value : Nat} (h : value < 100) : Reads pair (digits value) value := by
  have hall : ∀ value < 100,
      let tens : UInt8 := .ofNat (48 + value / 10)
      let ones : UInt8 := .ofNat (48 + value % 10)
      (48 ≤ tens && tens ≤ 57 && 48 ≤ ones && ones ≤ 57) = true ∧
        (tens.toNat - 48) * 10 + (ones.toNat - 48) = value := by
    decide +kernel
  obtain ⟨hdigits, hvalue⟩ := hall value h
  intro _ rest
  rw [digits_eq h]
  dsimp only [List.cons_append, List.nil_append, pair] at hdigits hvalue ⊢
  rw [if_pos hdigits, hvalue]

/-- There is no point among them. -/
theorem no_point {value : Nat} (h : value < 100) : 46 ∉ digits value := by
  have hall : ∀ value < 100, 46 ∉ digits value := by decide +kernel
  exact hall value h

/-! ### Points in time -/

/-- The digits behind the year, and the mark of universal time. -/
def tail (date : Date) (second : Nat) : Bytes :=
  digits date.month ++ (digits date.day ++ (digits (second / 3600) ++
    (digits (second / 60 % 60) ++ (digits (second % 60) ++ [90]))))

/-- Two digits are enough for a month and for a day. -/
theorem valid_lt {date : Date} (h : date.isValid = true) : date.month < 100 ∧ date.day < 100 := by
  have hlength := Date.month_length_le date.year date.month
  simp only [Date.isValid, Bool.and_eq_true, decide_eq_true_eq] at h
  omega

/-- What follows the year is read back. -/
theorem reads_tail {date : Date} (hdate : date.isValid = true) {second : Nat}
    (hsecond : second < 86400) :
    ReadsAll (within date.year) (tail date second) (date.dayNumber * 86400 + second) := by
  obtain ⟨hmonth, hday⟩ := valid_lt hdate
  refine (reads_digits hmonth).bindAll ?_
  refine (reads_digits hday).bindAll ?_
  refine (reads_digits (by omega)).bindAll ?_
  refine (reads_digits (by omega)).bindAll ?_
  refine (Reads.optional (reads_digits (by omega))).bindAll ?_
  have hpoint : Sees fraction [90] () := fun _ _ => rfl
  have hoffset : ReadsAll offset [90] 0 := fun _ => rfl
  refine hpoint.bindAll (hoffset.bind ?_)
  refine (Sees.holds ?_ []).bindAll ?_
  · rw [hdate]
    simp
    omega
  · have hsum : date.dayNumber * 86400 + (second / 3600 : Nat) * 3600 +
        (second / 60 % 60 : Nat) * 60 + (second % 60 : Nat) - 0 =
          date.dayNumber * 86400 + second := by
      omega
    rw [← hsum]
    exact ReadsAll.pure _

/-- The digits of a point in time, with two for the year or with four. -/
theorem write_eq (seconds : Int) : write seconds =
    let date := Date.ofDayNumber (seconds.fdiv 86400)
    let second := (seconds.fmod 86400).toNat
    if 1950 ≤ date.year && date.year < 2050 then
      Tag.utcTime.of [digits (date.year % 100).toNat, tail date second]
    else Tag.generalizedTime.of [.ofText (Instant.padded 4 date.year.toNat), tail date second] := by
  unfold write tail digits
  simp only [List.append_assoc]

/-- There is no point in what follows the year. -/
theorem no_point_tail {date : Date} (hdate : date.isValid = true) {second : Nat}
    (hsecond : second < 86400) : 46 ∉ tail date second := by
  obtain ⟨hmonth, hday⟩ := valid_lt hdate
  unfold tail
  simp only [List.mem_append, not_or]
  refine ⟨no_point hmonth, no_point hday, no_point (by omega), no_point (by omega),
    no_point (by omega), by decide⟩

/-- The points in time that can be written: those of the years 0 to 9999. -/
def InRange (seconds : Int) : Prop :=
  -62167219200 ≤ seconds ∧ seconds < 253402300800

theorem year_of_in_range {seconds : Int} (h : InRange seconds) :
    0 ≤ (Date.ofDayNumber (seconds.fdiv 86400)).year ∧
      (Date.ofDayNumber (seconds.fdiv 86400)).year < 10000 := by
  have hfdiv : seconds.fdiv 86400 = seconds / 86400 :=
    Int.fdiv_eq_ediv_of_nonneg _ (by decide)
  obtain ⟨hfirst, hlast⟩ := h
  constructor
  · rw [Date.le_year_iff, hfdiv]
    have hday : (Date.mk 0 1 1).dayNumber = -719528 := rfl
    omega
  · rw [← Int.not_le, Date.le_year_iff, hfdiv]
    have hday : (Date.mk 10000 1 1).dayNumber = 2932897 := rfl
    omega

/-- Which form of a point in time is read, follows from the type of the element. -/
theorem reads_utc {content : Bytes} {seconds : Int} (h : ReadsAll short content seconds)
    (hpoint : 46 ∉ content) : Reads time (Tag.utcTime.element content).bytes seconds := by
  intro hlength
  have htype : (Tag.utcTime.element content).tag.number = Tag.utcTime.number := rfl
  have hnone : (!content.contains 46) = true := by simpa using hpoint
  refine (Reads.element (by decide) content).bindLast ?_ hlength
  refine (Sees.holds rfl []).bind ?_
  rw [if_pos htype]
  refine (Sees.holds hnone []).bind ?_
  exact Reads.lift (h.inside (Reader.length_of_element hlength))

theorem reads_generalized {content : Bytes} {seconds : Int} (h : ReadsAll long content seconds)
    (hlast : content.getLast? = some 90) :
    Reads time (Tag.generalizedTime.element content).bytes seconds := by
  intro hlength
  have htype : (Tag.generalizedTime.element content).tag.number = Tag.generalizedTime.number := rfl
  have hother : ¬ (Tag.generalizedTime.element content).tag.number = Tag.utcTime.number :=
    (by decide : ¬ Tag.generalizedTime.number = Tag.utcTime.number)
  refine (Reads.element (by decide) content).bindLast ?_ hlength
  refine (Sees.holds rfl []).bind ?_
  rw [if_neg hother, if_pos htype]
  refine (Sees.holds hlast []).bind ?_
  exact Reads.lift (h.inside (Reader.length_of_element hlength))

/-- A point in time is read back. -/
theorem reads_time {seconds : Int} (h : InRange seconds) :
    Reads time (write seconds) seconds := by
  obtain ⟨hfirst, hlast⟩ := year_of_in_range h
  have hvalid := Date.of_day_number_valid (seconds.fdiv 86400)
  have hday := Date.day_number_of_day_number (seconds.fdiv 86400)
  have hmod : seconds.fmod 86400 = seconds % 86400 := Int.fmod_eq_emod_of_nonneg _ (by decide)
  have hfdiv : seconds.fdiv 86400 = seconds / 86400 := Int.fdiv_eq_ediv_of_nonneg _ (by decide)
  have hsecond : (seconds.fmod 86400).toNat < 86400 := by omega
  rw [write_eq]
  generalize Date.ofDayNumber (seconds.fdiv 86400) = date at *
  have htail := reads_tail hvalid hsecond
  have hsum : date.dayNumber * 86400 + (seconds.fmod 86400).toNat = seconds := by omega
  rw [hsum] at htail
  dsimp only
  split
  · rename_i hshort
    rw [Bool.and_eq_true, decide_eq_true_eq, decide_eq_true_eq] at hshort
    refine reads_utc ?_ ?_
    · rw [List.flatten_cons, List.flatten_singleton]
      refine (reads_digits (by omega)).bindAll ?_
      have hyear : (if (date.year % 100).toNat < 50 then 2000 + ((date.year % 100).toNat : Int)
          else 1900 + ((date.year % 100).toNat : Int)) = date.year := by
        split <;> omega
      rw [hyear]
      exact htail
    · rw [List.flatten_cons, List.flatten_singleton, List.mem_append, not_or]
      exact ⟨no_point (by omega), no_point_tail hvalid hsecond⟩
  · refine reads_generalized ?_ ?_
    · rw [List.flatten_cons, List.flatten_singleton, padded_four, Bytes.of_text_append,
        List.append_assoc]
      refine (reads_digits (by omega)).bindAll ?_
      refine (reads_digits (by omega)).bindAll ?_
      have hyear : ((date.year.toNat / 100 : Nat) : Int) * 100 + (date.year.toNat % 100 : Nat) =
          date.year := by
        omega
      rw [hyear]
      exact htail
    · simp [tail]

/-- A period is read back. -/
theorem reads {first last : Int} (hfirst : InRange first) (hlast : InRange last) :
    Reads reader (bytes first last) (first, last) := by
  refine Reads.within (by decide) ?_
  refine (reads_time hfirst).bindAll ?_
  rw [List.flatten_singleton]
  refine ((reads_time hlast).bindLast ?_).readsAll
  exact Reads.pure _

/-! ### How long they get -/

theorem length_digits {value : Nat} (h : value < 100) : (digits value).length = 2 := by
  rw [digits_eq h]
  rfl

theorem length_tail {date : Date} (hdate : date.isValid = true) {second : Nat}
    (hsecond : second < 86400) : (tail date second).length = 11 := by
  obtain ⟨hmonth, hday⟩ := valid_lt hdate
  unfold tail
  simp only [List.length_append, length_digits hmonth, length_digits hday,
    length_digits (by omega : second / 3600 < 100),
    length_digits (by omega : second / 60 % 60 < 100),
    length_digits (by omega : second % 60 < 100), List.length_singleton]

theorem length_write {seconds : Int} (h : InRange seconds) : (write seconds).length ≤ 19 := by
  obtain ⟨hfirst, hlast⟩ := year_of_in_range h
  have hvalid := Date.of_day_number_valid (seconds.fdiv 86400)
  have hmod : seconds.fmod 86400 = seconds % 86400 := Int.fmod_eq_emod_of_nonneg _ (by decide)
  rw [write_eq]
  generalize Date.ofDayNumber (seconds.fdiv 86400) = date at *
  have htail := length_tail hvalid (by omega : (seconds.fmod 86400).toNat < 86400)
  have hyear : (Bytes.ofText (Instant.padded 4 date.year.toNat)).length = 4 := by
    rw [padded_four, Bytes.of_text_append, List.length_append]
    have hcentury := length_digits (by omega : date.year.toNat / 100 < 100)
    have hrest := length_digits (by omega : date.year.toNat % 100 < 100)
    unfold digits at hcentury hrest
    omega
  have hshort := length_digits (by omega : (date.year % 100).toNat < 100)
  dsimp only
  split
  · have hlength := Tag.utcTime.length_of
      [digits (date.year % 100).toNat, tail date (seconds.fmod 86400).toNat]
    rw [List.flatten_cons, List.flatten_singleton, List.length_append] at hlength
    omega
  · have hlength := Tag.generalizedTime.length_of
      [.ofText (Instant.padded 4 date.year.toNat), tail date (seconds.fmod 86400).toNat]
    rw [List.flatten_cons, List.flatten_singleton, List.length_append] at hlength
    omega

/-- A period takes few bytes. -/
theorem length_bytes {first last : Int} (hfirst : InRange first) (hlast : InRange last) :
    (bytes first last).length ≤ 42 := by
  have hfirstLength := length_write hfirst
  have hlastLength := length_write hlast
  have hlength := Tag.sequence.length_of [write first, write last]
  rw [List.flatten_cons, List.flatten_singleton, List.length_append] at hlength
  change (bytes first last).length ≤ _ at hlength
  omega

end Validity

end EdgeFleet.Pki
