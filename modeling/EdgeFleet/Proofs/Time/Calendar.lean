import EdgeFleet.Time.Calendar

/-!
# Days and dates

Every day number is that of the date that it stands for (`Date.day_number_of_day_number`), and this
date exists (`Date.of_day_number_valid`). The years of the calendar come in eras of 400, these in
centuries, and these in groups of four; only the last day of a leap year is out of line.
-/

namespace EdgeFleet.Time

/-! ### Days of an era -/

/-- A day of an era by centuries, groups of four years, years and days. -/
theorem era_day {day : Nat} (h : day < 146097) : ∃ centuries groups years days : Nat,
    day = 36524 * centuries + 1461 * groups + 365 * years + days ∧
      centuries ≤ 3 ∧ groups ≤ 24 ∧ years ≤ 3 ∧
        (days ≤ 364 ∨ (days = 365 ∧ years = 3 ∧ (groups < 24 ∨ centuries = 3))) := by
  let centuries := min (day / 36524) 3
  let ofCentury := day - 36524 * centuries
  let groups := ofCentury / 1461
  let ofGroup := ofCentury % 1461
  let years := min (ofGroup / 365) 3
  refine ⟨centuries, groups, years, ofGroup - 365 * years, ?_, ?_, ?_, ?_, ?_⟩ <;> omega

/-- The year of a day of an era, as it is computed. -/
theorem year_of_era {day centuries groups years days : Nat}
    (hday : day = 36524 * centuries + 1461 * groups + 365 * years + days)
    (hcenturies : centuries ≤ 3) (hgroups : groups ≤ 24) (hyears : years ≤ 3)
    (hdays : days ≤ 364 ∨ (days = 365 ∧ years = 3 ∧ (groups < 24 ∨ centuries = 3))) :
    (day - day / 1460 + day / 36524 - day / 146096) / 365 =
      100 * centuries + 4 * groups + years := by
  -- The last day of the era belongs to no fifth century and to no second era.
  have hcentury : day / 36524 = centuries + (if day = 146096 then 1 else 0) := by
    split <;> omega
  have hera : day / 146096 = (if day = 146096 then 1 else 0) := by
    split <;> omega
  have hgroup : day / 1460 =
      25 * centuries + groups + (24 * centuries + groups + 365 * years + days) / 1460 := by
    omega
  rw [hcentury, hera, hgroup]
  omega

/-- And the day of the year. -/
theorem day_of_year {day centuries groups years days : Nat}
    (hday : day = 36524 * centuries + 1461 * groups + 365 * years + days)
    (hgroups : groups ≤ 24) (hyears : years ≤ 3) :
    day - (365 * (100 * centuries + 4 * groups + years) +
      (100 * centuries + 4 * groups + years) / 4 -
        (100 * centuries + 4 * groups + years) / 100) = days := by
  have hgroup : (100 * centuries + 4 * groups + years) / 4 = 25 * centuries + groups := by omega
  have hcentury : (100 * centuries + 4 * groups + years) / 100 = centuries := by omega
  rw [hgroup, hcentury]
  omega

/-- The last day of a leap year is the last before a March of a leap year. -/
theorem is_leap_of_era (era : Int) {centuries groups : Nat} (hgroups : groups ≤ 24)
    (h : groups < 24 ∨ centuries = 3) :
    isLeap (era * 400 + (100 * centuries + 4 * groups + 3 : Nat) + 1) = true := by
  simp only [isLeap, Bool.and_eq_true, Bool.or_eq_true, beq_iff_eq, bne_iff_ne]
  omega

namespace Date

/-! ### Dates by years that begin in March -/

/-- The date of a day of a year that begins in March. -/
def ofYear (year : Int) (day : Nat) : Date :=
  let month := (5 * day + 2) / 153
  let dayOfMonth := day - (153 * month + 2) / 5 + 1
  if month < 10 then ⟨year, month + 3, dayOfMonth⟩ else ⟨year + 1, month - 9, dayOfMonth⟩

/-- The number of days before such a year. -/
def before (year : Int) : Int :=
  year * 365 + year / 4 - year / 100 + year / 400 - 719468

/-- The day number counts the days before the year, and those of the year. -/
theorem day_number_of_year (year : Int) {day : Nat} (h : day ≤ 365) :
    (ofYear year day).dayNumber = before year + day := by
  have hfdiv (divisor : Nat) : year.fdiv divisor = year / divisor :=
    Int.fdiv_eq_ediv_of_nonneg _ (Int.natCast_nonneg divisor)
  have h4 : year.fdiv 4 = year / 4 := hfdiv 4
  have h100 : year.fdiv 100 = year / 100 := hfdiv 100
  have h400 : year.fdiv 400 = year / 400 := hfdiv 400
  unfold ofYear before
  dsimp only
  split
  · rename_i hmonth
    have hlate : ¬ (5 * day + 2) / 153 + 3 ≤ 2 := by omega
    simp only [dayNumber, hlate, if_false, h4, h100, h400]
    omega
  · rename_i hmonth
    have hearly : (5 * day + 2) / 153 - 9 ≤ 2 := by omega
    simp only [dayNumber, hearly, if_true, Int.add_sub_cancel, h4, h100, h400]
    omega

/-- The date exists if the day is the last of a leap year at most. -/
theorem of_year_valid {year : Int} {day : Nat}
    (h : day ≤ 364 ∨ (day = 365 ∧ isLeap (year + 1) = true)) : (ofYear year day).isValid = true := by
  unfold ofYear
  dsimp only
  split
  · rename_i hmonth
    simp only [isValid, monthLength, Bool.and_eq_true, decide_eq_true_eq, beq_iff_eq,
      Bool.or_eq_true]
    refine ⟨⟨⟨by omega, by omega⟩, by omega⟩, ?_⟩
    rw [if_neg (by omega)]
    split <;> omega
  · rename_i hmonth
    simp only [isValid, monthLength, Bool.and_eq_true, decide_eq_true_eq, beq_iff_eq,
      Bool.or_eq_true]
    refine ⟨⟨⟨by omega, by omega⟩, by omega⟩, ?_⟩
    -- January has 31 days, and February those that the leap year leaves.
    split
    · rcases h with hday | ⟨rfl, hleap⟩
      · split <;> omega
      · have hlength : (if isLeap (year + 1) = true then 29 else 28) = 29 := if_pos hleap
        omega
    · rw [if_neg (by omega)]
      omega

/-- The date of a day number by its era, and by the year and the day that follow from there. -/
theorem of_day_number_of_era {number era : Int} {dayOfEra year day : Nat}
    (hera : (number + 719468).fdiv 146097 = era)
    (hday : (number + 719468 - era * 146097).toNat = dayOfEra)
    (hyear : (dayOfEra - dayOfEra / 1460 + dayOfEra / 36524 - dayOfEra / 146096) / 365 = year)
    (hrest : dayOfEra - (365 * year + year / 4 - year / 100) = day) :
    ofDayNumber number = ofYear (era * 400 + year) day := by
  subst hera hday hyear hrest
  rfl

/-- The days before a year of an era. -/
theorem before_of_era (era : Int) {centuries groups years : Nat} (hcenturies : centuries ≤ 3)
    (hgroups : groups ≤ 24) (hyears : years ≤ 3) :
    before (era * 400 + (100 * centuries + 4 * groups + years : Nat)) =
      era * 146097 + (36524 * centuries + 1461 * groups + 365 * years : Nat) - 719468 := by
  unfold before
  omega

/-- A day number stands for a day of a year. -/
theorem of_day_number_eq (number : Int) : ∃ (year : Int) (day : Nat),
    ofDayNumber number = ofYear year day ∧ number = before year + day ∧
      (day ≤ 364 ∨ (day = 365 ∧ isLeap (year + 1) = true)) := by
  obtain ⟨era, dayOfEra, hera, hday, hlt, hnumber⟩ : ∃ (era : Int) (dayOfEra : Nat),
      (number + 719468).fdiv 146097 = era ∧ (number + 719468 - era * 146097).toNat = dayOfEra ∧
        dayOfEra < 146097 ∧ number + 719468 = era * 146097 + dayOfEra := by
    have hfdiv : (number + 719468).fdiv 146097 = (number + 719468) / 146097 :=
      Int.fdiv_eq_ediv_of_nonneg _ (by decide)
    exact ⟨_, _, hfdiv, rfl, by omega, by omega⟩
  obtain ⟨centuries, groups, years, days, hparts, hcenturies, hgroups, hyears, hdays⟩ :=
    era_day hlt
  have hyear := year_of_era hparts hcenturies hgroups hyears hdays
  have hrest := day_of_year hparts hgroups hyears
  have hbefore := before_of_era era hcenturies hgroups hyears
  refine ⟨_, days, of_day_number_of_era hera hday hyear hrest, ?_, ?_⟩
  · rw [hbefore]
    omega
  · rcases hdays with hle | ⟨hlast, rfl, hleap⟩
    · exact .inl hle
    · exact .inr ⟨hlast, is_leap_of_era era hgroups hleap⟩

/-- Every day number is that of its date. -/
theorem day_number_of_day_number (number : Int) : (ofDayNumber number).dayNumber = number := by
  obtain ⟨year, day, hdate, hnumber, hday⟩ := of_day_number_eq number
  have hle : day ≤ 365 := by omega
  rw [hdate, day_number_of_year year hle, hnumber]

/-- The date of a day number exists. -/
theorem of_day_number_valid (number : Int) : (ofDayNumber number).isValid = true := by
  obtain ⟨year, day, hdate, -, hday⟩ := of_day_number_eq number
  rw [hdate]
  exact of_year_valid hday

/-! ### Years -/

/-- A year has 365 days at least. -/
theorem before_lt {year later : Int} (h : year < later) : before year + 365 ≤ before later := by
  unfold before
  omega

/-- A year begins 306 days into the one before that begins in March. -/
theorem day_number_first (year : Int) : (Date.mk year 1 1).dayNumber = before (year - 1) + 306 := by
  have hdate : ofYear (year - 1) 306 = ⟨year, 1, 1⟩ := by
    show (⟨year - 1 + 1, 1, 1⟩ : Date) = _
    rw [Int.sub_add_cancel]
  rw [← hdate, day_number_of_year _ (by decide)]
  rfl

/-- The year of a day is the last that begins no later than the day. -/
theorem le_year_iff (year number : Int) :
    year ≤ (ofDayNumber number).year ↔ (Date.mk year 1 1).dayNumber ≤ number := by
  obtain ⟨found, day, hdate, hnumber, hday⟩ := of_day_number_eq number
  have hyear : (ofYear found day).year = if (5 * day + 2) / 153 < 10 then found else found + 1 := by
    unfold ofYear
    dsimp only
    split <;> rfl
  rw [hdate, day_number_first, hnumber, hyear]
  -- The years compared begin in January, and so 306 days into those that begin in March.
  constructor
  · intro hle
    split at hle
    · have hearlier := @before_lt (year - 1) found (by omega)
      omega
    · by_cases hsame : year - 1 = found
      · rw [hsame]
        omega
      · have hearlier := @before_lt (year - 1) found (by omega)
        omega
  · intro hle
    refine Int.not_lt.1 fun hlate => ?_
    split at hlate
    · by_cases hsame : year - 1 = found
      · rw [hsame] at hle
        omega
      · have hlater := @before_lt found (year - 1) (by omega)
        omega
    · have hlater := @before_lt found (year - 1) (by omega)
      omega

/-- A month has 31 days at most. -/
theorem month_length_le (year : Int) (month : Nat) : monthLength year month ≤ 31 := by
  unfold monthLength
  split
  · split <;> decide
  · split <;> decide

/-- A day of the years before another one comes before the first day of that year. -/
theorem day_number_between {date : Date} {first last : Int} (hvalid : date.isValid = true)
    (hfirst : first ≤ date.year) (hlast : date.year < last) :
    (Date.mk first 1 1).dayNumber ≤ date.dayNumber ∧
      date.dayNumber < (Date.mk last 1 1).dayNumber := by
  have hfdiv (year : Int) (divisor : Nat) : year.fdiv divisor = year / divisor :=
    Int.fdiv_eq_ediv_of_nonneg _ (Int.natCast_nonneg divisor)
  have h4 (year : Int) : year.fdiv 4 = year / 4 := hfdiv year 4
  have h100 (year : Int) : year.fdiv 100 = year / 100 := hfdiv year 100
  have h400 (year : Int) : year.fdiv 400 = year / 400 := hfdiv year 400
  have hlength := month_length_le date.year date.month
  simp only [isValid, Bool.and_eq_true, decide_eq_true_eq] at hvalid
  rw [day_number_first, day_number_first]
  unfold dayNumber before
  by_cases hearly : date.month ≤ 2
  · simp only [hearly, if_true, h4, h100, h400]
    omega
  · simp only [hearly, if_false, h4, h100, h400]
    omega

end Date

end EdgeFleet.Time
