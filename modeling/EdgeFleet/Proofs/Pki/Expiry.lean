import EdgeFleet.Proofs.Der.Local
import EdgeFleet.Proofs.Pki.Opening
import EdgeFleet.Proofs.Pki.Validity
import Mathlib.Data.Option.Basic

/-!
# Points in time that were read can be written

A document may give a point in time with an offset, or without seconds. Whatever it gives is of the
years 0 to 9999 (`Validity.in_range_of_time`), and so is the time at which an authority expires
(`Authority.expiry_in_range`), which stands in all certificates that it gives out.
-/

namespace EdgeFleet.Pki

open Der Time

namespace Validity

variable {input rest : Bytes}

/-! ### Digits -/

/-- Two digits are less than a hundred. -/
theorem of_pair {value : Nat} (h : pair input = some (value, rest)) :
    ∃ tens ones, input = tens :: ones :: rest ∧ ones.toNat ≤ 57 ∧ value < 100 := by
  unfold pair at h
  split at h
  · rename_i tens ones others
    split at h
    · rename_i hdigits
      cases h
      simp only [Bool.and_eq_true, decide_eq_true_eq, UInt8.le_iff_toNat_le] at hdigits
      have hlimits : (48 : UInt8).toNat = 48 ∧ (57 : UInt8).toNat = 57 := ⟨rfl, rfl⟩
      exact ⟨tens, ones, rfl, by omega, by omega⟩
    · cases h
  · cases h

theorem pair_suffix {value : Nat} (h : pair input = some (value, rest)) : rest <:+ input := by
  obtain ⟨tens, ones, rfl, -, -⟩ := of_pair h
  exact ⟨[tens, ones], rfl⟩

theorem optional_pair_suffix {value : Option Nat}
    (h : Reader.optional pair input = some (value, rest)) : rest <:+ input := by
  unfold Reader.optional at h
  split at h
  · rename_i found between hpair
    cases h
    exact pair_suffix hpair
  · cases h
    exact List.suffix_rfl

theorem fraction_suffix {value : Unit} (h : fraction input = some (value, rest)) :
    rest <:+ input := by
  obtain ⟨taken, between, htaken, h⟩ := Reader.of_bind_run h
  cases htaken
  split at h
  · rename_i others
    obtain ⟨⟨⟩, next, hguard, h⟩ := Reader.of_bind_run h
    rw [Reader.guard_run (Reader.of_guard_run hguard)] at hguard
    cases hguard
    cases h
    exact (List.drop_suffix _ _).trans (List.suffix_cons _ _)
  · cases h
    exact List.suffix_rfl

/-! ### Offsets -/

/-- Hours and minutes are less than 26 hours, and end with a digit. -/
theorem of_distance {seconds : Nat} (h : offset.distance input = some (seconds, rest)) :
    seconds < 93600 ∧ ∃ last, input.getLast? = some last ∧ last.toNat ≤ 57 := by
  obtain ⟨hours, between, hhours, h⟩ := Reader.of_bind_run h
  obtain ⟨minutes, final, hminutes, h⟩ := Reader.of_bind_run h
  obtain ⟨⟨⟩, left, hended, h⟩ := Reader.of_bind_run h
  obtain ⟨⟨⟩, last, hguard, h⟩ := Reader.of_bind_run h
  have hlimits := Reader.of_guard_run hguard
  cases h
  obtain ⟨a, b, rfl, -, -⟩ := of_pair hhours
  obtain ⟨c, d, rfl, hdigit, -⟩ := of_pair hminutes
  have hnil : final = [] := by
    unfold Reader.ended at hended
    split at hended
    · rename_i hempty
      exact List.isEmpty_iff.1 hempty
    · cases hended
  subst hnil
  simp only [Bool.and_eq_true, decide_eq_true_eq] at hlimits
  exact ⟨by omega, d, rfl, hdigit⟩

/-- So an offset behind a sign does not end with the mark of universal time. -/
theorem signed_distance {sign : UInt8} {seconds : Nat}
    (h : offset.distance input = some (seconds, rest)) :
    seconds < 93600 ∧ (sign :: input).getLast? ≠ some 90 := by
  obtain ⟨hlimit, last, hlast, hdigit⟩ := of_distance h
  refine ⟨hlimit, fun hmark => ?_⟩
  rw [List.getLast?_cons, hlast] at hmark
  cases hmark
  exact absurd hdigit (by decide)

/-- An offset is less than 26 hours. A point in time that ends with the mark of universal time has
none. -/
theorem of_offset {shift : Int} (h : offset input = some (shift, rest)) :
    (-93600 < shift ∧ shift < 93600) ∧ (input.getLast? = some 90 → shift = 0) := by
  obtain ⟨taken, between, htaken, h⟩ := Reader.of_bind_run h
  cases htaken
  split at h
  · cases h
    exact ⟨by decide, fun _ => rfl⟩
  · rename_i others
    obtain ⟨⟨⟩, next, hset, h⟩ := Reader.of_bind_run h
    cases hset
    obtain ⟨seconds, last, hdistance, h⟩ := Reader.of_bind_run h
    cases h
    obtain ⟨hlimit, hend⟩ := signed_distance hdistance
    exact ⟨by omega, fun hmark => absurd hmark hend⟩
  · rename_i others
    obtain ⟨⟨⟩, next, hset, h⟩ := Reader.of_bind_run h
    cases hset
    obtain ⟨seconds, last, hdistance, h⟩ := Reader.of_bind_run h
    cases h
    obtain ⟨hlimit, hend⟩ := signed_distance hdistance
    exact ⟨by omega, fun hmark => absurd hmark hend⟩
  · cases h

/-! ### Points in time -/

/-- What stands behind the year is a day of the year and a second of the day, and an offset at the
end. -/
theorem of_within {year seconds : Int} (h : within year input = some (seconds, rest)) :
    ∃ (date : Date) (second : Nat) (shift : Int) (behind : Bytes), date.year = year ∧
      date.isValid = true ∧ second < 86400 ∧ offset behind = some (shift, rest) ∧
        behind <:+ input ∧ seconds = date.dayNumber * 86400 + second - shift := by
  obtain ⟨month, behindMonth, hmonth, h⟩ := Reader.of_bind_run h
  obtain ⟨day, behindDay, hday, h⟩ := Reader.of_bind_run h
  obtain ⟨hour, behindHour, hhour, h⟩ := Reader.of_bind_run h
  obtain ⟨minute, behindMinute, hminute, h⟩ := Reader.of_bind_run h
  obtain ⟨found, behindSecond, hsecond, h⟩ := Reader.of_bind_run h
  obtain ⟨⟨⟩, behind, hfraction, h⟩ := Reader.of_bind_run h
  obtain ⟨shift, between, hoffset, h⟩ := Reader.of_bind_run h
  obtain ⟨⟨⟩, last, hguard, h⟩ := Reader.of_bind_run h
  have hlimits := Reader.of_guard_run hguard
  rw [Reader.guard_run hlimits] at hguard
  cases hguard
  cases h
  have hsuffix := (fraction_suffix hfraction).trans <| (optional_pair_suffix hsecond).trans <|
    (pair_suffix hminute).trans <| (pair_suffix hhour).trans <|
      (pair_suffix hday).trans (pair_suffix hmonth)
  simp only [Bool.and_eq_true, decide_eq_true_eq] at hlimits
  obtain ⟨⟨⟨hvalid, hhours⟩, hminutes⟩, hseconds⟩ := hlimits
  refine ⟨⟨year, month, day⟩, hour * 3600 + minute * 60 + found.getD 0, shift, behind, rfl, hvalid,
    by omega, hoffset, hsuffix, ?_⟩
  omega

/-- A point in time with two digits for the year is in range, whatever its offset. -/
theorem in_range_of_short {seconds : Int} (h : short input = some (seconds, rest)) :
    InRange seconds := by
  obtain ⟨digits, behindYear, hyear, h⟩ := Reader.of_bind_run h
  obtain ⟨-, -, -, -, hdigits⟩ := of_pair hyear
  obtain ⟨date, second, shift, behind, hdate, hvalid, hsecond, hoffset, -, rfl⟩ := of_within h
  obtain ⟨⟨hleast, hmost⟩, -⟩ := of_offset hoffset
  have hyears : 1950 ≤ date.year ∧ date.year < 2050 := by
    rw [hdate]
    split <;> omega
  obtain ⟨hfrom, hto⟩ := Date.day_number_between hvalid hyears.1 hyears.2
  have hfirst : (Date.mk 1950 1 1).dayNumber = -7305 := rfl
  have hlast : (Date.mk 2050 1 1).dayNumber = 29220 := rfl
  unfold InRange
  omega

/-- So is one with four digits that has no offset. -/
theorem in_range_of_long {seconds : Int} (h : long input = some (seconds, rest))
    (hmark : input.getLast? = some 90) : InRange seconds := by
  obtain ⟨century, behindCentury, hcentury, h⟩ := Reader.of_bind_run h
  obtain ⟨digits, behindYear, hyear, h⟩ := Reader.of_bind_run h
  have hcenturies : century < 100 := by
    obtain ⟨-, -, -, -, hlt⟩ := of_pair hcentury
    exact hlt
  have hdigits : digits < 100 := by
    obtain ⟨-, -, -, -, hlt⟩ := of_pair hyear
    exact hlt
  obtain ⟨date, second, shift, behind, hdate, hvalid, hsecond, hoffset, hbehind, rfl⟩ :=
    of_within h
  have hsuffix : behind <:+ input :=
    hbehind.trans ((pair_suffix hyear).trans (pair_suffix hcentury))
  have hshift : shift = 0 := by
    refine (of_offset hoffset).2 ?_
    obtain ⟨front, rfl⟩ := hsuffix
    rw [List.getLast?_append] at hmark
    cases hend : behind.getLast? with
    | some last =>
        rw [hend] at hmark
        exact hmark
    | none =>
        -- An offset is not read from nothing.
        obtain rfl := List.getLast?_eq_none_iff.1 hend
        cases hoffset
  have hyears : 0 ≤ date.year ∧ date.year < 10000 := by
    rw [hdate]
    omega
  obtain ⟨hfrom, hto⟩ := Date.day_number_between hvalid hyears.1 hyears.2
  have hfirst : (Date.mk 0 1 1).dayNumber = -719528 := rfl
  have hlast : (Date.mk 10000 1 1).dayNumber = 2932897 := rfl
  unfold InRange
  omega

/-- A point in time that was read is in range. -/
theorem in_range_of_time {seconds : Int} (h : time input = some (seconds, rest)) :
    InRange seconds := by
  obtain ⟨found, behind, -, h⟩ := Reader.of_bind_run h
  obtain ⟨⟨⟩, between, -, h⟩ := Reader.of_bind_run h
  split at h
  · obtain ⟨⟨⟩, left, -, h⟩ := Reader.of_bind_run h
    obtain ⟨hinside, -⟩ := Reader.of_lift_run h
    obtain ⟨last, hshort⟩ := Reader.of_inside hinside
    exact in_range_of_short hshort
  · split at h
    · obtain ⟨⟨⟩, left, hguard, h⟩ := Reader.of_bind_run h
      obtain ⟨hinside, -⟩ := Reader.of_lift_run h
      obtain ⟨last, hlong⟩ := Reader.of_inside hinside
      exact in_range_of_long hlong (Reader.of_guard_run hguard)
    · cases h

theorem in_range_of_reader {first last : Int} (h : reader input = some ((first, last), rest)) :
    InRange first ∧ InRange last := by
  obtain ⟨found, left, -, hcontent⟩ := Reader.of_within h
  obtain ⟨start, between, hstart, hnext⟩ := Reader.of_bind_run hcontent
  obtain ⟨finish, final, hfinish, hperiod⟩ := Reader.of_bind_run hnext
  cases hperiod
  exact ⟨in_range_of_time hstart, in_range_of_time hfinish⟩

end Validity

open Validity (InRange)

/-- So are the ends of the period of a certificate that was read. -/
theorem Certificate.in_range_of_read {content : Bytes} {certificate : Certificate}
    (h : read? content = some certificate) :
    InRange certificate.notBefore ∧ InRange certificate.notAfter := by
  obtain ⟨rest, hread⟩ := Reader.of_inside h
  obtain ⟨found, left, -, hinner⟩ := Reader.of_within hread
  obtain ⟨⟨⟨serial, issuer, ⟨first, last⟩, subject, publicKey, extensions⟩, signed⟩, behind,
    hsigned, hbehind⟩ := Reader.of_bind_run hinner
  obtain ⟨algorithm, _, -, hbehind⟩ := Reader.of_bind_run hbehind
  obtain ⟨signature, _, -, hbehind⟩ := Reader.of_bind_run hbehind
  cases hbehind
  obtain ⟨_, _, -, hparts, -⟩ := Reader.of_sequence_with_bytes hsigned
  obtain ⟨_, _, -, hparts⟩ := Reader.of_bind_run hparts
  obtain ⟨_, _, -, hparts⟩ := Reader.of_bind_run hparts
  obtain ⟨_, _, -, hparts⟩ := Reader.of_bind_run hparts
  obtain ⟨_, _, -, hparts⟩ := Reader.of_bind_run hparts
  obtain ⟨period, _, hperiod, hparts⟩ := Reader.of_bind_run hparts
  obtain ⟨_, _, -, hparts⟩ := Reader.of_bind_run hparts
  obtain ⟨_, _, -, hparts⟩ := Reader.of_bind_run hparts
  obtain ⟨_, _, -, hparts⟩ := Reader.of_bind_run hparts
  obtain ⟨_, _, -, hparts⟩ := Reader.of_bind_run hparts
  obtain ⟨_, _, -, hparts⟩ := Reader.of_bind_run hparts
  cases hparts
  exact Validity.in_range_of_reader hperiod

/-- An authority expires at a point in time that can be written. -/
theorem Authority.expiry_in_range {suite : Crypto.Suite} {text : String} {key : PrivateKey}
    {authority : Authority} (h : make suite text key = .ok authority) :
    InRange authority.expiry := by
  obtain ⟨certificate, htext, -, rfl⟩ := make_iff.1 h
  obtain ⟨content, -, hread⟩ := Certificate.of_text_iff.1 htext
  exact (Certificate.in_range_of_read hread).2

end EdgeFleet.Pki
