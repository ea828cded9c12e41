import EdgeFleet.Der.Reader
import EdgeFleet.Time.Instant

/-!
# Points in time in documents

Documents give whole seconds, in one of two forms: with two digits for the year, which stand for the
years from 1950 to 2049, and with four digits. Points in time are counted in seconds since the
start of 1970.
-/

namespace EdgeFleet.Pki

open Der Time

namespace Validity

/-- Two digits. -/
def pair : Reader Nat := fun input =>
  match input with
  | a :: b :: rest =>
    if 48 ≤ a && a ≤ 57 && 48 ≤ b && b ≤ 57 then
      some ((a.toNat - 48) * 10 + (b.toNat - 48), rest)
    else none
  | _ => none

/-- The seconds of an offset with a sign, or of none. -/
def offset : Reader Int := do
  match ← get with
  | [90] => set ([] : Bytes); return 0
  | 43 :: rest => set rest; return ((← distance) : Int)
  | 45 :: rest => set rest; return -((← distance) : Int)
  | _ => failure
where
  /-- Hours and minutes. -/
  distance : Reader Nat := do
    let hours ← pair
    let minutes ← pair
    Reader.ended
    guard (hours < 26 && minutes < 60)
    return hours * 3600 + minutes * 60

/-- Up to three digits behind a point. -/
def fraction : Reader Unit := do
  match ← get with
  | 46 :: rest =>
    let digits := rest.takeWhile fun byte => 48 ≤ byte && byte ≤ 57
    guard (1 ≤ digits.length && digits.length ≤ 3)
    set (rest.drop digits.length)
  | _ => return ()

/-- The rest of a point in time behind its year. The seconds may be left out. -/
def within (year : Int) : Reader Int := do
  let month ← pair
  let day ← pair
  let hour ← pair
  let minute ← pair
  let second := (← Reader.optional pair).getD 0
  fraction
  let shift ← offset
  let date : Date := ⟨year, month, day⟩
  guard (date.isValid && hour < 24 && minute < 60 && second < 60)
  return date.dayNumber * 86400 + hour * 3600 + minute * 60 + second - shift

/-- A point in time with two digits for the year. -/
def short : Reader Int := do
  let year ← pair
  within (if year < 50 then 2000 + year else 1900 + year)

/-- A point in time with four digits for the year. -/
def long : Reader Int := do
  let century ← pair
  let year ← pair
  within (century * 100 + year)

/-- A point in time. -/
def time : Reader Int := do
  let found ← Reader.element
  guard (!found.tag.constructed)
  if found.tag.number = Tag.utcTime.number then
    guard (!found.content.contains 46)
    StateT.lift (Reader.inside short found.content)
  else if found.tag.number = Tag.generalizedTime.number then
    guard (found.content.getLast? = some 90)
    StateT.lift (Reader.inside long found.content)
  else failure

/-- The first and the last point in time of a period. -/
def reader : Reader (Int × Int) :=
  .within .sequence do
    return (← time, ← time)

/-- A point in time as it is written: with two digits for the year where they are enough. -/
def write (seconds : Int) : Bytes :=
  let date := Date.ofDayNumber (seconds.fdiv 86400)
  let second := (seconds.fmod 86400).toNat
  let digits (width value : Nat) : Bytes := .ofText (Instant.padded width value)
  let rest := digits 2 date.month ++ digits 2 date.day ++ digits 2 (second / 3600)
    ++ digits 2 (second / 60 % 60) ++ digits 2 (second % 60) ++ [90]
  if 1950 ≤ date.year && date.year < 2050 then
    Tag.utcTime.of [digits 2 (date.year % 100).toNat, rest]
  else Tag.generalizedTime.of [digits 4 date.year.toNat, rest]

/-- A period as it is written. -/
def bytes (first last : Int) : Bytes :=
  Tag.sequence.of [write first, write last]

end Validity

end EdgeFleet.Pki
