import EdgeFleet.Text.Blank
import EdgeFleet.Text.Number
import EdgeFleet.Time.Calendar

/-!
# Points in time

An instant is a number of seconds since the start of 1970 and a fraction of a second.
`Instant.parse?` reads a date, a time of day and an offset, with some freedom: blanks around the
numbers, any number of digits of a fraction, and a blank or a small letter between date and time.
`Instant.render` writes the strict form.
-/

namespace EdgeFleet.Time

open Text

/-- A point in time. Within a leap second the fraction is at least one second. -/
structure Instant where
  seconds : Int
  nanoseconds : Nat
  deriving Repr, DecidableEq

namespace Instant

/-- The order in time, where a leap second comes after the second that it extends. -/
def isBefore (a b : Instant) : Bool :=
  a.seconds < b.seconds || (a.seconds == b.seconds && a.nanoseconds < b.nanoseconds)

/-- One to `width` digits after any blanks, with what follows them. -/
def number? (width : Nat) (cs : List Char) : Option (Nat × List Char) :=
  let cs := skipBlanks cs
  let digits := (cs.take width).takeWhile Char.isDigit
  (digits? 10 digits).map fun value => (value, cs.drop digits.length)

/-- A year: four digits, or any number of them behind a sign. -/
def year? (cs : List Char) : Option (Int × List Char) :=
  match skipBlanks cs with
  | '-' :: rest => signed rest fun value => -value
  | '+' :: rest => signed rest fun value => value
  | cs => (number? 4 cs).map fun (value, rest) => ((value : Int), rest)
where
  /-- All the digits there, as a year with a sign. -/
  signed (cs : List Char) (sign : Int → Int) : Option (Int × List Char) :=
    let digits := cs.takeWhile Char.isDigit
    (digits? 10 digits).map fun value => (sign value, cs.drop digits.length)

/-- A mark after any blanks, and what follows it. -/
def mark? (mark : Char) (cs : List Char) : Option (List Char) :=
  match skipBlanks cs with
  | c :: rest => if c == mark then some rest else none
  | [] => none

/-- A fraction of a second in nanoseconds, if there is one. Digits past the ninth do not count. -/
def fraction? (cs : List Char) : Option (Nat × List Char) :=
  match cs with
  | '.' :: rest =>
    let digits := rest.takeWhile Char.isDigit
    let counted := digits.take 9
    (digits? 10 counted).map fun value =>
      (value * Nat.pow 10 (9 - counted.length), rest.drop digits.length)
  | cs => some (0, cs)

/-- Two digits. -/
def pair? (cs : List Char) : Option (Nat × List Char) :=
  match cs with
  | a :: b :: rest => (digits? 10 [a, b]).map (·, rest)
  | _ => none

/-- An offset from universal time in seconds: its letter or name, or a sign, hours and minutes. -/
def offset? (cs : List Char) : Option (Int × List Char) :=
  let cs := skipBlanks cs
  if (cs.take 3).map Char.toUpper == ['U', 'T', 'C'] then some (0, cs.drop 3)
  else
    match cs with
    | 'Z' :: rest | 'z' :: rest => some (0, rest)
    | '+' :: rest => (distance? rest).map fun (value, rest) => ((value : Int), rest)
    | '-' :: rest | '−' :: rest => (distance? rest).map fun (value, rest) => (-(value : Int), rest)
    | _ => none
where
  /-- Hours and minutes, less than a day. -/
  distance? (cs : List Char) : Option (Nat × List Char) := do
    let (hours, cs) ← pair? cs
    let (minutes, cs) ← pair? (cs.dropWhile fun c => c == ':' || isBlank c)
    let total := hours * 3600 + minutes * 60
    if minutes < 60 && total < 86400 then return (total, cs) else none

/-- The years that can be told. -/
def yearLimit : Int := 262142

/-- The instant of a date and a time of day at an offset. The second after the last of a minute
is a leap second. -/
def ofParts? (date : Date) (hour minute second nanosecond : Nat) (offset : Int) :
    Option Instant :=
  if date.isValid && -yearLimit ≤ date.year && date.year ≤ yearLimit && hour < 24 &&
      minute < 60 && second ≤ 60 then
    let leap := second == 60
    let secondOfDay : Int := hour * 3600 + minute * 60 + (if leap then 59 else second)
    some ⟨date.dayNumber * 86400 + secondOfDay - offset,
      if leap then nanosecond + 1000000000 else nanosecond⟩
  else none

/-- Reads a point in time. -/
def parse? (text : String) : Option Instant := do
  let (year, cs) ← year? text.toList
  let (month, cs) ← number? 2 (← mark? '-' cs)
  let (day, cs) ← number? 2 (← mark? '-' cs)
  let cs ← match cs with
    | 'T' :: rest | 't' :: rest | ' ' :: rest => some rest
    | _ => none
  let (hour, cs) ← number? 2 cs
  let (minute, cs) ← number? 2 (← mark? ':' cs)
  let (second, cs) ← number? 2 (← mark? ':' cs)
  let (nanosecond, cs) ← fraction? cs
  let (offset, cs) ← offset? cs
  if (skipBlanks cs).isEmpty then ofParts? ⟨year, month, day⟩ hour minute second nanosecond offset
  else none

/-- A number with zeros before it. -/
def padded (width value : Nat) : String :=
  let digits := toString value
  String.ofList (List.replicate (width - digits.length) '0') ++ digits

/-- The strict form of an instant, in whole seconds of universal time. -/
def render (instant : Instant) : String :=
  let date := Date.ofDayNumber (instant.seconds.fdiv 86400)
  let second := (instant.seconds.fmod 86400).toNat
  let year :=
    if 0 ≤ date.year && date.year ≤ 9999 then padded 4 date.year.toNat
    else (if date.year < 0 then "-" else "+") ++ padded 4 date.year.natAbs
  let leap := if instant.nanoseconds ≥ 1000000000 then 1 else 0
  s!"{year}-{padded 2 date.month}-{padded 2 date.day}" ++
    s!"T{padded 2 (second / 3600)}:{padded 2 (second / 60 % 60)}:{padded 2 (second % 60 + leap)}Z"

end Instant

example : (Instant.parse? "2024-01-01T00:30:00+01:00").map (·.seconds) = some 1704065400 := by
  decide +kernel

example : (Instant.parse? "2024-13-01T00:00:00Z") = none := by decide +kernel

end EdgeFleet.Time
