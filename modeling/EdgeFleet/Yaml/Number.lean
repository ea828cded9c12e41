import EdgeFleet.Text.Number

/-!
# Numbers of YAML

Which texts are numbers. Integers may be hexadecimal, octal or binary, behind a letter for it;
digits behind a leading zero are no number at all. A number that is not an integer needs no digits
before its point or none after it, and must not be too large to be told from infinity.
-/

namespace EdgeFleet.Yaml

open Text

/-- A text without the plus sign at its head. -/
def withoutPlus : List Char → List Char
  | '+' :: rest => rest
  | cs => cs

/-- A text without the sign at its head. -/
def withoutSign : List Char → List Char
  | '+' :: rest | '-' :: rest => rest
  | cs => cs

/-- Whether a text is a number only at first sight: digits behind a leading zero. -/
def isPaddedDigits (cs : List Char) : Bool :=
  match withoutSign cs with
  | '0' :: c :: rest => (c :: rest).all Char.isDigit
  | _ => false

/-- The digits of another radix behind the mark for it. -/
def radixDigits? : List Char → Option Nat
  | '0' :: 'x' :: rest => digits? 16 rest
  | '0' :: 'o' :: rest => digits? 8 rest
  | '0' :: 'b' :: rest => digits? 2 rest
  | _ => none

/-- The value of a text that is an integer without a minus sign. -/
def natural? (cs : List Char) : Option Nat :=
  let bare := withoutPlus cs
  match radixDigits? bare with
  | some value => some value
  | none => if isPaddedDigits cs then none else digits? 10 bare

/-- The absolute value of a text that is an integer with a minus sign. -/
def negative? (cs : List Char) : Option Nat :=
  match cs with
  | '-' :: rest =>
    match radixDigits? rest with
    | some value => some value
    | none => if isPaddedDigits cs then none else digits? 10 rest
  | _ => none

/-- The exponent of a number: a letter, a sign if wanted, and digits. -/
def exponent? : List Char → Option Int
  | [] => some 0
  | c :: rest =>
    if c == 'e' || c == 'E' then
      match rest with
      | '-' :: rest => (digits? 10 rest).map fun value => -(value : Int)
      | rest => (digits? 10 (withoutPlus rest)).map fun value => (value : Int)
    else none

/-- A number as a whole number of powers of ten. -/
structure Decimal where
  digits : List Char
  exponent : Int

/-- The parts of a text that is a number: digits, a point and digits, an exponent. -/
def decimal? (cs : List Char) : Option Decimal := do
  let whole := cs.takeWhile Char.isDigit
  let (fraction, rest) :=
    match cs.drop whole.length with
    | '.' :: rest =>
      let fraction := rest.takeWhile Char.isDigit
      (fraction, rest.drop fraction.length)
    | rest => ([], rest)
  if whole.isEmpty && fraction.isEmpty then none
  return ⟨whole ++ fraction, (← exponent? rest) - fraction.length⟩

/-- The least number that is taken for infinity: half a step above the largest double. -/
def overflow : Nat := (Nat.pow 2 54 - 1) * Nat.pow 2 970

/-- More digits than any finite number has before its point. -/
def manyDigits : Int := 400

namespace Decimal

/-- Whether a number can be told from infinity. -/
def isFinite (number : Decimal) : Bool :=
  let digits := number.digits.dropWhile (· == '0')
  let magnitude : Int := digits.length + number.exponent
  if digits.isEmpty || magnitude < 0 then true
  else if magnitude > manyDigits then false
  else
    let value := (digits? 10 digits).getD 0
    match number.exponent with
    | .ofNat power => value * Nat.pow 10 power < overflow
    | .negSucc power => value < overflow * Nat.pow 10 (power + 1)

end Decimal

/-- Whether a text is a number, of any size that can be told from infinity, or one of the names of
infinity and of what is not a number. -/
def isReal (cs : List Char) : Bool :=
  let bare := withoutPlus cs
  let text := String.ofList cs
  let bareText := String.ofList bare
  if bare != cs && withoutSign bare != bare then false
  else if [".inf", ".Inf", ".INF"].contains bareText then true
  else if ["-.inf", "-.Inf", "-.INF", ".nan", ".NaN", ".NAN"].contains text then true
  else ((decimal? (withoutSign bare)).map Decimal.isFinite).getD false

end EdgeFleet.Yaml
