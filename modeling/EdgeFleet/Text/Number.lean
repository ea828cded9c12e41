/-!
# Numbers in text

Decimal numerals as settings, ports and address parts write them. `Text.natBelow?` reads a whole
text as one numeral; `Text.leadingNat?` reads the numeral at the head of a longer text.
-/

namespace EdgeFleet.Text

/-- The value of a digit in a radix up to sixteen, of either case. -/
def digitValue? (radix : Nat) (c : Char) : Option Nat :=
  let value :=
    if '0' ≤ c && c ≤ '9' then some (c.toNat - 48)
    else if 'a' ≤ c && c ≤ 'f' then some (c.toNat - 87)
    else if 'A' ≤ c && c ≤ 'F' then some (c.toNat - 55)
    else none
  value.filter (· < radix)

/-- The value of a run of digits, if there is at least one and all are digits. -/
def digits? (radix : Nat) (cs : List Char) : Option Nat :=
  if cs.isEmpty then none
  else cs.foldl (fun value c => return (← value) * radix + (← digitValue? radix c)) (some 0)

/-- A numeral below `bound`, which may carry a plus sign. -/
def natBelow? (bound : Nat) (cs : List Char) : Option Nat :=
  let digits :=
    match cs with
    | '+' :: rest => rest
    | cs => cs
  (digits? 10 digits).filter (· < bound)

/-- The digits at the head of a text and what follows them. -/
def spanDigits (radix : Nat) (cs : List Char) : List Char × List Char :=
  cs.span fun c => (digitValue? radix c).isSome

/-- The numeral at the head of a text: all the digits there, between one and `width` of them, with a
value below `bound`. -/
def leadingNat? (radix width bound : Nat) (leadingZero : Bool) (cs : List Char) :
    Option (Nat × List Char) := do
  let (digits, rest) := spanDigits radix cs
  if digits.length > width then none
  if !leadingZero && digits.length > 1 && digits.head? == some '0' then none
  let value ← digits? radix digits
  if value < bound then return (value, rest) else none

end EdgeFleet.Text
