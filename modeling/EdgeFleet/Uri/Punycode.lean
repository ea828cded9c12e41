/-!
# Punycode

The ASCII form of a label with other characters: `Punycode.decode?` gives back the characters that
a text behind `xn--` stands for. The basic characters come first, up to the last hyphen, and the
rest is a list of variable-length numbers, each of which says which character comes next and where
it is put in.
-/

namespace EdgeFleet.Uri.Punycode

/-- The value of a digit in base 36. -/
def digit? (c : Char) : Option Nat :=
  if 'a' ≤ c && c ≤ 'z' then some (c.toNat - 97)
  else if 'A' ≤ c && c ≤ 'Z' then some (c.toNat - 65)
  else if c.isDigit then some (c.toNat - 48 + 26)
  else none

/-- The value from which on a digit at position `k` (a multiple of 36) ends a number. -/
def threshold (k bias : Nat) : Nat :=
  if k ≤ bias then 1 else min 26 (k - bias)

/-- Divides by 35 until at most 455 is left, counting 36 for each division. -/
def shrink (delta k : Nat) : Nat × Nat :=
  if 455 < delta then shrink (delta / 35) (k + 36) else (delta, k)
termination_by delta
decreasing_by omega

/-- The bias for the next number, after a step of `delta` with `count` characters in place. -/
def adapt (delta count : Nat) (isFirst : Bool) : Nat :=
  let delta := if isFirst then delta / 700 else delta / 2
  let (delta, k) := shrink (delta + delta / count) 0
  k + 36 * delta / (delta + 38)

/-- One number: its value, and the text after it. -/
def number? (bias k weight value : Nat) : List Char → Option (Nat × List Char)
  | [] => none
  | c :: rest => do
    let digit ← digit? c
    let value := value + digit * weight
    if value ≥ 0x100000000 then none
    let bound := threshold k bias
    if digit < bound then return (value, rest)
    else number? bias (k + 36) (weight * (36 - bound)) value rest

/-- Puts the characters in, one number after another. -/
def insertAll (fuel code position bias : Nat) (isFirst : Bool) (output text : List Char) :
    Option (List Char) :=
  match fuel, text with
  | _, [] => some output
  | 0, _ => none
  | fuel + 1, text => do
    let (delta, rest) ← number? bias 36 1 0 text
    let count := output.length + 1
    let moved := position + delta
    let code := code + moved / count
    let position := moved % count
    if !code.isValidChar then none
    let output := output.take position ++ Char.ofNat code :: output.drop position
    insertAll fuel code (position + 1) (adapt delta count isFirst) false output rest

/-- The characters that a text in ASCII form stands for. -/
def decode? (text : List Char) : Option (List Char) :=
  let (digits, basic) := text.reverse.span (· != '-')
  if text.any (·.toNat ≥ 128) then none
  else insertAll text.length 128 0 72 true (basic.drop 1).reverse digits.reverse

end EdgeFleet.Uri.Punycode
