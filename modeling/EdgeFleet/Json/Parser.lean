import EdgeFleet.Json.Basic

/-!
# Reading JSON

`Json.parse?` reads one value that fills the whole text, blanks around it apart. Containers may be
nested at most `maxDepth` deep, a number must fit a double, and an escaped surrogate must be one of
a pair. Every function hands back the characters that it did not read.
-/

namespace EdgeFleet.Json.Reader

/-- The deepest nesting of arrays and objects that is read. -/
def maxDepth : Nat := 127

/-- The blanks that may stand between tokens. -/
def isBlank (c : Char) : Bool :=
  c == ' ' || c == '\t' || c == '\n' || c == '\r'

/-- The text after its leading blanks. -/
def skipBlanks (cs : List Char) : List Char :=
  cs.dropWhile isBlank

/-- The value of a hexadecimal digit of either case. -/
def hexValue? (c : Char) : Option Nat :=
  if '0' ≤ c && c ≤ '9' then some (c.toNat - 48)
  else if 'a' ≤ c && c ≤ 'f' then some (c.toNat - 87)
  else if 'A' ≤ c && c ≤ 'F' then some (c.toNat - 55)
  else none

/-- Four hexadecimal digits, as one UTF-16 unit. -/
def unit? : List Char → Option (Nat × List Char)
  | a :: b :: c :: d :: rest => do
    let unit := (← hexValue? a) * 4096 + (← hexValue? b) * 256 + (← hexValue? c) * 16
      + (← hexValue? d)
    return (unit, rest)
  | _ => none

/-- The character behind `\u`: one unit, or a high and a low surrogate, each escaped. -/
def escapedUnit? (cs : List Char) : Option (Char × List Char) := do
  let (high, rest) ← unit? cs
  if 0xD800 ≤ high && high < 0xDC00 then
    match rest with
    | '\\' :: 'u' :: rest =>
      let (low, rest) ← unit? rest
      if 0xDC00 ≤ low && low < 0xE000 then
        return (Char.ofNat (0x10000 + (high - 0xD800) * 0x400 + (low - 0xDC00)), rest)
      else none
    | _ => none
  else if 0xDC00 ≤ high && high < 0xE000 then none
  else return (Char.ofNat high, rest)

/-- The rest of a quoted string, after its opening mark. `read` holds what was read, last
character first. -/
def string? (fuel : Nat) (read : List Char) (cs : List Char) : Option (String × List Char) :=
  match fuel with
  | 0 => none
  | fuel + 1 =>
    match cs with
    | '"' :: rest => some (String.ofList read.reverse, rest)
    | '\\' :: e :: rest =>
      match e with
      | '"' | '\\' | '/' => string? fuel (e :: read) rest
      | 'b' => string? fuel (Char.ofNat 8 :: read) rest
      | 'f' => string? fuel (Char.ofNat 12 :: read) rest
      | 'n' => string? fuel ('\n' :: read) rest
      | 'r' => string? fuel ('\r' :: read) rest
      | 't' => string? fuel ('\t' :: read) rest
      | 'u' =>
        match escapedUnit? rest with
        | some (c, rest) => string? fuel (c :: read) rest
        | none => none
      | _ => none
    | c :: rest => if c.toNat < 32 then none else string? fuel (c :: read) rest
    | [] => none

/-- The value of a run of decimal digits. -/
def digitsValue (digits : List Char) : Nat :=
  digits.foldl (fun value c => value * 10 + (c.toNat - 48)) 0

/-- Whether `mantissa * 10 ^ exponent` rounds to a finite double: it lies below the midpoint
between the largest double and the power of two after it. -/
def isFinite (mantissa : Nat) (exponent : Int) : Bool :=
  let limit := Nat.pow 2 1024 - Nat.pow 2 970
  if mantissa == 0 then true
  else
    let digits := (Nat.toDigits 10 mantissa).length
    if digits + exponent > 400 then false
    else if digits + exponent < 0 then true
    else if exponent ≥ 0 then mantissa * Nat.pow 10 exponent.toNat < limit
    else mantissa < limit * Nat.pow 10 (-exponent).toNat

/-- The fraction of a number: a point and at least one digit, or nothing. -/
def fraction? (cs : List Char) : Option (List Char × List Char) :=
  match cs with
  | '.' :: rest =>
    let digits := rest.takeWhile Char.isDigit
    if digits.isEmpty then none else some (digits, rest.dropWhile Char.isDigit)
  | _ => some ([], cs)

/-- The exponent of a number: a mark, an optional sign and at least one digit, or nothing. -/
def exponent? (cs : List Char) : Option (Option Int × List Char) :=
  match cs with
  | e :: rest =>
    if e == 'e' || e == 'E' then
      let (negative, rest) :=
        match rest with
        | '-' :: rest => (true, rest)
        | '+' :: rest => (false, rest)
        | rest => (false, rest)
      let digits := rest.takeWhile Char.isDigit
      if digits.isEmpty then none
      else
        let value : Int := digitsValue digits
        some (some (if negative then -value else value), rest.dropWhile Char.isDigit)
    else some (none, cs)
  | [] => some (none, [])

/-- A number. It is an `int` when it has neither fraction nor exponent and fits 64 bits; a
negative zero does not count as an integer. -/
def number? (cs : List Char) : Option (Json × List Char) := do
  let (negative, cs') :=
    match cs with
    | '-' :: rest => (true, rest)
    | _ => (false, cs)
  let digits := cs'.takeWhile Char.isDigit
  if digits.isEmpty || (digits.length > 1 && digits.head? == some '0') then none
  let (fraction, rest) ← fraction? (cs'.dropWhile Char.isDigit)
  let (exponent, rest) ← exponent? rest
  let whole := digitsValue digits
  let text := String.ofList (cs.take (cs.length - rest.length))
  let literal := fraction.isEmpty && exponent.isNone
  if literal && !negative && whole < 0x10000000000000000 then return (.int whole, rest)
  else if literal && negative && 0 < whole && whole ≤ 0x8000000000000000 then
    return (.int (-whole), rest)
  else if isFinite (digitsValue (digits ++ fraction)) (exponent.getD 0 - fraction.length) then
    return (.real text, rest)
  else none

mutual

/-- A value at the head of the text, with `depth` levels of containers left. -/
def value? (fuel depth : Nat) (cs : List Char) : Option (Json × List Char) :=
  match fuel with
  | 0 => none
  | fuel + 1 =>
    match skipBlanks cs with
    | 'n' :: 'u' :: 'l' :: 'l' :: rest => some (.null, rest)
    | 't' :: 'r' :: 'u' :: 'e' :: rest => some (.bool true, rest)
    | 'f' :: 'a' :: 'l' :: 's' :: 'e' :: rest => some (.bool false, rest)
    | '"' :: rest => (string? (rest.length + 1) [] rest).map fun (s, rest) => (.string s, rest)
    | '[' :: rest =>
      match depth with
      | 0 => none
      | depth + 1 =>
        match skipBlanks rest with
        | ']' :: rest => some (.array [], rest)
        | rest => items? fuel depth [] rest
    | '\x7b' :: rest =>
      match depth with
      | 0 => none
      | depth + 1 =>
        match skipBlanks rest with
        | '\x7d' :: rest => some (.object [], rest)
        | rest => members? fuel depth [] rest
    | cs => number? cs

/-- The items of an array and its closing bracket; `read` holds the items read, last first. -/
def items? (fuel depth : Nat) (read : List Json) (cs : List Char) : Option (Json × List Char) :=
  match fuel with
  | 0 => none
  | fuel + 1 =>
    match value? fuel depth cs with
    | none => none
    | some (item, rest) =>
      match skipBlanks rest with
      | ',' :: rest => items? fuel depth (item :: read) rest
      | ']' :: rest => some (.array (item :: read).reverse, rest)
      | _ => none

/-- The members of an object and its closing brace; `read` holds the members read, last first. -/
def members? (fuel depth : Nat) (read : List (String × Json)) (cs : List Char) :
    Option (Json × List Char) :=
  match fuel with
  | 0 => none
  | fuel + 1 =>
    match skipBlanks cs with
    | '"' :: rest =>
      match string? (rest.length + 1) [] rest with
      | none => none
      | some (key, rest) =>
        match skipBlanks rest with
        | ':' :: rest =>
          match value? fuel depth rest with
          | none => none
          | some (value, rest) =>
            match skipBlanks rest with
            | ',' :: rest => members? fuel depth ((key, value) :: read) rest
            | '\x7d' :: rest => some (.object ((key, value) :: read).reverse, rest)
            | _ => none
        | _ => none
    | _ => none

end

end EdgeFleet.Json.Reader

namespace EdgeFleet.Json

open Reader in
/-- The value that a text holds, if it holds exactly one. -/
def parse? (text : String) : Option Json :=
  let cs := text.toList
  match value? (2 * cs.length + 2) maxDepth cs with
  | some (value, rest) => if (skipBlanks rest).isEmpty then some value else none
  | none => none

end EdgeFleet.Json
