import EdgeFleet.Text.Decoding

/-!
# Parameters of a query

A list of names with values, written with an ampersand between two parameters and an equals sign
between name and value. In names and values a space is a plus sign, and other bytes apart from
letters, digits and four marks are written in hexadecimal.
-/

namespace EdgeFleet.Uri.Form

/-- Names with values, in order. -/
abbrev Parameters := List (String × String)

/-- A hexadecimal digit in upper case. -/
def hexDigit (value : Nat) : Char :=
  if value < 10 then Char.ofNat (48 + value) else Char.ofNat (55 + value)

/-- The value of a hexadecimal digit of either case. -/
def hexValue? (c : Char) : Option Nat :=
  if '0' ≤ c && c ≤ '9' then some (c.toNat - 48)
  else if 'a' ≤ c && c ≤ 'f' then some (c.toNat - 87)
  else if 'A' ≤ c && c ≤ 'F' then some (c.toNat - 55)
  else none

/-- A byte of a name or value. -/
def encodeByte (byte : UInt8) : List Char :=
  let c := Char.ofNat byte.toNat
  if c.isAlphanum || c == '*' || c == '-' || c == '.' || c == '_' then [c]
  else if c == ' ' then ['+']
  else ['%', hexDigit (byte.toNat / 16), hexDigit (byte.toNat % 16)]

/-- A name or value. -/
def encodeText (text : String) : String :=
  .ofList ((Bytes.ofText text).flatMap encodeByte)

/-- One parameter. -/
def encodeParameter (parameter : String × String) : String :=
  encodeText parameter.1 ++ "=" ++ encodeText parameter.2

/-- All parameters. -/
def encode (parameters : Parameters) : String :=
  "&".intercalate (parameters.map encodeParameter)

/-- The bytes of a name or value. A percent sign without two digits stands for itself. -/
def decodeBytes : List Char → Bytes
  | '+' :: rest => 32 :: decodeBytes rest
  | '%' :: high :: low :: rest =>
    match hexValue? high, hexValue? low with
    | some high, some low => .ofNat (high * 16 + low) :: decodeBytes rest
    | _, _ => 37 :: decodeBytes (high :: low :: rest)
  | c :: rest => Bytes.ofText (String.singleton c) ++ decodeBytes rest
  | [] => []

/-- A name or value. -/
def decodeText (cs : List Char) : String :=
  (decodeBytes cs).nearestText

/-- One parameter. Without an equals sign, the value is empty. -/
def decodeParameter (cs : List Char) : String × String :=
  let (name, rest) := cs.span (· != '=')
  (decodeText name, decodeText (rest.drop 1))

/-- All parameters of a query, apart from empty ones. -/
def decode (query : String) : Parameters :=
  ((query.toList.splitOn '&').filter (!·.isEmpty)).map decodeParameter

end EdgeFleet.Uri.Form
