import EdgeFleet.Bytes

/-!
# Bytes as text

Six bits a character. `Base64.encode` and `Base64.decode?` work in one of two forms: with the usual
alphabet and padding up to whole groups of four characters, or with the alphabet for addresses and
no padding. A text stands for bytes only if it is what the bytes are written as.
-/

namespace EdgeFleet

/-- A form of the encoding: the last two characters of the alphabet, and whether texts are
padded. -/
structure Base64 where
  digit62 : Char
  digit63 : Char
  padded : Bool
  deriving Repr, DecidableEq

namespace Base64

/-- The usual form. -/
def standard : Base64 := ⟨'+', '/', true⟩

/-- The form for addresses and names. -/
def url : Base64 := ⟨'-', '_', false⟩

/-- The character for six bits. -/
def digit (form : Base64) (value : Nat) : Char :=
  if value < 26 then Char.ofNat (65 + value)
  else if value < 52 then Char.ofNat (71 + value)
  else if value < 62 then Char.ofNat (value - 4)
  else if value = 62 then form.digit62
  else form.digit63

/-- The six bits of a character. -/
def value? (form : Base64) (c : Char) : Option Nat :=
  if 'A' ≤ c && c ≤ 'Z' then some (c.toNat - 65)
  else if 'a' ≤ c && c ≤ 'z' then some (c.toNat - 71)
  else if '0' ≤ c && c ≤ '9' then some (c.toNat + 4)
  else if c = form.digit62 then some 62
  else if c = form.digit63 then some 63
  else none

/-- The padding that completes a group, in the padded form. -/
def padding (form : Base64) (count : Nat) : List Char :=
  if form.padded then List.replicate count '=' else []

/-- The characters for bytes, three bytes at a time. -/
def encodeChars (form : Base64) : Bytes → List Char
  | [] => []
  | [a] =>
    let bits := a.toNat * 16
    form.digit (bits / 64) :: form.digit (bits % 64) :: form.padding 2
  | [a, b] =>
    let bits := (a.toNat * 256 + b.toNat) * 4
    form.digit (bits / 4096) :: form.digit (bits / 64 % 64) :: form.digit (bits % 64)
      :: form.padding 1
  | a :: b :: c :: rest =>
    let bits := (a.toNat * 256 + b.toNat) * 256 + c.toNat
    form.digit (bits / 262144) :: form.digit (bits / 4096 % 64) :: form.digit (bits / 64 % 64)
      :: form.digit (bits % 64) :: encodeChars form rest

/-- The text for bytes. -/
def encode (form : Base64) (bytes : Bytes) : String :=
  .ofList (form.encodeChars bytes)

/-- The bytes of a last group, whose spare bits must not be set. -/
def decodeLast? (form : Base64) : List Char → Option (Bytes)
  | [] => some []
  | [a, b] => do
    let bits := (← form.value? a) * 64 + (← form.value? b)
    if bits % 16 = 0 then some [.ofNat (bits / 16)] else none
  | [a, b, c] => do
    let bits := ((← form.value? a) * 64 + (← form.value? b)) * 64 + (← form.value? c)
    if bits % 4 = 0 then some [.ofNat (bits / 1024), .ofNat (bits / 4)] else none
  | _ => none

/-- The bytes that characters stand for. -/
def decodeChars? (form : Base64) : List Char → Option (Bytes)
  | [a, b, '=', '='] => if form.padded then form.decodeLast? [a, b] else none
  | [a, b, c, '='] => if form.padded then form.decodeLast? [a, b, c] else none
  | a :: b :: c :: d :: rest => do
    let bits := (((← form.value? a) * 64 + (← form.value? b)) * 64 + (← form.value? c)) * 64
      + (← form.value? d)
    return .ofNat (bits / 65536) :: .ofNat (bits / 256) :: .ofNat bits :: (← decodeChars? form rest)
  | last => if form.padded && !last.isEmpty then none else form.decodeLast? last

/-- The bytes that a text stands for. -/
def decode? (form : Base64) (text : String) : Option (Bytes) :=
  form.decodeChars? text.toList

end Base64

end EdgeFleet
