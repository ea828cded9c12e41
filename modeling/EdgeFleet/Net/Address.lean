import EdgeFleet.Bytes
import EdgeFleet.Text.Number

/-!
# Internet addresses

`Address.parse?` reads the text forms of IPv4 and IPv6 addresses and `Address.render` writes the
canonical one. `SocketAddress.parse?` reads an address with a port, where an IPv6 address stands in
brackets.
-/

namespace EdgeFleet.Net

open Text

/-- An Internet address of either family. -/
inductive Address where
  | v4 (bits : BitVec 32)
  | v6 (bits : BitVec 128)
  deriving Repr, DecidableEq, Inhabited

namespace Address

/-- The address that stands for every address of its family. -/
def isUnspecified : Address → Bool
  | .v4 bits => bits == 0
  | .v6 bits => bits == 0

/-- The number whose digits in base `2 ^ width` are `parts`, first one highest. -/
def joinParts (width : Nat) (parts : List Nat) : Nat :=
  parts.foldl (fun value part => value * Nat.pow 2 width + part) 0

/-- One part of a dotted address: up to three digits, below 256, without a leading zero. -/
def octet? (cs : List Char) : Option (Nat × List Char) :=
  leadingNat? 10 3 256 false cs

/-- Four octets with points between them, at the head of a text. -/
def leadingV4? (cs : List Char) : Option (BitVec 32 × List Char) := do
  let (a, cs) ← octet? cs
  let '.' :: cs := cs | none
  let (b, cs) ← octet? cs
  let '.' :: cs := cs | none
  let (c, cs) ← octet? cs
  let '.' :: cs := cs | none
  let (d, cs) ← octet? cs
  return (BitVec.ofNat 32 (joinParts 8 [a, b, c, d]), cs)

/-- The text after the colon that comes before every group but the first. -/
def afterColon? (first : Bool) (cs : List Char) : Option (List Char) :=
  if first then some cs
  else
    match cs with
    | ':' :: rest => some rest
    | _ => none

/-- The groups of a half of an IPv6 address. `dotted` says that the last two of them were written
as an IPv4 address, and `rest` is the text after them. -/
structure Groups where
  values : List Nat
  dotted : Bool
  rest : List Char

/-- Reads up to `room` groups, of which the last two may be written as an IPv4 address; `read`
holds the groups so far, last one first. -/
def leadingGroups (room : Nat) (read : List Nat) (cs : List Char) : Groups :=
  match room with
  | 0 => ⟨read.reverse, false, cs⟩
  | room + 1 =>
    match afterColon? read.isEmpty cs with
    | none => ⟨read.reverse, false, cs⟩
    | some text =>
      match if room == 0 then none else leadingV4? text with
      | some (bits, rest) =>
        ⟨read.reverse ++ [bits.toNat / 65536, bits.toNat % 65536], true, rest⟩
      | none =>
        match leadingNat? 16 4 65536 true text with
        | some (group, rest) => leadingGroups room (group :: read) rest
        | none => ⟨read.reverse, false, cs⟩

/-- An IPv6 address at the head of a text: eight groups, or fewer with a double colon in place of
at least one group of zero. -/
def leadingV6? (cs : List Char) : Option (BitVec 128 × List Char) :=
  let head := leadingGroups 8 [] cs
  if head.values.length == 8 then
    some (BitVec.ofNat 128 (joinParts 16 head.values), head.rest)
  else if head.dotted then none
  else
    match head.rest with
    | ':' :: ':' :: rest =>
      let tail := leadingGroups (7 - head.values.length) [] rest
      let zeros := List.replicate (8 - head.values.length - tail.values.length) 0
      some (BitVec.ofNat 128 (joinParts 16 (head.values ++ zeros ++ tail.values)), tail.rest)
    | _ => none

/-- A whole text as an IPv4 address. -/
def parseV4? (cs : List Char) : Option (BitVec 32) :=
  match leadingV4? cs with
  | some (bits, []) => some bits
  | _ => none

/-- A whole text as an IPv6 address. -/
def parseV6? (cs : List Char) : Option (BitVec 128) :=
  match leadingV6? cs with
  | some (bits, []) => some bits
  | _ => none

/-- A whole text as an address of either family. -/
def parse? (text : String) : Option Address :=
  match parseV4? text.toList with
  | some bits => some (.v4 bits)
  | none => (parseV6? text.toList).map .v6

/-- The octets of an IPv4 address, first one highest. -/
def octets (bits : BitVec 32) : List Nat :=
  [bits.toNat / 0x1000000, bits.toNat / 0x10000 % 256, bits.toNat / 0x100 % 256, bits.toNat % 256]

/-- The groups of an IPv6 address, first one highest. -/
def groups (bits : BitVec 128) : List Nat :=
  [7, 6, 5, 4, 3, 2, 1, 0].map fun i => bits.toNat / Nat.pow 2 (16 * i) % 65536

/-- Four octets with points between them. -/
def renderV4 (bits : BitVec 32) : String :=
  ".".intercalate ((octets bits).map toString)

/-- Groups in lower-case hexadecimal with colons between them. -/
def renderGroups (groups : List Nat) : String :=
  ":".intercalate (groups.map fun group => String.ofList (Nat.toDigits 16 group))

/-- Where the first longest run of zero groups begins and how long it is, from position `at`. -/
def longestZeros (position : Nat) : List Nat → Nat × Nat
  | [] => (position, 0)
  | group :: rest =>
    let here := ((group :: rest).takeWhile (· == 0)).length
    let later := longestZeros (position + 1) rest
    if here ≥ later.2 then (position, here) else later

/-- The canonical form of an IPv6 address: the longest run of at least two zero groups is written
as a double colon, and an address that stands for an IPv4 address shows it dotted. -/
def renderV6 (bits : BitVec 128) : String :=
  if bits.toNat / 0x100000000 == 0xFFFF then
    "::ffff:" ++ renderV4 (BitVec.ofNat 32 bits.toNat)
  else
    let all := groups bits
    let (start, length) := longestZeros 0 all
    if length > 1 then
      renderGroups (all.take start) ++ "::" ++ renderGroups (all.drop (start + length))
    else renderGroups all

/-- An address as bytes. -/
def bytes : Address → Bytes
  | .v4 bits => .ofNat 4 bits.toNat
  | .v6 bits => .ofNat 16 bits.toNat

/-- The canonical text of an address. -/
def render : Address → String
  | .v4 bits => renderV4 bits
  | .v6 bits => renderV6 bits

end Address

/-- An address together with a port. -/
structure SocketAddress where
  address : Address
  port : Nat
  deriving Repr, DecidableEq

namespace SocketAddress

/-- A port that fills the rest of a text. -/
def port? (cs : List Char) : Option Nat :=
  match leadingNat? 10 cs.length 65536 true cs with
  | some (port, []) => some port
  | _ => none

/-- The text after the zone of an IPv6 address, if one is given: a percent sign and a number. -/
def skipZone (cs : List Char) : List Char :=
  match cs with
  | '%' :: rest =>
    match leadingNat? 10 rest.length 0x100000000 true rest with
    | some (_, rest) => rest
    | none => cs
  | cs => cs

/-- A whole text as an address with a port. -/
def parse? (text : String) : Option SocketAddress := do
  match text.toList with
  | '[' :: cs =>
    let (bits, cs) ← Address.leadingV6? cs
    let ']' :: ':' :: cs := skipZone cs | none
    return ⟨.v6 bits, ← port? cs⟩
  | cs =>
    let (bits, cs) ← Address.leadingV4? cs
    let ':' :: cs := cs | none
    return ⟨.v4 bits, ← port? cs⟩

end SocketAddress

end EdgeFleet.Net
