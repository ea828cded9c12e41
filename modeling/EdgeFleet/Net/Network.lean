import EdgeFleet.Net.Address

/-!
# Networks

A network is the set of addresses that share their first bits: a base address and the number of
bits that count. `Network.parse?` reads `address/length`, where an IPv4 network may also give a
mask of that many ones, and clears the bits of the base that do not count.
-/

namespace EdgeFleet.Net

open Text

/-- The first address of the block of `2 ^ (w - length)` addresses around `bits`. -/
def firstOfBlock {w : Nat} (length : Nat) (bits : BitVec w) : BitVec w :=
  (bits >>> (w - length)) <<< (w - length)

/-- A set of addresses of one family that agree on their first `length` bits. -/
inductive Network where
  | v4 (base : BitVec 32) (length : Nat)
  | v6 (base : BitVec 128) (length : Nat)
  deriving Repr, DecidableEq

namespace Network

/-- The number of leading bits that all addresses of the network share. -/
def length : Network → Nat
  | .v4 _ length => length
  | .v6 _ length => length

/-- The base of the network, as an address. -/
def base : Network → Address
  | .v4 base _ => .v4 base
  | .v6 base _ => .v6 base

/-- Whether an address agrees with the base on the bits that count. -/
def contains : Network → Address → Bool
  | .v4 base length, .v4 bits => base >>> (32 - length) == bits >>> (32 - length)
  | .v6 base length, .v6 bits => base >>> (128 - length) == bits >>> (128 - length)
  | _, _ => false

/-- A number of leading bits, at most `width`. -/
def length? (width : Nat) (cs : List Char) : Option Nat :=
  (natBelow? 256 cs).filter (· ≤ width)

/-- The number of ones in a mask that has only zeros after them. -/
def maskLength? (mask : BitVec 32) : Option Nat :=
  (List.range 33).find? fun length => firstOfBlock length (BitVec.allOnes 32) == mask

/-- The length of an IPv4 network, given as a number or as a mask. -/
def lengthV4? (cs : List Char) : Option Nat :=
  match Address.parseV4? cs with
  | some mask => maskLength? mask
  | none => length? 32 cs

/-- A whole text as a network, with the base set to its first address. -/
def parse? (text : String) : Option Network :=
  let (address, rest) := text.toList.span (· != '/')
  match rest with
  | '/' :: length =>
    match Address.parseV4? address, lengthV4? length with
    | some bits, some length => some (.v4 (firstOfBlock length bits) length)
    | _, _ =>
      match Address.parseV6? address, length? 128 length with
      | some bits, some length => some (.v6 (firstOfBlock length bits) length)
      | _, _ => none
  | _ => none

end Network

end EdgeFleet.Net
