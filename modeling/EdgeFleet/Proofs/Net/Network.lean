import EdgeFleet.Net.Network
import EdgeFleet.Proofs.Net.Address
import Mathlib.Data.Set.Lattice
import Mathlib.Order.CompletePartialOrder

/-!
# Networks as sets of addresses

`Network.addresses` is the set of the addresses that have the first bits of a network. Read
`Network.ssubset_iff` first: whether a network is a proper part of another one is decided by its
base and by the numbers of bits that count. `Network.Names` says what a text means, and
`Names.parse` and `exists_names` that it is read as this.
-/

namespace EdgeFleet.Net

/-! ### First bits -/

/-- Whether two addresses of `w` bits have the same first `length` bits. -/
def SamePrefix {w : Nat} (length : Nat) (one other : BitVec w) : Prop :=
  ∀ i < length, one.getMsbD i = other.getMsbD i

namespace SamePrefix

variable {w length : Nat} {one other last : BitVec w}

theorem refl (length : Nat) (bits : BitVec w) : SamePrefix length bits bits :=
  fun _ _ => rfl

theorem symm (h : SamePrefix length one other) : SamePrefix length other one :=
  fun i hi => (h i hi).symm

theorem trans (h : SamePrefix length one other) (hlast : SamePrefix length other last) :
    SamePrefix length one last :=
  fun i hi => (h i hi).trans (hlast i hi)

/-- Fewer bits are the same as well. -/
theorem of_le {fewer : Nat} (h : SamePrefix length one other) (hfewer : fewer ≤ length) :
    SamePrefix fewer one other :=
  fun i hi => h i (Nat.lt_of_lt_of_le hi hfewer)

/-- The first bits are what a shift to the right leaves. -/
theorem iff_shift (hlength : length ≤ w) :
    SamePrefix length one other ↔ one >>> (w - length) = other >>> (w - length) := by
  constructor
  · intro h
    refine BitVec.eq_of_getMsbD_eq fun i hi => ?_
    rw [BitVec.getMsbD_ushiftRight, BitVec.getMsbD_ushiftRight]
    by_cases hfirst : i < w - length
    · simp [hfirst]
    · rw [h (i - (w - length)) (by omega)]
  · intro h i hi
    have hbit := congrArg (BitVec.getMsbD · (i + (w - length))) h
    have hwidth : i + (w - length) < w := by omega
    have hfirst : ¬ i + (w - length) < w - length := by omega
    simpa [BitVec.getMsbD_ushiftRight, hwidth, hfirst] using hbit

/-- Clearing the bits behind them leaves the first bits as they are. -/
theorem first_of_block (hlength : length ≤ w) (bits : BitVec w) :
    SamePrefix length (firstOfBlock length bits) bits := by
  intro i hi
  have hi : i + (w - length) < w := by omega
  simp [firstOfBlock, hi]

/-- The bit behind the first ones may be any. -/
theorem exists_ne (hlength : length < w) (bits : BitVec w) :
    ∃ other, SamePrefix length bits other ∧ other.getMsbD length ≠ bits.getMsbD length := by
  have hlast : w - 1 - length < w := by omega
  have hplace : w - (w - 1 - length) - 1 = length := by omega
  refine ⟨bits ^^^ BitVec.twoPow w (w - 1 - length), fun i hi => ?_, ?_⟩
  · simp [hlast, hplace, hi.ne]
  · simp [hlast, hplace]

end SamePrefix

/-- The addresses of `w` bits that have the same first `length` bits as `bits`. -/
def block {w : Nat} (length : Nat) (bits : BitVec w) : Set (BitVec w) :=
  {other | SamePrefix length bits other}

section Block

variable {w length other : Nat} {bits around : BitVec w}

/-- A block is the same around each of its addresses. -/
theorem block_eq (h : SamePrefix length bits around) : block length bits = block length around :=
  Set.ext fun _ => ⟨h.symm.trans, h.trans⟩

/-- Blocks shrink as more bits count. -/
theorem block_anti (hle : other ≤ length) : block length bits ⊆ block other bits :=
  fun _ hin => hin.of_le hle

/-- A block is a proper part of another one exactly if more of its bits count and it is around an
address of the other. -/
theorem block_ssubset_iff (hlength : length ≤ w) :
    block length bits ⊂ block other around ↔ bits ∈ block other around ∧ other < length := by
  constructor
  · rintro ⟨hsubset, hproper⟩
    have haround : bits ∈ block other around := hsubset (.refl length bits)
    refine ⟨haround, Nat.lt_of_not_le fun hle => hproper ?_⟩
    rw [block_eq haround]
    exact block_anti hle
  · rintro ⟨haround, hlt⟩
    rw [block_eq haround]
    refine ⟨block_anti hlt.le, fun hsubset => ?_⟩
    -- An address that differs in the first bit that counts only in the smaller block.
    obtain ⟨apart, hsame, hne⟩ := SamePrefix.exists_ne (Nat.lt_of_lt_of_le hlt hlength) bits
    exact hne (hsubset hsame other hlt).symm

end Block

/-! ### Networks -/

/-- The number of bits of an address, which tells the two families apart. -/
def Address.width : Address → Nat
  | .v4 _ => 32
  | .v6 _ => 128

theorem Address.v4_injective : Function.Injective Address.v4 :=
  fun _ _ => Address.v4.inj

theorem Address.v6_injective : Function.Injective Address.v6 :=
  fun _ _ => Address.v6.inj

namespace Network

/-- The number of bits of the addresses of a network. -/
def width (network : Network) : Nat :=
  network.base.width

/-- The addresses of a network. -/
def addresses : Network → Set Address
  | .v4 base length => Address.v4 '' block length base
  | .v6 base length => Address.v6 '' block length base

/-- A network with the bits of its base cleared that do not count. -/
def masked : Network → Network
  | .v4 base length => .v4 (firstOfBlock length base) length
  | .v6 base length => .v6 (firstOfBlock length base) length

variable {network part whole : Network} {address : Address}

@[simp] theorem width_masked : network.masked.width = network.width := by cases network <;> rfl

@[simp] theorem length_masked : network.masked.length = network.length := by cases network <;> rfl

/-- The bits that do not count make no difference. -/
theorem addresses_masked (h : network.length ≤ network.width) :
    network.masked.addresses = network.addresses := by
  cases network with
  | v4 base length => exact congrArg (Address.v4 '' ·) (block_eq (.first_of_block h base))
  | v6 base length => exact congrArg (Address.v6 '' ·) (block_eq (.first_of_block h base))

/-- A network is not empty. -/
theorem base_mem : network.base ∈ network.addresses := by
  cases network with
  | v4 base length => exact ⟨base, .refl length base, rfl⟩
  | v6 base length => exact ⟨base, .refl length base, rfl⟩

/-- All addresses of a network are of its family. -/
theorem width_of_mem (h : address ∈ network.addresses) : address.width = network.width := by
  cases network <;> obtain ⟨bits, -, rfl⟩ := h <;> rfl

/-- A part of a network is of its family. -/
theorem width_eq_of_subset (h : part.addresses ⊆ whole.addresses) : part.width = whole.width :=
  width_of_mem (h base_mem)

/-- The addresses of a network are those that agree with its base on the bits that count. -/
theorem contains_iff (h : network.length ≤ network.width) :
    network.contains address = true ↔ address ∈ network.addresses := by
  match network, address with
  | .v4 base length, .v4 bits =>
      rw [addresses, Address.v4_injective.mem_set_image]
      exact beq_iff_eq.trans (SamePrefix.iff_shift h).symm
  | .v6 base length, .v6 bits =>
      rw [addresses, Address.v6_injective.mem_set_image]
      exact beq_iff_eq.trans (SamePrefix.iff_shift h).symm
  | .v4 base length, .v6 bits => simp [contains, addresses]
  | .v6 base length, .v4 bits => simp [contains, addresses]

/-- A network is a proper part of another one exactly if its base is in the other and more of its
bits count. -/
theorem ssubset_iff (hpart : part.length ≤ part.width) :
    part.addresses ⊂ whole.addresses ↔
      part.base ∈ whole.addresses ∧ whole.length < part.length := by
  match part, whole with
  | .v4 bits length, .v4 around other =>
      have himage := Address.v4_injective.injOn.image_ssubset_image_iff
        (block length bits).subset_univ (block other around).subset_univ
      exact himage.trans ((block_ssubset_iff hpart).trans
        (and_congr_left' Address.v4_injective.mem_set_image.symm))
  | .v6 bits length, .v6 around other =>
      have himage := Address.v6_injective.injOn.image_ssubset_image_iff
        (block length bits).subset_univ (block other around).subset_univ
      exact himage.trans ((block_ssubset_iff hpart).trans
        (and_congr_left' Address.v6_injective.mem_set_image.symm))
  | .v4 bits length, .v6 around other =>
      have hout : Address.v4 bits ∉ (Network.v6 around other).addresses := by simp [addresses]
      exact ⟨fun h => absurd (h.1 base_mem) hout, fun h => absurd h.1 hout⟩
  | .v6 bits length, .v4 around other =>
      have hout : Address.v6 bits ∉ (Network.v4 around other).addresses := by simp [addresses]
      exact ⟨fun h => absurd (h.1 base_mem) hout, fun h => absurd h.1 hout⟩

end Network

/-! ### Networks in text -/

namespace Network

/-- What a text of the form `address/length` names, with the address as it is written. -/
inductive Names (text : String) : Network → Prop
  | v4 {address length : List Char} {bits : BitVec 32} {count : Nat}
      (htext : text.toList = address ++ '/' :: length)
      (haddress : Address.parseV4? address = some bits)
      (hlength : lengthV4? length = some count) : Names text (.v4 bits count)
  | v6 {address length : List Char} {bits : BitVec 128} {count : Nat}
      (htext : text.toList = address ++ '/' :: length)
      (haddress : Address.parseV6? address = some bits)
      (hlength : length? 128 length = some count) : Names text (.v6 bits count)

/-- No address has a slash in it. -/
theorem slash_not_mem {cs : List Char} (h : IsPlain cs) : '/' ∉ cs :=
  fun hslash => absurd (h '/' hslash) (by decide)

theorem Names.has_slash {text : String} {network : Network} (h : Names text network) :
    text.toList.contains '/' = true := by
  cases h with
  | v4 htext => simp [htext]
  | v6 htext => simp [htext]

/-- A text that names a network is read as it, with the bits cleared that do not count. -/
theorem Names.parse {text : String} {network : Network} (h : Names text network) :
    parse? text = some network.masked := by
  cases h with
  | @v4 address length bits count htext haddress hlength =>
      have hplain := (Address.leading_v4_reads (Address.parse_v4_iff.1 haddress)).whole
      rw [parse?, htext, span_mark (slash_not_mem hplain) length]
      simp [haddress, hlength, masked]
  | @v6 address length bits count htext haddress hlength =>
      have hplain := (Address.leading_v6_reads (Address.parse_v6_iff.1 haddress)).whole
      have hother : Address.parseV4? address = none := by
        cases hv4 : Address.parseV4? address with
        | none => rfl
        | some other => cases haddress.symm.trans (Address.parse_v6_of_v4 hv4)
      rw [parse?, htext, span_mark (slash_not_mem hplain) length]
      simp [hother, haddress, hlength, masked]

/-- Nothing else is read. -/
theorem exists_names {text : String} {network : Network} (h : parse? text = some network) :
    ∃ written, Names text written ∧ written.masked = network := by
  have htext := (List.takeWhile_append_dropWhile (p := (· != '/')) (l := text.toList)).symm
  unfold parse? at h
  rw [List.span_eq_takeWhile_dropWhile] at h
  dsimp only at h
  split at h
  case h_2 => cases h
  rename_i length hrest
  rw [hrest] at htext
  split at h
  · rename_i bits count haddress hlength
    exact ⟨.v4 bits count, .v4 htext haddress hlength, Option.some.inj h⟩
  · split at h
    · rename_i bits count haddress hlength
      exact ⟨.v6 bits count, .v6 htext haddress hlength, Option.some.inj h⟩
    · cases h

/-- A mask has no more ones than bits. -/
theorem mask_length_le {mask : BitVec 32} {length : Nat} (h : maskLength? mask = some length) :
    length ≤ 32 := by
  have hrange := List.mem_range.1 (List.mem_of_find?_eq_some h)
  omega

theorem length_le {width length : Nat} {cs : List Char} (h : length? width cs = some length) :
    length ≤ width := by
  simpa using (Option.filter_eq_some_iff.1 h).2

/-- What a text names has no more bits that count than its addresses have. -/
theorem Names.length_le {text : String} {network : Network} (h : Names text network) :
    network.length ≤ network.width := by
  cases h with
  | v4 htext haddress hlength =>
      unfold lengthV4? at hlength
      split at hlength
      · exact mask_length_le hlength
      · exact Network.length_le hlength
  | v6 htext haddress hlength => exact Network.length_le hlength

/-- A text names only networks with the same addresses. -/
theorem Names.addresses_eq {text : String} {network other : Network} (h : Names text network)
    (hother : Names text other) : network.addresses = other.addresses := by
  have hmasked := Option.some.inj (h.parse.symm.trans hother.parse)
  rw [← addresses_masked h.length_le, hmasked, addresses_masked hother.length_le]

end Network

end EdgeFleet.Net
