import EdgeFleet.Proofs.Net.Address

/-!
# Addresses read back

An address is read back from the text that is written for it (`Address.parse_render`), and an IPv4
address has no other text (`leading_v4_iff`). A text may go on after an address, as in an address
with a port, so that the lemmas say where reading stops. `SocketAddress.Spells` says what the texts
of addresses with a port are; `SocketAddress.parse_of_address` keeps them apart from addresses.
-/

namespace EdgeFleet.Net

open Text

namespace Address

variable {cs rest : List Char}

/-! ### IPv4 -/

/-- An octet is what its value is written with in decimal. -/
theorem octet_iff {value : Nat} : octet? cs = some (value, rest) ↔
    value < 256 ∧ cs = Nat.toDigits 10 value ++ rest ∧ NoDigit 10 rest := by
  constructor
  · intro h
    obtain ⟨digits, rfl, -, hrest, -, hform, hdigits, hbound⟩ := leading_nat_iff.1 h
    rw [← eq_to_digits hdigits (hform.resolve_left nofun)]
    exact ⟨hbound, rfl, hrest⟩
  · rintro ⟨hbound, rfl, hrest⟩
    have hwidth : (Nat.toDigits 10 value).length ≤ 3 :=
      (Nat.length_toDigits_le_iff (by decide) (by decide)).2 (by omega)
    exact leading_nat_to_digits (by decide) (by decide) hwidth hbound hrest

/-- An octet and a point behind it. -/
theorem octet_point_iff {value : Nat} : octet? cs = some (value, '.' :: rest) ↔
    value < 256 ∧ cs = Nat.toDigits 10 value ++ '.' :: rest := by
  have hpoint : NoDigit 10 ('.' :: rest) := no_digit_cons (by decide) rest
  rw [octet_iff]
  exact and_congr_right' (and_iff_left hpoint)

/-- Four octets make an address, and are the octets of this address. -/
theorem octets_join {a b c d : Nat} (ha : a < 256) (hb : b < 256) (hc : c < 256) (hd : d < 256) :
    octets (BitVec.ofNat 32 (joinParts 8 [a, b, c, d])) = [a, b, c, d] := by
  simp only [octets, joinParts, List.foldl, BitVec.toNat_ofNat, Nat.pow_eq, List.cons.injEq,
    and_true]
  omega

/-- The octets of an address make this address. -/
theorem join_octets (bits : BitVec 32) :
    BitVec.ofNat 32 (joinParts 8 (octets bits)) = bits := by
  have hbits := bits.isLt
  refine BitVec.eq_of_toNat_eq ?_
  simp only [octets, joinParts, List.foldl, BitVec.toNat_ofNat, Nat.pow_eq]
  omega

/-- An address is written as its octets with points between them. -/
theorem render_v4_eq {bits : BitVec 32} {a b c d : Nat} (h : octets bits = [a, b, c, d])
    (rest : List Char) :
    (renderV4 bits).toList ++ rest =
      Nat.toDigits 10 a ++ '.' :: (Nat.toDigits 10 b ++ '.' :: (Nat.toDigits 10 c ++
        '.' :: (Nat.toDigits 10 d ++ rest))) := by
  have hpoint : ".".toList = ['.'] := rfl
  simp [renderV4, h, hpoint]

/-- An IPv4 address is read from what is written for it and from no other text, up to what does not
go on with it. -/
theorem leading_v4_iff {bits : BitVec 32} : leadingV4? cs = some (bits, rest) ↔
    cs = (renderV4 bits).toList ++ rest ∧ NoDigit 10 rest := by
  constructor
  · intro h
    unfold leadingV4? at h
    obtain ⟨⟨a, afterA⟩, ha, h⟩ := Option.bind_eq_some_iff.1 h
    dsimp only at h
    split at h
    case h_2 => cases h
    obtain ⟨⟨b, afterB⟩, hb, h⟩ := Option.bind_eq_some_iff.1 h
    dsimp only at h
    split at h
    case h_2 => cases h
    obtain ⟨⟨c, afterC⟩, hc, h⟩ := Option.bind_eq_some_iff.1 h
    dsimp only at h
    split at h
    case h_2 => cases h
    obtain ⟨⟨d, afterD⟩, hd, h⟩ := Option.bind_eq_some_iff.1 h
    obtain ⟨rfl, rfl⟩ := Prod.mk.inj (Option.some.inj h)
    obtain ⟨hfirst, rfl⟩ := octet_point_iff.1 ha
    obtain ⟨hsecond, rfl⟩ := octet_point_iff.1 hb
    obtain ⟨hthird, rfl⟩ := octet_point_iff.1 hc
    obtain ⟨hfourth, rfl, hrest⟩ := octet_iff.1 hd
    exact ⟨(render_v4_eq (octets_join hfirst hsecond hthird hfourth) afterD).symm, hrest⟩
  · rintro ⟨htext, hrest⟩
    have hbits := bits.isLt
    have hoctet {value : Nat} (hvalue : value < 256) (more : List Char) :
        octet? (Nat.toDigits 10 value ++ '.' :: more) = some (value, '.' :: more) :=
      octet_point_iff.2 ⟨hvalue, rfl⟩
    have ha : bits.toNat / 0x1000000 < 256 := by omega
    have hb : bits.toNat / 0x10000 % 256 < 256 := by omega
    have hc : bits.toNat / 0x100 % 256 < 256 := by omega
    have hd : octet? (Nat.toDigits 10 (bits.toNat % 256) ++ rest) =
        some (bits.toNat % 256, rest) := octet_iff.2 ⟨by omega, rfl, hrest⟩
    rw [htext, render_v4_eq rfl rest]
    simp only [leadingV4?, hoctet ha, hoctet hb, hoctet hc, hd, Option.bind_eq_bind,
      Option.bind_some]
    exact congrArg (fun joined => some (joined, rest)) (join_octets bits)

/-! ### Groups -/

/-- Groups with a colon before each of them but the first. -/
def spelled (first : Bool) : List Nat → List Char
  | [] => []
  | group :: groups =>
    (if first then [] else [':']) ++ Nat.toDigits 16 group ++ spelled false groups

/-- That is how groups are written. -/
theorem render_groups_eq (groups : List Nat) :
    (renderGroups groups).toList = spelled true groups := by
  have hall (first : Nat) (more : List Nat) : (renderGroups (first :: more)).toList =
      Nat.toDigits 16 first ++ spelled false more := by
    induction more generalizing first with
    | nil => simp [renderGroups, spelled]
    | cons second others ih =>
        have hcolon : ":".toList = [':'] := rfl
        simp only [renderGroups, List.map_cons, String.toList_intercalate, hcolon,
          List.intercalate_cons_cons, String.toList_ofList] at ih ⊢
        rw [ih second]
        simp [spelled]
  cases groups with
  | nil => rfl
  | cons first more => rw [hall, spelled, if_pos rfl, List.nil_append]

/-- Whether no group can be read on at the head of a text, and the group before it, if there is one,
is not the first octet of a dotted address. -/
structure Stops (cs : List Char) : Prop where
  no_digit : NoDigit 16 cs
  no_point : cs.head? ≠ some '.'
  no_next : ∀ more, cs = ':' :: more → NoDigit 16 more

theorem stops_nil : Stops [] :=
  ⟨no_digit_nil 16, nofun, nofun⟩

theorem stops_mark {c : Char} (hdigit : ¬ IsDigit 16 c) (hpoint : c ≠ '.') (hcolon : c ≠ ':')
    (cs : List Char) : Stops (c :: cs) where
  no_digit := no_digit_cons hdigit cs
  no_point := by simpa using hpoint
  no_next := by
    rintro _ ⟨⟩
    exact absurd rfl hcolon

theorem stops_colons (cs : List Char) : Stops (':' :: ':' :: cs) where
  no_digit := no_digit_cons (by decide) _
  no_point := by simp
  no_next := by
    rintro _ ⟨⟩
    exact no_digit_cons (by decide) cs

/-- A dotted address begins with a digit. -/
theorem leading_v4_none (h : NoDigit 10 cs) : leadingV4? cs = none := by
  rw [leadingV4?, octet?, leading_nat_none h]
  rfl

/-- A group is no dotted address unless a point follows it. -/
theorem leading_v4_of_group {group : Nat} (hrest : NoDigit 16 rest)
    (hpoint : rest.head? ≠ some '.') : leadingV4? (Nat.toDigits 16 group ++ rest) = none := by
  rw [Option.eq_none_iff_forall_not_mem]
  rintro ⟨bits, after⟩ hread
  obtain ⟨htext, -⟩ := leading_v4_iff.1 hread
  rw [render_v4_eq rfl] at htext
  -- Both sides begin with digits, and with as many of them.
  have hgroup : spanDigits 16 (Nat.toDigits 16 group ++ rest) = (Nat.toDigits 16 group, rest) :=
    span_digits_iff.2 ⟨rfl, is_digit_to_digits (by decide) (by decide) group, hrest⟩
  have hfirst : ∀ c ∈ Nat.toDigits 10 (bits.toNat / 0x1000000), IsDigit 16 c := fun c hc =>
    (is_digit_to_digits (by decide) (by decide) _ c hc).mono (by decide)
  have hparts := hgroup.symm.trans
    (span_digits_iff.2 ⟨htext, hfirst, no_digit_cons (by decide) _⟩)
  exact hpoint (congrArg List.head? (congrArg Prod.snd hparts))

/-- A colon before every group but the first. -/
def colonBefore (read : List Nat) : List Char :=
  if read.isEmpty then [] else [':']

theorem after_colon_before (read : List Nat) (cs : List Char) :
    afterColon? read.isEmpty (colonBefore read ++ cs) = some cs := by
  cases read <;> rfl

/-- One more group is read, if there is room for it. -/
theorem leading_groups_group (room : Nat) (read : List Nat) {group : Nat} (hgroup : group < 65536)
    (hrest : NoDigit 16 rest) (hpoint : rest.head? ≠ some '.') :
    leadingGroups (room + 1) read (colonBefore read ++ (Nat.toDigits 16 group ++ rest)) =
      leadingGroups room (group :: read) rest := by
  have hwidth : (Nat.toDigits 16 group).length ≤ 4 :=
    (Nat.length_toDigits_le_iff (by decide) (by decide)).2 hgroup
  have hread : leadingNat? 16 4 65536 true (Nat.toDigits 16 group ++ rest) = some (group, rest) :=
    leading_nat_to_digits (by decide) (by decide) hwidth hgroup hrest
  have hdotted : (if room == 0 then none else leadingV4? (Nat.toDigits 16 group ++ rest)) =
      none := by
    rw [leading_v4_of_group hrest hpoint, ite_self]
  simp only [leadingGroups, after_colon_before, hdotted, hread]

/-- The last two groups are read from a dotted address, if there is room for them. -/
theorem leading_groups_dotted {room : Nat} {read : List Nat} {bits : BitVec 32} {text : List Char}
    (htext : leadingV4? text = some (bits, rest)) :
    leadingGroups (room + 2) read (colonBefore read ++ text) =
      ⟨read.reverse ++ [bits.toNat / 65536, bits.toNat % 65536], true, rest⟩ := by
  have hroom : (room + 1 == 0) = false := rfl
  simp only [leadingGroups, after_colon_before, hroom, htext, Bool.false_eq_true, if_false]

/-- No group is read where reading stops. -/
theorem leading_groups_stop (room : Nat) (read : List Nat) (h : Stops rest) :
    leadingGroups room read rest = ⟨read.reverse, false, rest⟩ := by
  cases room with
  | zero => rfl
  | succ room =>
      -- A colon before a group leads to no group either.
      have hnone {text : List Char} (htext : afterColon? read.isEmpty rest = some text) :
          NoDigit 16 text := by
        unfold afterColon? at htext
        split at htext
        · exact Option.some.inj htext ▸ h.no_digit
        · split at htext
          · exact Option.some.inj htext ▸ h.no_next _ rfl
          · cases htext
      unfold leadingGroups
      split
      · rfl
      · rename_i text htext
        have htext := hnone htext
        rw [leading_v4_none (htext.anti (by decide)), ite_self, leading_nat_none htext]

/-- Groups are read back, up to where reading stops. -/
theorem leading_groups_spelled {room : Nat} {read groups : List Nat}
    (hroom : groups.length ≤ room) (hgroups : ∀ group ∈ groups, group < 65536)
    (hrest : Stops rest) :
    leadingGroups room read (spelled read.isEmpty groups ++ rest) =
      ⟨read.reverse ++ groups, false, rest⟩ := by
  induction groups generalizing room read with
  | nil => rw [spelled, List.nil_append, List.append_nil, leading_groups_stop room read hrest]
  | cons group more ih =>
      obtain ⟨room, rfl⟩ : ∃ left, room = left + 1 :=
        Nat.exists_eq_add_one.2 (Nat.lt_of_lt_of_le (Nat.succ_pos _) hroom)
      obtain ⟨hgroup, hmore⟩ := List.forall_mem_cons.1 hgroups
      -- What follows the group is the colon of the next one, or where reading stops.
      have hnext : NoDigit 16 (spelled false more ++ rest) ∧
          (spelled false more ++ rest).head? ≠ some '.' := by
        cases more with
        | nil => exact ⟨hrest.no_digit, hrest.no_point⟩
        | cons next others => exact ⟨no_digit_cons (by decide) _, by simp [spelled]⟩
      have hread := leading_groups_group room read hgroup hnext.1 hnext.2
      have htail := @ih room (group :: read) (Nat.le_of_succ_le_succ hroom) hmore
      rw [spelled, List.append_assoc, List.append_assoc]
      exact hread.trans (by simpa using htail)

/-- No address begins with a bracket. -/
theorem leading_bracket (cs : List Char) :
    leadingV4? ('[' :: cs) = none ∧ leadingV6? ('[' :: cs) = none := by
  have hstops : Stops ('[' :: cs) := stops_mark (by decide) (by decide) (by decide) cs
  refine ⟨leading_v4_none (hstops.no_digit.anti (by decide)), ?_⟩
  simp [leadingV6?, leading_groups_stop 8 [] hstops]

/-! ### IPv6 -/

/-- Where the run of zeros begins that is found in groups, and which groups it lies between. -/
theorem longest_zeros_spec (position : Nat) (all : List Nat) :
    ∃ before after, all = before ++ List.replicate (longestZeros position all).2 0 ++ after ∧
      (longestZeros position all).1 = position + before.length := by
  induction all generalizing position with
  | nil => exact ⟨[], [], rfl, rfl⟩
  | cons group rest ih =>
      unfold longestZeros
      dsimp only
      split
      · -- The run begins here.
        refine ⟨[], (group :: rest).dropWhile (· == 0), ?_, rfl⟩
        have hzeros : (group :: rest).takeWhile (· == 0) =
            List.replicate ((group :: rest).takeWhile (· == 0)).length 0 :=
          List.eq_replicate_of_mem fun n hn => by simpa using List.mem_takeWhile_imp hn
        rw [List.nil_append, ← hzeros, List.takeWhile_append_dropWhile]
      · obtain ⟨before, after, hrest, hstart⟩ := ih (position + 1)
        refine ⟨group :: before, after, congrArg (group :: ·) hrest, ?_⟩
        rw [hstart, List.length_cons]
        omega

/-- The groups of an address make this address. -/
theorem join_groups (bits : BitVec 128) :
    BitVec.ofNat 128 (joinParts 16 (groups bits)) = bits := by
  have hbits := bits.isLt
  refine BitVec.eq_of_toNat_eq ?_
  simp only [groups, joinParts, List.map, List.foldl, BitVec.toNat_ofNat, Nat.pow_eq]
  omega

theorem groups_bound (bits : BitVec 128) : ∀ group ∈ groups bits, group < 65536 := by
  intro group hgroup
  obtain ⟨i, -, rfl⟩ := List.mem_map.1 hgroup
  exact Nat.mod_lt _ (by decide)

/-- An address with a double colon, between the groups `before` and `after`. -/
theorem leading_v6_double {text : List Char} {before after : List Nat} {zeros : Nat}
    {dotted : Bool} (hlength : before.length + (zeros + 1) + after.length = 8)
    (hhead : leadingGroups 8 [] cs = ⟨before, false, ':' :: ':' :: text⟩)
    (htail : leadingGroups (7 - before.length) [] text = ⟨after, dotted, rest⟩) :
    leadingV6? cs = some (BitVec.ofNat 128 (joinParts 16
      (before ++ List.replicate (zeros + 1) 0 ++ after)), rest) := by
  have height : (before.length == 8) = false := beq_false_of_ne (by omega)
  have hzeros : 8 - before.length - after.length = zeros + 1 := by omega
  simp only [leadingV6?, hhead, htail, height, hzeros, Bool.false_eq_true, if_false]

/-- The groups that are read from a dotted address behind one group, with zeros before it. -/
theorem leading_v6_dotted {group : Nat} {bits : BitVec 32} {text : List Char}
    (hgroup : group < 65536) (htext : leadingV4? text = some (bits, rest)) :
    leadingV6? (':' :: ':' :: (Nat.toDigits 16 group ++ ':' :: text)) =
      some (BitVec.ofNat 128 (joinParts 16 ([] ++ List.replicate (4 + 1) 0 ++
        [group, bits.toNat / 65536, bits.toNat % 65536])), rest) := by
  have hcolon : NoDigit 16 (':' :: text) := no_digit_cons (by decide) text
  have hhead := leading_groups_stop 8 [] (stops_colons (Nat.toDigits 16 group ++ ':' :: text))
  have hfirst : leadingGroups 7 [] (Nat.toDigits 16 group ++ ':' :: text) =
      leadingGroups 6 [group] (':' :: text) := leading_groups_group 6 [] hgroup hcolon (by simp)
  have hdotted : leadingGroups 6 [group] (':' :: text) =
      ⟨[group, bits.toNat / 65536, bits.toNat % 65536], true, rest⟩ := leading_groups_dotted htext
  exact leading_v6_double rfl hhead (hfirst.trans hdotted)

/-- The mark of addresses that stand for IPv4 addresses ends in a group. -/
theorem mapped_eq (text : List Char) :
    "::ffff:".toList ++ text = ':' :: ':' :: (Nat.toDigits 16 0xFFFF ++ ':' :: text) :=
  rfl

/-- The groups of an address that stands for an IPv4 address. -/
theorem join_mapped {bits : BitVec 128} (h : bits.toNat / 0x100000000 = 0xFFFF) {low : BitVec 32}
    (hlow : low.toNat = bits.toNat % 0x100000000) :
    BitVec.ofNat 128 (joinParts 16 ([] ++ List.replicate (4 + 1) 0 ++
      [0xFFFF, low.toNat / 65536, low.toNat % 65536])) = bits := by
  refine BitVec.eq_of_toNat_eq ?_
  simp only [joinParts, List.replicate, List.nil_append, List.cons_append, List.foldl,
    BitVec.toNat_ofNat, Nat.pow_eq]
  omega

/-- An IPv6 address is read back from the text that is written for it, up to where reading stops. -/
theorem leading_v6_render (bits : BitVec 128) (hrest : Stops rest) :
    leadingV6? ((renderV6 bits).toList ++ rest) = some (bits, rest) := by
  unfold renderV6
  dsimp only
  split
  · rename_i hmapped
    rw [String.toList_append, List.append_assoc]
    have htext : leadingV4? ((renderV4 (BitVec.ofNat 32 bits.toNat)).toList ++ rest) =
        some (BitVec.ofNat 32 bits.toNat, rest) :=
      leading_v4_iff.2 ⟨rfl, hrest.no_digit.anti (by decide)⟩
    have hread := leading_v6_dotted (by decide : 0xFFFF < 65536) htext
    rw [mapped_eq, hread, join_mapped (eq_of_beq hmapped) (BitVec.toNat_ofNat ..)]
  · obtain ⟨before, after, hall, hstart⟩ := longest_zeros_spec 0 (groups bits)
    have hbound := groups_bound bits
    have hjoin := join_groups bits
    have hlength : (groups bits).length = 8 := rfl
    generalize longestZeros 0 (groups bits) = run at hall hstart ⊢
    generalize groups bits = all at hall hbound hjoin hlength ⊢
    obtain ⟨start, zeros⟩ := run
    obtain rfl : start = before.length := by simpa using hstart
    dsimp only at hall ⊢
    split
    · rename_i hzeros
      subst hall
      simp only [List.length_append, List.length_replicate] at hlength
      have htake : (before ++ List.replicate zeros 0 ++ after).take before.length = before := by
        rw [List.append_assoc, List.take_left]
      have hdrop : (before ++ List.replicate zeros 0 ++ after).drop (before.length + zeros) =
          after := List.drop_left' (by simp)
      have hhead : leadingGroups 8 [] (spelled true before ++ ':' :: ':' ::
          (spelled true after ++ rest)) =
          ⟨before, false, ':' :: ':' :: (spelled true after ++ rest)⟩ :=
        leading_groups_spelled (by omega) (fun group hgroup => hbound group (by simp [hgroup]))
          (stops_colons _)
      have htail : leadingGroups (7 - before.length) [] (spelled true after ++ rest) =
          ⟨after, false, rest⟩ :=
        leading_groups_spelled (by omega) (fun group hgroup => hbound group (by simp [hgroup]))
          hrest
      obtain ⟨zeros, rfl⟩ : ∃ more, zeros = more + 1 := ⟨zeros - 1, by omega⟩
      have hread := leading_v6_double hlength hhead htail
      have hcolons : "::".toList = [':', ':'] := rfl
      rw [htake, hdrop, String.toList_append, String.toList_append, render_groups_eq,
        render_groups_eq, hcolons, List.append_assoc, List.append_assoc]
      exact hread.trans (congrArg (fun read => some (read, rest)) hjoin)
    · have hread : leadingGroups 8 [] (spelled true all ++ rest) = ⟨all, false, rest⟩ :=
        leading_groups_spelled (Nat.le_of_eq hlength) hbound hrest
      rw [render_groups_eq]
      simp only [leadingV6?, hread, hlength, beq_self_eq_true, if_true, hjoin]

/-- An address is read back from the text that is written for it. -/
theorem parse_render (address : Address) : parse? address.render = some address := by
  rw [parse_iff]
  cases address with
  | v4 bits =>
      exact .inl ⟨bits, rfl, leading_v4_iff.2 ⟨(List.append_nil _).symm, no_digit_nil 10⟩⟩
  | v6 bits =>
      have hread := leading_v6_render bits stops_nil
      rw [List.append_nil] at hread
      exact .inr ⟨bits, rfl, hread⟩

/-! ### Colons -/

/-- An IPv4 address has no colon. -/
theorem colon_render_v4 (bits : BitVec 32) : ':' ∉ (renderV4 bits).toList := by
  have hdigits (n : Nat) : ':' ∉ Nat.toDigits 10 n := fun hmem =>
    absurd (is_digit_to_digits (by decide) (by decide) n _ hmem) (by decide)
  have htext := render_v4_eq (rfl : octets bits = [_, _, _, _]) []
  rw [List.append_nil] at htext
  rw [htext]
  simp [hdigits]

/-- What is left of a text has no more colons than the text. -/
theorem colons_le (h : Reads cs rest) : rest.count ':' ≤ cs.count ':' := by
  obtain ⟨read, rfl, -⟩ := h
  rw [List.count_append]
  exact Nat.le_add_left _ _

/-- Before every group but the first a colon is taken. -/
theorem after_colon_colons {first : Bool} {text : List Char}
    (h : afterColon? first cs = some text) :
    text.count ':' + (if first then 0 else 1) = cs.count ':' := by
  unfold afterColon? at h
  split at h
  · rw [Option.some.inj h, if_pos ‹_›, Nat.add_zero]
  · split at h
    · rw [Option.some.inj h, if_neg ‹_›, List.count_cons_self]
    · cases h

/-- No more values are read than colons are taken, but for the first group, which has no colon
before it, and for a dotted address, which gives two values. -/
theorem leading_groups_colons (room : Nat) (read : List Nat) (cs : List Char) :
    (leadingGroups room read cs).values.length + (leadingGroups room read cs).rest.count ':' +
      (if read.isEmpty then 0 else 1) ≤ read.length + cs.count ':' + 2 := by
  have hstop : read.reverse.length + cs.count ':' + (if read.isEmpty then 0 else 1) ≤
      read.length + cs.count ':' + 2 := by
    rw [List.length_reverse]
    split <;> omega
  induction room generalizing read cs with
  | zero => exact hstop
  | succ room ih =>
      unfold leadingGroups
      split
      · exact hstop
      · rename_i text hcolon
        have hcolons := after_colon_colons hcolon
        split
        · rename_i bits rest hdotted
          split at hdotted
          · cases hdotted
          · have hle := colons_le (leading_v4_reads hdotted)
            simp only [List.length_append, List.length_reverse, List.length_cons, List.length_nil]
            omega
        · split
          · rename_i group rest hgroup
            have hle := colons_le (Reads.of_leading_nat (by decide) hgroup)
            have hrest := ih (group :: read) rest (by simp)
            simp only [List.isEmpty_cons, Bool.false_eq_true, if_false, List.length_cons] at hrest
            omega
          · exact hstop

/-- An IPv6 address has at least two colons. -/
theorem leading_v6_colons {bits : BitVec 128} (h : leadingV6? cs = some (bits, rest)) :
    rest.count ':' + 2 ≤ cs.count ':' := by
  have hhead := leading_groups_colons 8 [] cs
  unfold leadingV6? at h
  dsimp only at h hhead
  split at h
  · rename_i height
    obtain rfl := congrArg Prod.snd (Option.some.inj h)
    rw [eq_of_beq height] at hhead
    dsimp only [List.length_nil, List.isEmpty_nil] at hhead ⊢
    omega
  · split at h
    · cases h
    · split at h
      · rename_i after hcolons
        obtain rfl := congrArg Prod.snd (Option.some.inj h)
        have hle := colons_le (leading_groups_reads 8 [] cs)
        rw [hcolons, List.count_cons_self, List.count_cons_self] at hle
        exact (Nat.add_le_add_right (colons_le (leading_groups_reads _ [] after)) 2).trans hle
      · cases h

end Address

namespace SocketAddress

/-- The text of an address with a port: an IPv6 address stands in brackets. -/
def render (socket : SocketAddress) : String :=
  match socket.address with
  | .v4 bits => Address.renderV4 bits ++ ":" ++ toString socket.port
  | .v6 bits => "[" ++ Address.renderV6 bits ++ "]:" ++ toString socket.port

/-- The texts of addresses with a port. -/
inductive Spells : List Char → SocketAddress → Prop
  | v4 {bits : BitVec 32} {portText : List Char} {port : Nat} (hport : port? portText = some port) :
      Spells ((Address.renderV4 bits).toList ++ ':' :: portText) ⟨.v4 bits, port⟩
  | v6 {bits : BitVec 128} {cs after portText : List Char} {port : Nat}
      (haddress : Address.leadingV6? cs = some (bits, after))
      (hzone : skipZone after = ']' :: ':' :: portText) (hport : port? portText = some port) :
      Spells ('[' :: cs) ⟨.v6 bits, port⟩

/-- An address with a port has a colon, and with one colon it is an IPv4 address. -/
theorem Spells.colons {cs : List Char} {socket : SocketAddress} (h : Spells cs socket) :
    ':' ∈ cs ∧ (cs.count ':' = 1 → ∃ bits portText, socket.address = .v4 bits ∧
      cs = (Address.renderV4 bits).toList ++ ':' :: portText) := by
  cases h with
  | @v4 bits portText port hport =>
      exact ⟨List.mem_append_right _ List.mem_cons_self, fun _ => ⟨bits, portText, rfl, rfl⟩⟩
  | @v6 bits cs after portText port haddress hzone hport =>
      have hcolons := Address.leading_v6_colons haddress
      refine ⟨List.mem_cons_of_mem _ (List.count_pos_iff.1 (by omega)), fun hone => ?_⟩
      rw [List.count_cons_of_ne (by decide)] at hone
      omega

theorem parse_iff {text : String} {socket : SocketAddress} :
    parse? text = some socket ↔ Spells text.toList socket := by
  unfold parse?
  constructor
  · intro h
    split at h
    · rename_i cs htext
      obtain ⟨⟨bits, after⟩, haddress, h⟩ := Option.bind_eq_some_iff.1 h
      dsimp only at h
      split at h
      case h_2 => cases h
      rename_i portText hzone
      obtain ⟨port, hport, h⟩ := Option.bind_eq_some_iff.1 h
      obtain rfl := Option.some.inj h
      rw [htext]
      exact .v6 haddress hzone hport
    · obtain ⟨⟨bits, after⟩, haddress, h⟩ := Option.bind_eq_some_iff.1 h
      dsimp only at h
      split at h
      case h_2 => cases h
      rename_i portText
      obtain ⟨port, hport, h⟩ := Option.bind_eq_some_iff.1 h
      obtain rfl := Option.some.inj h
      rw [(Address.leading_v4_iff.1 haddress).1]
      exact .v4 hport
  · intro h
    generalize text.toList = cs at h
    cases h with
    | v6 haddress hzone hport => simp [haddress, hzone, hport]
    | @v4 bits portText port hport =>
        have haddress : Address.leadingV4? ((Address.renderV4 bits).toList ++ ':' :: portText) =
            some (bits, ':' :: portText) :=
          Address.leading_v4_iff.2 ⟨rfl, no_digit_cons (by decide) portText⟩
        generalize (Address.renderV4 bits).toList ++ ':' :: portText = cs at haddress
        -- A dotted address does not begin with a bracket.
        split
        · rw [Address.leading_v4_none (no_digit_cons (by decide) _)] at haddress
          cases haddress
        · simp [haddress, hport]

/-- A port is read from what is written for it. -/
theorem port_to_digits {port : Nat} (h : port < 65536) :
    port? (toString port).toList = some port := by
  have hread : leadingNat? 10 (Nat.toDigits 10 port).length 65536 true
      (Nat.toDigits 10 port ++ []) = some (port, []) :=
    leading_nat_to_digits (by decide) (by decide) (Nat.le_refl _) h (no_digit_nil 10)
  rw [List.append_nil] at hread
  unfold port?
  rw [Nat.toString_eq_ofList_toDigits, String.toList_ofList, hread]

/-- An address with a port is read back from the text that is written for it. -/
theorem parse_render {socket : SocketAddress} (h : socket.port < 65536) :
    parse? socket.render = some socket := by
  obtain ⟨address, port⟩ := socket
  have hport := port_to_digits h
  have hcolon : ":".toList = [':'] := rfl
  have hclose : "]:".toList = [']', ':'] := rfl
  have hopen : "[".toList = ['['] := rfl
  rw [parse_iff]
  cases address with
  | v4 bits =>
      simp only [render, String.toList_append, hcolon, List.append_assoc, List.singleton_append]
      exact .v4 hport
  | v6 bits =>
      simp only [render, String.toList_append, hopen, hclose, List.append_assoc, List.cons_append,
        List.nil_append]
      have hclosed := Address.stops_mark (c := ']') (by decide) (by decide) (by decide)
        (':' :: (toString port).toList)
      exact .v6 (Address.leading_v6_render bits hclosed) rfl hport

/-- An address is no address with a port. -/
theorem parse_of_address {text : String} {address : Address}
    (h : Address.parse? text = some address) : parse? text = none := by
  rw [Option.eq_none_iff_forall_ne_some]
  intro socket hsocket
  have hspells := parse_iff.1 hsocket
  rw [Address.parse_iff] at h
  generalize text.toList = cs at h hspells
  have hmore : Address.leadingV4? cs = none ∧ Address.leadingV6? cs = none ∨
      ∃ bits portText, Address.leadingV4? cs = some (bits, ':' :: portText) := by
    cases hspells with
    | v6 => exact .inl (Address.leading_bracket _)
    | v4 => exact .inr ⟨_, _, Address.leading_v4_iff.2 ⟨rfl, no_digit_cons (by decide) _⟩⟩
  obtain ⟨hv4, hv6⟩ | ⟨bits, portText, hv4⟩ := hmore
  · simp [hv4, hv6] at h
  · simp [hv4, Address.leading_v6_of_v4 hv4] at h

end SocketAddress

end EdgeFleet.Net
