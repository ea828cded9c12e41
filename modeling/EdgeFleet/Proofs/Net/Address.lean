import EdgeFleet.Net.Address
import EdgeFleet.Proofs.Text.Number

/-!
# The characters of addresses

Whatever is read as an address, or written for one, consists of hexadecimal digits and of a few
marks (`Address.parse_plain`, `SocketAddress.parse_plain`, `Address.render_plain`), so that an
address never holds a character that means something else around it.
-/

namespace EdgeFleet.Net

open Text

/-- Whether a character occurs in addresses, with or without a port. -/
def isAddressChar (c : Char) : Bool :=
  (digitValue? 16 c).isSome || c == '.' || c == ':' || c == '[' || c == ']' || c == '%' || c == '+'

/-- Whether a text consists of characters of addresses. -/
def IsPlain (cs : List Char) : Prop :=
  ∀ c ∈ cs, isAddressChar c = true

instance (cs : List Char) : Decidable (IsPlain cs) :=
  List.decidableBAll (fun c => isAddressChar c = true) cs

theorem IsPlain.append {cs others : List Char} (h : IsPlain cs) (hothers : IsPlain others) :
    IsPlain (cs ++ others) := by
  intro c hc
  rcases List.mem_append.1 hc with hfirst | hsecond
  · exact h c hfirst
  · exact hothers c hsecond

theorem IsPlain.cons {c : Char} {cs : List Char} (hc : isAddressChar c = true) (h : IsPlain cs) :
    IsPlain (c :: cs) :=
  List.forall_mem_cons.2 ⟨hc, h⟩

theorem is_plain_nil : IsPlain [] := nofun

/-- A text is split before the first mark of a kind. -/
theorem span_mark {mark : Char} {cs : List Char} (h : mark ∉ cs) (rest : List Char) :
    (cs ++ mark :: rest).span (· != mark) = (cs, mark :: rest) := by
  have hall : ∀ c ∈ cs, (c != mark) = true := fun c hc =>
    bne_iff_ne.2 fun heq => h (heq ▸ hc)
  rw [List.span_eq_takeWhile_dropWhile, List.takeWhile_append_of_pos hall,
    List.dropWhile_append_of_pos hall]
  simp

/-- Digits are characters of addresses. -/
theorem is_plain_of_digits {radix : Nat} (hradix : radix ≤ 16) {cs : List Char}
    (h : ∀ c ∈ cs, IsDigit radix c) : IsPlain cs := by
  intro c hc
  have hdigit : (digitValue? 16 c).isSome = true := (h c hc).mono hradix
  unfold isAddressChar
  rw [hdigit]
  rfl

/-! ### Reading -/

/-- Whether `rest` is left of a text after characters of addresses. -/
def Reads (cs rest : List Char) : Prop :=
  ∃ read, cs = read ++ rest ∧ IsPlain read

namespace Reads

variable {cs middle rest : List Char}

theorem refl (cs : List Char) : Reads cs cs :=
  ⟨[], rfl, is_plain_nil⟩

theorem trans (h : Reads cs middle) (hrest : Reads middle rest) : Reads cs rest := by
  obtain ⟨first, rfl, hfirst⟩ := h
  obtain ⟨second, rfl, hsecond⟩ := hrest
  exact ⟨first ++ second, (List.append_assoc ..).symm, hfirst.append hsecond⟩

/-- A mark of addresses may be read over. -/
theorem cons {c : Char} (hc : isAddressChar c = true) (h : Reads cs rest) :
    Reads (c :: cs) rest := by
  obtain ⟨read, rfl, hread⟩ := h
  exact ⟨c :: read, rfl, hread.cons hc⟩

/-- A text that is read to its end consists of characters of addresses. -/
theorem whole (h : Reads cs []) : IsPlain cs := by
  obtain ⟨read, rfl, hread⟩ := h
  rw [List.append_nil]
  exact hread

/-- A numeral is read over. -/
theorem of_leading_nat {radix width bound value : Nat} {leadingZero : Bool} (hradix : radix ≤ 16)
    (h : leadingNat? radix width bound leadingZero cs = some (value, rest)) : Reads cs rest := by
  obtain ⟨digits, hcs, hdigits⟩ := leading_nat_reads h
  exact ⟨digits, hcs, is_plain_of_digits hradix hdigits⟩

end Reads

namespace Address

/-- An octet is read over. -/
theorem octet_reads {value : Nat} {cs rest : List Char} (h : octet? cs = some (value, rest)) :
    Reads cs rest :=
  .of_leading_nat (by decide) h

/-- A point behind an octet is read over with it. -/
theorem octet_point_reads {value : Nat} {cs rest : List Char}
    (h : octet? cs = some (value, '.' :: rest)) : Reads cs rest :=
  (octet_reads h).trans (.cons (by decide) (.refl rest))

/-- Four octets are read over. -/
theorem leading_v4_reads {bits : BitVec 32} {cs rest : List Char}
    (h : leadingV4? cs = some (bits, rest)) : Reads cs rest := by
  unfold leadingV4? at h
  obtain ⟨⟨a, afterA⟩, ha, h⟩ := Option.bind_eq_some_iff.1 h
  dsimp only at h
  split at h
  case h_2 => cases h
  obtain ⟨⟨b, afterB⟩, hb, h⟩ := Option.bind_eq_some_iff.1 h
  dsimp only at h
  split at h
  case h_2 => cases h
  obtain ⟨⟨c, afterC⟩, hc, h⟩ := Option.bind_eq_some_iff.1 h
  dsimp only at h
  split at h
  case h_2 => cases h
  obtain ⟨⟨d, afterD⟩, hd, h⟩ := Option.bind_eq_some_iff.1 h
  obtain rfl : afterD = rest := congrArg Prod.snd (Option.some.inj h)
  exact (octet_point_reads ha).trans ((octet_point_reads hb).trans
    ((octet_point_reads hc).trans (octet_reads hd)))

/-- The colon before a group is read over. -/
theorem after_colon_reads {first : Bool} {cs rest : List Char}
    (h : afterColon? first cs = some rest) : Reads cs rest := by
  unfold afterColon? at h
  split at h
  · obtain rfl := Option.some.inj h
    exact .refl cs
  · split at h
    · obtain rfl := Option.some.inj h
      exact .cons (by decide) (.refl _)
    · cases h

/-- So are groups, whatever ends them. -/
theorem leading_groups_reads (room : Nat) (read : List Nat) (cs : List Char) :
    Reads cs (leadingGroups room read cs).rest := by
  induction room generalizing read cs with
  | zero => exact .refl cs
  | succ room ih =>
      unfold leadingGroups
      split
      · exact .refl cs
      · rename_i text hcolon
        have hcolons := after_colon_reads hcolon
        split
        · rename_i bits rest hdotted
          split at hdotted
          · cases hdotted
          · exact hcolons.trans (leading_v4_reads hdotted)
        · split
          · rename_i group rest hgroup
            exact hcolons.trans ((Reads.of_leading_nat (by decide) hgroup).trans (ih _ _))
          · exact .refl cs

/-- An IPv6 address is read over. -/
theorem leading_v6_reads {bits : BitVec 128} {cs rest : List Char}
    (h : leadingV6? cs = some (bits, rest)) : Reads cs rest := by
  have hhead := leading_groups_reads 8 [] cs
  unfold leadingV6? at h
  dsimp only at h
  split at h
  · obtain rfl := congrArg Prod.snd (Option.some.inj h)
    exact hhead
  · split at h
    · cases h
    · split at h
      · rename_i after hcolons
        obtain rfl := congrArg Prod.snd (Option.some.inj h)
        rw [hcolons] at hhead
        have hcolon : isAddressChar ':' = true := by decide
        exact hhead.trans (.cons hcolon (.cons hcolon (leading_groups_reads _ [] after)))
      · cases h

/-! ### Families -/

theorem parse_v4_iff {cs : List Char} {bits : BitVec 32} :
    parseV4? cs = some bits ↔ leadingV4? cs = some (bits, []) := by
  unfold parseV4?
  split <;> simp_all

theorem parse_v6_iff {cs : List Char} {bits : BitVec 128} :
    parseV6? cs = some bits ↔ leadingV6? cs = some (bits, []) := by
  unfold parseV6?
  split <;> simp_all

/-- No text begins with addresses of both families. -/
theorem leading_v6_of_v4 {cs rest : List Char} {bits : BitVec 32}
    (h : leadingV4? cs = some (bits, rest)) : leadingV6? cs = none := by
  have hgroups : leadingGroups 8 [] cs =
      ⟨[bits.toNat / 65536, bits.toNat % 65536], true, rest⟩ := by
    simp [leadingGroups, afterColon?, h]
  simp [leadingV6?, hgroups]

theorem parse_v6_of_v4 {cs : List Char} {bits : BitVec 32} (h : parseV4? cs = some bits) :
    parseV6? cs = none := by
  rw [parseV6?, leading_v6_of_v4 (parse_v4_iff.1 h)]

/-- An address is one of either family, up to the end of the text. -/
theorem parse_iff {text : String} {address : Address} : parse? text = some address ↔
    (∃ bits, address = .v4 bits ∧ leadingV4? text.toList = some (bits, [])) ∨
      ∃ bits, address = .v6 bits ∧ leadingV6? text.toList = some (bits, []) := by
  simp only [← parse_v4_iff, ← parse_v6_iff]
  unfold parse?
  cases hv4 : parseV4? text.toList with
  | some bits => simp [parse_v6_of_v4 hv4, eq_comm]
  | none => simp [and_comm, eq_comm (a := address)]

/-- A text that is an address consists of characters of addresses. -/
theorem parse_plain {text : String} {address : Address} (h : parse? text = some address) :
    IsPlain text.toList := by
  obtain ⟨bits, -, hread⟩ | ⟨bits, -, hread⟩ := parse_iff.1 h
  · exact (leading_v4_reads hread).whole
  · exact (leading_v6_reads hread).whole

/-! ### Writing -/

/-- The digits of a number are plain. -/
theorem to_digits_plain {radix : Nat} (hlow : 1 < radix) (hhigh : radix ≤ 16) (n : Nat) :
    IsPlain (Nat.toDigits radix n) := by
  have hall : ∀ value < 16, isAddressChar (Nat.digitChar value) = true := by decide +kernel
  intro c hc
  obtain ⟨value, hvalue, rfl⟩ := mem_to_digits hlow hc
  exact hall value (Nat.lt_of_lt_of_le hvalue hhigh)

/-- Plain texts with a plain text between them make a plain text. -/
theorem intercalate_plain {separator : String} {texts : List String}
    (hseparator : IsPlain separator.toList) (h : ∀ text ∈ texts, IsPlain text.toList) :
    IsPlain (separator.intercalate texts).toList := by
  rw [String.toList_intercalate]
  induction texts with
  | nil => exact is_plain_nil
  | cons first rest ih =>
      have hfirst := h first List.mem_cons_self
      have hrest := ih fun text htext => h text (List.mem_cons_of_mem _ htext)
      cases rest with
      | nil => simpa using hfirst
      | cons second others =>
          rw [List.map_cons, List.map_cons, List.intercalate_cons_cons]
          exact (hfirst.append hseparator).append hrest

/-- Four octets are written plainly. -/
theorem render_v4_plain (bits : BitVec 32) : IsPlain (renderV4 bits).toList := by
  refine intercalate_plain (.cons (by decide) is_plain_nil) fun text htext => ?_
  obtain ⟨octet, -, rfl⟩ := List.mem_map.1 htext
  rw [Nat.toString_eq_ofList_toDigits, String.toList_ofList]
  exact to_digits_plain (by decide) (by decide) octet

/-- So are groups. -/
theorem render_groups_plain (groups : List Nat) : IsPlain (renderGroups groups).toList := by
  refine intercalate_plain (.cons (by decide) is_plain_nil) fun text htext => ?_
  obtain ⟨group, -, rfl⟩ := List.mem_map.1 htext
  rw [String.toList_ofList]
  exact to_digits_plain (by decide) (by decide) group

/-- Whatever is written for an address consists of characters of addresses. -/
theorem render_plain (address : Address) : IsPlain address.render.toList := by
  cases address with
  | v4 bits => exact render_v4_plain bits
  | v6 bits =>
      show IsPlain (renderV6 bits).toList
      unfold renderV6
      dsimp only
      split
      · rw [String.toList_append]
        exact .append (by decide) (render_v4_plain _)
      · split
        · rw [String.toList_append, String.toList_append]
          exact ((render_groups_plain _).append (by decide)).append (render_groups_plain _)
        · exact render_groups_plain _

end Address

namespace SocketAddress

/-- A port is plain. -/
theorem port_plain {port : Nat} {cs : List Char} (h : port? cs = some port) : IsPlain cs := by
  unfold port? at h
  split at h
  · rename_i hread
    exact (Reads.of_leading_nat (by decide) hread).whole
  · cases h

/-- A zone is read over, if there is one. -/
theorem skip_zone_reads (cs : List Char) : Reads cs (skipZone cs) := by
  unfold skipZone
  split
  · rename_i zone
    split
    · rename_i number rest hread
      exact .cons (by decide) (.of_leading_nat (by decide) hread)
    · exact .refl _
  · exact .refl cs

/-- A text that is an address with a port consists of characters of addresses. -/
theorem parse_plain {text : String} {address : SocketAddress} (h : parse? text = some address) :
    IsPlain text.toList := by
  unfold parse? at h
  split at h
  · rename_i cs htext
    obtain ⟨⟨bits, afterAddress⟩, haddress, h⟩ := Option.bind_eq_some_iff.1 h
    dsimp only at h
    split at h
    case h_2 => cases h
    rename_i portText hzone
    obtain ⟨port, hport, -⟩ := Option.bind_eq_some_iff.1 h
    have hreads : Reads cs (']' :: ':' :: portText) :=
      hzone ▸ (Address.leading_v6_reads haddress).trans (skip_zone_reads afterAddress)
    have hrest : Reads (']' :: ':' :: portText) [] :=
      ⟨_, (List.append_nil _).symm, .cons (by decide) (.cons (by decide) (port_plain hport))⟩
    rw [htext]
    exact (Reads.cons (by decide) (hreads.trans hrest)).whole
  · obtain ⟨⟨bits, afterAddress⟩, haddress, h⟩ := Option.bind_eq_some_iff.1 h
    dsimp only at h
    split at h
    case h_2 => cases h
    rename_i portText
    obtain ⟨port, hport, -⟩ := Option.bind_eq_some_iff.1 h
    have hrest : Reads (':' :: portText) [] :=
      ⟨_, (List.append_nil _).symm, .cons (by decide) (port_plain hport)⟩
    exact ((Address.leading_v4_reads haddress).trans hrest).whole

end SocketAddress

end EdgeFleet.Net
