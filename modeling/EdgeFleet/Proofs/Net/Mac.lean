import EdgeFleet.Net.Mac
import EdgeFleet.Proofs.Bytes
import Mathlib.Data.List.Chain

/-!
# The grammar of hardware addresses

`Layout.Writes` says how an address is written: so many groups of so many digits, with the same
separator between any two of them, in one of nine layouts. The main result is
`is_valid_iff_written`: these texts are recognised and no others, so that what is recognised is
made of digits with a single separator here and there (`IsRegular`). A text is taken apart at the
separator that its third byte suggests. That this is never the wrong one is
`Layout.Writes.style_eq`.
-/

namespace EdgeFleet.Net.Mac

/-- The digits that groups are made of. -/
def hexDigits : List Char :=
  "0123456789abcdefABCDEF".toList

/-- A way to write an address: `count` groups of `width` digits, and what stands between two of
them. -/
structure Layout where
  separator : Char
  count : Nat
  width : Nat
  deriving DecidableEq

/-- The ways to write addresses of 6, 8 and 20 octets. -/
def layouts : List Layout := [
  ⟨':', 6, 2⟩, ⟨':', 8, 2⟩, ⟨':', 20, 2⟩,
  ⟨'-', 6, 2⟩, ⟨'-', 8, 2⟩, ⟨'-', 20, 2⟩,
  ⟨'.', 3, 4⟩, ⟨'.', 4, 4⟩, ⟨'.', 10, 4⟩]

/-- Whether a text is made of the given groups in a layout. -/
structure Layout.Writes (layout : Layout) (groups : List (List Char)) (cs : List Char) : Prop where
  count : groups.length = layout.count
  width : ∀ group ∈ groups, group.length = layout.width
  digits : ∀ group ∈ groups, ∀ c ∈ group, c ∈ hexDigits
  joined : cs = [layout.separator].intercalate groups

/-- Whether all separators of a text stand between digits: none at an end, and no two side by
side. -/
structure IsSpaced (cs : List Char) : Prop where
  starts : ∃ c ∈ cs.head?, c ∈ hexDigits
  ends : ∃ c ∈ cs.getLast?, c ∈ hexDigits
  apart : cs.IsChain fun c next => c ∈ hexDigits ∨ next ∈ hexDigits

/-- What all addresses have in common, whatever their layout. -/
structure IsRegular (cs : List Char) : Prop extends IsSpaced cs where
  ascii : ∀ c ∈ cs, c.toNat < 128
  one_separator : ∀ c ∈ cs, ∀ other ∈ cs, c ∉ hexDigits → other ∉ hexDigits → c = other
  octets : (cs.filter (· ∈ hexDigits)).length ∈ [2 * 6, 2 * 8, 2 * 20]

/-! ### Recognising -/

theorem is_hex_digit_iff {c : Char} : isHexDigit c = true ↔ c ∈ hexDigits := by
  constructor
  · intro h
    -- No digit is behind 'f', which leaves finitely many characters to look at.
    have hle : c ≤ 'f' := by
      simp only [isHexDigit, Char.isDigit, Bool.or_eq_true, Bool.and_eq_true,
        decide_eq_true_eq] at h
      obtain (⟨-, h⟩ | ⟨-, h⟩) | ⟨-, h⟩ := h
      · exact UInt32.le_trans (a := c.val) h (by decide)
      · exact h
      · exact Char.le_trans h (by decide)
    have hall : ∀ n ≤ 102, isHexDigit (Char.ofNat n) = true → Char.ofNat n ∈ hexDigits := by
      decide
    rw [← Char.ofNat_toNat c] at h ⊢
    exact hall _ (UInt32.le_iff_toNat_le.1 (Char.le_def.1 hle)) h
  · exact List.all_eq_true.1 (by decide : hexDigits.all isHexDigit = true) c

/-- A digit or a separator is a single byte of a text. -/
theorem of_text_cons {c : Char} (h : c ∈ hexDigits ∨ c ∈ [':', '-', '.']) (rest : List Char) :
    Bytes.ofText (.ofList (c :: rest)) = UInt8.ofNat c.toNat :: Bytes.ofText (.ofList rest) := by
  have hall : ((hexDigits ++ [':', '-', '.']).all fun c =>
      Bytes.ofText (.ofList [c]) == [UInt8.ofNat c.toNat]) = true := by
    decide +kernel
  have hsingle := beq_iff_eq.1 (List.all_eq_true.1 hall c (List.mem_append.2 h))
  rw [← List.singleton_append, String.ofList_append, Bytes.of_text_append, hsingle]
  rfl

/-- The byte of a digit is neither a colon nor a hyphen. -/
theorem digit_byte {c : Char} (h : c ∈ hexDigits) :
    UInt8.ofNat c.toNat ≠ 0x3a ∧ UInt8.ofNat c.toNat ≠ 0x2d := by
  have hall : (hexDigits.all fun c =>
      UInt8.ofNat c.toNat != 0x3a && UInt8.ofNat c.toNat != 0x2d) = true := by
    decide
  simpa using List.all_eq_true.1 hall c h

/-- The third byte of a text is its third character if the first three are digits or
separators. -/
theorem third_byte {text : String} {a b c : Char} {rest : List Char} (ha : a ∈ hexDigits)
    (hb : b ∈ hexDigits) (hc : c ∈ hexDigits ∨ c ∈ [':', '-', '.'])
    (h : text.toList = a :: b :: c :: rest) :
    (Bytes.ofText text).drop 2 = UInt8.ofNat c.toNat :: Bytes.ofText (.ofList rest) := by
  rw [← String.ofList_toList (s := text), h, of_text_cons (.inl ha), of_text_cons (.inl hb),
    of_text_cons hc]
  rfl

/-- The groups of a text are what a separator leaves of it. -/
theorem split_eq (separator : Char) (cs : List Char) :
    split separator cs = cs.splitOn separator := by
  induction cs with
  | nil => rfl
  | cons c rest ih =>
      rw [split, List.splitOn, List.splitOnP_cons_eq_if_modifyHead, ← List.splitOn, ih]
      split
      · rfl
      · cases hrest : rest.splitOn separator with
        | nil => exact absurd hrest (List.splitOn_ne_nil _ _)
        | cons group groups => rfl

theorem is_valid_iff_split {text : String} {separator : Char} {width : Nat}
    (h : style (.ofText text) = (separator, width)) : isValid text = true ↔
      (text.toList.splitOn separator).length * width / 2 ∈ [6, 8, 20] ∧
        ∀ group ∈ text.toList.splitOn separator,
          group.length = width ∧ ∀ c ∈ group, c ∈ hexDigits := by
  simp only [isValid, h, split_eq, Bool.and_eq_true, List.contains_iff_mem, List.all_eq_true,
    beq_iff_eq, is_hex_digit_iff]

/-- Pairs of digits have colons or hyphens between them, groups of four have points. -/
theorem style_cases (bytes : Bytes) :
    style bytes = (':', 2) ∨ style bytes = ('-', 2) ∨ style bytes = ('.', 4) := by
  unfold style
  split
  · exact .inl rfl
  · exact .inr (.inl rfl)
  · exact .inr (.inr rfl)

namespace Layout

theorem separator_not_digit {layout : Layout} (h : layout ∈ layouts) :
    layout.separator ∉ hexDigits :=
  (by decide : ∀ layout ∈ layouts, layout.separator ∉ hexDigits) layout h

namespace Writes

variable {layout : Layout} {groups : List (List Char)} {cs : List Char}
  (hlayout : layout ∈ layouts) (h : layout.Writes groups cs)
include hlayout h

/-- An address has several groups. -/
theorem groups_eq : ∃ first second rest, groups = first :: second :: rest := by
  have hcount : 1 < groups.length :=
    h.count ▸ (by decide : ∀ layout ∈ layouts, 1 < layout.count) layout hlayout
  match groups with
  | first :: second :: rest => exact ⟨first, second, rest, rfl⟩
  | [_] => simp at hcount
  | [] => simp at hcount

/-- The third byte of an address says how it is written: it is the first separator if groups are
pairs, and a digit otherwise. -/
theorem style_eq {text : String} (htext : text.toList = cs) :
    style (.ofText text) = (layout.separator, layout.width) := by
  obtain ⟨first, second, rest, rfl⟩ := h.groups_eq hlayout
  have hwidth := h.width first (by simp)
  have hdigits := h.digits first (by simp)
  have hjoined := h.joined
  rw [List.intercalate_cons_cons, List.append_assoc, ← htext] at hjoined
  have hkinds : ∀ layout ∈ layouts,
      (layout.separator = ':' ∧ layout.width = 2) ∨ (layout.separator = '-' ∧ layout.width = 2) ∨
        (layout.separator = '.' ∧ layout.width = 4) := by
    decide
  obtain ⟨hseparator, htwo⟩ | ⟨hseparator, htwo⟩ | ⟨hseparator, hfour⟩ := hkinds layout hlayout
  · obtain ⟨a, b, rfl⟩ := List.length_eq_two.1 (hwidth.trans htwo)
    rw [style, third_byte (hdigits a (by simp)) (hdigits b (by simp))
      (.inr (by simp [hseparator])) hjoined, hseparator, htwo]
    rfl
  · obtain ⟨a, b, rfl⟩ := List.length_eq_two.1 (hwidth.trans htwo)
    rw [style, third_byte (hdigits a (by simp)) (hdigits b (by simp))
      (.inr (by simp [hseparator])) hjoined, hseparator, htwo]
    rfl
  · match first, hwidth.trans hfour with
    | [a, b, c, d], _ =>
        obtain ⟨hcolon, hhyphen⟩ := digit_byte (hdigits c (by simp))
        rw [style, third_byte (hdigits a (by simp)) (hdigits b (by simp))
          (.inl (hdigits c (by simp))) hjoined, hseparator, hfour]
        simp [hcolon, hhyphen]

/-- The separator takes an address apart into its groups. -/
theorem split_on : cs.splitOn layout.separator = groups := by
  obtain ⟨first, second, rest, hgroups⟩ := h.groups_eq hlayout
  rw [h.joined]
  refine List.splitOn_intercalate _ (fun group hgroup hmem => ?_) (by simp [hgroups])
  exact separator_not_digit hlayout (h.digits group hgroup _ hmem)

end Writes

/-- Groups as a separator leaves them are in a layout if they are of the right number and width. -/
theorem exists_of_split {separator : Char} {width : Nat} {bytes : Bytes} {cs : List Char}
    (hstyle : style bytes = (separator, width))
    (hcount : (cs.splitOn separator).length * width / 2 ∈ [6, 8, 20]) :
    (⟨separator, (cs.splitOn separator).length, width⟩ : Layout) ∈ layouts := by
  generalize (cs.splitOn separator).length = count at hcount ⊢
  -- Octets are counted by a division, which is exact for groups of either width.
  simp only [List.mem_cons, List.not_mem_nil, or_false] at hcount
  obtain h | h | h := style_cases bytes <;> obtain ⟨rfl, rfl⟩ := Prod.mk.inj (hstyle.symm.trans h)
  · obtain rfl | rfl | rfl : count = 6 ∨ count = 8 ∨ count = 20 := by omega
    all_goals decide
  · obtain rfl | rfl | rfl : count = 6 ∨ count = 8 ∨ count = 20 := by omega
    all_goals decide
  · obtain rfl | rfl | rfl : count = 3 ∨ count = 4 ∨ count = 10 := by omega
    all_goals decide

end Layout

/-- What is recognised is what is written in one of the layouts. -/
theorem is_valid_iff {text : String} :
    isValid text = true ↔ ∃ layout ∈ layouts, ∃ groups, layout.Writes groups text.toList := by
  constructor
  · intro h
    obtain ⟨separator, width, hstyle⟩ : ∃ separator width,
        style (.ofText text) = (separator, width) := ⟨_, _, rfl⟩
    obtain ⟨hcount, hgroups⟩ := (is_valid_iff_split hstyle).1 h
    refine ⟨_, Layout.exists_of_split hstyle hcount, text.toList.splitOn separator, rfl, ?_, ?_, ?_⟩
    · exact fun group hgroup => (hgroups group hgroup).1
    · exact fun group hgroup => (hgroups group hgroup).2
    · exact (List.intercalate_splitOn separator).symm
  · rintro ⟨layout, hlayout, groups, h⟩
    have hoctets : ∀ layout ∈ layouts, layout.count * layout.width / 2 ∈ [6, 8, 20] := by decide
    rw [is_valid_iff_split (h.style_eq hlayout rfl), h.split_on hlayout, h.count]
    exact ⟨hoctets layout hlayout,
      fun group hgroup => ⟨h.width group hgroup, h.digits group hgroup⟩⟩

/-! ### Regularity -/

namespace IsSpaced

variable {group rest : List Char} (hgroup : ∀ c ∈ group, c ∈ hexDigits) (hne : group ≠ [])
include hgroup hne

theorem of_digits : IsSpaced group where
  starts := ⟨_, List.head?_eq_some_head hne, hgroup _ (List.head_mem hne)⟩
  ends := ⟨_, List.getLast?_eq_some_getLast hne, hgroup _ (List.getLast_mem hne)⟩
  apart := (List.pairwise_of_forall_mem_list fun c hc _ _ => .inl (hgroup c hc)).isChain

/-- A group may be put in front, with any separator behind it. -/
theorem cons (h : IsSpaced rest) (separator : Char) : IsSpaced (group ++ [separator] ++ rest) where
  starts := by
    simpa [List.head?_append, List.head?_eq_some_head hne] using hgroup _ (List.head_mem hne)
  ends := by
    obtain ⟨c, hc, hdigit⟩ := h.ends
    refine ⟨c, ?_, hdigit⟩
    rw [List.getLast?_append, Option.mem_def.1 hc]
    rfl
  apart := by
    obtain ⟨c, hc, hdigit⟩ := h.starts
    have hfront : (group ++ [separator]).IsChain fun c next => c ∈ hexDigits ∨ next ∈ hexDigits :=
      List.isChain_append.2 ⟨(of_digits hgroup hne).apart, .singleton _,
        fun last hlast _ _ => .inl (hgroup last (List.mem_of_getLast? hlast))⟩
    refine List.isChain_append.2 ⟨hfront, h.apart, fun _ _ next hnext => ?_⟩
    exact .inr (Option.some.inj (hc.symm.trans hnext) ▸ hdigit)

end IsSpaced

section Joined

variable {separator : Char} {groups : List (List Char)}
  (hdigits : ∀ group ∈ groups, ∀ c ∈ group, c ∈ hexDigits)
include hdigits

/-- Joined groups are made of the separator and digits only. -/
theorem mem_joined {c : Char} (hc : c ∈ [separator].intercalate groups) :
    c = separator ∨ c ∈ hexDigits := by
  induction groups with
  | nil => simp at hc
  | cons group rest ih =>
      obtain ⟨hgroup, hrest⟩ := List.forall_mem_cons.1 hdigits
      cases rest with
      | nil => exact .inr (hgroup c (by simpa using hc))
      | cons next others =>
          rw [List.intercalate_cons_cons, List.mem_append, List.mem_append,
            List.mem_singleton] at hc
          obtain (hc | hc) | hc := hc
          · exact .inr (hgroup c hc)
          · exact .inl hc
          · exact ih hrest hc

/-- They are spaced if no group is empty. -/
theorem spaced_joined (hgroups : groups ≠ []) (hfull : [] ∉ groups) :
    IsSpaced ([separator].intercalate groups) := by
  induction groups with
  | nil => exact absurd rfl hgroups
  | cons group rest ih =>
      obtain ⟨hgroup, hrest⟩ := List.forall_mem_cons.1 hdigits
      have hne : group ≠ [] := fun heq => hfull (heq ▸ List.mem_cons_self)
      cases rest with
      | nil => simpa using IsSpaced.of_digits hgroup hne
      | cons next others =>
          rw [List.intercalate_cons_cons]
          have hothers : [] ∉ next :: others := fun hmem => hfull (List.mem_cons_of_mem _ hmem)
          exact .cons hgroup hne (ih hrest (by simp) hothers) separator

/-- They have the digits of all groups. -/
theorem digits_joined {width : Nat} (hseparator : separator ∉ hexDigits)
    (hwidth : ∀ group ∈ groups, group.length = width) :
    (([separator].intercalate groups).filter (· ∈ hexDigits)).length = groups.length * width := by
  induction groups with
  | nil => simp
  | cons group rest ih =>
      obtain ⟨hgroup, hrest⟩ := List.forall_mem_cons.1 hdigits
      obtain ⟨hlength, hothers⟩ := List.forall_mem_cons.1 hwidth
      have hfilter : group.filter (· ∈ hexDigits) = group :=
        List.filter_eq_self.2 fun c hc => decide_eq_true (hgroup c hc)
      cases rest with
      | nil => simp [hfilter, hlength]
      | cons next others =>
          have hmark : [separator].filter (· ∈ hexDigits) = [] := by simp [hseparator]
          rw [List.intercalate_cons_cons, List.filter_append, List.filter_append, hfilter, hmark,
            List.append_nil, List.length_append, ih hrest hothers, hlength]
          simp only [List.length_cons, Nat.succ_mul]
          omega

end Joined

/-- What is written in one of the layouts is regular. -/
theorem Layout.Writes.regular {layout : Layout} {groups : List (List Char)} {cs : List Char}
    (hlayout : layout ∈ layouts) (h : layout.Writes groups cs) : IsRegular cs := by
  have hmem : ∀ c ∈ cs, c = layout.separator ∨ c ∈ hexDigits :=
    fun c hc => mem_joined h.digits (h.joined ▸ hc)
  have hascii : hexDigits.all (·.toNat < 128) := by decide
  have hseparator : ∀ layout ∈ layouts, layout.separator.toNat < 128 := by decide
  have hoctets : ∀ layout ∈ layouts, layout.count * layout.width ∈ [2 * 6, 2 * 8, 2 * 20] := by
    decide
  have hwidths : ∀ layout ∈ layouts, layout.width ≠ 0 := by decide
  obtain ⟨first, second, rest, hgroups⟩ := h.groups_eq hlayout
  have hspaced : IsSpaced cs := by
    rw [h.joined]
    refine spaced_joined h.digits (by simp [hgroups]) fun hempty => ?_
    exact hwidths layout hlayout (h.width [] hempty).symm
  refine { hspaced with ascii := ?_, one_separator := ?_, octets := ?_ }
  · intro c hc
    obtain rfl | hdigit := hmem c hc
    · exact hseparator layout hlayout
    · exact of_decide_eq_true (List.all_eq_true.1 hascii c hdigit)
  · intro c hc other hother hdigit hotherDigit
    rw [(hmem c hc).resolve_right hdigit, (hmem other hother).resolve_right hotherDigit]
  · rw [h.joined, digits_joined h.digits (separator_not_digit hlayout) h.width, h.count]
    exact hoctets layout hlayout

/-- A text is recognised as a hardware address exactly if it is written in one of the layouts, for
6, 8 or 20 octets. Then it is regular: no other separator is mixed in, none stands at an end or next
to another one, all characters are ASCII, and there are no more and no fewer digits. -/
theorem is_valid_iff_written (text : String) :
    (isValid text = true ↔ ∃ layout ∈ layouts, ∃ groups, layout.Writes groups text.toList) ∧
      (isValid text = true → IsRegular text.toList) := by
  refine ⟨is_valid_iff, fun h => ?_⟩
  obtain ⟨layout, hlayout, groups, hwrites⟩ := is_valid_iff.1 h
  exact hwrites.regular hlayout

/-- Points go with groups of four digits, of which there are ten in an address of 20 octets. -/
theorem is_valid_twenty_octets :
    let text := "8000.0048.fe80.0000.0000.0000.0200.5E10.0000.0001"
    isValid text = true ∧ IsRegular text.toList := by
  intro text
  have hdigits : (text.toList.splitOn '.').all (List.all · (· ∈ hexDigits)) := by decide
  have hwrites : (⟨'.', 10, 4⟩ : Layout).Writes (text.toList.splitOn '.') text.toList :=
    ⟨by decide, by decide, by simpa only [List.all_eq_true, decide_eq_true_eq] using hdigits,
      by decide⟩
  have hvalid : isValid text = true := (is_valid_iff_written text).1.2 ⟨_, by decide, _, hwrites⟩
  exact ⟨hvalid, (is_valid_iff_written text).2 hvalid⟩

example : isValid "00:1b-44:11:3a:b7" = false := by decide

end EdgeFleet.Net.Mac
