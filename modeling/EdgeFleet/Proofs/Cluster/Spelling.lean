import EdgeFleet.Proofs.Cluster.Naming
import EdgeFleet.Proofs.Net.Mac

/-!
# How names must be written

A cluster takes a name or the value of a label only if it is written by a rule: a `Spelling` says
which characters may be in it and at its ends, and how many. `Spelling.accepts_join_iff` takes the
rule apart for a text that joins an ID and a serial number. IDs are UUIDs, and `Uuid.isBare` is what
a rule leaves of their four spellings.
-/

namespace EdgeFleet

namespace Uuid

/-- The two spellings of a UUID that have digits and hyphens only. -/
def isBare (id : String) : Bool :=
  isSimple id.toList || isHyphenated id.toList

/-- Groups consist of digits and the hyphens between them. -/
theorem mem_groups {n : Nat} {lengths : List Nat} {text : List Char}
    (h : areGroups (n :: lengths) text) {c : Char} (hc : c ∈ text) : isHexDigit c ∨ c = '-' := by
  induction lengths generalizing n text with
  | nil =>
      simp only [areGroups, Bool.and_eq_true] at h
      exact .inl (List.all_eq_true.1 h.2 c hc)
  | cons m lengths ih =>
      obtain ⟨digits, rest, rfl, -, hdigits, hrest⟩ := groups_cons h
      rcases List.mem_append.1 hc with hc | hc
      · exact .inl (List.all_eq_true.1 hdigits c hc)
      · rcases List.mem_cons.1 hc with rfl | hc
        · exact .inr rfl
        · exact ih hrest hc

/-- Groups that are not empty end in a digit. -/
theorem last_of_groups {n : Nat} {lengths : List Nat} {text : List Char}
    (h : areGroups (n :: lengths) text) (hpositive : ∀ m ∈ n :: lengths, 0 < m) :
    ∃ c, text.getLast? = some c ∧ isHexDigit c := by
  induction lengths generalizing n text with
  | nil =>
      simp only [areGroups, Bool.and_eq_true, beq_iff_eq] at h
      have hne : text ≠ [] := by
        rintro rfl
        exact absurd (hpositive n (List.mem_singleton_self n)) (by simp [← h.1])
      exact ⟨_, List.getLast?_eq_some_getLast hne,
        List.all_eq_true.1 h.2 _ (List.getLast_mem hne)⟩
  | cons m lengths ih =>
      obtain ⟨digits, rest, rfl, -, -, hrest⟩ := groups_cons h
      obtain ⟨c, hlast, hc⟩ := ih hrest fun k hk => hpositive k (List.mem_cons_of_mem n hk)
      exact ⟨c, by simp [List.getLast?_append, List.getLast?_cons, hlast], hc⟩

/-- Groups that are not empty begin with a digit. -/
theorem first_of_groups {n : Nat} {lengths : List Nat} {text : List Char}
    (h : areGroups (n :: lengths) text) (hpositive : 0 < n) :
    ∃ c, text.head? = some c ∧ isHexDigit c := by
  have hdigits : ∃ digits rest, text = digits ++ rest ∧ digits.length = n ∧
      digits.all isHexDigit := by
    cases lengths with
    | nil =>
        simp only [areGroups, Bool.and_eq_true, beq_iff_eq] at h
        exact ⟨text, [], (List.append_nil text).symm, h.1, h.2⟩
    | cons m lengths =>
        obtain ⟨digits, rest, rfl, hlength, hdigits, -⟩ := groups_cons h
        exact ⟨digits, '-' :: rest, rfl, hlength, hdigits⟩
  obtain ⟨digits, rest, rfl, hlength, hdigits⟩ := hdigits
  cases digits with
  | nil => exact absurd hlength (Nat.ne_of_lt hpositive)
  | cons c digits => exact ⟨c, rfl, List.all_eq_true.1 hdigits c List.mem_cons_self⟩

/-- What can be seen to hold of all digits holds of a digit. -/
theorem of_hex_digit {p : Char → Bool} (hall : Net.Mac.hexDigits.all p) {c : Char}
    (h : isHexDigit c) : p c :=
  List.all_eq_true.1 hall c (Net.Mac.is_hex_digit_iff.1 h)

section Bare

variable {id : String}

/-- A bare UUID is one group of digits or five. -/
theorem groups_of_bare (h : isBare id) :
    ∃ n lengths, areGroups (n :: lengths) id.toList ∧ (∀ m ∈ n :: lengths, 0 < m) ∧
      n + lengths.foldr (· + ·) 0 + lengths.length ≤ 36 := by
  rcases Bool.or_eq_true_iff.1 h with h | h
  · exact ⟨32, [], h, by decide, by decide⟩
  · exact ⟨8, [4, 4, 4, 12], h, by decide, by decide⟩

/-- A bare UUID consists of digits and hyphens. -/
theorem mem_bare (h : isBare id) {c : Char} (hc : c ∈ id.toList) : isHexDigit c ∨ c = '-' := by
  obtain ⟨n, lengths, hgroups, -⟩ := groups_of_bare h
  exact mem_groups hgroups hc

/-- It begins and ends with a digit. -/
theorem ends_of_bare (h : isBare id) :
    (∃ c, id.toList.head? = some c ∧ isHexDigit c) ∧
      ∃ c, id.toList.getLast? = some c ∧ isHexDigit c := by
  obtain ⟨n, lengths, hgroups, hpositive, -⟩ := groups_of_bare h
  exact ⟨first_of_groups hgroups (hpositive n List.mem_cons_self),
    last_of_groups hgroups hpositive⟩

/-- It has at most 36 characters. -/
theorem length_of_bare (h : isBare id) : id.length ≤ 36 := by
  obtain ⟨n, lengths, hgroups, -, hlength⟩ := groups_of_bare h
  rw [← String.length_toList, length_of_groups hgroups]
  exact hlength

/-- Only a colon has the lower case of a colon. -/
theorem eq_of_to_lower_colon {c : Char} (h : c.toLower = ':') : c = ':' := by
  unfold Char.toLower at h
  split at h
  · next hupper =>
      -- The lower case of a letter is never as small as a colon.
      have hfirst : 65 ≤ c.val.toNat := UInt32.le_iff_toNat_le.1 hupper.1
      have hlast : c.val.toNat ≤ 90 := UInt32.le_iff_toNat_le.1 hupper.2
      have hlower : (c.val.toNat + 32) % 2 ^ 32 = 58 :=
        congrArg (fun d : Char => d.val.toNat) h
      omega
  · exact h

/-- A UUID is bare unless it has a brace or a colon. -/
theorem bare_of_valid (h : isValid id) (hbrace : '\x7b' ∉ id.toList) (hcolon : ':' ∉ id.toList) :
    isBare id := by
  simp only [isValid, Bool.or_eq_true] at h
  rcases h with ((h | h) | h) | h
  · exact Bool.or_eq_true_iff.2 (.inl h)
  · exact Bool.or_eq_true_iff.2 (.inr h)
  · unfold isBraced at h
    split at h
    · next rest hid => exact absurd (hid ▸ List.mem_cons_self) hbrace
    · cases h
  · simp only [isUrn, Bool.and_eq_true, beq_iff_eq] at h
    have hmem : ':' ∈ (id.toList.take 9).map Char.toLower := h.1 ▸ by decide
    obtain ⟨c, hc, hlower⟩ := List.mem_map.1 hmem
    exact absurd (eq_of_to_lower_colon hlower ▸ List.mem_of_mem_take hc) hcolon

end Bare

end Uuid

namespace Cluster

/-- How a text is to be written: the characters that it may have, those that may be its first and
its last one, and how many there may be. -/
structure Spelling where
  inner : Char → Bool
  edge : Char → Bool
  limit : Nat

namespace Spelling

/-- Whether a text is written as a rule says. -/
def accepts (rule : Spelling) (text : String) : Bool :=
  text.toList.all rule.inner && text.toList.head?.any rule.edge &&
    text.toList.getLast?.any rule.edge && text.length ≤ rule.limit

/-- Whether a text may end one that is written as a rule says. -/
def closes (rule : Spelling) (text : String) : Bool :=
  text.toList.all rule.inner && text.toList.getLast?.any rule.edge

/-- A small letter or a digit. -/
def isSmall (c : Char) : Bool :=
  c.isLower || c.isDigit

/-- The names of objects: small letters and digits, with hyphens and periods between them. -/
def subdomain : Spelling :=
  ⟨fun c => isSmall c || c == '-' || c == '.', isSmall, 253⟩

/-- The names of containers: small letters and digits, with hyphens between them. -/
def domainLabel : Spelling :=
  ⟨fun c => isSmall c || c == '-', isSmall, 63⟩

/-- The values of labels: letters and digits, with hyphens, underscores and periods between them. -/
def labelValue : Spelling :=
  ⟨fun c => c.isAlphanum || c == '-' || c == '_' || c == '.', Char.isAlphanum, 63⟩

/-- Whether a text has no capitals. -/
def isLowered (text : String) : Bool :=
  text.toList.all (!·.isUpper)

variable {rule : Spelling} {head id serial : String}

/-- A text that joins an ID and a serial number is written as a rule says exactly if the ID has only
characters of the rule, the serial number may come last, and there is room for both. -/
theorem accepts_join_iff (most : Nat)
    (hhead : head.toList.all rule.inner && head.toList.head?.any rule.edge)
    (hhyphen : rule.inner '-') (hmost : head.length + 1 + most = rule.limit)
    (hserial : serial ≠ "") :
    rule.accepts (head ++ id ++ "-" ++ serial) ↔
      id.toList.all rule.inner ∧ rule.closes serial ∧ id.length + serial.length ≤ most := by
  obtain ⟨hinner, hfirst⟩ := Bool.and_eq_true_iff.1 hhead
  obtain ⟨c, hc, hedge⟩ := (Option.any_eq_true _ _).1 hfirst
  have htext : (head ++ id ++ "-" ++ serial).toList =
      head.toList ++ id.toList ++ ['-'] ++ serial.toList := by
    simp
  have hlast : (head ++ id ++ "-" ++ serial).toList.getLast? = serial.toList.getLast? := by
    rw [htext, List.getLast?_append,
      List.getLast?_eq_some_getLast (mt String.toList_eq_nil_iff.1 hserial), Option.some_or]
  have hlength : (head ++ id ++ "-" ++ serial).length =
      head.length + 1 + (id.length + serial.length) := by
    have hone : "-".length = 1 := rfl
    simp only [String.length_append]
    omega
  rw [accepts, hlast, hlength, htext, ← hmost]
  simp [closes, hinner, hhyphen, hc, hedge, and_assoc, -List.all_eq_true]

/-- A small letter or a digit is a letter or a digit. -/
theorem alphanum_of_small {c : Char} (h : isSmall c) : c.isAlphanum := by
  have hsmall : (c.isLower || c.isDigit) = true := h
  show (c.isUpper || c.isLower || c.isDigit) = true
  rw [Bool.or_assoc, hsmall, Bool.or_true]

/-- What may end the name of a container may end any other name, and the value of a label. -/
theorem closes_of_domain {text : String} (h : domainLabel.closes text) :
    subdomain.closes text ∧ labelValue.closes text := by
  simp only [closes, domainLabel, Bool.and_eq_true, List.all_eq_true, Option.any_eq_true,
    Bool.or_eq_true] at h
  obtain ⟨hall, c, hlast, hc⟩ := h
  simp only [closes, subdomain, labelValue, Bool.and_eq_true, List.all_eq_true, hlast,
    Option.any_some, Bool.or_eq_true]
  exact ⟨⟨fun d hd => .inl (hall d hd), hc⟩,
    fun d hd => .inl (.inl ((hall d hd).imp_left alphanum_of_small)), alphanum_of_small hc⟩

/-- What is in a bare UUID may be in a name unless it is a capital. -/
theorem small_iff (hrule : rule = subdomain ∨ rule = domainLabel) {c : Char}
    (h : Uuid.isHexDigit c ∨ c = '-') : rule.inner c ↔ c.isUpper = false := by
  have hinner : rule.inner c = !c.isUpper := by
    rcases h with hdigit | rfl
    · rcases hrule with rfl | rfl
      · exact eq_of_beq (Uuid.of_hex_digit (p := fun c => subdomain.inner c == !c.isUpper)
          (by decide) hdigit)
      · exact eq_of_beq (Uuid.of_hex_digit (p := fun c => domainLabel.inner c == !c.isUpper)
          (by decide) hdigit)
    · rcases hrule with rfl | rfl <;> rfl
  rw [hinner, Bool.not_eq_true']

/-- A UUID may be in a name exactly if it is bare and has no capitals. -/
theorem all_small_iff (hid : Uuid.isValid id) (hrule : rule = subdomain ∨ rule = domainLabel) :
    id.toList.all rule.inner ↔ Uuid.isBare id ∧ isLowered id := by
  constructor
  · intro hall
    have hkept {c : Char} (hc : rule.inner c = false) : c ∉ id.toList := fun hmem =>
      Bool.noConfusion (hc.symm.trans (List.all_eq_true.1 hall c hmem))
    -- Names have neither braces nor colons, so that two of the four spellings are left.
    have hbare : Uuid.isBare id := by
      apply Uuid.bare_of_valid hid <;> refine hkept ?_ <;>
        rcases hrule with rfl | rfl <;> decide
    refine ⟨hbare, List.all_eq_true.2 fun c hc => ?_⟩
    rw [(small_iff hrule (Uuid.mem_bare hbare hc)).1 (List.all_eq_true.1 hall c hc)]
    rfl
  · rintro ⟨hbare, hlowered⟩
    refine List.all_eq_true.2 fun c hc => (small_iff hrule (Uuid.mem_bare hbare hc)).2 ?_
    simpa using List.all_eq_true.1 hlowered c hc

/-- A digit of a UUID is a letter or a decimal digit. -/
theorem alphanum_of_hex {c : Char} (h : Uuid.isHexDigit c) : c.isAlphanum :=
  Uuid.of_hex_digit (by decide) h

/-- A UUID may be in the value of a label exactly if it is bare. -/
theorem all_label_iff (hid : Uuid.isValid id) :
    id.toList.all labelValue.inner ↔ Uuid.isBare id := by
  refine ⟨fun hall => Uuid.bare_of_valid hid ?_ ?_, fun hbare => ?_⟩
  · exact fun hmem => absurd (List.all_eq_true.1 hall _ hmem) (by decide)
  · exact fun hmem => absurd (List.all_eq_true.1 hall _ hmem) (by decide)
  · refine List.all_eq_true.2 fun c hc => ?_
    rcases Uuid.mem_bare hbare hc with hdigit | rfl
    · simp [labelValue, alphanum_of_hex hdigit]
    · rfl

/-- It may be all of it then. -/
theorem label_accepts_iff (hid : Uuid.isValid id) : labelValue.accepts id ↔ Uuid.isBare id := by
  rw [← all_label_iff hid]
  simp only [accepts, Bool.and_eq_true, decide_eq_true_eq]
  refine ⟨fun haccepts => haccepts.1.1.1, fun hall => ?_⟩
  have hbare := (all_label_iff hid).1 hall
  obtain ⟨⟨first, hfirst, hfirstDigit⟩, last, hlast, hlastDigit⟩ := Uuid.ends_of_bare hbare
  rw [hfirst, hlast]
  exact ⟨⟨⟨hall, alphanum_of_hex hfirstDigit⟩, alphanum_of_hex hlastDigit⟩,
    Nat.le_trans (Uuid.length_of_bare hbare) (by decide)⟩

end Spelling

end Cluster

end EdgeFleet
