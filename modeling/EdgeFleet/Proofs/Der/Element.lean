import EdgeFleet.Der.Element
import EdgeFleet.Proofs.Bytes

/-!
# Elements that were written can be read

An element with a small tag number and a content that a length can be told of is read back from its
bytes, whatever follows them (`Element.read_bytes`). `Tag.length_of` bounds how long it gets.
-/

namespace EdgeFleet.Der

/-- The least length that cannot be told. -/
def lengthLimit : Nat := 0x10000000000000000

/-! ### Tags -/

theorem Family.code_lt (family : Family) : family.code < 4 := by
  cases family <;> decide

theorem Family.of_code_code (family : Family) : ofCode family.code = family := by
  cases family <;> rfl

/-- A tag with a small number is read back. -/
theorem Tag.read_write {tag : Tag} (h : tag.number < 31) (rest : Bytes) :
    Tag.read? (tag.write ++ rest) = some (tag, rest) := by
  have hcode := tag.family.code_lt
  let flag := if tag.constructed then 32 else 0
  have hflag : flag = 0 ∨ flag = 32 := by
    show (if tag.constructed then 32 else 0) = 0 ∨ (if tag.constructed then 32 else 0) = 32
    cases tag.constructed
    · exact .inl rfl
    · exact .inr rfl
  have hbyte : (UInt8.ofNat (tag.family.code * 64 + flag + tag.number)).toNat =
      tag.family.code * 64 + flag + tag.number := by
    rw [UInt8.toNat_ofNat', Nat.mod_eq_of_lt]
    omega
  show (if (UInt8.ofNat (tag.family.code * 64 + flag + tag.number)).toNat % 32 = 31 then _
    else some ((⟨_, _, _⟩ : Tag), rest)) = some (tag, rest)
  rw [hbyte, if_neg (by omega)]
  have hfamily : (tag.family.code * 64 + flag + tag.number) / 64 = tag.family.code := by omega
  have hnumber : (tag.family.code * 64 + flag + tag.number) % 32 = tag.number := by omega
  have hconstructed : ((tag.family.code * 64 + flag + tag.number) / 32 % 2 == 1) =
      tag.constructed := by
    have hbit : (tag.family.code * 64 + flag + tag.number) / 32 % 2 = flag / 32 := by omega
    rw [hbit]
    show ((if tag.constructed then 32 else 0) / 32 == 1) = tag.constructed
    cases tag.constructed <;> rfl
  rw [hfamily, hnumber, hconstructed, Family.of_code_code]

/-! ### Lengths -/

/-- A length that can be told is read back. -/
theorem read_length_write {length : Nat} (h : length < lengthLimit) (rest : Bytes) :
    readLength? (writeLength length ++ rest) = some (length, rest) := by
  unfold writeLength
  split
  · rename_i hsmall
    have hbyte : (UInt8.ofNat length).toNat = length := by
      rw [UInt8.toNat_ofNat', Nat.mod_eq_of_lt]
      omega
    show (if (UInt8.ofNat length).toNat < 128 then some ((UInt8.ofNat length).toNat, rest)
      else _) = some (length, rest)
    rw [hbyte, if_pos hsmall]
  · rename_i hlarge
    let bytes := Bytes.ofNatShortest length
    have hwidth : bytes.length = Nat.log2 length / 8 + 1 := Bytes.length_of_nat _ _
    have hpos : length ≠ 0 := by omega
    have hlog : Nat.log2 length < 64 := (Nat.log2_lt hpos).2 h
    have hbyte : (UInt8.ofNat (128 + bytes.length)).toNat = 128 + bytes.length := by
      rw [UInt8.toNat_ofNat', Nat.mod_eq_of_lt]
      omega
    have hvalue : Bytes.toNat bytes = length := Bytes.to_nat_shortest length
    show readLength? (.ofNat (128 + bytes.length) :: (bytes ++ rest)) = _
    unfold readLength?
    simp only [hbyte, Nat.add_sub_cancel_left, List.take_left, List.drop_left, hvalue]
    have hfits : ¬ 0x10000000000000000 ≤ length := Nat.not_le.2 h
    rw [if_neg (by omega), if_neg]
    simp only [Bool.or_eq_true, decide_eq_true_eq, List.length_append]
    omega

/-- A length takes few bytes. -/
theorem length_write_length (length : Nat) :
    (writeLength length).length ≤ length / 1024 + 3 := by
  unfold writeLength
  split
  · simp
  · rename_i hlarge
    have hwidth : (Bytes.ofNatShortest length).length = Nat.log2 length / 8 + 1 :=
      Bytes.length_of_nat _ _
    have hpower : length < 2 ^ (length / 128 + 7) := by
      have hself : length / 128 < 2 ^ (length / 128) := Nat.lt_two_pow_self
      rw [Nat.pow_add]
      omega
    have hpos : length ≠ 0 := by omega
    have hlog := (Nat.log2_lt hpos).2 hpower
    rw [List.length_cons, hwidth]
    omega

/-! ### Elements -/

/-- An element with a small tag number is read back. -/
theorem Element.read_bytes {tag : Tag} {content : Bytes} (htag : tag.number < 31)
    (hcontent : content.length < lengthLimit) (rest : Bytes) :
    Element.read? ((tag.element content).bytes ++ rest) = some (tag.element content, rest) := by
  have hbytes : (tag.element content).bytes ++ rest =
      tag.write ++ (writeLength content.length ++ (content ++ rest)) := by
    simp [bytes, Tag.element]
  have hheader : (tag.write ++ (writeLength content.length ++ (content ++ rest))).take
      ((tag.write ++ (writeLength content.length ++ (content ++ rest))).length -
        (content ++ rest).length) = tag.write ++ writeLength content.length := by
    rw [← List.append_assoc, List.length_append, Nat.add_sub_cancel, List.take_left]
  rw [hbytes]
  unfold read?
  rw [Tag.read_write htag, Option.bind_eq_bind, Option.bind_some]
  show (readLength? (writeLength content.length ++ (content ++ rest))).bind _ = _
  rw [read_length_write hcontent, Option.bind_some]
  dsimp only
  rw [hheader, List.take_left, List.drop_left, List.length_append]
  show (if _ ≤ _ then (pure () : Option Unit) else failure).bind _ = _
  rw [if_pos (Nat.le_add_right ..)]
  rfl

/-- An element is as it would be written. -/
theorem Element.is_canonical (tag : Tag) (content : Bytes) :
    (tag.element content).isCanonical = true :=
  beq_self_eq_true _

/-- An element takes a byte for the tag, and then those of the length and of the content. -/
theorem Tag.length_eq (tag : Tag) (parts : List Bytes) : (tag.of parts).length =
    1 + (writeLength parts.flatten.length).length + parts.flatten.length := by
  simp only [Tag.of, Element.bytes, Tag.element, Tag.write, List.length_append,
    List.length_singleton]

/-- Each part is shorter than the element. -/
theorem Tag.length_lt_of (tag : Tag) (parts : List Bytes) :
    parts.flatten.length < (tag.of parts).length := by
  have hlength := tag.length_eq parts
  omega

/-- An element is not much longer than its parts. -/
theorem Tag.length_of (tag : Tag) (parts : List Bytes) :
    (tag.of parts).length ≤ parts.flatten.length + parts.flatten.length / 1024 + 4 := by
  have hlength := tag.length_eq parts
  have hwidth := length_write_length parts.flatten.length
  omega

end EdgeFleet.Der
