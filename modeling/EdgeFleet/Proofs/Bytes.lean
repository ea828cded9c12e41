import EdgeFleet.Files.Fault

/-!
# Texts and numbers as bytes and back
-/

namespace EdgeFleet

namespace Bytes

/-! ### Texts -/

/-- A text can be read back from its bytes. -/
theorem text_of_text (text : String) : text? (ofText text) = some text := by
  have hbytes : (⟨(ofText text).toArray⟩ : ByteArray) = text.toUTF8 := by simp [ofText]
  simp only [text?, hbytes, String.fromUTF8?, String.toUTF8_eq_toByteArray,
    dif_pos text.isValidUTF8]
  rfl

/-- Bytes that are a text are the bytes of this text. -/
theorem of_text_of_text {bytes : Bytes} {text : String} (h : text? bytes = some text) :
    ofText text = bytes := by
  unfold text? String.fromUTF8? at h
  split at h
  · obtain rfl := Option.some.inj h
    exact List.toList_toArray
  · cases h

/-- The bytes of two texts in a row. -/
theorem of_text_append (front back : String) :
    ofText (front ++ back) = ofText front ++ ofText back := by
  unfold ofText
  rw [String.toUTF8_eq_toByteArray, String.toByteArray_append]
  simp

/-! ### Numbers -/

/-- The least number that does not fit into a number of bytes. -/
def limit (width : Nat) : Nat := Nat.pow 256 width

theorem limit_succ (width : Nat) : limit (width + 1) = limit width * 256 := rfl

theorem limit_pos (width : Nat) : 0 < limit width :=
  Nat.pow_pos (by decide)

/-- Eight binary digits take one byte. -/
theorem lt_limit_iff {value : Nat} (hpos : value ≠ 0) (width : Nat) :
    value < limit width ↔ Nat.log2 value < 8 * width := by
  rw [Nat.log2_lt hpos, Nat.pow_mul]
  rfl

/-- Bytes that are read behind a number move it up by their places. -/
theorem foldl_to_nat (bytes : Bytes) (value : Nat) :
    bytes.foldl (fun value byte => value * 256 + byte.toNat) value =
      value * limit bytes.length + toNat bytes := by
  unfold toNat
  induction bytes generalizing value with
  | nil => exact (Nat.mul_one value).symm
  | cons byte rest ih =>
      rw [List.foldl_cons, List.foldl_cons, ih, ih (0 * 256 + byte.toNat), List.length_cons,
        limit_succ, Nat.add_mul, Nat.mul_assoc, Nat.mul_comm 256, Nat.zero_mul, Nat.zero_add,
        Nat.add_assoc]

/-- The number of a byte string by its first byte. -/
theorem to_nat_cons (byte : UInt8) (bytes : Bytes) :
    toNat (byte :: bytes) = byte.toNat * limit bytes.length + toNat bytes := by
  show bytes.foldl _ (0 * 256 + byte.toNat) = _
  rw [foldl_to_nat, Nat.zero_mul, Nat.zero_add]

/-- The bytes of a number by their first. -/
theorem of_nat_succ (width value : Nat) :
    ofNat (width + 1) value = .ofNat (value / limit width) :: ofNat width value := by
  unfold ofNat
  rw [List.range_succ, List.reverse_append]
  rfl

/-- A number is written with as many bytes as asked for. -/
theorem length_of_nat (width value : Nat) : (ofNat width value).length = width := by
  simp [ofNat]

/-- The last bytes of a number stand for what is left of it. -/
theorem to_nat_of_nat (width value : Nat) : toNat (ofNat width value) = value % limit width := by
  induction width with
  | zero => exact (Nat.mod_one value).symm
  | succ width ih =>
      have hbyte : (UInt8.ofNat (value / limit width)).toNat = value / limit width % 256 := rfl
      rw [of_nat_succ, to_nat_cons, ih, length_of_nat, hbyte, limit_succ, Nat.mod_mul,
        Nat.mul_comm, Nat.add_comm]

/-- The fewest bytes of a number are enough. -/
theorem lt_shortest (value : Nat) : value < limit (Nat.log2 value / 8 + 1) := by
  by_cases hzero : value = 0
  · rw [hzero]
    exact limit_pos _
  · rw [lt_limit_iff hzero]
    omega

/-- A number is read back from its fewest bytes. -/
theorem to_nat_shortest (value : Nat) : toNat (ofNatShortest value) = value := by
  rw [ofNatShortest, to_nat_of_nat, Nat.mod_eq_of_lt (lt_shortest value)]

/-- The fewest bytes have none to spare. -/
theorem shortest_head {value : Nat} {first second : UInt8} {rest : Bytes}
    (h : ofNatShortest value = first :: second :: rest) : first ≠ 0 := by
  unfold ofNatShortest at h
  rw [of_nat_succ] at h
  obtain ⟨hfirst, hrest⟩ := List.cons.inj h
  have hlength : Nat.log2 value / 8 = rest.length + 1 := by
    have hlen := congrArg List.length hrest
    rwa [length_of_nat] at hlen
  have hpos : value ≠ 0 := by
    intro hzero
    rw [hzero, Nat.log2_zero] at hlength
    omega
  -- The highest place is below the binary digits, so that something stands there.
  have hle : limit (Nat.log2 value / 8) ≤ value := by
    rw [← Nat.not_lt, lt_limit_iff hpos]
    omega
  have hplace : 0 < value / limit (Nat.log2 value / 8) :=
    Nat.div_pos hle (limit_pos _)
  have hsmall : value / limit (Nat.log2 value / 8) < 256 :=
    Nat.div_lt_of_lt_mul (lt_shortest value)
  intro hzero
  rw [hzero] at hfirst
  have hbyte : value / limit (Nat.log2 value / 8) % 256 = 0 := congrArg UInt8.toNat hfirst
  omega

end Bytes

/-- A file that holds a text is read as that text. -/
theorem Files.text_of_text (text : String) : Files.text (.ofText text) = .ok text := by
  rw [Files.text, Bytes.text_of_text]

/-- A file that is read as a text holds the bytes of this text. -/
theorem Files.of_text_of_text {content : Bytes} {text : String}
    (h : Files.text content = .ok text) : .ofText text = content := by
  unfold Files.text at h
  split at h
  · rename_i hread
    obtain rfl := Except.ok.inj h
    exact Bytes.of_text_of_text hread
  · cases h

end EdgeFleet
