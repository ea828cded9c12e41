import EdgeFleet.Text.Base64

/-!
# Bytes as text and back

Bytes can be read back from the text that they are written as. The six bits of a digit are the only
thing that a form has to get right (`Base64.Sound`); `decode_encode` does the rest, three bytes at a
time.
-/

namespace EdgeFleet.Base64

variable {form : Base64}

/-- The digits of a form can be told apart from each other and from padding. -/
def Sound (form : Base64) : Prop :=
  ∀ value < 64, form.value? (form.digit value) = some value ∧ form.digit value ≠ '='

/-- The usual form is sound. -/
theorem standard_sound : standard.Sound := by
  unfold Sound
  decide

/-- A byte is what its number is written as, whatever stands above it. -/
theorem of_nat_low (byte : UInt8) (high : Nat) : UInt8.ofNat (high * 256 + byte.toNat) = byte := by
  have hbyte := byte.toNat_lt
  apply UInt8.toNat_inj.1
  rw [UInt8.toNat_ofNat']
  omega

/-- Four digits that follow one another are read as three bytes. -/
theorem decode_group (h : form.Sound) (a b c : UInt8) (rest : List Char) :
    let bits := (a.toNat * 256 + b.toNat) * 256 + c.toNat
    form.decodeChars? (form.digit (bits / 262144) :: form.digit (bits / 4096 % 64) ::
        form.digit (bits / 64 % 64) :: form.digit (bits % 64) :: rest) =
      (form.decodeChars? rest).map ([a, b, c] ++ ·) := by
  intro bits
  have ha := a.toNat_lt
  have hb := b.toNat_lt
  have hc := c.toNat_lt
  obtain ⟨hfirst, -⟩ := h (bits / 262144) (by omega)
  obtain ⟨hsecond, -⟩ := h (bits / 4096 % 64) (by omega)
  obtain ⟨hthird, hthirdPad⟩ := h (bits / 64 % 64) (by omega)
  obtain ⟨hfourth, hfourthPad⟩ := h (bits % 64) (by omega)
  have hbits : ((bits / 262144 * 64 + bits / 4096 % 64) * 64 + bits / 64 % 64) * 64 + bits % 64 =
      bits := by
    omega
  have hbytes : UInt8.ofNat (bits / 65536) = a ∧ UInt8.ofNat (bits / 256) = b ∧
      UInt8.ofNat bits = c := by
    refine ⟨?_, ?_, of_nat_low c _⟩
    · rw [show bits / 65536 = 0 * 256 + a.toNat by omega, of_nat_low]
    · rw [show bits / 256 = a.toNat * 256 + b.toNat by omega, of_nat_low]
  obtain ⟨hbytesA, hbytesB, hbytesC⟩ := hbytes
  rw [decodeChars?]
  · simp only [hfirst, hsecond, hthird, hfourth, Option.bind_eq_bind, Option.bind_some, hbits,
      hbytesA, hbytesB, hbytesC]
    cases form.decodeChars? rest <;> rfl
  · exact fun heq _ _ => hthirdPad heq
  · exact fun heq _ => hfourthPad heq

/-- Two digits at the end are read as one byte. -/
theorem decode_last_one (h : form.Sound) (a : UInt8) :
    let bits := a.toNat * 16
    form.decodeLast? [form.digit (bits / 64), form.digit (bits % 64)] = some [a] := by
  intro bits
  have ha := a.toNat_lt
  obtain ⟨hfirst, -⟩ := h (bits / 64) (by omega)
  obtain ⟨hsecond, -⟩ := h (bits % 64) (by omega)
  have hbits : bits / 64 * 64 + bits % 64 = bits := by omega
  have hspare : bits % 16 = 0 := by omega
  have hbyte : UInt8.ofNat (bits / 16) = a := by
    rw [show bits / 16 = 0 * 256 + a.toNat by omega, of_nat_low]
  simp [decodeLast?, hfirst, hsecond, hbits, hspare, hbyte]

/-- Three digits at the end are read as two bytes. -/
theorem decode_last_two (h : form.Sound) (a b : UInt8) :
    let bits := (a.toNat * 256 + b.toNat) * 4
    form.decodeLast? [form.digit (bits / 4096), form.digit (bits / 64 % 64),
      form.digit (bits % 64)] = some [a, b] := by
  intro bits
  have ha := a.toNat_lt
  have hb := b.toNat_lt
  obtain ⟨hfirst, -⟩ := h (bits / 4096) (by omega)
  obtain ⟨hsecond, -⟩ := h (bits / 64 % 64) (by omega)
  obtain ⟨hthird, -⟩ := h (bits % 64) (by omega)
  have hbits : (bits / 4096 * 64 + bits / 64 % 64) * 64 + bits % 64 = bits := by omega
  have hspare : bits % 4 = 0 := by omega
  have hbytes : UInt8.ofNat (bits / 1024) = a ∧ UInt8.ofNat (bits / 4) = b := by
    constructor
    · rw [show bits / 1024 = 0 * 256 + a.toNat by omega, of_nat_low]
    · rw [show bits / 4 = a.toNat * 256 + b.toNat by omega, of_nat_low]
  simp [decodeLast?, hfirst, hsecond, hthird, hbits, hspare, hbytes]

/-- Bytes can be read back from what they are written as. -/
theorem decode_encode (h : form.Sound) (bytes : Bytes) :
    form.decodeChars? (form.encodeChars bytes) = some bytes := by
  induction bytes using encodeChars.induct with
  | case1 => cases hpadded : form.padded <;> simp [encodeChars, decodeChars?, decodeLast?, hpadded]
  | case2 a =>
      have hlast := decode_last_one h a
      cases hpadded : form.padded with
      | true =>
          simp only [encodeChars, padding, hpadded, if_true, List.replicate, decodeChars?]
          exact hlast
      | false =>
          simp only [encodeChars, padding, hpadded, Bool.false_eq_true, if_false, decodeChars?,
            Bool.false_and]
          exact hlast
  | case3 a b =>
      have hlast := decode_last_two h a b
      cases hpadded : form.padded with
      | true =>
          simp only [encodeChars, padding, hpadded, if_true, List.replicate]
          rw [decodeChars?]
          · simp only [hpadded, if_true]
            exact hlast
          · exact (h _ (Nat.mod_lt _ (by decide))).2
      | false =>
          simp only [encodeChars, padding, hpadded, Bool.false_eq_true, if_false]
          rw [decodeChars?]
          · simp only [hpadded, Bool.false_and, Bool.false_eq_true, if_false]
            exact hlast
          -- Three characters match none of the patterns of four.
          all_goals simp
  | case4 a b c rest ih => rw [encodeChars, decode_group h, ih]; rfl

/-- Bytes are written in digits and padding alone. -/
theorem mem_encode {c : Char} {bytes : Bytes} (h : c ∈ form.encodeChars bytes) :
    c = '=' ∨ ∃ value < 64, c = form.digit value := by
  have hpadding : ∀ {count}, c ∈ form.padding count → c = '=' := by
    intro count hc
    unfold padding at hc
    split at hc
    · exact List.eq_of_mem_replicate hc
    · cases hc
  induction bytes using encodeChars.induct with
  | case1 => cases h
  | case2 a =>
      have ha := a.toNat_lt
      simp only [encodeChars, List.mem_cons] at h
      obtain rfl | rfl | h := h
      · exact .inr ⟨_, by omega, rfl⟩
      · exact .inr ⟨_, by omega, rfl⟩
      · exact .inl (hpadding h)
  | case3 a b =>
      have ha := a.toNat_lt
      have hb := b.toNat_lt
      simp only [encodeChars, List.mem_cons] at h
      obtain rfl | rfl | rfl | h := h
      · exact .inr ⟨_, by omega, rfl⟩
      · exact .inr ⟨_, by omega, rfl⟩
      · exact .inr ⟨_, by omega, rfl⟩
      · exact .inl (hpadding h)
  | case4 a b c rest ih =>
      have ha := a.toNat_lt
      have hb := b.toNat_lt
      have hc := c.toNat_lt
      simp only [encodeChars, List.mem_cons] at h
      obtain rfl | rfl | rfl | rfl | h := h
      · exact .inr ⟨_, by omega, rfl⟩
      · exact .inr ⟨_, by omega, rfl⟩
      · exact .inr ⟨_, by omega, rfl⟩
      · exact .inr ⟨_, by omega, rfl⟩
      · exact ih h

/-- There are no fewer characters than bytes, and not much more than twice as many. -/
theorem length_encode (form : Base64) (bytes : Bytes) :
    bytes.length ≤ (form.encodeChars bytes).length ∧
      (form.encodeChars bytes).length ≤ 2 * bytes.length + 2 := by
  have hpadding (count : Nat) : (form.padding count).length ≤ count := by
    unfold padding
    split
    · exact Nat.le_of_eq (List.length_replicate ..)
    · exact Nat.zero_le _
  induction bytes using encodeChars.induct with
  | case1 => exact ⟨Nat.zero_le _, Nat.zero_le _⟩
  | case2 a =>
      have htwo := hpadding 2
      simp only [encodeChars, List.length_cons, List.length_nil]
      omega
  | case3 a b =>
      have hone := hpadding 1
      simp only [encodeChars, List.length_cons, List.length_nil]
      omega
  | case4 a b c rest ih =>
      simp only [encodeChars, List.length_cons]
      omega

end EdgeFleet.Base64
