import EdgeFleet.Bytes

/-!
# Bytes that are nearly text

`Bytes.nearestText` reads bytes as UTF-8 and puts a replacement character wherever they are not:
one for every sequence that starts well but goes wrong, and one for every byte that cannot start a
sequence.
-/

namespace EdgeFleet.Bytes

/-- The replacement character. -/
def replacement : Char := '\uFFFD'

/-- The ranges of the bytes that may follow the first byte of a sequence. -/
def following (first : UInt8) : List (UInt8 × UInt8) :=
  let any : UInt8 × UInt8 := (0x80, 0xBF)
  if first < 0xC2 then []
  else if first < 0xE0 then [any]
  else if first = 0xE0 then [(0xA0, 0xBF), any]
  else if first = 0xED then [(0x80, 0x9F), any]
  else if first < 0xF0 then [any, any]
  else if first = 0xF0 then [(0x90, 0xBF), any, any]
  else if first < 0xF4 then [any, any, any]
  else if first = 0xF4 then [(0x80, 0x8F), any, any]
  else []

/-- The bytes at the head of a list that fit into ranges, one each, and the rest. -/
def takeFitting : List (UInt8 × UInt8) → Bytes → Bytes × Bytes
  | (low, high) :: ranges, byte :: rest =>
    if low ≤ byte && byte ≤ high then
      let (taken, rest) := takeFitting ranges rest
      (byte :: taken, rest)
    else ([], byte :: rest)
  | _, bytes => ([], bytes)

/-- Nothing is lost between what fits and the rest. -/
theorem takeFitting_append (ranges : List (UInt8 × UInt8)) (bytes : Bytes) :
    (takeFitting ranges bytes).1 ++ (takeFitting ranges bytes).2 = bytes := by
  induction ranges generalizing bytes with
  | nil => cases bytes <;> rfl
  | cons range ranges ih =>
    cases bytes with
    | nil => rfl
    | cons byte rest =>
      simp only [takeFitting]
      split
      · simp [ih rest]
      · rfl

/-- What does not fit is no longer than what was there. -/
theorem length_takeFitting_le (ranges : List (UInt8 × UInt8)) (bytes : Bytes) :
    (takeFitting ranges bytes).2.length ≤ bytes.length := by
  have h := congrArg List.length (takeFitting_append ranges bytes)
  rw [List.length_append] at h
  omega

/-- The characters of bytes, with replacements. -/
def nearestChars : Bytes → List Char
  | [] => []
  | first :: rest =>
    let ranges := following first
    let split := takeFitting ranges rest
    let c :=
      if first < 0x80 then Char.ofNat first.toNat
      else if ranges.isEmpty || split.1.length < ranges.length then replacement
      else
        let lead := first.toNat % Nat.pow 2 (6 - ranges.length)
        Char.ofNat (split.1.foldl (fun value byte => value * 64 + byte.toNat % 64) lead)
    c :: nearestChars split.2
termination_by bytes => bytes.length
decreasing_by
  have := length_takeFitting_le (following first) rest
  simp only [List.length_cons]
  omega

/-- The text of bytes, with replacements. -/
def nearestText (bytes : Bytes) : String :=
  .ofList (nearestChars bytes)

end EdgeFleet.Bytes
