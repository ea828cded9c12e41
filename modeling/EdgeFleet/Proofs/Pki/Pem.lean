import EdgeFleet.Pki.Pem
import EdgeFleet.Proofs.Text.Base64

/-!
# Blocks of text and back

A block can be read back from the text that it is written as, `parse_render`. The marks of a block
all begin with a hyphen and nothing that stands between them does, so that each mark is found where
it was put (`split_mark`).
-/

namespace EdgeFleet.Pki.Pem

open Text

variable {c : Char} {mark before text : List Char}

/-- A mark is found where its first character first stands. -/
theorem split_mark (h : c ∉ before) (rest : List Char) :
    splitAt? (c :: mark) (before ++ (c :: mark ++ rest)) = some (before, rest) := by
  induction before with
  | nil =>
      have hprefix : (c :: mark).isPrefixOf (c :: (mark ++ rest)) := by
        rw [List.isPrefixOf_iff_prefix]
        exact ⟨rest, rfl⟩
      simp only [List.nil_append, List.cons_append, splitAt?, hprefix, if_true, List.length_cons,
        List.drop_succ_cons, List.drop_left]
  | cons first before ih =>
      have hfirst : (c == first) = false := by
        rw [beq_eq_false_iff_ne]
        rintro rfl
        exact h (by simp)
      rw [List.cons_append, splitAt?, List.isPrefixOf, hfirst, Bool.false_and, if_neg (by simp),
        ih fun hc => h (by simp [hc])]
      rfl

/-- A mark whose first character does not occur is not found. -/
theorem split_absent (h : c ∉ text) : splitAt? (c :: mark) text = none := by
  induction text with
  | nil => rfl
  | cons first rest ih =>
      have hfirst : (c == first) = false := by
        rw [beq_eq_false_iff_ne]
        rintro rfl
        exact h (by simp)
      rw [splitAt?, List.isPrefixOf, hfirst, Bool.false_and, if_neg (by simp),
        ih fun hc => h (by simp [hc])]
      rfl

/-- What is neither a hyphen nor blank can stand in the body of a block. -/
def Plain (c : Char) : Prop :=
  c ≠ '-' ∧ isBlank c = false

/-- Bytes are written in characters that can stand in a body. -/
theorem plain_of_encode {bytes : Bytes} (h : c ∈ Base64.standard.encodeChars bytes) : Plain c := by
  have hdigits : ∀ value < 64, Base64.standard.digit value ≠ '-' ∧
      isBlank (Base64.standard.digit value) = false := by
    decide
  obtain rfl | ⟨value, hvalue, rfl⟩ := Base64.mem_encode h
  · unfold Plain
    decide
  · exact hdigits value hvalue

/-- Characters with line breaks before some of them, and one at the end. -/
def broken (width : Nat) : List (Char × Nat) → List Char
  | [] => ['\n']
  | (c, index) :: rest =>
    (if index % width = 0 && index ≠ 0 then ['\n', c] else [c]) ++ broken width rest

/-- The lines of a block are its characters with line breaks. -/
theorem wrap_eq (width : Nat) (cs : List Char) :
    wrap width cs ++ ['\n'] = broken width cs.zipIdx := by
  have hpairs : ∀ pairs : List (Char × Nat), (pairs.flatMap fun pair =>
      if pair.2 % width = 0 && pair.2 ≠ 0 then ['\n', pair.1] else [pair.1]) ++ ['\n'] =
        broken width pairs := by
    intro pairs
    induction pairs with
    | nil => rfl
    | cons pair rest ih => rw [broken, ← ih, List.flatMap_cons, List.append_assoc]
  exact hpairs cs.zipIdx

/-- Line breaks come on top of the characters, but at most one for each. -/
theorem length_broken (width : Nat) (pairs : List (Char × Nat)) :
    pairs.length < (broken width pairs).length ∧
      (broken width pairs).length ≤ 2 * pairs.length + 1 := by
  induction pairs with
  | nil => exact ⟨Nat.zero_lt_one, Nat.le_refl _⟩
  | cons pair rest ih =>
      rw [broken, List.length_append, List.length_cons]
      split
      · have htwo : ['\n', pair.1].length = 2 := rfl
        omega
      · have hone : [pair.1].length = 1 := rfl
        omega

section Body

variable {width : Nat} {pairs : List (Char × Nat)} (h : ∀ pair ∈ pairs, Plain pair.1)
include h

/-- Without its blanks, a body is what was broken into lines. -/
theorem filter_broken :
    (broken width pairs).filter (fun c => !isBlank c) = pairs.map (·.1) := by
  have hbreak : isBlank '\n' := by decide
  induction pairs with
  | nil => rfl
  | cons pair rest ih =>
      have hpair : isBlank pair.1 = false := (h pair (by simp)).2
      rw [broken, List.filter_append, ih fun other hother => h other (by simp [hother])]
      split <;> simp [hbreak, hpair]

/-- A body holds line breaks and plain characters only. -/
theorem mem_broken (hc : c ∈ broken width pairs) : c = '\n' ∨ Plain c := by
  induction pairs with
  | nil => exact .inl (List.mem_singleton.1 hc)
  | cons pair rest ih =>
      have hpair := h pair (by simp)
      rw [broken, List.mem_append] at hc
      obtain hc | hc := hc
      · split at hc
        · obtain rfl | rfl : c = '\n' ∨ c = pair.1 := by simpa using hc
          · exact .inl rfl
          · exact .inr hpair
        · obtain rfl : c = pair.1 := by simpa using hc
          exact .inr hpair
      · exact ih (fun other hother => h other (by simp [hother])) hc

/-- A body has no empty line. -/
theorem split_broken : splitAt? ['\n', '\n'] (broken width pairs) = none := by
  -- Every line break but the last is followed by a plain character.
  induction pairs with
  | nil => rfl
  | cons pair rest ih =>
      have hpair : pair.1 ≠ '\n' := by
        intro heq
        have hblank := (h pair (by simp)).2
        rw [heq] at hblank
        exact absurd hblank (by decide)
      have hnone := ih fun other hother => h other (by simp [hother])
      rw [broken]
      split <;> simp [splitAt?, List.isPrefixOf, Ne.symm hpair, hnone]

end Body

/-- The head of a body is empty. -/
theorem parts_broken {width : Nat} {pairs : List (Char × Nat)} (h : ∀ pair ∈ pairs, Plain pair.1) :
    parts (broken width pairs) = ([], broken width pairs) := by
  have hreturn : '\r' ∉ broken width pairs := by
    intro hc
    obtain heq | hplain := mem_broken h hc
    · exact absurd heq (by decide)
    · exact absurd hplain.2 (by decide)
  have hempty : splitAt? "\n\n".toList (broken width pairs) = none := split_broken h
  have hreturns : splitAt? "\r\n\r\n".toList (broken width pairs) = none := split_absent hreturn
  rw [parts, hempty, hreturns]
  rfl

/-- The characters of a block as text. -/
theorem chars_render (block : Pem) :
    (render block).toList =
      "-----BEGIN ".toList ++ (block.label.toList ++ ("-----".toList ++ ('\n' ::
        (broken 64 (Base64.standard.encodeChars block.content).zipIdx ++ ("-----END ".toList ++
          (block.label.toList ++ ("-----".toList ++ ['\n']))))))) := by
  have hopen : "-----\n".toList = "-----".toList ++ ['\n'] := rfl
  have hclose : "\n-----END ".toList = '\n' :: "-----END ".toList := rfl
  show ("-----BEGIN " ++ block.label ++ "-----\n"
    ++ .ofList (wrap 64 (Base64.standard.encodeChars block.content))
    ++ "\n-----END " ++ block.label ++ "-----\n").toList = _
  rw [← wrap_eq]
  simp only [String.toList_append, String.toList_ofList, hopen, hclose, List.append_assoc,
    List.cons_append, List.nil_append]

/-- A text is longer than what it holds, but not much more than four times as long. -/
theorem length_render (block : Pem) : block.content.length < (render block).length ∧
    (render block).length ≤ 4 * block.content.length + 2 * block.label.length + 40 := by
  have hchars := Base64.length_encode .standard block.content
  have hlines := length_broken 64 (Base64.standard.encodeChars block.content).zipIdx
  rw [List.length_zipIdx] at hlines
  have hmarks : "-----BEGIN ".toList.length = 11 ∧ "-----END ".toList.length = 9 ∧
      "-----".toList.length = 5 := by
    decide
  rw [← String.length_toList, chars_render]
  simp only [List.length_append, List.length_cons, List.length_nil, String.length_toList] at *
  omega

/-- What stands before the characters of a body is left out, and they can be read back. -/
theorem body_broken (content : Bytes) (rest : List Char) :
    ∃ body, '-' ∉ body ∧ parts body = ([], body) ∧
      Base64.standard.decodeChars? (body.filter fun c => !isBlank c) = some content ∧
      ('\n' :: (broken 64 (Base64.standard.encodeChars content).zipIdx ++ '-' :: rest)).dropWhile
        (fun c => c = ' ' || c = '\t' || c = '\n' || c = '\r') = body ++ '-' :: rest := by
  have hdecode := Base64.decode_encode Base64.standard_sound content
  have hplain : ∀ pair ∈ (Base64.standard.encodeChars content).zipIdx, Plain pair.1 :=
    fun pair hpair => plain_of_encode (List.fst_mem_of_mem_zipIdx hpair)
  cases hchars : Base64.standard.encodeChars content with
  | nil =>
      rw [hchars] at hdecode
      exact ⟨[], by simp, rfl, hdecode, rfl⟩
  | cons first others =>
      rw [hchars] at hdecode hplain
      refine ⟨broken 64 (first :: others).zipIdx, ?_, parts_broken hplain, ?_, ?_⟩
      · intro hc
        obtain heq | hhyphen := mem_broken hplain hc
        · exact absurd heq (by decide)
        · exact hhyphen.1 rfl
      · rw [filter_broken hplain, List.zipIdx_map_fst]
        exact hdecode
      · obtain ⟨-, hblank⟩ : Plain first := hplain (first, 0) (by simp)
        have hfirst : first ≠ ' ' ∧ first ≠ '\t' ∧ first ≠ '\n' ∧ first ≠ '\r' := by
          refine ⟨?_, ?_, ?_, ?_⟩ <;> rintro rfl <;> exact absurd hblank (by decide)
        simp [broken, List.zipIdx_cons, hfirst]

/-- A block can be read back from its text. -/
theorem parse_render (block : Pem) (hlabel : block.label ≠ "")
    (hhyphen : '-' ∉ block.label.toList) : parse? (render block) = some block := by
  obtain ⟨body, hbody, hparts, hdecode, hdrop⟩ := body_broken block.content
    ("----END ".toList ++ (block.label.toList ++ ("-----".toList ++ ['\n'])))
  have hbegin : ∀ rest, splitAt? "-----BEGIN ".toList ("-----BEGIN ".toList ++ rest) =
      some ([], rest) := fun rest => split_mark (List.not_mem_nil) rest
  have hend : ∀ rest, splitAt? "-----END ".toList (body ++ ("-----END ".toList ++ rest)) =
      some (body, rest) := fun rest => split_mark hbody rest
  have hmark : ∀ rest, splitAt? "-----".toList (block.label.toList ++ ("-----".toList ++ rest)) =
      some (block.label.toList, rest) := fun rest => split_mark hhyphen rest
  -- The hyphen of the last mark is what ends the characters in `body_broken`.
  have hdash : ∀ rest : List Char,
      "-----END ".toList ++ rest = '-' :: ("----END ".toList ++ rest) := fun _ => rfl
  have hnamed : (!block.label.toList.isEmpty && decide (block.label.toList = block.label.toList) &&
      isNamed []) = true := by
    simpa [isNamed] using hlabel
  rw [parse?, chars_render, hbegin]
  dsimp only [Option.bind_eq_bind, Option.bind_some]
  rw [hmark]
  dsimp only [Option.bind_some]
  rw [hdash, hdrop, ← hdash, hend]
  dsimp only [Option.bind_some]
  rw [hmark]
  dsimp only [Option.bind_some]
  rw [hparts, hnamed, hdecode, String.ofList_toList]
  rfl

end EdgeFleet.Pki.Pem
