import EdgeFleet.Proofs.Der.Reader

/-!
# What readers take does not depend on what follows

A reader is local if it takes the same bytes and gives the same value whatever follows these bytes
(`Reader.Local`). Readers of whole elements are. So the bytes from which such a reader has taken a
value tell the value, and the header of an element ends where it says itself
(`Element.header_inj`).
-/

namespace EdgeFleet.Der

namespace Reader

section

variable {α β : Type}

/-- Whether what a reader takes, and the value that it gives, are the same whatever follows. -/
def Local (reader : Reader α) : Prop :=
  ∀ (input : Bytes) (value : α) (rest : Bytes), reader input = some (value, rest) →
    ∃ taken, input = taken ++ rest ∧ ∀ others, reader (taken ++ others) = some (value, others)

variable {reader : Reader α} {next : α → Reader β}

theorem Local.pure (value : α) : Local (pure value) := by
  intro input found rest h
  cases h
  exact ⟨[], rfl, fun others => rfl⟩

theorem Local.bind (h : Local reader) (hnext : ∀ value, Local (next value)) :
    Local (reader >>= next) := by
  intro input result rest hread
  obtain ⟨value, between, hfirst, hsecond⟩ := of_bind_run hread
  obtain ⟨front, rfl, hfront⟩ := h _ _ _ hfirst
  obtain ⟨taken, rfl, htaken⟩ := hnext value _ _ _ hsecond
  refine ⟨front ++ taken, by rw [List.append_assoc], fun others => ?_⟩
  rw [List.append_assoc, bind_run (hfront (taken ++ others))]
  exact htaken others

/-- A condition takes nothing. -/
theorem Local.guard (condition : Prop) [Decidable condition] :
    Local (guard condition : Reader Unit) := by
  intro input value rest h
  have hholds := of_guard_run h
  rw [guard_run hholds] at h
  cases h
  exact ⟨[], rfl, fun others => guard_run hholds others⟩

/-- Nor does an answer. -/
theorem Local.lift (answer : Option α) : Local (StateT.lift answer) := by
  intro input value rest h
  cases answer with
  | none => cases h
  | some found =>
      cases h
      exact ⟨[], rfl, fun others => rfl⟩

theorem Local.failure : Local (failure : Reader α) := by
  intro input value rest h
  cases h

/-- Inputs that begin with the bytes that a reader has taken from one of them give the same value. -/
theorem Local.same (h : Local reader) {front rest others : Bytes} {value : α}
    (hread : reader (front ++ rest) = some (value, rest)) :
    reader (front ++ others) = some (value, others) := by
  obtain ⟨taken, htaken, hany⟩ := h _ _ _ hread
  rw [List.append_cancel_right htaken]
  exact hany others

end

end Reader

open Reader (Local)

/-! ### Headers -/

theorem Tag.read_number_local (limit value : Nat) :
    Local (readNumber? limit value : Reader Nat) := by
  intro input number rest h
  induction limit generalizing value input with
  | zero => cases h
  | succ limit ih =>
      cases input with
      | nil => cases h
      | cons byte others =>
          unfold readNumber? at h
          dsimp only at h
          split at h
          · rename_i hlast
            cases h
            refine ⟨[byte], rfl, fun others => ?_⟩
            show (if byte.toNat < 128 then _ else _) = _
            rw [if_pos hlast]
            rfl
          · rename_i hmore
            obtain ⟨taken, rfl, htaken⟩ := ih _ _ h
            refine ⟨byte :: taken, rfl, fun others => ?_⟩
            show (if byte.toNat < 128 then _ else _) = _
            rw [if_neg hmore]
            exact htaken others

theorem Tag.read_local : Local (Tag.read? : Reader Tag) := by
  intro input tag rest h
  cases input with
  | nil => cases h
  | cons byte others =>
      unfold read? at h
      dsimp only at h
      split at h
      · rename_i hlong
        obtain ⟨⟨number, rest⟩, hnumber, heq⟩ := Option.map_eq_some_iff.1 h
        cases heq
        obtain ⟨taken, rfl, htaken⟩ := read_number_local 5 0 _ _ _ hnumber
        refine ⟨byte :: taken, rfl, fun others => ?_⟩
        show (if byte.toNat % 32 = 31 then Option.map _ (readNumber? 5 0 (taken ++ others))
          else _) = _
        rw [if_pos hlong, htaken others]
        rfl
      · rename_i hshort
        cases h
        refine ⟨[byte], rfl, fun others => ?_⟩
        show (if byte.toNat % 32 = 31 then _ else _) = _
        rw [if_neg hshort]
        rfl

theorem read_length_local : Local (readLength? : Reader Nat) := by
  intro input length rest h
  cases input with
  | nil => cases h
  | cons byte others =>
      unfold readLength? at h
      dsimp only at h
      split at h
      · rename_i hshort
        cases h
        refine ⟨[byte], rfl, fun others => ?_⟩
        show (if byte.toNat < 128 then _ else _) = _
        rw [if_pos hshort]
        rfl
      · rename_i hlong
        split at h
        · cases h
        · rename_i hfits
          obtain ⟨rfl, rfl⟩ := Prod.mk.inj (Option.some.inj h)
          simp only [Bool.or_eq_true, decide_eq_true_eq, not_or, Nat.not_lt] at hfits
          obtain ⟨⟨⟨hpos, hreserved⟩, hwidth⟩, hlength⟩ := hfits
          refine ⟨byte :: others.take (byte.toNat - 128), ?_, fun following => ?_⟩
          · rw [List.cons_append, List.take_append_drop]
          · have htake : (others.take (byte.toNat - 128)).length = byte.toNat - 128 :=
              List.length_take_of_le hwidth
            show readLength? (byte :: (others.take (byte.toNat - 128) ++ following)) = _
            unfold readLength?
            dsimp only
            rw [if_neg hlong, List.take_left' htake, List.drop_left' htake, if_neg]
            simp only [Bool.or_eq_true, decide_eq_true_eq, not_or, Nat.not_lt, List.length_append,
              htake]
            exact ⟨⟨⟨hpos, hreserved⟩, Nat.le_add_right _ _⟩, hlength⟩

/-- The tag of the next element and the length of its content. -/
def Reader.header : Reader (Tag × Nat) := do
  let tag ← Tag.read?
  let length ← readLength?
  return (tag, length)

namespace Reader

theorem header_local : Local header :=
  Tag.read_local.bind fun _ => read_length_local.bind fun _ => .pure _

/-- An element that was read is a header and a content of the length that the header tells. -/
theorem of_element {input rest : Bytes} {found : Element} (h : element input = some (found, rest)) :
    input = found.header ++ (found.content ++ rest) ∧
      header input = some ((found.tag, found.content.length), found.content ++ rest) := by
  obtain ⟨⟨tag, behindTag⟩, htag, h⟩ := Option.bind_eq_some_iff.1 h
  obtain ⟨⟨length, behind⟩, hlength, h⟩ := Option.bind_eq_some_iff.1 h
  obtain ⟨⟨⟩, hguard, h⟩ := Option.bind_eq_some_iff.1 h
  have hfits : length ≤ behind.length := by
    by_cases hfits : length ≤ behind.length
    · exact hfits
    · change (if length ≤ behind.length then _ else _) = _ at hguard
      rw [if_neg hfits] at hguard
      cases hguard
  cases h
  have hheader : header input = some ((tag, length), behind) :=
    (bind_run htag).trans (bind_run hlength)
  obtain ⟨taken, rfl, -⟩ := header_local _ _ _ hheader
  have hfront : (taken ++ behind).take ((taken ++ behind).length - behind.length) = taken := by
    rw [List.length_append, Nat.add_sub_cancel, List.take_left]
  dsimp only
  rw [hfront, List.take_append_drop, List.length_take_of_le hfits]
  exact ⟨rfl, hheader⟩

/-- A header and as many bytes as it tells are an element. -/
theorem element_of_header {front content rest : Bytes} {tag : Tag}
    (h : header (front ++ (content ++ rest)) = some ((tag, content.length), content ++ rest)) :
    element (front ++ (content ++ rest)) = some (⟨tag, front, content⟩, rest) := by
  obtain ⟨found, behindTag, htag, hrest⟩ := of_bind_run h
  obtain ⟨length, behind, hlength, hrest⟩ := of_bind_run hrest
  cases hrest
  show (Tag.read? _).bind _ = _
  rw [htag, Option.bind_some]
  show (readLength? behindTag).bind _ = _
  rw [hlength, Option.bind_some]
  dsimp only
  have hfront : (front ++ (content ++ rest)).length - (content ++ rest).length = front.length := by
    rw [List.length_append, Nat.add_sub_cancel]
  rw [List.take_left, List.drop_left, hfront, List.take_left]
  show (if _ ≤ _ then (pure () : Option Unit) else failure).bind _ = _
  rw [if_pos (by rw [List.length_append]; exact Nat.le_add_right _ _)]
  rfl

theorem element_local : Local element := by
  intro input found rest h
  obtain ⟨hinput, hheader⟩ := of_element h
  refine ⟨found.header ++ found.content, by rw [hinput, List.append_assoc], fun others => ?_⟩
  rw [hinput] at hheader
  rw [List.append_assoc]
  exact element_of_header (header_local.same hheader)

/-! ### Elements -/

theorem typed_local (tag : Tag) : Local (typed tag) :=
  element_local.bind fun _ => (Local.guard _).bind fun _ => .pure _

theorem within_local {α : Type} (tag : Tag) (reader : Reader α) : Local (within tag reader) :=
  (typed_local tag).bind fun _ => .lift _

theorem bit_string_local : Local bitString := by
  refine (typed_local .bitString).bind fun found => ?_
  split
  · exact .failure
  · split
    · split
      · exact .pure _
      · exact .failure
    · split
      · exact .pure _
      · exact .failure

end Reader

/-- Headers of elements that were read tell themselves apart from what follows. -/
theorem Element.header_inj {first second : Element} {input other rest left front back : Bytes}
    (hfirst : Reader.element input = some (first, rest))
    (hsecond : Reader.element other = some (second, left))
    (h : first.header ++ front = second.header ++ back) :
    first.header = second.header ∧ front = back := by
  obtain ⟨rfl, hfirst⟩ := Reader.of_element hfirst
  obtain ⟨rfl, hsecond⟩ := Reader.of_element hsecond
  have hread : Reader.header (first.header ++ front) = some (_, front) :=
    Reader.header_local.same hfirst
  have hother : Reader.header (second.header ++ back) = some (_, back) :=
    Reader.header_local.same hsecond
  rw [h, hother] at hread
  have hback : back = front := (Prod.mk.inj (Option.some.inj hread)).2
  subst hback
  exact ⟨List.append_cancel_right h, rfl⟩

namespace Reader

section

variable {α : Type} {reader : Reader α}

/-- The bytes that a local reader has taken tell the value. -/
theorem Local.value_inj (h : Local reader) {input other rest left : Bytes} {value result : α}
    (hread : reader input = some (value, rest)) (hother : reader other = some (result, left))
    (htaken : input.take (input.length - rest.length) = other.take (other.length - left.length)) :
    value = result := by
  obtain ⟨front, rfl, hfront⟩ := h _ _ _ hread
  obtain ⟨back, rfl, hback⟩ := h _ _ _ hother
  rw [List.length_append, Nat.add_sub_cancel, List.take_left, List.length_append,
    Nat.add_sub_cancel, List.take_left] at htaken
  have hsame := hfront left
  rw [htaken, hother] at hsame
  exact (Prod.mk.inj (Option.some.inj hsame)).1.symm

theorem of_typed {tag : Tag} {input rest : Bytes} {found : Element}
    (h : typed tag input = some (found, rest)) : element input = some (found, rest) := by
  obtain ⟨element, between, helement, hnext⟩ := of_bind_run h
  obtain ⟨⟨⟩, last, hguard, hresult⟩ := of_bind_run hnext
  rw [guard_run (of_guard_run hguard)] at hguard
  cases hguard
  cases hresult
  exact helement

/-- So do the bytes of a structure as far as such a reader has read it. -/
theorem sequence_with_bytes_inj (h : Local reader) {input other rest left bytes : Bytes}
    {value result : α} (hread : sequenceWithBytes reader input = some ((value, bytes), rest))
    (hother : sequenceWithBytes reader other = some ((result, bytes), left)) : value = result := by
  obtain ⟨first, firstLast, hfirst, hvalue, rfl⟩ := of_sequence_with_bytes hread
  obtain ⟨second, secondLast, hsecond, hresult, hbytes⟩ := of_sequence_with_bytes hother
  obtain ⟨-, htaken⟩ := Element.header_inj (of_typed hfirst) (of_typed hsecond) hbytes
  exact h.value_inj hvalue hresult htaken

end

end Reader

end EdgeFleet.Der
