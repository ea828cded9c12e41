import EdgeFleet.Der.Reader
import EdgeFleet.Proofs.Der.Element

/-!
# Readers and what was written for them

`Reads` says that a reader takes a value from certain bytes, whatever follows them, and `ReadsAll`
that it does so from bytes that nothing follows, as is the case for the content of an element. There
is a rule for each way in which readers are put together, so that a reader is shown to read what was
written along its own steps. Both say nothing of bytes that are too long for a length: parts of what
can be written are short enough, so that this matters for documents as a whole only.
-/

namespace EdgeFleet.Der

namespace Reader

section

variable {α β : Type}

/-- Whether a reader takes a value from bytes and leaves whatever follows them. -/
def Reads (reader : Reader α) (bytes : Bytes) (value : α) : Prop :=
  bytes.length < lengthLimit → ∀ rest, reader (bytes ++ rest) = some (value, rest)

/-- Whether a reader takes a value from bytes that nothing follows, up to their end. -/
def ReadsAll (reader : Reader α) (bytes : Bytes) (value : α) : Prop :=
  bytes.length < lengthLimit → reader bytes = some (value, [])

/-- Whether a reader tells a value by bytes that it does not take. -/
def Sees (reader : Reader α) (bytes : Bytes) (value : α) : Prop :=
  bytes.length < lengthLimit → ∀ rest, reader (bytes ++ rest) = some (value, bytes ++ rest)

variable {reader : Reader α} {next : α → Reader β} {bytes others content : Bytes} {value : α}
  {result : β} {tag : Tag} {parts : List Bytes}

/-! ### Steps in a row -/

theorem bind_run {input rest : Bytes} (h : reader input = some (value, rest)) :
    (reader >>= next) input = next value rest := by
  show (reader input).bind (fun taken => next taken.1 taken.2) = _
  rw [h]
  rfl

theorem bind_fails {input : Bytes} (h : reader input = none) : (reader >>= next) input = none := by
  show (reader input).bind (fun taken => next taken.1 taken.2) = none
  rw [h]
  rfl

/-- What was read in steps was read by each of them. -/
theorem of_bind_run {input rest : Bytes} (h : (reader >>= next) input = some (result, rest)) :
    ∃ value between, reader input = some (value, between) ∧
      next value between = some (result, rest) := by
  change (reader input).bind (fun taken => next taken.1 taken.2) = some (result, rest) at h
  obtain ⟨⟨value, between⟩, hread, hnext⟩ := Option.bind_eq_some_iff.1 h
  exact ⟨value, between, hread, hnext⟩

/-- What is inside was read from the front. -/
theorem of_inside (h : inside reader content = some value) :
    ∃ rest, reader content = some (value, rest) := by
  obtain ⟨⟨found, rest⟩, hread, rfl⟩ := Option.map_eq_some_iff.1 h
  exact ⟨rest, hread⟩

/-- An answer that was given was there. -/
theorem of_lift_run {answer : Option α} {input rest : Bytes}
    (h : (StateT.lift answer : Reader α) input = some (value, rest)) :
    answer = some value ∧ rest = input := by
  obtain ⟨found, hfound, h⟩ := Option.bind_eq_some_iff.1 h
  cases h
  exact ⟨hfound, rfl⟩

/-- What is within an element was read from its content. -/
theorem of_within {input rest : Bytes} (h : within tag reader input = some (value, rest)) :
    ∃ found last, typed tag input = some (found, rest) ∧
      reader found.content = some (value, last) := by
  obtain ⟨found, between, htyped, h⟩ := of_bind_run h
  obtain ⟨hinside, rfl⟩ := of_lift_run h
  obtain ⟨last, hread⟩ := of_inside hinside
  exact ⟨found, last, htyped, hread⟩

/-- With its bytes as far as they were read. -/
theorem of_sequence_with_bytes {input rest taken : Bytes}
    (h : sequenceWithBytes reader input = some ((value, taken), rest)) :
    ∃ found last, typed .sequence input = some (found, rest) ∧
      reader found.content = some (value, last) ∧
        taken = found.header ++ found.content.take (found.content.length - last.length) := by
  obtain ⟨found, between, htyped, hcontent⟩ := of_bind_run h
  obtain ⟨⟨inner, front⟩, left, hlift, hresult⟩ := of_bind_run hcontent
  obtain ⟨hinside, hleft⟩ := of_lift_run hlift
  cases hresult
  subst hleft
  obtain ⟨last, hbytes⟩ := of_inside hinside
  obtain ⟨⟨found, last⟩, hread, heq⟩ := Option.map_eq_some_iff.1 hbytes
  cases heq
  exact ⟨found, last, htyped, hread, rfl⟩

/-- What is within an exact element was read from its content. -/
theorem of_exactly_within {input rest : Bytes}
    (h : exactlyWithin tag reader input = some (value, rest)) :
    ∃ content between, reader content = some (value, between) := by
  obtain ⟨content, left, -, h⟩ := of_bind_run h
  obtain ⟨hinside, rfl⟩ := of_lift_run h
  obtain ⟨last, hread⟩ := of_inside hinside
  obtain ⟨found, between, hfound, hrest⟩ := of_bind_run hread
  obtain ⟨⟨⟩, final, -, hlast⟩ := of_bind_run hrest
  cases hlast
  exact ⟨content, between, hfound⟩

theorem guard_run {condition : Prop} [Decidable condition] (h : condition) (input : Bytes) :
    (guard condition : Reader Unit) input = some ((), input) := by
  show (if condition then (pure () : Reader Unit) else failure) input = _
  rw [if_pos h]
  rfl

theorem guard_fails {condition : Prop} [Decidable condition] (h : ¬ condition) (input : Bytes) :
    (guard condition : Reader Unit) input = none := by
  show (if condition then (pure () : Reader Unit) else failure) input = none
  rw [if_neg h]
  rfl

/-- A condition that was passed holds. -/
theorem of_guard_run {condition : Prop} [Decidable condition] {input rest : Bytes} {result : Unit}
    (h : (guard condition : Reader Unit) input = some (result, rest)) : condition := by
  by_cases hcondition : condition
  · exact hcondition
  · rw [guard_fails hcondition] at h
    cases h

theorem Reads.pure (value : α) : Reads (pure value) [] value :=
  fun _ _ => rfl

theorem Reads.bind (h : Reads reader bytes value) (hnext : Reads (next value) others result) :
    Reads (reader >>= next) (bytes ++ others) result := by
  intro hlength rest
  rw [List.length_append] at hlength
  rw [List.append_assoc, bind_run (h (by omega) _)]
  exact hnext (by omega) rest

/-- The last step may take nothing. -/
theorem Reads.bindLast (h : Reads reader bytes value) (hnext : Reads (next value) [] result) :
    Reads (reader >>= next) bytes result := by
  have hread := h.bind hnext
  rwa [List.append_nil] at hread

theorem Reads.readsAll (h : Reads reader bytes value) : ReadsAll reader bytes value := by
  intro hlength
  have hread := h hlength []
  rwa [List.append_nil] at hread

theorem ReadsAll.pure (value : α) : ReadsAll (pure value) [] value :=
  fun _ => rfl

theorem Reads.bindAll (h : Reads reader bytes value)
    (hnext : ReadsAll (next value) others result) :
    ReadsAll (reader >>= next) (bytes ++ others) result := by
  intro hlength
  rw [List.length_append] at hlength
  rw [bind_run (h (by omega) others)]
  exact hnext (by omega)

theorem ReadsAll.bind (h : ReadsAll reader bytes value) (hnext : ReadsAll (next value) [] result) :
    ReadsAll (reader >>= next) bytes result := by
  intro hlength
  rw [bind_run (h hlength)]
  exact hnext (by decide)

theorem Sees.bind (h : Sees reader bytes value) (hnext : Reads (next value) bytes result) :
    Reads (reader >>= next) bytes result := by
  intro hlength rest
  rw [bind_run (h hlength rest)]
  exact hnext hlength rest

theorem Sees.bindAll (h : Sees reader bytes value) (hnext : ReadsAll (next value) bytes result) :
    ReadsAll (reader >>= next) bytes result := by
  intro hlength
  have hsees := h hlength []
  rw [List.append_nil] at hsees
  rw [bind_run hsees]
  exact hnext hlength

/-- Nothing is left over. -/
theorem ReadsAll.ended (h : ReadsAll reader bytes value) :
    ReadsAll (do let found ← reader; ended; return found) bytes value :=
  h.bind fun _ => rfl

/-- An answer that is there takes nothing. -/
theorem Reads.lift {answer : Option α} (h : answer = some value) :
    Reads (StateT.lift answer) [] value := by
  intro _ rest
  rw [h]
  rfl

/-- A condition that holds is told by any bytes. -/
theorem Sees.holds {condition : Prop} [Decidable condition] (h : condition) (bytes : Bytes) :
    Sees (guard condition) bytes () :=
  fun _ rest => guard_run h (bytes ++ rest)

/-- A reader may look at all that is left. -/
theorem ReadsAll.get {next : Bytes → Reader β} (h : ReadsAll (next bytes) bytes result) :
    ReadsAll (get >>= next) bytes result :=
  fun hlength => h hlength

/-- What is read from all of a content is what is inside. -/
theorem ReadsAll.inside (h : ReadsAll reader bytes value) (hlength : bytes.length < lengthLimit) :
    inside reader bytes = some value := by
  rw [Reader.inside, h hlength]
  rfl

/-! ### Elements -/

/-- A content is shorter than the element with it. -/
theorem length_of_element (h : (tag.element content).bytes.length < lengthLimit) :
    content.length < lengthLimit := by
  have hlength := tag.length_lt_of [content]
  rw [List.flatten_singleton] at hlength
  have hbytes : tag.of [content] = (tag.element content).bytes := by
    rw [Tag.of, List.flatten_singleton]
  rw [hbytes] at hlength
  omega

theorem Reads.element (htag : tag.number < 31) (content : Bytes) :
    Reads element (tag.element content).bytes (tag.element content) :=
  fun hlength rest => Element.read_bytes htag (length_of_element hlength) rest

theorem Reads.typed (htag : tag.number < 31) (content : Bytes) :
    Reads (typed tag) (tag.element content).bytes (tag.element content) := by
  intro hlength rest
  unfold Reader.typed
  rw [bind_run (Reads.element htag content hlength rest), bind_run (guard_run _ rest)]
  · rfl
  · simp [Tag.element]

/-- What is read from all of a content is read from the element with it. -/
theorem Reads.within (htag : tag.number < 31) (h : ReadsAll reader parts.flatten value) :
    Reads (within tag reader) (tag.of parts) value := by
  intro hlength
  have hinside := h.inside (length_of_element hlength)
  exact (Reads.typed htag parts.flatten).bindLast (Reads.lift hinside) hlength

/-- With the bytes of the element, which are read up to their end. -/
theorem Reads.sequence_with_bytes (h : ReadsAll reader parts.flatten value) :
    Reads (sequenceWithBytes reader) (Tag.sequence.of parts) (value, Tag.sequence.of parts) := by
  intro hlength rest
  unfold sequenceWithBytes Tag.of
  rw [bind_run (Reads.typed (by decide) parts.flatten hlength rest)]
  have htaken : inside (withBytes reader) (Tag.sequence.element parts.flatten).content =
      some (value, parts.flatten) := by
    rw [inside, withBytes]
    show Option.map _ (Option.map _ (reader parts.flatten)) = _
    rw [h (length_of_element hlength)]
    show some (value, parts.flatten.take (parts.flatten.length - 0)) = some (value, parts.flatten)
    rw [Nat.sub_zero, List.take_length]
  rw [htaken]
  rfl

/-! ### What may be left out -/

theorem Reads.optional (h : Reads reader bytes value) :
    Reads (optional reader) bytes (some value) := by
  intro hlength rest
  rw [Reader.optional, h hlength rest]

/-- What cannot be read is left out. -/
theorem Sees.optional (h : bytes.length < lengthLimit → ∀ rest, reader (bytes ++ rest) = none) :
    Sees (optional reader) bytes none := by
  intro hlength rest
  rw [Reader.optional, h hlength rest]

/-- An element of another type is not read. -/
theorem typed_fails {other : Tag} (hother : other.number < 31) (hne : other.number ≠ tag.number)
    (hlength : (other.element content).bytes.length < lengthLimit) (rest : Bytes) :
    typed tag ((other.element content).bytes ++ rest) = none := by
  unfold Reader.typed
  rw [bind_run (Reads.element hother content hlength rest)]
  refine bind_fails (guard_fails ?_ rest)
  simp [Tag.element, hne]

/-- The element at a place is found there. -/
theorem Reads.at_place {number : Nat} (h : number < 31) (content : Bytes) :
    Reads (atPlace? number) ((Tag.place number).element content).bytes
      (some ((Tag.place number).element content)) := by
  refine Reads.optional fun hlength rest => ?_
  rw [bind_run (Reads.element h content hlength rest), bind_run (guard_run _ rest)]
  · rfl
  · simp [Tag.element, Tag.place]

/-- An element at another place is not. -/
theorem Sees.at_place {number : Nat} (htag : tag.number < 31)
    (hne : ¬ (tag.family = .context ∧ tag.number = number)) (content : Bytes) :
    Sees (atPlace? number) (tag.element content).bytes none := by
  refine Sees.optional fun hlength rest => ?_
  rw [bind_run (Reads.element htag content hlength rest)]
  refine bind_fails (guard_fails ?_ rest)
  rw [Bool.and_eq_true, decide_eq_true_eq, decide_eq_true_eq]
  exact hne

/-! ### Again and again -/

/-- A reader that takes what was written for one item takes what was written for several in a row,
if it takes nothing at the end. -/
theorem repeated_reads {γ : Type} {write : γ → Bytes} {read : γ → α} {items : List γ}
    (hitems : ∀ item ∈ items, Reads reader (write item) (read item)) (hend : reader [] = none)
    {limit : Nat} (hlimit : items.length ≤ limit) :
    ReadsAll (repeated reader limit) (items.map write).flatten (items.map read) := by
  induction items generalizing limit with
  | nil =>
      intro _
      cases limit with
      | zero => rfl
      | succ limit =>
          have hnone : optional reader [] = some (none, []) := by rw [optional, hend]
          exact bind_run hnone
  | cons item rest ih =>
      obtain ⟨hitem, hrest⟩ := List.forall_mem_cons.1 hitems
      cases limit with
      | zero => cases hlimit
      | succ limit =>
          refine Reads.bindAll (Reads.optional hitem) ?_
          exact (ih hrest (Nat.le_of_succ_le_succ hlimit)).bind (ReadsAll.pure _)

/-- So it does if it is asked as often as there are bytes, and each item has one. -/
theorem ReadsAll.many {γ : Type} {write : γ → Bytes} {read : γ → α} {items : List γ}
    (hitems : ∀ item ∈ items, Reads reader (write item) (read item)) (hend : reader [] = none)
    (hpos : ∀ item ∈ items, 0 < (write item).length) :
    ReadsAll (many reader) (items.map write).flatten (items.map read) := by
  have hlimit : items.length ≤ (items.map write).flatten.length := by
    clear hitems
    induction items with
    | nil => exact Nat.zero_le _
    | cons item rest ih =>
        obtain ⟨hitem, hrest⟩ := List.forall_mem_cons.1 hpos
        have hlength := ih hrest
        rw [List.map_cons, List.flatten_cons, List.length_append, List.length_cons]
        omega
  exact repeated_reads hitems hend hlimit

theorem ReadsAll.all {γ : Type} {write : γ → Bytes} {read : γ → α} {items : List γ}
    (hitems : ∀ item ∈ items, Reads reader (write item) (read item)) (hend : reader [] = none)
    (hpos : ∀ item ∈ items, 0 < (write item).length) :
    ReadsAll (all reader) (items.map write).flatten (items.map read) :=
  (ReadsAll.many hitems hend hpos).bind fun _ => rfl

end

/-! ### Plain values -/

section

variable {content : Bytes} {tag : Tag}

/-- An element of one part. -/
theorem of_single (tag : Tag) (content : Bytes) :
    tag.of [content] = (tag.element content).bytes := by
  rw [Tag.of, List.flatten_singleton]

/-- There is no element in no bytes. -/
theorem typed_nil (tag : Tag) : typed tag [] = none := rfl

theorem Reads.oid (name : Oid) : Reads oid name.bytes name := by
  unfold Oid.bytes
  rw [of_single]
  exact (Reads.typed (by decide) name.content).bindLast (Reads.pure name)

theorem Reads.octet_string (content : Bytes) :
    Reads octetString (Tag.octetString.of [content]) content := by
  rw [of_single]
  exact (Reads.typed (by decide) content).bindLast (Reads.pure content)

/-- A string of whole bytes is read back. -/
theorem Reads.bit_string (bytes : Bytes) : Reads bitString (Der.bitString bytes) bytes := by
  unfold Der.bitString
  rw [of_single]
  refine (Reads.typed (by decide) (0 :: bytes)).bindLast fun _ rest => ?_
  dsimp only [Tag.element, List.nil_append]
  cases hlast : bytes.getLast? with
  | none =>
      obtain rfl := List.getLast?_eq_none_iff.1 hlast
      rfl
  | some last =>
      have hspare : last.toNat % Nat.pow 2 (0 : UInt8).toNat = 0 := Nat.mod_one _
      dsimp only
      rw [if_pos]
      · rfl
      · simpa using hspare

/-! ### Whole numbers -/

/-- The content of a whole number. -/
def integerContent (value : Nat) : Bytes :=
  if ((Bytes.ofNatShortest value).headD 0).toNat < 128 then Bytes.ofNatShortest value
  else 0 :: Bytes.ofNatShortest value

theorem integer_eq (value : Nat) :
    Der.integer value = (Tag.integer.element (integerContent value)).bytes := by
  unfold Der.integer
  rw [of_single]
  rfl

theorem to_nat_integer_content (value : Nat) : (integerContent value).toNat = value := by
  unfold integerContent
  split
  · exact Bytes.to_nat_shortest value
  · rw [Bytes.to_nat_cons, Bytes.to_nat_shortest]
    simp

/-- It is the content of no number below zero. -/
theorem integer_content_head (value : Nat) : ((integerContent value).headD 0).toNat < 128 := by
  unfold integerContent
  split
  · assumption
  · exact (by decide : (0 : UInt8).toNat < 128)

theorem length_integer_content (value : Nat) :
    0 < (integerContent value).length ∧ (integerContent value).length ≤ Nat.log2 value / 8 + 2 := by
  have hlength : (Bytes.ofNatShortest value).length = Nat.log2 value / 8 + 1 :=
    Bytes.length_of_nat _ _
  unfold integerContent
  split
  · omega
  · rw [List.length_cons]
    omega

/-- It has no byte to spare. -/
theorem integer_content_shortest {value : Nat} {first second : UInt8} {rest : Bytes}
    (h : integerContent value = first :: second :: rest) :
    ¬ (first = 0 ∧ second.toNat < 128) ∧ first.toNat < 128 := by
  have hhead := integer_content_head value
  rw [h] at hhead
  refine ⟨?_, hhead⟩
  rintro ⟨rfl, hsecond⟩
  unfold integerContent at h
  split at h
  · exact Bytes.shortest_head h rfl
  · rename_i hlarge
    rw [(List.cons.inj h).2] at hlarge
    exact hlarge hsecond

theorem Reads.integer (value : Nat) :
    Reads integer (Der.integer value) (integerContent value) := by
  rw [integer_eq]
  refine (Reads.typed (by decide) (integerContent value)).bindLast fun _ rest => ?_
  have hshortest := @integer_content_shortest value
  have hlength := (length_integer_content value).1
  dsimp only [Tag.element]
  rcases hcontent : integerContent value with _ | ⟨first, _ | ⟨second, others⟩⟩
  · rw [hcontent] at hlength
    cases hlength
  · rfl
  · obtain ⟨hspare, hsign⟩ := hshortest hcontent
    dsimp only
    rw [if_neg]
    · rfl
    · rw [Bool.or_eq_true, Bool.and_eq_true, Bool.and_eq_true, decide_eq_true_eq,
        decide_eq_true_eq, decide_eq_true_eq, decide_eq_true_eq]
      rintro (hzero | ⟨rfl, -⟩)
      · exact hspare hzero
      · exact absurd hsign (by decide)

/-- A whole number is read back. -/
theorem Reads.natural (value : Nat) : Reads natural (Der.integer value) value := by
  refine (Reads.integer value).bindLast ?_
  refine (Sees.holds (integer_content_head value) []).bind ?_
  rw [to_nat_integer_content]
  exact Reads.pure value

/-! ### Elements with the fewest bytes -/

/-- The least length of a content that such readers do not take. -/
def exactLimit : Nat := 0x10000

theorem Reads.exactly (htag : tag.number < 31) (hlength : content.length < exactLimit) :
    Reads (exactly tag) (tag.element content).bytes content := by
  refine (Reads.element htag content).bindLast ?_
  refine (Sees.holds ?_ []).bind (Reads.pure _)
  rw [Element.is_canonical]
  simp only [Tag.element, decide_true, Bool.true_and]
  exact decide_eq_true hlength

theorem Reads.exactly_within {α : Type} {reader : Reader α} {parts : List Bytes} {value : α}
    (htag : tag.number < 31) (hlength : parts.flatten.length < exactLimit)
    (h : ReadsAll reader parts.flatten value) :
    Reads (exactlyWithin tag reader) (tag.of parts) value := by
  unfold Tag.of
  refine (Reads.exactly htag hlength).bindLast ?_
  exact Reads.lift (h.ended.inside (Nat.lt_trans hlength (by decide)))

/-- What cannot be read from the content is not read from the element. -/
theorem exactly_within_fails {α : Type} {reader : Reader α} {parts : List Bytes}
    (htag : tag.number < 31) (hlength : parts.flatten.length < exactLimit)
    (h : reader parts.flatten = none) : exactlyWithin tag reader (tag.of parts) = none := by
  have hlimit : 2 * exactLimit + 4 < lengthLimit := by decide
  have hwhole := tag.length_of parts
  have hshort : (tag.of parts).length < lengthLimit := by omega
  have hcontent := (Reads.exactly htag hlength).readsAll hshort
  unfold exactlyWithin Tag.of
  refine (bind_run hcontent).trans ?_
  rw [inside, bind_fails h]
  rfl

theorem Reads.exact_natural {value : Nat} (h : (integerContent value).length < exactLimit) :
    Reads exactNatural (Der.integer value) value := by
  rw [integer_eq]
  refine (Reads.exactly (by decide) h).bindLast ?_
  have hlength : (Der.integer value).length < lengthLimit := by
    have hbytes := Tag.integer.length_of [integerContent value]
    rw [of_single, ← integer_eq, List.flatten_singleton] at hbytes
    have hlimits : exactLimit * 2 + 2 < lengthLimit := by decide
    omega
  have hinside := (Reads.natural value).readsAll.inside hlength
  rw [integer_eq] at hinside
  exact Reads.lift hinside

end

end Reader

end EdgeFleet.Der
