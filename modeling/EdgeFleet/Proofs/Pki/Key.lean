import EdgeFleet.Pki.Key
import EdgeFleet.Proofs.Der.Reader

/-!
# Keys that were made can be read

A new key is read back from its document (`PrivateKey.read_generate`), and a public key from the
bytes that it is written with (`PublicKey.reads`).
-/

namespace EdgeFleet.Pki

open Der Crypto
open Reader (Reads ReadsAll Sees)

/-! ### Algorithms -/

namespace Algorithm

/-- The content of an algorithm. -/
def content (algorithm : Algorithm) : Bytes :=
  algorithm.name.bytes ++ (algorithm.parameters.map Element.bytes).getD []

/-- Whether the parameters of an algorithm are as they would be written. -/
def IsWritten (algorithm : Algorithm) : Prop :=
  ∀ parameters ∈ algorithm.parameters,
    parameters.tag.number < 31 ∧ parameters = parameters.tag.element parameters.content

/-- An algorithm is read back. -/
theorem reads {algorithm : Algorithm} (h : algorithm.IsWritten) {parts : List Bytes}
    (hparts : parts.flatten = algorithm.content) :
    Reads reader (Tag.sequence.of parts) algorithm := by
  obtain ⟨name, parameters⟩ := algorithm
  refine Reads.within (by decide) ?_
  rw [hparts]
  refine Reads.bindAll (Reads.oid name) (ReadsAll.get ?_)
  cases parameters with
  | none => exact ReadsAll.pure _
  | some parameters =>
      obtain ⟨htag, hwritten⟩ := h parameters rfl
      have hread : ReadsAll (do return ⟨name, some (← Reader.element)⟩) parameters.bytes
          (⟨name, some parameters⟩ : Algorithm) := by
        rw [hwritten]
        refine ((Reads.element htag parameters.content).bindLast ?_).readsAll
        exact Reads.pure _
      have hfull : parameters.bytes.isEmpty = false := by
        rw [hwritten]
        rfl
      show ReadsAll (if parameters.bytes.isEmpty then _ else _) parameters.bytes _
      rw [hfull]
      exact hread

/-- The algorithm of keys of a family. -/
def ofKey : KeyKind → Algorithm
  | .rsa => ⟨rsaEncryption, some (Tag.null.element [])⟩
  | .elliptic named => ⟨ellipticKey, some (Tag.oid.element (curve named).content)⟩
  | .edwards => ⟨edwards, none⟩

/-- The algorithm of signatures of a family. -/
def ofSignature : KeyKind → Algorithm
  | .rsa => ⟨rsaWith .sha256, some (Tag.null.element [])⟩
  | .elliptic named => ⟨ecdsaWith named, none⟩
  | .edwards => ⟨edwards, none⟩

/-- The name of a family of keys is read back. -/
theorem reads_key (kind : KeyKind) :
    Reads reader (Tag.sequence.of [keyContent kind]) (ofKey kind) := by
  refine reads ?_ ?_
  · intro parameters hparameters
    cases kind with
    | rsa =>
        cases hparameters
        exact ⟨by decide, rfl⟩
    | elliptic named =>
        cases hparameters
        exact ⟨(by decide : Tag.oid.number < 31), rfl⟩
    | edwards => cases hparameters
  · rw [List.flatten_singleton]
    cases kind with
    | rsa => rfl
    | elliptic named => exact congrArg (ellipticKey.bytes ++ ·) (Reader.of_single _ _)
    | edwards => rfl

/-- So is that of a way to sign. -/
theorem reads_signature (kind : KeyKind) : Reads reader (signatureBytes kind) (ofSignature kind) := by
  cases kind with
  | rsa =>
      refine reads ?_ rfl
      intro parameters hparameters
      cases hparameters
      exact ⟨by decide, rfl⟩
  | elliptic named => exact reads (fun _ hnone => by cases hnone) rfl
  | edwards => exact reads (fun _ hnone => by cases hnone) rfl

end Algorithm

/-- A public key is read back. -/
theorem PublicKey.reads (kind : KeyKind) (bits : Bytes) :
    Reads reader (write kind bits) ⟨.ofKey kind, bits, write kind bits⟩ := by
  have hcontent : ReadsAll (do return (← Algorithm.reader, ← Reader.bitString))
      [Tag.sequence.of [Algorithm.keyContent kind], bitString bits].flatten
      (Algorithm.ofKey kind, bits) :=
    (Algorithm.reads_key kind).bindAll ((Reads.bit_string bits).bindAll (ReadsAll.pure _))
  exact (Reads.sequence_with_bytes hcontent).bindLast (Reads.pure _)

/-! ### Secret keys -/

/-- The bytes that are enough for a public key and for a signature. -/
def compactLimit : Nat := 1024

namespace PrivateKey

/-- Nothing is next at the end. -/
theorem next_is_nil (tag : Tag) : ReadsAll (nextIs tag) [] false :=
  fun _ => rfl

/-- Nor is a tag next where another one is. -/
theorem sees_next {tag other : Tag} (hne : tag.write ≠ other.write) (parts : List Bytes) :
    Sees (nextIs tag) (other.of parts) false := by
  intro _ rest
  have hnot : tag.write.isPrefixOf (other.of parts ++ rest) = false := by
    rw [Bool.eq_false_iff]
    intro hprefix
    obtain ⟨others, heq⟩ := List.isPrefixOf_iff_prefix.1 hprefix
    exact hne (congrArg (List.take 1) heq)
  show some (tag.write.isPrefixOf (other.of parts ++ rest), _) = _
  rw [hnot]

section Generated

variable {suite : Suite} {curve : Curve} {number : Nat}

/-- The part of the document for a number on an elliptic curve that is secret. -/
def numberBytes (suite : Suite) (curve : Curve) (number : Nat) : Bytes :=
  Tag.sequence.of [
    integer 1,
    Tag.octetString.of [Bytes.ofNat curve.width number],
    Tag.of (.place 1) [bitString (suite.publicKey (.elliptic curve number))]]

variable (hshort : (suite.publicKey (.elliptic curve number)).length ≤ compactLimit)
include hshort

/-- How long the parts of such a document may be. -/
theorem length_number_bytes :
    (bitString (suite.publicKey (.elliptic curve number))).length ≤ 2052 ∧
      [integer 1, Tag.octetString.of [Bytes.ofNat curve.width number],
        Tag.of (.place 1) [bitString (suite.publicKey (.elliptic curve number))]].flatten.length
          ≤ 4210 ∧ (numberBytes suite curve number).length ≤ 8422 := by
  have hbits := Tag.bitString.length_of [0 :: suite.publicKey (.elliptic curve number)]
  have hplace := (Tag.place 1).length_of
    [bitString (suite.publicKey (.elliptic curve number))]
  have hoctets := Tag.octetString.length_of [Bytes.ofNat curve.width number]
  have hwhole := Tag.sequence.length_of [integer 1, Tag.octetString.of [Bytes.ofNat curve.width number],
        Tag.of (.place 1) [bitString (suite.publicKey (.elliptic curve number))]]
  have hone : (integer 1).length = 3 := by decide +kernel
  have hwidth : curve.width ≤ 48 := by cases curve <;> decide
  have hlimit : compactLimit = 1024 := rfl
  change (bitString _).length ≤ _ at hbits
  change (numberBytes _ _ _).length ≤ _ at hwhole
  simp only [List.flatten_cons, List.flatten_nil, List.append_nil, List.length_append,
    List.length_cons, Bytes.length_of_nat] at *
  omega

/-- The number is read back from there. -/
theorem elliptic_secret_reads (hpos : 0 < number) (hlt : number < curve.order) :
    Reader.inside (ellipticSecret curve) (numberBytes suite curve number) =
      some (.elliptic curve number, suite.publicKey (.elliptic curve number)) := by
  obtain ⟨hbits, hparts, hlength⟩ := length_number_bytes hshort
  have hnumber : Bytes.toNat (Bytes.ofNat curve.width number) = number := by
    rw [Bytes.to_nat_of_nat, Nat.mod_eq_of_lt]
    exact Nat.lt_trans hlt (by cases curve <;> decide)
  have hwidth : (Bytes.ofNat curve.width number).length < Reader.exactLimit := by
    rw [Bytes.length_of_nat]
    cases curve <;> decide
  have hpublic : (0 :: suite.publicKey (.elliptic curve number)).length < Reader.exactLimit :=
    Nat.lt_of_le_of_lt (Nat.succ_le_succ hshort) (by decide)
  have hshown : ReadsAll (Reader.exactly .bitString)
      [bitString (suite.publicKey (.elliptic curve number))].flatten
      (0 :: suite.publicKey (.elliptic curve number)) := by
    rw [List.flatten_singleton, bitString, Reader.of_single]
    exact (Reads.exactly (by decide) hpublic).readsAll
  have hbitsLimit : [bitString (suite.publicKey (.elliptic curve number))].flatten.length <
      Reader.exactLimit := by
    rw [List.flatten_singleton]
    exact Nat.lt_of_le_of_lt hbits (by decide)
  refine ReadsAll.inside (ReadsAll.ended ?_) (Nat.lt_of_le_of_lt hlength (by decide))
  refine Reads.readsAll (Reads.exactly_within (by decide) (Nat.lt_of_le_of_lt hparts (by decide)) ?_)
  refine (Reads.exact_natural (by decide +kernel)).bindAll ?_
  refine (Sees.holds rfl _).bindAll ?_
  rw [List.flatten_cons, Reader.of_single]
  refine (Reads.exactly (by decide) hwidth).bindAll ?_
  refine (Sees.holds ?_ _).bindAll ?_
  · rw [hnumber, Bytes.length_of_nat]
    simp [hpos, hlt]
  rw [List.flatten_singleton]
  refine (sees_next (by decide) _).bindAll ?_
  refine ReadsAll.bind (Reads.readsAll (Reads.exactly_within (by decide) hbitsLimit hshown)) ?_
  intro _
  rw [hnumber]
  rfl

/-- The parts of a document are short enough. -/
theorem length_parts :
    (Algorithm.keyContent (.elliptic curve)).length < Reader.exactLimit ∧
      (numberBytes suite curve number).length < Reader.exactLimit ∧
        [integer 0, Tag.sequence.of [Algorithm.keyContent (.elliptic curve)],
          Tag.octetString.of [numberBytes suite curve number]].flatten.length <
            Reader.exactLimit := by
  obtain ⟨-, -, hlength⟩ := length_number_bytes hshort
  have hlimit : 40000 < Reader.exactLimit := by decide
  have hcontent : (Algorithm.keyContent (.elliptic curve)).length ≤ 40 := by
    cases curve <;> decide +kernel
  have halgorithm := Tag.sequence.length_of [Algorithm.keyContent (.elliptic curve)]
  have hsecret := Tag.octetString.length_of [numberBytes suite curve number]
  have hzero : (integer 0).length = 3 := by decide +kernel
  simp only [List.flatten_cons, List.flatten_nil, List.append_nil, List.length_append] at *
  omega

/-- The parts of a document for a number are told apart. -/
theorem envelope_reads :
    ReadsAll (envelope (.elliptic curve))
      [integer 0, Tag.sequence.of [Algorithm.keyContent (.elliptic curve)],
        Tag.octetString.of [numberBytes suite curve number]].flatten
      (numberBytes suite curve number, none) := by
  obtain ⟨hcontent, hsecret, -⟩ := length_parts hshort
  refine (Reads.exact_natural (by decide +kernel)).bindAll ?_
  refine (Sees.holds (by simp) _).bindAll ?_
  rw [List.flatten_cons, Reader.of_single]
  refine (Reads.exactly (by decide) hcontent).bindAll ?_
  refine (Sees.holds rfl _).bindAll ?_
  rw [List.flatten_singleton, Reader.of_single]
  refine ReadsAll.bind (Reads.exactly (by decide) hsecret).readsAll ?_
  exact ReadsAll.bind (next_is_nil _) (ReadsAll.pure _)

/-- They are not if another family is looked for. -/
theorem envelope_fails {kind : KeyKind}
    (hne : Algorithm.keyContent (.elliptic curve) ≠ Algorithm.keyContent kind) :
    envelope kind [integer 0, Tag.sequence.of [Algorithm.keyContent (.elliptic curve)],
      Tag.octetString.of [numberBytes suite curve number]].flatten = none := by
  obtain ⟨hcontent, -, hlength⟩ := length_parts hshort
  have hlimit : Reader.exactLimit ≤ lengthLimit := by decide
  simp only [List.flatten_cons, List.length_append] at hlength ⊢
  have hversion : Reads Reader.exactNatural (integer 0) 0 :=
    Reads.exact_natural (by decide +kernel)
  unfold envelope
  rw [Reader.bind_run (hversion (by omega) _), Reader.bind_run (Reader.guard_run (by simp) _)]
  rw [Reader.of_single] at hlength ⊢
  have halgorithm : Reads (Reader.exactly .sequence) _ _ := Reads.exactly (by decide) hcontent
  rw [Reader.bind_run (halgorithm (by omega) _)]
  exact Reader.bind_fails (Reader.guard_fails hne _)

theorem length_write :
    (write suite curve number).length < lengthLimit := by
  obtain ⟨-, -, hparts⟩ := length_parts hshort
  have hwhole := Tag.sequence.length_of
    [integer 0, Tag.sequence.of [Algorithm.keyContent (.elliptic curve)],
      Tag.octetString.of [numberBytes suite curve number]]
  have hlimit : 2 * Reader.exactLimit + 2 < lengthLimit := by decide
  change (write suite curve number).length ≤ _ at hwhole
  omega

/-- A number is read back from its document. -/
theorem secret_write (hpos : 0 < number) (hlt : number < curve.order) :
    secret? suite (.elliptic curve) (write suite curve number) = some (.elliptic curve number) := by
  obtain ⟨-, -, hparts⟩ := length_parts hshort
  have hfound : ReadsAll (do
      let found ← Reader.exactlyWithin .sequence (envelope (.elliptic curve))
      Reader.ended
      return found) (write suite curve number) (numberBytes suite curve number, none) :=
    ReadsAll.ended (Reads.readsAll
      (Reads.exactly_within (by decide) hparts (envelope_reads hshort)))
  unfold secret?
  rw [StateT.run, hfound (length_write hshort), Option.bind_eq_bind, Option.bind_some]
  dsimp only
  rw [elliptic_secret_reads hshort hpos hlt, Option.bind_eq_bind, Option.bind_some]
  show (if _ = _ then (pure () : Option Unit) else failure).bind _ = _
  rw [if_pos rfl]
  rfl

/-- It is not if another family is looked for. -/
theorem secret_write_other {kind : KeyKind}
    (hne : Algorithm.keyContent (.elliptic curve) ≠ Algorithm.keyContent kind) :
    secret? suite kind (write suite curve number) = none := by
  obtain ⟨-, -, hparts⟩ := length_parts hshort
  have hfails : Reader.exactlyWithin .sequence (envelope kind) (write suite curve number) = none :=
    Reader.exactly_within_fails (by decide) hparts (envelope_fails hshort hne)
  unfold secret?
  rw [StateT.run, Reader.bind_fails hfails]
  rfl

end Generated

/-- A new key is read back from its document. -/
theorem read_generate {suite : Suite}
    (hshort : ∀ number, (suite.publicKey (.elliptic .p256 number)).length ≤ compactLimit)
    (entropy : Bytes) :
    read? suite (generate suite entropy).document = some (generate suite entropy) := by
  let number := entropy.toNat % (Curve.p256.order - 1) + 1
  have hlt : number < Curve.p256.order := by
    have hmod := Nat.mod_lt entropy.toNat (by decide : 0 < Curve.p256.order - 1)
    have horder : 1 ≤ Curve.p256.order := by decide
    show entropy.toNat % (Curve.p256.order - 1) + 1 < Curve.p256.order
    omega
  have hother : secret? suite .edwards (write suite .p256 number) = none :=
    secret_write_other (hshort number) (by decide +kernel)
  have hfound : secret? suite (.elliptic .p256) (write suite .p256 number) =
      some (.elliptic .p256 number) := secret_write (hshort number) (Nat.succ_pos _) hlt
  show Option.map _ (kinds.findSome? fun kind => secret? suite kind (write suite .p256 number)) = _
  rw [kinds, List.findSome?_cons, hother, List.findSome?_cons, hfound]
  rfl

end PrivateKey

end EdgeFleet.Pki
