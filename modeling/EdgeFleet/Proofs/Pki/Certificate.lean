import EdgeFleet.Pki.Certificate
import EdgeFleet.Proofs.Pki.Key
import EdgeFleet.Proofs.Pki.Validity

/-!
# Certificates that were made can be read

A certificate that was made for a statement is read as what the statement says
(`Statement.read_certificate`), if the names in it are written in the only way there is, the times
can be told, and it is not too long.
-/

namespace EdgeFleet.Pki

open Der Crypto
open Reader (Reads ReadsAll Sees)

/-! ### Names -/

/-- Whether the value of an attribute is as it would be written. -/
def Attribute.IsWritten (entry : Attribute) : Prop :=
  entry.value.tag.number < 31 ∧ entry.value = entry.value.tag.element entry.value.content

/-- An attribute is read back. -/
theorem Attribute.reads {entry : Attribute} (h : entry.IsWritten) :
    Reads reader (Tag.sequence.of [entry.kind.bytes, entry.value.bytes]) entry := by
  obtain ⟨htag, hwritten⟩ := h
  refine Reads.within (by decide) ((Reads.oid entry.kind).bindAll ?_)
  rw [List.flatten_singleton, hwritten]
  refine ((Reads.element htag entry.value.content).bindLast ?_).readsAll
  rw [← hwritten]
  exact Reads.pure entry

/-- A name is read back, with one attribute in each part. -/
theorem PlainName.reads {name : PlainName} (h : ∀ entry ∈ name, entry.IsWritten) :
    Reads Name.reader name.bytes (name.map fun entry => [entry]) := by
  refine Reads.within (by decide) (ReadsAll.many ?_ ?_ ?_)
  · intro entry hentry
    refine Reads.within (by decide) ?_
    rw [List.flatten_singleton]
    refine ReadsAll.bind (Attribute.reads (h entry hentry)).readsAll ?_
    exact fun _ => rfl
  · exact Reader.bind_fails (Reader.typed_nil .set)
  · intro entry _
    exact Nat.lt_of_le_of_lt (Nat.zero_le _) (Tag.set.length_lt_of _)

/-- A name of one text is written in the only way there is. -/
theorem PlainName.single_written (kind : Oid) (text : String) :
    ∀ entry ∈ single kind text, entry.IsWritten := by
  intro entry hentry
  obtain rfl := List.mem_singleton.1 hentry
  exact ⟨(by decide : Tag.utf8String.number < 31), rfl⟩

/-! ### Extensions -/

namespace Extension

/-- An extension is read back. -/
theorem reads (extension : Extension) : Reads reader extension.bytes extension := by
  obtain ⟨kind, critical, content⟩ := extension
  refine Reads.within (by decide) ((Reads.oid kind).bindAll ?_)
  have hcontent : ReadsAll Reader.octetString [Tag.octetString.of [content]].flatten content := by
    rw [List.flatten_singleton]
    exact (Reads.octet_string content).readsAll
  cases critical with
  | true =>
      have hflag : Reads (Reader.optional (Reader.typed .boolean)) (boolean true)
          (some (Tag.boolean.element [0xff])) :=
        Reads.optional (Reads.typed (by decide) [0xff])
      exact hflag.bindAll (hcontent.bind (ReadsAll.pure _))
  | false =>
      have hnone : Sees (Reader.optional (Reader.typed .boolean))
          [Tag.octetString.of [content]].flatten none := by
        rw [List.flatten_singleton, Reader.of_single]
        exact Sees.optional (Reader.typed_fails (by decide) (by decide))
      exact hnone.bindAll (hcontent.bind (ReadsAll.pure _))

/-- So is a list of them. -/
theorem reads_list (extensions : List Extension) :
    Reads listReader (listBytes extensions) extensions := by
  refine Reads.within (by decide) ?_
  have hall := @ReadsAll.all Extension reader Extension bytes id extensions
    (fun extension _ => reads extension) (Reader.bind_fails (Reader.typed_nil .sequence))
    (fun extension _ => Nat.lt_of_le_of_lt (Nat.zero_le _) (Tag.sequence.length_lt_of _))
  rwa [List.map_id] at hall

end Extension

/-! ### Certificates -/

namespace Certificate

/-- The version is read over. -/
theorem reads_version : Reads version ((Tag.place 0).of [integer 2]) () := by
  rw [Reader.of_single]
  refine (Reads.at_place (by decide) (integer 2)).bindLast ?_
  have hnumber : Reader.inside Reader.natural (integer 2) = some 2 :=
    (Reads.natural 2).readsAll.inside (by decide +kernel)
  refine (Reads.lift hnumber).bind ?_
  exact fun _ _ => rfl

/-- Extensions are read from the end. -/
theorem reads_extensions (extensions : List Extension) :
    ReadsAll extensionsReader ((Tag.place 3).of [Extension.listBytes extensions]) extensions := by
  refine ReadsAll.get ?_
  have hfull : ¬ ((Tag.place 3).of [Extension.listBytes extensions]).isEmpty = true :=
    fun h => Bool.noConfusion h
  rw [if_neg hfull, Reader.of_single]
  intro hlength
  have hlist := (Extension.reads_list extensions).readsAll.inside (Reader.length_of_element hlength)
  refine ((Reads.element (by decide) (Extension.listBytes extensions)).bindLast ?_).readsAll hlength
  exact (Sees.holds rfl []).bind (Reads.lift hlist)

end Certificate

namespace Statement

/-- What a certificate that is made for a statement is read as. -/
def shown (suite : Suite) (statement : Statement) (key : PrivateKey) : Certificate where
  signed := statement.bytes key.kind
  serial := Reader.integerContent statement.serial
  issuer := statement.issuer.map fun entry => [entry]
  notBefore := statement.notBefore
  notAfter := statement.notAfter
  subject := statement.subject.map fun entry => [entry]
  publicKey := ⟨.ofKey statement.keyKind, statement.keyBits,
    PublicKey.write statement.keyKind statement.keyBits⟩
  extensions := statement.extensions
  algorithm := .ofSignature key.kind
  signature := suite.sign key.secret (statement.bytes key.kind)

/-- Whether all that a statement says can be written. -/
structure IsWritten (statement : Statement) : Prop where
  issuer : ∀ entry ∈ statement.issuer, entry.IsWritten
  notBefore : Validity.InRange statement.notBefore
  notAfter : Validity.InRange statement.notAfter
  subject : ∀ entry ∈ statement.subject, entry.IsWritten

theorem read_certificate {suite : Suite} {statement : Statement} {key : PrivateKey}
    (h : statement.IsWritten)
    (hlength : (statement.certificate suite key).length < lengthLimit) :
    Certificate.read? (statement.certificate suite key) = some (statement.shown suite key) := by
  have hsigned : Reads
      (Reader.sequenceWithBytes do
        Certificate.version
        let serial ← Reader.typed .integer
        let _ ← Algorithm.reader
        let issuer ← Name.reader
        let period ← Validity.reader
        let subject ← Name.reader
        let publicKey ← PublicKey.reader
        let _ ← Reader.atPlace? 1
        let _ ← Reader.atPlace? 2
        return (serial.content, issuer, period, subject, publicKey,
          ← Certificate.extensionsReader))
      (statement.bytes key.kind)
      ((Reader.integerContent statement.serial, statement.issuer.map fun entry => [entry],
        (statement.notBefore, statement.notAfter), statement.subject.map fun entry => [entry],
        ⟨.ofKey statement.keyKind, statement.keyBits,
          PublicKey.write statement.keyKind statement.keyBits⟩, statement.extensions),
        statement.bytes key.kind) := by
    refine Reads.sequence_with_bytes ?_
    refine Certificate.reads_version.bindAll ?_
    rw [List.flatten_cons, Reader.integer_eq]
    refine (Reads.typed (by decide) _).bindAll ?_
    refine (Algorithm.reads_signature key.kind).bindAll ?_
    refine (PlainName.reads h.issuer).bindAll ?_
    refine (Validity.reads h.notBefore h.notAfter).bindAll ?_
    refine (PlainName.reads h.subject).bindAll ?_
    refine (PublicKey.reads statement.keyKind statement.keyBits).bindAll ?_
    rw [List.flatten_singleton]
    refine (Sees.at_place (by decide) (by decide) _).bindAll ?_
    refine (Sees.at_place (by decide) (by decide) _).bindAll ?_
    refine (Certificate.reads_extensions statement.extensions).bind ?_
    exact ReadsAll.pure _
  refine ReadsAll.inside (Reads.readsAll ?_) hlength
  refine Reads.within (by decide) (hsigned.bindAll ?_)
  refine (Algorithm.reads_signature key.kind).bindAll ?_
  rw [List.flatten_singleton]
  refine ((Reads.bit_string _).bindLast ?_).readsAll
  exact Reads.pure _

/-! ### How long a certificate gets -/

/-- The bytes that each part of a statement may take. -/
def partLimit : Nat := 0x1000000000000

/-- A certificate is not much longer than its parts. -/
theorem length_certificate {suite : Suite} {statement : Statement} {key : PrivateKey}
    (h : statement.IsWritten) (hserial : (integer statement.serial).length ≤ partLimit)
    (hissuer : statement.issuer.bytes.length ≤ partLimit)
    (hsubject : statement.subject.bytes.length ≤ partLimit)
    (hbits : statement.keyBits.length ≤ partLimit)
    (hextensions : (Extension.listBytes statement.extensions).length ≤ partLimit)
    (hsignature : (suite.sign key.secret (statement.bytes key.kind)).length ≤ partLimit) :
    (statement.certificate suite key).length ≤ 8 * partLimit := by
  have hlimit : partLimit = 0x1000000000000 := rfl
  have hversion : ((Tag.place 0).of [integer 2]).length = 5 := by decide +kernel
  have halgorithm : (Algorithm.signatureBytes key.kind).length ≤ 32 := by
    cases key.kind with
    | rsa => decide +kernel
    | elliptic curve => cases curve <;> decide +kernel
    | edwards => decide +kernel
  have hkey : (Algorithm.keyContent statement.keyKind).length ≤ 32 := by
    cases statement.keyKind with
    | rsa => decide +kernel
    | elliptic curve => cases curve <;> decide +kernel
    | edwards => decide +kernel
  have hperiod := Validity.length_bytes h.notBefore h.notAfter
  have hkeyName := Tag.sequence.length_of [Algorithm.keyContent statement.keyKind]
  have hkeyBits := Tag.bitString.length_of [0 :: statement.keyBits]
  have hpublic := Tag.sequence.length_of
    [Tag.sequence.of [Algorithm.keyContent statement.keyKind], bitString statement.keyBits]
  have hlist := (Tag.place 3).length_of [Extension.listBytes statement.extensions]
  have hbytes := Tag.sequence.length_of [
    (Tag.place 0).of [integer 2], integer statement.serial, Algorithm.signatureBytes key.kind,
    statement.issuer.bytes, Validity.bytes statement.notBefore statement.notAfter,
    statement.subject.bytes, PublicKey.write statement.keyKind statement.keyBits,
    (Tag.place 3).of [Extension.listBytes statement.extensions]]
  have hsigned := Tag.bitString.length_of
    [0 :: suite.sign key.secret (statement.bytes key.kind)]
  have hwhole := Tag.sequence.length_of [statement.bytes key.kind,
    Algorithm.signatureBytes key.kind,
    bitString (suite.sign key.secret (statement.bytes key.kind))]
  change (bitString statement.keyBits).length ≤ _ at hkeyBits
  change (PublicKey.write statement.keyKind statement.keyBits).length ≤ _ at hpublic
  change (statement.bytes key.kind).length ≤ _ at hbytes
  change (bitString (suite.sign key.secret (statement.bytes key.kind))).length ≤ _ at hsigned
  change (statement.certificate suite key).length ≤ _ at hwhole
  simp only [List.flatten_cons, List.flatten_nil, List.append_nil, List.length_append,
    List.length_cons] at *
  omega

end Statement

end EdgeFleet.Pki
