import EdgeFleet.Pki.Authority
import EdgeFleet.Proofs.Check
import EdgeFleet.Proofs.Pki.Certificate
import EdgeFleet.Proofs.Pki.Expiry

/-!
# Certificates that an authority gives out

An answer to a request, and a certificate for a server, are statements of the authority under its
signature (`Authority.of_answer`, `Authority.of_server_certificate`). All that they say can be
written, so that they are read back as what they say (`Authority.read_issue`), if their texts are
not so long that no length could be told.
-/

namespace EdgeFleet.Pki

open Der Crypto Validity

/-! ### Names that were taken over -/

/-- Only types with a small number are types of texts. -/
theorem number_lt_of_is_text {number : Nat} {content : Bytes} (h : isText number content = true) :
    number < 31 := by
  have htypes : bmpString < 31 ∧ universalString < 31 ∧ Tag.utf8String.number < 31 ∧
      printableString < 31 ∧ ia5String < 31 ∧ teletexString < 31 := by
    decide
  unfold isText at h
  repeat' split at h
  all_goals first | omega | cases h

namespace PlainName

/-- Adding an attribute keeps to attributes that are written in the only way there is. -/
theorem insert_written {name : PlainName} {entry : Attribute} (hentry : entry.IsWritten)
    (h : ∀ known ∈ name, known.IsWritten) : ∀ known ∈ insert name entry, known.IsWritten := by
  intro known hknown
  unfold insert at hknown
  split at hknown
  · obtain ⟨other, hother, rfl⟩ := List.mem_map.1 hknown
    split
    · exact hentry
    · exact h other hother
  · rcases List.mem_append.1 hknown with hold | hnew
    · exact h known hold
    · exact List.mem_singleton.1 hnew ▸ hentry

/-- So does adding several. -/
theorem foldl_insert_written {name : PlainName} {entries : List Attribute}
    (hentries : ∀ entry ∈ entries, entry.IsWritten) (h : ∀ known ∈ name, known.IsWritten) :
    ∀ known ∈ entries.foldl insert name, known.IsWritten := by
  induction entries generalizing name with
  | nil => exact h
  | cons entry rest ih =>
      obtain ⟨hentry, hrest⟩ := List.forall_mem_cons.1 hentries
      exact ih hrest (insert_written hentry h)

/-- The name that can be written for one that was read is written in the only way there is. -/
theorem of_name_written {name : Name} {issuer : PlainName} (h : ofName? name = some issuer) :
    ∀ entry ∈ issuer, entry.IsWritten := by
  obtain ⟨attributes, hattributes, hissuer⟩ := Option.bind_eq_some_iff.1 h
  cases hissuer
  refine foldl_insert_written ?_ (List.forall_mem_nil _)
  clear h
  induction name generalizing attributes with
  | nil =>
      cases hattributes
      exact List.forall_mem_nil _
  | cons part rest ih =>
      rw [List.mapM_cons] at hattributes
      obtain ⟨entry, hentry, hnext⟩ := Option.bind_eq_some_iff.1 hattributes
      obtain ⟨others, hothers, hall⟩ := Option.bind_eq_some_iff.1 hnext
      cases hall
      refine List.forall_mem_cons.2 ⟨?_, ih others hothers⟩
      split at hentry
      · split at hentry
        · rename_i htext
          cases hentry
          exact ⟨number_lt_of_is_text htext, rfl⟩
        · cases hentry
      · cases hentry

end PlainName

/-! ### Statements -/

namespace Authority

variable {suite : Suite} {authority : Authority} {serial : Nat} {now : Int} {text : String}

/-- The name that an authority signs under can be written. -/
theorem name_written {issuer : PlainName} (h : authority.name = .ok issuer) :
    ∀ entry ∈ issuer, entry.IsWritten := by
  unfold name at h
  split at h
  · split at h
    · rename_i hname
      split at h
      · cases h
        exact PlainName.of_name_written hname
      · cases h
    · cases h
  · cases h

/-- A request is answered if it is signed by the holder of its key and asks for nothing that could
not be said. The answer is the statement of the authority on the key. -/
theorem answer_iff {request : Bytes} : authority.answer suite serial now request = .ok text ↔
    ∃ read kind asked issuer, Request.read? request = some read ∧ read.isSigned suite = true ∧
      read.algorithm.kind? = some kind ∧ read.profile? = some asked ∧
        authority.name = .ok issuer ∧ text = authority.issue suite
          (authority.nodeStatement issuer kind read.publicKey asked serial now) := by
  constructor
  · intro h
    unfold answer at h
    split at h
    · rename_i read hread
      by_cases hsigned : read.isSigned suite = true
      · rw [if_pos hsigned] at h
        dsimp only at h
        split at h
        · rename_i kind hkind
          split at h
          · rename_i asked hasked
            obtain ⟨issuer, hname, hissued⟩ := bind_ok h
            cases hissued
            exact ⟨read, kind, asked, issuer, hread, hsigned, hkind, hasked, hname, rfl⟩
          · cases h
        · cases h
      · rw [if_neg hsigned] at h
        cases h
    · cases h
  · rintro ⟨read, kind, asked, issuer, hread, hsigned, hkind, hasked, hname, rfl⟩
    rw [answer, hread]
    dsimp only
    rw [if_pos hsigned, hkind, hasked, hname]
    rfl

/-- What a certificate for a server is. -/
theorem of_server_certificate {key : PrivateKey} {name : String}
    (h : authority.serverCertificate suite serial now key name = .ok text) :
    ∃ issuer, authority.name = .ok issuer ∧
      text = authority.issue suite
        (authority.serverStatement suite issuer key name serial now) := by
  obtain ⟨issuer, hname, hissued⟩ := bind_ok h
  cases hissued
  exact ⟨issuer, hname, rfl⟩

/-- The statement of a node can be written. -/
theorem node_written (hexpiry : InRange authority.expiry) (hnow : InRange now)
    {issuer : PlainName} (hname : authority.name = .ok issuer) (kind : KeyKind)
    (publicKey : PublicKey) (asked : Profile) (serial : Nat) :
    (authority.nodeStatement issuer kind publicKey asked serial now).IsWritten where
  issuer := name_written hname
  notBefore := hnow
  notAfter := hexpiry
  subject := PlainName.single_written _ _

/-- So can that of a server. -/
theorem server_written (suite : Suite) (hexpiry : InRange authority.expiry) (hnow : InRange now)
    {issuer : PlainName} (hname : authority.name = .ok issuer) (key : PrivateKey) (name : String)
    (serial : Nat) : (authority.serverStatement suite issuer key name serial now).IsWritten where
  issuer := name_written hname
  notBefore := hnow
  notAfter := hexpiry
  subject := PlainName.single_written _ _

/-- A certificate that was given out is read as what it says, unless its text is so long that no
length could be told. -/
theorem read_issue {statement : Statement} (h : statement.IsWritten)
    (hlength : (authority.issue suite statement).length < lengthLimit) :
    ∃ content, Pem.read (authority.issue suite statement) = .ok content ∧
      Certificate.read? content = some (statement.shown suite authority.key) := by
  have hcontent := Pem.length_render ⟨certificateLabel, statement.certificate suite authority.key⟩
  refine ⟨statement.certificate suite authority.key, ?_, ?_⟩
  · rw [issue, Pem.read, parse_certificate]
  · exact Statement.read_certificate h (Nat.lt_trans hcontent.1 hlength)

/-- A certificate of parts that are not too long has a text that is not too long. -/
theorem length_issue_lt {statement : Statement} (h : statement.IsWritten)
    (hserial : (integer statement.serial).length ≤ Statement.partLimit)
    (hissuer : statement.issuer.bytes.length ≤ Statement.partLimit)
    (hsubject : statement.subject.bytes.length ≤ Statement.partLimit)
    (hbits : statement.keyBits.length ≤ Statement.partLimit)
    (hextensions : (Extension.listBytes statement.extensions).length ≤ Statement.partLimit)
    (hsignature : (suite.sign authority.key.secret
      (statement.bytes authority.key.kind)).length ≤ Statement.partLimit) :
    (authority.issue suite statement).length < lengthLimit := by
  have hcontent := Statement.length_certificate h hserial hissuer hsubject hbits hextensions
    hsignature
  have htext := (Pem.length_render
    ⟨certificateLabel, statement.certificate suite authority.key⟩).2
  have hlabel : certificateLabel.length = 11 := by decide
  have hlimits : Statement.partLimit = 0x1000000000000 ∧ lengthLimit = 0x10000000000000000 :=
    ⟨rfl, rfl⟩
  unfold issue
  dsimp only at htext
  omega

end Authority

/-! ### What is shown of them -/

/-- A holder who is named by a text alone is named by it. -/
theorem Statement.common_name_shown {suite : Suite} {statement : Statement} {key : PrivateKey}
    {name : String} (h : statement.subject = .single commonNameKind name) :
    (statement.shown suite key).commonName? = some name := by
  have hsubject : (statement.shown suite key).subject =
      [[⟨commonNameKind, Tag.utf8String.element (.ofText name)⟩]] := by
    rw [shown, h]
    rfl
  rw [Certificate.commonName?, hsubject]
  show (some (Attribute.mk commonNameKind (Tag.utf8String.element (.ofText name)))).bind
    Attribute.text? = _
  exact Bytes.text_of_text name

/-! ### Answers -/

section

variable {suite : Suite} {authority : Authority}

/-- A request that an authority has answered, at a point in time that can be written and with a
text that is not too long for the length of a document to be told. -/
structure Answered (suite : Suite) (authority : Authority) where
  bytes : Bytes
  request : Request
  serial : Nat
  now : Int
  text : String
  reads : Request.read? bytes = some request
  in_range : Validity.InRange now
  answers : authority.answer suite serial now bytes = .ok text
  short : text.length < lengthLimit

/-- The certificate in an answer is that of a statement on the node, under the name of the
authority. The key is written as one of the family that the request is signed in. -/
theorem Answered.shown (answered : Answered suite authority)
    (hexpiry : Validity.InRange authority.expiry) {issuer : PlainName}
    (hissuer : authority.name = .ok issuer) :
    ∃ kind asked, answered.request.algorithm.kind? = some kind ∧
      Certificate.ofText .certificate answered.text =
        .ok ((authority.nodeStatement issuer kind answered.request.publicKey asked answered.serial
          answered.now).shown suite authority.key) := by
  obtain ⟨read, kind, asked, found, hread, -, hkind, -, hfound, htext⟩ :=
    Authority.answer_iff.1 answered.answers
  obtain rfl := Option.some.inj (hread.symm.trans answered.reads)
  obtain rfl := Except.ok.inj (hfound.symm.trans hissuer)
  refine ⟨kind, asked, hkind, ?_⟩
  have hshort := answered.short
  rw [htext] at hshort ⊢
  exact Certificate.of_text_iff.2 (Authority.read_issue
    (Authority.node_written hexpiry answered.in_range hissuer kind _ asked _) hshort)

/-- An authority that has answered has a name to sign under. -/
theorem Answered.name (answered : Answered suite authority) :
    ∃ issuer, authority.name = .ok issuer := by
  obtain ⟨-, -, -, issuer, -, -, -, -, hissuer, -⟩ := Authority.answer_iff.1 answered.answers
  exact ⟨issuer, hissuer⟩

end

end EdgeFleet.Pki
