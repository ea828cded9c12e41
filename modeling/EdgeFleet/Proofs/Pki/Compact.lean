import EdgeFleet.Proofs.Pki.Key

/-!
# How long keys and signatures get

A suite is compact if public keys and signatures of all secrets that documents hold take few bytes
(`IsCompact`). The suite that programs use is (`standard_compact`).
-/

namespace EdgeFleet.Pki

open Der Crypto

/-- Whether a secret is one that a document may hold. -/
def IsUsable : Secret → Prop
  | .rsa key => PrivateKey.isConsistent key = true
  | .elliptic _ _ | .edwards _ => True

/-- Whether keys and signatures are short. -/
structure IsCompact (suite : Suite) : Prop where
  publicKey : ∀ secret, IsUsable secret → (suite.publicKey secret).length ≤ compactLimit
  signature : ∀ secret message, IsUsable secret →
    (suite.sign secret message).length ≤ compactLimit

/-! ### Keys that were read -/

/-- The numbers that were read belong together. -/
theorem usable_of_rsa {content : Bytes} {secret : Secret}
    (h : Reader.inside PrivateKey.rsaSecret content = some secret) : IsUsable secret := by
  obtain ⟨rest, h⟩ := Reader.of_inside h
  obtain ⟨key, between, -, h⟩ := Reader.of_bind_run h
  obtain ⟨⟨⟩, last, -, h⟩ := Reader.of_bind_run h
  obtain ⟨⟨⟩, final, hguard, h⟩ := Reader.of_bind_run h
  have hconsistent : PrivateKey.isConsistent key = true := Reader.of_guard_run hguard
  cases h
  exact hconsistent

theorem usable_of_edwards {content : Bytes} {secret : Secret}
    (h : Reader.inside PrivateKey.edwardsSecret content = some secret) : IsUsable secret := by
  obtain ⟨rest, h⟩ := Reader.of_inside h
  obtain ⟨seed, between, -, h⟩ := Reader.of_bind_run h
  obtain ⟨⟨⟩, last, -, h⟩ := Reader.of_bind_run h
  obtain ⟨⟨⟩, final, -, h⟩ := Reader.of_bind_run h
  cases h
  trivial

theorem usable_of_elliptic {curve : Curve} {content shown : Bytes} {secret : Secret}
    (h : Reader.inside (PrivateKey.ellipticSecret curve) content = some (secret, shown)) :
    IsUsable secret := by
  obtain ⟨rest, h⟩ := Reader.of_inside h
  obtain ⟨found, between, hfound, h⟩ := Reader.of_bind_run h
  obtain ⟨⟨⟩, last, -, h⟩ := Reader.of_bind_run h
  cases h
  obtain ⟨inner, left, h⟩ := Reader.of_exactly_within hfound
  obtain ⟨version, input, -, h⟩ := Reader.of_bind_run h
  obtain ⟨⟨⟩, input, -, h⟩ := Reader.of_bind_run h
  obtain ⟨bytes, input, -, h⟩ := Reader.of_bind_run h
  obtain ⟨⟨⟩, input, -, h⟩ := Reader.of_bind_run h
  obtain ⟨named, input, -, h⟩ := Reader.of_bind_run h
  -- The name of the curve, where it is there, is read over.
  obtain ⟨input, h⟩ : ∃ input, (do
      let content ← Reader.exactlyWithin (.place 1) (Reader.exactly .bitString)
      return (Secret.elliptic curve bytes.toNat, ← StateT.lift (PrivateKey.wholeBits? content)) :
        Reader (Secret × Bytes)) input = some ((secret, shown), left) := by
    cases named with
    | false => exact ⟨input, h⟩
    | true =>
        obtain ⟨name, input, -, h⟩ := Reader.of_bind_run h
        obtain ⟨⟨⟩, input, -, h⟩ := Reader.of_bind_run h
        exact ⟨input, h⟩
  obtain ⟨content, input, -, h⟩ := Reader.of_bind_run h
  obtain ⟨bits, input, -, h⟩ := Reader.of_bind_run h
  cases h
  trivial

/-- A secret that was read can be used. -/
theorem usable_of_secret {suite : Suite} {kind : KeyKind} {document : Bytes} {secret : Secret}
    (h : PrivateKey.secret? suite kind document = some secret) : IsUsable secret := by
  unfold PrivateKey.secret? at h
  obtain ⟨⟨⟨content, shown⟩, rest⟩, -, h⟩ := Option.bind_eq_some_iff.1 h
  cases kind with
  | edwards =>
      obtain ⟨found, hfound, h⟩ := Option.bind_eq_some_iff.1 h
      obtain ⟨⟨⟩, -, h⟩ := Option.bind_eq_some_iff.1 h
      cases h
      exact usable_of_edwards hfound
  | elliptic curve =>
      obtain ⟨⟨found, bits⟩, hfound, h⟩ := Option.bind_eq_some_iff.1 h
      obtain ⟨⟨⟩, -, h⟩ := Option.bind_eq_some_iff.1 h
      cases h
      exact usable_of_elliptic hfound
  | rsa => exact usable_of_rsa h

/-- So can a key. -/
theorem usable_of_read {suite : Suite} {document : Bytes} {key : PrivateKey}
    (h : PrivateKey.read? suite document = some key) : IsUsable key.secret := by
  obtain ⟨secret, hsecret, rfl⟩ := Option.map_eq_some_iff.1 h
  obtain ⟨kind, -, hkind⟩ := List.exists_of_findSome?_eq_some hsecret
  exact usable_of_secret hkind

/-! ### The suite that programs use -/

/-- A whole number takes as many bytes as its binary digits do, and a few more. -/
theorem length_integer (value : Nat) : (integer value).length ≤
    Nat.log2 value / 8 + Nat.log2 value / 8192 + 7 := by
  have hlength := Tag.integer.length_of [Reader.integerContent value]
  have hcontent := (Reader.length_integer_content value).2
  rw [Reader.of_single, ← Reader.integer_eq, List.flatten_singleton] at hlength
  omega

theorem log2_of_bits {value bits : Nat} (h : Rsa.bitLength value ≤ bits) :
    Nat.log2 value ≤ bits := by
  unfold Rsa.bitLength at h
  split at h
  · rename_i hzero
    rw [hzero]
    exact Nat.zero_le bits
  · omega

/-- A number of some bytes has eight binary digits for each of them. -/
theorem log2_lt_of_bytes {value width : Nat} (hwidth : 0 < width) (h : value < Bytes.limit width) :
    Nat.log2 value < 8 * width := by
  by_cases hzero : value = 0
  · rw [hzero, Nat.log2_zero]
    omega
  · exact (Bytes.lt_limit_iff hzero width).1 h

/-- Numbers of a soundness that can be worked with have few digits. -/
theorem bits_of_consistent {key : Rsa.SecretKey} (h : PrivateKey.isConsistent key = true) :
    Rsa.bitLength key.publicKey.modulus ≤ 4096 ∧ Rsa.bitLength key.publicKey.exponent ≤ 33 := by
  unfold PrivateKey.isConsistent Rsa.PublicKey.isSound Rsa.PublicKey.bits at h
  simp only [Bool.and_eq_true, decide_eq_true_eq] at h
  omega

theorem length_rsa_key {key : Rsa.SecretKey} (h : PrivateKey.isConsistent key = true) :
    (Suite.rsaKey key.publicKey).length ≤ compactLimit := by
  obtain ⟨hmodulus, hexponent⟩ := bits_of_consistent h
  have hmodulusLog := log2_of_bits hmodulus
  have hexponentLog := log2_of_bits hexponent
  have hmodulusLength := length_integer key.publicKey.modulus
  have hexponentLength := length_integer key.publicKey.exponent
  have hlength := Tag.sequence.length_of
    [integer key.publicKey.modulus, integer key.publicKey.exponent]
  have hlimit : compactLimit = 1024 := rfl
  change (Suite.rsaKey key.publicKey).length ≤ _ at hlength
  simp only [List.flatten_cons, List.flatten_nil, List.append_nil, List.length_append] at hlength
  omega

theorem length_rsa_signature {key : Rsa.SecretKey} (h : PrivateKey.isConsistent key = true)
    (hash : Hash) (message : Bytes) : (Rsa.sign key hash message).length ≤ compactLimit := by
  obtain ⟨hmodulus, -⟩ := bits_of_consistent h
  have hlimit : compactLimit = 1024 := rfl
  unfold Rsa.sign Rsa.PublicKey.width Rsa.PublicKey.bits
  rw [Bytes.length_of_nat]
  omega

theorem length_elliptic_key (curve : Curve) (number : Nat) :
    (curve.publicKey number).length ≤ 97 := by
  have hwidth : curve.width ≤ 48 := by cases curve <;> decide
  unfold Curve.publicKey
  split
  · simp only [Curve.encode, List.length_append, List.length_cons, Bytes.length_of_nat]
    omega
  · exact Nat.zero_le _

/-- The numbers of a signature are below the order of the group. -/
theorem sign_lt (curve : Curve) (secret : Nat) (digest : Bytes) :
    (Ecdsa.sign curve secret digest).r < curve.order ∧
      (Ecdsa.sign curve secret digest).s < curve.order := by
  have horder : 0 < curve.order := by cases curve <;> decide
  unfold Ecdsa.sign
  cases hfound : (List.range 256).findSome? fun attempt =>
      Ecdsa.signWith? curve secret digest (Ecdsa.nonce curve secret digest attempt) with
  | none => exact ⟨horder, horder⟩
  | some signature =>
      obtain ⟨attempt, -, hsign⟩ := List.exists_of_findSome?_eq_some hfound
      unfold Ecdsa.signWith? at hsign
      obtain ⟨⟨x, y⟩, -, hsign⟩ := Option.bind_eq_some_iff.1 hsign
      dsimp only at hsign
      split at hsign
      · cases hsign
      · cases hsign
        exact ⟨Nat.mod_lt _ horder, Nat.mod_lt _ horder⟩

theorem length_elliptic_signature (curve : Curve) (secret : Nat) (digest : Bytes) :
    (Suite.ecdsaSignature (Ecdsa.sign curve secret digest)).length ≤ compactLimit := by
  obtain ⟨hr, hs⟩ := sign_lt curve secret digest
  have horder : curve.order < Bytes.limit 48 := by cases curve <;> decide
  have hrLog := log2_lt_of_bytes (by decide) (Nat.lt_trans hr horder)
  have hsLog := log2_lt_of_bytes (by decide) (Nat.lt_trans hs horder)
  have hrLength := length_integer (Ecdsa.sign curve secret digest).r
  have hsLength := length_integer (Ecdsa.sign curve secret digest).s
  have hlength := Tag.sequence.length_of
    [integer (Ecdsa.sign curve secret digest).r, integer (Ecdsa.sign curve secret digest).s]
  have hlimit : compactLimit = 1024 := rfl
  change (Suite.ecdsaSignature _).length ≤ _ at hlength
  simp only [List.flatten_cons, List.flatten_nil, List.append_nil, List.length_append] at hlength
  omega

theorem length_encode (point : Edwards.Point) : point.encode.length = 32 := by
  unfold Edwards.Point.encode
  rw [List.length_reverse, Bytes.length_of_nat]

/-- Its keys and signatures are short. -/
theorem standard_compact : IsCompact .standard where
  publicKey := by
    intro secret husable
    cases secret with
    | rsa key => exact length_rsa_key husable
    | elliptic curve number =>
        exact Nat.le_trans (length_elliptic_key curve number) (by decide)
    | edwards seed =>
        exact Nat.le_trans (Nat.le_of_eq (length_encode _)) (by decide)
  signature := by
    intro secret message husable
    cases secret with
    | rsa key => exact length_rsa_signature husable .sha256 message
    | elliptic curve number => exact length_elliptic_signature curve number _
    | edwards seed =>
        show (Edwards.sign seed message).length ≤ compactLimit
        have hlimit : compactLimit = 1024 := rfl
        simp only [Edwards.sign, List.length_append, List.length_reverse, Bytes.length_of_nat,
          length_encode]
        omega

end EdgeFleet.Pki
