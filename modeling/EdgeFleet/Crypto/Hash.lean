import EdgeFleet.Digest.Sha1
import EdgeFleet.Digest.Sha2

/-!
# The digests that signatures are made over
-/

namespace EdgeFleet.Crypto

/-- A digest that signatures are made over. -/
inductive Hash where
  | sha1
  | sha256
  | sha384
  | sha512
  deriving Repr, DecidableEq

namespace Hash

/-- The digest of a message. -/
def digest : Hash → Bytes → Bytes
  | .sha1 => Digest.Sha1.digest
  | .sha256 => Digest.sha256
  | .sha384 => Digest.sha384
  | .sha512 => Digest.sha512

/-- The length of digests in bytes. -/
def width : Hash → Nat
  | .sha1 => 20
  | .sha256 => 32
  | .sha384 => 48
  | .sha512 => 64

end Hash

end EdgeFleet.Crypto
