import SecondFactor.KeyPair
import SecondFactor.Certificate.Issuer
import SecondFactor.Hash.Hmac
import SecondFactor.Failure
import SecondFactor.Text.Utf8

/-!
The cryptographic operations the protocol rests on. Tokens, relying parties and clients are
written over any suite, so what holds of them holds whatever the operations compute.
-/

namespace SecondFactor

structure Suite where
  /-- The digest of client data, of application ids and of nothing else. -/
  digest : Bytes → Digest
  /-- A keyed digest, from which key handles are derived. -/
  keyedDigest : Digest → Bytes → Digest
  /-- The key pair of a secret, if the number can be one. -/
  keyPair? : Nat → Option KeyPair
  sign : KeyPair → Bytes → Bytes
  verify : PublicKey → Bytes → Bytes → Bool
  /-- Whether the second certificate issued the first. -/
  issued : Bytes → Bytes → Bool

/-- SHA-256, HMAC with SHA-256, ECDSA on P-256, and signatures of certificates. -/
def Suite.standard : Suite where
  digest := Hash.Sha256.digest
  keyedDigest secret message := Hash.Hmac.mac secret.val message
  keyPair? := KeyPair.ofSecret?
  sign := KeyPair.sign
  verify := PublicKey.verify
  issued := Certificate.issued

/-- The digest of a text's bytes. -/
def Suite.digestText (suite : Suite) (text : String) : Digest :=
  suite.digest (Utf8.bytes text)

/-- The key pair of a secret given as bytes. -/
def Suite.keyPairOfBytes? (suite : Suite) (bytes : Bytes) : Option KeyPair :=
  KeyPair.secretOfBytes? bytes >>= suite.keyPair?

/-- Whether the key of the certificate verifies a signature. Fails when there is no such key. -/
def Suite.verifyCertified (suite : Suite) (certificate message signature : Bytes) :
    Except Failure Bool :=
  match Certificate.publicKey? certificate with
  | some key => .ok (suite.verify key message signature)
  | none => .error (.format .certificate)

end SecondFactor
