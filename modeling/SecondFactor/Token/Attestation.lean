import SecondFactor.Suite

/-!
The attestation of a batch of tokens: a certificate and the key pair it certifies.
-/

namespace SecondFactor

structure Attestation where
  certificate : Bytes
  keyPair : KeyPair
deriving DecidableEq

namespace Attestation

/-- Pairs a certificate with the key pair it certifies, and with no other. -/
def ofKeyPair (certificate : Bytes) (keyPair : KeyPair) : Except Failure Attestation :=
  match Certificate.publicKey? certificate with
  | none => .error (.format .certificate)
  | some certified =>
    if certified = keyPair.publicKey then .ok ⟨certificate, keyPair⟩ else .error .invalidKey

/-- The key is read before the certificate. -/
def ofBytes (suite : Suite) (certificate secret : Bytes) : Except Failure Attestation :=
  match suite.keyPairOfBytes? secret with
  | none => .error .invalidKey
  | some keyPair => ofKeyPair certificate keyPair

end Attestation

end SecondFactor
