import SecondFactor.Raw.SignatureFrame
import SecondFactor.Raw.PublicKey
import SecondFactor.Certificate

/-!
The raw registration messages: a request of two digests, and a response that carries the new
public key, its handle, the attestation certificate and a signature.
-/

namespace SecondFactor.Raw

/-- The digests of the client data and of the application id. -/
structure RegistrationRequest where
  challenge : Digest
  application : Digest
deriving DecidableEq

namespace RegistrationRequest

def encode (request : RegistrationRequest) : Bytes :=
  request.challenge.val ++ request.application.val

def scan : Scan RegistrationRequest := fun bytes => do
  let (challenge, rest) ← Scan.fixed 32 bytes
  let (application, rest) ← Scan.fixed 32 rest
  return (⟨challenge, application⟩, rest)

def decode (bytes : Bytes) : Except FormatFault RegistrationRequest :=
  Scan.complete (scan bytes)

end RegistrationRequest

/-- A new key, with the certificate of the key that attests it and that key's signature. -/
structure RegistrationResponse where
  publicKey : PublicKey
  keyHandle : Bytes
  certificate : Bytes
  signature : Bytes
deriving DecidableEq

namespace RegistrationResponse

/-- `05 | public key | length | key handle | certificate | signature`. -/
def encode (response : RegistrationResponse) : Except FormatFault Bytes := do
  let handle ← countedBytes response.keyHandle
  return 0x05 :: (response.publicKey.bytes ++ handle ++ response.certificate
    ++ response.signature)

def scanReserved : Scan Unit := fun bytes => do
  let (reserved, rest) ← Scan.byte bytes
  if reserved ≠ 0x05 then throw (.reservedByte reserved)
  return ((), rest)

/-- All 65 bytes of the key have to be there before any of them is looked at. -/
def scanPublicKey : Scan PublicKey := fun bytes => do
  let (point, rest) ← Scan.fixed 65 bytes
  let key ← PublicKey.decode point.val
  return (key, rest)

/-- The certificate ends where its own structure says. -/
def scanCertificate : Scan Bytes := fun bytes =>
  match Certificate.lengthAt? bytes with
  | some length => .ok (bytes.take length, bytes.drop length)
  | none => .error .certificate

/-- Everything after the certificate is the signature. -/
def decode (bytes : Bytes) : Except FormatFault RegistrationResponse := do
  let (_, rest) ← scanReserved bytes
  let (publicKey, rest) ← scanPublicKey rest
  let (keyHandle, rest) ← Scan.counted rest
  let (certificate, rest) ← scanCertificate rest
  let signature ← restAsSignature rest
  return ⟨publicKey, keyHandle, certificate, signature⟩

end RegistrationResponse

/-- What the attestation key signs: `00 | application | challenge | key handle | public key`. The
handle is the only part whose length varies, so its length is not written. -/
def registrationSignedBytes (application challenge : Digest) (keyHandle : Bytes)
    (publicKey : PublicKey) : Bytes :=
  0x00 :: (application.val ++ challenge.val ++ keyHandle ++ publicKey.bytes)

end SecondFactor.Raw
