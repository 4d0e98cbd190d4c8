import SecondFactor.Certificate
import SecondFactor.PublicKey
import SecondFactor.Signature.Ecdsa
import SecondFactor.Signature.Rsa
import SecondFactor.Signature.Ed25519

/-!
The key a certificate certifies, and whether one certificate was issued by another: the names
agree byte for byte, and the issuer's key verifies the signature over the signed part.
-/

namespace SecondFactor.Certificate

/-! Identifiers of signature algorithms and curves. -/

namespace Identifier

def rsaSha1 : Bytes := [0x2A, 0x86, 0x48, 0x86, 0xF7, 0x0D, 0x01, 0x01, 0x05]
def rsaSha1Old : Bytes := [0x2B, 0x0E, 0x03, 0x02, 0x1D]
def rsaSha256 : Bytes := [0x2A, 0x86, 0x48, 0x86, 0xF7, 0x0D, 0x01, 0x01, 0x0B]
def rsaSha384 : Bytes := [0x2A, 0x86, 0x48, 0x86, 0xF7, 0x0D, 0x01, 0x01, 0x0C]
def rsaSha512 : Bytes := [0x2A, 0x86, 0x48, 0x86, 0xF7, 0x0D, 0x01, 0x01, 0x0D]
def ecdsaSha256 : Bytes := [0x2A, 0x86, 0x48, 0xCE, 0x3D, 0x04, 0x03, 0x02]
def ecdsaSha384 : Bytes := [0x2A, 0x86, 0x48, 0xCE, 0x3D, 0x04, 0x03, 0x03]
def ed25519 : Bytes := [0x2B, 0x65, 0x70]
def p256 : Bytes := [0x2A, 0x86, 0x48, 0xCE, 0x3D, 0x03, 0x01, 0x07]
def p384 : Bytes := [0x2B, 0x81, 0x04, 0x00, 0x22]

end Identifier

/-- The curve that an algorithm's parameters name. -/
def curve? (algorithm : Algorithm) : Option Curve := do
  let parameters ← algorithm.parameters
  if parameters.tag = Tag.objectIdentifier then
    if parameters.contents = Identifier.p256 then some Curve.p256
    else if parameters.contents = Identifier.p384 then some Curve.p384
    else none
  else none

/-- Whether an uncompressed point on a curve verifies the signature of a hash. -/
def verifyOnCurve (curve : Curve) (point hash signature : Bytes) : Bool :=
  match point with
  | tag :: rest =>
    let x := natOfBytes (rest.take curve.size)
    let y := natOfBytes (rest.drop curve.size)
    tag = 0x04 && rest.length = 2 * curve.size && curve.Contains x y
      && Signature.Ecdsa.verify curve x y hash signature
  | [] => false

def verifyEcdsa (issuer : Certificate) (hash signature : Bytes) : Bool :=
  match curve? issuer.keyAlgorithm with
  | some curve => verifyOnCurve curve issuer.key hash signature
  | none => false

/-- The RSA scheme that an algorithm names. -/
def rsaScheme? (algorithm : Algorithm) : Option Signature.Rsa.Scheme :=
  let identifier := algorithm.identifier
  if identifier = Identifier.rsaSha1 ∨ identifier = Identifier.rsaSha1Old then
    some Signature.Rsa.sha1
  else if identifier = Identifier.rsaSha256 then some Signature.Rsa.sha256
  else if identifier = Identifier.rsaSha384 then some Signature.Rsa.sha384
  else if identifier = Identifier.rsaSha512 then some Signature.Rsa.sha512
  else none

/-- Whether the issuer's key verifies the signature of a certificate. The algorithm is the one
the signature names; every other one verifies nothing. -/
def signatureVerifies (certificate issuer : Certificate) : Bool :=
  let message := certificate.signedPart
  let signature := certificate.signature
  let identifier := certificate.signatureAlgorithm.identifier
  match rsaScheme? certificate.signatureAlgorithm with
  | some scheme => Signature.Rsa.verify scheme issuer.key message signature
  | none =>
    if identifier = Identifier.ecdsaSha256 then
      verifyEcdsa issuer (Hash.Sha256.hash message) signature
    else if identifier = Identifier.ecdsaSha384 then
      verifyEcdsa issuer (Hash.Sha512.shortHash message) signature
    else if identifier = Identifier.ed25519 then
      Signature.Ed25519.verify issuer.key message signature
    else false

def wasIssuedBy (certificate issuer : Certificate) : Bool :=
  certificate.issuer = issuer.subject && signatureVerifies certificate issuer

/-- Whether the certificate at the front of one byte string issued the one at the front of
another. -/
def issued (certificate issuer : Bytes) : Bool :=
  match parse? certificate, parse? issuer with
  | some (certificate, _), some (issuer, _) => wasIssuedBy certificate issuer
  | _, _ => false

/-- The P-256 key that the certificate at the front certifies, whatever algorithm it names. -/
def publicKey? (bytes : Bytes) : Option PublicKey := do
  let (certificate, _) ← parse? bytes
  PublicKey.ofPoint? certificate.key

end SecondFactor.Certificate
