import SecondFactor.Suite

/-!
The attestation certificates a relying party trusts. A certificate is trusted when it is one of
them, or was issued by one of them; longer chains are not followed.
-/

namespace SecondFactor

structure TrustAnchors where
  certificates : List Bytes
deriving DecidableEq, Repr

namespace TrustAnchors

def empty : TrustAnchors := ⟨[]⟩

/-- Whether a byte string is one certificate and nothing else. -/
def isWhole (certificate : Bytes) : Bool :=
  Certificate.lengthAt? certificate = some certificate.length

/-- Adds a certificate unless it is there. -/
def add (anchors : TrustAnchors) (certificate : Bytes) : Except Failure TrustAnchors :=
  if isWhole certificate then
    if certificate ∈ anchors.certificates then .ok anchors
    else .ok ⟨anchors.certificates ++ [certificate]⟩
  else .error (.format .certificate)

def trusts (suite : Suite) (anchors : TrustAnchors) (certificate : Bytes) : Bool :=
  anchors.certificates.any fun trusted =>
    trusted = certificate || suite.issued certificate trusted

end TrustAnchors

end SecondFactor
