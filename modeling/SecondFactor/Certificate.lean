import SecondFactor.Certificate.Element
import SecondFactor.Certificate.Date

/-!
X.509 certificates, as far as attestation needs them. A certificate is an outer sequence of
definite length; its contents alone decide whether it is one, and what follows it is left over.
-/

namespace SecondFactor

open Certificate

/-- An algorithm by its object identifier, with its parameters if it has any. -/
structure Algorithm where
  identifier : Bytes
  parameters : Option Element
deriving DecidableEq, Repr

/-- The parts of a certificate that are compared or verified. Names and the signed part are kept
as they were written. -/
structure Certificate where
  signedPart : Bytes
  issuer : Bytes
  subject : Bytes
  keyAlgorithm : Algorithm
  key : Bytes
  signatureAlgorithm : Algorithm
  signature : Bytes
deriving DecidableEq, Repr

namespace Certificate

/-- An identifier, then whatever comes as parameters; more than that is ignored. -/
def algorithm? (bytes : Bytes) : Option (Algorithm × Bytes) := do
  let (outer, rest) ← tagged? Tag.sequence bytes
  let (identifier, unread) ← primitive? Tag.objectIdentifier outer.contents
  if unread.isEmpty then return (⟨identifier.contents, none⟩, rest)
  let (parameters, _) ← element? unread
  return (⟨identifier.contents, some parameters⟩, rest)

/-- The bytes of a bit string. Its first byte counts the unused bits at its end, which are zero;
an empty one has none. -/
def bitsOf? : Bytes → Option Bytes
  | [] => none
  | [unused] => if unused = 0 then some [] else none
  | unused :: bits =>
    if unused ≤ 8 ∧ (bits.getLastD 0).toNat % (1 <<< unused.toNat) = 0 then some bits else none

def bitString? (bytes : Bytes) : Option (Bytes × Bytes) := do
  let (element, rest) ← primitive? Tag.bitString bytes
  let bits ← bitsOf? element.contents
  return (bits, rest)

/-- A number of 32 bits in its shortest form. -/
def isSmallNumber (contents : Bytes) : Bool :=
  match contents with
  | [] => false
  | [byte] => byte < 0x80
  | 0x00 :: byte :: _ => 0x80 ≤ byte && contents.length ≤ 5
  | byte :: _ => byte < 0x80 && contents.length ≤ 4

/-- Skips the version, which may be absent. -/
def skipVersion? (bytes : Bytes) : Option Bytes := do
  if bytes.isEmpty then return bytes
  let (opening, _) ← opening? bytes
  if opening.tagClass = .context ∧ opening.tag = 0 then
    let (outer, rest) ← element? bytes
    let (number, _) ← primitive? Tag.integer outer.contents
    if isSmallNumber number.contents then return rest else none
  else return bytes

/-- An attribute of a name is an object identifier and a value of any kind. -/
def isAttribute (bytes : Bytes) : Bool :=
  let parts := do
    let (outer, _) ← tagged? Tag.sequence bytes
    let (_, value) ← primitive? Tag.objectIdentifier outer.contents
    element? value
  parts.isSome

/-- Skips one set of attributes, of which the first is looked at. -/
def skipAttributes? (bytes : Bytes) : Option Bytes := do
  let (outer, rest) ← tagged? Tag.set bytes
  if isAttribute outer.contents then some rest else none

/-- What a name leaves unread: it goes on as long as it is made of sets of attributes. -/
def unreadOfName : Nat → Bytes → Bytes
  | 0, bytes => bytes
  | fuel + 1, bytes =>
    match skipAttributes? bytes with
    | some rest => unreadOfName fuel rest
    | none => bytes

/-- The bytes of a name, without what is not read of it. -/
def name? (bytes : Bytes) : Option (Bytes × Bytes) := do
  let (outer, rest) ← tagged? Tag.sequence bytes
  let unread := unreadOfName outer.contents.length outer.contents
  return (consumedIn bytes rest unread, rest)

def skipValidity? (bytes : Bytes) : Option Bytes := do
  let (outer, rest) ← tagged? Tag.sequence bytes
  let notAfter ← Date.skip? outer.contents
  let _ ← Date.skip? notAfter
  return rest

def publicKeyInfo? (bytes : Bytes) : Option (Algorithm × Bytes × Bytes) := do
  let (outer, rest) ← tagged? Tag.sequence bytes
  let (algorithm, unread) ← algorithm? outer.contents
  let (key, _) ← bitString? unread
  return (algorithm, key, rest)

/-- Skips a unique identifier, a bit string under the given tag, which may be absent. -/
def skipUniqueIdentifier? (tag : Nat) (bytes : Bytes) : Option Bytes := do
  if bytes.isEmpty then return bytes
  let (opening, _) ← opening? bytes
  if opening.tagClass = .context ∧ opening.tag = tag then
    let (element, rest) ← element? bytes
    if element.constructed then none
    else
      let _ ← bitsOf? element.contents
      return rest
  else return bytes

/-- The critical mark of an extension is one byte of a boolean, and may be absent. -/
def skipCritical (bytes : Bytes) : Bytes :=
  match element? bytes with
  | some (element, rest) =>
    if element.tag = Tag.boolean ∧ element.contents.length = 1 then rest else bytes
  | none => bytes

/-- Skips one extension: an object identifier, perhaps a critical mark, and a value. -/
def skipExtension? (bytes : Bytes) : Option Bytes := do
  let (outer, rest) ← tagged? Tag.sequence bytes
  let (_, unread) ← primitive? Tag.objectIdentifier outer.contents
  let _ ← primitive? Tag.octetString (skipCritical unread)
  return rest

/-- Whether the bytes are extensions and nothing else. -/
def areExtensions : Nat → Bytes → Bool
  | 0, bytes => bytes.isEmpty
  | fuel + 1, bytes =>
    bytes.isEmpty ||
      match skipExtension? bytes with
      | some rest => areExtensions fuel rest
      | none => false

/-- Skips the extensions, which end the signed part if they are there. Of the element around them
only the tag is looked at. -/
def skipExtensions? (bytes : Bytes) : Option Bytes := do
  if bytes.isEmpty then return bytes
  let (opening, rest) ← opening? bytes
  if opening.tag ≠ 3 then none
  else
    let (outer, rest) ← tagged? Tag.sequence rest
    if areExtensions outer.contents.length outer.contents then some rest else none

/-- The signed part as it was written, its issuer and subject, and the key it certifies. -/
structure SignedPart where
  bytes : Bytes
  issuer : Bytes
  subject : Bytes
  keyAlgorithm : Algorithm
  key : Bytes

def signedPart? (bytes : Bytes) : Option (SignedPart × Bytes) := do
  let (outer, rest) ← tagged? Tag.sequence bytes
  let unread ← skipVersion? outer.contents
  let (_, unread) ← tagged? Tag.integer unread
  let (_, unread) ← algorithm? unread
  let (issuer, unread) ← name? unread
  let unread ← skipValidity? unread
  let (subject, unread) ← name? unread
  let (keyAlgorithm, key, unread) ← publicKeyInfo? unread
  let unread ← skipUniqueIdentifier? 1 unread
  let unread ← skipUniqueIdentifier? 2 unread
  let unread ← skipExtensions? unread
  return (⟨consumedIn bytes rest unread, issuer, subject, keyAlgorithm, key⟩,
    rest)

/-- The certificate that the contents of an outer sequence make. What comes after the signature
is ignored. -/
def ofContents? (contents : Bytes) : Option Certificate := do
  let (signedPart, rest) ← signedPart? contents
  let (signatureAlgorithm, rest) ← algorithm? rest
  let (signature, _) ← bitString? rest
  return {
    signedPart := signedPart.bytes
    issuer := signedPart.issuer
    subject := signedPart.subject
    keyAlgorithm := signedPart.keyAlgorithm
    key := signedPart.key
    signatureAlgorithm
    signature }

/-- The certificate at the front, and what follows it. -/
def parse? (bytes : Bytes) : Option (Certificate × Bytes) := do
  let (outer, rest) ← tagged? Tag.sequence bytes
  let certificate ← ofContents? outer.contents
  return (certificate, rest)

/-- The length of the certificate at the front. -/
def lengthAt? (bytes : Bytes) : Option Nat :=
  (parse? bytes).map fun (_, rest) => bytes.length - rest.length

end Certificate

end SecondFactor
