import SecondFactor.Raw.SignatureFrame
import SecondFactor.Raw.Presence

/-!
The raw authentication messages: a request for a signature by a key, and a response that carries
the presence flags, the counter and the signature.
-/

namespace SecondFactor.Raw

/-- Whether a request only asks if the key is known, and whether a user has to be present. -/
inductive Control where
  | checkOnly
  | enforcePresence
  | withoutPresence
deriving DecidableEq, Repr

namespace Control

def byte : Control → UInt8
  | .checkOnly => 0x07
  | .enforcePresence => 0x03
  | .withoutPresence => 0x08

def ofByte? (byte : UInt8) : Option Control :=
  if byte = 0x07 then some .checkOnly
  else if byte = 0x03 then some .enforcePresence
  else if byte = 0x08 then some .withoutPresence
  else none

theorem ofByte?_byte (control : Control) : ofByte? control.byte = some control := by
  cases control <;> rfl

theorem byte_of_ofByte? {byte : UInt8} {control : Control}
    (h : ofByte? byte = some control) : control.byte = byte := by
  unfold ofByte? at h
  split at h
  · cases h
    simp_all [Control.byte]
  · split at h
    · cases h
      simp_all [Control.byte]
    · split at h
      · cases h
        simp_all [Control.byte]
      · simp at h

end Control

structure AuthenticationRequest where
  control : Control
  challenge : Digest
  application : Digest
  keyHandle : Bytes
deriving DecidableEq

namespace AuthenticationRequest

/-- `challenge | application | length | key handle`; the control byte travels apart. -/
def encodeFields (request : AuthenticationRequest) : Except FormatFault Bytes := do
  let handle ← countedBytes request.keyHandle
  return request.challenge.val ++ request.application.val ++ handle

def encode (request : AuthenticationRequest) : Except FormatFault Bytes := do
  let payload ← request.encodeFields
  return request.control.byte :: payload

def scanFields (control : Control) : Scan AuthenticationRequest := fun bytes => do
  let (challenge, rest) ← Scan.fixed 32 bytes
  let (application, rest) ← Scan.fixed 32 rest
  let (keyHandle, rest) ← Scan.counted rest
  return (⟨control, challenge, application, keyHandle⟩, rest)

/-- A control byte that means nothing is reported before anything else. -/
def decodeFields (control : UInt8) (payload : Bytes) :
    Except FormatFault AuthenticationRequest :=
  match Control.ofByte? control with
  | none => .error (.controlByte control)
  | some control => Scan.complete (scanFields control payload)

def decode : Bytes → Except FormatFault AuthenticationRequest
  | [] => .error .truncated
  | control :: payload => decodeFields control payload

end AuthenticationRequest

structure AuthenticationResponse where
  presence : Presence
  counter : UInt32
  signature : Bytes
deriving DecidableEq

/-- The bytes of a counter, most significant first. -/
def counterBytes (counter : UInt32) : Bytes :=
  bytesOfNat 4 counter.toNat

def counterOfBlock (block : Block 4) : UInt32 :=
  UInt32.ofNat (natOfBytes block.val)

namespace AuthenticationResponse

/-- The size of the flags and the counter, which precede the signature. -/
def headerLength : Nat := 5

def encode (response : AuthenticationResponse) : Bytes :=
  response.presence.flags :: (counterBytes response.counter ++ response.signature)

def decode (bytes : Bytes) : Except FormatFault AuthenticationResponse := do
  let (flags, rest) ← Scan.byte bytes
  let (counter, rest) ← Scan.fixed 4 rest
  let signature ← restAsSignature rest
  return ⟨⟨flags⟩, counterOfBlock counter, signature⟩

end AuthenticationResponse

/-- What the user's key signs: `application | flags | counter | challenge`. -/
def authenticationSignedBytes (application : Digest) (presence : Presence) (counter : UInt32)
    (challenge : Digest) : Bytes :=
  application.val ++ presence.flags :: (counterBytes counter ++ challenge.val)

end SecondFactor.Raw
