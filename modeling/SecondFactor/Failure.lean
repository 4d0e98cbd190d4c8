import SecondFactor.Bytes
import SecondFactor.Bytes.Hex

/-!
Why a message is refused, why an operation fails, and the words each of them is reported in.
-/

namespace SecondFactor

/-- What is wrong with a message. -/
inductive FormatFault where
  | truncated
  | trailingData
  | keyHandleTooLong (length : Nat)
  | reservedByte (byte : UInt8)
  | publicKey
  | certificate
  | signature
  | controlByte (byte : UInt8)
  | clientData
  | base64
deriving DecidableEq, Repr

/-- Why an operation of a token, a relying party or a client fails. -/
inductive Failure where
  | format (fault : FormatFault)
  | unknownSession
  | untrustedAttestation
  | invalidSignature
  | counterRegression (stored received : UInt32)
  | unknownKeyHandle
  | presenceDenied
  | noRegisteredKeys
  | originMismatch (origin appId : String)
  | unsupportedVersion (version : String)
  | presenceTestRequired
  | clientDataMismatch (field : String)
  | invalidKey
  | storage (reason : String)
deriving DecidableEq, Repr

/-- A byte as two lower case digits behind `0x`. -/
def byteText (byte : UInt8) : String :=
  "0x" ++ Hex.encode [byte]

def FormatFault.message : FormatFault → String
  | .truncated => "message is truncated"
  | .trailingData => "message ends with unexpected data"
  | .keyHandleTooLong length =>
    "key handle of " ++ toString length ++ " bytes cannot be longer than 255 bytes"
  | .reservedByte byte =>
    "incorrect value of reserved byte, expected 0x05 but was " ++ byteText byte
  | .publicKey => "user public key is not an uncompressed P-256 point"
  | .certificate => "attestation certificate is not a valid X.509 certificate"
  | .signature => "signature is not DER encoded"
  | .controlByte byte => "unknown control byte " ++ byteText byte
  | .clientData => "client data has the wrong format"
  | .base64 => "value is not base64 encoded"

def Failure.message : Failure → String
  | .format fault => fault.message
  | .unknownSession => "unknown session id"
  | .untrustedAttestation => "attestation certificate is not trusted"
  | .invalidSignature => "signature is invalid"
  | .counterRegression stored received =>
    "counter value " ++ toString received.toNat ++ " is not greater than the stored value "
      ++ toString stored.toNat
  | .unknownKeyHandle => "unknown key handle"
  | .presenceDenied => "user presence could not be verified"
  | .noRegisteredKeys => "no security keys registered for this account"
  | .originMismatch origin appId => "origin " ++ origin ++ " is not allowed for app id " ++ appId
  | .unsupportedVersion version => "unsupported protocol version: " ++ version
  | .presenceTestRequired => "test of user presence required"
  | .clientDataMismatch field => "client data mismatch: " ++ field
  | .invalidKey => "invalid key material"
  | .storage reason => "storage error: " ++ reason

end SecondFactor
