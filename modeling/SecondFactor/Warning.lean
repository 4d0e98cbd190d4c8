import SecondFactor.Bytes.Hex
import SecondFactor.Text.Quoted

/-!
What operations report beside their results, for those who run them.
-/

namespace SecondFactor

inductive Warning where
  /-- A page that may not be one of the allowed origins, since it has none. -/
  | ignoredOrigin (url : String)
  | unknownKeyHandle (handle : Bytes)
  | untrustedAttestation (certificate : Bytes)
  /-- A key signed with a counter that is not above the last one, as a copy of it would. -/
  | counterRegression (stored received : UInt32)
  | malformedCommand (bytes : Bytes)
deriving DecidableEq, Repr

def Warning.message : Warning → String
  | .ignoredOrigin url => "ignoring allowed origin " ++ Quoted.encode url
  | .unknownKeyHandle handle => "unknown key handle " ++ Hex.encode handle
  | .untrustedAttestation certificate =>
    "attestation certificate is not trusted: " ++ Hex.encode certificate
  | .counterRegression stored received =>
    "counter went from " ++ toString stored.toNat ++ " to " ++ toString received.toNat
      ++ ", the key may be cloned"
  | .malformedCommand bytes => "malformed apdu: " ++ Hex.encode bytes

end SecondFactor
