import SecondFactor.Json.Value
import SecondFactor.Bytes.Base64

/-!
The fields of JSON messages: binary ones are web safe base64 without padding, and accepted in
either alphabet and with padding.
-/

namespace SecondFactor.Json

def binary (bytes : Bytes) : Json :=
  .string (Base64.encode .websafe bytes)

def binary? (json : Json) : Option Bytes := do
  Base64.decodeEither? (← json.text?)

def word (value : UInt32) : Json :=
  .nat value.toNat

/-- A number of 32 bits. -/
def word? (json : Json) : Option UInt32 := do
  let value ← json.nat?
  if value < 4294967296 then some (UInt32.ofNat value) else none

def longWord (value : UInt64) : Json :=
  .nat value.toNat

/-- A number of 64 bits. -/
def longWord? (json : Json) : Option UInt64 := do
  let value ← json.nat?
  if value < 18446744073709551616 then some (UInt64.ofNat value) else none

end SecondFactor.Json
