import SecondFactor.Raw.Registration
import SecondFactor.Raw.Authentication
import SecondFactor.Raw.Status

/-!
Command APDUs: a header of class, instruction and two parameters, then the command data behind a
length of one byte or of three, then perhaps the length of the expected answer.
-/

namespace SecondFactor.Raw

inductive Instruction where
  | register
  | authenticate
  | version
  | unsupported (byte : UInt8)
deriving DecidableEq, Repr

namespace Instruction

def ofByte (byte : UInt8) : Instruction :=
  if byte = 0x01 then .register
  else if byte = 0x02 then .authenticate
  else if byte = 0x03 then .version
  else .unsupported byte

def byte : Instruction → UInt8
  | .register => 0x01
  | .authenticate => 0x02
  | .version => 0x03
  | .unsupported byte => byte

theorem byte_ofByte (byte : UInt8) : (ofByte byte).byte = byte := by
  unfold ofByte
  split
  · simp_all [Instruction.byte]
  · split
    · simp_all [Instruction.byte]
    · split
      · simp_all [Instruction.byte]
      · rfl

end Instruction

inductive Payload where
  | register (request : RegistrationRequest)
  | authenticate (request : AuthenticationRequest)
  | version
deriving DecidableEq

/-- A command with its data decoded. -/
structure Command where
  classByte : UInt8
  instruction : Instruction
  parameter : UInt8
  dataLength : Nat
  payload : Payload
deriving DecidableEq

/-- The name of the protocol version. -/
def protocolVersion : String := "U2F_V2"

/-- The name of the protocol version in ASCII. -/
def versionBytes : Bytes :=
  protocolVersion.toList.flatMap String.utf8EncodeChar

/-- The answer to a version command. -/
def versionAnswer : Bytes :=
  versionBytes ++ StatusWord.noError.bytes

/-- Cuts the first `length` bytes off as command data. What follows them is nothing, or an
expected length of `tail` bytes. -/
def cutData (length tail : Nat) (bytes : Bytes) : Except StatusWord Bytes :=
  if bytes.length < length then .error .wrongLength
  else
    let left := bytes.length - length
    if left = 0 ∨ left = tail then .ok (bytes.take length) else .error .wrongLength

/-- The command data of what follows the header. A first byte of zero opens the long form, unless
it stands alone or is all of an expected length. -/
def bodyData : Bytes → Except StatusWord Bytes
  | [] => .ok []
  | [_] => .ok []
  | first :: second :: rest =>
    if first = 0x00 then
      match rest with
      | [] => cutData 0 1 [second]
      | [_] => .ok []
      | third :: rest => cutData (natOfPair second third) 2 rest
    else
      cutData first.toNat 1 (second :: rest)

namespace Command

/-- In the payload's own framing; the control byte is the first parameter. -/
def payloadParts : Payload → Except FormatFault (UInt8 × Bytes)
  | .register request => .ok (0x00, request.encode)
  | .authenticate request => do
    let payload ← request.encodeFields
    return (request.control.byte, payload)
  | .version => .ok (0x00, [])

/-- Always in the long form, without an expected length. -/
def encode (command : Command) : Except FormatFault Bytes := do
  let (parameter, payload) ← payloadParts command.payload
  let header := [command.classByte, command.instruction.byte, parameter, 0x00]
  if payload.isEmpty then return header
  if payload.length < 65536 then
    return header ++ 0x00 :: (bytesOfNat 2 payload.length ++ payload)
  throw (.keyHandleTooLong payload.length)

/-- An unknown control byte is wrong data; every other fault of the data is its length. -/
def authenticationStatus : FormatFault → StatusWord
  | .controlByte _ => .wrongData
  | _ => .wrongLength

def decodeData (instruction : Instruction) (parameter : UInt8) (data : Bytes) :
    Except StatusWord Payload :=
  match instruction with
  | .register => match RegistrationRequest.decode data with
    | .ok request => .ok (.register request)
    | .error _ => .error .wrongLength
  | .authenticate => match AuthenticationRequest.decodeFields parameter data with
    | .ok request => .ok (.authenticate request)
    | .error fault => .error (authenticationStatus fault)
  | .version => .ok .version
  | .unsupported _ => .error .instructionNotSupported

/-- The class is looked at first, then the length of the data, then the instruction. -/
def decode : Bytes → Except StatusWord Command
  | classByte :: instruction :: parameter :: _ :: body => do
    if classByte ≠ 0x00 then throw .classNotSupported
    let instruction := Instruction.ofByte instruction
    let data ← bodyData body
    let payload ← decodeData instruction parameter data
    return ⟨classByte, instruction, parameter, data.length, payload⟩
  | _ => .error .wrongLength

end Command

end SecondFactor.Raw
