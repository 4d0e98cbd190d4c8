import SecondFactor.Proofs.Raw.Body
import SecondFactor.Proofs.Raw.RoundTrip

/-!
Commands and their bytes. A command may be read from bytes of several forms, but is written in one
of them. It is read back from what is written for it, but for what its header and its length say
beyond its instruction and its payload, `commands_round_trip`.
-/

namespace SecondFactor.Raw

/-! The data of a command, behind its length. -/

/-- The body of a command in the long form, without an expected length. No data has no length. -/
def longBody (data : Bytes) : Bytes :=
  if data.isEmpty then [] else 0x00 :: (bytesOfNat 2 data.length ++ data)

theorem bodyData_longBody {data : Bytes} (hlength : data.length < 65536) :
    bodyData (longBody data) = .ok data := by
  cases data with
  | nil => rfl
  | cons first rest =>
      have hlong : longBody (first :: rest) = longForm (first :: rest) [] := by
        rw [longForm, List.append_nil]
        rfl
      rw [hlong]
      exact bodyData_longForm (Nat.le_of_lt_succ hlength) (.inl rfl)

/-! Payloads, and what a command says of them. -/

namespace Payload

/-- The instruction that asks for it. -/
def instruction : Payload → Instruction
  | .register _ => .register
  | .authenticate _ => .authenticate
  | .version => .version

/-- The first parameter that goes with it, which for a challenge is its control byte. -/
def parameter : Payload → UInt8
  | .register _ => 0x00
  | .authenticate request => request.control.byte
  | .version => 0x00

/-- How many bytes of data it takes: two digests, and for a challenge the key handle with its
length. -/
def dataLength : Payload → Nat
  | .register _ => 64
  | .authenticate request => 65 + request.keyHandle.length
  | .version => 0

/-- The command that carries it, and nothing besides. -/
def command (payload : Payload) : Command :=
  ⟨0x00, payload.instruction, payload.parameter, payload.dataLength, payload⟩

/-- A payload that is read from the data of a command. A registration does not look at the
parameter, and the version at nothing. -/
inductive ReadFrom : Instruction → UInt8 → Bytes → Payload → Prop
  | register (parameter : UInt8) (request : RegistrationRequest) :
      ReadFrom .register parameter request.encode (.register request)
  | authenticate {request : AuthenticationRequest} {data : Bytes} :
      request.encodeFields = .ok data →
        ReadFrom .authenticate request.control.byte data (.authenticate request)
  | version (parameter : UInt8) (data : Bytes) : ReadFrom .version parameter data .version

end Payload

theorem RegistrationRequest.length_encode (request : RegistrationRequest) :
    request.encode.length = 64 := by
  rw [encode, List.length_append, request.challenge.property, request.application.property]

namespace AuthenticationRequest

theorem decodeFields_eq_ok_iff {control : UInt8} {data : Bytes} {request : AuthenticationRequest} :
    decodeFields control data = .ok request ↔
      control = request.control.byte ∧ request.encodeFields = .ok data := by
  have hdecode : decode (control :: data) = .ok request ↔ request.encode = .ok (control :: data) :=
    decode_eq_ok_iff
  rw [decode] at hdecode
  rw [hdecode, encode, bind_eq_ok_iff]
  constructor
  · rintro ⟨fields, hfields, hbytes⟩
    cases hbytes
    exact ⟨rfl, hfields⟩
  · rintro ⟨rfl, hfields⟩
    exact ⟨data, hfields, rfl⟩

theorem length_encodeFields {request : AuthenticationRequest} {data : Bytes}
    (hencode : request.encodeFields = .ok data) : data.length = 65 + request.keyHandle.length := by
  obtain ⟨handle, hhandle, rfl⟩ := encodeFields_eq_ok_iff.1 hencode
  have hlength : handle.length = request.keyHandle.length + 1 := by
    rw [(countedBytes_eq_ok_iff.1 hhandle).2, List.length_cons]
  rw [List.length_append, List.length_append, request.challenge.property,
    request.application.property, hlength]
  omega

end AuthenticationRequest

namespace Command

theorem decodeData_eq_ok_iff {instruction : Instruction} {parameter : UInt8} {data : Bytes}
    {payload : Payload} :
    decodeData instruction parameter data = .ok payload ↔
      payload.ReadFrom instruction parameter data := by
  constructor
  · intro hread
    unfold decodeData at hread
    split at hread
    · split at hread
      · rename_i request hrequest
        cases hread
        rw [RegistrationRequest.decode_eq_ok_iff.1 hrequest]
        exact .register parameter request
      · cases hread
    · split at hread
      · rename_i request hrequest
        cases hread
        obtain ⟨rfl, hfields⟩ := AuthenticationRequest.decodeFields_eq_ok_iff.1 hrequest
        exact .authenticate hfields
      · cases hread
    · cases hread
      exact .version parameter data
    · cases hread
  · intro hfrom
    cases hfrom with
    | register _ request =>
        rw [decodeData, RegistrationRequest.decode_eq_ok_iff.2 rfl]
    | authenticate hfields =>
        rw [decodeData, AuthenticationRequest.decodeFields_eq_ok_iff.2 ⟨rfl, hfields⟩]
    | version => rfl

/-- The instructions that a payload is read for are told apart by their bytes. -/
theorem ofByte_byte_of_readFrom {instruction : Instruction} {parameter : UInt8} {data : Bytes}
    {payload : Payload} (hfrom : payload.ReadFrom instruction parameter data) :
    Instruction.ofByte instruction.byte = instruction := by
  cases hfrom <;> rfl

theorem decode_eq_ok_iff {bytes : Bytes} {command : Command} :
    decode bytes = .ok command ↔
      ∃ second body data,
        bytes = 0x00 :: command.instruction.byte :: command.parameter :: second :: body ∧
          bodyData body = .ok data ∧
          command.payload.ReadFrom command.instruction command.parameter data ∧
          command.classByte = 0x00 ∧ command.dataLength = data.length := by
  constructor
  · intro hread
    unfold decode at hread
    split at hread
    · rename_i classByte instruction parameter second body
      simp only [guard_eq_ok_iff, bind_eq_ok_iff, ne_eq, Decidable.not_not] at hread
      obtain ⟨rfl, data, hdata, payload, hpayload, hcommand⟩ := hread
      cases hcommand
      refine ⟨second, body, data, ?_, hdata, decodeData_eq_ok_iff.1 hpayload, rfl, rfl⟩
      rw [Instruction.byte_ofByte]
    · cases hread
  · obtain ⟨classByte, instruction, parameter, dataLength, payload⟩ := command
    rintro ⟨second, body, data, rfl, hdata, hfrom, rfl, rfl⟩
    dsimp only at hfrom
    simp only [decode, guard_eq_ok_iff, bind_eq_ok_iff, ne_eq, not_true_eq_false, not_false_eq_true,
      true_and]
    rw [ofByte_byte_of_readFrom hfrom]
    exact ⟨data, hdata, payload, decodeData_eq_ok_iff.2 hfrom, rfl⟩

/-- What is written for a payload is what it is read from, and never too long for its length. -/
theorem payloadParts_eq_ok {payload : Payload} {parameter : UInt8} {data : Bytes}
    (hparts : payloadParts payload = .ok (parameter, data)) :
    parameter = payload.parameter ∧ payload.ReadFrom payload.instruction parameter data ∧
      data.length = payload.dataLength ∧ data.length < 65536 := by
  cases payload with
  | register request =>
      cases hparts
      refine ⟨rfl, .register _ request, request.length_encode, ?_⟩
      rw [request.length_encode]
      decide
  | authenticate request =>
      obtain ⟨fields, hfields, hpair⟩ := bind_eq_ok_iff.1 hparts
      cases hpair
      obtain ⟨handle, hhandle, _⟩ := AuthenticationRequest.encodeFields_eq_ok_iff.1 hfields
      have hlength := AuthenticationRequest.length_encodeFields hfields
      have hfits := (countedBytes_eq_ok_iff.1 hhandle).1
      exact ⟨rfl, .authenticate hfields, hlength, by omega⟩
  | version =>
      cases hparts
      exact ⟨rfl, .version _ [], rfl, by decide⟩

theorem payloadParts_eq_error_iff {payload : Payload} {fault : FormatFault} :
    payloadParts payload = .error fault ↔
      ∃ request, payload = .authenticate request ∧ 255 < request.keyHandle.length ∧
        fault = .keyHandleTooLong request.keyHandle.length := by
  cases payload with
  | register request => simp [payloadParts]
  | authenticate request =>
      simp only [payloadParts, Payload.authenticate.injEq, exists_eq_left',
        ← AuthenticationRequest.encodeFields_eq_error_iff]
      cases request.encodeFields <;> simp [bind, Except.bind, pure, Except.pure]
  | version => simp [payloadParts]

/-- A command whose payload can be written is written, in the long form. -/
theorem encode_of_payloadParts {command : Command} {parameter : UInt8} {data : Bytes}
    (hparts : payloadParts command.payload = .ok (parameter, data)) :
    command.encode = .ok
      (command.classByte :: command.instruction.byte :: parameter :: 0x00 :: longBody data) := by
  obtain ⟨_, _, _, hlength⟩ := payloadParts_eq_ok hparts
  rw [encode, hparts]
  cases data with
  | nil => rfl
  | cons first rest =>
      change (if (first :: rest).length < 65536 then pure _ else throw _) = Except.ok _
      rw [if_pos hlength]
      rfl

theorem encode_eq_error_iff {command : Command} {fault : FormatFault} :
    command.encode = .error fault ↔
      ∃ request, command.payload = .authenticate request ∧ 255 < request.keyHandle.length ∧
        fault = .keyHandleTooLong request.keyHandle.length := by
  rw [← payloadParts_eq_error_iff]
  cases hparts : payloadParts command.payload with
  | error given =>
      have hencode : command.encode = .error given := by
        rw [encode, hparts]
        rfl
      rw [hencode, Except.error.injEq, Except.error.injEq]
  | ok parts =>
      rw [encode_of_payloadParts hparts]
      simp

/-- What is written for a command of the right class and instruction is read as the command that
carries its payload, whatever else the command says. -/
theorem decode_of_encode {command : Command} {bytes : Bytes} (hclass : command.classByte = 0x00)
    (hinstruction : command.instruction = command.payload.instruction)
    (hencode : command.encode = .ok bytes) : decode bytes = .ok command.payload.command := by
  cases hparts : payloadParts command.payload with
  | error fault =>
      rw [encode, hparts] at hencode
      cases hencode
  | ok parts =>
      obtain ⟨parameter, data⟩ := parts
      obtain ⟨rfl, hfrom, hdataLength, hlength⟩ := payloadParts_eq_ok hparts
      rw [encode_of_payloadParts hparts, hclass, hinstruction] at hencode
      cases hencode
      exact decode_eq_ok_iff.2 ⟨0x00, longBody data, data, rfl, bodyData_longBody hlength, hfrom,
        rfl, hdataLength.symm⟩

/-- The header and the length say what the payload needs, and no more. -/
structure WellFormed (command : Command) : Prop where
  classByte : command.classByte = 0x00
  instruction : command.instruction = command.payload.instruction
  parameter : command.parameter = command.payload.parameter
  dataLength : command.dataLength = command.payload.dataLength

theorem WellFormed.eq_command {command : Command} (hformed : command.WellFormed) :
    command.payload.command = command := by
  obtain ⟨hclass, hinstruction, hparameter, hlength⟩ := hformed
  rw [Payload.command, ← hclass, ← hinstruction, ← hparameter, ← hlength]

end Command

/-- What is read from the data of a command is what its instruction asks for, and can be written
again. -/
theorem Payload.ReadFrom.exists_payloadParts {instruction : Instruction} {parameter : UInt8}
    {data : Bytes} {payload : Payload} (hfrom : payload.ReadFrom instruction parameter data) :
    instruction = payload.instruction ∧
      ∃ written, Command.payloadParts payload = .ok (payload.parameter, written) := by
  cases hfrom with
  | register _ request => exact ⟨rfl, request.encode, rfl⟩
  | @authenticate request _ hfields =>
      refine ⟨rfl, data, ?_⟩
      rw [Command.payloadParts, hfields]
      rfl
  | version => exact ⟨rfl, [], rfl⟩

/-- A well-formed command is read back from its bytes. A command can be written unless the key
handle of its challenge is too long. What is read, in any form that is accepted, can be written, and
that is read as a command with the same instruction and payload. -/
theorem commands_round_trip :
    (∀ command : Command, command.WellFormed →
      (∀ request, command.payload = .authenticate request → request.keyHandle.length ≤ 255) →
        ∃ bytes, command.encode = .ok bytes ∧ Command.decode bytes = .ok command) ∧
    (∀ (command : Command) (fault : FormatFault), command.encode = .error fault ↔
      ∃ request, command.payload = .authenticate request ∧ 255 < request.keyHandle.length ∧
        fault = .keyHandleTooLong request.keyHandle.length) ∧
    ∀ (bytes : Bytes) (command : Command), Command.decode bytes = .ok command →
      ∃ again other, command.encode = .ok again ∧ Command.decode again = .ok other ∧
        other.instruction = command.instruction ∧ other.payload = command.payload := by
  refine ⟨?_, fun command fault => Command.encode_eq_error_iff, ?_⟩
  · intro command hformed hfits
    cases hencode : command.encode with
    | error fault =>
        obtain ⟨request, hpayload, hlong, _⟩ := Command.encode_eq_error_iff.1 hencode
        exact absurd (hfits request hpayload) (Nat.not_le_of_lt hlong)
    | ok bytes =>
        have hread := Command.decode_of_encode hformed.classByte hformed.instruction hencode
        rw [hformed.eq_command] at hread
        exact ⟨bytes, rfl, hread⟩
  · intro bytes command hread
    obtain ⟨_, _, _, _, _, hfrom, hclass, _⟩ := Command.decode_eq_ok_iff.1 hread
    obtain ⟨hinstruction, _, hparts⟩ := hfrom.exists_payloadParts
    have hencode := Command.encode_of_payloadParts hparts
    have hagain := Command.decode_of_encode hclass hinstruction hencode
    exact ⟨_, command.payload.command, hencode, hagain, hinstruction.symm, rfl⟩

/-- Parameters and data that the version does not look at are read, but not written again. -/
example :
    let command : Command := ⟨0x00, .version, 0x09, 1, .version⟩
    (Command.decode [0x00, 0x03, 0x09, 0x01, 0x01, 0xff]).toOption = some command ∧
      command.encode.toOption = some [0x00, 0x03, 0x00, 0x00] := by
  decide

end SecondFactor.Raw
