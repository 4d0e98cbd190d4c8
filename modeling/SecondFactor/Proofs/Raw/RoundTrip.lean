import SecondFactor.Proofs.Certificate
import SecondFactor.Proofs.Except
import SecondFactor.Proofs.Raw.SignedBytes

/-!
Raw messages and their bytes. Every reader of a field gives back what was written and leaves what
follows, and what it reads is written as it was; so each of the four messages is read back from its
bytes, and no two byte strings are read as one message, `messages_round_trip`. The two fields
without a length are split off by their own structure: a certificate by `Certificate.lengthAt?`, a
signature by the header of its sequence, `restAsSignature_eq_ok_iff`.
-/

namespace SecondFactor.Raw

/-- What is written for a message is read as that message, and what is read is written so. -/
structure RoundTrip {Message : Type} (encode : Message → Except FormatFault Bytes)
    (decode : Bytes → Except FormatFault Message) (WellFormed : Message → Prop) : Prop where
  /-- A well-formed message can be written, and is read back from its bytes. -/
  read : ∀ message, WellFormed message →
    ∃ bytes, encode message = .ok bytes ∧ decode bytes = .ok message
  wellFormed : ∀ bytes message, decode bytes = .ok message → WellFormed message
  /-- A message is written as the bytes it was read from, even where it could be written
  otherwise. -/
  written : ∀ bytes message, decode bytes = .ok message → encode message = .ok bytes
  unique : ∀ bytes other message, decode bytes = .ok message → decode other = .ok message →
    bytes = other

/-- A message is read from nothing but its own bytes. -/
theorem RoundTrip.of_decode_iff {Message : Type} {encode : Message → Except FormatFault Bytes}
    {decode : Bytes → Except FormatFault Message} {WellFormed : Message → Prop}
    (hencode : ∀ message, WellFormed message → ∃ bytes, encode message = .ok bytes)
    (hdecode : ∀ bytes message,
      decode bytes = .ok message ↔ WellFormed message ∧ encode message = .ok bytes) :
    RoundTrip encode decode WellFormed where
  read := by
    intro message hformed
    obtain ⟨bytes, hbytes⟩ := hencode message hformed
    exact ⟨bytes, hbytes, (hdecode bytes message).2 ⟨hformed, hbytes⟩⟩
  wellFormed := fun bytes message hread => ((hdecode bytes message).1 hread).1
  written := fun bytes message hread => ((hdecode bytes message).1 hread).2
  unique := by
    intro bytes other message hread hother
    have hbytes := ((hdecode bytes message).1 hread).2
    rw [((hdecode other message).1 hother).2] at hbytes
    exact (Except.ok.inj hbytes).symm

/-! Fields. -/

namespace Scan

variable {α : Type}

theorem complete_eq_ok_iff {result : Except FormatFault (α × Bytes)} {value : α} :
    complete result = .ok value ↔ result = .ok (value, []) := by
  cases result with
  | error fault => simp [complete]
  | ok result =>
      obtain ⟨given, rest⟩ := result
      cases rest <;> simp [complete]

theorem byte_eq_ok_iff {bytes rest : Bytes} {first : UInt8} :
    byte bytes = .ok (first, rest) ↔ bytes = first :: rest := by
  cases bytes <;> simp [byte]

theorem fixed_eq_ok_iff {n : Nat} {bytes rest : Bytes} {block : Block n} :
    fixed n bytes = .ok (block, rest) ↔ bytes = block.val ++ rest := by
  constructor
  · exact eq_append_of_fixed
  · rintro rfl
    exact fixed_append block rest

end Scan

theorem countedBytes_eq_ok_iff {handle counted : Bytes} :
    countedBytes handle = .ok counted ↔
      handle.length ≤ 255 ∧ counted = UInt8.ofNat handle.length :: handle := by
  unfold countedBytes
  split
  · rename_i hfits
    simp [hfits, eq_comm]
  · rename_i hlong
    simp [hlong]

theorem countedBytes_eq_error_iff {handle : Bytes} {fault : FormatFault} :
    countedBytes handle = .error fault ↔
      255 < handle.length ∧ fault = .keyHandleTooLong handle.length := by
  unfold countedBytes
  split
  · rename_i hfits
    simp only [reduceCtorEq, false_iff, not_and]
    omega
  · rename_i hlong
    simp [Nat.lt_of_not_le hlong, eq_comm]

theorem counted_eq_ok_iff {bytes handle rest : Bytes} :
    Scan.counted bytes = .ok (handle, rest) ↔
      ∃ counted, countedBytes handle = .ok counted ∧ bytes = counted ++ rest := by
  constructor
  · exact countedBytes_of_counted
  · rintro ⟨counted, hcounted, rfl⟩
    exact counted_countedBytes rest hcounted

namespace PublicKey

theorem scan_eq_ok_iff {bytes rest : Bytes} {key : PublicKey} :
    scan bytes = .ok (key, rest) ↔ bytes = key.bytes ++ rest := by
  simp only [scan, bind_eq_ok_iff, Prod.exists, Scan.byte_eq_ok_iff, guard_eq_ok_iff,
    Scan.fixed_eq_ok_iff, ne_eq, Decidable.not_not]
  constructor
  · rintro ⟨tag, _, rfl, rfl, x, _, rfl, y, _, rfl, hkey⟩
    cases hkey
    simp [PublicKey.bytes]
  · rintro rfl
    exact ⟨0x04, _, rfl, rfl, key.x, key.y.val ++ rest, by simp, key.y, rest, rfl, rfl⟩

theorem decode_eq_ok_iff {bytes : Bytes} {key : PublicKey} :
    decode bytes = .ok key ↔ bytes = key.bytes := by
  rw [decode, Scan.complete_eq_ok_iff, scan_eq_ok_iff, List.append_nil]

end PublicKey

/-! Signatures. -/

/-- One sequence from the first byte to the last: its tag, the length of its contents in one of
three forms, and the contents. -/
inductive IsSequence : Bytes → Prop
  | short (length : UInt8) (contents : Bytes) :
      length < 0x80 → contents.length = length.toNat → IsSequence (0x30 :: length :: contents)
  | oneByte (length : UInt8) (contents : Bytes) :
      contents.length = length.toNat → IsSequence (0x30 :: 0x81 :: length :: contents)
  | twoBytes (high low : UInt8) (contents : Bytes) :
      contents.length = natOfPair high low → IsSequence (0x30 :: 0x82 :: high :: low :: contents)

namespace IsSequence

/-- The header of a sequence says how long all of it is. -/
theorem exists_header {bytes : Bytes} (hsequence : IsSequence bytes) :
    ∃ header contents, sequenceHeader bytes = .ok (header, contents) ∧
      bytes.length = header + contents := by
  cases hsequence with
  | short length contents hshort hlength =>
      refine ⟨2, length.toNat, by simp [sequenceHeader, hshort], ?_⟩
      simp only [List.length_cons]
      omega
  | oneByte length contents hlength =>
      refine ⟨3, length.toNat, rfl, ?_⟩
      simp only [List.length_cons]
      omega
  | twoBytes high low contents hlength =>
      refine ⟨4, natOfPair high low, rfl, ?_⟩
      simp only [List.length_cons]
      omega

/-- Bytes of the length that their header says are a sequence. -/
theorem of_header {bytes : Bytes} {header contents : Nat}
    (hheader : sequenceHeader bytes = .ok (header, contents))
    (hlength : bytes.length = header + contents) : IsSequence bytes := by
  unfold sequenceHeader at hheader
  split at hheader
  · cases hheader
  · cases hheader
  · rename_i tag first rest
    simp only [List.length_cons] at hlength
    split at hheader
    · cases hheader
    · rename_i htag
      obtain rfl : tag = 0x30 := Decidable.not_not.1 htag
      split at hheader
      · rename_i hshort
        cases hheader
        exact .short first rest hshort (by omega)
      · split at hheader
        · rename_i hone
          subst hone
          split at hheader
          · rename_i length contents
            cases hheader
            simp only [List.length_cons] at hlength
            exact .oneByte length contents (by omega)
          · cases hheader
        · split at hheader
          · rename_i htwo
            subst htwo
            split at hheader
            · rename_i high low contents
              cases hheader
              simp only [List.length_cons] at hlength
              exact .twoBytes high low contents (by omega)
            · cases hheader
          · cases hheader

end IsSequence

theorem restAsSignature_eq_ok_iff {bytes signature : Bytes} :
    restAsSignature bytes = .ok signature ↔ IsSequence signature ∧ bytes = signature := by
  constructor
  · intro hread
    obtain rfl := eq_of_restAsSignature hread
    refine ⟨?_, rfl⟩
    unfold restAsSignature at hread
    split at hread
    · cases hread
    · rename_i header contents hheader
      split at hread
      · cases hread
      · split at hread
        · cases hread
        · exact .of_header hheader (by omega)
  · rintro ⟨hsequence, rfl⟩
    obtain ⟨header, contents, hheader, hlength⟩ := hsequence.exists_header
    simp [restAsSignature, hheader, hlength]

/-! Messages. -/

namespace RegistrationRequest

theorem decode_eq_ok_iff {bytes : Bytes} {request : RegistrationRequest} :
    decode bytes = .ok request ↔ bytes = request.encode := by
  simp only [decode, Scan.complete_eq_ok_iff, scan, bind_eq_ok_iff, Prod.exists,
    Scan.fixed_eq_ok_iff]
  constructor
  · rintro ⟨challenge, _, rfl, application, _, rfl, hrequest⟩
    cases hrequest
    simp [encode]
  · rintro rfl
    exact ⟨request.challenge, _, rfl, request.application, [], by simp, rfl⟩

end RegistrationRequest

namespace AuthenticationRequest

theorem encodeFields_eq_ok_iff {request : AuthenticationRequest} {data : Bytes} :
    request.encodeFields = .ok data ↔ ∃ handle, countedBytes request.keyHandle = .ok handle ∧
      data = request.challenge.val ++ request.application.val ++ handle := by
  rw [encodeFields, bind_eq_ok_iff]
  constructor
  · rintro ⟨handle, hhandle, hdata⟩
    cases hdata
    exact ⟨handle, hhandle, rfl⟩
  · rintro ⟨handle, hhandle, rfl⟩
    exact ⟨handle, hhandle, rfl⟩

theorem encodeFields_eq_error_iff {request : AuthenticationRequest} {fault : FormatFault} :
    request.encodeFields = .error fault ↔
      255 < request.keyHandle.length ∧ fault = .keyHandleTooLong request.keyHandle.length := by
  rw [← countedBytes_eq_error_iff, encodeFields]
  cases countedBytes request.keyHandle <;> simp [bind, Except.bind, pure, Except.pure]

theorem encode_eq_ok_iff {request : AuthenticationRequest} {bytes : Bytes} :
    request.encode = .ok bytes ↔ ∃ handle, countedBytes request.keyHandle = .ok handle ∧
      bytes = request.control.byte ::
        (request.challenge.val ++ request.application.val ++ handle) := by
  rw [encode, bind_eq_ok_iff]
  constructor
  · rintro ⟨fields, hfields, hbytes⟩
    cases hbytes
    obtain ⟨handle, hhandle, rfl⟩ := encodeFields_eq_ok_iff.1 hfields
    exact ⟨handle, hhandle, rfl⟩
  · rintro ⟨handle, hhandle, rfl⟩
    exact ⟨_, encodeFields_eq_ok_iff.2 ⟨handle, hhandle, rfl⟩, rfl⟩

theorem encode_eq_error_iff {request : AuthenticationRequest} {fault : FormatFault} :
    request.encode = .error fault ↔
      255 < request.keyHandle.length ∧ fault = .keyHandleTooLong request.keyHandle.length := by
  rw [← encodeFields_eq_error_iff, encode]
  cases request.encodeFields <;> simp [bind, Except.bind, pure, Except.pure]

theorem decode_eq_ok_iff {bytes : Bytes} {request : AuthenticationRequest} :
    decode bytes = .ok request ↔ request.encode = .ok bytes := by
  rw [encode_eq_ok_iff]
  constructor
  · intro hread
    cases bytes with
    | nil => cases hread
    | cons byte payload =>
        simp only [decode, decodeFields] at hread
        cases hcontrol : Control.ofByte? byte with
        | none =>
            rw [hcontrol] at hread
            cases hread
        | some control =>
            simp only [hcontrol, Scan.complete_eq_ok_iff, scanFields, bind_eq_ok_iff,
              Prod.exists, Scan.fixed_eq_ok_iff, counted_eq_ok_iff] at hread
            obtain ⟨challenge, _, rfl, application, _, rfl, handle, _,
              ⟨counted, hcounted, rfl⟩, hrequest⟩ := hread
            cases hrequest
            refine ⟨counted, hcounted, ?_⟩
            simp [Control.byte_of_ofByte? hcontrol]
  · rintro ⟨counted, hcounted, rfl⟩
    simp only [decode, decodeFields, Control.ofByte?_byte, Scan.complete_eq_ok_iff, scanFields,
      bind_eq_ok_iff, Prod.exists, Scan.fixed_eq_ok_iff, counted_eq_ok_iff]
    exact ⟨request.challenge, _, List.append_assoc .., request.application, _, rfl,
      request.keyHandle, [], ⟨counted, hcounted, by simp⟩, rfl⟩

end AuthenticationRequest

theorem counterOfBlock_eq_iff {block : Block 4} {counter : UInt32} :
    counterOfBlock block = counter ↔ block.val = counterBytes counter := by
  have hblock : counterBytes (counterOfBlock block) = block.val := by
    have hlt := natOfBytes_lt block.val
    rw [block.property] at hlt
    have hvalue : (counterOfBlock block).toNat = natOfBytes block.val := by
      rw [counterOfBlock, UInt32.toNat_ofNat']
      exact Nat.mod_eq_of_lt hlt
    have hbytes := bytesOfNat_natOfBytes block.val
    rw [block.property] at hbytes
    rw [counterBytes, hvalue, hbytes]
  constructor
  · rintro rfl
    exact hblock.symm
  · intro heq
    exact counterBytes_injective (hblock.trans heq)

namespace AuthenticationResponse

theorem decode_eq_ok_iff {bytes : Bytes} {response : AuthenticationResponse} :
    decode bytes = .ok response ↔ IsSequence response.signature ∧ bytes = response.encode := by
  simp only [decode, bind_eq_ok_iff, Prod.exists, Scan.byte_eq_ok_iff, Scan.fixed_eq_ok_iff,
    restAsSignature_eq_ok_iff]
  constructor
  · rintro ⟨flags, _, rfl, counter, _, rfl, signature, ⟨hsequence, rfl⟩, hresponse⟩
    cases hresponse
    refine ⟨hsequence, ?_⟩
    rw [encode, counterOfBlock_eq_iff.1 rfl]
  · rintro ⟨hsequence, rfl⟩
    have hcounter : counterOfBlock ⟨counterBytes response.counter, length_counterBytes _⟩ =
        response.counter := counterOfBlock_eq_iff.2 rfl
    exact ⟨response.presence.flags, _, rfl, ⟨_, length_counterBytes _⟩, _, rfl,
      response.signature, ⟨hsequence, rfl⟩, by rw [hcounter]; rfl⟩

end AuthenticationResponse

namespace RegistrationResponse

/-- The certificate is all there is of it, and the signature is one sequence. -/
structure WellFormed (response : RegistrationResponse) : Prop where
  keyHandle : response.keyHandle.length ≤ 255
  certificate : Certificate.lengthAt? response.certificate = some response.certificate.length
  signature : IsSequence response.signature

theorem scanReserved_eq_ok_iff {bytes rest : Bytes} {done : Unit} :
    scanReserved bytes = .ok (done, rest) ↔ bytes = 0x05 :: rest := by
  simp only [scanReserved, bind_eq_ok_iff, Prod.exists, Scan.byte_eq_ok_iff, guard_eq_ok_iff,
    ne_eq, Decidable.not_not]
  constructor
  · rintro ⟨_, _, rfl, rfl, hrest⟩
    cases hrest
    rfl
  · rintro rfl
    exact ⟨0x05, rest, rfl, rfl, rfl⟩

theorem scanPublicKey_eq_ok_iff {bytes rest : Bytes} {key : PublicKey} :
    scanPublicKey bytes = .ok (key, rest) ↔ bytes = key.bytes ++ rest := by
  simp only [scanPublicKey, bind_eq_ok_iff, Prod.exists, Scan.fixed_eq_ok_iff,
    PublicKey.decode_eq_ok_iff]
  constructor
  · rintro ⟨point, _, rfl, found, hpoint, hkey⟩
    cases hkey
    rw [hpoint]
  · rintro rfl
    exact ⟨⟨key.bytes, key.length_bytes⟩, rest, rfl, key, rfl, rfl⟩

theorem scanCertificate_eq_ok_iff {bytes certificate rest : Bytes} :
    scanCertificate bytes = .ok (certificate, rest) ↔
      Certificate.lengthAt? certificate = some certificate.length ∧
        bytes = certificate ++ rest := by
  unfold scanCertificate
  constructor
  · intro hread
    split at hread
    · rename_i length hlength
      obtain ⟨front, left, rfl, rfl, hfront⟩ := Certificate.exists_front_of_lengthAt? hlength
      rw [List.take_left, List.drop_left] at hread
      cases hread
      exact ⟨by simpa using hfront [], rfl⟩
    · cases hread
  · rintro ⟨hwhole, rfl⟩
    simp [(Certificate.lengthAt?_append_iff rest).2 hwhole]

theorem encode_eq_ok_iff {response : RegistrationResponse} {bytes : Bytes} :
    response.encode = .ok bytes ↔ ∃ handle, countedBytes response.keyHandle = .ok handle ∧
      bytes = 0x05 :: (response.publicKey.bytes ++ handle ++ response.certificate
        ++ response.signature) := by
  simp only [encode, bind_eq_ok_iff]
  constructor
  · rintro ⟨handle, hhandle, hbytes⟩
    cases hbytes
    exact ⟨handle, hhandle, rfl⟩
  · rintro ⟨handle, hhandle, rfl⟩
    exact ⟨handle, hhandle, rfl⟩

theorem encode_eq_error_iff {response : RegistrationResponse} {fault : FormatFault} :
    response.encode = .error fault ↔
      255 < response.keyHandle.length ∧ fault = .keyHandleTooLong response.keyHandle.length := by
  rw [← countedBytes_eq_error_iff, encode]
  cases countedBytes response.keyHandle <;> simp [bind, Except.bind, pure, Except.pure]

theorem decode_eq_ok_iff {bytes : Bytes} {response : RegistrationResponse} :
    decode bytes = .ok response ↔ response.WellFormed ∧ response.encode = .ok bytes := by
  simp only [decode, bind_eq_ok_iff, Prod.exists, scanReserved_eq_ok_iff,
    scanPublicKey_eq_ok_iff, counted_eq_ok_iff, scanCertificate_eq_ok_iff,
    restAsSignature_eq_ok_iff]
  rw [encode_eq_ok_iff]
  constructor
  · rintro ⟨_, _, rfl, key, _, rfl, handle, _, ⟨counted, hcounted, rfl⟩, certificate, _,
      ⟨hwhole, rfl⟩, signature, ⟨hsequence, rfl⟩, hresponse⟩
    cases hresponse
    exact ⟨⟨(countedBytes_eq_ok_iff.1 hcounted).1, hwhole, hsequence⟩, counted, hcounted,
      by simp⟩
  · rintro ⟨hformed, counted, hcounted, rfl⟩
    exact ⟨(), _, rfl, response.publicKey, _, by simp only [List.append_assoc],
      response.keyHandle, _, ⟨counted, hcounted, rfl⟩, response.certificate, response.signature,
      ⟨hformed.certificate, rfl⟩, response.signature, ⟨hformed.signature, rfl⟩, rfl⟩

end RegistrationResponse

/-- A key handle of at most 255 bytes can be written behind its length. -/
theorem exists_countedBytes {handle : Bytes} (hlength : handle.length ≤ 255) :
    ∃ counted, countedBytes handle = .ok counted :=
  ⟨_, countedBytes_eq_ok_iff.2 ⟨hlength, rfl⟩⟩

/-- Each of the four messages is read back from its bytes, and written as it was read. Of the two
that carry a key handle, those with a longer one than fits its length cannot be written. -/
theorem messages_round_trip :
    RoundTrip (fun request => .ok request.encode) RegistrationRequest.decode (fun _ => True) ∧
    RoundTrip RegistrationResponse.encode RegistrationResponse.decode
      RegistrationResponse.WellFormed ∧
    RoundTrip AuthenticationRequest.encode AuthenticationRequest.decode
      (fun request => request.keyHandle.length ≤ 255) ∧
    RoundTrip (fun response => .ok response.encode) AuthenticationResponse.decode
      (fun response => IsSequence response.signature) ∧
    (∀ (response : RegistrationResponse) (fault : FormatFault), response.encode = .error fault ↔
      255 < response.keyHandle.length ∧ fault = .keyHandleTooLong response.keyHandle.length) ∧
    ∀ (request : AuthenticationRequest) (fault : FormatFault), request.encode = .error fault ↔
      255 < request.keyHandle.length ∧ fault = .keyHandleTooLong request.keyHandle.length := by
  refine ⟨.of_decode_iff ?_ ?_, .of_decode_iff ?_ ?_, .of_decode_iff ?_ ?_, .of_decode_iff ?_ ?_,
    fun response fault => response.encode_eq_error_iff, fun request fault =>
    request.encode_eq_error_iff⟩
  · exact fun request _ => ⟨_, rfl⟩
  · intro bytes request
    rw [RegistrationRequest.decode_eq_ok_iff]
    simp [eq_comm]
  · intro response hformed
    obtain ⟨counted, hcounted⟩ := exists_countedBytes hformed.keyHandle
    exact ⟨_, RegistrationResponse.encode_eq_ok_iff.2 ⟨counted, hcounted, rfl⟩⟩
  · exact fun bytes response => RegistrationResponse.decode_eq_ok_iff
  · intro request hlength
    obtain ⟨counted, hcounted⟩ := exists_countedBytes hlength
    exact ⟨_, AuthenticationRequest.encode_eq_ok_iff.2 ⟨counted, hcounted, rfl⟩⟩
  · intro bytes request
    rw [AuthenticationRequest.decode_eq_ok_iff, iff_and_self]
    intro hencode
    obtain ⟨counted, hcounted, _⟩ := AuthenticationRequest.encode_eq_ok_iff.1 hencode
    exact (countedBytes_eq_ok_iff.1 hcounted).1
  · exact fun response _ => ⟨_, rfl⟩
  · intro bytes response
    rw [AuthenticationResponse.decode_eq_ok_iff]
    simp [eq_comm]

/-- A length may be written with more bytes than it needs. -/
example : AuthenticationResponse.decode [0x01, 0, 0, 0, 7, 0x30, 0x82, 0, 1, 0xff] =
    .ok ⟨.confirmed, 7, [0x30, 0x82, 0, 1, 0xff]⟩ := by decide

end SecondFactor.Raw
