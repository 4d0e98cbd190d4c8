import SecondFactor.Proofs.Raw.RoundTrip

/-!
Where raw messages end. Bytes that are read as a message are not read with anything behind them, and
no front of them is read, `messages_strictly_framed`. Each reader of a field takes its own bytes
whatever follows them, and names one fault wherever they are cut short; the readers of messages are
put together from these.
-/

namespace SecondFactor.Raw

variable {α β : Type}

/-- Takes exactly these bytes for the value, whatever follows them. Cut short, they have the fault
that belongs to the number of those left. -/
structure Scan.Takes (scan : Scan α) (front : Bytes) (value : α) (fault : Nat → FormatFault) :
    Prop where
  whole : ∀ rest, scan (front ++ rest) = .ok (value, rest)
  cut : ∀ part more, front = part ++ more → more ≠ [] → scan part = .error (fault part.length)

/-- Reads exactly these bytes as the value: with bytes behind them that is the fault, and cut short
they have the fault that belongs to the number of those left. -/
structure Frames (read : Bytes → Except FormatFault α) (bytes : Bytes) (value : α)
    (fault : Nat → FormatFault) : Prop where
  whole : read bytes = .ok value
  extended : ∀ more, more ≠ [] → read (bytes ++ more) = .error .trailingData
  cut : ∀ part more, bytes = part ++ more → more ≠ [] → read part = .error (fault part.length)

/-- All that a reader of messages reads is framed, with a fault for each length at which a message
may be cut. -/
structure StrictlyFramed {Message : Type} (decode : Bytes → Except FormatFault Message)
    (cutFault : Message → Nat → FormatFault) : Prop where
  extended : ∀ bytes message, decode bytes = .ok message →
    ∀ more, more ≠ [] → decode (bytes ++ more) = .error .trailingData
  cut : ∀ bytes message, decode bytes = .ok message →
    ∀ part more, bytes = part ++ more → more ≠ [] →
      decode part = .error (cutFault message part.length)

theorem StrictlyFramed.of_frames {Message : Type} {decode : Bytes → Except FormatFault Message}
    {cutFault : Message → Nat → FormatFault}
    (hframes : ∀ bytes message, decode bytes = .ok message →
      Frames decode bytes message (cutFault message)) : StrictlyFramed decode cutFault where
  extended := fun bytes message hread => (hframes bytes message hread).extended
  cut := fun bytes message hread => (hframes bytes message hread).cut

/-! Readers in a row. -/

namespace Scan.Takes

variable {scan : Scan α} {front back : Bytes} {value : α} {fault : Nat → FormatFault}

/-- Only the lengths at which the bytes can be cut matter. -/
theorem congr {other : Nat → FormatFault} (htakes : scan.Takes front value fault)
    (hsame : ∀ length < front.length, fault length = other length) :
    scan.Takes front value other where
  whole := htakes.whole
  cut := by
    intro part more hsplit hmore
    have hlength : part.length < front.length := by
      rw [hsplit, List.length_append]
      exact Nat.lt_add_of_pos_right (List.length_pos_iff.2 hmore)
    rw [htakes.cut part more hsplit hmore, hsame _ hlength]

/-- Two fields in a row are cut in the first or in the second. -/
theorem cut_append {γ : Type} {next : α × Bytes → Except FormatFault γ}
    (hfirst : scan.Takes front value fault)
    (hsecond : ∀ part more, back = part ++ more → more ≠ [] →
      next (value, part) = .error (fault (front.length + part.length)))
    (part more : Bytes) (hsplit : front ++ back = part ++ more) (hmore : more ≠ []) :
    (scan part >>= next) = .error (fault part.length) := by
  rcases List.append_eq_append_iff.1 hsplit with ⟨after, rfl, hback⟩ | ⟨missing, hfront, hrest⟩
  · rw [hfirst.whole, List.length_append]
    exact hsecond after more hback hmore
  · by_cases hnone : missing = []
    · subst hnone
      rw [List.append_nil] at hfront
      subst hfront
      have hwhole := hfirst.whole []
      rw [List.append_nil] at hwhole
      rw [hwhole]
      rw [List.nil_append] at hrest
      exact hsecond [] back rfl (hrest ▸ hmore)
    · rw [hfirst.cut part missing hfront hnone]
      rfl

theorem bind {next : α × Bytes → Except FormatFault (β × Bytes)} {result : β}
    (hfirst : scan.Takes front value fault)
    (hsecond : Takes (fun rest => next (value, rest)) back result
      fun length => fault (front.length + length)) :
    Takes (fun bytes => scan bytes >>= next) (front ++ back) result fault where
  whole := by
    intro rest
    simp only [List.append_assoc, hfirst.whole]
    exact hsecond.whole rest
  cut := hfirst.cut_append hsecond.cut

/-- A field that ends the message. -/
theorem frames {next : α × Bytes → Except FormatFault β} {result : β}
    (hfirst : scan.Takes front value fault)
    (hlast : Frames (fun rest => next (value, rest)) back result
      fun length => fault (front.length + length)) :
    Frames (fun bytes => scan bytes >>= next) (front ++ back) result fault where
  whole := by
    simp only [hfirst.whole]
    exact hlast.whole
  extended := by
    intro more hmore
    simp only [List.append_assoc, hfirst.whole]
    exact hlast.extended more hmore
  cut := hfirst.cut_append hlast.cut

/-- The last of some fields, and what all of them make. -/
theorem last {next : α × Bytes → Except FormatFault (β × Bytes)} {result : β}
    (hfirst : scan.Takes front value fault)
    (hresult : ∀ rest, next (value, rest) = .ok (result, rest)) :
    Takes (fun bytes => scan bytes >>= next) front result fault where
  whole := by
    intro rest
    simp only [hfirst.whole]
    exact hresult rest
  cut := by
    intro part more hsplit hmore
    simp only [hfirst.cut part more hsplit hmore]
    rfl

theorem complete (htakes : scan.Takes front value fault) :
    Frames (fun bytes => Scan.complete (scan bytes)) front value fault where
  whole := by
    have hwhole := htakes.whole []
    rw [List.append_nil] at hwhole
    rw [hwhole]
    rfl
  extended := by
    intro more hmore
    obtain ⟨byte, rest, rfl⟩ := List.exists_cons_of_ne_nil hmore
    rw [htakes.whole]
    rfl
  cut := by
    intro part more hsplit hmore
    rw [htakes.cut part more hsplit hmore]
    rfl

end Scan.Takes

theorem Frames.bind {read : Bytes → Except FormatFault α} {bytes : Bytes} {value : α}
    {fault : Nat → FormatFault} {next : α → Except FormatFault β} {result : β}
    (hframes : Frames read bytes value fault) (hresult : next value = .ok result) :
    Frames (fun bytes => read bytes >>= next) bytes result fault where
  whole := by
    rw [hframes.whole]
    exact hresult
  extended := by
    intro more hmore
    rw [hframes.extended more hmore]
    rfl
  cut := by
    intro part more hsplit hmore
    rw [hframes.cut part more hsplit hmore]
    rfl

/-! Fields. -/

theorem takes_byte (byte : UInt8) : Scan.byte.Takes [byte] byte fun _ => .truncated where
  whole := fun rest => rfl
  cut := by
    intro part more hsplit hmore
    rcases List.append_eq_cons_iff.1 hsplit.symm with ⟨rfl, _⟩ | ⟨_, _, hnil⟩
    · rfl
    · exact absurd (List.append_eq_nil_iff.1 hnil.symm).2 hmore

theorem takes_fixed {n : Nat} (block : Block n) :
    (Scan.fixed n).Takes block.val block fun _ => .truncated where
  whole := Scan.fixed_append block
  cut := by
    intro part more hsplit hmore
    have hlength := congrArg List.length hsplit
    rw [block.property, List.length_append] at hlength
    have hshort : ¬ n ≤ part.length := by
      have := List.length_pos_iff.2 hmore
      omega
    simp [Scan.fixed, splitBlock?, hshort]

theorem takes_counted {handle counted : Bytes} (hcounted : countedBytes handle = .ok counted) :
    Scan.counted.Takes counted handle fun _ => .truncated where
  whole := fun rest => counted_countedBytes rest hcounted
  cut := by
    intro part more hsplit hmore
    obtain ⟨hfits, rfl⟩ := countedBytes_eq_ok_iff.1 hcounted
    cases part with
    | nil => rfl
    | cons length rest =>
        rw [List.cons_append, List.cons_eq_cons] at hsplit
        obtain ⟨rfl, hhandle⟩ := hsplit
        have hall : (UInt8.ofNat handle.length).toNat = handle.length := by
          simp only [UInt8.toNat_ofNat']
          omega
        have hlength := congrArg List.length hhandle
        rw [List.length_append] at hlength
        have hshort : ¬ handle.length ≤ rest.length := by
          have := List.length_pos_iff.2 hmore
          omega
        simp [Scan.counted, hall, hshort]

/-- No front of a certificate is one, for a certificate ends where its front already says. -/
theorem lengthAt?_eq_none_of_cut {part more : Bytes}
    (hwhole : Certificate.lengthAt? (part ++ more) = some (part ++ more).length)
    (hmore : more ≠ []) : Certificate.lengthAt? part = none := by
  cases hpart : Certificate.lengthAt? part with
  | none => rfl
  | some length =>
      obtain ⟨front, rest, rfl, hlength, hfront⟩ := Certificate.exists_front_of_lengthAt? hpart
      rw [List.append_assoc, hfront] at hwhole
      have hlengths := Option.some.inj hwhole
      simp only [List.length_append] at hlengths
      have := List.length_pos_iff.2 hmore
      omega

namespace RegistrationResponse

theorem takes_scanReserved : scanReserved.Takes [0x05] () fun _ => .truncated where
  whole := fun rest => rfl
  cut := by
    intro part more hsplit hmore
    rw [scanReserved, (takes_byte 0x05).cut part more hsplit hmore]
    rfl

theorem takes_scanPublicKey (key : PublicKey) :
    scanPublicKey.Takes key.bytes key fun _ => .truncated where
  whole := fun rest => scanPublicKey_eq_ok_iff.2 rfl
  cut := by
    intro part more hsplit hmore
    have hcut := (takes_fixed ⟨key.bytes, key.length_bytes⟩).cut part more hsplit hmore
    rw [scanPublicKey, hcut]
    rfl

theorem takes_scanCertificate {certificate : Bytes}
    (hwhole : Certificate.lengthAt? certificate = some certificate.length) :
    scanCertificate.Takes certificate certificate fun _ => .certificate where
  whole := fun rest => scanCertificate_eq_ok_iff.2 ⟨hwhole, rfl⟩
  cut := by
    rintro part more rfl hmore
    rw [scanCertificate, lengthAt?_eq_none_of_cut hwhole hmore]

end RegistrationResponse

/-- A header that is all there does not depend on what follows it. -/
theorem sequenceHeader_append {part : Bytes} (hthere : sequenceHeader part ≠ .error .truncated)
    (more : Bytes) : sequenceHeader (part ++ more) = sequenceHeader part := by
  match part with
  | [] => exact absurd rfl hthere
  | [_] => exact absurd rfl hthere
  | tag :: length :: rest =>
      by_cases htag : tag = 0x30
      · subst htag
        by_cases hone : length = 0x81
        · subst hone
          match rest with
          | [] => exact absurd rfl hthere
          | _ :: _ => rfl
        · by_cases htwo : length = 0x82
          · subst htwo
            match rest with
            | [] => exact absurd rfl hthere
            | [_] => exact absurd rfl hthere
            | _ :: _ :: _ => rfl
          · simp [sequenceHeader, hone, htwo]
      · simp [sequenceHeader, htag]

/-- A signature ends where its header says. -/
theorem frames_restAsSignature {signature : Bytes} (hsequence : IsSequence signature) :
    Frames restAsSignature signature signature fun _ => .truncated where
  whole := restAsSignature_eq_ok_iff.2 ⟨hsequence, rfl⟩
  extended := by
    intro more hmore
    obtain ⟨header, contents, hheader, hlength⟩ := hsequence.exists_header
    have hsame : sequenceHeader (signature ++ more) = .ok (header, contents) := by
      rw [sequenceHeader_append (by simp [hheader]), hheader]
    have hpos := List.length_pos_iff.2 hmore
    have hlong : header + contents < (signature ++ more).length := by
      rw [List.length_append]
      omega
    simp only [restAsSignature, hsame, Nat.not_lt.2 hlong.le, hlong, if_true, if_false]
  cut := by
    rintro part more rfl hmore
    obtain ⟨header, contents, hheader, hlength⟩ := hsequence.exists_header
    by_cases hthere : sequenceHeader part = .error .truncated
    · simp [restAsSignature, hthere]
    · rw [sequenceHeader_append hthere] at hheader
      have hpos := List.length_pos_iff.2 hmore
      have hshort : part.length < header + contents := by
        rw [← hlength, List.length_append]
        omega
      simp [restAsSignature, hheader, hshort]

/-! Messages. -/

theorem RegistrationRequest.frames_decode (request : RegistrationRequest) :
    Frames decode request.encode request fun _ => .truncated := by
  refine Scan.Takes.complete (Scan.Takes.bind (takes_fixed request.challenge) ?_)
  exact (takes_fixed request.application).last fun _ => rfl

namespace AuthenticationRequest

theorem takes_scanFields (request : AuthenticationRequest) {handle : Bytes}
    (hhandle : countedBytes request.keyHandle = .ok handle) :
    (scanFields request.control).Takes
      (request.challenge.val ++ (request.application.val ++ handle)) request
      fun _ => .truncated := by
  refine Scan.Takes.bind (takes_fixed request.challenge) ?_
  refine Scan.Takes.bind (takes_fixed request.application) ?_
  exact (takes_counted hhandle).last fun _ => rfl

/-- The control byte is looked at before the fields behind it. -/
theorem frames_decode {request : AuthenticationRequest} {bytes : Bytes}
    (hencode : request.encode = .ok bytes) : Frames decode bytes request fun _ => .truncated := by
  obtain ⟨handle, hhandle, rfl⟩ := encode_eq_ok_iff.1 hencode
  have hfields := (request.takes_scanFields hhandle).complete
  rw [← List.append_assoc] at hfields
  have hdecode : ∀ payload, decode (request.control.byte :: payload) =
      Scan.complete (scanFields request.control payload) := by
    intro payload
    rw [decode, decodeFields, Control.ofByte?_byte]
  refine ⟨?_, ?_, ?_⟩
  · rw [hdecode]
    exact hfields.whole
  · intro more hmore
    rw [List.cons_append, hdecode]
    exact hfields.extended more hmore
  · intro part more hsplit hmore
    cases part with
    | nil => rfl
    | cons byte payload =>
        rw [List.cons_append, List.cons_eq_cons] at hsplit
        obtain ⟨rfl, hpayload⟩ := hsplit
        rw [hdecode]
        exact hfields.cut payload more hpayload hmore

end AuthenticationRequest

theorem AuthenticationResponse.frames_decode {response : AuthenticationResponse}
    (hsequence : IsSequence response.signature) :
    Frames decode response.encode response fun _ => .truncated := by
  have hcounter : counterOfBlock ⟨counterBytes response.counter, length_counterBytes _⟩ =
      response.counter := counterOfBlock_eq_iff.2 rfl
  refine Scan.Takes.frames (takes_byte response.presence.flags) ?_
  refine Scan.Takes.frames (takes_fixed ⟨counterBytes response.counter, length_counterBytes _⟩) ?_
  exact (frames_restAsSignature hsequence).bind (by rw [hcounter]; rfl)

namespace RegistrationResponse

/-- Where the certificate begins: behind the reserved byte, the key, and the handle with its
length. -/
def certificateStart (response : RegistrationResponse) : Nat :=
  67 + response.keyHandle.length

/-- What is wrong with the first bytes of a response, by their number. With all of the key handle
and not all of the certificate, it is the certificate. -/
def cutFault (response : RegistrationResponse) (length : Nat) : FormatFault :=
  if response.certificateStart ≤ length ∧
      length < response.certificateStart + response.certificate.length then .certificate
  else .truncated

theorem frames_decode {response : RegistrationResponse} {bytes : Bytes}
    (hformed : response.WellFormed) (hencode : response.encode = .ok bytes) :
    Frames decode bytes response response.cutFault := by
  obtain ⟨handle, hhandle, rfl⟩ := encode_eq_ok_iff.1 hencode
  have hlength : handle.length = 1 + response.keyHandle.length := by
    rw [(countedBytes_eq_ok_iff.1 hhandle).2, List.length_cons, Nat.add_comm]
  have hsplit : 0x05 :: (response.publicKey.bytes ++ handle ++ response.certificate
      ++ response.signature) = [0x05] ++ (response.publicKey.bytes ++ (handle ++
        (response.certificate ++ response.signature))) := by
    simp
  rw [hsplit]
  refine Scan.Takes.frames (takes_scanReserved.congr ?_) ?_
  · intro length hlt
    rw [cutFault, if_neg]
    simp only [List.length_singleton] at hlt
    rw [certificateStart]
    omega
  refine Scan.Takes.frames ((takes_scanPublicKey response.publicKey).congr ?_) ?_
  · intro length hlt
    rw [cutFault, if_neg]
    rw [PublicKey.length_bytes] at hlt
    simp only [List.length_singleton, certificateStart]
    omega
  refine Scan.Takes.frames ((takes_counted hhandle).congr ?_) ?_
  · intro length hlt
    rw [cutFault, if_neg]
    simp only [List.length_singleton, PublicKey.length_bytes, certificateStart]
    omega
  refine Scan.Takes.frames ((takes_scanCertificate hformed.certificate).congr ?_) ?_
  · intro length hlt
    rw [cutFault, if_pos]
    simp only [List.length_singleton, PublicKey.length_bytes, certificateStart]
    omega
  have hrest : (fun length => response.cutFault ([(0x05 : UInt8)].length +
      (response.publicKey.bytes.length + (handle.length +
        (response.certificate.length + length))))) = fun _ => .truncated := by
    funext length
    rw [cutFault, if_neg]
    simp only [List.length_singleton, PublicKey.length_bytes, certificateStart]
    omega
  rw [hrest]
  exact (frames_restAsSignature hformed.signature).bind rfl

end RegistrationResponse

/-- Each of the four messages is refused for what is left over when anything stands behind it, and
for being cut short when anything of it is missing. A registration response that lacks only a part
of its certificate, and what comes after that, is refused for the certificate. -/
theorem messages_strictly_framed :
    StrictlyFramed RegistrationRequest.decode (fun _ _ => .truncated) ∧
    StrictlyFramed RegistrationResponse.decode RegistrationResponse.cutFault ∧
    StrictlyFramed AuthenticationRequest.decode (fun _ _ => .truncated) ∧
    StrictlyFramed AuthenticationResponse.decode (fun _ _ => .truncated) := by
  refine ⟨.of_frames ?_, .of_frames ?_, .of_frames ?_, .of_frames ?_⟩
  · intro bytes request hread
    rw [RegistrationRequest.decode_eq_ok_iff.1 hread]
    exact request.frames_decode
  · intro bytes response hread
    obtain ⟨hformed, hencode⟩ := RegistrationResponse.decode_eq_ok_iff.1 hread
    exact RegistrationResponse.frames_decode hformed hencode
  · intro bytes request hread
    exact AuthenticationRequest.frames_decode (AuthenticationRequest.decode_eq_ok_iff.1 hread)
  · intro bytes response hread
    obtain ⟨hsequence, rfl⟩ := AuthenticationResponse.decode_eq_ok_iff.1 hread
    exact AuthenticationResponse.frames_decode hsequence

/-- Of the header of a signature, the tag alone says nothing yet. -/
example : AuthenticationResponse.decode [0x01, 0, 0, 0, 7, 0x30] = .error .truncated := by decide

end SecondFactor.Raw
