import Mathlib.Data.List.Basic
import Mathlib.Data.List.Induction
import SecondFactor.Proofs.Certificate
import SecondFactor.RelyingParty.TrustAnchors

/-!
Trusted certificates as a set. Whatever was offered, and in whatever order, what is trusted are the
whole certificates among it and those they issued, `anchors_of_offers`. A certificate that was taken
stays trusted.
-/

namespace SecondFactor

namespace TrustAnchors

/-- Offers a certificate to be trusted. One that is refused leaves the others as they are. -/
def offer (anchors : TrustAnchors) (certificate : Bytes) : Except Failure Unit × TrustAnchors :=
  match anchors.add certificate with
  | .ok extended => (.ok (), extended)
  | .error failure => (.error failure, anchors)

/-- Offers certificates one after the other. -/
def offerAll (anchors : TrustAnchors) (offered : List Bytes) : TrustAnchors :=
  offered.foldl (fun anchors certificate => (anchors.offer certificate).2) anchors

/-- The anchors are the whole ones of some certificates, each once, in the order in which they first
came. -/
structure Gathers (offered : List Bytes) (anchors : TrustAnchors) : Prop where
  mem_iff : ∀ certificate, certificate ∈ anchors.certificates ↔
    certificate ∈ offered ∧ Certificate.lengthAt? certificate = some certificate.length
  nodup : anchors.certificates.Nodup
  inOrder : anchors.certificates.Pairwise fun earlier later =>
    offered.idxOf earlier < offered.idxOf later

variable {suite : Suite} {anchors others : TrustAnchors} {certificate : Bytes}

/-! One offer. -/

theorem isWhole_iff :
    isWhole certificate = true ↔ Certificate.lengthAt? certificate = some certificate.length :=
  decide_eq_true_iff

theorem offer_of_mem (hwhole : Certificate.lengthAt? certificate = some certificate.length)
    (hmem : certificate ∈ anchors.certificates) :
    anchors.offer certificate = (.ok (), anchors) := by
  rw [offer, add, if_pos (isWhole_iff.2 hwhole), if_pos hmem]

theorem offer_of_not_mem (hwhole : Certificate.lengthAt? certificate = some certificate.length)
    (hnew : certificate ∉ anchors.certificates) :
    anchors.offer certificate = (.ok (), ⟨anchors.certificates ++ [certificate]⟩) := by
  rw [offer, add, if_pos (isWhole_iff.2 hwhole), if_neg hnew]

theorem offer_of_not_whole
    (hpart : Certificate.lengthAt? certificate ≠ some certificate.length) :
    anchors.offer certificate = (.error (.format .certificate), anchors) := by
  rw [offer, add, if_neg fun hwhole => hpart (isWhole_iff.1 hwhole)]

/-- A whole certificate is taken, and is one of the anchors from then on. -/
theorem exists_offer_of_whole (anchors : TrustAnchors)
    (hwhole : Certificate.lengthAt? certificate = some certificate.length) :
    ∃ extended, anchors.offer certificate = (.ok (), extended) ∧
      certificate ∈ extended.certificates := by
  by_cases hmem : certificate ∈ anchors.certificates
  · exact ⟨anchors, offer_of_mem hwhole hmem, hmem⟩
  · exact ⟨_, offer_of_not_mem hwhole hmem, by simp⟩

theorem offer_fst_eq_error_iff {failure : Failure} :
    (anchors.offer certificate).1 = .error failure ↔
      Certificate.lengthAt? certificate ≠ some certificate.length ∧
        failure = .format .certificate := by
  by_cases hwhole : Certificate.lengthAt? certificate = some certificate.length
  · obtain ⟨extended, htaken, _⟩ := anchors.exists_offer_of_whole hwhole
    simp [htaken, hwhole]
  · simp [offer_of_not_whole hwhole, hwhole, eq_comm]

/-! Offers one after the other. -/

section

variable {offered : List Bytes}

/-- What is offered later does not change what came first. -/
theorem Gathers.inOrder_append (hgathers : Gathers offered anchors) (more : List Bytes) :
    anchors.certificates.Pairwise fun earlier later =>
      (offered ++ more).idxOf earlier < (offered ++ more).idxOf later := by
  refine hgathers.inOrder.imp_of_mem fun hearlier hlater hlt => ?_
  rwa [List.idxOf_append_of_mem ((hgathers.mem_iff _).1 hearlier).1,
    List.idxOf_append_of_mem ((hgathers.mem_iff _).1 hlater).1]

theorem Gathers.pass (hgathers : Gathers offered anchors)
    (hknown : Certificate.lengthAt? certificate = some certificate.length →
      certificate ∈ anchors.certificates) : Gathers (offered ++ [certificate]) anchors where
  mem_iff other := by
    rw [hgathers.mem_iff, List.mem_append, List.mem_singleton]
    refine and_congr_left fun hwhole => ⟨Or.inl, ?_⟩
    rintro (hoffered | rfl)
    · exact hoffered
    · exact ((hgathers.mem_iff _).1 (hknown hwhole)).1
  nodup := hgathers.nodup
  inOrder := hgathers.inOrder_append [certificate]

theorem Gathers.take (hgathers : Gathers offered anchors)
    (hwhole : Certificate.lengthAt? certificate = some certificate.length)
    (hnew : certificate ∉ anchors.certificates) :
    Gathers (offered ++ [certificate]) ⟨anchors.certificates ++ [certificate]⟩ where
  mem_iff other := by
    simp only [List.mem_append, hgathers.mem_iff, List.mem_singleton, or_and_right]
    refine or_congr_right ⟨?_, And.left⟩
    rintro rfl
    exact ⟨rfl, hwhole⟩
  nodup := by
    refine List.nodup_append.2 ⟨hgathers.nodup, by simp, fun other hother given hgiven => ?_⟩
    rw [List.mem_singleton.1 hgiven]
    exact ne_of_mem_of_not_mem hother hnew
  inOrder := by
    have hfirst : certificate ∉ offered := fun hoffered =>
      hnew ((hgathers.mem_iff _).2 ⟨hoffered, hwhole⟩)
    refine List.pairwise_append.2
      ⟨hgathers.inOrder_append [certificate], by simp, fun earlier hearlier later hlater => ?_⟩
    have hcame := ((hgathers.mem_iff _).1 hearlier).1
    rw [List.mem_singleton.1 hlater, List.idxOf_append_of_mem hcame,
      List.idxOf_append_of_notMem hfirst]
    exact Nat.lt_add_right _ (List.idxOf_lt_length_of_mem hcame)

/-- A certificate that is offered next is taken behind the others, if it is whole and new. -/
theorem Gathers.offer (hgathers : Gathers offered anchors) (certificate : Bytes) :
    Gathers (offered ++ [certificate]) (anchors.offer certificate).2 := by
  by_cases hwhole : Certificate.lengthAt? certificate = some certificate.length
  · by_cases hmem : certificate ∈ anchors.certificates
    · rw [offer_of_mem hwhole hmem]
      exact hgathers.pass fun _ => hmem
    · rw [offer_of_not_mem hwhole hmem]
      exact hgathers.take hwhole hmem
  · rw [offer_of_not_whole hwhole]
    exact hgathers.pass fun hother => absurd hother hwhole

end

theorem gathers_offerAll (offered : List Bytes) : Gathers offered (empty.offerAll offered) := by
  induction offered using List.reverseRecOn with
  | nil => exact ⟨by simp [offerAll, empty], List.nodup_nil, .nil⟩
  | append_singleton offered certificate ih =>
      rw [offerAll, List.foldl_append]
      exact ih.offer certificate

/-! Trust. -/

theorem trusts_iff :
    anchors.trusts suite certificate = true ↔ certificate ∈ anchors.certificates ∨
      ∃ anchor ∈ anchors.certificates, suite.issued certificate anchor = true := by
  simp only [trusts, List.any_eq_true, Bool.or_eq_true, decide_eq_true_eq, and_or_left, exists_or]
  simp

/-- What one trusts, another does who trusts all those certificates and maybe more. -/
theorem trusts_of_subset (hsubset : anchors.certificates ⊆ others.certificates)
    (htrusts : anchors.trusts suite certificate = true) :
    others.trusts suite certificate = true := by
  obtain ⟨anchor, hanchor, hvouches⟩ := List.any_eq_true.1 htrusts
  exact List.any_eq_true.2 ⟨anchor, hsubset hanchor, hvouches⟩

/-- The more was offered, the more is trusted. -/
theorem trusts_offerAll_of_subset {offered more : List Bytes} (hsubset : offered ⊆ more)
    (htrusts : (empty.offerAll offered).trusts suite certificate = true) :
    (empty.offerAll more).trusts suite certificate = true := by
  refine trusts_of_subset (fun anchor hanchor => ?_) htrusts
  obtain ⟨hoffered, hwhole⟩ := ((gathers_offerAll offered).mem_iff anchor).1 hanchor
  exact ((gathers_offerAll more).mem_iff anchor).2 ⟨hsubset hoffered, hwhole⟩

/-- After any offers the anchors are the whole ones of what was offered. All else is refused, and
changes nothing. What is trusted depends neither on the order of the offers nor on repetitions, and
grows with each. -/
theorem anchors_of_offers (offered : List Bytes) :
    Gathers offered (empty.offerAll offered) ∧
    (∀ certificate failure, ((empty.offerAll offered).offer certificate).1 = .error failure ↔
      Certificate.lengthAt? certificate ≠ some certificate.length ∧
        failure = .format .certificate) ∧
    (∀ certificate, Certificate.lengthAt? certificate ≠ some certificate.length →
      ((empty.offerAll offered).offer certificate).2 = empty.offerAll offered) ∧
    ∀ suite certificate,
      ((empty.offerAll offered).trusts suite certificate = true ↔
        certificate ∈ (empty.offerAll offered).certificates ∨
          ∃ anchor ∈ (empty.offerAll offered).certificates,
            suite.issued certificate anchor = true) ∧
      (∀ others : List Bytes, (∀ given, given ∈ offered ↔ given ∈ others) →
        (empty.offerAll offered).trusts suite certificate =
          (empty.offerAll others).trusts suite certificate) ∧
      ∀ more, (empty.offerAll offered).trusts suite certificate = true →
        (empty.offerAll (offered ++ more)).trusts suite certificate = true := by
  refine ⟨gathers_offerAll offered, fun certificate failure => offer_fst_eq_error_iff,
    fun certificate hpart => ?_, fun suite certificate => ⟨trusts_iff, fun others hsame => ?_,
      fun more htrusts => ?_⟩⟩
  · rw [offer_of_not_whole hpart]
  · rw [Bool.eq_iff_iff]
    exact ⟨trusts_offerAll_of_subset fun given => (hsame given).1,
      trusts_offerAll_of_subset fun given => (hsame given).2⟩
  · exact trusts_offerAll_of_subset (List.subset_append_left offered more) htrusts

/-- The least of a certificate, for the key whose secret is one. -/
def batchCertificate : Bytes :=
  [0x30, 0x81, 0xa0, 0x30, 0x81, 0x8e, 0x02, 0x01, 0x01, 0x30, 0x0a, 0x06, 0x08, 0x2a, 0x86,
   0x48, 0xce, 0x3d, 0x04, 0x03, 0x02, 0x30, 0x00, 0x30, 0x1e, 0x17, 0x0d, 0x32, 0x30, 0x30,
   0x31, 0x30, 0x31, 0x30, 0x30, 0x30, 0x30, 0x30, 0x30, 0x5a, 0x17, 0x0d, 0x32, 0x30, 0x30,
   0x31, 0x30, 0x31, 0x30, 0x30, 0x30, 0x30, 0x30, 0x30, 0x5a, 0x30, 0x00, 0x30, 0x59, 0x30,
   0x13, 0x06, 0x07, 0x2a, 0x86, 0x48, 0xce, 0x3d, 0x02, 0x01, 0x06, 0x08, 0x2a, 0x86, 0x48,
   0xce, 0x3d, 0x03, 0x01, 0x07, 0x03, 0x42, 0x00, 0x04, 0x6b, 0x17, 0xd1, 0xf2, 0xe1, 0x2c,
   0x42, 0x47, 0xf8, 0xbc, 0xe6, 0xe5, 0x63, 0xa4, 0x40, 0xf2, 0x77, 0x03, 0x7d, 0x81, 0x2d,
   0xeb, 0x33, 0xa0, 0xf4, 0xa1, 0x39, 0x45, 0xd8, 0x98, 0xc2, 0x96, 0x4f, 0xe3, 0x42, 0xe2,
   0xfe, 0x1a, 0x7f, 0x9b, 0x8e, 0xe7, 0xeb, 0x4a, 0x7c, 0x0f, 0x9e, 0x16, 0x2b, 0xce, 0x33,
   0x57, 0x6b, 0x31, 0x5e, 0xce, 0xcb, 0xb6, 0x40, 0x68, 0x37, 0xbf, 0x51, 0xf5, 0x30, 0x0a,
   0x06, 0x08, 0x2a, 0x86, 0x48, 0xce, 0x3d, 0x04, 0x03, 0x02, 0x03, 0x01, 0x00]

/-- A certificate that is cut short, the whole one, the one with a byte more, and the whole one
again. -/
def batchOffers : List Bytes :=
  [batchCertificate.dropLast, batchCertificate, batchCertificate ++ [0x00], batchCertificate]

theorem anchors_of_offers_batch :
    Gathers batchOffers (empty.offerAll batchOffers) ∧
    (empty.offerAll batchOffers).certificates = [batchCertificate] ∧
    ((empty.offerAll batchOffers).offer []).2 = empty.offerAll batchOffers ∧
    (empty.offerAll batchOffers.reverse).trusts .standard batchCertificate = true := by
  obtain ⟨hgathers, _, hkept, htrust⟩ := anchors_of_offers batchOffers
  have hanchors : (empty.offerAll batchOffers).certificates = [batchCertificate] := by
    decide +kernel
  obtain ⟨htrusts, hsame, _⟩ := htrust .standard batchCertificate
  refine ⟨hgathers, hanchors, hkept [] (by decide), ?_⟩
  rw [← hsame batchOffers.reverse (by simp)]
  exact htrusts.2 (.inl (by rw [hanchors]; simp))

end TrustAnchors

end SecondFactor
