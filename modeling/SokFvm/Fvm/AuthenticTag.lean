import SokFvm.Fvm.ParticipantRun

/-!
# What authenticates a freshness value

`processAnAuthenticFv` over `CsmAccessorAraCrypto`.  Neither the callback nor the
action looks at the length of the received signature, and `MacVerify` compares it
with the digest by a `std::equal` that has no end for the digest.  So a signature
of any length up to that of the digest is accepted when it is a prefix, and a
longer one is compared with what lies behind the digest.

`full_tag_iff` is the exact condition under which only a signature of full length
authenticates and the comparison stays inside the digest.
-/

namespace Sok.Fvm

open Sok.Common FreshnessValueManagerImplParticipant

variable {s : FreshnessValueManagerImplParticipant} {csm : ICsmAccessor} {ara : AraCrypto}

/-- The action `processAnAuthenticFv` assigns `fv` to `mFV`. -/
def Adopts (s : FreshnessValueManagerImplParticipant) (csm : ICsmAccessor) (fv : UInt64) : Prop :=
  ∃ result, s.processAnAuthenticFv csm = .ok result ∧ .adopted fv ∈ result.2.2

theorem adopts_iff {fv : UInt64} :
    Adopts s csm fv ↔ s.mCrAuthFvAndMac.1 ≠ [] ∧ s.verifyRes csm = .ok .kSuccess ∧
      fv = byteVectorToUint s.mCrAuthFvAndMac.1 := by
  constructor
  · intro hadopts
    obtain ⟨result, hresult, hadopted⟩ := hadopts
    obtain ⟨hvalue, code, hverify, hcases⟩ := processAnAuthenticFv_cases hresult
    rcases hcases with ⟨hsuccess, hresult⟩ | ⟨-, hresult⟩
    · subst hsuccess hresult
      exact ⟨hvalue, hverify, by simpa using hadopted⟩
    · subst hresult
      simp at hadopted
  · intro hverified
    obtain ⟨hvalue, hverify, hfv⟩ := hverified
    have hresult : s.processAnAuthenticFv csm =
        .ok (.kSuccess, (s.adoptAuthenticFv.transiteTo .idle).clearCrAuthFvAndMac,
          [.adopted s.adoptAuthenticFv.mFV]) := by
      unfold processAnAuthenticFv
      rw [if_neg hvalue, hverify]
      rfl
    refine ⟨_, hresult, ?_⟩
    rw [hfv]
    exact List.mem_singleton.mpr rfl

theorem processAnAuthenticFv_eq_error_iff {fault : Fault} :
    s.processAnAuthenticFv csm = .error fault ↔
      s.mCrAuthFvAndMac.1 = [] ∧ fault = .invalidRange ∨
        s.mCrAuthFvAndMac.1 ≠ [] ∧ s.verifyRes csm = .error fault := by
  unfold processAnAuthenticFv
  by_cases hvalue : s.mCrAuthFvAndMac.1 = []
  · simp [hvalue, eq_comm]
  · rw [if_neg hvalue]
    cases hverify : s.verifyRes csm with
    | error fault' => simp [hvalue]
    | ok code =>
      by_cases hsuccess : code = .kSuccess
      · simp [hsuccess, hvalue]
      · simp [hsuccess, hvalue]

/-- Only a signature of full length that belongs to the payload authenticates a
freshness value, and the comparison does not read past the digest. -/
def FullTagOnly (ara : AraCrypto) (s : FreshnessValueManagerImplParticipant) : Prop :=
  (∀ fv, Adopts s (CsmAccessorAraCrypto.toICsmAccessor ara) fv →
    authFvSignatureSizeBytes.toNatClampNeg ≤ s.mCrAuthFvAndMac.2.length ∧
      ∃ digest, CsmAccessorAraCrypto.macCreate ara s.mEcuKeyIdForFvDistribution
          s.payloadForVerification .kAes128Cmac = .ok digest ∧
        s.mCrAuthFvAndMac.2 <+: digest) ∧
  s.processAnAuthenticFv (CsmAccessorAraCrypto.toICsmAccessor ara) ≠ .error .readPastEnd

/-- Nothing is compared, or the received signature is no longer than 16 bytes, and has
8 at least or is no prefix of the digest. -/
def TagFits (ara : AraCrypto) (s : FreshnessValueManagerImplParticipant) : Prop :=
  s.mCrAuthFvAndMac.1 = [] ∨
    ∀ digest, CsmAccessorAraCrypto.macCreate ara s.mEcuKeyIdForFvDistribution
        s.payloadForVerification .kAes128Cmac = .ok digest →
      s.mCrAuthFvAndMac.2.length ≤ 16 ∧
        (8 ≤ s.mCrAuthFvAndMac.2.length ∨ ¬ s.mCrAuthFvAndMac.2 <+: digest)

/-- What `full_tag_iff` is about, in terms of the comparison. -/
theorem fullTagOnly_iff (hvalue : s.mCrAuthFvAndMac.1 ≠ []) :
    FullTagOnly ara s ↔ ∀ digest, CsmAccessorAraCrypto.macCreate ara s.mEcuKeyIdForFvDistribution
        s.payloadForVerification .kAes128Cmac = .ok digest →
      (s.mCrAuthFvAndMac.2 <+: digest → 8 ≤ s.mCrAuthFvAndMac.2.length) ∧
        ¬ digest.length < s.mCrAuthFvAndMac.2.length := by
  have hsuccess : s.verifyRes (CsmAccessorAraCrypto.toICsmAccessor ara) = .ok .kSuccess ↔ _ :=
    CsmAccessorAraCrypto.macVerify_eq_success_iff
  have herror : s.verifyRes (CsmAccessorAraCrypto.toICsmAccessor ara) = .error .readPastEnd ↔ _ :=
    CsmAccessorAraCrypto.macVerify_eq_error_iff
  constructor
  · intro hfull digest hcreate
    refine ⟨?_, ?_⟩
    · intro hprefix
      have hadopts := adopts_iff.mpr ⟨hvalue, hsuccess.mpr ⟨digest, hcreate, hprefix⟩, rfl⟩
      exact (hfull.1 _ hadopts).1
    · intro hlonger
      have hfault := herror.mpr ⟨rfl, digest, hcreate, hlonger⟩
      exact hfull.2 (processAnAuthenticFv_eq_error_iff.mpr (Or.inr ⟨hvalue, hfault⟩))
  · intro hcompare
    refine ⟨?_, ?_⟩
    · intro fv hadopts
      obtain ⟨-, hverify, -⟩ := adopts_iff.mp hadopts
      obtain ⟨digest, hcreate, hprefix⟩ := hsuccess.mp hverify
      exact ⟨(hcompare digest hcreate).1 hprefix, digest, hcreate, hprefix⟩
    · intro hfault
      rcases processAnAuthenticFv_eq_error_iff.mp hfault with ⟨hempty, -⟩ | ⟨-, hverify⟩
      · exact hvalue hempty
      · obtain ⟨-, digest, hcreate, hlonger⟩ := herror.mp hverify
        exact (hcompare digest hcreate).2 hlonger

/-- **What authenticates.**  With digests of 16 bytes, only a signature of full
length authenticates exactly when the signature fits. -/
theorem full_tag_iff
    (hdigest : ∀ data digest, CsmAccessorAraCrypto.macCreate ara s.mEcuKeyIdForFvDistribution
      data .kAes128Cmac = .ok digest → digest.length = 16) :
    FullTagOnly ara s ↔ TagFits ara s := by
  by_cases hvalue : s.mCrAuthFvAndMac.1 = []
  · refine iff_of_true ⟨?_, ?_⟩ (Or.inl hvalue)
    · intro fv hadopts
      exact absurd hvalue (adopts_iff.mp hadopts).1
    · intro hfault
      rcases processAnAuthenticFv_eq_error_iff.mp hfault with ⟨-, hrange⟩ | ⟨hnonempty, -⟩
      · cases hrange
      · exact hnonempty hvalue
  · rw [fullTagOnly_iff hvalue, TagFits, or_iff_right hvalue]
    refine forall_congr' fun digest => imp_congr_right fun hcreate => ?_
    rw [hdigest _ digest hcreate, Nat.not_lt, and_comm, imp_iff_or_not]

/-- A participant with a response of one value byte and the given signature. -/
def participantWithSignature (signature : ByteVector) : FreshnessValueManagerImplParticipant :=
  { sinkParticipant with mCrAuthFvAndMac := ([42], signature) }

theorem full_tag_iff_zero_digest :
    FullTagOnly zeroDigestCrypto (participantWithSignature [0, 0, 0, 0, 0, 0, 0, 0]) ↔
      TagFits zeroDigestCrypto (participantWithSignature [0, 0, 0, 0, 0, 0, 0, 0]) := by
  apply full_tag_iff
  intro data digest hcreate
  cases hcreate
  exact Vector.length_toList

/-- A signature of one byte authenticates when it is the first of the digest. -/
theorem one_byte_authenticates :
    ¬ FullTagOnly zeroDigestCrypto (participantWithSignature [0]) := by
  intro hfull
  have hadopts : Adopts (participantWithSignature [0]) zeroDigestCsm 42 := ⟨_, rfl, by decide⟩
  have hlength := (hfull.1 42 hadopts).1
  revert hlength
  decide

end Sok.Fvm
