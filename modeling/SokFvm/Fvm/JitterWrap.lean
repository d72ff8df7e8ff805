import SokFvm.Fvm.JitterVerdict

/-!
# The jitter of distant values

`processAnUnauthenticFv` multiplies the difference of two 64-bit values by a hundred
and reads the low 64 bits of the product as a signed number.  For values that fit into
seven bytes nothing is lost.  The broadcast value has eight bytes and no signature,
so the difference can be any.

A hundred is four times an odd number, so the products of the differences are the
multiples of four, each taken by one residue modulo `2 ^ 62`.  The residue of a small
product is that of a difference the code takes for a close one, and the residue
`2 ^ 61` gives the product that `std::abs` cannot negate: `jitter_wrap_iff`.
-/

namespace Sok.Fvm

open Sok.Common FreshnessValueManagerImplParticipant

variable {s : FreshnessValueManagerImplParticipant} {unauthFv : UInt64}

/-! ## The residues -/

/-- The inverse of twenty-five modulo `2 ^ 62`. -/
def inverseOf25 : Int := 1106804644422573097

/-- The difference whose hundredfold is `4 * quarters`, up to multiples of `2 ^ 62`. -/
def aliasOf (quarters : Int) : Int := inverseOf25 * quarters

/-- The low 64 bits of a hundredfold determine the difference modulo `2 ^ 62`. -/
theorem bmod_hundredfold_eq_iff {difference quarters : Int} (hlow : -(2 : Int) ^ 61 ≤ quarters)
    (hhigh : quarters < (2 : Int) ^ 61) :
    (100 * difference).bmod (2 ^ 64) = 4 * quarters ↔
      (difference - aliasOf quarters) % 2 ^ 62 = 0 := by
  have hhalf : ((2 ^ 64 : Nat) : Int) / 2 = 2 ^ 63 := by decide
  have hhalf' : (((2 ^ 64 : Nat) : Int) + 1) / 2 = 2 ^ 63 := by decide
  have hrange : ((2 ^ 64 : Nat) : Int) = 2 ^ 64 := by decide
  rw [Int.bmod_eq_iff (by decide), hhalf, hhalf', hrange]
  unfold aliasOf inverseOf25
  constructor
  · rintro ⟨-, -, hmod⟩
    omega
  · intro hmod
    refine ⟨by omega, by omega, ?_⟩
    omega

/-- The low 64 bits of a hundredfold are a multiple of four. -/
theorem bmod_hundredfold (difference : Int) :
    ∃ quarters : Int, -(2 : Int) ^ 61 ≤ quarters ∧ quarters < (2 : Int) ^ 61 ∧
      (100 * difference).bmod (2 ^ 64) = 4 * quarters := by
  have hlow : -(2 : Int) ^ 63 ≤ (100 * difference).bmod (2 ^ 64) := Int.le_bmod (by decide)
  have hhigh : (100 * difference).bmod (2 ^ 64) < (2 : Int) ^ 63 := Int.bmod_lt (by decide)
  have hdvd : ((2 ^ 64 : Nat) : Int) ∣ 100 * difference - (100 * difference).bmod (2 ^ 64) :=
    Int.dvd_self_sub_bmod
  obtain ⟨multiple, hmultiple⟩ := hdvd
  refine ⟨(100 * difference).bmod (2 ^ 64) / 4, ?_, ?_, ?_⟩
  · omega
  · omega
  · omega

/-! ## The verdict on any difference -/

/-- The product is the one number without an absolute value. -/
def NoAbsoluteValue (difference : Int) : Prop :=
  difference % 2 ^ 62 = 2 ^ 61

instance : DecidablePred NoAbsoluteValue := fun _ => inferInstanceAs (Decidable (_ = _))

/-- The difference has the residue of a product that the code tolerates, which is at most
`4 * 32` either way. -/
def LooksClose (s : FreshnessValueManagerImplParticipant) (difference : Int) : Prop :=
  ∃ i ∈ List.range 65,
    (difference - aliasOf (i - 32)) % 2 ^ 62 = 0 ∧ Tolerates s (4 * (i - 32))

instance : DecidablePred (LooksClose s) := fun difference =>
  inferInstanceAs (Decidable (∃ i ∈ List.range 65,
    (difference - aliasOf (i - 32)) % 2 ^ 62 = 0 ∧ Tolerates s (4 * (i - 32))))

theorem jitterIn64_eq_minValue_iff :
    jitterIn64 s unauthFv = -(2 : Int) ^ 63 ↔ NoAbsoluteValue (ahead s unauthFv) := by
  have hmin : -(2 : Int) ^ 63 = 4 * -(2 : Int) ^ 61 := by decide
  unfold jitterIn64 NoAbsoluteValue
  rw [hmin, bmod_hundredfold_eq_iff (by decide) (by decide)]
  unfold aliasOf inverseOf25
  omega

theorem tolerates_jitterIn64_iff (hclock : s.mClockCount.toNat ≤ 95) :
    Tolerates s (jitterIn64 s unauthFv) ↔ LooksClose s (ahead s unauthFv) := by
  have hmax : sokFmTimeJitterMaxMs.toNat = 30 := rfl
  have hperiod : sokFmMainFunctionPeriodMs.toNat = 5 := rfl
  constructor
  · intro htolerates
    obtain ⟨quarters, hlow, hhigh, hquarters⟩ := bmod_hundredfold (ahead s unauthFv)
    have hjitter : jitterIn64 s unauthFv = 4 * quarters := hquarters
    rw [hjitter] at htolerates
    have hrange : -32 ≤ quarters ∧ quarters ≤ 32 := by
      unfold Tolerates at htolerates
      rw [hmax, hperiod] at htolerates
      omega
    obtain ⟨i, hi⟩ := Int.eq_ofNat_of_zero_le (a := quarters + 32) (by omega)
    obtain rfl : quarters = i - 32 := by omega
    exact ⟨i, List.mem_range.mpr (by omega), (bmod_hundredfold_eq_iff hlow hhigh).mp hquarters,
      htolerates⟩
  · intro hlooks
    obtain ⟨i, hmem, halias, htolerates⟩ := hlooks
    rw [List.mem_range] at hmem
    have hjitter : jitterIn64 s unauthFv = 4 * ((i : Int) - 32) :=
      (bmod_hundredfold_eq_iff (by omega) (by omega)).mpr halias
    rw [hjitter]
    exact htolerates

/-- What the comparison decides of any two values. -/
theorem processAnUnauthenticFv_verdict (hclock : s.mClockCount.toNat ≤ 95) :
    (NoAbsoluteValue (ahead s (byteVectorToUint s.mUnAuthFv)) ∧
        s.processAnUnauthenticFv = .error .absOverflow) ∨
      (¬ NoAbsoluteValue (ahead s (byteVectorToUint s.mUnAuthFv)) ∧
        LooksClose s (ahead s (byteVectorToUint s.mUnAuthFv)) ∧
        s.processAnUnauthenticFv = .ok (.kSuccess, s.transiteTo .idle, [])) ∨
      (¬ NoAbsoluteValue (ahead s (byteVectorToUint s.mUnAuthFv)) ∧
        ¬ LooksClose s (ahead s (byteVectorToUint s.mUnAuthFv)) ∧
        s.processAnUnauthenticFv =
          .ok (.kSuccess, { s with mIsFvValid := false, mUnAuthFv := [] }.transiteTo .requestFV,
            [])) := by
  rw [← jitterIn64_eq_minValue_iff, ← tolerates_jitterIn64_iff hclock]
  by_cases hmin : jitterIn64 s (byteVectorToUint s.mUnAuthFv) = -(2 : Int) ^ 63
  · left
    refine ⟨hmin, ?_⟩
    unfold processAnUnauthenticFv
    rw [jitterOf_minValue hmin]
  · right
    obtain ⟨jitter, absJitter, hjitter, habs, hlarge⟩ := jitterOf_of_ne_minValue hclock hmin
    unfold processAnUnauthenticFv
    rw [hjitter]
    dsimp only
    rw [habs]
    dsimp only
    by_cases htolerates : Tolerates s (jitterIn64 s (byteVectorToUint s.mUnAuthFv))
    · left
      exact ⟨hmin, htolerates, if_neg fun h => hlarge.mp h htolerates⟩
    · right
      exact ⟨hmin, htolerates, if_pos (hlarge.mpr htolerates)⟩

/-! ## The broadcast -/

/-- The comparison of the stored broadcast is defined, and a freshness value that is
valid after it is at most one increment away from the broadcast one. -/
def AcceptsOnlyClose (s : FreshnessValueManagerImplParticipant) : Prop :=
  ∃ result, s.processAnUnauthenticFv = .ok result ∧
    (result.2.1.mIsFvValid = true →
      (ahead s (byteVectorToUint s.mUnAuthFv)).natAbs ≤ 1)

/-- **Which broadcasts wrap.**  After a broadcast of eight bytes the comparison is
defined and accepts only neighbouring values, unless the difference has the residue
without an absolute value, or the participant has a valid value and the difference
is a distant one with the residue of a close one. -/
theorem jitter_wrap_iff {signal : String} {value : ByteVector}
    (hsignal : s.mFvmConfAccessor.getUnauthenticatedFvSignalConfig.name = signal)
    (hvalue : value.length = 8) (hclock : s.mClockCount.toNat ≤ 95) :
    AcceptsOnlyClose (s.incomingUnAuthFvSignalsCb signal value) ↔
      ¬ NoAbsoluteValue (ahead s (byteVectorToUint value)) ∧
        ¬ (s.mIsFvValid = true ∧ 1 < (ahead s (byteVectorToUint value)).natAbs ∧
          LooksClose s (ahead s (byteVectorToUint value))) := by
  have hreceived : s.incomingUnAuthFvSignalsCb signal value =
      { s with
        mUnAuthFv := value
        mFvStateManager := s.mFvStateManager.reactToUnauthenticFVRes } := by
    unfold incomingUnAuthFvSignalsCb
    rw [if_pos ⟨hsignal, hvalue⟩]
  unfold AcceptsOnlyClose
  rw [hreceived]
  rcases processAnUnauthenticFv_verdict (s := { s with
      mUnAuthFv := value
      mFvStateManager := s.mFvStateManager.reactToUnauthenticFVRes }) hclock with
    ⟨hno, heq⟩ | ⟨hno, hclose, heq⟩ | ⟨hno, hclose, heq⟩
  · rw [heq]
    constructor
    · rintro ⟨result, hresult, -⟩
      cases hresult
    · rintro ⟨hdefined, -⟩
      exact absurd hno hdefined
  · rw [heq]
    constructor
    · rintro ⟨result, hresult, honly⟩
      cases hresult
      refine ⟨hno, ?_⟩
      rintro ⟨hvalid, hdistant, -⟩
      exact absurd (honly hvalid) (Nat.not_le_of_lt hdistant)
    · rintro ⟨-, hnever⟩
      refine ⟨_, rfl, ?_⟩
      intro hvalid
      by_contra hdistant
      exact hnever ⟨hvalid, Nat.lt_of_not_le hdistant, hclose⟩
  · rw [heq]
    constructor
    · rintro -
      refine ⟨hno, ?_⟩
      rintro ⟨-, -, hlooks⟩
      exact hclose hlooks
    · rintro -
      refine ⟨_, rfl, ?_⟩
      intro hvalid
      cases hvalid

/-- The name of the broadcast signal of the sample configuration. -/
def broadcastName : String :=
  (comparing 1000 90 0).mFvmConfAccessor.getUnauthenticatedFvSignalConfig.name

theorem jitter_wrap_neighbour :
    AcceptsOnlyClose
      ((comparing 1000 90 0).incomingUnAuthFvSignalsCb broadcastName (uintToByteVector 1001)) :=
  (jitter_wrap_iff rfl (length_uintToByteVector 1001) (by decide)).mpr (by decide +kernel)

/-- A broadcast that is `2 ^ 62` increments away is taken for the own value. -/
theorem jitter_wraps :
    ¬ ∀ (s : FreshnessValueManagerImplParticipant) (signal : String) (value : ByteVector),
      s.mFvmConfAccessor.getUnauthenticatedFvSignalConfig.name = signal → value.length = 8 →
      s.mClockCount.toNat ≤ 95 ∧ s.mClockCount.toNat % 5 = 0 →
      AcceptsOnlyClose (s.incomingUnAuthFvSignalsCb signal value) := by
  intro hall
  have hclose := hall (comparing 1000 90 0) broadcastName
    (uintToByteVector (1000 + 4611686018427387904)) rfl (length_uintToByteVector _)
    ⟨by decide, by decide⟩
  obtain ⟨result, hresult, honly⟩ := hclose
  have hvalid : ((comparing 1000 90 0).incomingUnAuthFvSignalsCb broadcastName
      (uintToByteVector (1000 + 4611686018427387904))).processAnUnauthenticFv.map
        (·.2.1.mIsFvValid) = .ok true := by decide +kernel
  rw [hresult] at hvalid
  have hdistant := honly (Except.ok.inj hvalid)
  have hfar : ¬ (ahead ((comparing 1000 90 0).incomingUnAuthFvSignalsCb broadcastName
      (uintToByteVector (1000 + 4611686018427387904)))
      (byteVectorToUint ((comparing 1000 90 0).incomingUnAuthFvSignalsCb broadcastName
        (uintToByteVector (1000 + 4611686018427387904))).mUnAuthFv)).natAbs ≤ 1 := by
    decide +kernel
  exact hfar hdistant

end Sok.Fvm
