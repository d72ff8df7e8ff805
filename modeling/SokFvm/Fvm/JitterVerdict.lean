import SokFvm.Fvm.HonestBroadcast

/-!
# The verdict on an unauthentic freshness value

A broadcast freshness value stands for the hundred milliseconds in which the server
shows it, and a participant has a time of its own, its freshness value and the time
since that value last moved.  `processAnUnauthenticFv` decides whether the two are
close enough.

It takes the absolute difference of the two values and subtracts the time since the
last increment.  That is right for a participant that is behind.  A participant that
is ahead has its own time on the other side of the difference, so the correction has
the wrong sign there: `jitter_verdict_iff` is the exact extent of it.
-/

namespace Sok.Fvm

open Sok.Common FreshnessValueManagerImplParticipant

variable {s : FreshnessValueManagerImplParticipant} {unauthFv : UInt64}

/-! ## What the code decides -/

/-- By how much the participant is ahead, in increments. -/
def ahead (s : FreshnessValueManagerImplParticipant) (unauthFv : UInt64) : Int :=
  (s.mFV.toNat : Int) - unauthFv.toNat

/-- The code accepts equal values, and neighbouring ones late in its own period. -/
def Accepts (s : FreshnessValueManagerImplParticipant) (unauthFv : UInt64) : Prop :=
  ahead s unauthFv = 0 ∨ (ahead s unauthFv).natAbs = 1 ∧ 65 ≤ s.mClockCount.toNat

/-- The difference of the two values in milliseconds, as the code has it. -/
def jitterIn64 (s : FreshnessValueManagerImplParticipant) (unauthFv : UInt64) : Int :=
  (100 * ahead s unauthFv).bmod (2 ^ 64)

/-- The code takes a jitter for small as it is, or with the time since the last
increment subtracted. -/
def Tolerates (s : FreshnessValueManagerImplParticipant) (jitter : Int) : Prop :=
  jitter.natAbs ≤ sokFmTimeJitterMaxMs.toNat ∨
    ((jitter.natAbs : Int) - (s.mClockCount.toNat + sokFmMainFunctionPeriodMs.toNat)).natAbs ≤
      sokFmTimeJitterMaxMs.toNat

instance : DecidablePred (Tolerates s) := fun _ => inferInstanceAs (Decidable (_ ∨ _))

theorem toInt_difference :
    ((s.mFV - unauthFv) * sokFmTimeIncrementPeriodMs.toUInt64).toInt64.toInt =
      jitterIn64 s unauthFv := by
  have hperiod : sokFmTimeIncrementPeriodMs.toUInt64.toNat = 100 := rfl
  rw [toInt_sub_mul_eq_bmod, hperiod, Int.mul_comm]
  rfl

theorem ne_minValue_of_toInt {x : Int64} (hx : -(2 : Int) ^ 63 < x.toInt) :
    x ≠ Int64.minValue := by
  intro heq
  have hmin : Int64.minValue.toInt = -(2 : Int) ^ 63 := rfl
  rw [heq, hmin] at hx
  exact absurd hx (Int.lt_irrefl _)

/-- The time since the last increment, with the call that is going on. -/
theorem toInt_sinceIncrement (hclock : s.mClockCount.toNat ≤ 95) :
    (s.mClockCount + sokFmMainFunctionPeriodMs.toUInt32).toUInt64.toInt64.toInt =
      s.mClockCount.toNat + 5 := by
  have hperiod : sokFmMainFunctionPeriodMs.toUInt32.toNat = 5 := rfl
  have hsum : (s.mClockCount + sokFmMainFunctionPeriodMs.toUInt32).toUInt64.toNat =
      s.mClockCount.toNat + 5 := by
    rw [UInt32.toNat_toUInt64, UInt32.toNat_add, hperiod]
    omega
  rw [toInt_toInt64, hsum]
  apply Int.bmod_eq_of_le
  · omega
  · omega

/-- The difference that has no absolute value stops the comparison. -/
theorem jitterOf_minValue (hmin : jitterIn64 s unauthFv = -(2 : Int) ^ 63) :
    s.jitterOf unauthFv = .error .absOverflow := by
  have hvalue : ((s.mFV - unauthFv) * sokFmTimeIncrementPeriodMs.toUInt64).toInt64 =
      Int64.minValue := by
    rw [← Int64.toInt_inj, toInt_difference, hmin]
    rfl
  unfold jitterOf
  rw [hvalue]
  rfl

/-- Any other one is found too large exactly when it is not tolerated. -/
theorem jitterOf_of_ne_minValue (hclock : s.mClockCount.toNat ≤ 95)
    (hmin : jitterIn64 s unauthFv ≠ -(2 : Int) ^ 63) :
    ∃ jitter absJitter, s.jitterOf unauthFv = .ok jitter ∧ stdAbs jitter = .ok absJitter ∧
      (sokFmTimeJitterMaxMs.toUInt64.toInt64 < absJitter ↔
        ¬ Tolerates s (jitterIn64 s unauthFv)) := by
  have hmax : sokFmTimeJitterMaxMs.toUInt64.toInt64.toInt = 30 := rfl
  have hmaxNat : sokFmTimeJitterMaxMs.toNat = 30 := rfl
  have hperiod : sokFmMainFunctionPeriodMs.toNat = 5 := rfl
  have hdifference :
      ((s.mFV - unauthFv) * sokFmTimeIncrementPeriodMs.toUInt64).toInt64.toInt =
        jitterIn64 s unauthFv := toInt_difference
  have hsince := toInt_sinceIncrement hclock
  have hlow : -(2 : Int) ^ 63 ≤ jitterIn64 s unauthFv := Int.le_bmod (by decide)
  have hhigh : jitterIn64 s unauthFv < (2 : Int) ^ 63 := Int.bmod_lt (by decide)
  unfold jitterOf Tolerates
  rw [hmaxNat, hperiod]
  dsimp only
  generalize ((s.mFV - unauthFv) * sokFmTimeIncrementPeriodMs.toUInt64).toInt64 = jitter
    at hdifference ⊢
  obtain ⟨absJitter, habs, habsInt⟩ :=
    toInt_stdAbs (ne_minValue_of_toInt (x := jitter) (by omega))
  have hlarge : sokFmTimeJitterMaxMs.toUInt64.toInt64 < absJitter ↔
      30 < (jitterIn64 s unauthFv).natAbs := by
    rw [Int64.lt_iff_toInt_lt, hmax]
    omega
  by_cases hzero : jitter = 0
  · have hint : jitter.toInt = 0 := by
      rw [hzero]
      rfl
    rw [if_pos hzero]
    refine ⟨jitter, absJitter, rfl, habs, ?_⟩
    rw [hlarge]
    omega
  · rw [if_neg hzero, habs]
    dsimp only
    by_cases hexceeds : sokFmTimeJitterMaxMs.toUInt64.toInt64 < absJitter
    · have hfar := hlarge.mp hexceeds
      rw [if_pos hexceeds]
      generalize (s.mClockCount + sokFmMainFunctionPeriodMs.toUInt32).toUInt64.toInt64 = time
        at hsince ⊢
      have hcorrected : (absJitter - time).toInt = absJitter.toInt - time.toInt := by
        rw [Int64.toInt_sub]
        apply Int.bmod_eq_of_le
        · omega
        · omega
      obtain ⟨absCorrected, habs', habsInt'⟩ :=
        toInt_stdAbs (ne_minValue_of_toInt (x := absJitter - time) (by omega))
      refine ⟨_, absCorrected, rfl, habs', ?_⟩
      rw [Int64.lt_iff_toInt_lt, hmax, habsInt', hcorrected, habsInt, hdifference, hsince]
      omega
    · rw [if_neg hexceeds]
      refine ⟨jitter, absJitter, rfl, habs, ?_⟩
      rw [hlarge] at hexceeds ⊢
      omega

/-- The values of which the jitter is computed exactly. -/
structure InRange (s : FreshnessValueManagerImplParticipant) (unauthFv : UInt64) : Prop where
  mFV : s.mFV.toNat < 2 ^ 56
  unauthFv : unauthFv.toNat < 2 ^ 56
  mClockCount : s.mClockCount.toNat ≤ 95

theorem InRange.jitterIn64_eq (hrange : InRange s unauthFv) :
    jitterIn64 s unauthFv = 100 * ahead s unauthFv := by
  obtain ⟨hfv, hunauth, -⟩ := hrange
  unfold jitterIn64 ahead
  apply Int.bmod_eq_of_le
  · omega
  · omega

/-- The jitter is found too large exactly when the code does not accept. -/
theorem jitterOf_spec (hrange : InRange s unauthFv) :
    ∃ jitter absJitter, s.jitterOf unauthFv = .ok jitter ∧ stdAbs jitter = .ok absJitter ∧
      (sokFmTimeJitterMaxMs.toUInt64.toInt64 < absJitter ↔ ¬ Accepts s unauthFv) := by
  have hmaxNat : sokFmTimeJitterMaxMs.toNat = 30 := rfl
  have hperiod : sokFmMainFunctionPeriodMs.toNat = 5 := rfl
  have hexact := hrange.jitterIn64_eq
  obtain ⟨hfv, hunauth, hclock⟩ := hrange
  have hmin : jitterIn64 s unauthFv ≠ -(2 : Int) ^ 63 := by
    rw [hexact]
    unfold ahead
    omega
  have haccepts : Accepts s unauthFv ↔ Tolerates s (jitterIn64 s unauthFv) := by
    rw [hexact]
    unfold Accepts Tolerates
    rw [hmaxNat, hperiod]
    omega
  rw [haccepts]
  exact jitterOf_of_ne_minValue hclock hmin

/-- What the code decides. -/
theorem processAnUnauthenticFv_eq (hrange : InRange s (byteVectorToUint s.mUnAuthFv)) :
    (Accepts s (byteVectorToUint s.mUnAuthFv) ∧
        s.processAnUnauthenticFv = .ok (.kSuccess, s.transiteTo .idle, [])) ∨
      (¬ Accepts s (byteVectorToUint s.mUnAuthFv) ∧ s.processAnUnauthenticFv =
        .ok (.kSuccess, { s with mIsFvValid := false, mUnAuthFv := [] }.transiteTo .requestFV,
          [])) := by
  obtain ⟨jitter, absJitter, hjitter, habs, hlarge⟩ := jitterOf_spec hrange
  unfold processAnUnauthenticFv
  rw [hjitter]
  dsimp only
  rw [habs]
  dsimp only
  by_cases haccepts : Accepts s (byteVectorToUint s.mUnAuthFv)
  · left
    exact ⟨haccepts, if_neg fun h => hlarge.mp h haccepts⟩
  · right
    exact ⟨haccepts, if_pos (hlarge.mpr haccepts)⟩

/-! ## What it should decide -/

/-- The time of the participant in milliseconds, with the call that is going on. -/
def internalTime (s : FreshnessValueManagerImplParticipant) : Int :=
  100 * s.mFV.toNat + s.mClockCount.toNat + sokFmMainFunctionPeriodMs.toNat

/-- The time of the participant is within the maximal jitter of the hundred
milliseconds that the broadcast value stands for. -/
def WithinJitter (s : FreshnessValueManagerImplParticipant) (unauthFv : UInt64) : Prop :=
  100 * (unauthFv.toNat : Int) - sokFmTimeJitterMaxMs.toNat ≤ internalTime s ∧
    internalTime s ≤ 100 * unauthFv.toNat + 100 + sokFmTimeJitterMaxMs.toNat

instance : DecidablePred (WithinJitter s) := fun _ => inferInstanceAs (Decidable (_ ∧ _))

/-- The freshness value stays valid if the time of the participant is close enough,
and is invalidated otherwise. -/
def MeasuresDeviation (s : FreshnessValueManagerImplParticipant) : Prop :=
  ∃ result, s.processAnUnauthenticFv = .ok result ∧
    if WithinJitter s (byteVectorToUint s.mUnAuthFv) then
      result.2.1.mIsFvValid = s.mIsFvValid ∧
        result.2.1.mFvStateManager.mCurrentFvState = some .idle
    else result.2.1.mIsFvValid = false ∧
      result.2.1.mFvStateManager.mCurrentFvState = some .requestFV

/-- **The verdict on a broadcast measures the deviation, unless the participant is
one increment ahead.**  It is wrong exactly for a participant whose value is one more
than the broadcast one, and then early in its period, where it is close enough and
rejects, and late in its period, where it is too far away and accepts. -/
theorem jitter_verdict_iff (hregistered : s.mFvStateManager.AllRegistered StateAction.ofState)
    (hfv : s.mFV.toNat < 2 ^ 56) (hunauth : (byteVectorToUint s.mUnAuthFv).toNat < 2 ^ 56)
    (hclock : s.mClockCount.toNat ≤ 95 ∧ s.mClockCount.toNat % 5 = 0) :
    MeasuresDeviation s ↔
      ¬ (s.mFV.toNat = (byteVectorToUint s.mUnAuthFv).toNat + 1 ∧
        (s.mClockCount.toNat ≤ 25 ∨ 65 ≤ s.mClockCount.toNat)) := by
  have hrange : InRange s (byteVectorToUint s.mUnAuthFv) := ⟨hfv, hunauth, hclock.1⟩
  have hjitter : (sokFmTimeJitterMaxMs.toNat : Int) = 30 := rfl
  have hperiod : (sokFmMainFunctionPeriodMs.toNat : Int) = 5 := rfl
  have hagree : (WithinJitter s (byteVectorToUint s.mUnAuthFv) ↔
        Accepts s (byteVectorToUint s.mUnAuthFv)) ↔
      ¬ (s.mFV.toNat = (byteVectorToUint s.mUnAuthFv).toNat + 1 ∧
        (s.mClockCount.toNat ≤ 25 ∨ 65 ≤ s.mClockCount.toNat)) := by
    unfold WithinJitter Accepts internalTime ahead
    rw [hjitter, hperiod]
    omega
  have hidle : (s.transiteTo .idle).mFvStateManager.mCurrentFvState = some .idle :=
    hregistered.current_transiteTo _
  have hrequest : (transiteTo { s with mIsFvValid := false, mUnAuthFv := [] }
      .requestFV).mFvStateManager.mCurrentFvState = some .requestFV :=
    hregistered.current_transiteTo _
  rw [← hagree]
  unfold MeasuresDeviation
  rcases processAnUnauthenticFv_eq hrange with ⟨haccepts, heq⟩ | ⟨hrejects, heq⟩
  · rw [heq]
    constructor
    · intro ⟨result, hresult, hverdict⟩
      cases hresult
      refine iff_of_true ?_ haccepts
      by_contra hfar
      rw [if_neg hfar, hidle] at hverdict
      cases hverdict.2
    · intro hiff
      exact ⟨_, rfl, by rw [if_pos (hiff.mpr haccepts)]; exact ⟨rfl, hidle⟩⟩
  · rw [heq]
    constructor
    · intro ⟨result, hresult, hverdict⟩
      cases hresult
      refine iff_of_false ?_ hrejects
      intro hclose
      rw [if_pos hclose, hrequest] at hverdict
      cases hverdict.2
    · intro hiff
      exact ⟨_, rfl, by rw [if_neg fun h => hrejects (hiff.mp h)]; exact ⟨rfl, hrequest⟩⟩

/-- A participant with a valid freshness value and a broadcast that waits. -/
def comparing (fv : UInt64) (mClockCount : UInt32) (unauthFv : UInt64) :
    FreshnessValueManagerImplParticipant :=
  { sinkParticipant with
    mFV := fv
    mIsFvValid := true
    mClockCount := mClockCount
    mUnAuthFv := uintToByteVector unauthFv }

theorem registered_comparing {fv unauthFv : UInt64} {mClockCount : UInt32} :
    (comparing fv mClockCount unauthFv).mFvStateManager.AllRegistered StateAction.ofState :=
  initialisedParticipant_sinkParticipant.registered

theorem jitter_verdict_behind : MeasuresDeviation (comparing 1000 90 1001) :=
  (jitter_verdict_iff registered_comparing (by decide) (by decide +kernel)
    ⟨by decide, by decide⟩).mpr (by decide +kernel)

/-- The value moved on five milliseconds ago, and the broadcast of the value before
it arrives. -/
theorem jitter_verdict_wrong_ahead :
    ¬ ∀ s : FreshnessValueManagerImplParticipant,
      s.mFvStateManager.AllRegistered StateAction.ofState → s.mFV.toNat < 2 ^ 56 →
      (byteVectorToUint s.mUnAuthFv).toNat < 2 ^ 56 →
      s.mClockCount.toNat ≤ 95 ∧ s.mClockCount.toNat % 5 = 0 → MeasuresDeviation s := by
  intro hall
  obtain ⟨result, hresult, hverdict⟩ := hall (comparing 1001 5 1000) registered_comparing
    (by decide) (by decide +kernel) ⟨by decide, by decide⟩
  have hclose : WithinJitter (comparing 1001 5 1000)
      (byteVectorToUint (comparing 1001 5 1000).mUnAuthFv) := by decide +kernel
  rw [if_pos hclose] at hverdict
  have hinvalid : (comparing 1001 5 1000).processAnUnauthenticFv.map (·.2.1.mIsFvValid) =
      .ok false := by decide +kernel
  rw [hresult] at hinvalid
  have hfalse : result.2.1.mIsFvValid = false := Except.ok.inj hinvalid
  rw [hverdict.1] at hfalse
  cases hfalse

end Sok.Fvm
