import SokFvm.Library.Cadence
import SokFvm.Fvm.Lifecycle

/-!
# The lineage of a participant's freshness value

A valid freshness value of a participant is the value that it adopted last, moved
on with its own clock.  The clock is a `Cadence` of twenty ticks: `incTimers`
counts the time in `mClockCount` and moves `mFV` when the count is exactly the
increment period.  The comparison is an equality, so everything rests on the count
being a multiple of the tick below the period whenever the value is valid, and it
is, because the adoption sets it to zero: `Shows`.

`FvStep` says once what a step of a participant can do to the freshness value, its
validity and its clock: adopt a verified value, drop the validity, tick, or leave
them alone.  `fvStep_of_step` is that every step is one of these, and `Lineage` is
the invariant that follows.
-/

namespace Sok.Fvm

open Sok.Common StateMachine Cadence FreshnessValueManagerImplParticipant

/-! ## The clock -/

/-- The ticks that make one increment of the freshness value. -/
def ticksPerIncrement : Nat :=
  sokFmTimeIncrementPeriodMs.toNat / sokFmMainFunctionPeriodMs.toNat

theorem ticksPerIncrement_eq : ticksPerIncrement = 20 := rfl

/-- The freshness value and the clock are `r` past a time when the value was
`start` and the clock stood at zero. -/
structure Shows (s : AFreshnessValueManagerImpl) (start : UInt64) (r : Reading) : Prop where
  mFV : s.mFV = start + UInt64.ofNat r.count
  mClockCount : s.mClockCount.toNat = sokFmMainFunctionPeriodMs.toNat * r.phase

namespace AFreshnessValueManagerImpl

variable {s s' : AFreshnessValueManagerImpl}

theorem mIsFvValid_incTimers : s.incTimers.mIsFvValid = s.mIsFvValid := by
  unfold incTimers
  split
  · rfl
  · dsimp only
    split
    · rfl
    · rfl

/-- A call from outside leaves the freshness value and the clock alone. -/
theorem sameContext_of_call (call : ManagerCall) :
    SameContext s (managerNext s call.1).1 := by
  obtain ⟨op, hcall⟩ := call
  cases op with
  | getRxFreshness id truncated attempts => exact worksOn_getRxFreshness.context
  | getTxFreshness id => exact worksOn_getTxFreshness.context
  | verificationStatusCallout status => exact worksOn_verificationStatusCallout.context
  | sPduTxConfirmation id => exact worksOn_sPduTxConfirmation.context
  | triggerCrRequest csm signals id => exact leavesEntries_triggerCrRequest.context
  | offerCrRequest id cb => exact leavesEntries_offerCrRequest.context
  | incomingChallengeSignal signal challenge =>
    exact leavesEntries_incomingChallengeSignalCb.context
  | incTimers | adoptFv | invalidateFv => cases hcall

end AFreshnessValueManagerImpl

section Clock

variable {s s' : AFreshnessValueManagerImpl}

/-- A tick of a manager whose freshness value is valid. -/
theorem Shows.incTimers {start : UInt64} {r : Reading} (hshows : Shows s start r)
    (hinit : s.mInitialized = true) (hvalid : s.mIsFvValid = true)
    (hphase : r.phase < ticksPerIncrement) :
    Shows s.incTimers start (tick ticksPerIncrement r) := by
  rw [ticksPerIncrement_eq] at hphase ⊢
  have hclock : s.mClockCount.toNat = 5 * r.phase := hshows.mClockCount
  have hperiod : sokFmMainFunctionPeriodMs.toUInt32.toNat = 5 := rfl
  have hincrement : sokFmTimeIncrementPeriodMs.toUInt32.toNat = 100 := rfl
  have hsum : (s.mClockCount + sokFmMainFunctionPeriodMs.toUInt32).toNat = 5 * (r.phase + 1) := by
    rw [UInt32.toNat_add, hperiod, hclock]
    omega
  have hgo : ¬ (!s.mInitialized) = true := by
    rw [hinit]
    decide
  unfold AFreshnessValueManagerImpl.incTimers tick
  rw [if_neg hgo]
  dsimp only
  rw [hvalid, Bool.true_and]
  by_cases hlast : r.phase + 1 = 20
  · have heq : (sokFmTimeIncrementPeriodMs.toUInt32 ==
        s.mClockCount + sokFmMainFunctionPeriodMs.toUInt32) = true := by
      rw [beq_iff_eq, ← UInt32.toNat_inj, hsum, hincrement]
      omega
    rw [if_pos heq, if_pos hlast]
    refine ⟨?_, rfl⟩
    show s.mFV + 1 = start + UInt64.ofNat (r.count + 1)
    rw [hshows.mFV, UInt64.ofNat_add, UInt64.add_assoc]
    rfl
  · have hne : ¬ (sokFmTimeIncrementPeriodMs.toUInt32 ==
        s.mClockCount + sokFmMainFunctionPeriodMs.toUInt32) = true := by
      rw [beq_iff_eq, ← UInt32.toNat_inj, hsum, hincrement]
      omega
    rw [if_neg hne, if_neg hlast]
    exact ⟨hshows.mFV, hsum⟩

/-- The reading after one more tick. -/
theorem Shows.incTimers_after {start : UInt64} {n : Nat}
    (hshows : Shows s start (after ticksPerIncrement n)) (hinit : s.mInitialized = true)
    (hvalid : s.mIsFvValid = true) :
    Shows s.incTimers start (after ticksPerIncrement (n + 1)) := by
  have hpos : 0 < ticksPerIncrement := by decide
  rw [← tick_after hpos]
  exact hshows.incTimers hinit hvalid (phase_after_lt hpos)

theorem Shows.of_sameContext {start : UInt64} {r : Reading} (hshows : Shows s start r)
    (hsame : AFreshnessValueManagerImpl.SameContext s s') : Shows s' start r := by
  refine ⟨?_, ?_⟩
  · rw [hsame.mFV]
    exact hshows.mFV
  · rw [hsame.mClockCount]
    exact hshows.mClockCount

end Clock

/-! ## What a step does to the freshness value -/

/-- The states in which the freshness value is valid. -/
def FreshnessValueState.HoldsFv (state : Option FreshnessValueState) : Prop :=
  state = some .idle ∨ state = some .processAnauthFV

/-- The value of an adoption. -/
@[simp] def ParticipantEvent.adoption : ParticipantEvent → Option UInt64
  | .adopted fv => some fv
  | _ => none

variable {s s' s₀ : FreshnessValueManagerImplParticipant} {op : ParticipantOp}
variable {es h : List ParticipantEvent} {csm : ICsmAccessor} {signals : ISignalManager}

/-- What a step does to the freshness value of a participant, to its validity and
to its clock. -/
inductive FvStep (s : FreshnessValueManagerImplParticipant) (op : ParticipantOp)
    (es : List ParticipantEvent) (s' : FreshnessValueManagerImplParticipant) : Prop
  /-- `processAnAuthenticFv` verified the response. -/
  | adopts (csm : ICsmAccessor) (signals : ISignalManager)
      (hop : op = .mainFunction csm signals) (hverified : s.verifyRes csm = .ok .kSuccess)
      (hes : es = [.mainFunctionCompleted, .adopted (byteVectorToUint s.mCrAuthFvAndMac.1)])
      (hbase : s'.toAFreshnessValueManagerImpl = (s.toAFreshnessValueManagerImpl.adoptFv
        (byteVectorToUint s.mCrAuthFvAndMac.1)).incTimers)
      (hstate : s'.requestCycle.state = some .idle)
  /-- `processAnUnauthenticFv` found the values too far apart. -/
  | invalidates (hop : ∃ csm signals, op = .mainFunction csm signals)
      (hfrom : s.requestCycle.state = some .processAnauthFV)
      (hes : es = [.mainFunctionCompleted])
      (hbase : s'.toAFreshnessValueManagerImpl =
        s.toAFreshnessValueManagerImpl.invalidateFv.incTimers)
      (hstate : s'.requestCycle.state = some .requestFV)
  /-- Any other call of the main function. -/
  | ticks (hop : ∃ csm signals, op = .mainFunction csm signals)
      (hadoption : ∀ e ∈ es, e.adoption = none)
      (hcompleted : es.count .mainFunctionCompleted = 1)
      (hbase : s'.toAFreshnessValueManagerImpl = s.toAFreshnessValueManagerImpl.incTimers)
      (hstate : FreshnessValueState.HoldsFv s'.requestCycle.state ↔
        FreshnessValueState.HoldsFv s.requestCycle.state)
  /-- A signal or a call from outside. -/
  | calls (hop : ∀ csm signals, op ≠ .mainFunction csm signals)
      (hadoption : ∀ e ∈ es, e.adoption = none)
      (hcompleted : es.count .mainFunctionCompleted = 0)
      (hbase : AFreshnessValueManagerImpl.SameContext s.toAFreshnessValueManagerImpl
        s'.toAFreshnessValueManagerImpl)
      (hstate : FreshnessValueState.HoldsFv s'.requestCycle.state ↔
        FreshnessValueState.HoldsFv s.requestCycle.state)

theorem state_transiteTo (hready : Ready s) {t : FreshnessValueManagerImplParticipant}
    (hmanager : t.mFvStateManager = s.mFvStateManager) (state : FreshnessValueState) :
    (t.transiteTo state).requestCycle.state = some state := by
  have hregistered : t.mFvStateManager.AllRegistered StateAction.ofState := by
    rw [hmanager]
    exact hready.registered
  exact hregistered.current_transiteTo state

/-- The main function in a state that is not about to verify or to compare. -/
theorem fvStep_of_quiet {t : FreshnessValueManagerImplParticipant} {rest : List ParticipantEvent}
    (hbase : t.toAFreshnessValueManagerImpl = s.toAFreshnessValueManagerImpl)
    (hrest : ∀ e ∈ rest, e.adoption = none ∧ e ≠ .mainFunctionCompleted)
    (hstate : FreshnessValueState.HoldsFv t.requestCycle.state ↔
      FreshnessValueState.HoldsFv s.requestCycle.state) :
    FvStep s (.mainFunction csm signals) (.mainFunctionCompleted :: rest) t.incTimers := by
  refine .ticks ⟨csm, signals, rfl⟩ ?_ ?_ ?_ hstate
  · intro e hmem
    rcases List.mem_cons.mp hmem with rfl | hmem
    · rfl
    · exact (hrest e hmem).1
  · rw [List.count_cons_self, List.count_eq_zero_of_not_mem]
    intro hmem
    exact (hrest _ hmem).2 rfl
  · show t.toAFreshnessValueManagerImpl.incTimers = s.toAFreshnessValueManagerImpl.incTimers
    rw [hbase]

/-- The same for an action that ends with a transition. -/
theorem fvStep_of_transiteTo (hready : Ready s) {t : FreshnessValueManagerImplParticipant}
    {rest : List ParticipantEvent} {old state : FreshnessValueState}
    (hbase : t.toAFreshnessValueManagerImpl = s.toAFreshnessValueManagerImpl)
    (hmanager : t.mFvStateManager = s.mFvStateManager)
    (hrest : ∀ e ∈ rest, e.adoption = none ∧ e ≠ .mainFunctionCompleted)
    (hstate : s.requestCycle.state = some old)
    (hholds : FreshnessValueState.HoldsFv (some state) ↔
      FreshnessValueState.HoldsFv (some old)) :
    FvStep s (.mainFunction csm signals) (.mainFunctionCompleted :: rest)
      (t.transiteTo state).incTimers := by
  refine fvStep_of_quiet (t := t.transiteTo state) hbase hrest ?_
  rw [state_transiteTo hready hmanager, hstate]
  exact hholds

theorem fvStep_stateAction (hready : Ready s) {state : FreshnessValueState}
    (hstate : s.requestCycle.state = some state) {result : ActionResult}
    (hresult : s.stateAction csm signals (StateAction.ofState state) = .ok result) :
    FvStep s (.mainFunction csm signals) (.mainFunctionCompleted :: result.2.2)
      result.2.1.incTimers := by
  cases state with
  | requestFV =>
    cases Except.ok.inj hresult
    unfold requestAnAuthenticFv
    split
    · exact fvStep_of_quiet rfl (by simp) Iff.rfl
    · rename_i challenge hrandom
      dsimp only
      split
      · refine fvStep_of_transiteTo hready rfl rfl (by simp) hstate ?_
        simp [FreshnessValueState.HoldsFv]
      · exact fvStep_of_quiet rfl (by simp) Iff.rfl
  | fvInProgress =>
    cases Except.ok.inj hresult
    unfold waitForAnAuthenticFv
    dsimp only
    split
    · refine fvStep_of_transiteTo hready rfl rfl (by simp) hstate ?_
      simp [FreshnessValueState.HoldsFv]
    · exact fvStep_of_quiet rfl (by simp) Iff.rfl
  | processFV =>
    obtain ⟨-, code, hverify, ⟨hsuccess, hresult⟩ | ⟨-, hresult⟩⟩ :=
      processAnAuthenticFv_cases hresult
    · subst hresult hsuccess
      exact .adopts csm signals rfl hverify rfl rfl (state_transiteTo hready rfl _)
    · subst hresult
      refine fvStep_of_transiteTo hready rfl rfl (by simp) hstate ?_
      simp [FreshnessValueState.HoldsFv]
  | processAnauthFV =>
    rcases processAnUnauthenticFv_cases hresult with hresult | hresult
    · subst hresult
      exact .invalidates ⟨csm, signals, rfl⟩ hstate rfl rfl (state_transiteTo hready rfl _)
    · subst hresult
      refine fvStep_of_transiteTo hready rfl rfl (by simp) hstate ?_
      simp [FreshnessValueState.HoldsFv]
  | idle =>
    cases Except.ok.inj hresult
    exact fvStep_of_quiet rfl (by simp) Iff.rfl

theorem holdsFv_react {c : RequestCycle} :
    FreshnessValueState.HoldsFv c.react.state ↔ FreshnessValueState.HoldsFv c.state := by
  unfold RequestCycle.react FreshnessValueState.HoldsFv
  split
  · dsimp only
    cases c.state with
    | none => simp
    | some state => cases state <;> simp [FreshnessValueStateManager.onFvRes]
  · exact Iff.rfl

/-- A step without the main function. -/
theorem RequestCycle.Step.holdsFv {c c' : RequestCycle} (hstep : RequestCycle.Step c es c')
    (hcompleted : .mainFunctionCompleted ∉ es) :
    (∀ e ∈ es, e.adoption = none) ∧
      (FreshnessValueState.HoldsFv c'.state ↔ FreshnessValueState.HoldsFv c.state) := by
  cases hstep with
  | value bytes => exact ⟨by simp, holdsFv_react⟩
  | signature bytes => exact ⟨by simp, holdsFv_react⟩
  | otherSignal => exact ⟨by simp, holdsFv_react⟩
  | unauthentic hstate =>
    refine ⟨by simp, ?_⟩
    rw [hstate]
    simp [FreshnessValueState.HoldsFv]
  | other => exact ⟨by simp, Iff.rfl⟩
  | _ => simp at hcompleted

/-- A step that is no call of the main function and leaves the freshness value and
the clock alone. -/
theorem fvStep_of_signal (hready : Ready s) (hstep : participantStep s op = .ok (s', es))
    (hop : ∀ csm signals, op ≠ .mainFunction csm signals)
    (hbase : AFreshnessValueManagerImpl.SameContext s.toAFreshnessValueManagerImpl
      s'.toAFreshnessValueManagerImpl) : FvStep s op es s' := by
  have hcompleted : .mainFunctionCompleted ∉ es := by
    intro hmem
    obtain ⟨csm, signals, hmain⟩ := mainFunction_of_completed hstep hmem
    exact hop csm signals hmain
  obtain ⟨hadoption, hstate⟩ := (requestCycle_step hready hstep).step.holdsFv hcompleted
  exact .calls hop hadoption (List.count_eq_zero_of_not_mem hcompleted) hbase hstate

/-- Every step of a participant is one of these. -/
theorem fvStep_of_step (hready : Ready s) (hstep : participantStep s op = .ok (s', es)) :
    FvStep s op es s' := by
  cases op with
  | mainFunction csm signals =>
    obtain ⟨ret, hresult⟩ := mainFunction_of_step hstep
    obtain ⟨state, result', hstate, haction, hresult'⟩ := mainFunction_cases hready hresult
    cases hresult'
    exact fvStep_stateAction hready hstate haction
  | incomingAuthFvSignal signal value =>
    refine fvStep_of_signal hready hstep (by simp) ?_
    have hbase := base_incomingAuthFvSignalsCb (s := s) signal value
    rw [show (s.incomingAuthFvSignalsCb signal value).1 = s' from
      congrArg Prod.fst (Except.ok.inj hstep)] at hbase
    rw [hbase]
    exact ⟨rfl, rfl, rfl, rfl, rfl, rfl⟩
  | incomingUnAuthFvSignal signal value =>
    refine fvStep_of_signal hready hstep (by simp) ?_
    cases Except.ok.inj hstep
    unfold incomingUnAuthFvSignalsCb
    split
    · exact ⟨rfl, rfl, rfl, rfl, rfl, rfl⟩
    · exact ⟨rfl, rfl, rfl, rfl, rfl, rfl⟩
  | call call =>
    refine fvStep_of_signal hready hstep (by simp) ?_
    cases Except.ok.inj hstep
    exact AFreshnessValueManagerImpl.sameContext_of_call call

/-! ## The lineage -/

/-- The value that was adopted last. -/
def lastAdoption (h : List ParticipantEvent) : Option UInt64 :=
  h.findSome? (·.adoption)

/-- The calls of the main function that completed since the last adoption, the
call that adopted included. -/
def callsSinceAdoption (h : List ParticipantEvent) : Nat :=
  (since (·.adoption.isSome) h).count .mainFunctionCompleted

theorem lastAdoption_append (hadoption : ∀ e ∈ es, e.adoption = none) :
    lastAdoption (es ++ h) = lastAdoption h := by
  unfold lastAdoption
  rw [List.findSome?_append, List.findSome?_eq_none_iff.mpr hadoption]
  rfl

theorem callsSinceAdoption_append (hadoption : ∀ e ∈ es, e.adoption = none) :
    callsSinceAdoption (es ++ h) = es.count .mainFunctionCompleted + callsSinceAdoption h := by
  unfold callsSinceAdoption
  rw [since_append_of_not_mark, List.count_append]
  intro e hmem
  rw [hadoption e hmem]
  rfl

/-- The invariant: the value is valid in two of the five states, and then it is
the last one adopted, moved on with the calls since. -/
structure Lineage (s : FreshnessValueManagerImplParticipant) (h : List ParticipantEvent) :
    Prop where
  valid_iff : s.mIsFvValid = true ↔ FreshnessValueState.HoldsFv s.requestCycle.state
  descends : s.mIsFvValid = true → ∃ fv, lastAdoption h = some fv ∧
    Shows s.toAFreshnessValueManagerImpl fv (after ticksPerIncrement (callsSinceAdoption h))

theorem Lineage.step (hlineage : Lineage s h) (hready : Ready s)
    (hstep : FvStep s op es s') : Lineage s' (es ++ h) := by
  cases hstep with
  | adopts csm signals hop hverified hes hbase hstate =>
    subst hes
    have hvalid : s'.mIsFvValid = true := by
      rw [hbase, AFreshnessValueManagerImpl.mIsFvValid_incTimers]
      rfl
    refine ⟨⟨fun _ => Or.inl hstate, fun _ => hvalid⟩, fun _ => ⟨_, rfl, ?_⟩⟩
    -- the call that adopts is the first tick of the new value
    have hstart : Shows (s.toAFreshnessValueManagerImpl.adoptFv
        (byteVectorToUint s.mCrAuthFvAndMac.1)) (byteVectorToUint s.mCrAuthFvAndMac.1)
        (after ticksPerIncrement 0) := by
      rw [after_zero]
      exact ⟨(UInt64.add_zero _).symm, rfl⟩
    rw [hbase]
    exact hstart.incTimers_after hready.mInitialized rfl
  | invalidates hop hfrom hes hbase hstate =>
    have hinvalid : s'.mIsFvValid = false := by
      rw [hbase, AFreshnessValueManagerImpl.mIsFvValid_incTimers]
      rfl
    refine ⟨?_, fun hvalid => ?_⟩
    · rw [hinvalid, hstate]
      simp [FreshnessValueState.HoldsFv]
    · rw [hinvalid] at hvalid
      cases hvalid
  | ticks hop hadoption hcompleted hbase hstate =>
    have hvalid : s'.mIsFvValid = s.mIsFvValid := by
      rw [hbase, AFreshnessValueManagerImpl.mIsFvValid_incTimers]
    refine ⟨?_, fun hvalid' => ?_⟩
    · rw [hvalid, hstate]
      exact hlineage.valid_iff
    · rw [hvalid] at hvalid'
      obtain ⟨fv, hlast, hshows⟩ := hlineage.descends hvalid'
      refine ⟨fv, ?_, ?_⟩
      · rw [lastAdoption_append hadoption]
        exact hlast
      · rw [hbase, callsSinceAdoption_append hadoption, hcompleted, Nat.add_comm]
        exact hshows.incTimers_after hready.mInitialized hvalid'
  | calls hop hadoption hcompleted hbase hstate =>
    refine ⟨?_, fun hvalid' => ?_⟩
    · rw [hbase.mIsFvValid, hstate]
      exact hlineage.valid_iff
    · rw [hbase.mIsFvValid] at hvalid'
      obtain ⟨fv, hlast, hshows⟩ := hlineage.descends hvalid'
      refine ⟨fv, ?_, ?_⟩
      · rw [lastAdoption_append hadoption]
        exact hlast
      · rw [callsSinceAdoption_append hadoption, hcompleted, Nat.zero_add]
        exact hshows.of_sameContext hbase

variable {P : Guard FreshnessValueManagerImplParticipant ParticipantOp ParticipantEvent}

/-- Run lemma: the lineage holds in every state after the first `Init`. -/
theorem lineage_of_run (hfirst : s₀.FirstInit) (hrun : Run participantStep P s₀ [] s h) :
    Ready s ∧ Lineage s h := by
  obtain ⟨hinit, hinvalid, -⟩ := hfirst.spec
  refine hrun.invariant (fun s h => Ready s ∧ Lineage s h) ⟨hinit.ready, ?_, ?_⟩ ?_
  · rw [hinvalid]
    show false = true ↔ FreshnessValueState.HoldsFv s₀.mFvStateManager.mCurrentFvState
    rw [hinit.current]
    simp [FreshnessValueState.HoldsFv]
  · intro hvalid
    rw [hinvalid] at hvalid
    cases hvalid
  · intro s h op s' es ⟨hready, hlineage⟩ _ hstep
    exact ⟨(requestCycle_step hready hstep).ready,
      hlineage.step hready (fvStep_of_step hready hstep)⟩

/-- An adoption is a successful verification. -/
theorem verified_of_fvStep (hstep : FvStep s op es s') {fv : UInt64} (hadopted : .adopted fv ∈ es) :
    ∃ csm signals, op = .mainFunction csm signals ∧ s.verifyRes csm = .ok .kSuccess := by
  cases hstep with
  | adopts csm signals hop hverified => exact ⟨csm, signals, hop, hverified⟩
  | invalidates hop hfrom hes =>
    subst hes
    simp at hadopted
  | ticks hop hadoption | calls hop hadoption =>
    have hnone := hadoption _ hadopted
    cases hnone

theorem mFV_processAnUnauthenticFv {result : ActionResult}
    (hresult : s.processAnUnauthenticFv = .ok result) : result.2.1.mFV = s.mFV := by
  rcases processAnUnauthenticFv_cases hresult with hresult | hresult
  · rw [hresult]
    rfl
  · rw [hresult]
    rfl

theorem mFV_incomingUnAuthFvSignalsCb (signal : String) (value : ByteVector) :
    (s.incomingUnAuthFvSignalsCb signal value).mFV = s.mFV := by
  unfold incomingUnAuthFvSignalsCb
  split
  · rfl
  · rfl

/-- **Lineage.**  In every state after the first `Init`, the freshness value of a
participant is valid exactly in `Idle` and `ProcessAnauthFV`, and then it is the
value that was adopted last plus one for every twenty calls of the main function
since, with the clock at the remainder.  Only a successful verification adopts, and
an unauthenticated broadcast changes the value neither when it comes in nor when it
is processed. -/
theorem participant_fv_lineage (hfirst : s₀.FirstInit)
    (hrun : Run participantStep Anything s₀ [] s h) :
    (s.mIsFvValid = true ↔ s.mFvStateManager.mCurrentFvState = some .idle ∨
      s.mFvStateManager.mCurrentFvState = some .processAnauthFV) ∧
    (s.mIsFvValid = true → ∃ fv, lastAdoption h = some fv ∧
      s.mFV.toNat = (fv.toNat + callsSinceAdoption h / 20) % 2 ^ 64 ∧
      s.mClockCount.toNat = 5 * (callsSinceAdoption h % 20)) ∧
    (∀ op s' es fv, participantStep s op = .ok (s', es) → .adopted fv ∈ es →
      ∃ csm signals, op = .mainFunction csm signals ∧ s.verifyRes csm = .ok .kSuccess) ∧
    (∀ signal value, (s.incomingUnAuthFvSignalsCb signal value).mFV = s.mFV) ∧
    ∀ result, s.processAnUnauthenticFv = .ok result → result.2.1.mFV = s.mFV := by
  obtain ⟨hready, hlineage⟩ := lineage_of_run hfirst hrun
  refine ⟨hlineage.valid_iff, ?_, ?_, mFV_incomingUnAuthFvSignalsCb, fun _ hresult =>
    mFV_processAnUnauthenticFv hresult⟩
  · intro hvalid
    obtain ⟨fv, hlast, hshows⟩ := hlineage.descends hvalid
    refine ⟨fv, hlast, ?_, hshows.mClockCount⟩
    rw [hshows.mFV, UInt64.toNat_add, UInt64.toNat_ofNat', Nat.add_mod_mod]
    rfl
  · intro op s' es fv hstep hadopted
    exact verified_of_fvStep (fvStep_of_step hready hstep) hadopted

/-- A response comes in and is adopted, and 24 calls later the value has moved on. -/
def adoptionOf (value : ByteVector) (calls : Nat) : List ParticipantOp :=
  [.mainFunction zeroDigestCsm reliableSignals,
    .incomingAuthFvSignal "SOK_Zeit_SINK_Zeit" value,
    .incomingAuthFvSignal "SOK_Zeit_SINK_Signatur" (.replicate 8 0)] ++
  .replicate calls (.mainFunction zeroDigestCsm reliableSignals)

theorem participant_fv_lineage_moved_on :
    ∃ s h, Run participantStep Anything firstParticipant [] s h ∧ s.mIsFvValid = true ∧
      ∃ fv, lastAdoption h = some fv ∧
        s.mFV.toNat = (fv.toNat + callsSinceAdoption h / 20) % 2 ^ 64 ∧
        s.mClockCount.toNat = 5 * (callsSinceAdoption h % 20) := by
  obtain ⟨s, h, hrun, hvalid⟩ : ∃ s h, Run participantStep Anything firstParticipant [] s h ∧
      (s.mIsFvValid = true ∧ s.mFV = 8 ∧ s.mClockCount = 20) :=
    Run.exists_of_exec (adoptionOf [0, 0, 0, 0, 0, 0, 0, 7] 24) (by decide +kernel)
  exact ⟨s, h, hrun, hvalid.1,
    (participant_fv_lineage firstInit_firstParticipant hrun).2.1 hvalid.1⟩

end Sok.Fvm
