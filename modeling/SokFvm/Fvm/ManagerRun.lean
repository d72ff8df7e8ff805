import SokFvm.Library.Run
import SokFvm.Fvm.Entries

/-!
# Runs of the freshness value manager

The manager as a machine.  An input is one call from outside, one tick of the
clock, or one of the two ways in which a participant's main function changes the
freshness value: it adopts a new one, or it drops the validity of the present
one.  Server and participant do nothing else to the state of this module between
`Init` and `Deinit`.

A run starts in a state that `Init` leaves behind, `FreshlyInitialised`.  That
predicate says nothing about the freshness value and its validity, because a
server starts with a random valid value and a participant with none.

`managerStep_effect` is the one case distinction over the inputs.  The
invariants that the freshness properties share, `Tracked`, follow from it: the
configuration stays, an entry of the attribute table stays, and the time of its
first use is not in the future as long as the clock does not wrap around.
-/

namespace Sok.Fvm

open Sok.Common StateMachine AFreshnessValueManagerImpl

/-- The inputs of a manager. -/
inductive ManagerOp
  | getRxFreshness (id : SokFreshnessValueId) (truncated : FVContainer) (attempts : UInt16)
  | getTxFreshness (id : SokFreshnessValueId)
  | verificationStatusCallout (status : SecOCVerificationStatusType)
  | sPduTxConfirmation (id : SokFreshnessValueId)
  | triggerCrRequest (csm : ICsmAccessor) (signals : ISignalManager) (id : SokFreshnessValueId)
  | offerCrRequest (id : SokFreshnessValueId) (cb : ChallengeReceivedIndicationCb)
  | incomingChallengeSignal (signal : String) (challenge : ByteVector)
  | incTimers
  /-- `mFV = fv; mIsFvValid = true; mClockCount = 0`. -/
  | adoptFv (fv : UInt64)
  /-- `mIsFvValid = false`. -/
  | invalidateFv

/-- The calls to a manager from outside. -/
def ManagerOp.isCall : ManagerOp → Bool
  | .incTimers | .adoptFv _ | .invalidateFv => false
  | _ => true

/-- A call from outside. -/
abbrev ManagerCall := { op : ManagerOp // op.isCall = true }

/-- The answers of the two freshness interfaces. -/
inductive ManagerEvent
  | rx (id : SokFreshnessValueId) (truncated : FVContainer) (attempts : UInt16)
      (result : FreshnessResult)
  | tx (id : SokFreshnessValueId) (result : FreshnessResult)

namespace AFreshnessValueManagerImpl

def adoptFv (s : AFreshnessValueManagerImpl) (fv : UInt64) : AFreshnessValueManagerImpl :=
  { s with mFV := fv, mIsFvValid := true, mClockCount := 0 }

def invalidateFv (s : AFreshnessValueManagerImpl) : AFreshnessValueManagerImpl :=
  { s with mIsFvValid := false }

end AFreshnessValueManagerImpl

/-- The state after an input, and the answer when the input is a freshness
request. -/
def managerNext (s : AFreshnessValueManagerImpl) :
    ManagerOp → AFreshnessValueManagerImpl × List ManagerEvent
  | .getRxFreshness id truncated attempts =>
    let answer := s.getRxFreshness id truncated attempts
    (answer.2, [.rx id truncated attempts answer.1])
  | .getTxFreshness id =>
    let answer := s.getTxFreshness id
    (answer.2, [.tx id answer.1])
  | .verificationStatusCallout status => (s.verificationStatusCallout status, [])
  | .sPduTxConfirmation id => (s.sPduTxConfirmation id, [])
  | .triggerCrRequest csm signals id => ((s.triggerCrRequest csm signals id).2, [])
  | .offerCrRequest id cb => ((s.offerCrRequest id cb).2, [])
  | .incomingChallengeSignal signal challenge =>
    ((s.incomingChallengeSignalCb signal challenge).2, [])
  | .incTimers => (s.incTimers, [])
  | .adoptFv fv => (s.adoptFv fv, [])
  | .invalidateFv => (s.invalidateFv, [])

/-- The manager as a machine. No input faults. -/
def managerStep : Machine AFreshnessValueManagerImpl ManagerOp ManagerEvent Fault :=
  fun s op => .ok (managerNext s op)

/-- An input without an answer is a run that leaves the history alone. -/
theorem managerRun_silent {t t' : AFreshnessValueManagerImpl} (op : ManagerOp)
    (hnext : managerNext t op = (t', [])) (g : List ManagerEvent) :
    Run managerStep Anything t g t' g := by
  have hstep : managerStep t op = .ok (t', []) := congrArg Except.ok hnext
  exact Run.single trivial hstep

/-! ## The start of a run -/

/-- A state that `Init` leaves behind. -/
structure FreshlyInitialised (s : AFreshnessValueManagerImpl) : Prop where
  mInitialized : s.mInitialized = true
  accessor : s.mFvmConfAccessor.mInitialized = true
  mTimeSinceInit : s.mTimeSinceInit = 0
  mFvRxCandidates : s.mFvRxCandidates = ∅
  mAttrMgr : s.mAttrMgr = FvmRuntimeAttributesManager.init s.mFvmConfAccessor ⟨∅⟩

/-- The manager as `Init` leaves it, before the server or the participant sets
up its own part. -/
def initialisedManager (accessor : FreshnessValueManagerConfigAccessor) :
    AFreshnessValueManagerImpl :=
  { mInitialized := true
    mIsFvValid := false
    mTimeSinceInit := 0
    mClockCount := 0
    mFV := 0
    mActiveOutgoingChallenges := ∅
    mActiveIncomingChallenges := ∅
    mChallengeSignalToFvId := ∅
    mFvIdToNotificationCallback := ∅
    mFvRxCandidates := ∅
    mAttrMgr := FvmRuntimeAttributesManager.init accessor ⟨∅⟩
    mFvmConfAccessor := accessor }

theorem freshlyInitialised_initialisedManager {accessor : FreshnessValueManagerConfigAccessor}
    (haccessor : accessor.mInitialized = true) :
    FreshlyInitialised (initialisedManager accessor) :=
  ⟨rfl, haccessor, rfl, rfl, rfl⟩

theorem FreshlyInitialised.candidates {s : AFreshnessValueManagerImpl}
    (hinit : FreshlyInitialised s) (id : SokFreshnessValueId) : s.candidates id = none := by
  unfold AFreshnessValueManagerImpl.candidates
  rw [hinit.mFvRxCandidates]
  rfl

/-- The entries of a freshly initialised manager are fresh. -/
theorem FreshlyInitialised.attributes {s : AFreshnessValueManagerImpl}
    (hinit : FreshlyInitialised s) {id : SokFreshnessValueId} {a : SokFmRuntimeAttributes}
    (ha : s.attributes id = some a) :
    a = FvmRuntimeAttributesManager.freshAttributes s.mFvmConfAccessor id := by
  unfold AFreshnessValueManagerImpl.attributes at ha
  rw [hinit.mAttrMgr, FvmRuntimeAttributesManager.entry_init] at ha
  split at ha
  · exact (Option.some.inj ha).symm
  · cases ha

/-! ## The effect of one step -/

/-- What every input does: it keeps the configuration, it leaves the clock alone
unless it is a tick, and it lets every attribute entry evolve. -/
structure StepEffect (s : AFreshnessValueManagerImpl) (op : ManagerOp)
    (s' : AFreshnessValueManagerImpl) : Prop where
  mInitialized : s'.mInitialized = s.mInitialized
  mFvmConfAccessor : s'.mFvmConfAccessor = s.mFvmConfAccessor
  mTimeSinceInit : s'.mTimeSinceInit = s.mTimeSinceInit ∨
    op = .incTimers ∧ s'.mTimeSinceInit = s.mTimeSinceInit + sokFmMainFunctionPeriodMs.toUInt64
  evolves : ∀ id a, s.attributes id = some a →
    ∃ a', s'.attributes id = some a' ∧ Evolves s.mTimeSinceInit a a'

variable {s s' : AFreshnessValueManagerImpl} {id : SokFreshnessValueId} {op : ManagerOp}

theorem StepEffect.ofWorksOn (hworks : WorksOn s s' id) : StepEffect s op s' where
  mInitialized := hworks.context.mInitialized
  mFvmConfAccessor := hworks.context.mFvmConfAccessor
  mTimeSinceInit := Or.inl hworks.context.mTimeSinceInit
  evolves id' a ha := by
    by_cases hid : id' = id
    · subst hid
      exact hworks.evolves a ha
    · exact ⟨a, (hworks.others id' hid).attributes.trans ha, Evolves.refl _ a⟩

theorem StepEffect.ofLeavesEntries (hleaves : LeavesEntries s s') : StepEffect s op s' where
  mInitialized := hleaves.context.mInitialized
  mFvmConfAccessor := hleaves.context.mFvmConfAccessor
  mTimeSinceInit := Or.inl hleaves.context.mTimeSinceInit
  evolves id a ha := ⟨a, (hleaves.entries id).attributes.trans ha, Evolves.refl _ a⟩

/-- A tick changes the clock and the freshness value only. -/
theorem incTimers_eq : s.incTimers = { s with
    mTimeSinceInit := s.incTimers.mTimeSinceInit
    mClockCount := s.incTimers.mClockCount
    mFV := s.incTimers.mFV } := by
  unfold incTimers
  split
  · rfl
  · dsimp only
    split
    · rfl
    · rfl

theorem stepEffect_incTimers : StepEffect s .incTimers s.incTimers := by
  unfold incTimers
  split
  · exact ⟨rfl, rfl, Or.inl rfl, fun _ a ha => ⟨a, ha, Evolves.refl _ a⟩⟩
  · dsimp only
    split
    · exact ⟨rfl, rfl, Or.inr ⟨rfl, rfl⟩, fun _ a ha => ⟨a, ha, Evolves.refl _ a⟩⟩
    · exact ⟨rfl, rfl, Or.inr ⟨rfl, rfl⟩, fun _ a ha => ⟨a, ha, Evolves.refl _ a⟩⟩

/-- The case distinction over the inputs. -/
theorem managerNext_effect (op : ManagerOp) : StepEffect s op (managerNext s op).1 := by
  cases op with
  | getRxFreshness id truncated attempts => exact .ofWorksOn worksOn_getRxFreshness
  | getTxFreshness id => exact .ofWorksOn worksOn_getTxFreshness
  | verificationStatusCallout status => exact .ofWorksOn worksOn_verificationStatusCallout
  | sPduTxConfirmation id => exact .ofWorksOn worksOn_sPduTxConfirmation
  | triggerCrRequest csm signals id => exact .ofLeavesEntries leavesEntries_triggerCrRequest
  | offerCrRequest id cb => exact .ofLeavesEntries leavesEntries_offerCrRequest
  | incomingChallengeSignal signal challenge =>
    exact .ofLeavesEntries leavesEntries_incomingChallengeSignalCb
  | incTimers => exact stepEffect_incTimers
  | adoptFv fv => exact ⟨rfl, rfl, Or.inl rfl, fun _ a ha => ⟨a, ha, Evolves.refl _ a⟩⟩
  | invalidateFv => exact ⟨rfl, rfl, Or.inl rfl, fun _ a ha => ⟨a, ha, Evolves.refl _ a⟩⟩

theorem managerStep_effect {es : List ManagerEvent}
    (hstep : managerStep s op = .ok (s', es)) : StepEffect s op s' := by
  have hnext := managerNext_effect (s := s) op
  rw [Except.ok.inj hstep] at hnext
  exact hnext

/-- The identifier whose entries an input works on. -/
def ManagerOp.subject : ManagerOp → Option SokFreshnessValueId
  | .getRxFreshness id _ _ | .getTxFreshness id | .sPduTxConfirmation id => some id
  | .verificationStatusCallout status => some status.fvId
  | .triggerCrRequest _ _ _ | .offerCrRequest _ _ | .incomingChallengeSignal _ _ | .incTimers
  | .adoptFv _ | .invalidateFv => none

/-- An input leaves the entries of the other identifiers alone. -/
theorem sameEntries_managerNext (hsubject : op.subject ≠ some id) :
    SameEntries s (managerNext s op).1 id := by
  have hne : ∀ id', op.subject = some id' → id ≠ id' := by
    rintro id' hop rfl
    exact hsubject hop
  cases op with
  | getRxFreshness id' truncated attempts => exact worksOn_getRxFreshness.others id (hne id' rfl)
  | getTxFreshness id' => exact worksOn_getTxFreshness.others id (hne id' rfl)
  | verificationStatusCallout status =>
    exact worksOn_verificationStatusCallout.others id (hne status.fvId rfl)
  | sPduTxConfirmation id' => exact worksOn_sPduTxConfirmation.others id (hne id' rfl)
  | triggerCrRequest csm signals id' => exact leavesEntries_triggerCrRequest.entries id
  | offerCrRequest id' cb => exact leavesEntries_offerCrRequest.entries id
  | incomingChallengeSignal signal challenge =>
    exact leavesEntries_incomingChallengeSignalCb.entries id
  | incTimers =>
    show SameEntries s s.incTimers id
    rw [incTimers_eq]
    exact ⟨rfl, rfl⟩
  | adoptFv fv => exact ⟨rfl, rfl⟩
  | invalidateFv => exact ⟨rfl, rfl⟩

/-! ## What every run keeps -/

/-- What is known of an identifier with an attribute entry in every state of a
run from `s₀`. -/
structure Tracked (s₀ : AFreshnessValueManagerImpl) (id : SokFreshnessValueId)
    (s : AFreshnessValueManagerImpl) : Prop where
  mInitialized : s.mInitialized = true
  mFvmConfAccessor : s.mFvmConfAccessor = s₀.mFvmConfAccessor
  entry : ∃ a, s.attributes id = some a ∧
    a.sessionCounterLength =
      (FvmRuntimeAttributesManager.freshAttributes s₀.mFvmConfAccessor id).sessionCounterLength ∧
    a.sessionCounterLastUsed.length = a.sessionCounterLength.toNat

variable {s₀ : AFreshnessValueManagerImpl} {h₀ h : List ManagerEvent}
variable {P : Guard AFreshnessValueManagerImpl ManagerOp ManagerEvent}

theorem FreshlyInitialised.tracked (hinit : FreshlyInitialised s₀)
    (hentry : (s₀.attributes id).isSome) : Tracked s₀ id s₀ := by
  obtain ⟨a, ha⟩ := Option.isSome_iff_exists.mp hentry
  refine ⟨hinit.mInitialized, rfl, a, ha, ?_⟩
  rw [hinit.attributes ha]
  exact ⟨rfl, List.length_replicate⟩

theorem Tracked.step {es : List ManagerEvent} (htracked : Tracked s₀ id s)
    (hstep : managerStep s op = .ok (s', es)) : Tracked s₀ id s' := by
  have heffect := managerStep_effect hstep
  obtain ⟨a, ha, hlength, hbytes⟩ := htracked.entry
  obtain ⟨a', ha', hevolves⟩ := heffect.evolves id a ha
  refine ⟨heffect.mInitialized.trans htracked.mInitialized,
    heffect.mFvmConfAccessor.trans htracked.mFvmConfAccessor, a', ha', ?_, ?_⟩
  · exact hevolves.counterLength.trans hlength
  · rw [hevolves.counterBytes, hbytes, hevolves.counterLength]

/-- Run lemma: an identifier with an entry is tracked in every state. -/
theorem tracked_of_run (hinit : FreshlyInitialised s₀) (hentry : (s₀.attributes id).isSome)
    (hrun : Run managerStep P s₀ h₀ s h) : Tracked s₀ id s :=
  hrun.stateInvariant (Tracked s₀ id) (hinit.tracked hentry)
    fun _ _ _ _ _ htracked _ hstep => htracked.step hstep

/-- The clock is not about to wrap around. -/
def ClockHolds : Guard AFreshnessValueManagerImpl ManagerOp ManagerEvent := fun s _ op =>
  op = .incTimers → s.mTimeSinceInit.toNat + sokFmMainFunctionPeriodMs.toNat < 2 ^ 64

/-- The time of the first use of an identifier is not in the future. -/
def FirstUseInPast (id : SokFreshnessValueId) (s : AFreshnessValueManagerImpl) : Prop :=
  ∀ a, s.attributes id = some a → a.valueIsActive = true → a.firstUsed ≤ s.mTimeSinceInit

/-- The clock does not run backwards in a step that does not wrap it around. -/
theorem time_le_of_step {es : List ManagerEvent} (hclock : ClockHolds s h op)
    (hstep : managerStep s op = .ok (s', es)) : s.mTimeSinceInit ≤ s'.mTimeSinceInit := by
  rcases (managerStep_effect hstep).mTimeSinceInit with htime | ⟨hop, htime⟩
  · rw [htime]
    exact UInt64.le_refl _
  · have hlt := hclock hop
    have hperiod : sokFmMainFunctionPeriodMs.toUInt64.toNat = sokFmMainFunctionPeriodMs.toNat :=
      rfl
    rw [htime, UInt64.le_iff_toNat_le, UInt64.toNat_add, hperiod, Nat.mod_eq_of_lt hlt]
    omega

theorem FirstUseInPast.step {es : List ManagerEvent} (hpast : FirstUseInPast id s)
    (hsome : (s.attributes id).isSome) (hclock : ClockHolds s h op)
    (hstep : managerStep s op = .ok (s', es)) : FirstUseInPast id s' := by
  intro a' ha' hactive'
  have hle := time_le_of_step hclock hstep
  obtain ⟨a, ha⟩ := Option.isSome_iff_exists.mp hsome
  obtain ⟨b, hb, hevolves⟩ := (managerStep_effect hstep).evolves id a ha
  have hba : b = a' := Option.some.inj (hb.symm.trans ha')
  subst hba
  cases hactive : a.valueIsActive with
  | false =>
    rw [hevolves.activated hactive hactive']
    exact hle
  | true =>
    rw [(hevolves.active hactive).2]
    exact UInt64.le_trans (hpast a ha hactive) hle

/-- Run lemma: the first use stays in the past while the clock holds. -/
theorem firstUseInPast_of_run (hinit : FreshlyInitialised s₀)
    (hentry : (s₀.attributes id).isSome) (hclock : ∀ s h op, P s h op → ClockHolds s h op)
    (hrun : Run managerStep P s₀ h₀ s h) : FirstUseInPast id s := by
  have hboth : Tracked s₀ id s ∧ FirstUseInPast id s := by
    refine hrun.stateInvariant (fun s => Tracked s₀ id s ∧ FirstUseInPast id s)
      ⟨hinit.tracked hentry, ?_⟩ ?_
    · intro a ha hactive
      rw [hinit.attributes ha] at hactive
      cases hactive
    · intro s h op s' es hinv hmeets hstep
      obtain ⟨a, ha, -⟩ := hinv.1.entry
      refine ⟨hinv.1.step hstep, hinv.2.step ?_ (hclock s h op hmeets) hstep⟩
      rw [ha]
      rfl
  exact hboth.2

theorem mTimeSinceInit_incTimers (hinit : s.mInitialized = true) :
    s.incTimers.mTimeSinceInit = s.mTimeSinceInit + sokFmMainFunctionPeriodMs.toUInt64 := by
  have hgo : ¬ (!s.mInitialized) = true := by
    rw [hinit]
    decide
  unfold incTimers
  rw [if_neg hgo]
  dsimp only
  split
  · rfl
  · rfl

/-- `n` ticks are a run, and they take `n` periods. -/
theorem run_incTimers (hinit : s.mInitialized = true) (n : Nat)
    (hclock : s.mTimeSinceInit.toNat + n * sokFmMainFunctionPeriodMs.toNat < 2 ^ 64) :
    Run managerStep ClockHolds s h (AFreshnessValueManagerImpl.incTimers^[n] s) h ∧
      (AFreshnessValueManagerImpl.incTimers^[n] s).mInitialized = true ∧
      (AFreshnessValueManagerImpl.incTimers^[n] s).mTimeSinceInit.toNat =
        s.mTimeSinceInit.toNat + n * sokFmMainFunctionPeriodMs.toNat := by
  induction n with
  | zero =>
    rw [Nat.zero_mul]
    exact ⟨.refl, hinit, rfl⟩
  | succ n ih =>
    rw [Nat.succ_mul] at hclock ⊢
    obtain ⟨hrun, hinit', htime⟩ := ih (by omega)
    rw [Function.iterate_succ_apply']
    have hperiod : sokFmMainFunctionPeriodMs.toUInt64.toNat = sokFmMainFunctionPeriodMs.toNat :=
      rfl
    have hholds : ClockHolds (incTimers^[n] s) h .incTimers := by
      intro _
      omega
    refine ⟨hrun.step hholds rfl, stepEffect_incTimers.mInitialized.trans hinit', ?_⟩
    rw [mTimeSinceInit_incTimers hinit', UInt64.toNat_add, hperiod, htime,
      Nat.mod_eq_of_lt (by omega)]
    omega

end Sok.Fvm
