import SokFvm.Fvm.ManagerRun
import SokFvm.Fvm.Participant

/-!
# Runs of a participant

The participant as a machine.  An input is a call of the main function, a signal
of the freshness value distribution with arbitrary bytes, or any other call to
the manager.  The crypto service and the signal manager come with each call of
the main function, so that a run may have failing random generators, failing
publications and any MAC.

`RequestCycle` is what the distribution protocol of the participant is about:
the state, how long the participant has waited, the challenge, and the two
halves of the response.  Its steps are the transitions of the state diagram, one
constructor for each.  `requestCycle_step` is the refinement: every step of an
initialised participant is one of them.  The properties of the protocol are
invariants of the cycle and its events, and `cycleInvariant_of_run` carries them
to the participant.

Towards the base class a participant is a manager whose freshness value is
adopted and invalidated from time to time, `managerRun_of_participantRun`.
-/

namespace Sok.Fvm

open Sok.Common StateMachine FreshnessValueManagerImplParticipant

/-- The inputs of a participant. -/
inductive ParticipantOp
  | mainFunction (csm : ICsmAccessor) (signals : ISignalManager)
  | incomingAuthFvSignal (signal : String) (value : ByteVector)
  | incomingUnAuthFvSignal (signal : String) (value : ByteVector)
  | call (call : ManagerCall)

/-- The participant as a machine. -/
def participantStep :
    Machine FreshnessValueManagerImplParticipant ParticipantOp ParticipantEvent Fault := fun s op =>
  match op with
  | .mainFunction csm signals => (s.mainFunction csm signals).map Prod.snd
  | .incomingAuthFvSignal signal value => .ok (s.incomingAuthFvSignalsCb signal value)
  | .incomingUnAuthFvSignal signal value => .ok (s.incomingUnAuthFvSignalsCb signal value, [])
  | .call call => .ok ({ s with
      toAFreshnessValueManagerImpl := (managerNext s.toAFreshnessValueManagerImpl call.1).1 }, [])

theorem mainFunction_of_step {s s' : FreshnessValueManagerImplParticipant}
    {es : List ParticipantEvent} {csm : ICsmAccessor} {signals : ISignalManager}
    (hstep : participantStep s (.mainFunction csm signals) = .ok (s', es)) :
    ∃ ret, s.mainFunction csm signals = .ok (ret, s', es) :=
  exists_of_map_snd hstep

/-! ## The start of a run -/

/-- A participant after `Init`: all states are registered and it is about to ask
for a freshness value. -/
structure InitialisedParticipant (s : FreshnessValueManagerImplParticipant) : Prop where
  mInitialized : s.mInitialized = true
  registered : s.mFvStateManager.AllRegistered StateAction.ofState
  current : s.mFvStateManager.mCurrentFvState = some .requestFV

/-- What the constructor and a successful `serverOrParticipantInit` leave behind. -/
theorem initialisedParticipant_of_init {base : AFreshnessValueManagerImpl} {csm : ICsmAccessor}
    {signals : ISignalManager} (hinit : base.mInitialized = true)
    (hret : ((construct base).serverOrParticipantInit csm signals).1 = true) :
    InitialisedParticipant ((construct base).serverOrParticipantInit csm signals).2 := by
  unfold serverOrParticipantInit at hret ⊢
  dsimp only at hret ⊢
  split at hret
  · cases hret
  · rename_i hkey
    rw [if_neg hkey]
    refine ⟨hinit, ?_, rfl⟩
    intro state
    cases state with
    | requestFV => rfl
    | fvInProgress => rfl
    | processFV => rfl
    | processAnauthFV => rfl
    | idle => rfl

/-- Crypto providers whose digests are zero, for runs on concrete inputs. -/
def zeroDigestCrypto : AraCrypto := .ofDigest (fun _ => Vector.replicate 16 0) 7

def zeroDigestCsm : ICsmAccessor := CsmAccessorAraCrypto.toICsmAccessor zeroDigestCrypto

/-- A signal manager that never fails, for runs on concrete inputs. -/
def reliableSignals : ISignalManager :=
  { subscribe := fun _ => .kSuccess, publish := fun _ _ => .kSuccess }

/-- An initialised participant, for runs on concrete inputs. -/
def sinkParticipant : FreshnessValueManagerImplParticipant :=
  ((construct (initialisedManager (.ofDistribution "SINK" 123))).serverOrParticipantInit
    zeroDigestCsm reliableSignals).2

theorem initialisedParticipant_sinkParticipant : InitialisedParticipant sinkParticipant :=
  initialisedParticipant_of_init rfl rfl

/-! ## The request cycle -/

structure RequestCycle where
  state : Option FreshnessValueState
  waited : Nat
  challenge : ByteVector
  value : ByteVector
  signature : ByteVector

namespace RequestCycle

/-- A request is outstanding. -/
def Outstanding (c : RequestCycle) : Prop :=
  c.state = some .fvInProgress ∨ c.state = some .processFV

theorem not_outstanding {c : RequestCycle} {state : FreshnessValueState}
    (hstate : c.state = some state) (hne : state ≠ .fvInProgress ∧ state ≠ .processFV) :
    ¬ c.Outstanding := by
  intro houtstanding
  rw [Outstanding, hstate] at houtstanding
  rcases houtstanding with h | h
  · exact hne.1 (Option.some.inj h)
  · exact hne.2 (Option.some.inj h)

/-- Both halves of the response are there. -/
def Complete (c : RequestCycle) : Prop :=
  c.value ≠ [] ∧ c.signature ≠ []

instance (c : RequestCycle) : Decidable c.Complete :=
  inferInstanceAs (Decidable (_ ∧ _))

/-- After a signal the state manager reacts if both halves are there. -/
def react (c : RequestCycle) : RequestCycle :=
  if c.Complete then { c with state := c.state.map FreshnessValueStateManager.onFvRes } else c

theorem react_eq (c : RequestCycle) :
    c.react = { c with state := c.react.state } := by
  unfold react
  split
  · rfl
  · rfl

theorem state_react_of_complete {c : RequestCycle} (hcomplete : c.Complete) :
    c.react.state = c.state.map FreshnessValueStateManager.onFvRes := by
  rw [react, if_pos hcomplete]

theorem react_of_not_complete {c : RequestCycle} (hcomplete : ¬ c.Complete) : c.react = c :=
  if_neg hcomplete

/-- A reaction of the state manager neither starts nor ends a request. -/
theorem outstanding_onFvRes {c : RequestCycle} :
    Outstanding { c with state := c.state.map FreshnessValueStateManager.onFvRes } ↔
      c.Outstanding := by
  unfold Outstanding
  cases c.state with
  | none => simp
  | some state => cases state <;> simp [FreshnessValueStateManager.onFvRes]

theorem outstanding_react {c : RequestCycle} : c.react.Outstanding ↔ c.Outstanding := by
  unfold react
  split
  · exact outstanding_onFvRes
  · exact Iff.rfl

/-- The transitions, with their events. -/
inductive Step : RequestCycle → List ParticipantEvent → RequestCycle → Prop
  | publish {c : RequestCycle} (challenge : ByteVector) (hstate : c.state = some .requestFV)
      (hlength : challenge.length = challengeLengthBytes.toNat) :
      Step c [.mainFunctionCompleted, .published challenge]
        { c with state := some .fvInProgress, waited := 0, challenge := challenge }
  | fail {c : RequestCycle} (hstate : c.state = some .requestFV) :
      Step c [.mainFunctionCompleted] c
  | wait {c : RequestCycle} (hstate : c.state = some .fvInProgress)
      (hwait : c.waited + sokFmMainFunctionPeriodMs.toNat ≤ sokFmTimeRequestTimeoutMs.toNat) :
      Step c [.mainFunctionCompleted]
        { c with waited := c.waited + sokFmMainFunctionPeriodMs.toNat }
  | timeout {c : RequestCycle} (hstate : c.state = some .fvInProgress)
      (hwait : sokFmTimeRequestTimeoutMs.toNat < c.waited + sokFmMainFunctionPeriodMs.toNat) :
      Step c [.mainFunctionCompleted]
        { c with
          state := some .requestFV
          waited := c.waited + sokFmMainFunctionPeriodMs.toNat }
  | adopt {c : RequestCycle} (fv : UInt64) (hstate : c.state = some .processFV) :
      Step c [.mainFunctionCompleted, .adopted fv]
        { c with state := some .idle, value := [], signature := [] }
  | reject {c : RequestCycle} (hstate : c.state = some .processFV) :
      Step c [.mainFunctionCompleted, .rejected]
        { c with state := some .fvInProgress, value := [], signature := [] }
  | agree {c : RequestCycle} (hstate : c.state = some .processAnauthFV) :
      Step c [.mainFunctionCompleted] { c with state := some .idle }
  | drift {c : RequestCycle} (hstate : c.state = some .processAnauthFV) :
      Step c [.mainFunctionCompleted] { c with state := some .requestFV }
  | rest {c : RequestCycle} (hstate : c.state = some .idle) :
      Step c [.mainFunctionCompleted] c
  | value {c : RequestCycle} (bytes : ByteVector) :
      Step c [.valueReceived bytes] ({ c with value := bytes } : RequestCycle).react
  | signature {c : RequestCycle} (bytes : ByteVector) :
      Step c [.signatureReceived bytes] ({ c with signature := bytes } : RequestCycle).react
  | otherSignal {c : RequestCycle} : Step c [] c.react
  | unauthentic {c : RequestCycle} (hstate : c.state = some .idle) :
      Step c [] { c with state := some .processAnauthFV }
  | other {c : RequestCycle} : Step c [] c

variable {c c' : RequestCycle} {es : List ParticipantEvent}

theorem Step.requests (hstep : Step c es c') {challenge : ByteVector}
    (hpublished : .published challenge ∈ es) :
    c.state = some .requestFV ∧ .mainFunctionCompleted ∈ es := by
  cases hstep with
  | publish challenge hstate hlength => exact ⟨hstate, List.mem_cons_self⟩
  | _ => simp at hpublished

theorem Step.verifies (hstep : Step c es c') (hevent : .rejected ∈ es ∨ ∃ fv, .adopted fv ∈ es) :
    c.state = some .processFV ∧ .mainFunctionCompleted ∈ es := by
  cases hstep with
  | adopt fv hstate => exact ⟨hstate, List.mem_cons_self⟩
  | reject hstate => exact ⟨hstate, List.mem_cons_self⟩
  | _ => simp at hevent

end RequestCycle

/-- The request cycle of a participant. -/
def FreshnessValueManagerImplParticipant.requestCycle (s : FreshnessValueManagerImplParticipant) :
    RequestCycle where
  state := s.mFvStateManager.mCurrentFvState
  waited := s.mTimeSinceAuthFvReq.toNat
  challenge := s.mActiveFvChallenge
  value := s.mCrAuthFvAndMac.1
  signature := s.mCrAuthFvAndMac.2

/-! ## The refinement -/

/-- What every step of a participant relies on. -/
structure Ready (s : FreshnessValueManagerImplParticipant) : Prop where
  mInitialized : s.mInitialized = true
  registered : s.mFvStateManager.AllRegistered StateAction.ofState
  current : s.mFvStateManager.mCurrentFvState.isSome
  waited : s.requestCycle.Outstanding → s.requestCycle.waited ≤ sokFmTimeRequestTimeoutMs.toNat

variable {s s' s₀ : FreshnessValueManagerImplParticipant} {op : ParticipantOp}
variable {es h : List ParticipantEvent} {csm : ICsmAccessor} {signals : ISignalManager}

theorem InitialisedParticipant.ready (hinit : InitialisedParticipant s) : Ready s := by
  refine ⟨hinit.mInitialized, hinit.registered, by rw [hinit.current]; rfl, ?_⟩
  intro houtstanding
  exact absurd houtstanding (RequestCycle.not_outstanding hinit.current (by decide))

/-- A step that refines a transition of the cycle and can be continued. -/
structure Transition (s : FreshnessValueManagerImplParticipant) (es : List ParticipantEvent)
    (s' : FreshnessValueManagerImplParticipant) : Prop where
  step : RequestCycle.Step s.requestCycle es s'.requestCycle
  ready : Ready s'

/-- An action that ends with `transiteTo`. -/
theorem Transition.move (hready : Ready s) {t : FreshnessValueManagerImplParticipant}
    {state : FreshnessValueState} (hinit : t.mInitialized = s.mInitialized)
    (hmanager : t.mFvStateManager = s.mFvStateManager)
    (hstep : RequestCycle.Step s.requestCycle es { t.requestCycle with state := some state })
    (hwaited : state = .fvInProgress ∨ state = .processFV →
      t.requestCycle.waited ≤ sokFmTimeRequestTimeoutMs.toNat) :
    Transition s es (t.transiteTo state) := by
  have hregistered : t.mFvStateManager.AllRegistered StateAction.ofState := by
    rw [hmanager]
    exact hready.registered
  have hcurrent := hregistered.current_transiteTo state
  have hcycle : (t.transiteTo state).requestCycle =
      { t.requestCycle with state := some state } := by
    unfold FreshnessValueManagerImplParticipant.requestCycle transiteTo
    dsimp only
    rw [hcurrent]
  refine ⟨by rw [hcycle]; exact hstep, hinit.trans hready.mInitialized,
    hregistered.transiteTo state, ?_, ?_⟩
  · show (t.mFvStateManager.transiteTo state).mCurrentFvState.isSome
    rw [hcurrent]
    rfl
  · intro houtstanding
    rw [hcycle] at houtstanding
    apply hwaited
    rcases houtstanding with h | h
    · exact Or.inl (Option.some.inj h)
    · exact Or.inr (Option.some.inj h)

theorem transition_requestAnAuthenticFv (hready : Ready s)
    (hstate : s.requestCycle.state = some .requestFV) :
    Transition s (.mainFunctionCompleted :: (s.requestAnAuthenticFv csm signals).2.2)
      (s.requestAnAuthenticFv csm signals).2.1 := by
  unfold requestAnAuthenticFv
  split
  · exact ⟨.fail hstate, hready⟩
  · rename_i challenge hrandom
    dsimp only
    split
    · have hlength := csm.length_generateRandomBytes _ _ hrandom
      dsimp only
      exact .move hready rfl rfl (.publish challenge hstate hlength) fun _ => Nat.zero_le _
    · exact ⟨.fail hstate, hready⟩

theorem transition_waitForAnAuthenticFv (hready : Ready s)
    (hstate : s.requestCycle.state = some .fvInProgress) :
    Transition s (.mainFunctionCompleted :: s.waitForAnAuthenticFv.2.2)
      s.waitForAnAuthenticFv.2.1 := by
  have hwaited : s.mTimeSinceAuthFvReq.toNat ≤ 250 := hready.waited (Or.inl hstate)
  have hperiod : sokFmMainFunctionPeriodMs.toUInt32.toNat = 5 := rfl
  have htimeout : sokFmTimeRequestTimeoutMs.toUInt32.toNat = 250 := rfl
  -- the counter of an outstanding request is far from wrapping around
  have hsum : (s.mTimeSinceAuthFvReq + sokFmMainFunctionPeriodMs.toUInt32).toNat =
      s.requestCycle.waited + sokFmMainFunctionPeriodMs.toNat := by
    rw [UInt32.toNat_add, hperiod, Nat.mod_eq_of_lt (by omega)]
    rfl
  have hcycle : ({ s with mTimeSinceAuthFvReq :=
        s.mTimeSinceAuthFvReq + sokFmMainFunctionPeriodMs.toUInt32 } :
        FreshnessValueManagerImplParticipant).requestCycle =
      { s.requestCycle with
        waited := s.requestCycle.waited + sokFmMainFunctionPeriodMs.toNat } := by
    rw [← hsum]
    rfl
  unfold waitForAnAuthenticFv
  dsimp only
  split
  · rename_i hlt
    rw [UInt32.lt_iff_toNat_lt, hsum, htimeout] at hlt
    refine .move hready rfl rfl ?_ fun h => absurd h (by decide)
    rw [hcycle]
    exact .timeout hstate hlt
  · rename_i hle
    rw [UInt32.lt_iff_toNat_lt, hsum, htimeout, Nat.not_lt] at hle
    refine ⟨?_, hready.mInitialized, hready.registered, hready.current, ?_⟩
    · rw [hcycle]
      exact .wait hstate hle
    · intro _
      rw [hcycle]
      exact hle

/-- Where `processAnAuthenticFv` leads: the crypto accessor decides. -/
theorem processAnAuthenticFv_cases {result : ActionResult}
    (hresult : s.processAnAuthenticFv csm = .ok result) :
    s.mCrAuthFvAndMac.1 ≠ [] ∧ ∃ code, s.verifyRes csm = .ok code ∧
      (code = .kSuccess ∧
          result = (.kSuccess, s.adoptAuthenticFv.clearCrAuthFvAndMac.transiteTo .idle,
            [.adopted (byteVectorToUint s.mCrAuthFvAndMac.1)]) ∨
        code ≠ .kSuccess ∧
          result = (.kSuccess, s.clearCrAuthFvAndMac.transiteTo .fvInProgress, [.rejected])) := by
  unfold processAnAuthenticFv at hresult
  split at hresult
  · cases hresult
  · rename_i hvalue
    split at hresult
    · cases hresult
    · rename_i code hverify
      refine ⟨hvalue, code, hverify, ?_⟩
      split at hresult
      · rename_i hsuccess
        exact Or.inl ⟨hsuccess, (Except.ok.inj hresult).symm⟩
      · rename_i hfailure
        exact Or.inr ⟨hfailure, (Except.ok.inj hresult).symm⟩

theorem transition_processAnAuthenticFv (hready : Ready s)
    (hstate : s.requestCycle.state = some .processFV) {result : ActionResult}
    (hresult : s.processAnAuthenticFv csm = .ok result) :
    Transition s (.mainFunctionCompleted :: result.2.2) result.2.1 := by
  obtain ⟨-, code, -, ⟨-, hresult⟩ | ⟨-, hresult⟩⟩ := processAnAuthenticFv_cases hresult
  · subst hresult
    dsimp only
    exact .move hready rfl rfl (.adopt _ hstate) fun h => absurd h (by decide)
  · subst hresult
    dsimp only
    exact .move hready rfl rfl (.reject hstate) fun _ => hready.waited (Or.inr hstate)

/-- Where `processAnUnauthenticFv` leads. -/
theorem processAnUnauthenticFv_cases {result : ActionResult}
    (hresult : s.processAnUnauthenticFv = .ok result) :
    result = (.kSuccess,
        ({ s with mIsFvValid := false, mUnAuthFv := [] } :
          FreshnessValueManagerImplParticipant).transiteTo .requestFV, []) ∨
      result = (.kSuccess, s.transiteTo .idle, []) := by
  unfold processAnUnauthenticFv at hresult
  split at hresult
  · cases hresult
  · split at hresult
    · cases hresult
    · split at hresult
      · exact Or.inl (Except.ok.inj hresult).symm
      · exact Or.inr (Except.ok.inj hresult).symm

theorem transition_processAnUnauthenticFv (hready : Ready s)
    (hstate : s.requestCycle.state = some .processAnauthFV) {result : ActionResult}
    (hresult : s.processAnUnauthenticFv = .ok result) :
    Transition s (.mainFunctionCompleted :: result.2.2) result.2.1 := by
  rcases processAnUnauthenticFv_cases hresult with hresult | hresult
  · subst hresult
    dsimp only
    exact .move hready rfl rfl (.drift hstate) fun h => absurd h (by decide)
  · subst hresult
    dsimp only
    exact .move hready rfl rfl (.agree hstate) fun h => absurd h (by decide)

/-! ### The main function -/

theorem Transition.incTimers (htransition : Transition s es s') :
    Transition s es s'.incTimers :=
  ⟨htransition.step, stepEffect_incTimers.mInitialized.trans htransition.ready.mInitialized,
    htransition.ready.registered, htransition.ready.current, htransition.ready.waited⟩

/-- The main function of a participant that is ready runs the action of the
present state. -/
theorem mainFunction_cases (hready : Ready s) {result : ActionResult}
    (hresult : s.mainFunction csm signals = .ok result) :
    ∃ state result', s.requestCycle.state = some state ∧
      s.stateAction csm signals (StateAction.ofState state) = .ok result' ∧
      result = (result'.1, result'.2.1.incTimers, .mainFunctionCompleted :: result'.2.2) := by
  obtain ⟨state, hstate⟩ := Option.isSome_iff_exists.mp hready.current
  have hgo : ¬ (!s.mInitialized) = true := by
    rw [hready.mInitialized]
    decide
  unfold mainFunction enter at hresult
  rw [if_neg hgo, hready.registered.enter hstate] at hresult
  dsimp only at hresult
  split at hresult
  · cases hresult
  · rename_i ret t events haction
    exact ⟨state, _, hstate, haction, (Except.ok.inj hresult).symm⟩

theorem transition_stateAction (hready : Ready s) {state : FreshnessValueState}
    (hstate : s.requestCycle.state = some state) {result : ActionResult}
    (hresult : s.stateAction csm signals (StateAction.ofState state) = .ok result) :
    Transition s (.mainFunctionCompleted :: result.2.2) result.2.1 := by
  cases state with
  | requestFV =>
    cases Except.ok.inj hresult
    exact transition_requestAnAuthenticFv hready hstate
  | fvInProgress =>
    cases Except.ok.inj hresult
    exact transition_waitForAnAuthenticFv hready hstate
  | processFV => exact transition_processAnAuthenticFv hready hstate hresult
  | processAnauthFV => exact transition_processAnUnauthenticFv hready hstate hresult
  | idle =>
    cases Except.ok.inj hresult
    exact ⟨.rest hstate, hready⟩

/-! ### The signals -/

/-- A stored half does not touch the rest. -/
theorem storeAuthFvSignal_cases (signal : String) (value : ByteVector) :
    s.storeAuthFvSignal signal value =
        ({ s with mCrAuthFvAndMac := (value, s.mCrAuthFvAndMac.2) }, [.valueReceived value]) ∨
      s.storeAuthFvSignal signal value =
        ({ s with mCrAuthFvAndMac := (s.mCrAuthFvAndMac.1, value) },
          [.signatureReceived value]) ∨
      s.storeAuthFvSignal signal value = (s, []) := by
  unfold storeAuthFvSignal
  split
  · exact Or.inl rfl
  · split
    · exact Or.inr (Or.inl rfl)
    · exact Or.inr (Or.inr rfl)

theorem ready_react (hready : Ready s) :
    Ready { s with mFvStateManager := s.mFvStateManager.reactToFVRes } ∧
      ({ s with mFvStateManager := s.mFvStateManager.reactToFVRes } :
        FreshnessValueManagerImplParticipant).requestCycle =
      { s.requestCycle with
        state := s.requestCycle.state.map FreshnessValueStateManager.onFvRes } := by
  obtain ⟨state, hstate⟩ := Option.isSome_iff_exists.mp hready.current
  obtain ⟨hregistered, hcurrent⟩ := hready.registered.reactToFVRes hstate
  have hcycle : ({ s with mFvStateManager := s.mFvStateManager.reactToFVRes } :
        FreshnessValueManagerImplParticipant).requestCycle =
      { s.requestCycle with
        state := s.requestCycle.state.map FreshnessValueStateManager.onFvRes } := by
    unfold FreshnessValueManagerImplParticipant.requestCycle
    dsimp only
    rw [hcurrent, hstate]
    rfl
  refine ⟨⟨hready.mInitialized, hregistered, by rw [hcurrent]; rfl, ?_⟩, hcycle⟩
  rw [hcycle]
  intro houtstanding
  exact hready.waited (RequestCycle.outstanding_onFvRes.mp houtstanding)

/-- The reaction to a stored half. -/
theorem incomingAuthFvSignalsCb_of_stored {signal : String} {value : ByteVector}
    {t : FreshnessValueManagerImplParticipant} (hready : Ready t)
    (hstored : s.storeAuthFvSignal signal value = (t, es)) :
    (s.incomingAuthFvSignalsCb signal value).2 = es ∧
      (s.incomingAuthFvSignalsCb signal value).1.requestCycle = t.requestCycle.react ∧
      Ready (s.incomingAuthFvSignalsCb signal value).1 := by
  have hcb : s.incomingAuthFvSignalsCb signal value =
      if t.requestCycle.Complete then
        ({ t with mFvStateManager := t.mFvStateManager.reactToFVRes }, es)
      else (t, es) := by
    unfold incomingAuthFvSignalsCb
    rw [hstored]
    rfl
  rw [hcb]
  unfold RequestCycle.react
  split
  · obtain ⟨hready', hcycle⟩ := ready_react hready
    exact ⟨rfl, hcycle, hready'⟩
  · exact ⟨rfl, rfl, hready⟩

theorem events_incomingAuthFvSignalsCb (signal : String) (value : ByteVector) :
    (s.incomingAuthFvSignalsCb signal value).2 = (s.storeAuthFvSignal signal value).2 := by
  unfold incomingAuthFvSignalsCb
  dsimp only
  split
  · rfl
  · rfl

theorem transition_incomingAuthFvSignalsCb (hready : Ready s) (signal : String)
    (value : ByteVector) :
    Transition s (s.incomingAuthFvSignalsCb signal value).2
      (s.incomingAuthFvSignalsCb signal value).1 := by
  have hready' : ∀ pair, Ready { s with mCrAuthFvAndMac := pair } := fun _ =>
    ⟨hready.mInitialized, hready.registered, hready.current, hready.waited⟩
  rcases storeAuthFvSignal_cases (s := s) signal value with hstored | hstored | hstored
  · obtain ⟨hevents, hcycle, hready'⟩ := incomingAuthFvSignalsCb_of_stored (hready' _) hstored
    refine ⟨?_, hready'⟩
    rw [hevents, hcycle]
    exact .value value
  · obtain ⟨hevents, hcycle, hready'⟩ := incomingAuthFvSignalsCb_of_stored (hready' _) hstored
    refine ⟨?_, hready'⟩
    rw [hevents, hcycle]
    exact .signature value
  · obtain ⟨hevents, hcycle, hready'⟩ := incomingAuthFvSignalsCb_of_stored hready hstored
    refine ⟨?_, hready'⟩
    rw [hevents, hcycle]
    exact .otherSignal

theorem transition_incomingUnAuthFvSignalsCb (hready : Ready s) (signal : String)
    (value : ByteVector) : Transition s [] (s.incomingUnAuthFvSignalsCb signal value) := by
  unfold incomingUnAuthFvSignalsCb
  split
  · obtain ⟨state, hstate⟩ := Option.isSome_iff_exists.mp hready.current
    unfold FreshnessValueStateManager.reactToUnauthenticFVRes
    rw [hstate]
    cases state with
    | idle =>
      exact .move (t := { s with mUnAuthFv := value }) hready rfl rfl (.unauthentic hstate)
        fun h => absurd h (by decide)
    | _ => exact ⟨.other, hready.mInitialized, hready.registered, hready.current, hready.waited⟩
  · exact ⟨.other, hready⟩

/-! ### The refinement -/

/-- Every step of a participant that is ready refines a transition of the request
cycle and leaves the participant ready. -/
theorem requestCycle_step (hready : Ready s) (hstep : participantStep s op = .ok (s', es)) :
    Transition s es s' := by
  cases op with
  | mainFunction csm signals =>
    obtain ⟨ret, hresult⟩ := mainFunction_of_step hstep
    obtain ⟨state, result', hstate, haction, hresult'⟩ := mainFunction_cases hready hresult
    cases hresult'
    exact (transition_stateAction hready hstate haction).incTimers
  | incomingAuthFvSignal signal value =>
    have hcb := Except.ok.inj hstep
    have htransition := transition_incomingAuthFvSignalsCb hready signal value
    rw [hcb] at htransition
    exact htransition
  | incomingUnAuthFvSignal signal value =>
    cases Except.ok.inj hstep
    exact transition_incomingUnAuthFvSignalsCb hready signal value
  | call call =>
    cases Except.ok.inj hstep
    have hinit := (managerNext_effect (s := s.toAFreshnessValueManagerImpl) call.1).mInitialized
    exact ⟨.other, hinit.trans hready.mInitialized, hready.registered, hready.current,
      hready.waited⟩

/-- Only the main function has the event of its completion. -/
theorem mainFunction_of_completed (hstep : participantStep s op = .ok (s', es))
    (hcompleted : .mainFunctionCompleted ∈ es) :
    ∃ csm signals, op = .mainFunction csm signals := by
  cases op with
  | mainFunction csm signals => exact ⟨csm, signals, rfl⟩
  | incomingAuthFvSignal signal value =>
    have hes : (s.incomingAuthFvSignalsCb signal value).2 = es :=
      congrArg Prod.snd (Except.ok.inj hstep)
    rw [← hes, events_incomingAuthFvSignalsCb] at hcompleted
    rcases storeAuthFvSignal_cases (s := s) signal value with h | h | h
    · rw [h] at hcompleted
      simp at hcompleted
    · rw [h] at hcompleted
      simp at hcompleted
    · rw [h] at hcompleted
      cases hcompleted
  | incomingUnAuthFvSignal signal value =>
    cases Except.ok.inj hstep
    cases hcompleted
  | call call =>
    cases Except.ok.inj hstep
    cases hcompleted

/-- A request is published by the main function in `RequestFV`. -/
theorem request_of_published (hready : Ready s) (hstep : participantStep s op = .ok (s', es))
    {challenge : ByteVector} (hpublished : .published challenge ∈ es) :
    ∃ csm signals, op = .mainFunction csm signals ∧ s.requestCycle.state = some .requestFV ∧
      csm.generateRandomBytes challengeLengthBytes = .ok challenge ∧
      signals.publish s.mFvmConfAccessor.getAuthenticatedFvChallengeSignalConfig challenge =
        .kSuccess := by
  obtain ⟨hstate, hcompleted⟩ := (requestCycle_step hready hstep).step.requests hpublished
  obtain ⟨csm, signals, rfl⟩ := mainFunction_of_completed hstep hcompleted
  obtain ⟨ret, hresult⟩ := mainFunction_of_step hstep
  obtain ⟨state, result', hstate', haction, hresult'⟩ := mainFunction_cases hready hresult
  cases Option.some.inj (hstate.symm.trans hstate')
  have haction' : s.requestAnAuthenticFv csm signals = result' := Except.ok.inj haction
  have hes : es = .mainFunctionCompleted :: (s.requestAnAuthenticFv csm signals).2.2 := by
    rw [haction']
    exact congrArg (·.2.2) hresult'
  refine ⟨csm, signals, rfl, hstate, ?_⟩
  rw [hes] at hpublished
  unfold requestAnAuthenticFv at hpublished
  split at hpublished
  · simp at hpublished
  · rename_i challenge' hrandom
    dsimp only at hpublished
    split at hpublished
    · rename_i hsuccess
      have hchallenge : challenge = challenge' := by simpa using hpublished
      rw [hchallenge]
      exact ⟨hrandom, hsuccess⟩
    · simp at hpublished

/-- A response is verified by the main function in `ProcessFV`, with the outcome
that the crypto accessor gives. -/
theorem verification_of_step (hready : Ready s) (hstate : s.requestCycle.state = some .processFV)
    (hstep : participantStep s (.mainFunction csm signals) = .ok (s', es)) :
    s.mCrAuthFvAndMac.1 ≠ [] ∧ ∃ code, s.verifyRes csm = .ok code ∧
      (code = .kSuccess ∧
          es = [.mainFunctionCompleted, .adopted (byteVectorToUint s.mCrAuthFvAndMac.1)] ∨
        code ≠ .kSuccess ∧ es = [.mainFunctionCompleted, .rejected]) := by
  obtain ⟨ret, hresult⟩ := mainFunction_of_step hstep
  obtain ⟨state, result', hstate', haction, hresult'⟩ := mainFunction_cases hready hresult
  cases Option.some.inj (hstate.symm.trans hstate')
  obtain ⟨hvalue, code, hverify, hcases⟩ := processAnAuthenticFv_cases haction
  have hes : es = .mainFunctionCompleted :: result'.2.2 := congrArg (·.2.2) hresult'
  refine ⟨hvalue, code, hverify, ?_⟩
  rcases hcases with ⟨hsuccess, hresult''⟩ | ⟨hfailure, hresult''⟩
  · rw [hresult''] at hes
    exact Or.inl ⟨hsuccess, hes⟩
  · rw [hresult''] at hes
    exact Or.inr ⟨hfailure, hes⟩

/-- Only a verification adopts or rejects. -/
theorem processFV_of_event (hready : Ready s) (hstep : participantStep s op = .ok (s', es))
    (hevent : .rejected ∈ es ∨ ∃ fv, .adopted fv ∈ es) :
    s.requestCycle.state = some .processFV ∧ ∃ csm signals, op = .mainFunction csm signals := by
  obtain ⟨hstate, hcompleted⟩ := (requestCycle_step hready hstep).step.verifies hevent
  exact ⟨hstate, mainFunction_of_completed hstep hcompleted⟩

variable {P : Guard FreshnessValueManagerImplParticipant ParticipantOp ParticipantEvent}

theorem ready_of_run (hinit : InitialisedParticipant s₀)
    (hrun : Run participantStep P s₀ [] s h) : Ready s :=
  hrun.stateInvariant Ready hinit.ready fun _ _ _ _ _ hready _ hstep =>
    (requestCycle_step hready hstep).ready

/-- The invariant rule for the request cycle.  `Allowed` is what the guard of the
run says about the transitions. -/
theorem cycleInvariant_of_run (Inv : RequestCycle → List ParticipantEvent → Prop)
    (Allowed : RequestCycle → List ParticipantEvent → Prop)
    (hinit : InitialisedParticipant s₀) (hrun : Run participantStep P s₀ [] s h)
    (allowed : ∀ s h op s' es, Ready s → P s h op → participantStep s op = .ok (s', es) →
      Allowed s.requestCycle es)
    (start : ∀ c, c.state = some .requestFV → Inv c [])
    (preserved : ∀ c h es c', Inv c h → Allowed c es → RequestCycle.Step c es c' →
      Inv c' (es ++ h)) : Inv s.requestCycle h := by
  have hboth : Ready s ∧ Inv s.requestCycle h := by
    refine hrun.invariant (fun s h => Ready s ∧ Inv s.requestCycle h)
      ⟨hinit.ready, start _ hinit.current⟩ ?_
    intro s h op s' es hinv hmeets hstep
    have htransition := requestCycle_step hinv.1 hstep
    exact ⟨htransition.ready, preserved _ _ _ _ hinv.2
      (allowed _ _ _ _ _ hinv.1 hmeets hstep) htransition.step⟩
  exact hboth.2

/-! ## The participant as a manager -/

/-- What an action of a state does to the base class. -/
theorem base_stateAction {action : StateAction} {result : ActionResult}
    (hresult : s.stateAction csm signals action = .ok result) :
    result.2.1.toAFreshnessValueManagerImpl = s.toAFreshnessValueManagerImpl ∨
      (∃ fv, result.2.1.toAFreshnessValueManagerImpl =
        s.toAFreshnessValueManagerImpl.adoptFv fv) ∨
      result.2.1.toAFreshnessValueManagerImpl =
        s.toAFreshnessValueManagerImpl.invalidateFv := by
  cases action with
  | requestAnAuthenticFv =>
    cases Except.ok.inj hresult
    left
    unfold requestAnAuthenticFv
    split
    · rfl
    · dsimp only
      split
      · rfl
      · rfl
  | waitForAnAuthenticFv =>
    cases Except.ok.inj hresult
    left
    unfold waitForAnAuthenticFv
    dsimp only
    split
    · rfl
    · rfl
  | processAnAuthenticFv =>
    obtain ⟨-, code, -, ⟨-, hresult⟩ | ⟨-, hresult⟩⟩ := processAnAuthenticFv_cases hresult
    · subst hresult
      exact Or.inr (Or.inl ⟨byteVectorToUint s.mCrAuthFvAndMac.1, rfl⟩)
    · subst hresult
      exact Or.inl rfl
  | processAnUnauthenticFv =>
    rcases processAnUnauthenticFv_cases hresult with hresult | hresult
    · subst hresult
      exact Or.inr (Or.inr rfl)
    · subst hresult
      exact Or.inl rfl
  | idleAction =>
    cases Except.ok.inj hresult
    exact Or.inl rfl

/-- The base class of a participant after an action of a state. -/
theorem managerRun_stateAction {action : StateAction} {result : ActionResult}
    (hresult : s.stateAction csm signals action = .ok result) (g : List ManagerEvent) :
    Run managerStep Anything s.toAFreshnessValueManagerImpl g
      result.2.1.toAFreshnessValueManagerImpl g := by
  rcases base_stateAction hresult with hsame | ⟨fv, hadopts⟩ | hdrops
  · rw [hsame]
    exact .refl
  · rw [hadopts]
    exact managerRun_silent (.adoptFv fv) rfl g
  · rw [hdrops]
    exact managerRun_silent .invalidateFv rfl g

theorem managerRun_mainFunction {result : ActionResult}
    (hresult : s.mainFunction csm signals = .ok result) (g : List ManagerEvent) :
    Run managerStep Anything s.toAFreshnessValueManagerImpl g
      result.2.1.toAFreshnessValueManagerImpl g := by
  have htick : ∀ t : AFreshnessValueManagerImpl,
      Run managerStep Anything t g t.incTimers g := fun t =>
    managerRun_silent .incTimers rfl g
  unfold mainFunction enter at hresult
  split at hresult
  · cases Except.ok.inj hresult
    exact .refl
  · split at hresult
    · cases hresult
    · rename_i ret t events henter
      cases Except.ok.inj hresult
      split at henter
      · cases Except.ok.inj henter
        exact htick _
      · exact (managerRun_stateAction henter g).trans (htick _)

/-- A signal of the distribution changes the received pair and the state only. -/
theorem incomingAuthFvSignalsCb_eq (signal : String) (value : ByteVector) :
    (s.incomingAuthFvSignalsCb signal value).1 = { s with
      mCrAuthFvAndMac := (s.incomingAuthFvSignalsCb signal value).1.mCrAuthFvAndMac
      mFvStateManager := (s.incomingAuthFvSignalsCb signal value).1.mFvStateManager } := by
  unfold incomingAuthFvSignalsCb
  rcases storeAuthFvSignal_cases (s := s) signal value with h | h | h
  all_goals
    rw [h]
    dsimp only
    split
    · rfl
    · rfl

theorem base_incomingAuthFvSignalsCb (signal : String) (value : ByteVector) :
    (s.incomingAuthFvSignalsCb signal value).1.toAFreshnessValueManagerImpl =
      s.toAFreshnessValueManagerImpl := by
  rw [incomingAuthFvSignalsCb_eq]

/-- Towards the base class, a run of a participant is a run of a manager. -/
theorem managerRun_of_participantRun {h₀ : List ParticipantEvent}
    (hrun : Run participantStep P s₀ h₀ s h) (g₀ : List ManagerEvent) :
    ∃ g, Run managerStep Anything s₀.toAFreshnessValueManagerImpl g₀
      s.toAFreshnessValueManagerImpl g := by
  refine hrun.simulate (·.toAFreshnessValueManagerImpl) ?_ g₀
  intro s h op s' es g _ hstep
  cases op with
  | mainFunction csm signals =>
    obtain ⟨ret, hresult⟩ := mainFunction_of_step hstep
    exact ⟨g, managerRun_mainFunction hresult g⟩
  | incomingAuthFvSignal signal value =>
    have hs' : (s.incomingAuthFvSignalsCb signal value).1 = s' :=
      congrArg Prod.fst (Except.ok.inj hstep)
    rw [← hs', base_incomingAuthFvSignalsCb]
    exact ⟨g, .refl⟩
  | incomingUnAuthFvSignal signal value =>
    cases Except.ok.inj hstep
    unfold incomingUnAuthFvSignalsCb
    split
    · exact ⟨g, .refl⟩
    · exact ⟨g, .refl⟩
  | call call =>
    cases Except.ok.inj hstep
    exact ⟨_, .single (i := call.1) trivial rfl⟩

end Sok.Fvm
