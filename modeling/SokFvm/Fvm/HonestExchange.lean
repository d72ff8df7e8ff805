import SokFvm.Fvm.ConfigParser
import SokFvm.Fvm.LockStep
import SokFvm.Fvm.ServerRounds
import SokFvm.Fvm.SignalManagerSci

/-!
# An honest exchange

A participant waits for the answer to its challenge, the server answers it, and SCI
carries the two parts of the answer.  The value leaves the server with seven bytes
and arrives with eight, the first of them zero; the participant drops the first byte
before it verifies.  So both sides form the same payload, whatever the freshness
value and the challenge are.

`Reaches` is the invariant of the participant during the exchange: its request cycle
has come to a given point, up to the time, and its configuration and its key have
stayed.  `Collects` is the exchange seen from the participant, in which the two parts
arrive in either order.  `Completes` is what the exchange is for.

The participant tells the two parts apart by the names of the signals.
`honest_exchange_completes` is about configurations in which these names differ;
`same_names_do_not_complete` shows what happens to the others, which the parser
accepts as well.
-/

namespace Sok.Fvm

open Sok.Common StateMachine FreshnessValueManagerImplParticipant

variable {p₀ p q q' : FreshnessValueManagerImplParticipant} {op : ParticipantOp}
variable {h h' g : List ParticipantEvent} {es : List ParticipantEvent} {bytes : ByteVector}
variable {csm : ICsmAccessor} {signals : ISignalManager}

/-! ## The key of the participant -/

theorem mEcuKeyIdForFvDistribution_stateAction {action : StateAction} {result : ActionResult}
    (hresult : p.stateAction csm signals action = .ok result) :
    result.2.1.mEcuKeyIdForFvDistribution = p.mEcuKeyIdForFvDistribution := by
  cases action with
  | requestAnAuthenticFv =>
    cases Except.ok.inj hresult
    unfold requestAnAuthenticFv
    split
    · rfl
    · dsimp only
      split
      · rfl
      · rfl
  | waitForAnAuthenticFv =>
    cases Except.ok.inj hresult
    unfold waitForAnAuthenticFv
    dsimp only
    split
    · rfl
    · rfl
  | processAnAuthenticFv =>
    obtain ⟨-, code, -, ⟨-, hresult⟩ | ⟨-, hresult⟩⟩ := processAnAuthenticFv_cases hresult
    · rw [hresult]
      rfl
    · rw [hresult]
      rfl
  | processAnUnauthenticFv =>
    rcases processAnUnauthenticFv_cases hresult with hresult | hresult
    · rw [hresult]
      rfl
    · rw [hresult]
      rfl
  | idleAction =>
    cases Except.ok.inj hresult
    rfl

theorem mEcuKeyIdForFvDistribution_of_participantStep
    (hstep : participantStep p op = .ok (q, es)) :
    q.mEcuKeyIdForFvDistribution = p.mEcuKeyIdForFvDistribution := by
  cases op with
  | mainFunction csm signals =>
    obtain ⟨ret, hresult⟩ := mainFunction_of_step hstep
    unfold mainFunction enter at hresult
    split at hresult
    · cases hresult
      rfl
    · split at hresult
      · cases hresult
      · rename_i henter
        cases hresult
        split at henter
        · cases henter
          rfl
        · exact mEcuKeyIdForFvDistribution_stateAction henter
  | incomingAuthFvSignal signal value =>
    have hcb : (p.incomingAuthFvSignalsCb signal value).1 = q :=
      congrArg Prod.fst (Except.ok.inj hstep)
    rw [← hcb, incomingAuthFvSignalsCb_eq]
  | incomingUnAuthFvSignal signal value =>
    cases Except.ok.inj hstep
    unfold incomingUnAuthFvSignalsCb
    split
    · rfl
    · rfl
  | call call =>
    cases Except.ok.inj hstep
    rfl

/-- The key of the participant is the configured one. -/
def HasConfiguredKey (p : FreshnessValueManagerImplParticipant) : Prop :=
  p.mEcuKeyIdForFvDistribution = p.mFvmConfAccessor.getEcuKeyIdForFvDistribution

theorem hasConfiguredKey_of_firstInit (hfirst : p.FirstInit) : HasConfiguredKey p := by
  obtain ⟨services, hinit⟩ := hfirst
  obtain ⟨-, -, base, ret, -, hret, rfl⟩ := DerivedClass.init_eq_success hinit
  have hcalled : ((construct base).serverOrParticipantInit services.mCsmAccessor
      services.mSignalManager).2 = ret := congrArg Prod.snd hret
  have hbase := base_serverOrParticipantInit (construct base) services.mCsmAccessor
    services.mSignalManager
  show ret.mEcuKeyIdForFvDistribution =
    ret.toAFreshnessValueManagerImpl.mFvmConfAccessor.getEcuKeyIdForFvDistribution
  rw [← hcalled, hbase]
  unfold serverOrParticipantInit
  dsimp only
  split
  · rfl
  · rfl

/-! ## The participant waits -/

/-- An input that is neither the main function nor a part of an answer. -/
def Quiet : Guard FreshnessValueManagerImplParticipant ParticipantOp ParticipantEvent :=
  fun _ _ op =>
    match op with
    | .incomingUnAuthFvSignal _ _ | .call _ => True
    | .mainFunction _ _ | .incomingAuthFvSignal _ _ => False

/-- The time since the request does not pass the timeout. -/
def InTime : Except Fault ActionResult → Prop
  | .ok ret => ret.2.1.mTimeSinceAuthFvReq ≤ sokFmTimeRequestTimeoutMs.toUInt32
  | .error _ => True

instance : DecidablePred InTime
  | .ok _ => inferInstanceAs (Decidable (_ ≤ _))
  | .error _ => .isTrue trivial

/-- No part of an answer arrives, and the main function does not let the request
time out. -/
def Undisturbed : Guard FreshnessValueManagerImplParticipant ParticipantOp ParticipantEvent :=
  fun p _ op =>
    match op with
    | .incomingUnAuthFvSignal _ _ | .call _ => True
    | .incomingAuthFvSignal _ _ => False
    | .mainFunction csm signals => InTime (p.mainFunction csm signals)

instance (p : FreshnessValueManagerImplParticipant) (h : List ParticipantEvent) :
    DecidablePred (Undisturbed p h)
  | .incomingUnAuthFvSignal _ _ | .call _ => .isTrue trivial
  | .incomingAuthFvSignal _ _ => .isFalse id
  | .mainFunction csm signals => inferInstanceAs (Decidable (InTime (p.mainFunction csm signals)))

/-- On the way from `p` to `q` the request cycle has come to `cycle`, up to its time,
and the configuration and the key have stayed. -/
structure Reaches (p : FreshnessValueManagerImplParticipant) (cycle : RequestCycle)
    (q : FreshnessValueManagerImplParticipant) : Prop where
  ready : Ready q
  cycle : q.requestCycle = { cycle with waited := q.requestCycle.waited }
  mFvmConfAccessor : q.mFvmConfAccessor = p.mFvmConfAccessor
  mEcuKeyIdForFvDistribution : q.mEcuKeyIdForFvDistribution = p.mEcuKeyIdForFvDistribution

variable {cycle : RequestCycle}

theorem Reaches.refl (hready : Ready p) : Reaches p p.requestCycle p :=
  ⟨hready, rfl, rfl, rfl⟩

theorem Reaches.state_eq (hreaches : Reaches p cycle q) :
    q.requestCycle.state = cycle.state := by
  rw [hreaches.cycle]

theorem Reaches.complete_iff (hreaches : Reaches p cycle q) :
    q.requestCycle.Complete ↔ cycle.Complete := by
  rw [hreaches.cycle]
  exact Iff.rfl

/-- One more step that leads to `cycle'`. -/
theorem Reaches.step {cycle' : RequestCycle} {waited : Nat} (hreaches : Reaches p cycle q)
    (hstep : participantStep q op = .ok (q', es))
    (hcycle : q'.requestCycle = { cycle' with waited := waited }) : Reaches p cycle' q' :=
  ⟨(requestCycle_step hreaches.ready hstep).ready, by rw [hcycle],
    (sameSetup_of_participantStep hstep).mFvmConfAccessor.trans hreaches.mFvmConfAccessor,
    (mEcuKeyIdForFvDistribution_of_participantStep hstep).trans
      hreaches.mEcuKeyIdForFvDistribution⟩

/-- A quiet input leaves the request cycle alone when no reaction is due. -/
theorem requestCycle_of_quiet (hready : Ready q)
    (hreact : q.requestCycle.react = q.requestCycle)
    (hidle : q.requestCycle.state ≠ some .idle) (hquiet : Quiet q h op)
    (hstep : participantStep q op = .ok (q', es)) : q'.requestCycle = q.requestCycle := by
  have hes : es = [] := by
    cases op with
    | incomingUnAuthFvSignal signal value => exact (congrArg Prod.snd (Except.ok.inj hstep)).symm
    | call call => exact (congrArg Prod.snd (Except.ok.inj hstep)).symm
    | mainFunction csm signals => exact hquiet.elim
    | incomingAuthFvSignal signal value => exact hquiet.elim
  have hcycle := (requestCycle_step hready hstep).step
  rw [hes] at hcycle
  generalize q'.requestCycle = c at hcycle
  cases hcycle with
  | otherSignal => exact hreact
  | unauthentic hstate => exact absurd hstate hidle
  | other => rfl

/-- A call of the main function counts the time of a request that does not time
out. -/
theorem requestCycle_of_mainFunction (hready : Ready q)
    (hstate : q.requestCycle.state = some .fvInProgress)
    (hundisturbed : Undisturbed q h (.mainFunction csm signals))
    (hstep : participantStep q (.mainFunction csm signals) = .ok (q', es)) :
    q'.requestCycle = { q.requestCycle with waited := q'.requestCycle.waited } := by
  obtain ⟨ret, hresult⟩ := mainFunction_of_step hstep
  obtain ⟨state, result, hstate', haction, hresult'⟩ := mainFunction_cases hready hresult
  have hes : es = .mainFunctionCompleted :: result.2.2 := congrArg (·.2.2) hresult'
  have htime : q'.requestCycle.waited ≤ sokFmTimeRequestTimeoutMs.toNat := by
    have hintime : InTime (q.mainFunction csm signals) := hundisturbed
    rw [hresult] at hintime
    exact UInt32.le_iff_toNat_le.mp hintime
  have hcycle := (requestCycle_step hready hstep).step
  rw [hes] at hcycle
  generalize q'.requestCycle = c at hcycle htime
  generalize hevents : ParticipantEvent.mainFunctionCompleted :: result.2.2 = events at hcycle
  cases hcycle with
  | wait hstate hwait => rfl
  | timeout hstate hwait =>
    dsimp only at htime
    omega
  -- a signal has other events
  | value bytes => cases hevents
  | signature bytes => cases hevents
  | otherSignal => cases hevents
  | unauthentic hstate => cases hevents
  | other => cases hevents
  -- another state has other transitions
  | publish challenge hother hlength => cases hstate.symm.trans hother
  | fail hother => cases hstate.symm.trans hother
  | adopt fv hother => cases hstate.symm.trans hother
  | reject hother => cases hstate.symm.trans hother
  | agree hother => cases hstate.symm.trans hother
  | drift hother => cases hstate.symm.trans hother
  | rest hother => cases hstate.symm.trans hother

/-- Run lemma: an outstanding request of which at most one part of the answer has
arrived waits on. -/
theorem Reaches.undisturbed (hreaches : Reaches p cycle q)
    (hstate : cycle.state = some .fvInProgress) (hincomplete : ¬ cycle.Complete)
    (hrun : Run participantStep Undisturbed q h q' h') : Reaches p cycle q' := by
  refine hrun.stateInvariant (Reaches p cycle) hreaches ?_
  intro q h op q' es hreaches hundisturbed hstep
  have hstate' := hreaches.state_eq.trans hstate
  have hincomplete' : ¬ q.requestCycle.Complete := by
    rw [hreaches.complete_iff]
    exact hincomplete
  have hquiet : Quiet q h op → Reaches p cycle q' := by
    intro hquiet
    have hcycle := requestCycle_of_quiet hreaches.ready
      (RequestCycle.react_of_not_complete hincomplete') (by rw [hstate']; decide) hquiet hstep
    exact hreaches.step hstep (hcycle.trans hreaches.cycle)
  cases op with
  | incomingUnAuthFvSignal signal value => exact hquiet trivial
  | call call => exact hquiet trivial
  | incomingAuthFvSignal signal value => exact hundisturbed.elim
  | mainFunction csm signals =>
    have hcycle : q'.requestCycle = { cycle with waited := q'.requestCycle.waited } := by
      rw [requestCycle_of_mainFunction hreaches.ready hstate' hundisturbed hstep, hreaches.cycle]
    exact hreaches.step hstep hcycle

/-- Run lemma: a complete answer stays as it is until the main function comes. -/
theorem Reaches.quiet (hreaches : Reaches p cycle q) (hstate : cycle.state = some .processFV)
    (hrun : Run participantStep Quiet q h q' h') : Reaches p cycle q' := by
  refine hrun.stateInvariant (Reaches p cycle) hreaches ?_
  intro q h op q' es hreaches hquiet hstep
  have hstate' := hreaches.state_eq.trans hstate
  have hreact : q.requestCycle.react = q.requestCycle := by
    unfold RequestCycle.react
    split
    · rw [hstate']
      show { q.requestCycle with state := some .processFV } = q.requestCycle
      rw [← hstate']
    · rfl
  have hcycle := requestCycle_of_quiet hreaches.ready hreact (by rw [hstate']; decide) hquiet hstep
  exact hreaches.step hstep (hcycle.trans hreaches.cycle)

/-! ## The two parts arrive -/

/-- The name of the signal for the value. -/
def valueName (p : FreshnessValueManagerImplParticipant) : String :=
  p.mFvmConfAccessor.getAuthenticatedFvValueSignalConfig.name

/-- The name of the signal for the signature. -/
def signatureName (p : FreshnessValueManagerImplParticipant) : String :=
  p.mFvmConfAccessor.getAuthenticatedFvSignatureSignalConfig.name

theorem RequestCycle.react_waited (cycle : RequestCycle) (waited : Nat) :
    ({ cycle with waited := waited } : RequestCycle).react =
      { cycle.react with waited := waited } := by
  by_cases hcomplete : cycle.Complete
  · rw [react, react, if_pos hcomplete, if_pos (by exact hcomplete)]
  · rw [react_of_not_complete hcomplete, react_of_not_complete (by exact hcomplete)]

/-- The cycle after a part was stored. -/
theorem requestCycle_of_stored {signal : String} {pair : ByteVector × ByteVector}
    (hready : Ready q)
    (hstored : q.storeAuthFvSignal signal bytes = ({ q with mCrAuthFvAndMac := pair }, g))
    (hstep : participantStep q (.incomingAuthFvSignal signal bytes) = .ok (q', es)) :
    q'.requestCycle =
      ({ q.requestCycle with value := pair.1, signature := pair.2 } : RequestCycle).react := by
  have hready' : Ready { q with mCrAuthFvAndMac := pair } :=
    ⟨hready.mInitialized, hready.registered, hready.current, hready.waited⟩
  obtain ⟨-, hcycle, -⟩ := incomingAuthFvSignalsCb_of_stored hready' hstored
  have hcb : (q.incomingAuthFvSignalsCb signal bytes).1 = q' :=
    congrArg Prod.fst (Except.ok.inj hstep)
  rw [hcb] at hcycle
  exact hcycle

/-- The value arrives. -/
theorem Reaches.value (hreaches : Reaches p cycle q)
    (hstep : participantStep q (.incomingAuthFvSignal (valueName p) bytes) = .ok (q', es)) :
    Reaches p ({ cycle with value := bytes } : RequestCycle).react q' := by
  have hstored : q.storeAuthFvSignal (valueName p) bytes =
      ({ q with mCrAuthFvAndMac := (bytes, q.mCrAuthFvAndMac.2) }, [.valueReceived bytes]) := by
    unfold valueName storeAuthFvSignal
    rw [hreaches.mFvmConfAccessor]
    exact if_pos rfl
  have hcycle : q'.requestCycle = ({ q.requestCycle with value := bytes } : RequestCycle).react :=
    requestCycle_of_stored hreaches.ready hstored hstep
  rw [hreaches.cycle] at hcycle
  exact hreaches.step hstep
    (hcycle.trans (RequestCycle.react_waited { cycle with value := bytes } _))

/-- The signature arrives. It is stored as one only if its signal has a name of its
own. -/
theorem Reaches.signature (hreaches : Reaches p cycle q) (hnames : valueName p ≠ signatureName p)
    (hstep : participantStep q (.incomingAuthFvSignal (signatureName p) bytes) = .ok (q', es)) :
    Reaches p ({ cycle with signature := bytes } : RequestCycle).react q' := by
  have hstored : q.storeAuthFvSignal (signatureName p) bytes =
      ({ q with mCrAuthFvAndMac := (q.mCrAuthFvAndMac.1, bytes) },
        [.signatureReceived bytes]) := by
    unfold valueName signatureName at hnames
    unfold signatureName storeAuthFvSignal
    rw [hreaches.mFvmConfAccessor, if_neg hnames]
    exact if_pos rfl
  have hcycle : q'.requestCycle =
      ({ q.requestCycle with signature := bytes } : RequestCycle).react :=
    requestCycle_of_stored hreaches.ready hstored hstep
  rw [hreaches.cycle] at hcycle
  exact hreaches.step hstep
    (hcycle.trans (RequestCycle.react_waited { cycle with signature := bytes } _))

/-- Two signals arrive, first the one and then the other, at a participant that is
not disturbed. -/
inductive Collects (p : FreshnessValueManagerImplParticipant) (h : List ParticipantEvent)
    (one other : String × ByteVector) (q : FreshnessValueManagerImplParticipant) : Prop
  | intro {p₁ p₂ p₃ p₄ : FreshnessValueManagerImplParticipant}
      {h₁ h₂ h₃ es₁ es₂ : List ParticipantEvent}
      (before : Run participantStep Undisturbed p h p₁ h₁)
      (first : participantStep p₁ (.incomingAuthFvSignal one.1 one.2) = .ok (p₂, es₁))
      (between : Run participantStep Undisturbed p₂ (es₁ ++ h₁) p₃ h₂)
      (second : participantStep p₃ (.incomingAuthFvSignal other.1 other.2) = .ok (p₄, es₂))
      (after : Run participantStep Quiet p₄ (es₂ ++ h₂) q h₃)

/-- The participant is about to verify the two parts, whichever came first. -/
theorem reaches_of_collects {one other : String × ByteVector} {value signature : ByteVector}
    (hready : Ready p) (hstate : p.mFvStateManager.mCurrentFvState = some .fvInProgress)
    (hempty : p.mCrAuthFvAndMac = ([], [])) (hnames : valueName p ≠ signatureName p)
    (hvalue : value ≠ []) (hsignature : signature ≠ [])
    (horder : one = (valueName p, value) ∧ other = (signatureName p, signature) ∨
      one = (signatureName p, signature) ∧ other = (valueName p, value))
    (hcollects : Collects p h one other q) :
    Reaches p { p.requestCycle with
      state := some .processFV, value := value, signature := signature } q := by
  obtain ⟨hbefore, hfirst, hbetween, hsecond, hafter⟩ := hcollects
  have hvalueEmpty : p.requestCycle.value = [] := congrArg Prod.fst hempty
  have hsignatureEmpty : p.requestCycle.signature = [] := congrArg Prod.snd hempty
  have hstart := (Reaches.refl hready).undisturbed hstate (fun h => h.1 hvalueEmpty) hbefore
  refine Reaches.quiet ?_ rfl hafter
  have hcomplete : ({ p.requestCycle with value := value, signature := signature } :
      RequestCycle).react = { p.requestCycle with
        state := some .processFV, value := value, signature := signature } := by
    have hstate' : p.requestCycle.state = some .fvInProgress := hstate
    rw [RequestCycle.react, if_pos (by exact ⟨hvalue, hsignature⟩), hstate']
    rfl
  rw [← hcomplete]
  rcases horder with ⟨hone, hother⟩ | ⟨hone, hother⟩
  · rw [hone] at hfirst
    rw [hother] at hsecond
    have hincomplete : ¬ ({ p.requestCycle with value := value } : RequestCycle).Complete :=
      fun h => h.2 hsignatureEmpty
    have hhalf := hstart.value hfirst
    rw [RequestCycle.react_of_not_complete hincomplete] at hhalf
    exact (hhalf.undisturbed hstate hincomplete hbetween).signature hnames hsecond
  · rw [hone] at hfirst
    rw [hother] at hsecond
    have hincomplete : ¬ ({ p.requestCycle with signature := signature } : RequestCycle).Complete :=
      fun h => h.1 hvalueEmpty
    have hhalf := hstart.signature hnames hfirst
    rw [RequestCycle.react_of_not_complete hincomplete] at hhalf
    exact (hhalf.undisturbed hstate hincomplete hbetween).value hsecond

/-! ## The verification -/

/-- The call that verifies an answer successfully ends in `Idle` with the value. -/
theorem mainFunction_of_verified (hready : Ready q)
    (hstate : q.requestCycle.state = some .processFV) (hvalue : q.mCrAuthFvAndMac.1 ≠ [])
    (hverify : q.verifyRes csm = .ok .kSuccess) (signals : ISignalManager) :
    ∃ q', q.mainFunction csm signals = .ok (.kSuccess, q',
        [.mainFunctionCompleted, .adopted (byteVectorToUint q.mCrAuthFvAndMac.1)]) ∧
      q'.mFvStateManager.mCurrentFvState = some .idle ∧ q'.mIsFvValid = true ∧
      q'.mFV = byteVectorToUint q.mCrAuthFvAndMac.1 := by
  have hgo : ¬ (!q.mInitialized) = true := by simp [hready.mInitialized]
  have haction : q.processAnAuthenticFv csm =
      .ok (.kSuccess, (q.adoptAuthenticFv.transiteTo .idle).clearCrAuthFvAndMac,
        [.adopted (byteVectorToUint q.mCrAuthFvAndMac.1)]) := by
    unfold processAnAuthenticFv
    rw [if_neg hvalue, hverify]
    rfl
  have hidle : (q.mFvStateManager.transiteTo .idle).mCurrentFvState = some .idle :=
    hready.registered.current_transiteTo .idle
  -- the clock starts anew and is far from the next increment
  have hshows : Shows q.adoptAuthenticFv.toAFreshnessValueManagerImpl
      (byteVectorToUint q.mCrAuthFvAndMac.1) (Cadence.after ticksPerIncrement 0) :=
    ⟨(UInt64.add_zero _).symm, rfl⟩
  have hnext := hshows.incTimers_after hready.mInitialized rfl
  refine ⟨(q.adoptAuthenticFv.transiteTo .idle).clearCrAuthFvAndMac.incTimers, ?_, hidle,
    AFreshnessValueManagerImpl.mIsFvValid_incTimers, hnext.mFV.trans (UInt64.add_zero _)⟩
  unfold mainFunction enter
  rw [if_neg hgo, hready.registered.enter hstate]
  dsimp only [StateAction.ofState, stateAction]
  rw [haction]

/-! ## The exchange -/

/-- What the server sends in answer to a challenge: a value, and a signature over
`data`. -/
structure FvResponse where
  keyId : UInt16
  value : ByteVector
  data : ByteVector
  signature : ByteVector

/-- The server answers a challenge and publishes both parts of the answer. -/
def Sends (s : FreshnessValueManagerImplServer) (services : ServerServices) (client : String)
    (challenge : ByteVector) (response : FvResponse) : Prop :=
  s.sendAuthenticFvResponse services ⟨client, challenge⟩ = .ok
    [.signaturePublished client response.signature, .valuePublished client response.value,
      .answered client response.keyId challenge s.mFV response.data response.signature]

instance (s : FreshnessValueManagerImplServer) (services : ServerServices) (client : String)
    (challenge : ByteVector) (response : FvResponse) :
    Decidable (Sends s services client challenge response) :=
  inferInstanceAs (Decidable (_ = _))

/-- `verifier` accepts with its key what `creator` creates with `keyId`, cut to the
length of a signature. -/
def AcceptsTruncated (creator : ICsmAccessor) (keyId : UInt16) (verifier : ICsmAccessor)
    (keyId' : UInt16) : Prop :=
  ∀ data mac, creator.macCreate keyId data .kAes128Cmac = .ok mac →
    verifier.macVerify keyId' data (mac.take authFvSignatureSizeBytes.toNatClampNeg)
      .kAes128Cmac = .ok .kSuccess

/-- Two accessors with the same providers have the same key. -/
theorem acceptsTruncated_toICsmAccessor (ara : AraCrypto) (keyId keyId' : UInt16) :
    AcceptsTruncated (CsmAccessorAraCrypto.toICsmAccessor ara) keyId
      (CsmAccessorAraCrypto.toICsmAccessor ara) keyId' := by
  intro data mac hmac
  exact CsmAccessorAraCrypto.macVerify_eq_success_iff.mpr ⟨mac, hmac, List.take_prefix _ _⟩

variable {s : FreshnessValueManagerImplServer} {services : ServerServices} {client : String}
variable {challenge : ByteVector} {response : FvResponse}

/-- What the server signed and published. -/
theorem Sends.spec (hsends : Sends s services client challenge response) :
    response.value = uintToByteVectorTrim s.mFV 7 ∧
      response.data = challenge ++ uintToByteVectorTrim s.mFV 7 ∧
      response.signature.length = authFvSignatureSizeBytes.toNatClampNeg ∧
      ∃ mac, (services.mCsmAccessor client).macCreate response.keyId response.data .kAes128Cmac =
          .ok mac ∧
        response.signature = mac.take authFvSignatureSizeBytes.toNatClampNeg := by
  have hanswered := FreshnessValueManagerImplServer.answered_of_sendAuthenticFvResponse hsends
    (List.mem_cons_of_mem _ (List.mem_cons_of_mem _ List.mem_cons_self))
  obtain ⟨-, -, -, hlength⟩ := hanswered
  have hresponse := response_of_sendAuthenticFvResponse hsends
  generalize hevents : [ServerEvent.signaturePublished client response.signature,
    .valuePublished client response.value,
    .answered client response.keyId challenge s.mFV response.data response.signature] = events
    at hresponse
  cases hresponse with
  | unsigned hmac => cases hevents
  | unsent hmac hvalue => cases hevents
  | halfSent hmac hvalue hsignature => cases hevents
  | sent hmac hvalue hsignature =>
    simp only [madeFor, List.cons.injEq, ServerEvent.signaturePublished.injEq,
      ServerEvent.valuePublished.injEq, ServerEvent.answered.injEq, true_and, and_true] at hevents
    obtain ⟨hsigned, hvalueEq, hkey, hdata, -⟩ := hevents
    unfold macRes at hmac
    rw [← hkey, ← hdata] at hmac
    exact ⟨hvalueEq, hdata, hlength, _, hmac, hsigned⟩

/-- The server answers the challenge of the participant, and the two parts of the
answer arrive.  Between `p` and `q` the participant is not disturbed, and in `q` the
main function may come.  `csm` is the crypto accessor that it will verify with. -/
structure HonestExchange (receive : String → SciValue → ReceivedSignal)
    (s : FreshnessValueManagerImplServer) (services : ServerServices) (client : String)
    (response : FvResponse) (p : FreshnessValueManagerImplParticipant)
    (h : List ParticipantEvent) (csm : ICsmAccessor)
    (q : FreshnessValueManagerImplParticipant) : Prop where
  state : p.mFvStateManager.mCurrentFvState = some .fvInProgress
  empty : p.mCrAuthFvAndMac = ([], [])
  mFV : s.mFV.toNat < 2 ^ 56
  sends : Sends s services client p.mActiveFvChallenge response
  sameKey : AcceptsTruncated (services.mCsmAccessor client) response.keyId csm
    p.mFvmConfAccessor.getEcuKeyIdForFvDistribution
  arrives : ∃ value signature one other,
    Carried receive (valueName p) response.value value ∧
      Carried receive (signatureName p) response.signature signature ∧
      (one = (valueName p, value) ∧ other = (signatureName p, signature) ∨
        one = (signatureName p, signature) ∧ other = (valueName p, value)) ∧
      Collects p h one other q

/-- The participant verifies what the server signed, and the call of the main function
that verifies it ends in `Idle` with the freshness value of the server. -/
def Completes (q : FreshnessValueManagerImplParticipant) (csm : ICsmAccessor)
    (signals : ISignalManager) (data : ByteVector) (fv : UInt64) : Prop :=
  q.payloadForVerification = data ∧
    ∃ q', q.mainFunction csm signals =
        .ok (.kSuccess, q', [.mainFunctionCompleted, .adopted fv]) ∧
      q'.mFvStateManager.mCurrentFvState = some .idle ∧ q'.mIsFvValid = true ∧ q'.mFV = fv

/-- Run lemma: the key is the configured one. -/
theorem hasConfiguredKey_of_run (hfirst : p₀.FirstInit)
    (hrun : Run participantStep Anything p₀ [] p h) : HasConfiguredKey p := by
  refine hrun.stateInvariant HasConfiguredKey (hasConfiguredKey_of_firstInit hfirst) ?_
  intro p h op q es hkey _ hstep
  have hconfig := (sameSetup_of_participantStep hstep).mFvmConfAccessor
  unfold HasConfiguredKey at hkey ⊢
  rw [mEcuKeyIdForFvDistribution_of_participantStep hstep, hconfig]
  exact hkey

/-- **An honest exchange completes.**  From every state that a participant reaches
after its first `Init`: when it waits for an answer and has no part of one, and the
server answers its challenge, and SCI carries the value and the signature to it in
either order before the request times out, then the participant verifies the bytes
that the server signed, and adopts the freshness value of the server. -/
theorem honest_exchange_completes {receive : String → SciValue → ReceivedSignal}
    (hsci : IntegersArrive receive) (hfirst : p₀.FirstInit)
    (hrun : Run participantStep Anything p₀ [] p h) (hnames : valueName p ≠ signatureName p)
    (hexchange : HonestExchange receive s services client response p h csm q) :
    Completes q csm signals response.data s.mFV := by
  have hready : Ready p := ready_of_run hfirst.spec.1 hrun
  obtain ⟨hvalueEq, hdata, hlength, mac, hmac, hsignature⟩ := hexchange.sends.spec
  obtain ⟨value, signature, one, other, hvalue, hsigned, horder, hcollects⟩ := hexchange.arrives
  have htrim : (uintToByteVectorTrim s.mFV 7).length = 7 :=
    length_uintToByteVectorTrim _ (by decide)
  have hlength' : response.signature.length = 8 := hlength
  -- seven bytes arrive with a zero in front of them, eight as they are
  have hvalue' : value = 0 :: uintToByteVectorTrim s.mFV 7 := by
    rw [hvalue.eq_padded hsci (by rw [hvalueEq]; omega), hvalueEq, htrim]
    rfl
  have hsignature' : signature = response.signature := by
    rw [hsigned.eq_padded hsci (by omega), hlength']
    rfl
  have hnonempty : signature ≠ [] := by
    intro hempty
    rw [hsignature'] at hempty
    rw [hempty] at hlength'
    cases hlength'
  have hreaches := reaches_of_collects hready hexchange.state hexchange.empty hnames
    (by rw [hvalue']; simp) hnonempty horder hcollects
  have hchallenge : q.mActiveFvChallenge = p.mActiveFvChallenge :=
    congrArg RequestCycle.challenge hreaches.cycle
  have hreceivedValue : q.mCrAuthFvAndMac.1 = value := congrArg RequestCycle.value hreaches.cycle
  have hreceivedSignature : q.mCrAuthFvAndMac.2 = signature :=
    congrArg RequestCycle.signature hreaches.cycle
  have hkey : q.mEcuKeyIdForFvDistribution = p.mFvmConfAccessor.getEcuKeyIdForFvDistribution :=
    hreaches.mEcuKeyIdForFvDistribution.trans (hasConfiguredKey_of_run hfirst hrun)
  have hpayload : q.payloadForVerification = response.data := by
    rw [payloadForVerification, hchallenge, hreceivedValue, hvalue', hdata]
    rfl
  have hverify : q.verifyRes csm = .ok .kSuccess := by
    rw [verifyRes, hkey, hpayload, hreceivedSignature, hsignature', hsignature]
    exact hexchange.sameKey _ _ hmac
  have hadopted : byteVectorToUint q.mCrAuthFvAndMac.1 = s.mFV := by
    rw [hreceivedValue, hvalue', byteVectorToUint_zero_cons_trim hexchange.mFV]
  have hstate : q.requestCycle.state = some .processFV := hreaches.state_eq
  have hstored : q.mCrAuthFvAndMac.1 ≠ [] := by
    rw [hreceivedValue, hvalue']
    simp
  have hcompletes := mainFunction_of_verified hreaches.ready hstate hstored hverify signals
  rw [hadopted] at hcompletes
  exact ⟨hpayload, hcompletes⟩

/-! ## Exchanges on concrete inputs -/

/-- Calls of the main function. -/
def mainFunctions (n : Nat) : List ParticipantOp :=
  .replicate n (.mainFunction zeroDigestCsm reliableSignals)

/-- A document with these names for the two signals. -/
def exchangeDocument (valueName signatureName : String) : Json := .object
  [("version", .integer 1), ("network_interface", .string "eth0"), ("ecu_name", .string "SINK"),
    ("ecu_key_id_auth_fv", .integer 123), ("auth_br_config", .array []),
    ("challenge_response_config",
      .array [FvmConfigParser.challengeElement 0 "CHALLENGE" "CR"]),
    ("unauthenticated_fv_signal_config", FvmConfigParser.signalDocument "SOK_Zeit"),
    ("authenticated_fv_value_signal_config", FvmConfigParser.signalDocument valueName),
    ("authenticated_fv_signature_signal_config", FvmConfigParser.signalDocument signatureName),
    ("authenticated_fv_value_challenge_config", FvmConfigParser.signalDocument "Challenge"),
    ("key_config", .array []), ("clients_signals_config", .array [])]

/-- The signal of an element `signalDocument name`. -/
def exchangeSignal (name : String) : SignalConfig :=
  { pduConfig :=
      { frameConfig :=
          { name := "FRAME"
            maxPayloadSizeBytes := 64
            sourceIp := "10.0.0.1"
            destinationIp := "10.0.0.2"
            sourcePort := 1
            destinationPort := 2 }
        name := "PDU"
        id := 1
        lengthBytes := 16 }
    name := name
    startByte := 0
    lengthInBits := 64 }

/-- The configuration of that document. -/
def exchangeConfig (valueName signatureName : String) : SokFmConfig :=
  { (default : SokFmConfig) with
    mNetworkInterface := "eth0"
    mEcuName := "SINK"
    mKeyIdForAuthFvDistribution := 123
    mChallengesConfig := AList.insert 0
      { type := .kVwSokFreshnessCrChallenge, challengeSignalConfig := exchangeSignal "CR" } ∅
    mUnAuthFvDistributionSignal := exchangeSignal "SOK_Zeit"
    mAuthFvChallengeSignal := exchangeSignal "Challenge"
    mAuthFvValueSignal := exchangeSignal valueName
    mAuthFvSignatureSignal := exchangeSignal signatureName }

/-- A participant after its first `Init` with that configuration. -/
def participantWith (valueName signatureName : String) : FreshnessValueManagerImplParticipant :=
  derivedClass.initialised (reliableInit (exchangeConfig valueName signatureName))
    (.construct .construct)

/-- The participant after its request, and what happened until then. -/
def requesting (valueName signatureName : String) :
    FreshnessValueManagerImplParticipant × List ParticipantEvent :=
  execState participantStep (participantWith valueName signatureName) [] (mainFunctions 1)

/-- What `firstServer` answers to it. -/
def answerOfFirstServer : FvResponse :=
  { keyId := 132
    value := .replicate 7 7
    data := .replicate 15 7
    signature := .replicate 8 0 }

/-- An exchange with that answer. -/
theorem honestExchange_firstServer
    (hstate : p.mFvStateManager.mCurrentFvState = some .fvInProgress)
    (hempty : p.mCrAuthFvAndMac = ([], [])) (hchallenge : p.mActiveFvChallenge = .replicate 8 7)
    (hcollects : Collects p h (valueName p, 0 :: .replicate 7 7)
      (signatureName p, .replicate 8 0) q) :
    HonestExchange directSci firstServer reliableServices "SINK" answerOfFirstServer p h
      zeroDigestCsm q := by
  have hvalue : Carried directSci (valueName p) answerOfFirstServer.value
      (0 :: .replicate 7 7) :=
    ⟨.construct, reliableClient, default, .rawValue 0x07070707070707, by decide +kernel, rfl⟩
  have hsignature : Carried directSci (signatureName p) answerOfFirstServer.signature
      (.replicate 8 0) :=
    ⟨.construct, reliableClient, default, .rawValue 0, by decide +kernel, rfl⟩
  refine ⟨hstate, hempty, by decide +kernel, ?_, acceptsTruncated_toICsmAccessor _ _ _,
    _, _, _, _, hvalue, hsignature, Or.inl ⟨rfl, rfl⟩, hcollects⟩
  rw [hchallenge]
  decide +kernel

/-- The value arrives three calls of the main function later, and the signature after
two more. -/
theorem honest_exchange_completes_value_first :
    ∃ q, HonestExchange directSci firstServer reliableServices "SINK" answerOfFirstServer
        (requesting "Zeit" "Signatur").1 (requesting "Zeit" "Signatur").2 zeroDigestCsm q ∧
      Completes q zeroDigestCsm reliableSignals (.replicate 15 7) 0x07070707070707 := by
  have hfirst : (participantWith "Zeit" "Signatur").FirstInit :=
    ⟨_, DerivedClass.init_eq_initialised (by decide +kernel)⟩
  have hrun : Run participantStep Anything (participantWith "Zeit" "Signatur") []
      (requesting "Zeit" "Signatur").1 (requesting "Zeit" "Signatur").2 :=
    .of_execState (mainFunctions 1) (by decide +kernel) (by decide +kernel)
  have hexchange := honestExchange_firstServer (p := (requesting "Zeit" "Signatur").1)
    (h := (requesting "Zeit" "Signatur").2) (by decide +kernel) (by decide +kernel)
    (by decide +kernel)
    ⟨.of_execState (mainFunctions 3) (by decide +kernel) (by decide +kernel), rfl,
      .of_execState (mainFunctions 2) (by decide +kernel) (by decide +kernel), rfl, .refl⟩
  exact ⟨_, hexchange, honest_exchange_completes integersArrive_directSci hfirst hrun
    (by decide +kernel) hexchange⟩

/-- The two signals have one name, which `Parse` accepts: the signature is stored as
the value, and the answer never becomes complete. -/
theorem same_names_do_not_complete :
    FvmConfigParser.parse (fun _ => some (exchangeDocument "Zeit" "Zeit")) .construct "document"
        default = .ok (true, { mSchema := true }, exchangeConfig "Zeit" "Zeit") ∧
      IntegersArrive directSci ∧ (participantWith "Zeit" "Zeit").FirstInit ∧
      Run participantStep Anything (participantWith "Zeit" "Zeit") []
        (requesting "Zeit" "Zeit").1 (requesting "Zeit" "Zeit").2 ∧
      ∃ q, HonestExchange directSci firstServer reliableServices "SINK" answerOfFirstServer
          (requesting "Zeit" "Zeit").1 (requesting "Zeit" "Zeit").2 zeroDigestCsm q ∧
        ¬ Completes q zeroDigestCsm reliableSignals answerOfFirstServer.data firstServer.mFV := by
  have hfirst : (participantWith "Zeit" "Zeit").FirstInit :=
    ⟨_, DerivedClass.init_eq_initialised (by decide +kernel)⟩
  have hexchange := honestExchange_firstServer (p := (requesting "Zeit" "Zeit").1)
    (h := (requesting "Zeit" "Zeit").2) (by decide +kernel) (by decide +kernel)
    (by decide +kernel) ⟨.refl, rfl, .refl, rfl, .refl⟩
  refine ⟨rfl, integersArrive_directSci,
    hfirst, .of_execState (mainFunctions 1) (by decide +kernel) (by decide +kernel), _, hexchange,
    ?_⟩
  intro hcompletes
  have hpayload := hcompletes.1
  revert hpayload
  decide +kernel

end Sok.Fvm
