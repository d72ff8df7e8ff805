import SokFvm.Library.TimedSlot
import SokFvm.Fvm.Lifecycle

/-!
# Runs of the challenge-response protocol

A manager keeps two maps of challenges.  As a consumer it keeps, for each
identifier, the challenge that it has sent last and whose response is not yet
verified.  As a producer it keeps the challenge that it has received last and has
not yet given out.  Each entry has the time at which it was stored, and a challenge
that is younger than the timeout is not replaced.

The machine is the one of `ManagerRun`; its events are those of the protocol.  What
an event says is taken from the call: the bytes that were published, the bytes that
came with the signal, the bytes that were given out.  `ChallengeEffect` is what a
step does to the two maps and to the clock, with one constructor for each event, and
`challengeEffect` that every step is one of these.

An entry of either map is a `TimedSlot`: `consumerSlot_of_run` and
`producerSlot_of_run` are the invariants.
-/

namespace Sok.Fvm

open Sok.Common StateMachine TimedSlot AFreshnessValueManagerImpl

/-- What happens in the protocol. -/
inductive ChallengeEvent
  /-- `TriggerCrRequest` was successful: the challenge was published. -/
  | triggered (id : SokFreshnessValueId) (challenge : ByteVector) (time : UInt64)
  /-- `VerificationStatusCallout` reported a success. -/
  | confirmed (id : SokFreshnessValueId)
  /-- A challenge signal was accepted: the call-back was run. -/
  | accepted (id : SokFreshnessValueId) (challenge : ByteVector) (time : UInt64)
  /-- `GetTxFreshness` was successful. -/
  | served (id : SokFreshnessValueId) (bytes : ByteVector)
  | ticked
  deriving DecidableEq, Repr

/-- The events of a call. -/
def challengeEvents (s : AFreshnessValueManagerImpl) : ManagerOp → List ChallengeEvent
  | .triggerCrRequest csm signals id =>
    match csm.generateRandomBytes challengeLengthBytes with
    | .error _ => []
    | .ok challenge =>
      if (s.triggerCrRequest csm signals id).1 = .kSuccess then
        [.triggered id challenge s.mTimeSinceInit]
      else []
  | .verificationStatusCallout status =>
    if status.verificationSucceeded then [.confirmed status.fvId] else []
  | .incomingChallengeSignal signal challenge =>
    match (s.incomingChallengeSignalCb signal challenge).1 with
    | none => []
    | some (_, id) => [.accepted id challenge s.mTimeSinceInit]
  | .getTxFreshness id =>
    match (s.getTxFreshness id).1 with
    | .error _ => []
    | .ok bytes => [.served id bytes]
  | .incTimers => [.ticked]
  | .getRxFreshness _ _ _ | .sPduTxConfirmation _ | .offerCrRequest _ _ | .adoptFv _
  | .invalidateFv => []

/-- The manager with the events of the protocol. -/
def challengeStep : Machine AFreshnessValueManagerImpl ManagerOp ChallengeEvent Fault :=
  fun s op => .ok ((managerNext s op).1, challengeEvents s op)

variable {s s' s₀ : AFreshnessValueManagerImpl} {id : SokFreshnessValueId} {op : ManagerOp}
variable {h : List ChallengeEvent} {csm : ICsmAccessor} {signals : ISignalManager}
variable {P : Guard AFreshnessValueManagerImpl ManagerOp ChallengeEvent}

/-! ## What a step does -/

/-- A call that has nothing to do with the protocol. -/
structure SamePending (s s' : AFreshnessValueManagerImpl) : Prop where
  outgoing : s'.mActiveOutgoingChallenges = s.mActiveOutgoingChallenges
  incoming : s'.mActiveIncomingChallenges = s.mActiveIncomingChallenges
  time : s'.mTimeSinceInit = s.mTimeSinceInit

/-- What a step does to the challenges and to the clock. -/
inductive ChallengeEffect (s : AFreshnessValueManagerImpl) :
    List ChallengeEvent → AFreshnessValueManagerImpl → Prop
  | quiet {s' : AFreshnessValueManagerImpl} (hsame : SamePending s s') : ChallengeEffect s [] s'
  | ticks {s' : AFreshnessValueManagerImpl}
      (hout : s'.mActiveOutgoingChallenges = s.mActiveOutgoingChallenges)
      (hin : s'.mActiveIncomingChallenges = s.mActiveIncomingChallenges)
      (htime : s'.mTimeSinceInit = s.mTimeSinceInit + sokFmMainFunctionPeriodMs.toUInt64) :
      ChallengeEffect s [.ticked] s'
  | triggers {s' : AFreshnessValueManagerImpl} (id : SokFreshnessValueId) (challenge : ByteVector)
      (hlength : challenge.length = challengeLengthBytes.toNat)
      (hexpired : s.challengeUndergoing s.mActiveOutgoingChallenges id = false)
      (hout : s'.mActiveOutgoingChallenges =
        s.mActiveOutgoingChallenges.insert id (s.mTimeSinceInit, challenge))
      (hin : s'.mActiveIncomingChallenges = s.mActiveIncomingChallenges)
      (htime : s'.mTimeSinceInit = s.mTimeSinceInit) :
      ChallengeEffect s [.triggered id challenge s.mTimeSinceInit] s'
  /-- The challenge is discarded if the identifier is one of a consumer. -/
  | confirms {s' : AFreshnessValueManagerImpl} (id : SokFreshnessValueId)
      (hout : s'.mActiveOutgoingChallenges =
        if s.mFvmConfAccessor.getEntryTypeByFvId id = .ok .kVwSokFreshnessCrChallenge then
          s.mActiveOutgoingChallenges.erase id
        else s.mActiveOutgoingChallenges)
      (hin : s'.mActiveIncomingChallenges = s.mActiveIncomingChallenges)
      (htime : s'.mTimeSinceInit = s.mTimeSinceInit) : ChallengeEffect s [.confirmed id] s'
  | accepts {s' : AFreshnessValueManagerImpl} (id : SokFreshnessValueId) (challenge : ByteVector)
      (hlength : challenge.length = challengeLengthBytes.toNat)
      (hexpired : s.challengeUndergoing s.mActiveIncomingChallenges id = false)
      (hout : s'.mActiveOutgoingChallenges = s.mActiveOutgoingChallenges)
      (hin : s'.mActiveIncomingChallenges =
        s.mActiveIncomingChallenges.insert id (s.mTimeSinceInit, challenge))
      (htime : s'.mTimeSinceInit = s.mTimeSinceInit) :
      ChallengeEffect s [.accepted id challenge s.mTimeSinceInit] s'
  /-- A producer gives out the challenge and discards it. -/
  | responds {s' : AFreshnessValueManagerImpl} (id : SokFreshnessValueId) (time : UInt64)
      (bytes : ByteVector)
      (hpending : s.mActiveIncomingChallenges.lookup id = some (time, bytes))
      (hout : s'.mActiveOutgoingChallenges = s.mActiveOutgoingChallenges)
      (hin : s'.mActiveIncomingChallenges = s.mActiveIncomingChallenges.erase id)
      (htime : s'.mTimeSinceInit = s.mTimeSinceInit) : ChallengeEffect s [.served id bytes] s'
  /-- A freshness value is given out. -/
  | serves {s' : AFreshnessValueManagerImpl} (id : SokFreshnessValueId) (bytes : ByteVector)
      (htype : s.mFvmConfAccessor.getEntryTypeByFvId id ≠ .ok .kVwSokFreshnessCrResponse)
      (hsame : SamePending s s') : ChallengeEffect s [.served id bytes] s'

/-- A trigger that fails changes nothing. -/
theorem triggerCrRequest_cases (csm : ICsmAccessor) (signals : ISignalManager)
    (id : SokFreshnessValueId) :
    ((s.triggerCrRequest csm signals id).1 ≠ .kSuccess ∧
        (s.triggerCrRequest csm signals id).2 = s) ∨
      ∃ challenge, csm.generateRandomBytes challengeLengthBytes = .ok challenge ∧
        s.challengeUndergoing s.mActiveOutgoingChallenges id = false ∧
        s.triggerCrRequest csm signals id = (.kSuccess, { s with
          mActiveOutgoingChallenges :=
            s.mActiveOutgoingChallenges.insert id (s.mTimeSinceInit, challenge) }) := by
  unfold triggerCrRequest
  split
  · exact Or.inl ⟨by simp, rfl⟩
  · rename_i hexpired
    split
    · exact Or.inl ⟨by simp, rfl⟩
    · split
      · exact Or.inl ⟨by simp, rfl⟩
      · rename_i challenge hrandom
        split
        · exact Or.inl ⟨by simp, rfl⟩
        · exact Or.inr ⟨challenge, hrandom, Bool.eq_false_of_not_eq_true hexpired, rfl⟩

theorem challengeEffect_triggerCrRequest :
    ChallengeEffect s (challengeEvents s (.triggerCrRequest csm signals id))
      (s.triggerCrRequest csm signals id).2 := by
  unfold challengeEvents
  dsimp only
  rcases triggerCrRequest_cases (s := s) csm signals id with
    ⟨hfailed, hsame⟩ | ⟨challenge, hrandom, hexpired, hsuccess⟩
  · rw [hsame]
    split
    · exact .quiet ⟨rfl, rfl, rfl⟩
    · rw [if_neg hfailed]
      exact .quiet ⟨rfl, rfl, rfl⟩
  · rw [hrandom, hsuccess]
    dsimp only
    rw [if_pos rfl]
    exact .triggers id challenge (csm.length_generateRandomBytes _ _ hrandom) hexpired rfl rfl rfl

/-! ### The freshness calls -/

/-- Only the attribute table and the candidate lists have changed. -/
def OnlyEntries (s s' : AFreshnessValueManagerImpl) : Prop :=
  s' = { s with mAttrMgr := s'.mAttrMgr, mFvRxCandidates := s'.mFvRxCandidates }

theorem OnlyEntries.trans {s₁ s₂ s₃ : AFreshnessValueManagerImpl} (first : OnlyEntries s₁ s₂)
    (second : OnlyEntries s₂ s₃) : OnlyEntries s₁ s₃ := by
  unfold OnlyEntries at *
  rw [second, first]

theorem OnlyEntries.samePending (honly : OnlyEntries s s') : SamePending s s' := by
  rw [honly]
  exact ⟨rfl, rfl, rfl⟩

theorem onlyEntries_consumeSessionCounter (id : SokFreshnessValueId) (type : SokFreshnessType) :
    OnlyEntries s (s.consumeSessionCounter id type) := by
  rw [consumeSessionCounter_eq]
  exact rfl

theorem onlyEntries_acceptReception (type : SokFreshnessType) :
    OnlyEntries s (s.acceptReception id type) := by
  refine (onlyEntries_consumeSessionCounter id type).trans ?_
  unfold acceptReception activateOnFirstUse
  dsimp only
  split
  · exact rfl
  · exact rfl

theorem onlyEntries_getRxFv (type : SokFreshnessType) (truncated : FVContainer)
    (attempts : UInt16) : OnlyEntries s (s.getRxFv id type truncated attempts).2 := by
  cases hcached : s.candidates id with
  | some rxCandList =>
    rw [getRxFv_of_cached hcached]
    split
    · exact rfl
    · exact rfl
  | none =>
    rw [getRxFv_of_uncached hcached]
    split_ifs
    · exact rfl
    · exact rfl
    · exact onlyEntries_consumeSessionCounter id type
    · exact onlyEntries_consumeSessionCounter id type
    · exact onlyEntries_acceptReception type

theorem onlyEntries_getRxFreshness (truncated : FVContainer) (attempts : UInt16) :
    OnlyEntries s (s.getRxFreshness id truncated attempts).2 := by
  rcases s.getRxFreshness_cases id truncated attempts with hsame | ⟨type, -, -, -, hpath⟩
  · rw [hsame]
    exact rfl
  · rw [hpath]
    exact onlyEntries_getRxFv _ _ _

theorem onlyEntries_getTxFv (type : SokFreshnessType) : OnlyEntries s (s.getTxFv id type).2 := by
  have hchoose : OnlyEntries s (s.chooseTxFv id).2 := by
    unfold chooseTxFv
    split_ifs
    · exact rfl
    · exact rfl
    · exact rfl
    · exact rfl
  unfold getTxFv
  dsimp only
  split
  · exact hchoose.trans rfl
  · exact hchoose

theorem onlyEntries_updateVerificationStatusAuthBroadcast (verificationSucceeded : Bool) :
    OnlyEntries s (s.updateVerificationStatusAuthBroadcast id verificationSucceeded) := by
  unfold updateVerificationStatusAuthBroadcast
  split
  · exact rfl
  · exact rfl

/-! ### The calls of the protocol -/

/-- A successful verification discards the challenge of a consumer. -/
theorem verificationStatusCallout_cases (id : SokFreshnessValueId) :
    (s.mFvmConfAccessor.getEntryTypeByFvId id = .ok .kVwSokFreshnessCrChallenge ∧
        s.verificationStatusCallout ⟨id, true⟩ =
          { s with mActiveOutgoingChallenges := s.mActiveOutgoingChallenges.erase id }) ∨
      s.mFvmConfAccessor.getEntryTypeByFvId id ≠ .ok .kVwSokFreshnessCrChallenge ∧
        OnlyEntries s (s.verificationStatusCallout ⟨id, true⟩) := by
  unfold verificationStatusCallout
  split
  · rename_i failure htype
    refine Or.inr ⟨?_, rfl⟩
    simp [htype]
  · rename_i htype
    exact Or.inl ⟨htype, rfl⟩
  · rename_i htype
    refine Or.inr ⟨?_, onlyEntries_updateVerificationStatusAuthBroadcast true⟩
    simp [htype]
  · rename_i htype
    refine Or.inr ⟨?_, onlyEntries_updateVerificationStatusAuthBroadcast true⟩
    simp [htype]
  · rename_i type hchallenge _ _ htype
    refine Or.inr ⟨?_, rfl⟩
    rw [htype]
    simpa using hchallenge

theorem challengeEffect_verificationStatusCallout (status : SecOCVerificationStatusType) :
    ChallengeEffect s (challengeEvents s (.verificationStatusCallout status))
      (s.verificationStatusCallout status) := by
  obtain ⟨id, succeeded⟩ := status
  cases succeeded with
  | false =>
    rw [verificationStatusCallout_of_failed]
    exact .quiet ⟨rfl, rfl, rfl⟩
  | true =>
    show ChallengeEffect s [.confirmed id] (s.verificationStatusCallout ⟨id, true⟩)
    rcases verificationStatusCallout_cases (s := s) id with ⟨htype, herased⟩ | ⟨htype, honly⟩
    · rw [herased]
      refine .confirms id ?_ rfl rfl
      rw [if_pos htype]
    · have hsame := honly.samePending
      refine .confirms id ?_ hsame.incoming hsame.time
      rw [if_neg htype]
      exact hsame.outgoing

/-- A challenge signal is accepted or changes nothing. -/
theorem incomingChallengeSignalCb_cases (signal : String) (challenge : ByteVector) :
    s.incomingChallengeSignalCb signal challenge = (none, s) ∨
      ∃ fvId cb, challenge.length = challengeLengthBytes.toNat ∧
        s.mChallengeSignalToFvId.lookup signal = some fvId ∧
        s.mFvIdToNotificationCallback.lookup fvId = some cb ∧
        s.challengeUndergoing s.mActiveIncomingChallenges fvId = false ∧
        s.incomingChallengeSignalCb signal challenge = (some (cb, fvId), { s with
          mActiveIncomingChallenges :=
            s.mActiveIncomingChallenges.insert fvId (s.mTimeSinceInit, challenge) }) := by
  unfold incomingChallengeSignalCb
  split
  · exact Or.inl rfl
  · rename_i hlength
    split
    · exact Or.inl rfl
    · rename_i fvId hregistered
      split
      · exact Or.inl rfl
      · rename_i cb hoffered
        split
        · exact Or.inl rfl
        · rename_i hexpired
          exact Or.inr ⟨fvId, cb, by simpa using hlength, hregistered, hoffered,
            Bool.eq_false_of_not_eq_true hexpired, rfl⟩

theorem challengeEffect_incomingChallengeSignal (signal : String) (challenge : ByteVector) :
    ChallengeEffect s (challengeEvents s (.incomingChallengeSignal signal challenge))
      (s.incomingChallengeSignalCb signal challenge).2 := by
  unfold challengeEvents
  dsimp only
  rcases incomingChallengeSignalCb_cases (s := s) signal challenge with
    hrefused | ⟨fvId, cb, hlength, -, -, hexpired, haccepted⟩
  · rw [hrefused]
    exact .quiet ⟨rfl, rfl, rfl⟩
  · rw [haccepted]
    exact .accepts fvId challenge hlength hexpired rfl rfl rfl

/-- A request for the freshness of an outgoing message fails and changes nothing,
takes the challenge of a producer, or gives out a freshness value. -/
theorem getTxFreshness_cases (hinit : s.mInitialized = true) (id : SokFreshnessValueId) :
    (∃ failure, s.getTxFreshness id = (.error failure, s)) ∨
      (∃ time bytes, s.mActiveIncomingChallenges.lookup id = some (time, bytes) ∧
        s.getTxFreshness id = (.ok bytes, { s with
          mActiveIncomingChallenges := s.mActiveIncomingChallenges.erase id })) ∨
      s.mFvmConfAccessor.getEntryTypeByFvId id ≠ .ok .kVwSokFreshnessCrResponse ∧
        ∃ bytes s', OnlyEntries s s' ∧ s.getTxFreshness id = (.ok bytes, s') := by
  have hgo : ¬ (!s.mInitialized) = true := by
    rw [hinit]
    decide
  unfold getTxFreshness
  rw [if_neg hgo]
  split
  · exact Or.inl ⟨_, rfl⟩
  · unfold getChallengeForOutgoingResponse
    split
    · exact Or.inl ⟨_, rfl⟩
    · rename_i activeCh hpending
      exact Or.inr (Or.inl ⟨activeCh.1, activeCh.2, hpending, rfl⟩)
  · rename_i htype
    refine Or.inr (Or.inr ⟨?_, _, _, onlyEntries_getTxFv _, rfl⟩)
    simp [htype]
  · rename_i htype
    refine Or.inr (Or.inr ⟨?_, _, _, onlyEntries_getTxFv _, rfl⟩)
    simp [htype]
  · exact Or.inl ⟨_, rfl⟩

theorem challengeEffect_getTxFreshness (hinit : s.mInitialized = true) :
    ChallengeEffect s (challengeEvents s (.getTxFreshness id)) (s.getTxFreshness id).2 := by
  unfold challengeEvents
  dsimp only
  rcases getTxFreshness_cases hinit id with ⟨failure, hfailed⟩ |
    ⟨time, bytes, hpending, hserved⟩ | ⟨htype, bytes, s', honly, hserved⟩
  · rw [hfailed]
    exact .quiet ⟨rfl, rfl, rfl⟩
  · rw [hserved]
    exact .responds id time bytes hpending rfl rfl rfl
  · rw [hserved]
    exact .serves id bytes htype honly.samePending

theorem challengeEffect_incTimers (hinit : s.mInitialized = true) :
    ChallengeEffect s [.ticked] s.incTimers := by
  refine .ticks ?_ ?_ (mTimeSinceInit_incTimers hinit)
  · rw [incTimers_eq]
  · rw [incTimers_eq]

/-- The routes of the signals and the call-backs are the same. -/
structure SameRegistrations (s s' : AFreshnessValueManagerImpl) : Prop where
  mChallengeSignalToFvId : s'.mChallengeSignalToFvId = s.mChallengeSignalToFvId
  mFvIdToNotificationCallback : s'.mFvIdToNotificationCallback = s.mFvIdToNotificationCallback

theorem OnlyEntries.sameRegistrations (honly : OnlyEntries s s') : SameRegistrations s s' := by
  rw [honly]
  exact ⟨rfl, rfl⟩

theorem sameRegistrations_of_ne_offerCrRequest (hinit : s.mInitialized = true) {op : ManagerOp}
    (hop : ∀ id cb, op ≠ .offerCrRequest id cb) : SameRegistrations s (managerNext s op).1 := by
  cases op with
  | getRxFreshness id truncated attempts =>
    exact (onlyEntries_getRxFreshness truncated attempts).sameRegistrations
  | getTxFreshness id =>
    show SameRegistrations s (s.getTxFreshness id).2
    rcases getTxFreshness_cases hinit id with ⟨failure, hfailed⟩ |
      ⟨time, bytes, -, hserved⟩ | ⟨-, bytes, s', honly, hserved⟩
    · rw [hfailed]
      exact ⟨rfl, rfl⟩
    · rw [hserved]
      exact ⟨rfl, rfl⟩
    · rw [hserved]
      exact honly.sameRegistrations
  | verificationStatusCallout status =>
    obtain ⟨id, succeeded⟩ := status
    show SameRegistrations s (s.verificationStatusCallout ⟨id, succeeded⟩)
    cases succeeded with
    | false =>
      rw [verificationStatusCallout_of_failed]
      exact ⟨rfl, rfl⟩
    | true =>
      rcases verificationStatusCallout_cases (s := s) id with ⟨-, herased⟩ | ⟨-, honly⟩
      · rw [herased]
        exact ⟨rfl, rfl⟩
      · exact honly.sameRegistrations
  | sPduTxConfirmation id => exact ⟨rfl, rfl⟩
  | triggerCrRequest csm signals id =>
    show SameRegistrations s (s.triggerCrRequest csm signals id).2
    rcases triggerCrRequest_cases (s := s) csm signals id with
      ⟨-, hsame⟩ | ⟨challenge, -, -, hsuccess⟩
    · rw [hsame]
      exact ⟨rfl, rfl⟩
    · rw [hsuccess]
      exact ⟨rfl, rfl⟩
  | offerCrRequest id cb => exact absurd rfl (hop id cb)
  | incomingChallengeSignal name challenge =>
    show SameRegistrations s (s.incomingChallengeSignalCb name challenge).2
    rcases incomingChallengeSignalCb_cases (s := s) name challenge with
      hrefused | ⟨fvId, cb, -, -, -, -, haccepted⟩
    · rw [hrefused]
      exact ⟨rfl, rfl⟩
    · rw [haccepted]
      exact ⟨rfl, rfl⟩
  | incTimers =>
    show SameRegistrations s s.incTimers
    rw [incTimers_eq]
    exact ⟨rfl, rfl⟩
  | adoptFv fv => exact ⟨rfl, rfl⟩
  | invalidateFv => exact ⟨rfl, rfl⟩

/-- No call changes the routes of the signals, and only `OfferCrRequest` for an
identifier of a producer writes a call-back. -/
theorem managerNext_registrations (hinit : s.mInitialized = true) (op : ManagerOp) :
    (managerNext s op).1.mChallengeSignalToFvId = s.mChallengeSignalToFvId ∧
      ((managerNext s op).1.mFvIdToNotificationCallback = s.mFvIdToNotificationCallback ∨
        ∃ id cb, s.mFvmConfAccessor.getEntryTypeByFvId id = .ok .kVwSokFreshnessCrResponse ∧
          (managerNext s op).1.mFvIdToNotificationCallback =
            s.mFvIdToNotificationCallback.insert id cb) := by
  by_cases hop : ∃ id cb, op = .offerCrRequest id cb
  · obtain ⟨id, cb, rfl⟩ := hop
    show (s.offerCrRequest id cb).2.mChallengeSignalToFvId = _ ∧
      ((s.offerCrRequest id cb).2.mFvIdToNotificationCallback = _ ∨
        ∃ id' cb', _ ∧ (s.offerCrRequest id cb).2.mFvIdToNotificationCallback = _)
    unfold offerCrRequest
    split
    · rename_i htype
      exact ⟨rfl, Or.inr ⟨id, cb, htype, rfl⟩⟩
    · exact ⟨rfl, Or.inl rfl⟩
  · have hsame : SameRegistrations s (managerNext s op).1 :=
      sameRegistrations_of_ne_offerCrRequest hinit fun id cb heq => hop ⟨id, cb, heq⟩
    exact ⟨hsame.mChallengeSignalToFvId, Or.inl hsame.mFvIdToNotificationCallback⟩

/-- The case distinction over the inputs. -/
theorem challengeEffect (hinit : s.mInitialized = true) (op : ManagerOp) :
    ChallengeEffect s (challengeEvents s op) (managerNext s op).1 := by
  cases op with
  | getRxFreshness id truncated attempts =>
    exact .quiet (onlyEntries_getRxFreshness truncated attempts).samePending
  | getTxFreshness id => exact challengeEffect_getTxFreshness hinit
  | verificationStatusCallout status => exact challengeEffect_verificationStatusCallout status
  | sPduTxConfirmation id => exact .quiet ⟨rfl, rfl, rfl⟩
  | triggerCrRequest csm signals id => exact challengeEffect_triggerCrRequest
  | offerCrRequest id cb =>
    refine .quiet ?_
    show SamePending s (s.offerCrRequest id cb).2
    unfold offerCrRequest
    split
    · exact ⟨rfl, rfl, rfl⟩
    · exact ⟨rfl, rfl, rfl⟩
  | incomingChallengeSignal signal challenge =>
    exact challengeEffect_incomingChallengeSignal signal challenge
  | incTimers => exact challengeEffect_incTimers hinit
  | adoptFv fv => exact .quiet ⟨rfl, rfl, rfl⟩
  | invalidateFv => exact .quiet ⟨rfl, rfl, rfl⟩

/-- The case distinction over the steps. -/
theorem challengeStep_effect {es : List ChallengeEvent} (hinit : s.mInitialized = true)
    (hstep : challengeStep s op = .ok (s', es)) : ChallengeEffect s es s' ∧ SameSetup s s' := by
  have hsetup := managerNext_effect (s := s) op
  cases Except.ok.inj hstep
  exact ⟨challengeEffect hinit op, hsetup.mInitialized, hsetup.mFvmConfAccessor⟩

/-! ## The slots -/

/-- What an event does to the challenge that a consumer has sent. -/
def outgoingKind (id : SokFreshnessValueId) : ChallengeEvent → Kind ByteVector
  | .triggered id' challenge time => if id' = id then .stores time challenge else .other
  | .confirmed id' => if id' = id then .discards else .other
  | .accepted _ _ _ | .served _ _ => .other
  | .ticked => .ticks

/-- What an event does to the challenge that a producer has received. -/
def incomingKind (id : SokFreshnessValueId) : ChallengeEvent → Kind ByteVector
  | .accepted id' challenge time => if id' = id then .stores time challenge else .other
  | .served id' _ => if id' = id then .discards else .other
  | .triggered _ _ _ | .confirmed _ => .other
  | .ticked => .ticks

/-- A slot for the challenges of an identifier, with the clock of the manager. -/
abbrev ChallengeSlot (kind : ChallengeEvent → Kind ByteVector)
    (activeChallenges : UnorderedMap SokFreshnessValueId (UInt64 × ByteVector))
    (id : SokFreshnessValueId) (mTimeSinceInit : UInt64) (h : List ChallengeEvent) : Prop :=
  Follows kind sokFmMainFunctionPeriodMs.toNat sokFmChallengeTimeoutMs.toUInt64
    (activeChallenges.lookup id) mTimeSinceInit h

/-- A challenge that is not undergoing can be replaced. -/
theorem replaceable_of_not_undergoing
    {activeChallenges : UnorderedMap SokFreshnessValueId (UInt64 × ByteVector)}
    (hexpired : s.challengeUndergoing activeChallenges id = false) (time : UInt64)
    (challenge : ByteVector) (hactive : activeChallenges.lookup id = some (time, challenge)) :
    ¬ s.mTimeSinceInit - time < sokFmChallengeTimeoutMs.toUInt64 := by
  unfold challengeUndergoing at hexpired
  rw [hactive] at hexpired
  simpa using hexpired

section Slots

variable {kind : ChallengeEvent → Kind ByteVector} {e : ChallengeEvent}
variable {activeChallenges : UnorderedMap SokFreshnessValueId (UInt64 × ByteVector)}
variable {id' : SokFreshnessValueId} {challenge : ByteVector}

/-- A challenge is stored, for this identifier or another one. -/
theorem challengeSlot_insert
    (hslot : ChallengeSlot kind activeChallenges id s.mTimeSinceInit h)
    (hkind : kind e = if id' = id then .stores s.mTimeSinceInit challenge else .other)
    (hexpired : s.challengeUndergoing activeChallenges id' = false) :
    ChallengeSlot kind (activeChallenges.insert id' (s.mTimeSinceInit, challenge)) id
      s.mTimeSinceInit (e :: h) := by
  unfold ChallengeSlot at *
  by_cases hid : id' = id
  · subst hid
    rw [if_pos rfl] at hkind
    rw [AList.lookup_insert]
    exact hslot.stores hkind (replaceable_of_not_undergoing hexpired)
  · rw [if_neg hid] at hkind
    rw [AList.lookup_insert_ne (Ne.symm hid)]
    exact hslot.other hkind

/-- A challenge is discarded, for this identifier or another one. -/
theorem challengeSlot_erase
    (hslot : ChallengeSlot kind activeChallenges id s.mTimeSinceInit h)
    (hkind : kind e = if id' = id then .discards else .other) :
    ChallengeSlot kind (activeChallenges.erase id') id s.mTimeSinceInit (e :: h) := by
  unfold ChallengeSlot at *
  by_cases hid : id' = id
  · subst hid
    rw [if_pos rfl] at hkind
    rw [AList.lookup_erase]
    exact hslot.discards hkind
  · rw [if_neg hid] at hkind
    rw [AList.lookup_erase_ne (Ne.symm hid)]
    exact hslot.other hkind

end Slots

theorem SamePending.consumerSlot (hsame : SamePending s s')
    (hslot : ChallengeSlot (outgoingKind id) s.mActiveOutgoingChallenges id s.mTimeSinceInit h) :
    ChallengeSlot (outgoingKind id) s'.mActiveOutgoingChallenges id s'.mTimeSinceInit h := by
  rw [hsame.outgoing, hsame.time]
  exact hslot

theorem SamePending.producerSlot (hsame : SamePending s s')
    (hslot : ChallengeSlot (incomingKind id) s.mActiveIncomingChallenges id s.mTimeSinceInit h) :
    ChallengeSlot (incomingKind id) s'.mActiveIncomingChallenges id s'.mTimeSinceInit h := by
  rw [hsame.incoming, hsame.time]
  exact hslot

/-- Step lemma for a consumer. -/
theorem ChallengeEffect.consumerSlot {es : List ChallengeEvent} (heffect : ChallengeEffect s es s')
    (htype : s.mFvmConfAccessor.getEntryTypeByFvId id = .ok .kVwSokFreshnessCrChallenge)
    (hslot : ChallengeSlot (outgoingKind id) s.mActiveOutgoingChallenges id s.mTimeSinceInit h) :
    ChallengeSlot (outgoingKind id) s'.mActiveOutgoingChallenges id s'.mTimeSinceInit
      (es ++ h) := by
  unfold ChallengeSlot at *
  cases heffect with
  | quiet hsame => exact hsame.consumerSlot hslot
  | ticks hout hin htime =>
    rw [hout, htime]
    exact hslot.ticks rfl
  | triggers id' challenge hlength hexpired hout hin htime =>
    rw [hout, htime]
    exact challengeSlot_insert hslot rfl hexpired
  | confirms id' hout hin htime =>
    rw [hout, htime]
    split
    · exact challengeSlot_erase hslot rfl
    · rename_i hother
      have hid : id' ≠ id := by
        rintro rfl
        exact hother htype
      exact hslot.other (if_neg hid)
  | accepts id' challenge hlength hexpired hout hin htime =>
    rw [hout, htime]
    exact hslot.other rfl
  | responds id' time bytes hpending hout hin htime =>
    rw [hout, htime]
    exact hslot.other rfl
  | serves id' bytes htype' hsame => exact hsame.consumerSlot (hslot.other rfl)

/-- Step lemma for a producer. -/
theorem ChallengeEffect.producerSlot {es : List ChallengeEvent} (heffect : ChallengeEffect s es s')
    (htype : s.mFvmConfAccessor.getEntryTypeByFvId id = .ok .kVwSokFreshnessCrResponse)
    (hslot : ChallengeSlot (incomingKind id) s.mActiveIncomingChallenges id s.mTimeSinceInit h) :
    ChallengeSlot (incomingKind id) s'.mActiveIncomingChallenges id s'.mTimeSinceInit
      (es ++ h) := by
  unfold ChallengeSlot at *
  cases heffect with
  | quiet hsame => exact hsame.producerSlot hslot
  | ticks hout hin htime =>
    rw [hin, htime]
    exact hslot.ticks rfl
  | triggers id' challenge hlength hexpired hout hin htime =>
    rw [hin, htime]
    exact hslot.other rfl
  | confirms id' hout hin htime =>
    rw [hin, htime]
    exact hslot.other rfl
  | accepts id' challenge hlength hexpired hout hin htime =>
    rw [hin, htime]
    exact challengeSlot_insert hslot rfl hexpired
  | responds id' time bytes hpending hout hin htime =>
    rw [hin, htime]
    exact challengeSlot_erase hslot rfl
  | serves id' bytes htype' hsame =>
    have hid : id' ≠ id := by
      intro hid
      subst hid
      exact htype' htype
    exact hsame.producerSlot (hslot.other (if_neg hid))

/-! ## Runs -/

/-- The invariant rule with the effects of the steps. -/
theorem challengeRun_invariant (hinit : s₀.mInitialized = true)
    (hrun : Run challengeStep P s₀ [] s h)
    (Inv : AFreshnessValueManagerImpl → List ChallengeEvent → Prop) (start : Inv s₀ [])
    (preserved : ∀ s h es s', SameSetup s₀ s → Inv s h → ChallengeEffect s es s' →
      Inv s' (es ++ h)) : SameSetup s₀ s ∧ Inv s h := by
  refine hrun.invariant (fun s h => SameSetup s₀ s ∧ Inv s h) ⟨⟨rfl, rfl⟩, start⟩ ?_
  rintro s h op s' es ⟨hsetup, hinv⟩ - hstep
  obtain ⟨heffect, hstepSetup⟩ := challengeStep_effect (hsetup.mInitialized.trans hinit) hstep
  exact ⟨hsetup.trans hstepSetup, preserved s h es s' hsetup hinv heffect⟩

/-- Run lemma for a consumer. -/
theorem consumerSlot_of_run (hfirst : s₀.FirstInit)
    (htype : s₀.mFvmConfAccessor.getEntryTypeByFvId id = .ok .kVwSokFreshnessCrChallenge)
    (hrun : Run challengeStep P s₀ [] s h) :
    SameSetup s₀ s ∧
      ChallengeSlot (outgoingKind id) s.mActiveOutgoingChallenges id s.mTimeSinceInit h := by
  have hspec := hfirst.spec
  apply challengeRun_invariant hspec.mInitialized hrun fun s h =>
    ChallengeSlot (outgoingKind id) s.mActiveOutgoingChallenges id s.mTimeSinceInit h
  · rw [hspec.mActiveOutgoingChallenges, hspec.mTimeSinceInit]
    exact follows_nil
  · intro s h es s' hsetup hslot heffect
    rw [← hsetup.mFvmConfAccessor] at htype
    exact heffect.consumerSlot htype hslot

/-- Run lemma for a producer. -/
theorem producerSlot_of_run (hfirst : s₀.FirstInit)
    (htype : s₀.mFvmConfAccessor.getEntryTypeByFvId id = .ok .kVwSokFreshnessCrResponse)
    (hrun : Run challengeStep P s₀ [] s h) :
    SameSetup s₀ s ∧
      ChallengeSlot (incomingKind id) s.mActiveIncomingChallenges id s.mTimeSinceInit h := by
  have hspec := hfirst.spec
  apply challengeRun_invariant hspec.mInitialized hrun fun s h =>
    ChallengeSlot (incomingKind id) s.mActiveIncomingChallenges id s.mTimeSinceInit h
  · rw [hspec.mActiveIncomingChallenges, hspec.mTimeSinceInit]
    exact follows_nil
  · intro s h es s' hsetup hslot heffect
    rw [← hsetup.mFvmConfAccessor] at htype
    exact heffect.producerSlot htype hslot

end Sok.Fvm
