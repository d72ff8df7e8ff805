import SokFvm.Library.Isolation
import SokFvm.Fvm.ChallengeRun
import SokFvm.Fvm.Reception

/-!
# Identifiers do not see each other

One manager serves all identifiers of an ECU, from hash maps that it keeps for all
of them: session counters, cached candidate lists, challenges in both directions
and notification call-backs.  Applications that share the manager share nothing
else, so what one of them does on its identifiers must not show in the freshness
values of another one.

`callStep` is the manager with the answers of all its calls.  `AgreeOn` says that
two managers have the same clock, the same freshness value and the same entries of
one identifier, and nothing about all other entries.  A call that concerns the
identifier reads and writes these entries only, and a call that does not leaves
them alone (`unwinding_agreeOn`).

`id_isolation` is the result: two executions whose inputs are the same up to calls
on other identifiers give the same answers on this one.
-/

namespace Sok.Fvm

open Sok.Common StateMachine AFreshnessValueManagerImpl FvmRuntimeAttributesManager

/-! ## The manager with its answers -/

/-- The answer of a call. -/
inductive CallAnswer
  | rx (id : SokFreshnessValueId) (truncated : FVContainer) (attempts : UInt16)
      (result : FreshnessResult)
  | tx (id : SokFreshnessValueId) (result : FreshnessResult)
  | triggered (id : SokFreshnessValueId) (code : FvmErrorCode)
  | offered (id : SokFreshnessValueId) (code : FvmErrorCode)
  /-- The call-back is run. -/
  | notified (id : SokFreshnessValueId) (cb : ChallengeReceivedIndicationCb)

/-- The identifier that an answer is about. -/
def CallAnswer.subject : CallAnswer → SokFreshnessValueId
  | .rx id _ _ _ | .tx id _ | .triggered id _ | .offered id _ | .notified id _ => id

def callAnswers (s : AFreshnessValueManagerImpl) : ManagerOp → List CallAnswer
  | .getRxFreshness id truncated attempts =>
    [.rx id truncated attempts (s.getRxFreshness id truncated attempts).1]
  | .getTxFreshness id => [.tx id (s.getTxFreshness id).1]
  | .triggerCrRequest csm signals id => [.triggered id (s.triggerCrRequest csm signals id).1]
  | .offerCrRequest id cb => [.offered id (s.offerCrRequest id cb).1]
  | .incomingChallengeSignal signal challenge =>
    match (s.incomingChallengeSignalCb signal challenge).1 with
    | none => []
    | some (cb, id) => [.notified id cb]
  | .verificationStatusCallout _ | .sPduTxConfirmation _ | .incTimers | .adoptFv _
  | .invalidateFv => []

/-- The manager as a machine, with the answers of its calls. -/
def callStep : Machine AFreshnessValueManagerImpl ManagerOp CallAnswer Fault :=
  fun s op => .ok ((managerNext s op).1, callAnswers s op)

/-- The calls on an identifier, and what changes the clock or the freshness value.
Challenge signals are registered under `names`. -/
def ManagerOp.Concerns (names : UnorderedMap String SokFreshnessValueId)
    (id : SokFreshnessValueId) : ManagerOp → Prop
  | .getRxFreshness id' _ _ | .getTxFreshness id' | .sPduTxConfirmation id'
  | .triggerCrRequest _ _ id' | .offerCrRequest id' _ => id' = id
  | .verificationStatusCallout status => status.fvId = id
  | .incomingChallengeSignal signal _ => names.lookup signal = some id
  | .incTimers | .adoptFv _ | .invalidateFv => True

instance (names : UnorderedMap String SokFreshnessValueId) (id : SokFreshnessValueId) :
    DecidablePred (ManagerOp.Concerns names id)
  | .getRxFreshness id' _ _ | .getTxFreshness id' | .sPduTxConfirmation id'
  | .triggerCrRequest _ _ id' | .offerCrRequest id' _ => inferInstanceAs (Decidable (id' = id))
  | .verificationStatusCallout status => inferInstanceAs (Decidable (status.fvId = id))
  | .incomingChallengeSignal signal _ =>
    inferInstanceAs (Decidable (names.lookup signal = some id))
  | .incTimers | .adoptFv _ | .invalidateFv => .isTrue trivial

/-! ## Managers that agree on an identifier -/

/-- The configuration, the registered challenge signals, the clock, the freshness value and
the entries of one identifier are the same. -/
structure AgreeOn (names : UnorderedMap String SokFreshnessValueId) (id : SokFreshnessValueId)
    (s t : AFreshnessValueManagerImpl) : Prop where
  context : SameContext s t
  candidates : t.candidates id = s.candidates id
  attributes : t.attributes id = s.attributes id
  outgoing : t.mActiveOutgoingChallenges.lookup id = s.mActiveOutgoingChallenges.lookup id
  incoming : t.mActiveIncomingChallenges.lookup id = s.mActiveIncomingChallenges.lookup id
  callback : t.mFvIdToNotificationCallback.lookup id = s.mFvIdToNotificationCallback.lookup id
  names_left : s.mChallengeSignalToFvId = names
  names_right : t.mChallengeSignalToFvId = names

variable {names : UnorderedMap String SokFreshnessValueId} {id : SokFreshnessValueId}
variable {s s' t t' : AFreshnessValueManagerImpl} {op : ManagerOp}

theorem AgreeOn.refl (hnames : s.mChallengeSignalToFvId = names) : AgreeOn names id s s :=
  ⟨⟨rfl, rfl, rfl, rfl, rfl, rfl⟩, rfl, rfl, rfl, rfl, rfl, hnames, hnames⟩

theorem AgreeOn.symm (hagree : AgreeOn names id s t) : AgreeOn names id t s :=
  ⟨⟨hagree.context.mInitialized.symm, hagree.context.mIsFvValid.symm,
      hagree.context.mTimeSinceInit.symm, hagree.context.mClockCount.symm,
      hagree.context.mFV.symm, hagree.context.mFvmConfAccessor.symm⟩,
    hagree.candidates.symm, hagree.attributes.symm, hagree.outgoing.symm, hagree.incoming.symm,
    hagree.callback.symm, hagree.names_right, hagree.names_left⟩

theorem AgreeOn.trans {u : AFreshnessValueManagerImpl} (first : AgreeOn names id s t)
    (second : AgreeOn names id t u) : AgreeOn names id s u :=
  ⟨⟨second.context.mInitialized.trans first.context.mInitialized,
      second.context.mIsFvValid.trans first.context.mIsFvValid,
      second.context.mTimeSinceInit.trans first.context.mTimeSinceInit,
      second.context.mClockCount.trans first.context.mClockCount,
      second.context.mFV.trans first.context.mFV,
      second.context.mFvmConfAccessor.trans first.context.mFvmConfAccessor⟩,
    second.candidates.trans first.candidates, second.attributes.trans first.attributes,
    second.outgoing.trans first.outgoing, second.incoming.trans first.incoming,
    second.callback.trans first.callback, first.names_left, second.names_right⟩

/-! ### Calls on other identifiers -/

/-- A call on another identifier leaves the maps of the protocol alone at this one. -/
theorem others_of_onlyEntries (honly : OnlyEntries s s') :
    s'.mActiveOutgoingChallenges = s.mActiveOutgoingChallenges ∧
      s'.mActiveIncomingChallenges = s.mActiveIncomingChallenges ∧
      s'.mFvIdToNotificationCallback = s.mFvIdToNotificationCallback ∧
      s'.mChallengeSignalToFvId = s.mChallengeSignalToFvId ∧ SameContext s s' := by
  rw [honly]
  exact ⟨rfl, rfl, rfl, rfl, rfl, rfl, rfl, rfl, rfl, rfl⟩

/-- A change of the entries, where the entries of the identifier stay. -/
theorem AgreeOn.of_onlyEntries (hnames : s.mChallengeSignalToFvId = names)
    (honly : OnlyEntries s s') (hentries : SameEntries s s' id) : AgreeOn names id s s' := by
  obtain ⟨hout, hin, hcallback, hmap, hcontext⟩ := others_of_onlyEntries honly
  exact ⟨hcontext, hentries.candidates, hentries.attributes, by rw [hout], by rw [hin],
    by rw [hcallback], hnames, hmap.trans hnames⟩

theorem getTxFreshness_of_not_initialised (hinit : s.mInitialized = false) :
    s.getTxFreshness id = (.error .notInitialized, s) := by
  unfold getTxFreshness
  rw [hinit]
  rfl

/-- A call that does not concern the identifier. -/
theorem agreeOn_of_not_concerns (hnames : s.mChallengeSignalToFvId = names)
    (hother : ¬ op.Concerns names id) : AgreeOn names id s (managerNext s op).1 := by
  cases op with
  | getRxFreshness id' truncated attempts =>
    exact .of_onlyEntries hnames (onlyEntries_getRxFreshness truncated attempts)
      (worksOn_getRxFreshness.others id (Ne.symm hother))
  | getTxFreshness id' =>
    show AgreeOn names id s (s.getTxFreshness id').2
    cases hinit : s.mInitialized with
    | false =>
      rw [getTxFreshness_of_not_initialised hinit]
      exact .refl hnames
    | true =>
      rcases getTxFreshness_cases hinit id' with ⟨failure, hfailed⟩ |
        ⟨time, bytes, -, hserved⟩ | ⟨-, bytes, s', honly, hserved⟩
      · rw [hfailed]
        exact .refl hnames
      · rw [hserved]
        exact ⟨⟨rfl, rfl, rfl, rfl, rfl, rfl⟩, rfl, rfl, rfl,
          AList.lookup_erase_ne (Ne.symm hother), rfl, hnames, hnames⟩
      · have hentries := (worksOn_getTxFreshness (s := s)).others id (Ne.symm hother)
        rw [hserved] at hentries ⊢
        exact .of_onlyEntries hnames honly hentries
  | verificationStatusCallout status =>
    have hentries := (worksOn_verificationStatusCallout (s := s)).others id (Ne.symm hother)
    show AgreeOn names id s (s.verificationStatusCallout status)
    rcases verificationStatusCallout_effect (s := s) status with heq | heq | heq
    · rw [heq]
      exact .refl hnames
    · rw [heq]
      exact ⟨⟨rfl, rfl, rfl, rfl, rfl, rfl⟩, rfl, rfl, AList.lookup_erase_ne (Ne.symm hother),
        rfl, rfl, hnames, hnames⟩
    · rw [heq] at hentries ⊢
      exact .of_onlyEntries hnames rfl hentries
  | sPduTxConfirmation id' =>
    exact .of_onlyEntries hnames rfl
      (worksOn_sPduTxConfirmation.others id (Ne.symm hother))
  | triggerCrRequest csm signals id' =>
    show AgreeOn names id s (s.triggerCrRequest csm signals id').2
    rcases triggerCrRequest_cases (s := s) csm signals id' with
      ⟨-, hsame⟩ | ⟨challenge, -, -, hsuccess⟩
    · rw [hsame]
      exact .refl hnames
    · rw [hsuccess]
      exact ⟨⟨rfl, rfl, rfl, rfl, rfl, rfl⟩, rfl, rfl, AList.lookup_insert_ne (Ne.symm hother),
        rfl, rfl, hnames, hnames⟩
  | offerCrRequest id' cb =>
    show AgreeOn names id s (s.offerCrRequest id' cb).2
    unfold offerCrRequest
    split
    · exact ⟨⟨rfl, rfl, rfl, rfl, rfl, rfl⟩, rfl, rfl, rfl, rfl,
        AList.lookup_insert_ne (Ne.symm hother), hnames, hnames⟩
    · exact .refl hnames
  | incomingChallengeSignal signal challenge =>
    show AgreeOn names id s (s.incomingChallengeSignalCb signal challenge).2
    rcases incomingChallengeSignalCb_cases (s := s) signal challenge with
      hrefused | ⟨fvId, cb, -, hregistered, -, -, haccepted⟩
    · rw [hrefused]
      exact .refl hnames
    · have hne : id ≠ fvId := by
        intro heq
        rw [hnames, ← heq] at hregistered
        exact hother hregistered
      rw [haccepted]
      exact ⟨⟨rfl, rfl, rfl, rfl, rfl, rfl⟩, rfl, rfl, rfl, AList.lookup_insert_ne hne,
        rfl, hnames, hnames⟩
  | incTimers => exact absurd trivial hother
  | adoptFv fv => exact absurd trivial hother
  | invalidateFv => exact absurd trivial hother

/-- The answer is about another identifier, too. -/
theorem subject_of_not_concerns (hnames : s.mChallengeSignalToFvId = names)
    (hother : ¬ op.Concerns names id) : ∀ e ∈ callAnswers s op, e.subject ≠ id := by
  intro e hmem
  cases op with
  | getRxFreshness id' truncated attempts =>
    rw [List.mem_singleton.mp hmem]
    exact hother
  | getTxFreshness id' =>
    rw [List.mem_singleton.mp hmem]
    exact hother
  | triggerCrRequest csm signals id' =>
    rw [List.mem_singleton.mp hmem]
    exact hother
  | offerCrRequest id' cb =>
    rw [List.mem_singleton.mp hmem]
    exact hother
  | incomingChallengeSignal signal challenge =>
    unfold callAnswers at hmem
    dsimp only at hmem
    rcases incomingChallengeSignalCb_cases (s := s) signal challenge with
      hrefused | ⟨fvId, cb, -, hregistered, -, -, haccepted⟩
    · rw [hrefused] at hmem
      cases hmem
    · rw [haccepted] at hmem
      rw [List.mem_singleton.mp hmem]
      intro heq
      have heq' : fvId = id := heq
      rw [hnames, heq'] at hregistered
      exact hother hregistered
  | verificationStatusCallout status => cases hmem
  | sPduTxConfirmation id' => cases hmem
  | incTimers => cases hmem
  | adoptFv fv => cases hmem
  | invalidateFv => cases hmem

/-! ### Calls on the identifier -/

theorem chooseTxFv_of_unused (hunused : s.mAttrMgr.isActive id = false) :
    s.chooseTxFv id = (uintToByteVector sokUpstartTime, s.setActive id) := by
  unfold chooseTxFv
  rw [hunused]
  rfl

theorem chooseTxFv_of_invalid (hused : s.mAttrMgr.isActive id = true)
    (hinvalid : s.mIsFvValid = false) : s.chooseTxFv id =
      (uintToByteVector (if s.validTimeoutPassed then sokInvalidTime else sokUpstartTime), s) := by
  unfold chooseTxFv
  rw [hused, hinvalid]
  cases s.validTimeoutPassed with
  | false => rfl
  | true => rfl

theorem chooseTxFv_of_valid (hused : s.mAttrMgr.isActive id = true)
    (hvalid : s.mIsFvValid = true) : s.chooseTxFv id = (uintToByteVector s.mFV, { s with
      mAttrMgr := s.mAttrMgr.updateEvent .kSignReq id s.mFV }) := by
  unfold chooseTxFv
  rw [hused, hvalid]
  rfl

/-- Managers with the same clock and the same freshness value tick alike. -/
theorem sameContext_incTimers (hsame : SameContext s t) : SameContext s.incTimers t.incTimers := by
  have htime : t.mTimeSinceInit + sokFmMainFunctionPeriodMs.toUInt64 =
      s.mTimeSinceInit + sokFmMainFunctionPeriodMs.toUInt64 := by rw [hsame.mTimeSinceInit]
  have hfv : t.mFV + 1 = s.mFV + 1 := by rw [hsame.mFV]
  unfold AFreshnessValueManagerImpl.incTimers
  dsimp only
  rw [hsame.mInitialized, hsame.mIsFvValid, hsame.mClockCount]
  split
  · exact hsame
  · split
    · exact ⟨rfl, rfl, htime, rfl, hfv, hsame.mFvmConfAccessor⟩
    · exact ⟨rfl, rfl, htime, rfl, hsame.mFV, hsame.mFvmConfAccessor⟩

section Consistent

variable (hagree : AgreeOn names id s t)
include hagree

/-- What is read of the attributes of the identifier. -/
theorem AgreeOn.reads :
    t.mAttrMgr.isActive id = s.mAttrMgr.isActive id ∧
      t.mAttrMgr.getEvent .kFirstActivity id = s.mAttrMgr.getEvent .kFirstActivity id ∧
      t.mAttrMgr.getEvent .kSignReq id = s.mAttrMgr.getEvent .kSignReq id ∧
      t.mAttrMgr.getEvent .kVerifyReq id = s.mAttrMgr.getEvent .kVerifyReq id ∧
      t.mAttrMgr.getNextSessionCounter id = s.mAttrMgr.getNextSessionCounter id := by
  have hentry : t.mAttrMgr.mAttributesMap.lookup id = s.mAttrMgr.mAttributesMap.lookup id :=
    hagree.attributes
  unfold isActive getEvent getNextSessionCounter
  rw [hentry]
  exact ⟨rfl, rfl, rfl, rfl, rfl⟩

theorem AgreeOn.validTimeoutPassed : t.validTimeoutPassed = s.validTimeoutPassed := by
  unfold AFreshnessValueManagerImpl.validTimeoutPassed
  rw [hagree.context.mTimeSinceInit]

/-- The list that a reception builds, and whether it refuses to. -/
theorem AgreeOn.rxCandidateList :
    t.rxCandidateList id = s.rxCandidateList id ∧ t.fvTooOld id = s.fvTooOld id := by
  obtain ⟨hactive, hfirst, -, -, -⟩ := hagree.reads
  unfold AFreshnessValueManagerImpl.rxCandidateList fvTooOld neighbours
  rw [hactive, hfirst, hagree.context.mIsFvValid, hagree.context.mTimeSinceInit,
    hagree.context.mFV]
  exact ⟨rfl, rfl⟩

/-- Both sides change, in the same way as far as the identifier sees it. -/
theorem AgreeOn.next (hs : SameContext s s') (ht : SameContext t t')
    (hnames : s'.mChallengeSignalToFvId = s.mChallengeSignalToFvId)
    (hnames' : t'.mChallengeSignalToFvId = t.mChallengeSignalToFvId)
    (hcandidates : t'.candidates id = s'.candidates id)
    (hattributes : t'.attributes id = s'.attributes id)
    (hout : t'.mActiveOutgoingChallenges.lookup id = s'.mActiveOutgoingChallenges.lookup id)
    (hin : t'.mActiveIncomingChallenges.lookup id = s'.mActiveIncomingChallenges.lookup id)
    (hcallback : t'.mFvIdToNotificationCallback.lookup id =
      s'.mFvIdToNotificationCallback.lookup id) : AgreeOn names id s' t' := by
  refine ⟨⟨?_, ?_, ?_, ?_, ?_, ?_⟩, hcandidates, hattributes, hout, hin, hcallback,
    hnames.trans hagree.names_left, hnames'.trans hagree.names_right⟩
  · rw [ht.mInitialized, hs.mInitialized, hagree.context.mInitialized]
  · rw [ht.mIsFvValid, hs.mIsFvValid, hagree.context.mIsFvValid]
  · rw [ht.mTimeSinceInit, hs.mTimeSinceInit, hagree.context.mTimeSinceInit]
  · rw [ht.mClockCount, hs.mClockCount, hagree.context.mClockCount]
  · rw [ht.mFV, hs.mFV, hagree.context.mFV]
  · rw [ht.mFvmConfAccessor, hs.mFvmConfAccessor, hagree.context.mFvmConfAccessor]

/-- Both sides change their table entries only. -/
theorem AgreeOn.next_onlyEntries (hs : OnlyEntries s s') (ht : OnlyEntries t t')
    (hcandidates : t'.candidates id = s'.candidates id)
    (hattributes : t'.attributes id = s'.attributes id) : AgreeOn names id s' t' := by
  obtain ⟨hout, hin, hcallback, hmap, hcontext⟩ := others_of_onlyEntries hs
  obtain ⟨hout', hin', hcallback', hmap', hcontext'⟩ := others_of_onlyEntries ht
  refine hagree.next hcontext hcontext' hmap hmap' hcandidates hattributes ?_ ?_ ?_
  · rw [hout', hout, hagree.outgoing]
  · rw [hin', hin, hagree.incoming]
  · rw [hcallback', hcallback, hagree.callback]

theorem AgreeOn.getRxFv (type : SokFreshnessType) (truncated : FVContainer) (attempts : UInt16) :
    (t.getRxFv id type truncated attempts).1 = (s.getRxFv id type truncated attempts).1 ∧
      AgreeOn names id (s.getRxFv id type truncated attempts).2
        (t.getRxFv id type truncated attempts).2 := by
  obtain ⟨-, -, -, -, hnext⟩ := hagree.reads
  obtain ⟨hlist, hold⟩ := hagree.rxCandidateList
  have hconsumed : AgreeOn names id (s.consumeSessionCounter id type)
      (t.consumeSessionCounter id type) := by
    refine hagree.next_onlyEntries (onlyEntries_consumeSessionCounter id type)
      (onlyEntries_consumeSessionCounter id type) ?_ ?_
    · have hkept : ∀ u : AFreshnessValueManagerImpl,
          (u.consumeSessionCounter id type).candidates id = u.candidates id := by
        intro u
        rw [consumeSessionCounter_eq]
        rfl
      rw [hkept, hkept, hagree.candidates]
    · rw [attributes_consumeSessionCounter, attributes_consumeSessionCounter, hagree.attributes]
  cases hcached : s.candidates id with
  | some rxCandList =>
    rw [getRxFv_of_cached hcached, getRxFv_of_cached (hagree.candidates.trans hcached)]
    split
    · exact ⟨rfl, hagree⟩
    · exact ⟨rfl, hagree⟩
  | none =>
    rw [getRxFv_of_uncached hcached, getRxFv_of_uncached (hagree.candidates.trans hcached),
      hnext, hlist, hold, hagree.context.mIsFvValid, hagree.validTimeoutPassed]
    split_ifs
    · exact ⟨rfl, hagree⟩
    · exact ⟨rfl, hagree⟩
    · exact ⟨rfl, hconsumed⟩
    · exact ⟨rfl, hconsumed⟩
    · refine ⟨rfl, hagree.next_onlyEntries (onlyEntries_acceptReception type)
        (onlyEntries_acceptReception type) ?_ ?_⟩
      · rw [candidates_acceptReception, candidates_acceptReception, hlist]
      · rw [attributes_acceptReception, attributes_acceptReception, hagree.attributes,
          hagree.context.mFV, hagree.context.mTimeSinceInit]

theorem AgreeOn.getRxFreshness (truncated : FVContainer) (attempts : UInt16) :
    (t.getRxFreshness id truncated attempts).1 = (s.getRxFreshness id truncated attempts).1 ∧
      AgreeOn names id (s.getRxFreshness id truncated attempts).2
        (t.getRxFreshness id truncated attempts).2 := by
  unfold AFreshnessValueManagerImpl.getRxFreshness getChallengeForIncomingResponse
  rw [hagree.context.mInitialized, hagree.context.mFvmConfAccessor, hagree.outgoing]
  split
  · exact ⟨rfl, hagree⟩
  · split
    · exact ⟨rfl, hagree⟩
    · split
      · exact ⟨rfl, hagree⟩
      · exact ⟨rfl, hagree⟩
    · exact hagree.getRxFv _ _ _
    · exact hagree.getRxFv _ _ _
    · exact ⟨rfl, hagree⟩

/-- The choice of the freshness value for sending. -/
theorem AgreeOn.chooseTxFv : (t.chooseTxFv id).1 = (s.chooseTxFv id).1 ∧
    AgreeOn names id (s.chooseTxFv id).2 (t.chooseTxFv id).2 := by
  obtain ⟨hactive, -, -, -, -⟩ := hagree.reads
  have hentry : t.mAttrMgr.entry id = s.mAttrMgr.entry id := hagree.attributes
  cases hused : s.mAttrMgr.isActive id with
  | false =>
    rw [chooseTxFv_of_unused hused, chooseTxFv_of_unused (hactive.trans hused)]
    refine ⟨rfl, hagree.next_onlyEntries rfl rfl hagree.candidates ?_⟩
    show (t.mAttrMgr.setActive id t.mTimeSinceInit).entry id =
      (s.mAttrMgr.setActive id s.mTimeSinceInit).entry id
    rw [entry_setActive_self, entry_setActive_self, hentry, hagree.context.mTimeSinceInit]
  | true =>
    cases hvalid : s.mIsFvValid with
    | false =>
      rw [chooseTxFv_of_invalid hused hvalid, chooseTxFv_of_invalid (hactive.trans hused)
        (hagree.context.mIsFvValid.trans hvalid), hagree.validTimeoutPassed]
      exact ⟨rfl, hagree⟩
    | true =>
      rw [chooseTxFv_of_valid hused hvalid, chooseTxFv_of_valid (hactive.trans hused)
        (hagree.context.mIsFvValid.trans hvalid)]
      refine ⟨congrArg uintToByteVector hagree.context.mFV,
        hagree.next_onlyEntries rfl rfl hagree.candidates ?_⟩
      show (t.mAttrMgr.updateEvent .kSignReq id t.mFV).entry id =
        (s.mAttrMgr.updateEvent .kSignReq id s.mFV).entry id
      rw [entry_updateEvent_self, entry_updateEvent_self, hentry, hagree.context.mFV]

theorem AgreeOn.getTxFv (type : SokFreshnessType) :
    (t.getTxFv id type).1 = (s.getTxFv id type).1 ∧
      AgreeOn names id (s.getTxFv id type).2 (t.getTxFv id type).2 := by
  obtain ⟨hchosen, hagree'⟩ := hagree.chooseTxFv
  unfold AFreshnessValueManagerImpl.getTxFv
  dsimp only
  split
  · obtain ⟨-, -, -, -, hnext⟩ := hagree'.reads
    refine ⟨?_, hagree'.next_onlyEntries rfl rfl hagree'.candidates ?_⟩
    · rw [incSessionCounter_fst, incSessionCounter_fst, hnext, hchosen]
    · show ((t.chooseTxFv id).2.mAttrMgr.incSessionCounter id).2.entry id =
        ((s.chooseTxFv id).2.mAttrMgr.incSessionCounter id).2.entry id
      have hentry : (t.chooseTxFv id).2.mAttrMgr.entry id = (s.chooseTxFv id).2.mAttrMgr.entry id :=
        hagree'.attributes
      rw [entry_incSessionCounter_self, entry_incSessionCounter_self, hentry]
  · exact ⟨hchosen, hagree'⟩

/-- Both sides discard their incoming challenge. -/
theorem AgreeOn.getChallengeForOutgoingResponse :
    (t.getChallengeForOutgoingResponse id).1 = (s.getChallengeForOutgoingResponse id).1 ∧
      AgreeOn names id (s.getChallengeForOutgoingResponse id).2
        (t.getChallengeForOutgoingResponse id).2 := by
  unfold AFreshnessValueManagerImpl.getChallengeForOutgoingResponse
  rw [hagree.incoming]
  split
  · exact ⟨rfl, hagree⟩
  · refine ⟨rfl, hagree.next ⟨rfl, rfl, rfl, rfl, rfl, rfl⟩ ⟨rfl, rfl, rfl, rfl, rfl, rfl⟩ rfl rfl
      hagree.candidates hagree.attributes hagree.outgoing ?_ hagree.callback⟩
    dsimp only
    rw [AList.lookup_erase, AList.lookup_erase]

theorem AgreeOn.getTxFreshness : (t.getTxFreshness id).1 = (s.getTxFreshness id).1 ∧
    AgreeOn names id (s.getTxFreshness id).2 (t.getTxFreshness id).2 := by
  unfold AFreshnessValueManagerImpl.getTxFreshness
  rw [hagree.context.mInitialized, hagree.context.mFvmConfAccessor]
  split
  · exact ⟨rfl, hagree⟩
  · split
    · exact ⟨rfl, hagree⟩
    · exact hagree.getChallengeForOutgoingResponse
    · obtain ⟨hfv, hagree'⟩ := hagree.getTxFv .kVwSokFreshnessValueSessionSender
      exact ⟨congrArg Except.ok hfv, hagree'⟩
    · obtain ⟨hfv, hagree'⟩ := hagree.getTxFv .kVwSokFreshnessValue
      exact ⟨congrArg Except.ok hfv, hagree'⟩
    · exact ⟨rfl, hagree⟩

/-- An event is recorded in the entry. -/
theorem AgreeOn.updateEvent (event : EventType) (value : UInt64) :
    (t.mAttrMgr.updateEvent event id value).entry id =
      (s.mAttrMgr.updateEvent event id value).entry id := by
  have hentry : t.mAttrMgr.entry id = s.mAttrMgr.entry id := hagree.attributes
  rw [entry_updateEvent_self, entry_updateEvent_self, hentry]

theorem AgreeOn.verificationStatusCallout (succeeded : Bool) :
    AgreeOn names id (s.verificationStatusCallout ⟨id, succeeded⟩)
      (t.verificationStatusCallout ⟨id, succeeded⟩) := by
  obtain ⟨-, -, -, hverify, -⟩ := hagree.reads
  have hbroadcast : AgreeOn names id (s.updateVerificationStatusAuthBroadcast id succeeded)
      (t.updateVerificationStatusAuthBroadcast id succeeded) := by
    unfold updateVerificationStatusAuthBroadcast
    dsimp only
    rw [hverify]
    split
    · exact hagree
    · refine hagree.next_onlyEntries rfl rfl ?_ (hagree.updateEvent _ _)
      show (t.mFvRxCandidates.erase id).lookup id = (s.mFvRxCandidates.erase id).lookup id
      rw [AList.lookup_erase, AList.lookup_erase]
  unfold AFreshnessValueManagerImpl.verificationStatusCallout
  dsimp only
  rw [hagree.context.mFvmConfAccessor]
  split
  · exact hagree
  · unfold updateVerificationStatusChallenge
    split
    · refine hagree.next ⟨rfl, rfl, rfl, rfl, rfl, rfl⟩ ⟨rfl, rfl, rfl, rfl, rfl, rfl⟩ rfl rfl
        hagree.candidates hagree.attributes ?_ hagree.incoming hagree.callback
      dsimp only
      rw [AList.lookup_erase, AList.lookup_erase]
    · exact hagree
  · exact hbroadcast
  · exact hbroadcast
  · exact hagree

theorem AgreeOn.sPduTxConfirmation :
    AgreeOn names id (s.sPduTxConfirmation id) (t.sPduTxConfirmation id) := by
  obtain ⟨-, -, hsign, -, -⟩ := hagree.reads
  unfold AFreshnessValueManagerImpl.sPduTxConfirmation
  dsimp only
  rw [hsign]
  exact hagree.next_onlyEntries rfl rfl hagree.candidates (hagree.updateEvent _ _)

theorem AgreeOn.triggerCrRequest (csm : ICsmAccessor) (signals : ISignalManager) :
    (t.triggerCrRequest csm signals id).1 = (s.triggerCrRequest csm signals id).1 ∧
      AgreeOn names id (s.triggerCrRequest csm signals id).2
        (t.triggerCrRequest csm signals id).2 := by
  have hundergoing : t.challengeUndergoing t.mActiveOutgoingChallenges id =
      s.challengeUndergoing s.mActiveOutgoingChallenges id := by
    unfold challengeUndergoing
    rw [hagree.outgoing, hagree.context.mTimeSinceInit]
  unfold AFreshnessValueManagerImpl.triggerCrRequest
  rw [hundergoing, hagree.context.mFvmConfAccessor, hagree.context.mTimeSinceInit]
  split
  · exact ⟨rfl, hagree⟩
  · split
    · exact ⟨rfl, hagree⟩
    · split
      · exact ⟨rfl, hagree⟩
      · split
        · exact ⟨rfl, hagree⟩
        · refine ⟨rfl, hagree.next ⟨rfl, rfl, rfl, rfl, rfl, rfl⟩ ⟨rfl, rfl,
            hagree.context.mTimeSinceInit.symm, rfl, rfl, hagree.context.mFvmConfAccessor.symm⟩
            rfl rfl hagree.candidates hagree.attributes ?_ hagree.incoming hagree.callback⟩
          dsimp only
          rw [AList.lookup_insert, AList.lookup_insert]

theorem AgreeOn.offerCrRequest (cb : ChallengeReceivedIndicationCb) :
    (t.offerCrRequest id cb).1 = (s.offerCrRequest id cb).1 ∧
      AgreeOn names id (s.offerCrRequest id cb).2 (t.offerCrRequest id cb).2 := by
  unfold AFreshnessValueManagerImpl.offerCrRequest
  rw [hagree.context.mFvmConfAccessor]
  split
  · refine ⟨rfl, hagree.next ⟨rfl, rfl, rfl, rfl, rfl, rfl⟩ ⟨rfl, rfl, rfl, rfl, rfl,
      hagree.context.mFvmConfAccessor.symm⟩ rfl rfl hagree.candidates hagree.attributes
      hagree.outgoing hagree.incoming ?_⟩
    dsimp only
    rw [AList.lookup_insert, AList.lookup_insert]
  · exact ⟨rfl, hagree⟩

theorem AgreeOn.incomingChallengeSignalCb {signal : String}
    (hregistered : names.lookup signal = some id) (challenge : ByteVector) :
    (t.incomingChallengeSignalCb signal challenge).1 =
        (s.incomingChallengeSignalCb signal challenge).1 ∧
      AgreeOn names id (s.incomingChallengeSignalCb signal challenge).2
        (t.incomingChallengeSignalCb signal challenge).2 := by
  have hundergoing : t.challengeUndergoing t.mActiveIncomingChallenges id =
      s.challengeUndergoing s.mActiveIncomingChallenges id := by
    unfold challengeUndergoing
    rw [hagree.incoming, hagree.context.mTimeSinceInit]
  unfold AFreshnessValueManagerImpl.incomingChallengeSignalCb
  rw [hagree.names_left, hagree.names_right, hregistered]
  dsimp only
  rw [hagree.callback, hundergoing, hagree.context.mTimeSinceInit]
  split
  · exact ⟨rfl, hagree⟩
  · split
    · exact ⟨rfl, hagree⟩
    · split
      · exact ⟨rfl, hagree⟩
      · refine ⟨rfl, hagree.next ⟨rfl, rfl, rfl, rfl, rfl, rfl⟩ ⟨rfl, rfl,
          hagree.context.mTimeSinceInit.symm, rfl, rfl, rfl⟩ hagree.names_left.symm
          hagree.names_right.symm hagree.candidates hagree.attributes hagree.outgoing ?_
          hagree.callback⟩
        dsimp only
        rw [AList.lookup_insert, AList.lookup_insert]

theorem AgreeOn.incTimers : AgreeOn names id s.incTimers t.incTimers := by
  have hcontext := sameContext_incTimers hagree.context
  have hkept : ∀ u : AFreshnessValueManagerImpl, u.incTimers = { u with
      mTimeSinceInit := u.incTimers.mTimeSinceInit
      mClockCount := u.incTimers.mClockCount
      mFV := u.incTimers.mFV } := fun u => incTimers_eq
  rw [hkept s, hkept t] at hcontext ⊢
  exact ⟨hcontext, hagree.candidates, hagree.attributes, hagree.outgoing, hagree.incoming,
    hagree.callback, hagree.names_left, hagree.names_right⟩

theorem AgreeOn.adoptFv (fv : UInt64) : AgreeOn names id (s.adoptFv fv) (t.adoptFv fv) :=
  ⟨⟨hagree.context.mInitialized, rfl, hagree.context.mTimeSinceInit, rfl, rfl,
      hagree.context.mFvmConfAccessor⟩, hagree.candidates, hagree.attributes, hagree.outgoing,
    hagree.incoming, hagree.callback, hagree.names_left, hagree.names_right⟩

theorem AgreeOn.invalidateFv : AgreeOn names id s.invalidateFv t.invalidateFv :=
  ⟨⟨hagree.context.mInitialized, rfl, hagree.context.mTimeSinceInit,
      hagree.context.mClockCount, hagree.context.mFV, hagree.context.mFvmConfAccessor⟩,
    hagree.candidates, hagree.attributes, hagree.outgoing, hagree.incoming, hagree.callback,
    hagree.names_left, hagree.names_right⟩

/-- The same call on the identifier gets the same answer, and the managers agree
afterwards. -/
theorem AgreeOn.call (hconcerns : op.Concerns names id) :
    callAnswers t op = callAnswers s op ∧
      AgreeOn names id (managerNext s op).1 (managerNext t op).1 := by
  cases op with
  | getRxFreshness id' truncated attempts =>
    have hid : id' = id := hconcerns
    subst hid
    obtain ⟨hsame, hnext⟩ := hagree.getRxFreshness truncated attempts
    exact ⟨congrArg (fun result => [CallAnswer.rx id' truncated attempts result]) hsame, hnext⟩
  | getTxFreshness id' =>
    have hid : id' = id := hconcerns
    subst hid
    obtain ⟨hsame, hnext⟩ := hagree.getTxFreshness
    exact ⟨congrArg (fun result => [CallAnswer.tx id' result]) hsame, hnext⟩
  | verificationStatusCallout status =>
    have hid : status.fvId = id := hconcerns
    subst hid
    exact ⟨rfl, hagree.verificationStatusCallout status.verificationSucceeded⟩
  | sPduTxConfirmation id' =>
    have hid : id' = id := hconcerns
    subst hid
    exact ⟨rfl, hagree.sPduTxConfirmation⟩
  | triggerCrRequest csm signals id' =>
    have hid : id' = id := hconcerns
    subst hid
    obtain ⟨hsame, hnext⟩ := hagree.triggerCrRequest csm signals
    exact ⟨congrArg (fun code => [CallAnswer.triggered id' code]) hsame, hnext⟩
  | offerCrRequest id' cb =>
    have hid : id' = id := hconcerns
    subst hid
    obtain ⟨hsame, hnext⟩ := hagree.offerCrRequest cb
    exact ⟨congrArg (fun code => [CallAnswer.offered id' code]) hsame, hnext⟩
  | incomingChallengeSignal signal challenge =>
    obtain ⟨hsame, hnext⟩ := hagree.incomingChallengeSignalCb hconcerns challenge
    refine ⟨?_, hnext⟩
    unfold callAnswers
    dsimp only
    rw [hsame]
  | incTimers => exact ⟨rfl, hagree.incTimers⟩
  | adoptFv fv => exact ⟨rfl, hagree.adoptFv fv⟩
  | invalidateFv => exact ⟨rfl, hagree.invalidateFv⟩

end Consistent

/-! ## Isolation -/

/-- A manager that serves one identifier cannot tell what it does for others. -/
theorem unwinding_agreeOn (names : UnorderedMap String SokFreshnessValueId)
    (id : SokFreshnessValueId) :
    Unwinding callStep (AgreeOn names id) (fun op => ¬ op.Concerns names id)
      (fun op op' => op = op' ∧ op.Concerns names id) (fun answer => answer.subject == id) where
  symm := AgreeOn.symm
  silent := by
    intro s t op s' answers hagree hother hstep
    cases hstep
    refine ⟨(agreeOn_of_not_concerns hagree.names_left hother).symm.trans hagree, ?_⟩
    rw [List.filter_eq_nil_iff]
    intro answer hmem hsubject
    exact subject_of_not_concerns hagree.names_left hother answer hmem (eq_of_beq hsubject)
  consistent := by
    intro s t op op' s' t' answers answers' hagree hsame hs ht
    obtain ⟨heq, hconcerns⟩ := hsame
    subst heq
    cases hs
    cases ht
    obtain ⟨hanswers, hnext⟩ := hagree.call hconcerns
    exact ⟨hnext, by rw [hanswers]⟩

/-- Two executions that differ in the calls on other identifiers only give the same
answers on this one, and leave the same entries behind. -/
theorem id_isolation {ops ops' : List ManagerOp} {seen seen' : List CallAnswer}
    (hagree : AgreeOn names id s t)
    (hsame : ops.filter (fun op => op.Concerns names id) =
      ops'.filter (fun op => op.Concerns names id))
    (hs : exec callStep s [] ops = .ok (s', seen))
    (ht : exec callStep t [] ops' = .ok (t', seen')) :
    seen.filter (fun answer => answer.subject == id) =
        seen'.filter (fun answer => answer.subject == id) ∧
      AgreeOn names id s' t' :=
  ((SameInputs.of_filter_eq hsame).unwind (unwinding_agreeOn names id) hagree rfl hs ht).symm

/-- A session sender beside another identifier. -/
def senderBesideAnother : FreshnessValueManagerConfigAccessor :=
  .ofEntries [(0, ⟨.kVwSokFreshnessValueSessionSender, 0, 1⟩), (2, ⟨.kVwSokFreshnessValue, 0, 0⟩)]
    [(1, ⟨.kVwSokFreshnessCrChallenge, default⟩)]

/-- Two messages of the session. -/
def sessionAlone : List ManagerOp := [.getTxFreshness 0, .incTimers, .getTxFreshness 0]

/-- The same session, with a reception of the other identifier in between. -/
def sessionBesideReception : List ManagerOp :=
  [.getTxFreshness 0, .getRxFreshness 2 [] 0, .incTimers, .verificationStatusCallout ⟨2, true⟩,
    .getTxFreshness 0]

/-- The theorem at the two sessions. -/
theorem id_isolation_of_sender :
    ∃ s' t' seen seen',
      exec callStep (initialisedManager senderBesideAnother) [] sessionBesideReception =
          .ok (s', seen) ∧
        exec callStep (initialisedManager senderBesideAnother) [] sessionAlone =
          .ok (t', seen') ∧
        seen.filter (fun answer => answer.subject == 0) =
          seen'.filter (fun answer => answer.subject == 0) ∧
        AgreeOn ∅ 0 s' t' := by
  have hsame : sessionBesideReception.filter (fun op => op.Concerns ∅ 0) =
      sessionAlone.filter (fun op => op.Concerns ∅ 0) := rfl
  refine ⟨_, _, _, _, rfl, rfl, ?_⟩
  exact id_isolation (.refl rfl) hsame rfl rfl

end Sok.Fvm
