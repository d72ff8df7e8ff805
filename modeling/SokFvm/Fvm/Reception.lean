import SokFvm.Fvm.ManagerRun

/-!
# Receptions

SecOC verifies a received message in attempts.  The first attempt starts a
reception: it asks for freshness with attempt number `0`.  The further attempts
ask for the next candidates, and a call-back ends the reception.  The purpose of
the candidate list is to answer all attempts of one reception from the state in
which the reception started, and `currentCandidates` is that list.

The code answers from a cached list whenever there is one, and removes it only
when a verification succeeds.  A reception that starts while a list is cached is
therefore judged by the list of an earlier reception, as
`reception_judged_by_outdated_list` shows.  This module proves what holds when
that does not happen.

* `ReceptionGoesOn` is the guard of the steps inside one reception.  Under it a
  cached list stays, so the attempts read from one list.
* `rxCandidateList_eq_current` says that a list is built as it should be.
* `JudgedByState` is the property of a call that starts a reception, and
  `reception_judged_by_state` is the result for runs.
-/

namespace Sok.Fvm

open Sok.Common StateMachine AFreshnessValueManagerImpl FvmRuntimeAttributesManager

variable {s s' s₀ : AFreshnessValueManagerImpl} {id : SokFreshnessValueId}
variable {h h₀ : List ManagerEvent} {op : ManagerOp} {es : List ManagerEvent}
variable {type : SokFreshnessType} {truncated : FVContainer} {attempts : UInt16}

/-! ## Which calls move a cached list -/

theorem mFvRxCandidates_getTxFreshness :
    (s.getTxFreshness id).2.mFvRxCandidates = s.mFvRxCandidates := by
  have hchoose : (s.chooseTxFv id).2.mFvRxCandidates = s.mFvRxCandidates := by
    unfold chooseTxFv
    split_ifs
    · rfl
    · rfl
    · rfl
    · rfl
  have hget : ∀ type, (s.getTxFv id type).2.mFvRxCandidates = s.mFvRxCandidates := by
    intro type
    unfold getTxFv
    dsimp only
    split
    · exact hchoose
    · exact hchoose
  unfold getTxFreshness getChallengeForOutgoingResponse
  split
  · rfl
  · split
    · rfl
    · split
      · rfl
      · rfl
    · exact hget _
    · exact hget _
    · rfl

/-- Only a reception of the identifier and its verification call-back move its
cached list. -/
theorem candidates_managerNext_of_ne
    (hrx : ∀ truncated attempts, op ≠ .getRxFreshness id truncated attempts)
    (hcallout : ∀ status, op = .verificationStatusCallout status → status.fvId ≠ id) :
    (managerNext s op).1.candidates id = s.candidates id := by
  by_cases hsubject : op.subject = some id
  · cases op with
    | getRxFreshness id' truncated attempts =>
      cases hsubject
      exact absurd rfl (hrx truncated attempts)
    | getTxFreshness id' =>
      unfold candidates managerNext
      rw [mFvRxCandidates_getTxFreshness]
    | verificationStatusCallout status =>
      cases hsubject
      exact absurd rfl (hcallout status rfl)
    | sPduTxConfirmation id' => rfl
    | _ => cases hsubject
  · exact (sameEntries_managerNext hsubject).candidates

/-- A verification call-back caches nothing. -/
theorem candidates_verificationStatusCallout {status : SecOCVerificationStatusType} :
    (s.verificationStatusCallout status).candidates status.fvId = s.candidates status.fvId ∨
      (s.verificationStatusCallout status).candidates status.fvId = none := by
  rcases verificationStatusCallout_effect (s := s) status with heq | heq | heq
  · rw [heq]
    exact Or.inl rfl
  · rw [heq]
    exact Or.inl rfl
  · rw [heq]
    exact Or.inr (AList.lookup_erase _ _)

/-- Only a reception of the identifier can cache a list for it. -/
theorem candidates_isSome_of_step
    (hrx : ∀ truncated attempts, op ≠ .getRxFreshness id truncated attempts)
    (hsome : ((managerNext s op).1.candidates id).isSome) : (s.candidates id).isSome := by
  by_cases hcallout : ∃ status, op = .verificationStatusCallout status ∧ status.fvId = id
  · obtain ⟨status, rfl, rfl⟩ := hcallout
    have hmoved : (managerNext s (.verificationStatusCallout status)).1.candidates status.fvId =
        (s.verificationStatusCallout status).candidates status.fvId := rfl
    rw [hmoved] at hsome
    rcases candidates_verificationStatusCallout (s := s) with hsame | hnone
    · rw [← hsame]
      exact hsome
    · rw [hnone] at hsome
      cases hsome
  · rw [candidates_managerNext_of_ne hrx] at hsome
    · exact hsome
    · intro status hop hid
      exact hcallout ⟨status, hop, hid⟩

/-- Inside a reception of `id`: no new reception of it starts, and its
verification does not succeed. -/
def ReceptionGoesOn (id : SokFreshnessValueId) :
    Guard AFreshnessValueManagerImpl ManagerOp ManagerEvent := fun _ _ op =>
  (∀ truncated, op ≠ .getRxFreshness id truncated 0) ∧
    op ≠ .verificationStatusCallout ⟨id, true⟩

/-- Step lemma: a cached list stays until the verification succeeds. -/
theorem candidates_step_of_cached {rxCandList : List UInt64} (hinit : s.mInitialized = true)
    (htype : s.mFvmConfAccessor.getEntryTypeByFvId id = .ok type) (hrx : IsRxFvType type)
    (hcached : s.candidates id = some rxCandList)
    (hop : op ≠ .verificationStatusCallout ⟨id, true⟩) :
    (managerNext s op).1.candidates id = some rxCandList := by
  by_cases hget : ∃ truncated attempts, op = .getRxFreshness id truncated attempts
  · obtain ⟨truncated, attempts, rfl⟩ := hget
    show (s.getRxFreshness id truncated attempts).2.candidates id = some rxCandList
    rw [getRxFreshness_eq hinit htype hrx, getRxFv_of_cached hcached]
    split
    · exact hcached
    · exact hcached
  · by_cases hcallout : ∃ succeeded, op = .verificationStatusCallout ⟨id, succeeded⟩
    · obtain ⟨succeeded, rfl⟩ := hcallout
      cases succeeded with
      | false =>
        show (s.verificationStatusCallout ⟨id, false⟩).candidates id = some rxCandList
        rw [verificationStatusCallout_of_failed, hcached]
      | true => exact absurd rfl hop
    · rw [candidates_managerNext_of_ne, hcached]
      · intro truncated attempts heq
        exact hget ⟨truncated, attempts, heq⟩
      · rintro ⟨fvId, succeeded⟩ heq rfl
        exact hcallout ⟨succeeded, heq⟩

/-! ## One list for one reception -/

/-- The default value may stand for an identifier: it is used for the first
time, or its time window is open. -/
def inDefaultWindow (s : AFreshnessValueManagerImpl) (id : SokFreshnessValueId) : Bool :=
  match s.attributes id with
  | none => true
  | some a => !a.valueIsActive ||
      decide (s.mTimeSinceInit.toNat ≤ a.firstUsed.toNat + sokFmTimeValidTimeoutMs.toNat)

/-- The candidates that a reception in this state is to be judged by. -/
def currentCandidates (s : AFreshnessValueManagerImpl) (id : SokFreshnessValueId) :
    List UInt64 :=
  (if inDefaultWindow s id then [sokUpstartTime] else []) ++
    (if s.mIsFvValid then s.neighbours else [])

/-- The freshness value is not valid and the time for the default has passed. -/
def NoFreshness (s : AFreshnessValueManagerImpl) : Prop :=
  s.mIsFvValid = false ∧ sokFmTimeValidTimeoutMs.toNat < s.mTimeSinceInit.toNat

instance : Decidable (NoFreshness s) := inferInstanceAs (Decidable (_ ∧ _))

theorem validTimeoutPassed_iff :
    s.validTimeoutPassed = true ↔ sokFmTimeValidTimeoutMs.toNat < s.mTimeSinceInit.toNat := by
  rw [validTimeoutPassed, decide_eq_true_iff, UInt64.lt_iff_toNat_lt]
  rfl

/-- The window as the code tests it, when the first use is in the past. -/
private theorem inDefaultWindow_eq {a : SokFmRuntimeAttributes} (ha : s.attributes id = some a)
    (hpast : FirstUseInPast id s) :
    (!s.mAttrMgr.isActive id || decide (s.mTimeSinceInit - s.mAttrMgr.getEvent .kFirstActivity id ≤
      sokFmTimeValidTimeoutMs.toUInt64)) = inDefaultWindow s id := by
  have ha' : s.mAttrMgr.entry id = some a := ha
  have hactive : s.mAttrMgr.isActive id = a.valueIsActive := by
    rw [isActive_eq, ha']
    rfl
  have hfirst : s.mAttrMgr.getEvent .kFirstActivity id = a.firstUsed := by
    rw [getEvent_kFirstActivity_eq, ha']
    rfl
  unfold inDefaultWindow
  rw [ha, hactive, hfirst]
  cases hused : a.valueIsActive with
  | false => simp [hused]
  | true =>
    have htimeout : sokFmTimeValidTimeoutMs.toUInt64.toNat = sokFmTimeValidTimeoutMs.toNat := rfl
    have hle := hpast a ha hused
    have hle' := UInt64.le_iff_toNat_le.mp hle
    have hwindow : s.mTimeSinceInit - a.firstUsed ≤ sokFmTimeValidTimeoutMs.toUInt64 ↔
        s.mTimeSinceInit.toNat ≤ a.firstUsed.toNat + sokFmTimeValidTimeoutMs.toNat := by
      rw [UInt64.le_iff_toNat_le, UInt64.toNat_sub_of_le _ _ hle, htimeout]
      omega
    simp [hused, hwindow]

/-- The list that the code builds is the list that it should build. -/
theorem rxCandidateList_eq_current (hsome : (s.attributes id).isSome)
    (hpast : FirstUseInPast id s) (hfresh : ¬ NoFreshness s) :
    s.rxCandidateList id = currentCandidates s id := by
  obtain ⟨a, ha⟩ := Option.isSome_iff_exists.mp hsome
  unfold rxCandidateList currentCandidates
  rw [inDefaultWindow_eq ha hpast]
  cases hvalid : s.mIsFvValid with
  | false =>
    -- the time since start-up is within the timeout, so the time since the first
    -- use is as well
    have hearly : s.mTimeSinceInit.toNat ≤ sokFmTimeValidTimeoutMs.toNat := by
      by_contra hlate
      exact hfresh ⟨hvalid, by omega⟩
    have hopen : inDefaultWindow s id = true := by
      unfold inDefaultWindow
      rw [ha]
      have hle : s.mTimeSinceInit.toNat ≤
          a.firstUsed.toNat + sokFmTimeValidTimeoutMs.toNat := by omega
      simp [hle]
    rw [hopen]
    rfl
  | true =>
    cases inDefaultWindow s id with
    | false => rfl
    | true => rfl

/-- What it means that a reception which starts in the state `s` is judged by
that state: it fails when there is no freshness, its first attempt answers with
the first current candidate, and the attempts after it with the following ones,
until the list is used up. -/
structure JudgedByState (s : AFreshnessValueManagerImpl) (id : SokFreshnessValueId)
    (truncated : FVContainer) : Prop where
  expired : NoFreshness s → ∃ failure, (s.getRxFreshness id truncated 0).1 = .error failure
  first : ∀ fv, (s.getRxFreshness id truncated 0).1 = .ok fv →
    ∃ x, (currentCandidates s id)[0]? = some x ∧ fv.take 8 = uintToByteVector x
  following : ∀ fv, (s.getRxFreshness id truncated 0).1 = .ok fv → ∀ s' h',
    Run managerStep (ReceptionGoesOn id) (s.getRxFreshness id truncated 0).2 [] s' h' →
    ∀ truncated' attempts, attempts ≠ 0 →
      match (currentCandidates s id)[attempts.toNat]? with
      | some x => ∃ fv', (s'.getRxFreshness id truncated' attempts).1 = .ok fv' ∧
          fv'.take 8 = uintToByteVector x
      | none => ∃ failure, (s'.getRxFreshness id truncated' attempts).1 = .error failure

/-- Every reception of `id` starts without a cached list, and the clock does not
wrap around. -/
def StartsUncached (id : SokFreshnessValueId) :
    Guard AFreshnessValueManagerImpl ManagerOp ManagerEvent := fun s h op =>
  ClockHolds s h op ∧ ∀ truncated, op = .getRxFreshness id truncated 0 → s.candidates id = none

instance (id : SokFreshnessValueId) (s : AFreshnessValueManagerImpl) (h : List ManagerEvent) :
    DecidablePred (StartsUncached id s h)
  | .incTimers => decidable_of_iff
      (s.mTimeSinceInit.toNat + sokFmMainFunctionPeriodMs.toNat < 2 ^ 64)
      ⟨fun hclock => ⟨fun _ => hclock, nofun⟩, fun hmeets => hmeets.1 rfl⟩
  | .getRxFreshness id' truncated attempts => decidable_of_iff
      (id' = id → attempts = 0 → s.candidates id = none)
      ⟨fun huncached => ⟨nofun, fun _ hop => by cases hop; exact huncached rfl rfl⟩,
        fun hmeets hid hattempts => hmeets.2 truncated (by rw [hid, hattempts])⟩
  | .getTxFreshness _ | .verificationStatusCallout _ | .sPduTxConfirmation _
  | .triggerCrRequest _ _ _ | .offerCrRequest _ _ | .incomingChallengeSignal _ _
  | .adoptFv _ | .invalidateFv => .isTrue ⟨nofun, nofun⟩

theorem serializeCandidate_eq {rxCandList : List UInt64} {x : UInt64}
    (hx : rxCandList[attempts.toNat]? = some x) :
    serializeCandidate rxCandList attempts truncated = uintToByteVector x ++ truncated := by
  rw [serializeCandidate, List.getD_eq_getElem?_getD, hx]
  rfl

/-- The answer from a cached list, attempt by attempt. -/
theorem getRxFreshness_of_cached {rxCandList : List UInt64} (hinit : s.mInitialized = true)
    (htype : s.mFvmConfAccessor.getEntryTypeByFvId id = .ok type) (hrx : IsRxFvType type)
    (hcached : s.candidates id = some rxCandList) (truncated : FVContainer)
    (attempts : UInt16) :
    (s.getRxFreshness id truncated attempts).1 =
      match rxCandList[attempts.toNat]? with
      | some x => .ok (uintToByteVector x ++ truncated)
      | none => .error .invalidAttempts := by
  rw [getRxFreshness_eq hinit htype hrx, getRxFv_of_cached hcached]
  cases hx : rxCandList[attempts.toNat]? with
  | none => rw [if_pos (List.getElem?_eq_none_iff.mp hx)]
  | some x =>
    obtain ⟨hlt, -⟩ := List.getElem?_eq_some_iff.mp hx
    rw [if_neg (by omega), serializeCandidate_eq hx]

/-- Inside a reception the cached list, the type of the identifier and the
initialised flag stay. -/
theorem cached_of_run {rxCandList : List UInt64} (hinit : s.mInitialized = true)
    (htype : s.mFvmConfAccessor.getEntryTypeByFvId id = .ok type) (hrx : IsRxFvType type)
    (hcached : s.candidates id = some rxCandList)
    (hrun : Run managerStep (ReceptionGoesOn id) s h s' h₀) :
    s'.mInitialized = true ∧ s'.mFvmConfAccessor.getEntryTypeByFvId id = .ok type ∧
      s'.candidates id = some rxCandList := by
  refine hrun.stateInvariant (fun t => t.mInitialized = true ∧
    t.mFvmConfAccessor.getEntryTypeByFvId id = .ok type ∧ t.candidates id = some rxCandList)
    ⟨hinit, htype, hcached⟩ ?_
  rintro t g op t' es ⟨hinit, htype, hcached⟩ hmeets hstep
  have heffect := managerStep_effect hstep
  have hnext := candidates_step_of_cached hinit htype hrx hcached hmeets.2
  rw [Except.ok.inj hstep] at hnext
  refine ⟨heffect.mInitialized.trans hinit, ?_, hnext⟩
  rw [heffect.mFvmConfAccessor, htype]

theorem candidates_acceptReception :
    (s.acceptReception id type).candidates id = some (s.rxCandidateList id) :=
  candidates_setRxCandidates_self _

/-- A first attempt without a cached list fails, or it is accepted and answered
with the head of the list that it builds. -/
theorem getRxFreshness_of_uncached (hinit : s.mInitialized = true)
    (htype : s.mFvmConfAccessor.getEntryTypeByFvId id = .ok type) (hrx : IsRxFvType type)
    (hcached : s.candidates id = none) (truncated : FVContainer) :
    (∃ failure, (s.getRxFreshness id truncated 0).1 = .error failure) ∨
      ¬ NoFreshness s ∧ ∃ x, (s.rxCandidateList id)[0]? = some x ∧
        s.getRxFreshness id truncated 0 =
          (.ok (uintToByteVector x ++ truncated), s.acceptReception id type) := by
  rw [getRxFreshness_eq hinit htype hrx, getRxFv_of_uncached hcached,
    if_neg (not_not_intro rfl)]
  split_ifs with hcounter hexpired hold
  · exact Or.inl ⟨_, rfl⟩
  · exact Or.inl ⟨_, rfl⟩
  · exact Or.inl ⟨_, rfl⟩
  · refine Or.inr ⟨?_, ?_⟩
    · rintro ⟨hvalid, hlate⟩
      apply hexpired
      rw [hvalid, validTimeoutPassed_iff.mpr hlate]
      rfl
    · have hne : s.rxCandidateList id ≠ [] := rxCandidateList_ne_nil
      obtain ⟨x, rest, hlist⟩ := List.exists_cons_of_ne_nil hne
      have hx : (s.rxCandidateList id)[(0 : UInt16).toNat]? = some x := by
        rw [hlist]
        rfl
      exact ⟨x, hx, by rw [serializeCandidate_eq hx]⟩

/-- A reception that starts without a cached list is judged by its own state. -/
theorem judgedByState_of_uncached (hinit : s.mInitialized = true)
    (htype : s.mFvmConfAccessor.getEntryTypeByFvId id = .ok type) (hrx : IsRxFvType type)
    (hsome : (s.attributes id).isSome) (hpast : FirstUseInPast id s)
    (hcached : s.candidates id = none) : JudgedByState s id truncated := by
  rcases getRxFreshness_of_uncached hinit htype hrx hcached truncated with
    ⟨failure, hfailed⟩ | ⟨hfresh, x, hx, haccepted⟩
  · refine ⟨fun _ => ⟨failure, hfailed⟩, ?_, ?_⟩
    · intro fv hok
      rw [hfailed] at hok
      cases hok
    · intro fv hok
      rw [hfailed] at hok
      cases hok
  · have hlist := rxCandidateList_eq_current hsome hpast hfresh
    refine ⟨fun hexpired => absurd hexpired hfresh, ?_, ?_⟩
    · intro fv hok
      rw [haccepted] at hok
      cases hok
      refine ⟨x, ?_, take_uintToByteVector_append x truncated⟩
      rw [← hlist, hx]
    · intro fv _ s' h' hrun truncated' attempts _
      have hworks : WorksOn s (s.acceptReception id type) id := worksOn_acceptReception
      rw [haccepted] at hrun
      obtain ⟨hinit', htype', hcached'⟩ := cached_of_run
        (hworks.context.mInitialized.trans hinit)
        (by rw [hworks.context.mFvmConfAccessor, htype]) hrx candidates_acceptReception hrun
      rw [hlist] at hcached'
      rw [getRxFreshness_of_cached hinit' htype' hrx hcached' truncated' attempts]
      cases (currentCandidates s id)[attempts.toNat]? with
      | none => exact ⟨.invalidAttempts, rfl⟩
      | some y => exact ⟨_, rfl, take_uintToByteVector_append y truncated'⟩

/-- Every reception that starts without a cached list is judged by the freshness
value of its own state, in every run in which all receptions of the identifier
start so. -/
theorem reception_judged_by_state (hinit : FreshlyInitialised s₀)
    (htype : s₀.mFvmConfAccessor.getEntryTypeByFvId id = .ok .kVwSokFreshnessValue)
    (hentry : (s₀.attributes id).isSome) (hrun : Run managerStep (StartsUncached id) s₀ [] s h)
    (hmeets : StartsUncached id s h (.getRxFreshness id truncated 0)) :
    JudgedByState s id truncated := by
  have htracked : Tracked s₀ id s := tracked_of_run hinit hentry hrun
  obtain ⟨a, ha, -⟩ := htracked.entry
  have hpast : FirstUseInPast id s :=
    firstUseInPast_of_run hinit hentry (fun _ _ _ hstart => hstart.1) hrun
  refine judgedByState_of_uncached htracked.mInitialized ?_ (Or.inl rfl) ?_ hpast
    (hmeets.2 truncated rfl)
  · rw [htracked.mFvmConfAccessor, htype]
  · rw [ha]
    rfl

/-- One identifier of type `kVwSokFreshnessValue`, beside a challenge. -/
def oneFreshnessValueId : FreshnessValueManagerConfigAccessor :=
  .ofEntries [(0, ⟨.kVwSokFreshnessValue, 0, 0⟩)] [(1, ⟨.kVwSokFreshnessCrChallenge, default⟩)]

/-- A reception that comes after a verified one and thirty main functions. Its first
attempt takes the default time value, the next one the freshness value of the moment. -/
theorem reception_judged_by_state_after_verified :
    ∃ s h, Run managerStep (StartsUncached 0) (initialisedManager oneFreshnessValueId) [] s h ∧
      JudgedByState s 0 [7] ∧
      (s.getRxFreshness 0 [7] 0).1 = .ok (uintToByteVector sokUpstartTime ++ [7]) ∧
      ∃ fv, ((s.getRxFreshness 0 [7] 0).2.getRxFreshness 0 [7] 1).1 = .ok fv ∧
        fv.take 8 = uintToByteVector 1001 := by
  obtain ⟨s, h, hrun, huncached, haccepted, hcurrent⟩ : ∃ s h,
      Run managerStep (StartsUncached 0) (initialisedManager oneFreshnessValueId) [] s h ∧
        s.candidates 0 = none ∧
        (s.getRxFreshness 0 [7] 0).1 = .ok (uintToByteVector sokUpstartTime ++ [7]) ∧
        currentCandidates s 0 = [sokUpstartTime, 1001, 1000, 1002] :=
    Run.exists_of_exec_of_meets
      ([.adoptFv 1000, .getRxFreshness 0 [] 0, .verificationStatusCallout ⟨0, true⟩] ++
        List.replicate 30 .incTimers) (by decide +kernel) (by decide +kernel)
  have hjudged : JudgedByState s 0 [7] :=
    reception_judged_by_state (freshlyInitialised_initialisedManager rfl) rfl rfl hrun
      ⟨nofun, fun _ _ => huncached⟩
  refine ⟨s, h, hrun, hjudged, haccepted, ?_⟩
  have hsecond := hjudged.following _ haccepted _ [] .refl [7] 1 (by decide)
  rw [hcurrent] at hsecond
  exact hsecond

/-- A failed verification leaves the start-up list behind. More than
`sokFmTimeValidTimeoutMs` later, still without a valid freshness value, the next
reception is accepted on it. -/
theorem reception_judged_by_outdated_list :
    FreshlyInitialised (initialisedManager oneFreshnessValueId) ∧
    oneFreshnessValueId.getEntryTypeByFvId 0 = .ok .kVwSokFreshnessValue ∧
    ((initialisedManager oneFreshnessValueId).attributes 0).isSome ∧
    ∃ s h, Run managerStep Anything (initialisedManager oneFreshnessValueId) [] s h ∧
      ¬ JudgedByState s 0 [] := by
  refine ⟨freshlyInitialised_initialisedManager rfl, rfl, rfl, ?_⟩
  let ops : List ManagerOp := [.getRxFreshness 0 [] 0, .verificationStatusCallout ⟨0, false⟩] ++
    List.replicate 101 .incTimers
  obtain ⟨s, h, hrun, hexpired, haccepted⟩ : ∃ s h,
      Run managerStep Anything (initialisedManager oneFreshnessValueId) [] s h ∧
        NoFreshness s ∧ (s.getRxFreshness 0 [] 0).1 = .ok (uintToByteVector sokUpstartTime) :=
    Run.exists_of_exec ops (by decide +kernel)
  refine ⟨s, h, hrun, ?_⟩
  intro hjudged
  obtain ⟨failure, hfailed⟩ := hjudged.expired hexpired
  rw [haccepted] at hfailed
  cases hfailed

end Sok.Fvm
