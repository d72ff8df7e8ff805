import SokFvm.Fvm.ParticipantRun

/-!
# Requests for an authentic freshness value

What a participant may rely on while a request is outstanding, in the states
`FVInProgress` and `ProcessFV`, over all orders of main functions and signals.

* The age of the request.  `waitForAnAuthenticFv` counts the time, and
  `processAnAuthenticFv` does not: in `Accounted` every rejected response adds a
  call that the time does not see.  A participant that only meets responses which
  its crypto accessor accepts gives up after the timeout, `request_not_held`; one
  that meets others can be held for as long as they keep coming.  A response with an
  empty value is excluded there too: `mainFunction` says what it does.
* The origin of the pair.  The two halves are stored in every state and cleared
  by `processAnAuthenticFv` alone, so a half can outlive the request it came in
  for.  If nothing is stored when a request goes out, what is verified came in
  for that request, `pair_received_since_request`.
* The completeness of the pair.  It is tested when the pair becomes complete, and
  a half can be replaced afterwards.  The pair in `ProcessFV` stays complete
  exactly as long as no half is replaced by an empty one, `pair_complete_iff`.
-/

namespace Sok.Fvm

open Sok.Common StateMachine FreshnessValueManagerImplParticipant

/-! ## What the history says about the last request -/

/-- The challenge of a published request. -/
@[simp] def ParticipantEvent.request : ParticipantEvent → Option ByteVector
  | .published challenge => some challenge
  | _ => none

@[simp] def ParticipantEvent.value : ParticipantEvent → Option ByteVector
  | .valueReceived value => some value
  | _ => none

@[simp] def ParticipantEvent.signature : ParticipantEvent → Option ByteVector
  | .signatureReceived signature => some signature
  | _ => none

/-- What happened after the last request was published. -/
def sinceRequest (h : List ParticipantEvent) : List ParticipantEvent :=
  since (·.request.isSome) h

/-- The challenge of the last request that was published. -/
def lastRequest (h : List ParticipantEvent) : Option ByteVector :=
  h.findSome? (·.request)

/-- The calls of the main function that completed since the last request was
published, the call that published it included. -/
def callsSinceRequest (h : List ParticipantEvent) : Nat :=
  (sinceRequest h).count .mainFunctionCompleted

def rejectionsSinceRequest (h : List ParticipantEvent) : Nat :=
  (sinceRequest h).count .rejected

/-- The newest value that came in since the last request was published. -/
def valueSinceRequest (h : List ParticipantEvent) : Option ByteVector :=
  (sinceRequest h).findSome? (·.value)

/-- The newest signature that came in since the last request was published. -/
def signatureSinceRequest (h : List ParticipantEvent) : Option ByteVector :=
  (sinceRequest h).findSome? (·.signature)

@[simp] theorem sinceRequest_cons (e : ParticipantEvent) (h : List ParticipantEvent) :
    sinceRequest (e :: h) = if e.request.isSome then [] else e :: sinceRequest h := by
  split
  · rename_i hrequest
    exact since_cons_of_mark hrequest
  · rename_i hrequest
    exact since_cons_of_not_mark (Bool.eq_false_of_not_eq_true hrequest)

variable {s s' s₀ : FreshnessValueManagerImplParticipant} {op : ParticipantOp}
variable {es h : List ParticipantEvent} {c c' : RequestCycle}

/-! ## The age of a request -/

/-- The main function does not meet a response that holds the request: one that the
crypto accessor rejects, or one with an empty value, which makes the real main function
leave `ProcessFV` as it is. -/
def MeetsNoRejection :
    Guard FreshnessValueManagerImplParticipant ParticipantOp ParticipantEvent := fun s _ op =>
  ∀ csm signals, op = .mainFunction csm signals →
    s.mFvStateManager.mCurrentFvState = some .processFV →
    s.mCrAuthFvAndMac.1 ≠ [] ∧ s.verifyRes csm = .ok .kSuccess

instance : DecidablePred (MeetsNoRejection s h)
  | .mainFunction csm _ => decidable_of_iff
      (s.mFvStateManager.mCurrentFvState = some .processFV →
        s.mCrAuthFvAndMac.1 ≠ [] ∧ s.verifyRes csm = .ok .kSuccess)
      ⟨fun hmeets _ _ heq => by cases heq; exact hmeets, fun hmeets => hmeets _ _ rfl⟩
  | .incomingAuthFvSignal _ _ | .incomingUnAuthFvSignal _ _ | .call _ => .isTrue nofun

theorem not_rejected_of_meets (hready : Ready s) (hmeets : MeetsNoRejection s h op)
    (hstep : participantStep s op = .ok (s', es)) : .rejected ∉ es := by
  intro hrejected
  obtain ⟨hstate, csm, signals, rfl⟩ := processFV_of_event hready hstep (Or.inl hrejected)
  obtain ⟨-, code, hverify, hcases⟩ := verification_of_step hready hstate hstep
  have haccepted := (hmeets csm signals rfl hstate).2
  rw [hverify] at haccepted
  rcases hcases with ⟨-, hes⟩ | ⟨hfailure, -⟩
  · rw [hes] at hrejected
    simp at hrejected
  · exact hfailure (Except.ok.inj haccepted)

/-- The calls since the last request: the one that published it, those that
waited, and those that rejected a response. -/
def Accounted (c : RequestCycle) (h : List ParticipantEvent) : Prop :=
  c.Outstanding →
    lastRequest h = some c.challenge ∧ c.waited ≤ sokFmTimeRequestTimeoutMs.toNat ∧
      callsSinceRequest h * sokFmMainFunctionPeriodMs.toNat =
        (1 + rejectionsSinceRequest h) * sokFmMainFunctionPeriodMs.toNat + c.waited

theorem Accounted.react (haccounted : Accounted c h) : Accounted c.react h := by
  intro houtstanding
  rw [RequestCycle.outstanding_react] at houtstanding
  rw [RequestCycle.react_eq]
  exact haccounted houtstanding

theorem Accounted.step (haccounted : Accounted c h) (hstep : RequestCycle.Step c es c') :
    Accounted c' (es ++ h) := by
  have hperiod : sokFmMainFunctionPeriodMs.toNat = 5 := rfl
  cases hstep with
  | publish challenge hstate hlength =>
    intro _
    simp [lastRequest, callsSinceRequest, rejectionsSinceRequest]
  | wait hstate hwait =>
    intro _
    obtain ⟨hlast, hwaited, hcalls⟩ := haccounted (Or.inl hstate)
    refine ⟨hlast, hwait, ?_⟩
    simp [callsSinceRequest, rejectionsSinceRequest, hperiod] at hcalls ⊢
    omega
  | reject hstate =>
    intro _
    obtain ⟨hlast, hwaited, hcalls⟩ := haccounted (Or.inr hstate)
    refine ⟨hlast, hwaited, ?_⟩
    simp [callsSinceRequest, rejectionsSinceRequest, hperiod] at hcalls ⊢
    omega
  | value bytes =>
    refine Accounted.react fun houtstanding => ?_
    obtain ⟨hlast, hwaited, hcalls⟩ := haccounted houtstanding
    refine ⟨hlast, hwaited, ?_⟩
    simpa [callsSinceRequest, rejectionsSinceRequest] using hcalls
  | signature bytes =>
    refine Accounted.react fun houtstanding => ?_
    obtain ⟨hlast, hwaited, hcalls⟩ := haccounted houtstanding
    refine ⟨hlast, hwaited, ?_⟩
    simpa [callsSinceRequest, rejectionsSinceRequest] using hcalls
  | otherSignal => exact haccounted.react
  | other => exact haccounted
  | fail hstate | rest hstate =>
    -- no request is outstanding before and after the step
    intro houtstanding
    exact absurd houtstanding (RequestCycle.not_outstanding hstate (by decide))
  | timeout | adopt | agree | drift | unauthentic =>
    intro houtstanding
    exact absurd houtstanding (RequestCycle.not_outstanding rfl (by decide))

variable {P : Guard FreshnessValueManagerImplParticipant ParticipantOp ParticipantEvent}

theorem accounted_of_run (hinit : InitialisedParticipant s₀)
    (hrun : Run participantStep P s₀ [] s h) : Accounted s.requestCycle h := by
  refine cycleInvariant_of_run Accounted (fun _ _ => True) hinit hrun
    (fun _ _ _ _ _ _ _ _ => trivial) ?_ fun _ _ _ _ haccounted _ hstep => haccounted.step hstep
  intro c hstate houtstanding
  exact absurd houtstanding (RequestCycle.not_outstanding hstate (by decide))

/-- No response was rejected since the last request, in the states in which one
is outstanding. -/
def Unrejected (c : RequestCycle) (h : List ParticipantEvent) : Prop :=
  c.Outstanding → rejectionsSinceRequest h = 0

theorem Unrejected.step (hunrejected : Unrejected c h) (hes : .rejected ∉ es)
    (hstep : RequestCycle.Step c es c') : Unrejected c' (es ++ h) := by
  cases hstep with
  | publish challenge hstate hlength =>
    intro _
    simp [rejectionsSinceRequest]
  | reject hstate => simp at hes
  | wait hstate hwait =>
    intro _
    simpa [rejectionsSinceRequest] using hunrejected (Or.inl hstate)
  | value bytes | signature bytes =>
    intro houtstanding
    rw [RequestCycle.outstanding_react] at houtstanding
    simpa [rejectionsSinceRequest] using hunrejected houtstanding
  | otherSignal =>
    intro houtstanding
    rw [RequestCycle.outstanding_react] at houtstanding
    exact hunrejected houtstanding
  | other => exact hunrejected
  | fail hstate | rest hstate =>
    intro houtstanding
    exact absurd houtstanding (RequestCycle.not_outstanding hstate (by decide))
  | timeout | adopt | agree | drift | unauthentic =>
    intro houtstanding
    exact absurd houtstanding (RequestCycle.not_outstanding rfl (by decide))

theorem unrejected_of_run (hinit : InitialisedParticipant s₀)
    (hrun : Run participantStep MeetsNoRejection s₀ [] s h) : Unrejected s.requestCycle h := by
  refine cycleInvariant_of_run Unrejected (fun _ es => .rejected ∉ es) hinit hrun
    (fun _ _ _ _ _ hready hmeets hstep => not_rejected_of_meets hready hmeets hstep) ?_
    fun _ _ _ _ hunrejected hes hstep => hunrejected.step hes hstep
  intro c hstate houtstanding
  exact absurd houtstanding (RequestCycle.not_outstanding hstate (by decide))

/-- The age of an outstanding request, in calls of the main function. -/
theorem callsSinceRequest_of_run (hinit : InitialisedParticipant s₀)
    (hrun : Run participantStep MeetsNoRejection s₀ [] s h)
    (houtstanding : s.requestCycle.Outstanding) :
    lastRequest h = some s.mActiveFvChallenge ∧ callsSinceRequest h ≤ 51 := by
  obtain ⟨hlast, hwaited, hcalls⟩ := accounted_of_run hinit hrun houtstanding
  have hperiod : sokFmMainFunctionPeriodMs.toNat = 5 := rfl
  have htimeout : sokFmTimeRequestTimeoutMs.toNat = 250 := rfl
  rw [unrejected_of_run hinit hrun houtstanding, hperiod] at hcalls
  exact ⟨hlast, by omega⟩

/-- **A participant is not held on one request.**  As long as the main function
meets no response that the crypto accessor rejects, and none with an empty value, an
outstanding request is at most 51 calls old, and what is adopted answers a request no
older than that. -/
theorem request_not_held (hinit : InitialisedParticipant s₀)
    (hrun : Run participantStep MeetsNoRejection s₀ [] s h) :
    (s.mFvStateManager.mCurrentFvState = some .fvInProgress ∨
        s.mFvStateManager.mCurrentFvState = some .processFV →
      lastRequest h = some s.mActiveFvChallenge ∧ callsSinceRequest h ≤ 51) ∧
    ∀ op fv, Emits participantStep s op (.adopted fv) →
      lastRequest h = some s.mActiveFvChallenge ∧ callsSinceRequest h ≤ 51 := by
  refine ⟨callsSinceRequest_of_run hinit hrun, ?_⟩
  intro op fv hemits
  obtain ⟨s', es, hstep, hadopted⟩ := hemits
  have hready := ready_of_run hinit hrun
  obtain ⟨hstate, -⟩ := processFV_of_event hready hstep (Or.inr ⟨fv, hadopted⟩)
  exact callsSinceRequest_of_run hinit hrun (Or.inr hstate)

/-- A pair that comes in after 31 calls and is accepted in the next one. -/
theorem request_not_held_by_accepted_pair :
    ∃ s h, Run participantStep MeetsNoRejection sinkParticipant [] s h ∧
      s.mFvStateManager.mCurrentFvState = some .processFV ∧ callsSinceRequest h = 31 ∧
      Emits participantStep s (.mainFunction zeroDigestCsm reliableSignals) (.adopted 42) ∧
      lastRequest h = some s.mActiveFvChallenge ∧ callsSinceRequest h ≤ 51 := by
  obtain ⟨s, h, hrun, hstate, hcalls, hemits⟩ :
      ∃ s h, Run participantStep MeetsNoRejection sinkParticipant [] s h ∧
        s.mFvStateManager.mCurrentFvState = some .processFV ∧ callsSinceRequest h = 31 ∧
        Emits participantStep s (.mainFunction zeroDigestCsm reliableSignals) (.adopted 42) :=
    Run.exists_of_exec_of_meets
      (List.replicate 31 (.mainFunction zeroDigestCsm reliableSignals) ++
        [.incomingAuthFvSignal "SOK_Zeit_SINK_Zeit" [0, 42],
          .incomingAuthFvSignal "SOK_Zeit_SINK_Signatur" (.replicate 8 0)])
      (by decide +kernel) (by decide +kernel)
  exact ⟨s, h, hrun, hstate, hcalls, hemits,
    (request_not_held initialisedParticipant_sinkParticipant hrun).2 _ _ hemits⟩

/-- Pairs of single bytes that fail their verification hold the request for as
many calls as they keep coming. -/
theorem request_held_by_rejected_pairs :
    InitialisedParticipant sinkParticipant ∧
      ∃ s h, Run participantStep Anything sinkParticipant [] s h ∧
        s.mFvStateManager.mCurrentFvState = some .fvInProgress ∧
        s.mTimeSinceAuthFvReq = 0 ∧ callsSinceRequest h = 101 :=
  ⟨initialisedParticipant_sinkParticipant,
    Run.exists_of_exec
      (.mainFunction zeroDigestCsm reliableSignals ::
        (List.replicate 100
          [.incomingAuthFvSignal "SOK_Zeit_SINK_Zeit" [1],
            .incomingAuthFvSignal "SOK_Zeit_SINK_Signatur" [1],
            .mainFunction zeroDigestCsm reliableSignals]).flatten)
      (by decide +kernel)⟩

/-! ## The origin of a pair -/

/-- A request goes out when no half of a response is stored. -/
def RequestsWithEmptyPair :
    Guard FreshnessValueManagerImplParticipant ParticipantOp ParticipantEvent := fun s _ op =>
  ∀ csm signals challenge, op = .mainFunction csm signals →
    s.mFvStateManager.mCurrentFvState = some .requestFV →
    csm.generateRandomBytes challengeLengthBytes = .ok challenge →
    signals.publish s.mFvmConfAccessor.getAuthenticatedFvChallengeSignalConfig challenge =
      .kSuccess →
    s.mCrAuthFvAndMac = ([], [])

/-- A half that is stored came in since the last request. -/
def FromThisRequest (stored : ByteVector) (received : Option ByteVector) : Prop :=
  stored = [] ∨ received = some stored

/-- Where the stored halves come from. A complete pair that waits is never
excused by being empty. -/
def Fresh (c : RequestCycle) (h : List ParticipantEvent) : Prop :=
  (c.state = some .fvInProgress → lastRequest h = some c.challenge ∧
    FromThisRequest c.value (valueSinceRequest h) ∧
    FromThisRequest c.signature (signatureSinceRequest h)) ∧
  (c.state = some .processFV → lastRequest h = some c.challenge ∧
    valueSinceRequest h = some c.value ∧ signatureSinceRequest h = some c.signature)

theorem Fresh.react (hfresh : Fresh c h) : Fresh c.react h := by
  by_cases hcomplete : c.Complete
  · rw [RequestCycle.react_eq, RequestCycle.state_react_of_complete hcomplete]
    cases hstate : c.state with
    | none => exact ⟨fun h => by simp at h, fun h => by simp at h⟩
    | some state =>
      refine ⟨?_, ?_⟩
      · intro hnext
        cases state <;> simp [FreshnessValueStateManager.onFvRes] at hnext
      · intro hnext
        cases state with
        | fvInProgress =>
          obtain ⟨hlast, hvalue, hsignature⟩ := hfresh.1 hstate
          exact ⟨hlast, hvalue.resolve_left hcomplete.1, hsignature.resolve_left hcomplete.2⟩
        | processFV => exact hfresh.2 hstate
        | _ => simp [FreshnessValueStateManager.onFvRes] at hnext
  · rw [RequestCycle.react_of_not_complete hcomplete]
    exact hfresh

theorem Fresh.step (hfresh : Fresh c h)
    (hempty : ∀ challenge, .published challenge ∈ es → c.value = [] ∧ c.signature = [])
    (hstep : RequestCycle.Step c es c') : Fresh c' (es ++ h) := by
  cases hstep with
  | publish challenge hstate hlength =>
    obtain ⟨hvalue, hsignature⟩ := hempty challenge (by simp)
    refine ⟨fun _ => ⟨?_, Or.inl hvalue, Or.inl hsignature⟩, fun h => by cases h⟩
    simp [lastRequest]
  | wait hstate hwait =>
    refine ⟨fun _ => ?_, fun h => ?_⟩
    · simpa [lastRequest, valueSinceRequest, signatureSinceRequest] using hfresh.1 hstate
    · simp [hstate] at h
  | reject hstate =>
    refine ⟨fun _ => ⟨?_, Or.inl rfl, Or.inl rfl⟩, fun h => by cases h⟩
    simpa [lastRequest] using (hfresh.2 hstate).1
  | value bytes =>
    refine Fresh.react ⟨fun hstate => ?_, fun hstate => ?_⟩
    · obtain ⟨hlast, -, hsignature⟩ := hfresh.1 hstate
      refine ⟨hlast, Or.inr ?_, ?_⟩
      · simp [valueSinceRequest]
      · simpa [signatureSinceRequest] using hsignature
    · obtain ⟨hlast, -, hsignature⟩ := hfresh.2 hstate
      refine ⟨hlast, ?_, ?_⟩
      · simp [valueSinceRequest]
      · simpa [signatureSinceRequest] using hsignature
  | signature bytes =>
    refine Fresh.react ⟨fun hstate => ?_, fun hstate => ?_⟩
    · obtain ⟨hlast, hvalue, -⟩ := hfresh.1 hstate
      refine ⟨hlast, ?_, Or.inr ?_⟩
      · simpa [valueSinceRequest] using hvalue
      · simp [signatureSinceRequest]
    · obtain ⟨hlast, hvalue, -⟩ := hfresh.2 hstate
      refine ⟨hlast, ?_, ?_⟩
      · simpa [valueSinceRequest] using hvalue
      · simp [signatureSinceRequest]
  | otherSignal => exact hfresh.react
  | other => exact hfresh
  | fail hstate | rest hstate =>
    exact ⟨fun h => by simp [hstate] at h, fun h => by simp [hstate] at h⟩
  | timeout | adopt | agree | drift | unauthentic =>
    exact ⟨fun h => by simp at h, fun h => by simp at h⟩

theorem fresh_of_run (hinit : InitialisedParticipant s₀)
    (hrun : Run participantStep RequestsWithEmptyPair s₀ [] s h) : Fresh s.requestCycle h := by
  refine cycleInvariant_of_run Fresh
    (fun c es => ∀ challenge, .published challenge ∈ es → c.value = [] ∧ c.signature = [])
    hinit hrun ?_ ?_ fun _ _ _ _ hfresh hempty hstep => hfresh.step hempty hstep
  · intro s h op s' es hready hmeets hstep challenge hpublished
    obtain ⟨csm, signals, hop, hstate, hrandom, hpublish⟩ :=
      request_of_published hready hstep hpublished
    have hpair := hmeets csm signals challenge hop hstate hrandom hpublish
    exact ⟨congrArg Prod.fst hpair, congrArg Prod.snd hpair⟩
  · intro c hstate
    exact ⟨fun h => by simp [hstate] at h, fun h => by simp [hstate] at h⟩

/-- **No stale half is verified.**  If nothing is stored whenever a request goes
out, then both halves that wait for verification are the newest ones that came in
since the last request, which is the one with the active challenge. -/
theorem pair_received_since_request (hinit : InitialisedParticipant s₀)
    (hrun : Run participantStep RequestsWithEmptyPair s₀ [] s h)
    (hstate : s.mFvStateManager.mCurrentFvState = some .processFV) :
    lastRequest h = some s.mActiveFvChallenge ∧
      valueSinceRequest h = some s.mCrAuthFvAndMac.1 ∧
      signatureSinceRequest h = some s.mCrAuthFvAndMac.2 :=
  (fresh_of_run hinit hrun).2 hstate

theorem pair_received_since_first_request :
    ∃ s h, Run participantStep RequestsWithEmptyPair sinkParticipant [] s h ∧
      s.mFvStateManager.mCurrentFvState = some .processFV ∧
      lastRequest h = some s.mActiveFvChallenge ∧
      valueSinceRequest h = some s.mCrAuthFvAndMac.1 ∧
      signatureSinceRequest h = some s.mCrAuthFvAndMac.2 := by
  have hrequest := Run.single (P := RequestsWithEmptyPair) (h := [])
    (fun _ _ _ _ _ _ _ => rfl)
    (show participantStep sinkParticipant (.mainFunction zeroDigestCsm reliableSignals) =
      .ok (_, _) from rfl)
  have hvalue := hrequest.step (i := .incomingAuthFvSignal "SOK_Zeit_SINK_Zeit" [0])
    (fun _ _ _ h => by cases h) rfl
  have hsignature := hvalue.step (i := .incomingAuthFvSignal "SOK_Zeit_SINK_Signatur" [0])
    (fun _ _ _ h => by cases h) rfl
  exact ⟨_, _, hsignature, by decide +kernel,
    pair_received_since_request initialisedParticipant_sinkParticipant hsignature
      (by decide +kernel)⟩

/-- A value that came in before the request is verified with the signature that
came in after it. -/
theorem pair_with_value_before_request :
    InitialisedParticipant sinkParticipant ∧
      ∃ s h, Run participantStep Anything sinkParticipant [] s h ∧
        s.mFvStateManager.mCurrentFvState = some .processFV ∧
        s.mCrAuthFvAndMac.1 = [1] ∧ valueSinceRequest h = none :=
  ⟨initialisedParticipant_sinkParticipant,
    Run.exists_of_exec
      [.incomingAuthFvSignal "SOK_Zeit_SINK_Zeit" [1],
        .mainFunction zeroDigestCsm reliableSignals,
        .incomingAuthFvSignal "SOK_Zeit_SINK_Signatur" [1]]
      (by decide +kernel)⟩

/-! ## The completeness of a pair -/

/-- Neither half of a pair that waits for verification is replaced by an empty
one. -/
def ReplacesByNonEmpty :
    Guard FreshnessValueManagerImplParticipant ParticipantOp ParticipantEvent := fun s _ op =>
  ∀ signal, op = .incomingAuthFvSignal signal [] →
    s.mFvStateManager.mCurrentFvState = some .processFV →
    s.mFvmConfAccessor.getAuthenticatedFvValueSignalConfig.name ≠ signal ∧
      s.mFvmConfAccessor.getAuthenticatedFvSignatureSignalConfig.name ≠ signal

/-- A pair that waits for verification is complete. -/
def CompleteInProcessFV (s : FreshnessValueManagerImplParticipant) : Prop :=
  s.mFvStateManager.mCurrentFvState = some .processFV →
    s.mCrAuthFvAndMac.1 ≠ [] ∧ s.mCrAuthFvAndMac.2 ≠ []

/-- The same for the cycle. -/
def WaitsComplete (c : RequestCycle) : Prop :=
  c.state = some .processFV → c.Complete

theorem WaitsComplete.react (hwaits : WaitsComplete c) :
    WaitsComplete c.react := by
  intro hstate
  by_cases hcomplete : c.Complete
  · rw [RequestCycle.react_eq]
    exact hcomplete
  · rw [RequestCycle.react_of_not_complete hcomplete] at hstate ⊢
    exact hwaits hstate

theorem WaitsComplete.step (hwaits : WaitsComplete c)
    (hreplaces : c.state = some .processFV →
      .valueReceived [] ∉ es ∧ .signatureReceived [] ∉ es)
    (hstep : RequestCycle.Step c es c') : WaitsComplete c' := by
  cases hstep with
  | value bytes =>
    refine WaitsComplete.react fun hstate => ⟨?_, (hwaits hstate).2⟩
    intro hbytes
    exact (hreplaces hstate).1 (by simpa using Eq.symm hbytes)
  | signature bytes =>
    refine WaitsComplete.react fun hstate => ⟨(hwaits hstate).1, ?_⟩
    intro hbytes
    exact (hreplaces hstate).2 (by simpa using Eq.symm hbytes)
  | otherSignal => exact hwaits.react
  | other => exact hwaits
  | fail hstate | wait hstate | rest hstate =>
    intro h
    simp [hstate] at h
  | publish | timeout | reject | adopt | agree | drift | unauthentic =>
    intro h
    simp at h

/-- What is stored in `ProcessFV` under the guard is not empty. -/
theorem not_received_empty (hready : Ready s) (hreplaces : ReplacesByNonEmpty s h op)
    (hstate : s.requestCycle.state = some .processFV)
    (hstep : participantStep s op = .ok (s', es)) :
    .valueReceived [] ∉ es ∧ .signatureReceived [] ∉ es := by
  cases op with
  | mainFunction csm signals =>
    obtain ⟨-, code, -, ⟨-, hes⟩ | ⟨-, hes⟩⟩ := verification_of_step hready hstate hstep
    · simp [hes]
    · simp [hes]
  | incomingAuthFvSignal signal value =>
    have hes : (s.incomingAuthFvSignalsCb signal value).2 = es :=
      congrArg Prod.snd (Except.ok.inj hstep)
    rw [← hes, events_incomingAuthFvSignalsCb, storeAuthFvSignal]
    split
    · rename_i hname
      simp only [List.mem_singleton, ParticipantEvent.valueReceived.injEq, reduceCtorEq,
        not_false_eq_true, and_true]
      intro hempty
      exact (hreplaces signal (by rw [hempty]) hstate).1 hname
    · split
      · rename_i hname
        simp only [List.mem_singleton, ParticipantEvent.signatureReceived.injEq, reduceCtorEq,
          not_false_eq_true, true_and]
        intro hempty
        exact (hreplaces signal (by rw [hempty]) hstate).2 hname
      · simp
  | incomingUnAuthFvSignal signal value =>
    cases Except.ok.inj hstep
    simp
  | call call =>
    cases Except.ok.inj hstep
    simp

/-- An empty half in `ProcessFV` is stored and waits there. -/
theorem not_complete_of_empty {signal : String}
    (hstate : s.mFvStateManager.mCurrentFvState = some .processFV)
    (hname : s.mFvmConfAccessor.getAuthenticatedFvValueSignalConfig.name = signal ∨
      s.mFvmConfAccessor.getAuthenticatedFvSignatureSignalConfig.name = signal) :
    ¬ CompleteInProcessFV (s.incomingAuthFvSignalsCb signal []).1 := by
  unfold incomingAuthFvSignalsCb storeAuthFvSignal
  by_cases hvalue : s.mFvmConfAccessor.getAuthenticatedFvValueSignalConfig.name = signal
  · rw [if_pos hvalue]
    intro hcomplete
    exact (hcomplete hstate).1 rfl
  · rw [if_neg hvalue, if_pos (hname.resolve_left hvalue)]
    have hnot : ¬ (s.mCrAuthFvAndMac.1 ≠ [] ∧ ([] : ByteVector) ≠ []) := fun h => h.2 rfl
    intro hcomplete
    dsimp only at hcomplete
    rw [if_neg hnot] at hcomplete
    exact (hcomplete hstate).2 rfl

theorem waitsComplete_of_run (hinit : InitialisedParticipant s₀)
    (hrun : Run participantStep ReplacesByNonEmpty s₀ [] s h) : WaitsComplete s.requestCycle := by
  refine cycleInvariant_of_run (fun c _ => WaitsComplete c)
    (fun c es => c.state = some .processFV →
      .valueReceived [] ∉ es ∧ .signatureReceived [] ∉ es)
    hinit hrun ?_ ?_ fun _ _ _ _ hwaits hreplaces hstep => hwaits.step hreplaces hstep
  · intro s h op s' es hready hreplaces hstep hstate
    exact not_received_empty hready hreplaces hstate hstep
  · intro c hstate hprocess
    simp [hstate] at hprocess

/-- **A pair that waits for verification is complete**, in every run in which no
half of it is replaced by an empty one; and a step that does replace one leaves an
incomplete pair behind. -/
theorem pair_complete_iff (hinit : InitialisedParticipant s₀)
    (hrun : Run participantStep ReplacesByNonEmpty s₀ [] s h) :
    CompleteInProcessFV s ∧
      ∀ op s' es, participantStep s op = .ok (s', es) →
        (CompleteInProcessFV s' ↔ ReplacesByNonEmpty s h op) := by
  have hready := ready_of_run hinit hrun
  have hwaits := waitsComplete_of_run hinit hrun
  refine ⟨hwaits, ?_⟩
  intro op s' es hstep
  constructor
  · intro hcomplete signal hop hstate
    subst hop
    have hs' : (s.incomingAuthFvSignalsCb signal []).1 = s' :=
      congrArg Prod.fst (Except.ok.inj hstep)
    rw [← hs'] at hcomplete
    refine ⟨?_, ?_⟩
    · intro hname
      exact not_complete_of_empty hstate (Or.inl hname) hcomplete
    · intro hname
      exact not_complete_of_empty hstate (Or.inr hname) hcomplete
  · intro hreplaces
    exact hwaits.step
      (fun hstate => not_received_empty hready hreplaces hstate hstep)
      (requestCycle_step hready hstep).step

theorem pair_complete_after_replacement :
    ∃ s h, Run participantStep ReplacesByNonEmpty sinkParticipant [] s h ∧
      s.mFvStateManager.mCurrentFvState = some .processFV ∧ s.mCrAuthFvAndMac = ([0], [1]) ∧
      CompleteInProcessFV s ∧
      ∀ op s' es, participantStep s op = .ok (s', es) →
        (CompleteInProcessFV s' ↔ ReplacesByNonEmpty s h op) := by
  have hrequest := Run.single (P := ReplacesByNonEmpty) (h := [])
    (fun _ h => by cases h)
    (show participantStep sinkParticipant (.mainFunction zeroDigestCsm reliableSignals) =
      .ok (_, _) from rfl)
  have hvalue := hrequest.step (i := .incomingAuthFvSignal "SOK_Zeit_SINK_Zeit" [0])
    (fun _ h => by cases h) rfl
  have hsignature := hvalue.step (i := .incomingAuthFvSignal "SOK_Zeit_SINK_Signatur" [0])
    (fun _ h => by cases h) rfl
  -- the pair is complete now, and the next signature takes the place of the first
  have hreplaced := hsignature.step (i := .incomingAuthFvSignal "SOK_Zeit_SINK_Signatur" [1])
    (fun _ h => by cases h) rfl
  exact ⟨_, _, hreplaced, by decide +kernel, by decide +kernel,
    pair_complete_iff initialisedParticipant_sinkParticipant hreplaced⟩

/-- An empty signature replaces the signature of a pair that waits. -/
theorem pair_with_empty_signature :
    InitialisedParticipant sinkParticipant ∧
      ∃ s h, Run participantStep Anything sinkParticipant [] s h ∧
        s.mFvStateManager.mCurrentFvState = some .processFV ∧ s.mCrAuthFvAndMac = ([1], []) :=
  ⟨initialisedParticipant_sinkParticipant,
    Run.exists_of_exec
      [.mainFunction zeroDigestCsm reliableSignals,
        .incomingAuthFvSignal "SOK_Zeit_SINK_Zeit" [1],
        .incomingAuthFvSignal "SOK_Zeit_SINK_Signatur" [1],
        .incomingAuthFvSignal "SOK_Zeit_SINK_Signatur" []]
      (by decide +kernel)⟩

end Sok.Fvm
