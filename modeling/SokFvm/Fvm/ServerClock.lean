import SokFvm.Fvm.Lineage

/-!
# The clock of a server

A server draws its freshness value at `Init` and moves it with its clock, so its
value is a `Cadence` of the calls of its main function: `ServerClock`.

Two things that the server sends are tied to the phase of that cadence.  A round
of responses is due when the freshness value has just changed, so a response is
signed with a value whose clock stands at zero.  A broadcast is due when the time
is a multiple of a second, so a broadcast that succeeds at its first attempt has
a clock that stands at zero as well.  `Timed` says when an event was sent and with
which value.
-/

namespace Sok.Fvm

open Sok.Common StateMachine Cadence FreshnessValueManagerImplServer

/-! ## The calls of the main function -/

/-- The result of a call of the main function. -/
def ServerEvent.returned : ServerEvent → Option FvmErrorCode
  | .mainFunctionCompleted ret => some ret
  | _ => none

/-- The calls of the main function that completed. -/
def serverCalls (h : List ServerEvent) : Nat :=
  h.countP (·.returned.isSome)

/-- What the last call of the main function returned. -/
def lastReturn (h : List ServerEvent) : Option FvmErrorCode :=
  h.findSome? (·.returned)

/-- The last call of the main function did not fail to broadcast, so that a
broadcast now is a first attempt. -/
def FirstAttempt (h : List ServerEvent) : Prop :=
  ∀ ret, lastReturn h = some ret → ret = .kSuccess

instance (h : List ServerEvent) : Decidable (FirstAttempt h) :=
  match hlast : lastReturn h with
  | none => .isTrue fun ret hret => by
      rw [hlast] at hret
      cases hret
  | some ret => decidable_of_iff (ret = .kSuccess)
      ⟨fun hsuccess ret' hret => by
        rw [hlast] at hret
        rw [← Option.some.inj hret, hsuccess], fun hfirst => hfirst ret hlast⟩

variable {s s' s₀ : FreshnessValueManagerImplServer} {op : ServerOp}
variable {es h h₀ : List ServerEvent} {services : ServerServices}

theorem serverCalls_append : serverCalls (es ++ h) = serverCalls es + serverCalls h :=
  List.countP_append

theorem serverCalls_of_quiet (hquiet : ∀ e ∈ es, e.returned = none) : serverCalls es = 0 := by
  unfold serverCalls
  rw [List.countP_eq_zero]
  intro e hmem
  rw [hquiet e hmem]
  decide

/-- A call of the main function is one call. -/
theorem serverCalls_completed {ret : FvmErrorCode} (hquiet : ∀ e ∈ es, e.returned = none) :
    serverCalls (.mainFunctionCompleted ret :: es) = 1 := by
  have hzero : es.countP (·.returned.isSome) = 0 := serverCalls_of_quiet hquiet
  unfold serverCalls
  rw [List.countP_cons_of_pos rfl, hzero]

theorem lastReturn_append (hquiet : ∀ e ∈ es, e.returned = none) :
    lastReturn (es ++ h) = lastReturn h := by
  unfold lastReturn
  rw [List.findSome?_append, List.findSome?_eq_none_iff.mpr hquiet]
  rfl

theorem firstAttempt_append (hquiet : ∀ e ∈ es, e.returned = none) :
    FirstAttempt (es ++ h) ↔ FirstAttempt h := by
  unfold FirstAttempt
  rw [lastReturn_append hquiet]

/-! ## What a step does to the clock -/

/-- What is sent is what the server has. -/
def ServerEvent.SentBy (s : FreshnessValueManagerImplServer) : ServerEvent → Prop
  | .broadcast value => s.mNeedToBroadcastFv = true ∧ value = uintToByteVector s.mFV
  | .answered _ _ _ fv _ _ => s.mNeedToSendAuthFvResponses = true ∧ fv = s.mFV
  | .mainFunctionCompleted _ => False
  | _ => True

theorem ServerEvent.SentBy.quiet {e : ServerEvent} (hsent : e.SentBy s) : e.returned = none := by
  cases e with
  | mainFunctionCompleted ret => cases hsent
  | _ => rfl

/-- What a step does to the clock of a server and to its two flags. -/
inductive ServerClockStep (s : FreshnessValueManagerImplServer) (op : ServerOp)
    (es : List ServerEvent) (s' : FreshnessValueManagerImplServer) : Prop
  /-- The main function: a round of responses is due when the value has changed, a
  broadcast when it is time or when it has failed. -/
  | ticks (hop : ∃ services, op = .mainFunction services) (ret : FvmErrorCode)
      (sent : List ServerEvent)
      (hes : es = .mainFunctionCompleted ret :: sent) (hsent : ∀ e ∈ sent, e.SentBy s)
      (hbase : s'.toAFreshnessValueManagerImpl = s.toAFreshnessValueManagerImpl.incTimers)
      (hrespond : s'.mNeedToSendAuthFvResponses = true → s'.mFV ≠ s.mFV)
      (hbroadcast : s'.mNeedToBroadcastFv = true → ret = .kSuccess →
        s'.mTimeSinceInit % sokFmTimeSendMs.toUInt64 = 0)
  /-- A signal or a call from outside. -/
  | calls (hquiet : ∀ e ∈ es, e.returned = none)
      (hsent : ∀ e ∈ es, ∃ client challenge, e = .recorded client challenge)
      (hbase : AFreshnessValueManagerImpl.SameContext s.toAFreshnessValueManagerImpl
        s'.toAFreshnessValueManagerImpl)
      (hrespond : s'.mNeedToSendAuthFvResponses = s.mNeedToSendAuthFvResponses)
      (hbroadcast : s'.mNeedToBroadcastFv = s.mNeedToBroadcastFv)

theorem sentBy_broadcastIfNeeded (signals : ISignalManager) :
    ∀ e ∈ (s.broadcastIfNeeded signals).2.2, e.SentBy s := by
  intro e hmem
  obtain ⟨hneed, rfl⟩ := event_broadcastIfNeeded signals e hmem
  exact ⟨hneed, rfl⟩

/-- After the broadcast the flag is set only if the broadcast failed. -/
theorem mNeedToBroadcastFv_broadcastIfNeeded (signals : ISignalManager)
    (hneed : (s.broadcastIfNeeded signals).2.1.mNeedToBroadcastFv = true) :
    (s.broadcastIfNeeded signals).1 ≠ .kSuccess := by
  rcases s.broadcastIfNeeded_cases signals with
    ⟨hidle, heq⟩ | ⟨-, code, hfailed, -, heq⟩ | ⟨-, -, heq⟩
  · rw [heq] at hneed
    exact absurd hneed (Bool.eq_false_iff.mp hidle)
  · rw [heq]
    exact hfailed
  · rw [heq] at hneed
    cases hneed

/-- The round of responses comes after the broadcast and sees the same value. -/
theorem ServerEvent.SentBy.of_broadcastIfNeeded {signals : ISignalManager} {e : ServerEvent}
    (hsent : e.SentBy (s.broadcastIfNeeded signals).2.1) : e.SentBy s := by
  have hneed : (s.broadcastIfNeeded signals).2.1.mNeedToBroadcastFv = true →
      s.mNeedToBroadcastFv = true := by
    rcases s.broadcastIfNeeded_cases signals with
      ⟨-, heq⟩ | ⟨hneed, -⟩ | ⟨hneed, -⟩
    · rw [heq]
      exact id
    · exact fun _ => hneed
    · exact fun _ => hneed
  rw [broadcastIfNeeded_eq] at hsent
  cases e with
  | broadcast value => exact ⟨hneed hsent.1, hsent.2⟩
  | answered client keyId challenge fv data mac => exact hsent
  | mainFunctionCompleted ret => exact hsent
  | _ => trivial

theorem sentBy_publishResponse {signals : ISignalManager} {client : String}
    {serializedFv macRes8Byte : ByteVector} :
    ∀ e ∈ s.publishResponse signals client serializedFv macRes8Byte, e.SentBy s := by
  unfold publishResponse
  dsimp only
  split
  · simp
  · split
    · simp [ServerEvent.SentBy]
    · simp [ServerEvent.SentBy]

theorem sentBy_sendAuthenticFvResponse (hneed : s.mNeedToSendAuthFvResponses = true)
    {challengeEntry : Σ _ : String, ByteVector} {events : List ServerEvent}
    (hevents : s.sendAuthenticFvResponse services challengeEntry = .ok events) :
    ∀ e ∈ events, e.SentBy s := by
  unfold sendAuthenticFvResponse at hevents
  dsimp only at hevents
  split at hevents
  · cases hevents
    simp
  · split at hevents
    · cases hevents
    · cases hevents
      intro e hmem
      rcases List.mem_append.mp hmem with hmem | hmem
      · exact sentBy_publishResponse e hmem
      · cases List.mem_singleton.mp hmem
        exact ⟨hneed, rfl⟩

theorem sentBy_sendResponses (hneed : s.mNeedToSendAuthFvResponses = true)
    {entries : List (Σ _ : String, ByteVector)} {events : List ServerEvent}
    (hevents : s.sendResponses services entries = .ok events) : ∀ e ∈ events, e.SentBy s := by
  induction entries generalizing events with
  | nil =>
    cases hevents
    simp
  | cons entry rest ih =>
    rw [sendResponses] at hevents
    split at hevents
    · cases hevents
    · rename_i first hfirst
      split at hevents
      · cases hevents
      · rename_i later hlater
        cases hevents
        intro e hmem
        rcases List.mem_append.mp hmem with hmem | hmem
        · exact ih hlater e hmem
        · exact sentBy_sendAuthenticFvResponse hneed hfirst e hmem

/-- A round of responses sends what the server has, clears its flag and leaves the
other one. -/
theorem respondIfNeeded_spec {result : ServerResult}
    (hresult : s.respondIfNeeded services = .ok result) :
    (∀ e ∈ result.2.2, e.SentBy s) ∧ result.2.1.mNeedToSendAuthFvResponses = false ∧
      result.2.1.mNeedToBroadcastFv = s.mNeedToBroadcastFv := by
  rcases respondIfNeeded_cases hresult with ⟨hidle, rfl⟩ | ⟨hneed, events, hevents, rfl⟩
  · exact ⟨List.forall_mem_nil _, hidle, rfl⟩
  · exact ⟨sentBy_sendResponses hneed hevents, rfl, rfl⟩

/-- What the end of the main function does to the flags. -/
theorem advanceClock_spec :
    (s.advanceClock.mNeedToSendAuthFvResponses = true →
      s.mNeedToSendAuthFvResponses = true ∨ s.advanceClock.mFV ≠ s.mFV) ∧
    (s.advanceClock.mNeedToBroadcastFv = true → s.mNeedToBroadcastFv = true ∨
      s.advanceClock.mTimeSinceInit % sokFmTimeSendMs.toUInt64 = 0) := by
  unfold advanceClock
  dsimp only
  split
  · rename_i hchanged
    split
    · rename_i htime
      exact ⟨fun _ => Or.inr hchanged, fun _ => Or.inr htime⟩
    · exact ⟨fun _ => Or.inr hchanged, fun h => Or.inl h⟩
  · split
    · rename_i htime
      exact ⟨fun h => Or.inl h, fun _ => Or.inr htime⟩
    · exact ⟨fun h => Or.inl h, fun h => Or.inl h⟩

theorem serverClockStep_mainFunction (hinit : s.mInitialized = true) {result : ServerResult}
    (hresult : s.mainFunction services = .ok result) :
    ServerClockStep s (.mainFunction services) result.2.2 result.2.1 := by
  obtain ⟨t, events, hrespond, rfl⟩ := mainFunction_parts hinit hresult
  have hbase := base_respondIfNeeded hrespond
  obtain ⟨hevents, hresponded, hbroadcast⟩ := respondIfNeeded_spec hrespond
  rw [broadcastIfNeeded_eq] at hbase
  obtain ⟨hrespond', hbroadcast'⟩ := advanceClock_spec (s := t)
  refine .ticks ⟨services, rfl⟩ _ _ rfl ?_ ?_ ?_ ?_
  · intro e hmem
    rcases List.mem_append.mp hmem with hmem | hmem
    · exact (hevents e hmem).of_broadcastIfNeeded
    · exact sentBy_broadcastIfNeeded _ e hmem
  · show t.advanceClock.toAFreshnessValueManagerImpl = _
    rw [base_advanceClock, hbase]
  · intro hneed
    have hfv : t.mFV = s.mFV := congrArg (·.mFV) hbase
    rcases hrespond' hneed with h | h
    · rw [hresponded] at h
      cases h
    · rw [← hfv]
      exact h
  · intro hneed hret
    rcases hbroadcast' hneed with h | h
    · rw [hbroadcast] at h
      exact absurd hret (mNeedToBroadcastFv_broadcastIfNeeded _ h)
    · exact h

/-- Every step of an initialised server is one of these. -/
theorem serverClockStep_of_step (hinit : s.mInitialized = true)
    (hstep : serverStep s op = .ok (s', es)) : ServerClockStep s op es s' := by
  cases op with
  | mainFunction services =>
    obtain ⟨ret, hresult⟩ := mainFunction_of_serverStep hstep
    exact serverClockStep_mainFunction hinit hresult
  | incomingAuthFvChallengeSignal signal challenge =>
    have hcb : s.incomingAuthFvChallengeSignalsCb signal challenge = (s', es) :=
      Except.ok.inj hstep
    rcases s.incomingAuthFvChallengeSignalsCb_cases signal challenge with
      heq | ⟨client, -, -, heq⟩
    · cases heq.symm.trans hcb
      exact .calls (by simp) (by simp) ⟨rfl, rfl, rfl, rfl, rfl, rfl⟩ rfl rfl
    · cases heq.symm.trans hcb
      exact .calls (by simp [ServerEvent.returned]) (by simp) ⟨rfl, rfl, rfl, rfl, rfl, rfl⟩
        rfl rfl
  | call call =>
    cases Except.ok.inj hstep
    exact .calls (by simp) (by simp) (AFreshnessValueManagerImpl.sameContext_of_call call) rfl rfl

/-! ## The cadence -/

/-- When an event was sent, and with which value, for a server that started with
the value `start`. -/
def Timed (start : UInt64) : ServerEvent → List ServerEvent → Prop
  | .broadcast value, past =>
    value = uintToByteVector
        (start + UInt64.ofNat (after ticksPerIncrement (serverCalls past)).count) ∧
      (FirstAttempt past → UInt64.ofNat (5 * serverCalls past) % sokFmTimeSendMs.toUInt64 = 0)
  | .answered _ _ _ fv _ _, past =>
    fv = start + UInt64.ofNat (after ticksPerIncrement (serverCalls past)).count ∧
      (after ticksPerIncrement (serverCalls past)).phase = 0
  | _, _ => True

/-- The invariant of a server that started with the value `start`. -/
structure ServerClock (start : UInt64) (s : FreshnessValueManagerImplServer)
    (h : List ServerEvent) : Prop where
  mInitialized : s.mInitialized = true
  mIsFvValid : s.mIsFvValid = true
  shows : Shows s.toAFreshnessValueManagerImpl start (after ticksPerIncrement (serverCalls h))
  time : s.mTimeSinceInit = UInt64.ofNat (5 * serverCalls h)
  responds : s.mNeedToSendAuthFvResponses = true →
    (after ticksPerIncrement (serverCalls h)).phase = 0
  broadcasts : s.mNeedToBroadcastFv = true → FirstAttempt h →
    s.mTimeSinceInit % sokFmTimeSendMs.toUInt64 = 0
  sent : EachEvent (Timed start) h

variable {start : UInt64}

theorem ServerClock.timed (hclock : ServerClock start s h) {e : ServerEvent} (hsent : e.SentBy s)
    {later : List ServerEvent} (hlater : ∀ e ∈ later, e.returned = none) :
    Timed start e (later ++ h) := by
  have hcalls : serverCalls (later ++ h) = serverCalls h := by
    rw [serverCalls_append, serverCalls_of_quiet hlater, Nat.zero_add]
  cases e with
  | broadcast value =>
    obtain ⟨hneed, hvalue⟩ := hsent
    refine ⟨?_, fun hfirst => ?_⟩
    · rw [hcalls, hvalue, hclock.shows.mFV]
    · rw [hcalls, ← hclock.time]
      exact hclock.broadcasts hneed ((firstAttempt_append hlater).mp hfirst)
  | answered client keyId challenge fv data mac =>
    obtain ⟨hneed, hfv⟩ := hsent
    refine ⟨?_, ?_⟩
    · rw [hcalls, hfv, hclock.shows.mFV]
    · rw [hcalls]
      exact hclock.responds hneed
  | _ => trivial

/-- The events of a step, each at its time. -/
theorem ServerClock.eachEvent_append (hclock : ServerClock start s h)
    (hsent : ∀ e ∈ es, e.SentBy s) : EachEvent (Timed start) (es ++ h) := by
  induction es with
  | nil => exact hclock.sent
  | cons e later ih =>
    have hlater : ∀ e ∈ later, e.SentBy s := fun e hmem => hsent e (List.mem_cons_of_mem _ hmem)
    exact ⟨hclock.timed (hsent e List.mem_cons_self) fun e hmem => (hlater e hmem).quiet,
      ih hlater⟩

/-- A reading whose count has just changed. -/
theorem phase_of_count_ne {n : Nat}
    (hne : (after ticksPerIncrement (n + 1)).count ≠ (after ticksPerIncrement n).count) :
    (after ticksPerIncrement (n + 1)).phase = 0 := by
  unfold after at hne ⊢
  rw [ticksPerIncrement_eq] at hne ⊢
  dsimp only at hne ⊢
  omega

theorem ServerClock.step (hclock : ServerClock start s h) (hstep : ServerClockStep s op es s') :
    ServerClock start s' (es ++ h) := by
  cases hstep with
  | ticks hop ret sent hes hsent hbase hrespond hbroadcast =>
    subst hes
    have hquiet : ∀ e ∈ sent, e.returned = none := fun e hmem => (hsent e hmem).quiet
    have hcalls : serverCalls (.mainFunctionCompleted ret :: sent ++ h) = serverCalls h + 1 := by
      rw [serverCalls_append, serverCalls_completed hquiet, Nat.add_comm]
    have hshows : Shows s'.toAFreshnessValueManagerImpl start
        (after ticksPerIncrement (serverCalls h + 1)) := by
      rw [hbase]
      exact hclock.shows.incTimers_after hclock.mInitialized hclock.mIsFvValid
    refine ⟨?_, ?_, ?_, ?_, ?_, ?_, ?_⟩
    · rw [hbase, stepEffect_incTimers.mInitialized]
      exact hclock.mInitialized
    · rw [hbase, AFreshnessValueManagerImpl.mIsFvValid_incTimers]
      exact hclock.mIsFvValid
    · rw [hcalls]
      exact hshows
    · rw [hcalls, hbase, mTimeSinceInit_incTimers hclock.mInitialized,
        hclock.time, Nat.mul_add, UInt64.ofNat_add]
      rfl
    · intro hneed
      rw [hcalls]
      apply phase_of_count_ne
      intro hcount
      apply hrespond hneed
      rw [hshows.mFV, hclock.shows.mFV, hcount]
    · intro hneed hfirst
      exact hbroadcast hneed (hfirst ret rfl)
    · exact ⟨trivial, hclock.eachEvent_append hsent⟩
  | calls hquiet hsent hbase hrespond hbroadcast =>
    have hcalls : serverCalls (es ++ h) = serverCalls h := by
      rw [serverCalls_append, serverCalls_of_quiet hquiet, Nat.zero_add]
    refine ⟨?_, ?_, ?_, ?_, ?_, ?_, ?_⟩
    · rw [hbase.mInitialized]
      exact hclock.mInitialized
    · rw [hbase.mIsFvValid]
      exact hclock.mIsFvValid
    · rw [hcalls]
      exact hclock.shows.of_sameContext hbase
    · rw [hcalls, hbase.mTimeSinceInit]
      exact hclock.time
    · rw [hrespond, hcalls]
      exact hclock.responds
    · rw [hbroadcast, firstAttempt_append hquiet, hbase.mTimeSinceInit]
      exact hclock.broadcasts
    · apply hclock.eachEvent_append
      intro e hmem
      obtain ⟨client, challenge, rfl⟩ := hsent e hmem
      trivial

theorem serverClock_of_firstInit (hfirst : s.FirstInit) : ServerClock s.mFV s [] := by
  obtain ⟨hinit, hvalid, -, hrespond, hbroadcast, -⟩ := hfirst.spec
  refine ⟨hinit.mInitialized, hvalid, ?_, ?_, ?_, ?_, eachEvent_nil⟩
  · refine ⟨(UInt64.add_zero _).symm, ?_⟩
    rw [hinit.mClockCount]
    rfl
  · rw [hinit.mTimeSinceInit]
    rfl
  · intro hneed
    rw [hrespond] at hneed
    cases hneed
  · intro _ _
    rw [hinit.mTimeSinceInit]
    rfl

variable {P : Guard FreshnessValueManagerImplServer ServerOp ServerEvent}

/-- Run lemma. -/
theorem serverClock_of_run (hstart : ServerClock start s₀ h₀)
    (hrun : Run serverStep P s₀ h₀ s h) : ServerClock start s h := by
  refine hrun.invariant (ServerClock start) hstart ?_
  intro s h op s' es hclock _ hstep
  exact hclock.step (serverClockStep_of_step hclock.mInitialized hstep)

/-- A server shows the value that it signed last, or at any time before, moved on
with the calls since. -/
theorem ServerClock.shows_since_answered {client : String} {keyId : UInt16}
    {challenge data mac : ByteVector} {fv : UInt64} {newer older : List ServerEvent}
    (hclock : ServerClock start s
      (newer ++ .answered client keyId challenge fv data mac :: older)) :
    Shows s.toAFreshnessValueManagerImpl fv (after ticksPerIncrement (serverCalls newer)) := by
  obtain ⟨hfv, hphase⟩ := hclock.sent.past
  have hcalls : serverCalls (newer ++ .answered client keyId challenge fv data mac :: older) =
      serverCalls newer + serverCalls older := serverCalls_append
  have hshows := hclock.shows
  rw [hcalls] at hshows
  have hdvd : (serverCalls newer + serverCalls older) / 20 =
      serverCalls older / 20 + serverCalls newer / 20 := by
    have hphase' : serverCalls older % 20 = 0 := hphase
    omega
  refine ⟨?_, ?_⟩
  · rw [hshows.mFV, hfv, UInt64.add_assoc, ← UInt64.ofNat_add]
    congr 2
  · rw [hshows.mClockCount]
    congr 1
    have hphase' : serverCalls older % 20 = 0 := hphase
    show (serverCalls newer + serverCalls older) % 20 = serverCalls newer % 20
    omega

/-! ## Below the limit of the clock -/

/-- The freshness value fits into the seven bytes of a response. -/
def ServerBelowLimit : Guard FreshnessValueManagerImplServer ServerOp ServerEvent :=
  fun s _ _ => s.mFV.toNat < 2 ^ 56

instance (s : FreshnessValueManagerImplServer) (h : List ServerEvent) :
    DecidablePred (ServerBelowLimit s h) :=
  fun _ => inferInstanceAs (Decidable (_ < _))

/-- How far the cadence has come since `s₀`. -/
structure Progress (s₀ : FreshnessValueManagerImplServer) (h₀ : List ServerEvent)
    (s : FreshnessValueManagerImplServer) (h : List ServerEvent) : Prop where
  mFV : s.mFV.toNat + serverCalls h₀ / 20 = s₀.mFV.toNat + serverCalls h / 20
  bound : serverCalls h / 20 ≤ serverCalls h₀ / 20 + 2 ^ 56

theorem Progress.step (hprogress : Progress s₀ h₀ s h) (hclock : ServerClock start s h)
    (hbelow : s.mFV.toNat < 2 ^ 56) (hclock' : ServerClock start s' (es ++ h))
    (hcalls : serverCalls es ≤ 1) : Progress s₀ h₀ s' (es ++ h) := by
  have hfv : s.mFV = start + UInt64.ofNat (serverCalls h / 20) := hclock.shows.mFV
  have hfv' : s'.mFV = start + UInt64.ofNat (serverCalls (es ++ h) / 20) := hclock'.shows.mFV
  rw [serverCalls_append] at hfv'
  have hmoves : s'.mFV.toNat + serverCalls h / 20 =
      s.mFV.toNat + (serverCalls es + serverCalls h) / 20 := by
    rcases (by omega : (serverCalls es + serverCalls h) / 20 = serverCalls h / 20 ∨
      (serverCalls es + serverCalls h) / 20 = serverCalls h / 20 + 1) with hsame | hnext
    · rw [hsame, ← hfv] at hfv'
      rw [hfv', hsame]
    · rw [hnext, UInt64.ofNat_add, ← UInt64.add_assoc, ← hfv] at hfv'
      have hone : (UInt64.ofNat 1).toNat = 1 := rfl
      rw [hfv', hnext, UInt64.toNat_add, hone, Nat.mod_eq_of_lt (by omega)]
      omega
  obtain ⟨hmFV, hbound⟩ := hprogress
  refine ⟨?_, ?_⟩
  · rw [serverCalls_append]
    omega
  · rw [serverCalls_append]
    omega

theorem serverCalls_le_one (hstep : ServerClockStep s op es s') : serverCalls es ≤ 1 := by
  cases hstep with
  | ticks hop ret sent hes hsent =>
    have hquiet : ∀ e ∈ sent, e.returned = none := fun e hmem => (hsent e hmem).quiet
    rw [hes, serverCalls_completed hquiet]
  | calls hquiet =>
    rw [serverCalls_of_quiet hquiet]
    omega

/-- Run lemma: below the limit the freshness value counts the increments. -/
theorem progress_of_run (hstart : ServerClock start s₀ h₀)
    (hrun : Run serverStep ServerBelowLimit s₀ h₀ s h) : Progress s₀ h₀ s h := by
  have hboth : ServerClock start s h ∧ Progress s₀ h₀ s h := by
    refine hrun.invariant (fun s h => ServerClock start s h ∧ Progress s₀ h₀ s h)
      ⟨hstart, rfl, Nat.le_add_right _ _⟩ ?_
    intro s h op s' es ⟨hclock, hprogress⟩ hbelow hstep
    have htick := serverClockStep_of_step hclock.mInitialized hstep
    have hclock' := hclock.step htick
    exact ⟨hclock', hprogress.step hclock hbelow hclock' (serverCalls_le_one htick)⟩
  exact hboth.2

end Sok.Fvm
