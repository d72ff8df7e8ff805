import SokFvm.Fvm.ResponseService

/-!
# The time law of the server

What a server shows after `n` calls of its main function is known: the clock, the
phase and the freshness value count the calls, each with its own wrap.  What it
broadcasts is known as well, as long as it can publish: `broadcasts` lists the
broadcasts of a history with the numbers of their calls, and `server_time_law` says
which they are.

The clock is a 64-bit counter of milliseconds.  When it wraps around, the residue
modulo a second jumps, and the broadcasts go on with another phase.  Before that
they are the calls 1, 201, 401 and so on.
-/

namespace Sok.Fvm

open Sok.Common StateMachine Cadence FreshnessValueManagerImplServer

variable {s s' s₀ : FreshnessValueManagerImplServer} {op : ServerOp} {services : ServerServices}
variable {es h : List ServerEvent} {start : UInt64}

/-! ## The broadcasts of a history -/

/-- The broadcasts, each with the number of its call, the oldest first. -/
def broadcasts : List ServerEvent → List (Nat × ByteVector)
  | [] => []
  | .broadcast value :: h => broadcasts h ++ [(serverCalls h + 1, value)]
  | _ :: h => broadcasts h

/-- A broadcast is due at the beginning of the call after `n` calls. -/
def BroadcastDue (n : Nat) : Prop :=
  5 * n % 2 ^ 64 % 1000 = 0

instance : DecidablePred BroadcastDue := fun _ => inferInstanceAs (Decidable (_ = _))

/-- The broadcasts in `n` calls of a server that started with the value `start`. -/
def schedule (start n : Nat) : List (Nat × ByteVector) :=
  ((List.range n).filter fun k => decide (BroadcastDue k)).map fun k =>
    (k + 1, BigEndian.encode 8 ((start + k / 20) % 2 ^ 64))

/-- A broadcast that is due can be published. -/
def BroadcastsSucceed : Guard FreshnessValueManagerImplServer ServerOp ServerEvent := fun s _ op =>
  ∀ services, op = .mainFunction services → ¬ BroadcastFails s services

theorem broadcasts_append (hnone : ∀ e ∈ es, ∀ value, e ≠ .broadcast value) :
    broadcasts (es ++ h) = broadcasts h := by
  induction es with
  | nil => rfl
  | cons e es ih =>
    have hrest := ih fun e hmem => hnone e (List.mem_cons_of_mem _ hmem)
    cases e with
    | broadcast value => exact absurd rfl (hnone _ List.mem_cons_self value)
    | _ => exact hrest

/-- Serving the clients broadcasts nothing. -/
theorem ServesClients.broadcasts_append {events : List ServerEvent} {ret : FvmErrorCode}
    (hserves : ServesClients s services events s') :
    broadcasts (.mainFunctionCompleted ret :: events ++ h) = broadcasts h := by
  refine Fvm.broadcasts_append fun e hmem value heq => ?_
  rcases List.mem_cons.mp hmem with hreturn | hevent
  · rw [heq] at hreturn
    cases hreturn
  · obtain ⟨client, hclient⟩ := hserves.client e hevent
    rw [heq] at hclient
    cases hclient

theorem schedule_succ (start n : Nat) : schedule start (n + 1) = schedule start n ++
    if BroadcastDue n then [(n + 1, BigEndian.encode 8 ((start + n / 20) % 2 ^ 64))] else [] := by
  unfold schedule
  rw [List.range_succ, List.filter_append, List.map_append]
  congr 1
  by_cases hdue : BroadcastDue n
  · simp [hdue]
  · simp [hdue]

theorem broadcastDue_iff {k : Nat} (hwrap : 5 * k < 2 ^ 64) :
    BroadcastDue k ↔ (after 200 k).phase = 0 := by
  have hsmall : 5 * k % 2 ^ 64 = 5 * k := Nat.mod_eq_of_lt hwrap
  have hphase : (after 200 k).phase = k % 200 := rfl
  rw [BroadcastDue, hsmall, hphase]
  omega

/-- Before the clock wraps around, the calls 1, 201, 401 and so on broadcast. -/
theorem schedule_eq {start n : Nat} (hwrap : 5 * n ≤ 2 ^ 64) :
    schedule start n = (List.range ((n + 199) / 200)).map fun i =>
      (200 * i + 1, BigEndian.encode 8 ((start + 10 * i) % 2 ^ 64)) := by
  have hdue : (List.range n).filter (fun k => decide (BroadcastDue k)) =
      (List.range n).filter (fun k => (after 200 k).phase = 0) := by
    apply List.filter_congr
    intro k hmem
    have hlt : k < n := List.mem_range.mp hmem
    have hwrap' : 5 * k < 2 ^ 64 := Nat.lt_of_lt_of_le (Nat.mul_lt_mul_of_pos_left hlt (by decide))
      hwrap
    rw [decide_eq_decide]
    exact broadcastDue_iff hwrap'
  unfold schedule
  rw [hdue, filter_range_phase (by decide), List.map_map]
  apply List.map_congr_left
  intro i _
  have hdiv : 200 * i / 20 = 10 * i := by omega
  simp only [Function.comp_apply, hdiv]

/-! ## The flag of the broadcast -/

theorem mNeedToBroadcastFv_advanceClock :
    s.advanceClock.mNeedToBroadcastFv = true ↔ s.mNeedToBroadcastFv = true ∨
      s.advanceClock.mTimeSinceInit % sokFmTimeSendMs.toUInt64 = 0 := by
  have htime : s.advanceClock.mTimeSinceInit =
      s.toAFreshnessValueManagerImpl.incTimers.mTimeSinceInit :=
    congrArg (·.mTimeSinceInit) base_advanceClock
  rw [htime]
  unfold advanceClock
  dsimp only
  split
  · split
    · rename_i hzero
      exact ⟨fun _ => Or.inr hzero, fun _ => rfl⟩
    · rename_i hzero
      exact ⟨Or.inl, fun h => h.resolve_right hzero⟩
  · split
    · rename_i hzero
      exact ⟨fun _ => Or.inr hzero, fun _ => rfl⟩
    · rename_i hzero
      exact ⟨Or.inl, fun h => h.resolve_right hzero⟩

/-- A broadcast that does not fail has been made if it was due, and is not due any
more. -/
theorem broadcastIfNeeded_of_succeeds (hsucceeds : ¬ BroadcastFails s services) :
    (s.broadcastIfNeeded services.broadcastSignals).2.1.mNeedToBroadcastFv = false ∧
      (s.broadcastIfNeeded services.broadcastSignals).2.2 =
        if s.mNeedToBroadcastFv then [.broadcast (uintToByteVector s.mFV)] else [] := by
  rcases s.broadcastIfNeeded_cases services.broadcastSignals with
    ⟨hidle, heq⟩ | ⟨hneed, code, hfailed, hcode, -⟩ | ⟨hneed, -, heq⟩
  · rw [heq, hidle]
    exact ⟨rfl, rfl⟩
  · exact absurd ⟨hneed, hcode ▸ hfailed⟩ hsucceeds
  · rw [heq, hneed]
    exact ⟨rfl, rfl⟩

/-- After a call whose broadcast does not fail, one is due exactly at a full second. -/
theorem mNeedToBroadcastFv_of_mainFunction (hinit : s.mInitialized = true)
    (hsucceeds : ¬ BroadcastFails s services) {ret : FvmErrorCode}
    (hresult : s.mainFunction services = .ok (ret, s', es)) :
    s'.mNeedToBroadcastFv = true ↔ s'.mTimeSinceInit % sokFmTimeSendMs.toUInt64 = 0 := by
  obtain ⟨t, events, hrespond, hparts⟩ := mainFunction_parts hinit hresult
  have hflag := (respondIfNeeded_spec hrespond).2.2
  rw [(broadcastIfNeeded_of_succeeds hsucceeds).1] at hflag
  dsimp only at hflag
  have hs' : s' = t.advanceClock := congrArg (·.2.1) hparts
  rw [hs', mNeedToBroadcastFv_advanceClock, hflag]
  simp

/-! ## The law -/

/-- The broadcasts of a history follow the schedule, and the flag says when the next
one is due. -/
structure OnSchedule (start : UInt64) (s : FreshnessValueManagerImplServer)
    (h : List ServerEvent) : Prop where
  clock : ServerClock start s h
  due : s.mNeedToBroadcastFv = true ↔ BroadcastDue (serverCalls h)
  sent : broadcasts h = schedule start.toNat (serverCalls h)

/-- The clock after `n` calls. -/
theorem toNat_time {n : Nat} {time : UInt64} (htime : time = UInt64.ofNat (5 * n)) :
    time.toNat = 5 * n % 2 ^ 64 := by
  rw [htime, UInt64.toNat_ofNat']

theorem time_mod_eq_zero_iff {n : Nat} {time : UInt64} (htime : time = UInt64.ofNat (5 * n)) :
    time % sokFmTimeSendMs.toUInt64 = 0 ↔ BroadcastDue n := by
  have hsend : sokFmTimeSendMs.toUInt64.toNat = 1000 := rfl
  rw [← UInt64.toNat_inj, UInt64.toNat_mod, toNat_time htime, hsend]
  rfl

/-- The freshness value after `n` calls. -/
theorem toNat_mFV {n : Nat} {t : AFreshnessValueManagerImpl}
    (hshows : Shows t start (after ticksPerIncrement n)) :
    t.mFV.toNat = (start.toNat + n / 20) % 2 ^ 64 := by
  have hcount : (after ticksPerIncrement n).count = n / 20 := rfl
  rw [hshows.mFV, hcount, UInt64.toNat_add, UInt64.toNat_ofNat', Nat.add_mod_mod]

theorem OnSchedule.step (hschedule : OnSchedule start s h)
    (hsucceeds : BroadcastsSucceed s h op) (hstep : serverStep s op = .ok (s', es)) :
    OnSchedule start s' (es ++ h) := by
  obtain ⟨hclock, hdue, hsent⟩ := hschedule
  have hinit := hclock.mInitialized
  have hround := serverClockStep_of_step hinit hstep
  have hclock' := hclock.step hround
  cases hround with
  | ticks hop =>
    obtain ⟨services, rfl⟩ := hop
    obtain ⟨ret, hresult⟩ := mainFunction_of_serverStep hstep
    have hpublished := hsucceeds services rfl
    obtain ⟨events, hserves, hes, -⟩ := mainFunction_spec hinit hresult
    have hflag := mNeedToBroadcastFv_of_mainFunction hinit hpublished hresult
    have hcalls : serverCalls (es ++ h) = serverCalls h + 1 := by
      rw [serverCalls_append, hes, hserves.serverCalls_eq ret, Nat.add_comm]
    refine ⟨hclock', ?_, ?_⟩
    · rw [hflag, hcalls]
      have htime := hclock'.time
      rw [hcalls] at htime
      exact time_mod_eq_zero_iff htime
    · rw [hcalls, schedule_succ, ← hsent, hes, ← List.cons_append, List.append_assoc,
        hserves.broadcasts_append, (broadcastIfNeeded_of_succeeds hpublished).2]
      by_cases hneed : s.mNeedToBroadcastFv = true
      · have hvalue : uintToByteVector s.mFV =
            BigEndian.encode 8 ((start.toNat + serverCalls h / 20) % 2 ^ 64) := by
          rw [uintToByteVector_eq, toNat_mFV hclock.shows]
        rw [if_pos hneed, if_pos (hdue.mp hneed), hvalue]
        rfl
      · rw [if_neg hneed, if_neg fun hn => hneed (hdue.mpr hn), List.append_nil]
        rfl
  | calls hquiet hrecorded hbase hrespond hbroadcast =>
    have hcalls : serverCalls (es ++ h) = serverCalls h := by
      rw [serverCalls_append, serverCalls_of_quiet hquiet, Nat.zero_add]
    refine ⟨hclock', ?_, ?_⟩
    · rw [hbroadcast, hcalls]
      exact hdue
    · rw [hcalls, broadcasts_append ?_]
      · exact hsent
      · intro e hmem value heq
        obtain ⟨client, challenge, hrecord⟩ := hrecorded e hmem
        rw [heq] at hrecord
        cases hrecord

variable {P : Guard FreshnessValueManagerImplServer ServerOp ServerEvent}

/-- Run lemma. -/
theorem onSchedule_of_run (hfirst : s₀.FirstInit)
    (hrun : Run serverStep BroadcastsSucceed s₀ [] s h) : OnSchedule s₀.mFV s h := by
  refine hrun.invariant (OnSchedule s₀.mFV) ?_ ?_
  · obtain ⟨-, -, -, -, hneed, -⟩ := hfirst.spec
    exact ⟨serverClock_of_firstInit hfirst, ⟨fun _ => rfl, fun _ => hneed⟩, rfl⟩
  · intro s h op s' es hschedule hsucceeds hstep
    exact hschedule.step hsucceeds hstep

/-- **The time law of the server.**  After `n` calls of the main function of a server
that started with any freshness value, with any challenges in between: the clock
shows `5 * n` milliseconds modulo `2 ^ 64`, the phase `5 * n` modulo 100, and the
freshness value has moved on by `n / 20`.  If every broadcast that was due could be
published, the broadcasts are those of the `schedule`; as long as the clock has not
wrapped around these are the calls 1, 201, 401 and so on. -/
theorem server_time_law (hfirst : s₀.FirstInit) :
    (∀ s h, Run serverStep Anything s₀ [] s h →
      s.mTimeSinceInit.toNat = 5 * serverCalls h % 2 ^ 64 ∧
      s.mClockCount.toNat = 5 * serverCalls h % 100 ∧
      s.mFV.toNat = (s₀.mFV.toNat + serverCalls h / 20) % 2 ^ 64) ∧
    ∀ s h, Run serverStep BroadcastsSucceed s₀ [] s h →
      broadcasts h = schedule s₀.mFV.toNat (serverCalls h) ∧
      (5 * serverCalls h ≤ 2 ^ 64 →
        broadcasts h = (List.range ((serverCalls h + 199) / 200)).map fun i =>
          (200 * i + 1, BigEndian.encode 8 ((s₀.mFV.toNat + 10 * i) % 2 ^ 64))) := by
  constructor
  · intro s h hrun
    have hclock := serverClock_of_run (serverClock_of_firstInit hfirst) hrun
    refine ⟨toNat_time hclock.time, ?_, toNat_mFV hclock.shows⟩
    have hphase : (after ticksPerIncrement (serverCalls h)).phase = serverCalls h % 20 := rfl
    have hperiod : sokFmMainFunctionPeriodMs.toNat = 5 := rfl
    rw [hclock.shows.mClockCount, hphase, hperiod]
    omega
  · intro s h hrun
    have hsent := (onSchedule_of_run hfirst hrun).sent
    refine ⟨hsent, ?_⟩
    intro hwrap
    rw [hsent, schedule_eq hwrap]

theorem server_time_law_at_start :
    ∃ s h, Run serverStep BroadcastsSucceed firstServer [] s h ∧ serverCalls h = 201 ∧
      broadcasts h = [(1, [0, 7, 7, 7, 7, 7, 7, 7]), (201, [0, 7, 7, 7, 7, 7, 7, 17])] := by
  have hmeets : ∀ op ∈ List.replicate 201 (ServerOp.mainFunction reliableServices), ∀ s h,
      BroadcastsSucceed s h op := by
    intro op hmem s h services hop
    rw [List.eq_of_mem_replicate hmem] at hop
    cases hop
    intro hfails
    exact hfails.2 rfl
  obtain ⟨s, h, hrun, hcalls⟩ :
      ∃ s h, Run serverStep BroadcastsSucceed firstServer [] s h ∧ serverCalls h = 201 :=
    Run.exists_of_exec_of_forall _ hmeets (by decide +kernel)
  obtain ⟨-, hlaw⟩ := server_time_law firstInit_firstServer
  refine ⟨s, h, hrun, hcalls, ?_⟩
  rw [(hlaw s h hrun).1, hcalls]
  decide +kernel

/-! ## The wrap of the clock -/

theorem respondIfNeeded_reliable :
    ∃ result, s.respondIfNeeded reliableServices = .ok result := by
  obtain ⟨events, hevents⟩ : ∃ events, s.sendResponses reliableServices
      (reliableServices.order.arrange s.mResponsePendingChallenges.entries) = .ok events :=
    sendResponses_ok fun entry _ => ⟨_, rfl⟩
  unfold respondIfNeeded sendAuthenticFvResponses
  split
  · rw [hevents]
    exact ⟨_, rfl⟩
  · exact ⟨_, rfl⟩

/-- With services that do not fail, the main function can be called any number of
times. -/
theorem exists_run_of_calls (hfirst : s₀.FirstInit) (n : Nat) :
    ∃ s h, Run serverStep Anything s₀ [] s h ∧ serverCalls h = n := by
  induction n with
  | zero => exact ⟨s₀, [], .refl, rfl⟩
  | succ n ih =>
    obtain ⟨s, h, hrun, hcalls⟩ := ih
    have hinit := (serverClock_of_run (serverClock_of_firstInit hfirst) hrun).mInitialized
    have hgo : ¬ (!s.mInitialized) = true := by simp [hinit]
    obtain ⟨ret, s', es, hresult⟩ :
        ∃ ret s' es, s.mainFunction reliableServices = .ok (ret, s', es) := by
      obtain ⟨result, hrespond⟩ := respondIfNeeded_reliable
        (s := (s.broadcastIfNeeded reliableServices.broadcastSignals).2.1)
      unfold mainFunction
      rw [if_neg hgo]
      dsimp only
      rw [hrespond]
      exact ⟨_, _, _, rfl⟩
    obtain ⟨events, hserves, hes, -⟩ := mainFunction_spec hinit hresult
    have hstep : serverStep s (.mainFunction reliableServices) = .ok (s', es) := by
      unfold serverStep
      dsimp only
      rw [hresult]
      rfl
    refine ⟨s', es ++ h, hrun.step trivial hstep, ?_⟩
    rw [serverCalls_append, hes, hserves.serverCalls_eq ret, hcalls, Nat.add_comm]

/-- The clock of 64 bits does not show `5 * n` milliseconds for every `n`. -/
theorem server_clock_wraps :
    ¬ ∀ (s₀ s : FreshnessValueManagerImplServer) (h : List ServerEvent), s₀.FirstInit →
      Run serverStep Anything s₀ [] s h →
      s.mTimeSinceInit.toNat = 5 * serverCalls h ∧
      s.mClockCount.toNat = 5 * serverCalls h % 100 ∧
      s.mFV.toNat = (s₀.mFV.toNat + serverCalls h / 20) % 2 ^ 64 := by
  intro hall
  obtain ⟨s, h, hrun, hcalls⟩ := exists_run_of_calls firstInit_firstServer 3689348814741910324
  have htime := (hall firstServer s h firstInit_firstServer hrun).1
  have hlt := s.mTimeSinceInit.toNat_lt
  rw [htime, hcalls] at hlt
  exact absurd hlt (by decide)

end Sok.Fvm
