import SokFvm.Fvm.ServerTimeLaw
import SokFvm.Library.Retry

/-!
# Broadcasts that fail

`server_time_law` says which broadcasts a server makes that can always publish.  Here
the signal of the broadcast may fail in any call.  The server then keeps its flag and
returns the error, and tries again in its next call with the freshness value of that
time.

So it broadcasts once for each second, at the first call of that second that succeeds,
and skips the second when none does: `broadcast_retry_law`.  The outcomes of the calls
are all that the broadcasts depend on.
-/

namespace Sok.Fvm

open Sok.Common StateMachine Cadence Retry FreshnessValueManagerImplServer

variable {s s' s₀ : FreshnessValueManagerImplServer} {op : ServerOp} {services : ServerServices}
variable {es h : List ServerEvent} {start : UInt64} {ret : FvmErrorCode}

/-! ## How the calls went -/

/-- Which calls of the main function returned success, the oldest first. -/
def outcomes (h : List ServerEvent) : List Bool :=
  ((h.filterMap (·.returned)).map fun ret => decide (ret = .kSuccess)).reverse

theorem length_outcomes : (outcomes h).length = serverCalls h := by
  unfold outcomes serverCalls
  rw [List.length_reverse, List.length_map, List.length_filterMap_eq_countP]

theorem outcomes_append (hquiet : ∀ e ∈ es, e.returned = none) :
    outcomes (es ++ h) = outcomes h := by
  have hnone : es.filterMap (·.returned) = [] := List.filterMap_eq_nil_iff.mpr hquiet
  unfold outcomes
  rw [List.filterMap_append, hnone, List.nil_append]

theorem outcomes_completed (hquiet : ∀ e ∈ es, e.returned = none) :
    outcomes (.mainFunctionCompleted ret :: es ++ h) =
      outcomes h ++ [decide (ret = .kSuccess)] := by
  have hbefore : outcomes (es ++ h) = outcomes h := outcomes_append hquiet
  have hreturned : (ServerEvent.mainFunctionCompleted ret).returned = some ret := rfl
  unfold outcomes at hbefore ⊢
  rw [List.cons_append, List.filterMap_cons_some hreturned, List.map_cons, List.reverse_cons,
    hbefore]

/-! ## One attempt -/

/-- The flag stays after a failure, and only an attempt fails. -/
theorem broadcastIfNeeded_flag (signals : ISignalManager) :
    ((s.broadcastIfNeeded signals).2.1.mNeedToBroadcastFv = true ↔
      s.mNeedToBroadcastFv = true ∧ (s.broadcastIfNeeded signals).1 ≠ .kSuccess) ∧
    ((s.broadcastIfNeeded signals).1 ≠ .kSuccess → s.mNeedToBroadcastFv = true) := by
  rcases s.broadcastIfNeeded_cases signals with
    ⟨hidle, heq⟩ | ⟨hneed, code, hfailed, -, heq⟩ | ⟨hneed, -, heq⟩
  · rw [heq, hidle]
    simp
  · rw [heq]
    exact ⟨⟨fun _ => ⟨hneed, hfailed⟩, fun _ => hneed⟩, fun _ => hneed⟩
  · rw [heq, hneed]
    simp

/-- An attempt that succeeds broadcasts the freshness value. -/
theorem broadcastIfNeeded_events (signals : ISignalManager) :
    (s.broadcastIfNeeded signals).2.2 =
      if s.mNeedToBroadcastFv = true ∧ (s.broadcastIfNeeded signals).1 = .kSuccess then
        [.broadcast (uintToByteVector s.mFV)] else [] := by
  rcases s.broadcastIfNeeded_cases signals with
    ⟨hidle, heq⟩ | ⟨-, code, hfailed, -, heq⟩ | ⟨hneed, -, heq⟩
  · rw [heq, hidle]
    rfl
  · rw [heq, if_neg fun h => hfailed h.2]
  · rw [heq, hneed]
    rfl

/-- A broadcast is due after a call that failed to make it, and at a full second. -/
theorem mNeedToBroadcastFv_mainFunction (hinit : s.mInitialized = true)
    (hresult : s.mainFunction services = .ok (ret, s', es)) :
    s'.mNeedToBroadcastFv = true ↔
      s'.mTimeSinceInit % sokFmTimeSendMs.toUInt64 = 0 ∨
        s.mNeedToBroadcastFv = true ∧ ret ≠ .kSuccess := by
  obtain ⟨t, events, hrespond, hparts⟩ := mainFunction_parts hinit hresult
  have hflag := (respondIfNeeded_spec hrespond).2.2
  dsimp only at hflag
  cases hparts
  rw [mNeedToBroadcastFv_advanceClock, hflag, (broadcastIfNeeded_flag _).1]
  exact or_comm

/-- A call broadcasts if a broadcast is due and the call succeeds. -/
theorem broadcasts_mainFunction (hinit : s.mInitialized = true)
    (hresult : s.mainFunction services = .ok (ret, s', es)) :
    broadcasts (es ++ h) = broadcasts h ++
      if s.mNeedToBroadcastFv = true ∧ ret = .kSuccess then
        [(serverCalls h + 1, uintToByteVector s.mFV)] else [] := by
  obtain ⟨events, hserves, hes, hret⟩ := mainFunction_spec hinit hresult
  rw [hes, ← List.cons_append, List.append_assoc, hserves.broadcasts_append,
    broadcastIfNeeded_events, ← hret]
  split
  · rfl
  · rw [List.append_nil]
    rfl

/-! ## The law -/

/-- The flag says whether a broadcast waits, and the broadcasts of a history are those
that were done. -/
structure Retries (start : UInt64) (s : FreshnessValueManagerImplServer)
    (h : List ServerEvent) : Prop where
  clock : ServerClock start s h
  waits : s.mNeedToBroadcastFv = true ↔ Waits BroadcastDue (outcomes h) (serverCalls h)
  sent : ∀ n value, (n + 1, value) ∈ broadcasts h ↔
    Done BroadcastDue (outcomes h) n ∧
      value = BigEndian.encode 8 ((start.toNat + n / 20) % 2 ^ 64)
  failed : ∀ n, (outcomes h)[n]? = some false → Waits BroadcastDue (outcomes h) n

/-- A call of the main function that returns `ret`. -/
theorem Retries.mainFunction (hretries : Retries start s h)
    (hclock' : ServerClock start s' (es ++ h))
    (hresult : s.mainFunction services = .ok (ret, s', es)) : Retries start s' (es ++ h) := by
  obtain ⟨hclock, hwaits, hsent, hfailed⟩ := hretries
  have hinit := hclock.mInitialized
  obtain ⟨events, hserves, hes, hret⟩ := mainFunction_spec hinit hresult
  have hcalls : serverCalls (es ++ h) = (outcomes h).length + 1 := by
    rw [serverCalls_append, hes, hserves.serverCalls_eq ret, length_outcomes, Nat.add_comm]
  have houtcomes : outcomes (es ++ h) = outcomes h ++ [decide (ret = .kSuccess)] := by
    rw [hes]
    exact outcomes_completed hserves.quiet
  rw [← length_outcomes] at hwaits
  refine ⟨hclock', ?_, ?_, ?_⟩
  · have htime := hclock'.time
    rw [hcalls] at htime
    rw [mNeedToBroadcastFv_mainFunction hinit hresult, time_mod_eq_zero_iff htime, hwaits,
      hcalls, houtcomes, waits_concat_succ, decide_eq_false_iff_not]
  · have hvalue : uintToByteVector s.mFV =
        BigEndian.encode 8 ((start.toNat + (outcomes h).length / 20) % 2 ^ 64) := by
      rw [uintToByteVector_eq, toNat_mFV hclock.shows, length_outcomes]
    have hbroadcasts := broadcasts_mainFunction (h := h) hinit hresult
    rw [← length_outcomes] at hbroadcasts
    intro n value
    -- The older broadcasts are those done before; what is left is the broadcast of this call.
    rw [hbroadcasts, List.mem_append, hsent, houtcomes, done_concat_iff, ← hwaits, or_and_right]
    refine or_congr_right ?_
    rw [decide_eq_true_iff]
    split
    · rename_i hnow
      rw [List.mem_singleton, Prod.mk.injEq, Nat.add_right_cancel_iff, hvalue]
      constructor
      · rintro ⟨rfl, hvalue⟩
        exact ⟨⟨rfl, hnow.2, hnow.1⟩, hvalue⟩
      · rintro ⟨⟨rfl, -⟩, hvalue⟩
        exact ⟨rfl, hvalue⟩
    · rename_i hnot
      refine iff_of_false List.not_mem_nil ?_
      rintro ⟨⟨-, hsuccess, hneed⟩, -⟩
      exact hnot ⟨hneed, hsuccess⟩
  · intro n hn
    rw [houtcomes] at hn ⊢
    refine waits_concat_of_failed hfailed (fun hlast => ?_) hn
    -- The responses do not fail a call, so the attempt did.
    rw [decide_eq_false_iff_not, hret] at hlast
    rw [← hwaits]
    exact (broadcastIfNeeded_flag _).2 hlast

/-- Step lemma. -/
theorem Retries.step (hretries : Retries start s h) (hstep : serverStep s op = .ok (s', es)) :
    Retries start s' (es ++ h) := by
  have hround := serverClockStep_of_step hretries.clock.mInitialized hstep
  have hclock' := hretries.clock.step hround
  cases hround with
  | ticks hop =>
    obtain ⟨services, rfl⟩ := hop
    obtain ⟨ret, hresult⟩ := mainFunction_of_serverStep hstep
    exact hretries.mainFunction hclock' hresult
  | calls hquiet hrecorded hbase hrespond hbroadcast =>
    obtain ⟨-, hwaits, hsent, hfailed⟩ := hretries
    have hcalls : serverCalls (es ++ h) = serverCalls h := by
      rw [serverCalls_append, serverCalls_of_quiet hquiet, Nat.zero_add]
    have hbroadcasts : broadcasts (es ++ h) = broadcasts h := by
      refine broadcasts_append fun e hmem value heq => ?_
      obtain ⟨client, challenge, hrecord⟩ := hrecorded e hmem
      rw [heq] at hrecord
      cases hrecord
    have houtcomes : outcomes (es ++ h) = outcomes h := outcomes_append hquiet
    refine ⟨hclock', ?_, ?_, ?_⟩
    · rw [hbroadcast, hcalls, houtcomes]
      exact hwaits
    · rw [hbroadcasts, houtcomes]
      exact hsent
    · rw [houtcomes]
      exact hfailed

/-- Run lemma. -/
theorem retries_of_run (hfirst : s₀.FirstInit) (hrun : Run serverStep Anything s₀ [] s h) :
    Retries s₀.mFV s h := by
  refine hrun.invariant (Retries s₀.mFV) ?_ ?_
  · obtain ⟨-, -, -, -, hneed, -⟩ := hfirst.spec
    have hdue : Waits BroadcastDue (outcomes []) (serverCalls []) := waits_zero.mpr rfl
    refine ⟨serverClock_of_firstInit hfirst, ⟨fun _ => hdue, fun _ => hneed⟩, ?_, ?_⟩
    · intro n value
      refine iff_of_false List.not_mem_nil ?_
      rintro ⟨hdone, -⟩
      exact absurd hdone.lt_length (Nat.not_lt_zero n)
    · intro n hn
      cases hn
  · intro s h op s' es hretries _ hstep
    exact hretries.step hstep

/-- **The server broadcasts once a second, as soon as it can.**  The signal of the
broadcast may fail in any call of the main function.  A server that started with any
freshness value broadcasts in a call exactly when the call returns success and a
broadcast waits: a second has begun, and every call since then has failed.  It sends
the freshness value of that call, not of the one in which the second began.  A call
fails only when a broadcast waits, and between two broadcasts a second begins. -/
theorem broadcast_retry_law (hfirst : s₀.FirstInit)
    (hrun : Run serverStep Anything s₀ [] s h) :
    (∀ n value, (n + 1, value) ∈ broadcasts h ↔
      Done BroadcastDue (outcomes h) n ∧
        value = BigEndian.encode 8 ((s₀.mFV.toNat + n / 20) % 2 ^ 64)) ∧
    (∀ n, (outcomes h)[n]? = some false → Waits BroadcastDue (outcomes h) n) ∧
    ∀ n n' value value', (n + 1, value) ∈ broadcasts h → (n' + 1, value') ∈ broadcasts h →
      n < n' → ∃ k, n < k ∧ k ≤ n' ∧ BroadcastDue k := by
  obtain ⟨-, -, hsent, hfailed⟩ := retries_of_run hfirst hrun
  refine ⟨hsent, hfailed, ?_⟩
  intro n n' value value' hmem hmem' hlt
  obtain ⟨hdone, -⟩ := (hsent n value).mp hmem
  obtain ⟨hdone', -⟩ := (hsent n' value').mp hmem'
  exact hdone.opens_between hdone' hlt

/-- Services whose broadcasts fail. -/
def silentServices : ServerServices :=
  { reliableServices with
    broadcastSignals := { reliableSignals with publish := fun _ _ => .kGeneralError } }

/-- The first broadcast fails 25 times, and the next one once. -/
theorem broadcast_retry_law_after_failures :
    ∃ s h, Run serverStep Anything firstServer [] s h ∧
      broadcasts h = [(26, [0, 7, 7, 7, 7, 7, 7, 8]), (202, [0, 7, 7, 7, 7, 7, 7, 17])] ∧
      Done BroadcastDue (outcomes h) 25 ∧ Done BroadcastDue (outcomes h) 201 ∧
      Waits BroadcastDue (outcomes h) 200 := by
  obtain ⟨s, h, hrun, hbroadcasts, hfailed⟩ :
      ∃ s h, Run serverStep Anything firstServer [] s h ∧
        broadcasts h = [(26, [0, 7, 7, 7, 7, 7, 7, 8]), (202, [0, 7, 7, 7, 7, 7, 7, 17])] ∧
        (outcomes h)[200]? = some false :=
    Run.exists_of_exec (List.replicate 25 (.mainFunction silentServices) ++
      List.replicate 175 (.mainFunction reliableServices) ++
      [.mainFunction silentServices, .mainFunction reliableServices]) (by decide +kernel)
  obtain ⟨hsent, hwaits, -⟩ := broadcast_retry_law firstInit_firstServer hrun
  refine ⟨s, h, hrun, hbroadcasts, ?_, ?_, hwaits 200 hfailed⟩
  · have hmem : (25 + 1, [0, 7, 7, 7, 7, 7, 7, 8]) ∈ broadcasts h := by
      rw [hbroadcasts]
      decide
    exact ((hsent 25 _).mp hmem).1
  · have hmem : (201 + 1, [0, 7, 7, 7, 7, 7, 7, 17]) ∈ broadcasts h := by
      rw [hbroadcasts]
      decide
    exact ((hsent 201 _).mp hmem).1

end Sok.Fvm
