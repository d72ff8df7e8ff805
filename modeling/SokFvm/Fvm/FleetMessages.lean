import SokFvm.Fvm.Fleet
import SokFvm.Fvm.Reception

/-!
# Messages in a fleet

A sender puts its freshness value into a message, and the receiver tries its own
value and the two next to it, attempt by attempt.  Whether it comes across the
value of the sender depends on the positions of the two (`Fleet`) and on how long
the message has been on its way, its age.

* `message_found`: as long as the delay of the sender's adoption and the age of the
  message stay within one period together, one of the first four attempts has the
  value.  No second message is needed, and the receiver does not have to know how
  old the message is.
* `message_dead`: a message that is older than 58 ticks is not accepted by any
  attempt any more, unless it carries the default value.  This is the other side of
  the tolerance, the time that is left for a replay.
-/

namespace Sok.Fvm

open Sok.Common StateMachine Cadence AFreshnessValueManagerImpl

variable {ι : Type} [DecidableEq ι]
variable {s₀ s₁ s₂ : Fleet ι} {h₁ h₂ : List (FleetEvent ι)}
variable {P : Guard (Fleet ι) (FleetOp ι) (FleetEvent ι)}
variable {start : UInt64} {g : List ServerEvent} {delay age : Nat} {p q : Party ι}

/-! ## The positions of sender and receiver -/

/-- Sender and receiver at the times of the message. -/
theorem positions_of_message (hfrom : FromFirstInit start g s₀)
    (hsending : Run fleetStep FleetLockStep s₀ [] s₁ h₁)
    (htravel : Run fleetStep FleetLockStep s₁ h₁ s₂ h₂) (hp : SynchronisedWithin delay s₁ h₁ p)
    (hq : SynchronisedWithin 19 s₂ h₂ q) :
    ∃ n m k k', k ≤ delay ∧ k' ≤ 19 ∧ n + k + ticksOf h₂ q = m + k' + ticksOf h₁ p ∧
      ticksOf h₁ p ≤ ticksOf h₂ q + 1 ∧
      Shows (s₁.manager p) start (after ticksPerIncrement n) ∧
      Shows (s₂.manager q) start (after ticksPerIncrement m) := by
  obtain ⟨-, hclose⟩ := ticks_within_one_of_fleetRun hfrom.ready hsending
  obtain ⟨n, k, hk, hn, hshows⟩ := position_of_synchronised hfrom hsending hp
  obtain ⟨m, k', hk', hm, hshows'⟩ :=
    position_of_synchronised hfrom (hsending.trans htravel) hq
  have hgrows : ticksOf h₁ q ≤ ticksOf h₂ q := by
    refine htravel.count_le (ticksOf · q) fun es h => ?_
    rw [ticksOf_append]
    exact Nat.le_add_left _ _
  have hpq := hclose p q
  exact ⟨n, m, k, k', hk, hk', by omega, by omega, hshows, hshows'⟩

/-! ## The two ends of a message -/

/-- The freshness value of a synchronised party is valid. -/
theorem mIsFvValid_of_synchronised (hfrom : FromFirstInit start g s₀)
    (hrun : Run fleetStep P s₀ [] s₁ h₁) (hp : SynchronisedWithin delay s₁ h₁ p) :
    (s₁.manager p).mIsFvValid = true := by
  cases p with
  | none =>
    obtain ⟨server₀, hserver, -, hserverRun⟩ := hfrom.server
    have hclock₀ := serverClock_of_run (serverClock_of_firstInit hserver) hserverRun
    exact (serverClock_of_run hclock₀ (serverRun_of_fleetRun (g := g) hrun)).mIsFvValid
  | some i => exact hp.1

omit [DecidableEq ι] in
theorem mInitialized_of_ready {s : Fleet ι} (hready : FleetReady s) (p : Party ι) :
    (s.manager p).mInitialized = true := by
  cases p with
  | none => exact hready.server
  | some i => exact (hready.participant i).mInitialized

section Ends

variable {s s' : AFreshnessValueManagerImpl} {id : SokFreshnessValueId}
variable {type : SokFreshnessType} {truncated truncated' bytes fv : FVContainer}
variable {attempts : UInt16}

/-- What a party with a valid freshness value sends on an identifier: the default
value when it uses the identifier for the first time, then its own. -/
theorem take_of_sent (hinit : s.mInitialized = true)
    (htype : s.mFvmConfAccessor.getEntryTypeByFvId id = .ok type) (htx : IsTxFvType type)
    (hvalid : s.mIsFvValid = true) (hsent : (s.getTxFreshness id).1 = .ok bytes) :
    bytes.take 8 =
      uintToByteVector (if s.mAttrMgr.isActive id then s.mFV else sokUpstartTime) := by
  rw [getTxFreshness_eq hinit htype htx] at hsent
  rw [← Except.ok.inj hsent, take_getTxFv, chooseTxFv, hvalid]
  cases s.mAttrMgr.isActive id with
  | false => rfl
  | true => rfl

/-- The attempt of a reception that starts in `s` gives `fv`. The later attempts find
the state that the first one has left, and whatever else has happened since. -/
def Attempt (s : AFreshnessValueManagerImpl) (id : SokFreshnessValueId) (truncated : FVContainer)
    (attempts : UInt16) (fv : FVContainer) : Prop :=
  if attempts = 0 then (s.getRxFreshness id truncated 0).1 = .ok fv
  else ∀ s' h, Run managerStep (ReceptionGoesOn id) (s.getRxFreshness id truncated 0).2 [] s' h →
    (s'.getRxFreshness id truncated attempts).1 = .ok fv

/-- The attempts of an accepted reception give the candidates of the list that it
builds, one after the other. -/
theorem attempt_iff (hinit : s.mInitialized = true)
    (htype : s.mFvmConfAccessor.getEntryTypeByFvId id = .ok type) (hrx : IsRxFvType type)
    (hcached : s.candidates id = none)
    (haccepted : (s.getRxFreshness id truncated 0).1 = .ok bytes) :
    Attempt s id truncated attempts fv ↔
      ∃ x, (s.rxCandidateList id)[attempts.toNat]? = some x ∧
        fv = uintToByteVector x ++ truncated := by
  rcases getRxFreshness_of_uncached hinit htype hrx hcached truncated with
    ⟨failure, hfailed⟩ | ⟨-, x, hx, hfirst⟩
  · cases hfailed.symm.trans haccepted
  · unfold Attempt
    rw [hfirst]
    by_cases hzero : attempts = 0
    · have hx' : (s.rxCandidateList id)[attempts.toNat]? = some x := by
        rw [hzero]
        exact hx
      rw [if_pos hzero, hx']
      simp only [Except.ok.injEq, Option.some.injEq, exists_eq_left']
      exact eq_comm
    · rw [if_neg hzero]
      have hworks : WorksOn s (s.acceptReception id type) id := worksOn_acceptReception
      have hinit' := hworks.context.mInitialized.trans hinit
      have htype' : (s.acceptReception id type).mFvmConfAccessor.getEntryTypeByFvId id =
          .ok type := by rw [hworks.context.mFvmConfAccessor, htype]
      have hnow := getRxFreshness_of_cached hinit' htype' hrx candidates_acceptReception truncated
        attempts
      have hlater : ∀ s' h,
          Run managerStep (ReceptionGoesOn id) (s.acceptReception id type) [] s' h →
          (s'.getRxFreshness id truncated attempts).1 =
            ((s.acceptReception id type).getRxFreshness id truncated attempts).1 := by
        intro s' h hrun
        obtain ⟨hinit'', htype'', hcached''⟩ :=
          cached_of_run hinit' htype' hrx candidates_acceptReception hrun
        exact (getRxFreshness_of_cached hinit'' htype'' hrx hcached'' truncated attempts).trans
          hnow.symm
      refine ⟨fun hattempt => ?_, ?_⟩
      · have hanswer := hnow.symm.trans (hattempt _ _ .refl)
        cases hcandidate : (s.rxCandidateList id)[attempts.toNat]? with
        | none =>
          rw [hcandidate] at hanswer
          cases hanswer
        | some y =>
          rw [hcandidate] at hanswer
          exact ⟨y, rfl, (Except.ok.inj hanswer).symm⟩
      · intro hcandidate s' h hrun
        obtain ⟨y, hy, hfv⟩ := hcandidate
        rw [hlater s' h hrun, hnow, hy, hfv]

/-- The candidates are the default value and the neighbours. -/
theorem mem_rxCandidateList {x : UInt64} (hvalid : s.mIsFvValid = true)
    (hmem : x ∈ s.rxCandidateList id) : x = sokUpstartTime ∨ x ∈ s.neighbours := by
  unfold rxCandidateList at hmem
  rw [hvalid, if_neg (by decide)] at hmem
  split at hmem
  · exact List.mem_cons.mp hmem
  · exact Or.inr hmem

/-- A neighbour is one of the first four candidates. -/
theorem getElem?_of_mem_neighbours {x : UInt64} (id : SokFreshnessValueId)
    (hvalid : s.mIsFvValid = true) (hmem : x ∈ s.neighbours) :
    ∃ attempts : UInt16, attempts.toNat ≤ 3 ∧ (s.rxCandidateList id)[attempts.toNat]? = some x := by
  unfold rxCandidateList
  rw [hvalid, if_neg (by decide)]
  split
  · rcases mem_neighbours.mp hmem with rfl | rfl | rfl
    · exact ⟨1, by decide, rfl⟩
    · exact ⟨2, by decide, rfl⟩
    · exact ⟨3, by decide, rfl⟩
  · rcases mem_neighbours.mp hmem with rfl | rfl | rfl
    · exact ⟨0, by decide, rfl⟩
    · exact ⟨1, by decide, rfl⟩
    · exact ⟨2, by decide, rfl⟩

end Ends

/-! ## In time and too late -/

variable {id : SokFreshnessValueId} {sending receiving : SokFreshnessType}
variable {truncated first bytes fv : FVContainer} {attempts : UInt16}

/-- **A message in time is found.**  A synchronised party sends on an identifier that
it uses, and a synchronised party starts a reception of it without a cached list when
the message is at most `age` ticks old.  Where the delay of the sender and the age are
20 ticks together at most, one of the first four attempts has the freshness value of
the sender. -/
theorem message_found (hfrom : FromFirstInit start g s₀)
    (hsending : Run fleetStep FleetLockStep s₀ [] s₁ h₁)
    (htravel : Run fleetStep FleetLockStep s₁ h₁ s₂ h₂) (hp : SynchronisedWithin delay s₁ h₁ p)
    (hq : SynchronisedWithin 19 s₂ h₂ q) (hage : ticksOf h₂ q ≤ ticksOf h₁ p + age)
    (hbudget : delay + age ≤ 20)
    (hsendingType : (s₁.manager p).mFvmConfAccessor.getEntryTypeByFvId id = .ok sending)
    (htx : IsTxFvType sending) (hactive : (s₁.manager p).mAttrMgr.isActive id = true)
    (hsent : ((s₁.manager p).getTxFreshness id).1 = .ok bytes)
    (hreceivingType : (s₂.manager q).mFvmConfAccessor.getEntryTypeByFvId id = .ok receiving)
    (hrx : IsRxFvType receiving) (hcached : (s₂.manager q).candidates id = none)
    (haccepted : ((s₂.manager q).getRxFreshness id truncated 0).1 = .ok first) :
    ∃ attempts : UInt16, attempts.toNat ≤ 3 ∧
      Attempt (s₂.manager q) id truncated attempts (bytes.take 8 ++ truncated) := by
  have hready₁ := (ticks_within_one_of_fleetRun hfrom.ready hsending).1
  have hready₂ := (ticks_within_one_of_fleetRun hfrom.ready (hsending.trans htravel)).1
  obtain ⟨n, m, k, k', hk, hk', hticks, hle, hshows, hshows'⟩ :=
    positions_of_message hfrom hsending htravel hp hq
  have hmem : (s₁.manager p).mFV ∈ (s₂.manager q).neighbours :=
    mem_neighbours_of_shows hshows hshows' (by omega) (by omega)
  have hvalid' := mIsFvValid_of_synchronised hfrom (hsending.trans htravel) hq
  obtain ⟨attempts, hfew, hcandidate⟩ := getElem?_of_mem_neighbours id hvalid' hmem
  refine ⟨attempts, hfew, ?_⟩
  rw [attempt_iff (mInitialized_of_ready hready₂ q) hreceivingType hrx hcached haccepted,
    take_of_sent (mInitialized_of_ready hready₁ p) hsendingType htx
      (mIsFvValid_of_synchronised hfrom hsending hp) hsent, hactive]
  exact ⟨_, hcandidate, rfl⟩

/-- A neighbour of what the receiver shows is at most two periods old. -/
theorem le_of_mem_neighbours {sender receiver : AFreshnessValueManagerImpl} {n m : Nat}
    (hsender : Shows sender start (after ticksPerIncrement n))
    (hreceiver : Shows receiver start (after ticksPerIncrement m)) (hfar : m < n + 2 ^ 65)
    (hmem : sender.mFV ∈ receiver.neighbours) : m ≤ n + 39 := by
  have hs : sender.mFV = start + UInt64.ofNat (n / 20) := hsender.mFV
  have hr : receiver.mFV = start + UInt64.ofNat (m / 20) := hreceiver.mFV
  have hone : (1 : UInt64).toNat = 1 := rfl
  rw [mem_neighbours, hs, hr] at hmem
  -- as integers the counts can only differ by a multiple of the modulus, which is out of range
  simp only [← UInt64.toNat_inj, UInt64.toNat_add, UInt64.toNat_sub, UInt64.toNat_ofNat',
    hone] at hmem
  have hstart := start.toNat_lt
  omega

/-! ### A message of the fleet of two -/

/-- The one participant has used its identifier, and sends on it again. -/
def messageSent : Fleet Bool × List (FleetEvent Bool) :=
  execState fleetStep firstFleet []
    (fleetSynchronisation ++ [.atParticipant false (.call ⟨.getTxFreshness 1, rfl⟩)])

/-- The other one receives it a tick later. -/
def messageReceived : Fleet Bool × List (FleetEvent Bool) :=
  execState fleetStep messageSent.1 messageSent.2 (fleetTicks 1)

theorem run_messageSent :
    Run fleetStep FleetLockStep firstFleet [] messageSent.1 messageSent.2 :=
  Run.of_execState _ (by decide +kernel) (by decide +kernel)

theorem run_messageReceived :
    Run fleetStep FleetLockStep messageSent.1 messageSent.2 messageReceived.1
      messageReceived.2 :=
  Run.of_execState _ (by decide +kernel) (by decide +kernel)

theorem adoptedBefore_messageSent : AdoptedBefore 1 false messageSent.1 messageSent.2 := by
  decide +kernel

theorem adoptedBefore_messageReceived :
    AdoptedBefore 3 true messageReceived.1 messageReceived.2 := by
  decide +kernel

/-- The freshness value in the message. -/
def sentBytes : FVContainer := [0, 7, 7, 7, 7, 7, 7, 8]

/-- It is the first message on the identifier for the receiver, so the first attempt
is the default value. -/
theorem accepted_messageReceived :
    ((messageReceived.1.manager (some true)).getRxFreshness 1 [] 0).1 =
      .ok (uintToByteVector sokUpstartTime) := by
  decide +kernel

theorem message_found_next_tick :
    ∃ attempts : UInt16, attempts.toNat ≤ 3 ∧
      Attempt (messageReceived.1.manager (some true)) 1 [] attempts (sentBytes.take 8 ++ []) :=
  message_found (p := some false) fromFirstInit_firstFleet run_messageSent run_messageReceived
    (adoptedBefore_messageSent.synchronised 19) (adoptedBefore_messageReceived.synchronised 19)
    (by decide +kernel : _ ≤ _ + 1) (by decide) (by decide +kernel) (Or.inl rfl) (by decide +kernel)
    (by decide +kernel) (by decide +kernel) (Or.inl rfl) (by decide +kernel)
    accepted_messageReceived

/-- **A message that is too old is dead.**  What a synchronised party has sent, other
than the default value, is not among the attempts of a reception that a synchronised
party starts without a cached list more than 58 ticks later. -/
theorem message_dead (hfrom : FromFirstInit start g s₀)
    (hsending : Run fleetStep FleetLockStep s₀ [] s₁ h₁)
    (htravel : Run fleetStep FleetLockStep s₁ h₁ s₂ h₂) (hp : SynchronisedWithin 19 s₁ h₁ p)
    (hq : SynchronisedWithin 19 s₂ h₂ q) (hrange : ticksOf h₂ q < 2 ^ 64)
    (hsendingType : (s₁.manager p).mFvmConfAccessor.getEntryTypeByFvId id = .ok sending)
    (htx : IsTxFvType sending) (hsent : ((s₁.manager p).getTxFreshness id).1 = .ok bytes)
    (hdefault : bytes.take 8 ≠ uintToByteVector sokUpstartTime)
    (hreceivingType : (s₂.manager q).mFvmConfAccessor.getEntryTypeByFvId id = .ok receiving)
    (hrx : IsRxFvType receiving) (hcached : (s₂.manager q).candidates id = none)
    (haccepted : ((s₂.manager q).getRxFreshness id truncated 0).1 = .ok first)
    (hattempt : Attempt (s₂.manager q) id truncated attempts fv)
    (hfound : fv.take 8 = bytes.take 8) : ticksOf h₂ q ≤ ticksOf h₁ p + 58 := by
  have hready₁ := (ticks_within_one_of_fleetRun hfrom.ready hsending).1
  have hready₂ := (ticks_within_one_of_fleetRun hfrom.ready (hsending.trans htravel)).1
  obtain ⟨n, m, k, k', hk, hk', hticks, hle, hshows, hshows'⟩ :=
    positions_of_message hfrom hsending htravel hp hq
  have hbytes := take_of_sent (mInitialized_of_ready hready₁ p) hsendingType htx
    (mIsFvValid_of_synchronised hfrom hsending hp) hsent
  rw [attempt_iff (mInitialized_of_ready hready₂ q) hreceivingType hrx hcached haccepted]
    at hattempt
  obtain ⟨x, hx, rfl⟩ := hattempt
  rw [take_uintToByteVector_append, hbytes, uintToByteVector_inj] at hfound
  rw [hbytes] at hdefault
  -- the default value is excluded, so the sender has sent its own
  have hactive : (s₁.manager p).mAttrMgr.isActive id = true := by
    by_contra hidle
    rw [if_neg hidle] at hdefault
    exact hdefault rfl
  rw [if_pos hactive] at hfound hdefault
  have hvalid' := mIsFvValid_of_synchronised hfrom (hsending.trans htravel) hq
  rcases mem_rxCandidateList hvalid' (List.mem_of_getElem? hx) with hx' | hx'
  · rw [hx'] at hfound
    rw [hfound] at hdefault
    exact absurd rfl hdefault
  · rw [hfound] at hx'
    have hold := le_of_mem_neighbours hshows hshows' (by omega) hx'
    omega

theorem message_dead_next_tick :
    ticksOf messageReceived.2 (some true) ≤ ticksOf messageSent.2 (some false) + 58 := by
  have hattempt : Attempt (messageReceived.1.manager (some true)) 1 [] 1 sentBytes :=
    (attempt_iff (by decide +kernel) (by decide +kernel) (Or.inl rfl) (by decide +kernel)
      accepted_messageReceived).mpr ⟨0x07070707070708, by decide +kernel, by decide +kernel⟩
  exact message_dead fromFirstInit_firstFleet run_messageSent run_messageReceived
    (adoptedBefore_messageSent.synchronised 19) (adoptedBefore_messageReceived.synchronised 19)
    (by decide +kernel) (by decide +kernel) (Or.inl rfl) (by decide +kernel) (by decide +kernel)
    (by decide +kernel) (Or.inl rfl) (by decide +kernel) accepted_messageReceived hattempt rfl

end Sok.Fvm
