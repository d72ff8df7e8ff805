import Mathlib.Data.List.Infix
import SokFvm.Fvm.LockStep

/-!
# Honest broadcasts

A synchronised participant compares its freshness value with the values that the
server broadcasts, and asks for a new one when the two are more than the maximal
jitter apart.  This module proves that it has no reason to do so when server and
participant run in lock-step and the broadcasts take about as long as the signed
value took.

A broadcast that succeeds at its first attempt is sent when the server's clock
stands at zero (`ServerClock`), so the tick `B` of the broadcast and the tick `T`
of the signed value are a multiple of the period apart.  The participant compares
`e` ticks earlier or later than the same multiple of the period after the
adoption, with `e` at most six.  When it is later, the values agree.  When it is
earlier, the value of the participant has not moved on yet, and the jitter formula
takes the time since its last increment into account: `jitterOf_of_close`.
-/

namespace Sok.Fvm

open Sok.Common StateMachine Cadence FreshnessValueManagerImplParticipant

/-! ## The jitter -/

section Jitter

variable {s : FreshnessValueManagerImplParticipant} {fv : UInt64} {n q : Nat}

/-- The two values agree. -/
theorem jitterOf_self : s.jitterOf s.mFV = .ok 0 := by
  unfold jitterOf
  rw [UInt64.sub_self]
  rfl

/-- The value has not moved on yet, and its clock shows that it is about to. -/
theorem jitterOf_of_behind {unauthFv : UInt64} (hbehind : unauthFv = s.mFV + 1)
    (hclock : 70 ≤ s.mClockCount.toNat ∧ s.mClockCount.toNat ≤ 95)
    (hphase : s.mClockCount.toNat % 5 = 0) :
    ∃ jitter absJitter, s.jitterOf unauthFv = .ok jitter ∧ stdAbs jitter = .ok absJitter ∧
      ¬ sokFmTimeJitterMaxMs.toUInt64.toInt64 < absJitter := by
  have hminus : s.mFV - unauthFv = -1 := by
    rw [hbehind]
    grind
  have hcases : s.mClockCount = 70 ∨ s.mClockCount = 75 ∨ s.mClockCount = 80 ∨
      s.mClockCount = 85 ∨ s.mClockCount = 90 ∨ s.mClockCount = 95 := by
    simp only [← UInt32.toNat_inj, UInt32.toNat_ofNat]
    omega
  unfold jitterOf
  rw [hminus]
  rcases hcases with h | h | h | h | h | h
  all_goals
    rw [h]
    exact ⟨_, _, rfl, rfl, by decide⟩

/-- A value `q` periods after `fv` is compared `n` ticks after the adoption of
`fv`, at most six ticks away from the `q`-th increment. -/
theorem jitterOf_of_close (hshows : Shows s.toAFreshnessValueManagerImpl fv
      (after ticksPerIncrement n)) (hle : n ≤ 20 * q + 6) (hge : 20 * q ≤ n + 6) :
    ∃ jitter absJitter, s.jitterOf (fv + UInt64.ofNat q) = .ok jitter ∧
      stdAbs jitter = .ok absJitter ∧ ¬ sokFmTimeJitterMaxMs.toUInt64.toInt64 < absJitter := by
  have hfv : s.mFV = fv + UInt64.ofNat (n / 20) := hshows.mFV
  have hclock : s.mClockCount.toNat = 5 * (n % 20) := hshows.mClockCount
  by_cases hmoved : 20 * q ≤ n
  · have hq : n / 20 = q := by omega
    rw [← hq, ← hfv, jitterOf_self]
    exact ⟨0, 0, rfl, rfl, by decide⟩
  · have hq : q = n / 20 + 1 := by omega
    apply jitterOf_of_behind
    · rw [hfv, hq, UInt64.ofNat_add, ← UInt64.add_assoc]
      rfl
    · omega
    · omega

/-- Then the state manager goes back to `Idle`. -/
theorem processAnUnauthenticFv_of_close (hshows : Shows s.toAFreshnessValueManagerImpl fv
      (after ticksPerIncrement n)) (hle : n ≤ 20 * q + 6) (hge : 20 * q ≤ n + 6)
    (hvalue : byteVectorToUint s.mUnAuthFv = fv + UInt64.ofNat q) :
    s.processAnUnauthenticFv = .ok (.kSuccess, s.transiteTo .idle, []) := by
  obtain ⟨jitter, absJitter, hjitter, habs, hsmall⟩ := jitterOf_of_close hshows hle hge
  unfold processAnUnauthenticFv
  rw [hvalue, hjitter]
  dsimp only
  rw [habs]
  dsimp only
  rw [if_neg hsmall]

end Jitter

/-! ## Honest broadcasts -/

/-- The first event of `past` is a broadcast of the value, which succeeded at its
first attempt in a tick `B` from `T` on.  It took, until the participant's tick
`tick`, as long as the signed value, up to the maximal jitter.  The events of the
server before the run are `g`. -/
def BroadcastOf (g : List ServerEvent) (T k tick : Nat) (value : ByteVector) :
    List DistributionEvent → Prop
  | .server (.broadcast value') :: older =>
    value' = value ∧ FirstAttempt (serverEvents older ++ g) ∧ T ≤ serverTicks older ∧
      (5 * ((tick : Int) - serverTicks older) - 5 * k).natAbs ≤ sokFmTimeJitterMaxMs.toNat
  | _ => False

instance (g : List ServerEvent) (T k tick : Nat) (value : ByteVector) :
    DecidablePred (BroadcastOf g T k tick value)
  | .server (.broadcast _) :: _ => inferInstanceAs (Decidable (_ ∧ _ ∧ _ ∧ _))
  | [] | .participant _ :: _ | .server (.answered _ _ _ _ _ _) :: _
  | .server (.recorded _ _) :: _ | .server (.valuePublished _ _) :: _
  | .server (.signaturePublished _ _) :: _ | .server (.mainFunctionCompleted _) :: _ => .isFalse id

/-- What `processAnUnauthenticFv` compares is an honest broadcast. -/
def HonestBroadcasts (g : List ServerEvent) (T k : Nat) :
    Guard Distribution DistributionOp DistributionEvent := fun s h op =>
  match op with
  | .atParticipant (.mainFunction _ _) =>
    s.participant.mFvStateManager.mCurrentFvState = some .processAnauthFV →
      ∃ past ∈ h.tails, BroadcastOf g T k (participantTicks h) s.participant.mUnAuthFv past
  | _ => True

instance (g : List ServerEvent) (T k : Nat) (s : Distribution) (h : List DistributionEvent) :
    DecidablePred (HonestBroadcasts g T k s h)
  | .atParticipant (.mainFunction _ _) => inferInstanceAs (Decidable (_ → _))
  | .atServer _ | .atParticipant (.incomingAuthFvSignal _ _)
  | .atParticipant (.incomingUnAuthFvSignal _ _) | .atParticipant (.call _) => .isTrue trivial

variable {s s' s₀ s₁ : Distribution} {h h₁ newer : List DistributionEvent}
variable {es : List DistributionEvent} {op : DistributionOp}
variable {g : List ServerEvent} {g' : List ParticipantEvent}
variable {T k tick : Nat} {fv start : UInt64} {value : ByteVector}

/-- A time that is a multiple of a second. -/
theorem wholeSeconds_of_time {calls : Nat} (hlt : 5 * calls < 2 ^ 64)
    (htime : UInt64.ofNat (5 * calls) % sokFmTimeSendMs.toUInt64 = 0) : calls % 200 = 0 := by
  have hzero : (5 * calls) % 1000 = 0 := by
    have htoNat := congrArg UInt64.toNat htime
    rw [UInt64.toNat_mod, UInt64.toNat_ofNat_of_lt' hlt] at htoNat
    exact htoNat
  omega

/-- The broadcast was sent a whole number of periods after the signature, with the
value that the server had then. -/
theorem BroadcastOf.timing {past : List DistributionEvent} (hpast : past ∈ h.tails)
    (hbroadcast : BroadcastOf g T k tick value past)
    (hclock : ServerClock start s.server (serverEvents h ++ g))
    (hbound : serverCalls (serverEvents h ++ g) / 20 ≤ 2 ^ 56)
    (hsigned : fv = start + UInt64.ofNat ((T + serverCalls g) / 20))
    (hphase : (T + serverCalls g) % 20 = 0) :
    ∃ q, byteVectorToUint value = fv + UInt64.ofNat q ∧ tick ≤ T + k + 20 * q + 6 ∧
      T + k + 20 * q ≤ tick + 6 := by
  obtain ⟨newer, rfl⟩ := (List.mem_tails _ _).mp hpast
  rcases past with - | ⟨e | e, older⟩
  · cases hbroadcast
  · cases e with
    | broadcast value' =>
      obtain ⟨rfl, hfirst, hT, hjitter⟩ := hbroadcast
      have hview : serverEvents (newer ++ .server (.broadcast value') :: older) ++ g =
          serverEvents newer ++ .broadcast value' :: (serverEvents older ++ g) := by
        simp
      have hsent := hclock.sent
      rw [hview] at hsent hbound
      obtain ⟨hvalue, htime⟩ := hsent.past
      have hmax : sokFmTimeJitterMaxMs.toNat = 30 := rfl
      have hcalls : serverCalls (serverEvents older ++ g) = serverTicks older + serverCalls g :=
        serverCalls_append
      have hle : serverTicks older + serverCalls g ≤ 20 * 2 ^ 56 + 19 := by
        have hbroadcast : serverCalls (.broadcast value' :: (serverEvents older ++ g)) =
            serverCalls (serverEvents older ++ g) := rfl
        rw [serverCalls_append, hbroadcast, hcalls] at hbound
        omega
      have hmultiple : (serverTicks older + serverCalls g) % 200 = 0 := by
        rw [hcalls] at htime
        exact wholeSeconds_of_time (by omega) (htime hfirst)
      refine ⟨(serverTicks older - T) / 20, ?_, ?_, ?_⟩
      · have hcount : (after ticksPerIncrement (serverTicks older + serverCalls g)).count =
            (T + serverCalls g) / 20 + (serverTicks older - T) / 20 := by
          show (serverTicks older + serverCalls g) / 20 = _
          omega
        rw [hvalue, hcalls, byteVectorToUint_uintToByteVector, hsigned, hcount,
          UInt64.ofNat_add, UInt64.add_assoc]
      · omega
      · omega
    | _ => cases hbroadcast
  · cases hbroadcast

/-- The value was signed when the clock of the server stood at zero. -/
theorem AdoptedAfter.signed (hadopted : AdoptedAfter T k fv newer h)
    (hclock : ServerClock start s.server (serverEvents h ++ g)) :
    fv = start + UInt64.ofNat ((T + serverCalls g) / 20) ∧ (T + serverCalls g) % 20 = 0 := by
  obtain ⟨between, older, client, keyId, challenge, data, mac, hsigned, -⟩ := hadopted
  have hview : serverEvents (newer ++ .participant (.adopted fv) :: between ++
      .server (.answered client keyId challenge fv data mac) :: older) ++ g =
      serverEvents (newer ++ between) ++
        .answered client keyId challenge fv data mac :: (serverEvents older ++ g) := by
    simp
  have hsent := hclock.sent
  rw [hview] at hsent
  obtain ⟨hfv, hphase⟩ := hsent.past
  have hcalls : serverCalls (serverEvents older ++ g) = T + serverCalls g := by
    rw [serverCalls_append, ← hsigned]
    rfl
  rw [hcalls] at hfv hphase
  exact ⟨hfv, hphase⟩

theorem AdoptedAfter.append (hadopted : AdoptedAfter T k fv newer h) :
    AdoptedAfter T k fv (es ++ newer) (es ++ h) := by
  obtain ⟨between, older, client, keyId, challenge, data, mac, hsigned, hticks⟩ := hadopted
  refine .of_eq ?_ hsigned hticks
  simp

/-- What the run in lock-step has established. -/
structure LockStepFacts (start : UInt64) (g : List ServerEvent) (g' : List ParticipantEvent)
    (s : Distribution) (h : List DistributionEvent) : Prop where
  clock : ServerClock start s.server (serverEvents h ++ g)
  bound : serverCalls (serverEvents h ++ g) / 20 ≤ 2 ^ 56
  ready : Ready s.participant
  lineage : Lineage s.participant (participantEvents h ++ g')

theorem lockStepFacts_of_run {server₀ : FreshnessValueManagerImplServer}
    {participant₀ : FreshnessValueManagerImplParticipant}
    (hserver : server₀.FirstInit) (hparticipant : participant₀.FirstInit)
    (hserverRun : Run serverStep ServerBelowLimit server₀ [] s₀.server g)
    (hparticipantRun : Run participantStep Anything participant₀ [] s₀.participant g')
    (hrun : Run distributionStep (fun s h op => LockStep s h op ∧ BelowLimit s h op) s₀ [] s h) :
    LockStepFacts server₀.mFV g g' s h := by
  have hstart := serverClock_of_firstInit hserver
  have hserverRun' := hserverRun.trans
    (serverRun_of_run (Q := ServerBelowLimit) hrun fun _ _ _ hmeets => hmeets.2)
  obtain ⟨hready, hlineage⟩ := lineage_of_run hparticipant
    (hparticipantRun.trans (participantRun_of_view hrun))
  have hbound := (progress_of_run hstart hserverRun').bound
  have hzero : serverCalls [] / 20 = 0 := rfl
  rw [hzero, Nat.zero_add] at hbound
  exact ⟨serverClock_of_run hstart hserverRun', hbound, hready, hlineage⟩

/-- The participant has kept the value that it adopted in tick `T + k`. -/
def Synchronised (T k : Nat) (fv : UInt64) (s : Distribution) (h : List DistributionEvent) : Prop :=
  s.participant.mIsFvValid = true ∧ ∃ newer, AdoptedAfter T k fv newer h ∧ NoAdoption newer

/-- An honest broadcast does not invalidate the value. -/
theorem mIsFvValid_of_honest {csm : ICsmAccessor} {signals : ISignalManager}
    {p : FreshnessValueManagerImplParticipant} {pes : List ParticipantEvent}
    (hfacts : LockStepFacts start g g' s h) (hsync : Synchronised T k fv s h)
    (hstate : s.participant.requestCycle.state = some .processAnauthFV)
    (honest : HonestBroadcasts g T k s h (.atParticipant (.mainFunction csm signals)))
    (hstep : participantStep s.participant (.mainFunction csm signals) = .ok (p, pes)) :
    p.mIsFvValid = true := by
  obtain ⟨hvalid, newer, hadopted, hkept⟩ := hsync
  obtain ⟨past, hpast, hbroadcast⟩ := honest hstate
  obtain ⟨hsigned, hphase⟩ := hadopted.signed hfacts.clock
  obtain ⟨q, hvalue, hle, hge⟩ := hbroadcast.timing hpast hfacts.clock hfacts.bound hsigned hphase
  obtain ⟨a, -, hticks, -, hshows⟩ :=
    shows_of_adoptedAfter hadopted hkept hvalid hfacts.clock hfacts.lineage
  have hidle := processAnUnauthenticFv_of_close hshows (q := q) (by omega) (by omega) hvalue
  obtain ⟨ret, hresult⟩ := mainFunction_of_step hstep
  obtain ⟨state, result', hstate', haction, hresult'⟩ := mainFunction_cases hfacts.ready hresult
  cases Option.some.inj (hstate.symm.trans hstate')
  have haction' : s.participant.processAnUnauthenticFv = .ok result' := haction
  cases Except.ok.inj (hidle.symm.trans haction')
  cases hresult'
  show (s.participant.toAFreshnessValueManagerImpl.incTimers).mIsFvValid = true
  rw [AFreshnessValueManagerImpl.mIsFvValid_incTimers]
  exact hvalid

/-- Step lemma. -/
theorem Synchronised.step (hfacts : LockStepFacts start g g' s h)
    (hsync : Synchronised T k fv s h) (honest : HonestBroadcasts g T k s h op)
    (hstep : distributionStep s op = .ok (s', es)) : Synchronised T k fv s' (es ++ h) := by
  have hholds := hfacts.lineage.valid_iff.mp hsync.1
  refine ⟨?_, ?_⟩
  · rcases distributionStep_cases hstep with ⟨op', server, es', -, -, hs', -⟩ |
      ⟨op', p, es', hop, hp, hs', -⟩
    · rw [hs']
      exact hsync.1
    · subst hop hs'
      cases fvStep_of_step hfacts.ready hp with
      | adopts csm signals hop hverified hes hbase =>
        show p.mIsFvValid = true
        rw [hbase, AFreshnessValueManagerImpl.mIsFvValid_incTimers]
        rfl
      | invalidates hop hfrom =>
        obtain ⟨csm, signals, rfl⟩ := hop
        exact mIsFvValid_of_honest hfacts hsync hfrom honest hp
      | ticks hop hadoption hcompleted hbase =>
        show p.mIsFvValid = true
        rw [hbase, AFreshnessValueManagerImpl.mIsFvValid_incTimers]
        exact hsync.1
      | calls hop hadoption hcompleted hbase =>
        show p.mIsFvValid = true
        rw [hbase.mIsFvValid]
        exact hsync.1
  · obtain ⟨newer, hadopted, hkept⟩ := hsync.2
    refine ⟨es ++ newer, hadopted.append, ?_⟩
    intro fv' hmem
    rcases List.mem_append.mp hmem with hnew | hold
    · -- a participant whose value is valid does not verify anything
      obtain ⟨csm, signals, -, hstate, -⟩ := verified_of_adopted hfacts.ready hstep hnew
      have hstate' : s.participant.requestCycle.state = some .processFV := hstate
      rw [hstate'] at hholds
      simp [FreshnessValueState.HoldsFv] at hholds
    · exact hkept fv' hold

/-! ### The call that adopts -/

/-- The value is still valid when the call that adopted it has completed. -/
def ValidAfterAdoption (p : FreshnessValueManagerImplParticipant) (h : List ParticipantEvent) :
    Prop :=
  lastAdoption h ≠ none →
    1 ≤ callsSinceAdoption h ∧ (callsSinceAdoption h = 1 → p.mIsFvValid = true)

theorem validAfterAdoption_step {p p' : FreshnessValueManagerImplParticipant}
    {pop : ParticipantOp} {pes h : List ParticipantEvent} (hvalid : ValidAfterAdoption p h)
    (hstep : FvStep p pop pes p') : ValidAfterAdoption p' (pes ++ h) := by
  intro hsome
  cases hstep with
  | adopts csm signals hop hverified hes hbase =>
    subst hes
    refine ⟨Nat.le_refl 1, fun _ => ?_⟩
    rw [hbase, AFreshnessValueManagerImpl.mIsFvValid_incTimers]
    rfl
  | invalidates hop hfrom hes =>
    subst hes
    have hnone : ∀ e ∈ [ParticipantEvent.mainFunctionCompleted], e.adoption = none := by simp
    rw [lastAdoption_append hnone] at hsome
    obtain ⟨hpos, -⟩ := hvalid hsome
    rw [callsSinceAdoption_append hnone, List.count_singleton_self]
    refine ⟨by omega, fun hone => ?_⟩
    omega
  | ticks hop hadoption hcompleted =>
    rw [lastAdoption_append hadoption] at hsome
    obtain ⟨hpos, -⟩ := hvalid hsome
    rw [callsSinceAdoption_append hadoption, hcompleted]
    refine ⟨by omega, fun hone => ?_⟩
    omega
  | calls hop hadoption hcompleted hbase =>
    rw [lastAdoption_append hadoption] at hsome
    rw [callsSinceAdoption_append hadoption, hcompleted, Nat.zero_add, hbase.mIsFvValid]
    exact hvalid hsome

theorem validAfterAdoption_of_run {p₀ p : FreshnessValueManagerImplParticipant}
    {h : List ParticipantEvent} (hfirst : p₀.FirstInit)
    (hrun : Run participantStep Anything p₀ [] p h) : ValidAfterAdoption p h := by
  have hboth : Ready p ∧ ValidAfterAdoption p h := by
    refine hrun.invariant (fun p h => Ready p ∧ ValidAfterAdoption p h)
      ⟨hfirst.spec.1.ready, fun hsome => absurd rfl hsome⟩ ?_
    intro p h pop p' pes ⟨hready, hvalid⟩ _ hstep
    exact ⟨(requestCycle_step hready hstep).ready,
      validAfterAdoption_step hvalid (fvStep_of_step hready hstep)⟩
  exact hboth.2

theorem mIsFvValid_of_adopted
    (hadopted : AdoptedAfter T k fv [.participant .mainFunctionCompleted] h)
    (hvalid : ValidAfterAdoption s.participant (participantEvents h ++ g')) :
    s.participant.mIsFvValid = true := by
  obtain ⟨between, older, client, keyId, challenge, data, mac, -, -⟩ := hadopted
  exact (hvalid (by simp [lastAdoption])).2 rfl

/-- **Honest broadcasts.**  Server and participant run in lock-step, and in tick
`T + k` the participant adopts what the server has signed in tick `T`.  As long as
every broadcast that it compares was sent in a tick from `T` on, succeeded at its
first attempt and took as long as the signed value up to the maximal jitter, its
freshness value stays valid and it does not leave `Idle` and `ProcessAnauthFV`. -/
theorem honest_broadcasts_keep_synchronised {server₀ : FreshnessValueManagerImplServer}
    {participant₀ : FreshnessValueManagerImplParticipant}
    (hserver : server₀.FirstInit) (hparticipant : participant₀.FirstInit)
    (hserverRun : Run serverStep ServerBelowLimit server₀ [] s₀.server g)
    (hparticipantRun : Run participantStep Anything participant₀ [] s₀.participant g')
    (hbefore : Run distributionStep (fun s h op => LockStep s h op ∧ BelowLimit s h op) s₀ [] s₁ h₁)
    (hadopted : AdoptedAfter T k fv [.participant .mainFunctionCompleted] h₁)
    (hafter : Run distributionStep
      (fun s h op => LockStep s h op ∧ BelowLimit s h op ∧ HonestBroadcasts g T k s h op)
      s₁ h₁ s h) :
    s.participant.mIsFvValid = true ∧
      (s.participant.mFvStateManager.mCurrentFvState = some .idle ∨
        s.participant.mFvStateManager.mCurrentFvState = some .processAnauthFV) := by
  have hfacts : ∀ {s h}, Run distributionStep (fun s h op => LockStep s h op ∧ BelowLimit s h op)
      s₀ [] s h → LockStepFacts server₀.mFV g g' s h :=
    lockStepFacts_of_run hserver hparticipant hserverRun hparticipantRun
  have hstart : Synchronised T k fv s₁ h₁ := by
    refine ⟨mIsFvValid_of_adopted hadopted (validAfterAdoption_of_run hparticipant
      (hparticipantRun.trans (participantRun_of_view hbefore))), _, hadopted, ?_⟩
    intro fv' hmem
    simp at hmem
  have hall : Run distributionStep (fun s h op => LockStep s h op ∧ BelowLimit s h op) s₀ [] s h ∧
      Synchronised T k fv s h := by
    refine hafter.invariant (fun s h => Run distributionStep (fun s h op => LockStep s h op ∧
      BelowLimit s h op) s₀ [] s h ∧ Synchronised T k fv s h) ⟨hbefore, hstart⟩ ?_
    intro s h op s' es ⟨hrun, hsync⟩ ⟨hlock, hbelow, honest⟩ hstep
    exact ⟨hrun.step ⟨hlock, hbelow⟩ hstep, hsync.step (hfacts hrun) honest hstep⟩
  have hvalid := hall.2.1
  exact ⟨hvalid, (hfacts hall.1).lineage.valid_iff.mp hvalid⟩

/-- In tick 200 the server broadcasts and the participant compares. -/
def firstComparison : List DistributionOp :=
  lockStepTicks 179 ++
  [.atServer (.mainFunction reliableServices),
    .atParticipant (.incomingUnAuthFvSignal "" [0, 7, 7, 7, 7, 7, 7, 17]),
    .atParticipant (.mainFunction zeroDigestCsm reliableSignals)]

/-- The broadcast of tick 200. -/
def comparedBroadcast : DistributionEvent :=
  .server (.broadcast [0, 7, 7, 7, 7, 7, 7, 17])

theorem honest_broadcasts_keep_synchronised_once :
    ∃ s₁ h₁ s h, Run distributionStep
        (fun s h op => LockStep s h op ∧ BelowLimit s h op ∧ HonestBroadcasts [] 20 0 s h op)
        s₁ h₁ s h ∧
      AdoptedAfter 20 0 0x07070707070708 [.participant .mainFunctionCompleted] h₁ ∧
      comparedBroadcast ∈ h ∧ s.participant.mIsFvValid = true ∧
      (s.participant.mFvStateManager.mCurrentFvState = some .idle ∨
        s.participant.mFvStateManager.mCurrentFvState = some .processAnauthFV) := by
  obtain ⟨s₁, h₁, hbefore, hhistory, hsigned, hadopted, hmeets, hend⟩ :
      ∃ s₁ h₁, Run distributionStep (fun s h op => LockStep s h op ∧ BelowLimit s h op)
          firstDistribution [] s₁ h₁ ∧
        (h₁ = [.participant .mainFunctionCompleted] ++
            .participant (.adopted 0x07070707070708) :: (h₁.drop 2).take 5 ++
            signedResponse :: h₁.drop 8 ∧
          serverTicks (h₁.drop 8) = 20 ∧
          participantTicks ((h₁.drop 2).take 5 ++ signedResponse :: h₁.drop 8) = 20 + 0 ∧
          execMeets distributionStep
            (fun s h op => LockStep s h op ∧ BelowLimit s h op ∧ HonestBroadcasts [] 20 0 s h op)
            s₁ h₁ firstComparison = true ∧
          execEnds distributionStep (fun _ h => comparedBroadcast ∈ h) s₁ h₁ firstComparison =
            true) :=
    Run.exists_of_exec_of_meets synchronisation (by decide +kernel) (by decide +kernel)
  obtain ⟨s, h, hafter, hbroadcast⟩ : ∃ s h, Run distributionStep
        (fun s h op => LockStep s h op ∧ BelowLimit s h op ∧ HonestBroadcasts [] 20 0 s h op)
        s₁ h₁ s h ∧ comparedBroadcast ∈ h :=
    Run.exists_of_exec_of_meets firstComparison hmeets hend
  have hadoptedAfter := AdoptedAfter.of_eq hhistory hsigned hadopted
  exact ⟨s₁, h₁, s, h, hafter, hadoptedAfter, hbroadcast,
    honest_broadcasts_keep_synchronised firstInit_firstServer firstInit_firstParticipant .refl .refl
      hbefore hadoptedAfter hafter⟩

end Sok.Fvm
