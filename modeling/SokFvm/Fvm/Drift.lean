import SokFvm.Fvm.Convergence
import SokFvm.Fvm.JitterVerdict

/-!
# How far a participant can drift

A participant may come into a link with any freshness value.  The broadcasts of the
server judge it, one in a second, and this module says where the two are once one of
them has been compared.

* `ticksToBroadcast` counts the ticks until the server broadcasts.
* `Told` is a participant that has such a broadcast, or will get it before it ticks.
* `Near` is what the comparison leaves of the possible distances: eight ticks behind, at
  the most, and 39 ahead.  It is not symmetric, because the comparison subtracts the time
  since the last increment on the wrong side for a participant that is ahead.
* `Stage` follows a participant to where it stays: it is near, or it asks and adopts what
  the server signs, which is nearer.

The rank of a stage is the ticks that the way can still take, and `drift_bounded` is the
rule for what settles.
-/

namespace Sok.Fvm

open Sok.Common StateMachine Cadence FreshnessValueManagerImplServer
open FreshnessValueManagerImplParticipant

variable {w : Wiring} {s s' s₀ : BroadcastLink} {h : List FvLinkEvent} {d : Int}

/-- The link works, and the freshness values of both parties fit into the seven bytes of
an answer. -/
def HonestBelowLimit (w : Wiring) : Guard BroadcastLink BroadcastLinkOp FvLinkEvent :=
  fun s h op => HonestLink w s h op ∧ s.participant.mFV.toNat < 2 ^ 56

/-! ## The next broadcast -/

section Server

variable {server server' : FreshnessValueManagerImplServer} {services : ServerServices}
variable {es : List ServerEvent}

/-- The ticks of the server until it broadcasts, that of the broadcast included. -/
def ticksToBroadcast (server : FreshnessValueManagerImplServer) : Nat :=
  if server.mNeedToBroadcastFv then 1
  else 201 - server.mTimeSinceInit.toNat / sokFmMainFunctionPeriodMs.toNat % 200

theorem ticksToBroadcast_le (server : FreshnessValueManagerImplServer) :
    ticksToBroadcast server ≤ 201 := by
  unfold ticksToBroadcast
  split
  · decide
  · exact Nat.sub_le _ _

theorem ticksToBroadcast_pos (server : FreshnessValueManagerImplServer) :
    1 ≤ ticksToBroadcast server := by
  unfold ticksToBroadcast
  split
  · decide
  · omega

/-- A tick without a broadcast brings the next one nearer. -/
theorem ticksToBroadcast_of_tick (hontime : BroadcastsOnTime server)
    (hneed : server.mNeedToBroadcastFv = false)
    (hpublish : ∀ config bytes, services.broadcastSignals.publish config bytes = .kSuccess)
    (hstep : serverStep server (.mainFunction services) = .ok (server', es)) :
    ticksToBroadcast server' + 1 = ticksToBroadcast server := by
  obtain ⟨start, server₀, g, hclock, hprogress, -⟩ := hontime
  have hbound := hprogress.bound
  have hnone : serverCalls [] / 20 = 0 := rfl
  have hperiod : sokFmMainFunctionPeriodMs.toNat = 5 := rfl
  have hclock' := hclock.step (serverClockStep_of_step hclock.mInitialized hstep)
  obtain ⟨ret, hresult⟩ := mainFunction_of_serverStep hstep
  have hcalls := serverCalls_of_tick hclock hstep
  have hflag := mNeedToBroadcastFv_of_mainFunction hclock.mInitialized
    (not_broadcastFails hpublish) hresult
  have htime := toNat_time hclock.time
  have htime' := toNat_time hclock'.time
  rw [time_mod_eq_zero_iff hclock'.time, hcalls] at hflag
  rw [hcalls] at htime'
  unfold BroadcastDue at hflag
  -- the clock does not wrap around
  have hsmall : 5 * (serverCalls g + 1) < 2 ^ 64 := by omega
  rw [Nat.mod_eq_of_lt (by omega)] at htime
  rw [Nat.mod_eq_of_lt hsmall] at htime' hflag
  unfold ticksToBroadcast
  rw [if_neg (Bool.eq_false_iff.mp hneed), htime, htime', hperiod,
    Nat.mul_div_cancel_left _ (by decide), Nat.mul_div_cancel_left _ (by decide)]
  clear hbound hsmall htime htime'
  split
  · rename_i hnext
    have hdue := hflag.mp hnext
    omega
  · rename_i hnext
    have hdue := mt hflag.mpr hnext
    omega

end Server

/-! ## The comparison -/

section Comparison

variable {p p' : FreshnessValueManagerImplParticipant} {csm : ICsmAccessor}
variable {signals : ISignalManager} {es : List ParticipantEvent}

/-- A call of the main function of a participant with a freshness value, which it keeps
only if what it compares is accepted. -/
theorem mainFunction_of_holds (hready : Ready p)
    (hholds : FreshnessValueState.HoldsFv p.requestCycle.state)
    (hstep : participantStep p (.mainFunction csm signals) = .ok (p', es)) :
    p'.requestCycle.state = some .requestFV ∨
      p'.requestCycle.state = some .idle ∧
        p'.toAFreshnessValueManagerImpl = p.toAFreshnessValueManagerImpl.incTimers ∧
        (p.requestCycle.state = some .processAnauthFV →
          InRange p (byteVectorToUint p.mUnAuthFv) →
          Accepts p (byteVectorToUint p.mUnAuthFv)) := by
  obtain ⟨ret, hresult⟩ := mainFunction_of_step hstep
  obtain ⟨state, result, hstate, haction, hresult'⟩ := mainFunction_cases hready hresult
  have hp' : p' = result.2.1.incTimers := congrArg (·.2.1) hresult'
  rcases hholds with hidle | hcompares
  · right
    cases Option.some.inj (hstate.symm.trans hidle)
    cases Except.ok.inj haction
    rw [hp']
    refine ⟨hidle, rfl, fun hcompares => ?_⟩
    cases hidle.symm.trans hcompares
  · cases Option.some.inj (hstate.symm.trans hcompares)
    have haction' : p.processAnUnauthenticFv = .ok result := haction
    rcases processAnUnauthenticFv_cases haction' with rfl | rfl
    · left
      rw [hp']
      exact state_transiteTo hready rfl _
    · right
      rw [hp']
      refine ⟨state_transiteTo hready rfl _, rfl, fun _ hrange => ?_⟩
      rcases processAnUnauthenticFv_eq hrange with ⟨haccepts, -⟩ | ⟨-, hrejects⟩
      · exact haccepts
      · -- a rejection would have led to the state of the request
        exfalso
        have hsame := congrArg (fun result : ActionResult => result.2.1.requestCycle.state)
          (Except.ok.inj (haction'.symm.trans hrejects))
        have hidle := state_transiteTo (t := p) hready rfl .idle
        have hrequest := state_transiteTo
          (t := { p with mIsFvValid := false, mUnAuthFv := [] }) hready rfl .requestFV
        cases hidle.symm.trans (hsame.trans hrequest)

end Comparison

/-! ## A participant near the server -/

/-- The participant is at most eight ticks behind the server and 39 ahead, when the
server is `d` ticks ahead in this run. -/
structure Near (s : BroadcastLink) (d : Int) : Prop where
  holds : FreshnessValueState.HoldsFv s.participant.requestCycle.state
  apart : ∃ (fv : UInt64) (m n : Nat),
    Shows s.server.toAFreshnessValueManagerImpl fv (after ticksPerIncrement m) ∧
      Shows s.participant.toAFreshnessValueManagerImpl fv (after ticksPerIncrement n) ∧
      m ≤ n + d + 8 ∧ n + d ≤ m + 39

theorem Near.of_settled (hsettled : Settled s d) : Near s d := by
  obtain ⟨fv, m, n, o, hsettled⟩ := hsettled
  have ho := hsettled.o_le
  have hapart := hsettled.apart
  exact ⟨hsettled.holds, fv, m, n, hsettled.server, hsettled.participant, by omega, by omega⟩

theorem Near.of_still (hnear : Near s d) (hstill : Still w s s') : Near s' d := by
  obtain ⟨hholds, fv, m, n, hserver, hparticipant, hbehind, hahead⟩ := hnear
  exact ⟨hstill.holds.mpr hholds, fv, m, n, hserver.of_sameContext hstill.server,
    hparticipant.of_sameContext hstill.participant, hbehind, hahead⟩

/-- The two freshness values of parties that are near each other. -/
theorem Near.mFV (hnear : Near s d) (hbehind : -1 ≤ d) (hahead : d ≤ 1) :
    s.participant.mFV ∈
      [s.server.mFV - 1, s.server.mFV, s.server.mFV + 1, s.server.mFV + 2] := by
  obtain ⟨-, fv, m, n, hserver, hparticipant, hm, hn⟩ := hnear
  have hserver' : s.server.mFV = fv + UInt64.ofNat (m / 20) := hserver.mFV
  have hparticipant' : s.participant.mFV = fv + UInt64.ofNat (n / 20) := hparticipant.mFV
  rw [hserver', hparticipant']
  rcases (by omega : n / 20 + 1 = m / 20 ∨ n / 20 = m / 20 ∨ n / 20 = m / 20 + 1 ∨
    n / 20 = m / 20 + 2) with hcount | hcount | hcount | hcount
  · rw [← hcount, UInt64.ofNat_add, ← UInt64.add_assoc]
    simp
  · rw [hcount]
    simp
  · rw [hcount, UInt64.ofNat_add, ← UInt64.add_assoc]
    simp
  · rw [hcount, UInt64.ofNat_add, ← UInt64.add_assoc]
    simp

section Accepted

variable {p : FreshnessValueManagerImplParticipant} {fv : UInt64} {j e : Nat}

/-- The participant, measured from the value before the broadcast one. -/
theorem shows_of_accepted {q : FreshnessValueManagerImplParticipant} {phase : Nat}
    (haccepts : Accepts q fv) (hclock : q.mClockCount.toNat = 5 * phase) (hlt : phase < 20) :
    ∃ i, Shows q.toAFreshnessValueManagerImpl (fv - 1) (after ticksPerIncrement (20 * i + phase)) ∧
      i ≤ 2 ∧ (i ≠ 1 → 13 ≤ phase) := by
  obtain ⟨i, hi, hle, hphase⟩ : ∃ i : Nat, ahead q fv = (i : Int) - 1 ∧ i ≤ 2 ∧
      (i ≠ 1 → 13 ≤ phase) := by
    refine ⟨(ahead q fv + 1).toNat, ?_, ?_, ?_⟩
    · rcases haccepts with hsame | ⟨hone, -⟩
      · omega
      · omega
    · rcases haccepts with hsame | ⟨hone, -⟩
      · omega
      · omega
    · intro hne
      rcases haccepts with hsame | ⟨-, hlate⟩
      · omega
      · omega
  refine ⟨i, ⟨?_, ?_⟩, hle, hphase⟩
  · show q.mFV = fv - 1 + UInt64.ofNat ((20 * i + phase) / 20)
    rw [show (20 * i + phase) / 20 = i by omega, ← UInt64.toNat_inj, UInt64.toNat_add,
      UInt64.toNat_sub, UInt64.toNat_ofNat', show (1 : UInt64).toNat = 1 from rfl]
    unfold ahead at hi
    have hq := q.mFV.toNat_lt
    have hfv := fv.toNat_lt
    omega
  · show q.mClockCount.toNat = 5 * ((20 * i + phase) % 20)
    omega

/-- What the comparison accepts is near. -/
theorem near_of_accepted (hserver : Shows s.server.toAFreshnessValueManagerImpl fv
      (after ticksPerIncrement j)) (hsmall : j < 20) (he : e ≤ 1) (hj : (j : Int) = d + e)
    (haccepts : Accepts s.participant fv) {phase : Nat}
    (hclock : s.participant.mClockCount.toNat = 5 * phase) (hlt : phase < 20)
    (hready : Ready s.participant) (hvalid : s.participant.mIsFvValid = true)
    (hbase : p.toAFreshnessValueManagerImpl = s.participant.toAFreshnessValueManagerImpl.incTimers)
    (hholds : FreshnessValueState.HoldsFv p.requestCycle.state)
    (toServer : Option ByteVector) (toParticipant : List (String × ByteVector)) :
    Near ⟨⟨⟨s.server, p⟩, toServer, toParticipant⟩, s.broadcast⟩ (d - 1) := by
  obtain ⟨i, hshows, hi, hphase⟩ := shows_of_accepted haccepts hclock hlt
  refine ⟨hholds, fv - 1, 20 + j, 20 * i + phase + 1, ⟨?_, ?_⟩, ?_, ?_, ?_⟩
  · have hfv : s.server.mFV = fv + UInt64.ofNat (j / 20) := hserver.mFV
    show s.server.mFV = fv - 1 + UInt64.ofNat ((20 + j) / 20)
    rw [hfv, show j / 20 = 0 by omega, show (20 + j) / 20 = 1 by omega]
    show fv + 0 = fv - 1 + 1
    rw [UInt64.add_zero, UInt64.sub_add_cancel]
  · have hcount : s.server.mClockCount.toNat = 5 * (j % 20) := hserver.mClockCount
    show s.server.mClockCount.toNat = 5 * ((20 + j) % 20)
    omega
  · show Shows p.toAFreshnessValueManagerImpl _ _
    rw [hbase]
    exact hshows.incTimers_after hready.mInitialized hvalid
  · rcases (by omega : i = 0 ∨ i = 1 ∨ i = 2) with rfl | rfl | rfl
    · have hlate := hphase (by decide)
      omega
    · omega
    · omega
  · omega

end Accepted

/-! ## A participant that is told -/

/-- The participant compares a broadcast at its next tick, or will get it before. -/
inductive Tells (s : BroadcastLink) (fv : UInt64) : Prop
  | arrives (value : ByteVector) (hbroadcast : s.broadcast = some value)
      (hlength : value.length = 8) (hvalue : byteVectorToUint value = fv)
  | compares (hbroadcast : s.broadcast = none)
      (hstate : s.participant.requestCycle.state = some .processAnauthFV)
      (hvalue : byteVectorToUint s.participant.mUnAuthFv = fv)

/-- The server has broadcast what it shows, in one of its last two ticks. -/
structure Told (s : BroadcastLink) (d : Int) : Prop where
  holds : FreshnessValueState.HoldsFv s.participant.requestCycle.state
  made : ∃ (fv : UInt64) (j e : Nat),
    Shows s.server.toAFreshnessValueManagerImpl fv (after ticksPerIncrement j) ∧
      1 ≤ j ∧ e ≤ 1 ∧ (j : Int) = d + e ∧ Tells s fv

/-- The comparison is what the broadcast leads to. -/
theorem state_of_broadcast {p : FreshnessValueManagerImplParticipant} {value : ByteVector}
    (hready : Ready p) (hholds : FreshnessValueState.HoldsFv p.requestCycle.state)
    (hlength : value.length = 8) :
    (p.incomingUnAuthFvSignalsCb (broadcastSignalName p) value).requestCycle.state =
        some .processAnauthFV ∧
      (p.incomingUnAuthFvSignalsCb (broadcastSignalName p) value).mUnAuthFv = value := by
  unfold incomingUnAuthFvSignalsCb
  rw [if_pos ⟨rfl, hlength⟩]
  refine ⟨?_, rfl⟩
  rcases hholds with hstate | hstate
  · exact (hready.registered.reactToUnauthenticFVRes hstate).2
  · exact (hready.registered.reactToUnauthenticFVRes hstate).2

theorem Told.of_still (htold : Told s d) (hready : Ready s.participant) (hstill : Still w s s') :
    Told s' d := by
  obtain ⟨hholds, fv, j, e, hserver, hpos, he, hj, htells⟩ := htold
  refine ⟨hstill.holds.mpr hholds, fv, j, e, hserver.of_sameContext hstill.server, hpos, he, hj, ?_⟩
  cases hstill.news with
  | keeps hbroadcast hstate hmUnAuthFv =>
    cases htells with
    | arrives value hsent hlength hvalue =>
      exact .arrives value (hbroadcast.trans hsent) hlength hvalue
    | compares hnone hcompares hvalue =>
      exact .compares (hbroadcast.trans hnone) (hstate.mpr hcompares) (by rw [hmUnAuthFv, hvalue])
  | arrives value hsent hnone hparticipant =>
    cases htells with
    | arrives value' hsent' hlength hvalue =>
      cases Option.some.inj (hsent.symm.trans hsent')
      obtain ⟨hcompares, hmUnAuthFv⟩ := state_of_broadcast hready hholds hlength
      rw [← hparticipant] at hcompares hmUnAuthFv
      exact .compares hnone hcompares (by rw [hmUnAuthFv, hvalue])
    | compares hnone' => cases hsent.symm.trans hnone'

/-- The server makes a broadcast. -/
theorem told_of_tick (hwired : Wired w s.toFvLink) (hontime : BroadcastsOnTime s.server)
    (hbehind : -1 ≤ d) (hahead : d ≤ 0) {services : ServerServices}
    (hpublish : ∀ config bytes, services.broadcastSignals.publish config bytes = .kSuccess)
    {server : FreshnessValueManagerImplServer} {es : List ServerEvent}
    (hstep : serverStep s.server (.mainFunction services) = .ok (server, es))
    (hneed : s.server.mNeedToBroadcastFv = true)
    (hholds : FreshnessValueState.HoldsFv s.participant.requestCycle.state)
    (toServer : Option ByteVector) (toParticipant : List (String × ByteVector)) :
    Told ⟨⟨⟨server, s.participant⟩, toServer, toParticipant⟩,
      (s.announced (.serverTick services)).or s.broadcast⟩ (d + 1) := by
  obtain ⟨start, g, hclock⟩ := hwired.server
  have hzero := hontime.mClockCount hneed
  have hshows : Shows s.server.toAFreshnessValueManagerImpl s.server.mFV
      (after ticksPerIncrement 0) := by
    refine ⟨(UInt64.add_zero _).symm, ?_⟩
    show s.server.mClockCount.toNat = 5 * (0 % 20)
    omega
  refine ⟨hholds, s.server.mFV, 1, (-d).toNat, hshows.serverTick hclock hstep, by decide,
    by omega, by omega, ?_⟩
  refine .arrives (uintToByteVector s.server.mFV) ?_ (length_uintToByteVector _)
    (byteVectorToUint_uintToByteVector _)
  show (s.announced (.serverTick services)).or s.broadcast = _
  rw [announced_eq hontime.mInitialized hpublish hstep, if_pos hneed]
  rfl

/-- The server makes no other broadcast before the comparison. -/
theorem Told.serverTick (htold : Told s d) (hwired : Wired w s.toFvLink)
    (hontime : BroadcastsOnTime s.server) (hahead : d ≤ 0) (hnone : s.broadcast = none)
    {services : ServerServices}
    (hpublish : ∀ config bytes, services.broadcastSignals.publish config bytes = .kSuccess)
    {server : FreshnessValueManagerImplServer} {es : List ServerEvent}
    (hstep : serverStep s.server (.mainFunction services) = .ok (server, es))
    (toServer : Option ByteVector) (toParticipant : List (String × ByteVector)) :
    Told ⟨⟨⟨server, s.participant⟩, toServer, toParticipant⟩,
      (s.announced (.serverTick services)).or s.broadcast⟩ (d + 1) := by
  obtain ⟨start, g, hclock⟩ := hwired.server
  obtain ⟨hholds, fv, j, e, hserver, hpos, he, hj, htells⟩ := htold
  have hneed : ¬ s.server.mNeedToBroadcastFv = true := by
    intro hneed
    have hzero := hontime.mClockCount hneed
    have hcount : s.server.mClockCount.toNat = 5 * (j % 20) := hserver.mClockCount
    omega
  refine ⟨hholds, fv, j + 1, e, hserver.serverTick hclock hstep, by omega, he, by omega, ?_⟩
  cases htells with
  | arrives value hsent => cases hnone.symm.trans hsent
  | compares _ hstate hvalue =>
    refine .compares ?_ hstate hvalue
    show (s.announced (.serverTick services)).or s.broadcast = none
    rw [announced_eq hontime.mInitialized hpublish hstep, if_neg hneed, hnone]
    rfl

/-- The value that a participant compares is computed with exactly. -/
theorem inRange_of_shows {fv : UInt64} {j : Nat}
    (hserver : Shows s.server.toAFreshnessValueManagerImpl fv (after ticksPerIncrement j))
    (hsmall : j < 20) (hbelow : s.server.mFV.toNat < 2 ^ 56)
    (hbelow' : s.participant.mFV.toNat < 2 ^ 56) {phase : Nat}
    (hclock : s.participant.mClockCount.toNat = 5 * phase) (hlt : phase < 20) :
    InRange s.participant fv := by
  have hfv : s.server.mFV = fv + UInt64.ofNat (j / 20) := hserver.mFV
  rw [show j / 20 = 0 by omega] at hfv
  have hfv' : s.server.mFV = fv := hfv.trans (UInt64.add_zero _)
  exact ⟨hbelow', by rw [← hfv']; exact hbelow, by omega⟩

/-! ## The way to where it stays -/

/-- Where a participant is on its way to where it stays, and the ticks that the way can
still take. -/
inductive Stage (w : Wiring) (s : BroadcastLink) (d : Int) : Nat → Prop
  | near (hnear : Near s d) : Stage w s d 0
  /-- It will adopt what the server signs for it. -/
  | request {b : Nat} (hphase : Phase w s.toFvLink d b) (hpos : 0 < b) (hle : b ≤ 22) :
    Stage w s d 0
  | told (htold : Told s d) : Stage w s d 1
  /-- It has a freshness value that is not judged yet. -/
  | waits {b : Nat} (hholds : FreshnessValueState.HoldsFv s.participant.requestCycle.state)
      (hrank : (b : Int) = d + ticksToBroadcast s.server + 1) : Stage w s d b
  /-- It may adopt what it had before the run. -/
  | stale {b : Nat} (hphase : Phase w s.toFvLink d b) (hpos : 0 < b) : Stage w s d (b + 203)

variable {b : Nat}

theorem stage_of_request
    (hstate : s.participant.requestCycle.state = some .requestFV) : Stage w s d 0 :=
  .request (.request hstate) (by decide) (Nat.le_refl 22)

theorem Stage.of_still (hstage : Stage w s d b) (hready : Ready s.participant)
    (hstill : Still w s s') : ∃ b', Stage w s' d b' ∧ b' ≤ b := by
  cases hstage with
  | near hnear => exact ⟨0, .near (hnear.of_still hstill), Nat.le_refl 0⟩
  | request hphase hpos hle =>
    obtain ⟨b', hphase', hle', hzero⟩ := hstill.phase hphase
    exact ⟨0, .request hphase' (by omega) (by omega), Nat.le_refl 0⟩
  | told htold => exact ⟨1, .told (htold.of_still hready hstill), Nat.le_refl 1⟩
  | waits hholds hrank =>
    refine ⟨b, .waits (hstill.holds.mpr hholds) ?_, Nat.le_refl b⟩
    unfold ticksToBroadcast at hrank ⊢
    rw [hstill.needs, hstill.server.mTimeSinceInit]
    exact hrank
  | stale hphase hpos =>
    obtain ⟨b', hphase', hle', hzero⟩ := hstill.phase hphase
    exact ⟨b' + 203, .stale hphase' (by omega), by omega⟩

theorem Stage.serverTick (hstage : Stage w s d b) (hwired : Wired w s.toFvLink)
    (hontime : BroadcastsOnTime s.server) (hquiet : s.Quiet) (hnone : s.broadcast = none)
    {services : ServerServices}
    (hbroadcasts : ∀ config bytes, services.broadcastSignals.publish config bytes = .kSuccess)
    (hcreator : services.mCsmAccessor w.client = w.creator)
    (hpublish : ∀ config bytes,
      (services.mSignalManager w.client).publish config bytes = .kSuccess)
    (hbehind : -1 ≤ d) (hahead : d ≤ 0) {server : FreshnessValueManagerImplServer}
    {es : List ServerEvent}
    (hstep : serverStep s.server (.mainFunction services) = .ok (server, es)) :
    ∃ b', Stage w ⟨⟨⟨server, s.participant⟩, s.toServer,
      es.filterMap (sentTo w.client s.participant) ++ s.toParticipant⟩,
      (s.announced (.serverTick services)).or s.broadcast⟩ (d + 1) b' ∧ b' ≤ b := by
  cases hstage with
  | near hnear =>
    obtain ⟨hholds, fv, m, n, hserver, hparticipant, hm, hn⟩ := hnear
    obtain ⟨start, g, hclock⟩ := hwired.server
    exact ⟨0, .near ⟨hholds, fv, m + 1, n, hserver.serverTick hclock hstep, hparticipant, by omega,
      by omega⟩, Nat.le_refl 0⟩
  | request hphase hpos hle =>
    obtain ⟨b', hphase', hle', hzero⟩ :=
      hphase.serverTick hwired hquiet hcreator hpublish hbehind hahead hstep
    exact ⟨0, .request hphase' (by omega) (by omega), Nat.le_refl 0⟩
  | told htold =>
    exact ⟨1, .told (htold.serverTick hwired hontime hahead hnone hbroadcasts hstep _ _),
      Nat.le_refl 1⟩
  | waits hholds hrank =>
    cases hneed : s.server.mNeedToBroadcastFv with
    | true =>
      have hone : ticksToBroadcast s.server = 1 := if_pos hneed
      exact ⟨1, .told (told_of_tick hwired hontime hbehind hahead hbroadcasts hstep hneed hholds
        _ _), by omega⟩
    | false =>
      have hnext := ticksToBroadcast_of_tick hontime hneed hbroadcasts hstep
      refine ⟨b, .waits hholds ?_, Nat.le_refl b⟩
      show (b : Int) = d + 1 + ticksToBroadcast server + 1
      omega
  | stale hphase hpos =>
    obtain ⟨b', hphase', hle', hzero⟩ :=
      hphase.serverTick hwired hquiet hcreator hpublish hbehind hahead hstep
    exact ⟨b' + 203, .stale hphase' (by omega), by omega⟩

section ParticipantTick

variable {csm : ICsmAccessor} {signals : ISignalManager}
variable {p : FreshnessValueManagerImplParticipant} {es : List ParticipantEvent}
variable {v : FvLink}

/-- A participant near the server stays there, or asks. -/
theorem Near.participantTick (hnear : Near s d) (hwired : Wired w s.toFvLink)
    (hstep : participantStep s.participant (.mainFunction csm signals) = .ok (p, es))
    (hserver : v.server = s.server) (hparticipant : v.participant = p) :
    Stage w ⟨v, s.broadcast⟩ (d - 1) 0 := by
  have hvalid : s.participant.mIsFvValid = true := hwired.valid_iff.mpr hnear.holds
  obtain ⟨hholds, fv, m, n, hshows, hshows', hm, hn⟩ := hnear
  rcases mainFunction_of_holds hwired.ready hholds hstep with hrequest | ⟨hidle, hbase, -⟩
  · rw [← hparticipant] at hrequest
    exact stage_of_request hrequest
  · refine .near ⟨?_, fv, m, n + 1, ?_, ?_, by omega, by omega⟩
    · show FreshnessValueState.HoldsFv v.participant.requestCycle.state
      rw [hparticipant]
      exact Or.inl hidle
    · show Shows v.server.toAFreshnessValueManagerImpl _ _
      rw [hserver]
      exact hshows
    · show Shows v.participant.toAFreshnessValueManagerImpl _ _
      rw [hparticipant, hbase]
      exact hshows'.incTimers_after hwired.ready.mInitialized hvalid

/-- A participant that compares is near the server, or asks. -/
theorem Told.participantTick (htold : Told s d) (hwired : Wired w s.toFvLink)
    (hnone : s.broadcast = none) (hahead : d ≤ 1) (hbelow : s.server.mFV.toNat < 2 ^ 56)
    (hbelow' : s.participant.mFV.toNat < 2 ^ 56)
    (hstep : participantStep s.participant (.mainFunction csm signals) = .ok (p, es))
    (toServer : Option ByteVector) (toParticipant : List (String × ByteVector)) :
    Stage w ⟨⟨⟨s.server, p⟩, toServer, toParticipant⟩, s.broadcast⟩ (d - 1) 0 := by
  have hvalid : s.participant.mIsFvValid = true := hwired.valid_iff.mpr htold.holds
  obtain ⟨hholds, fv, j, e, hserver, hpos, he, hj, htells⟩ := htold
  obtain ⟨g, hlineage⟩ := hwired.lineage
  obtain ⟨fv', -, hshows⟩ := hlineage.descends hvalid
  have hclock : s.participant.mClockCount.toNat = 5 * (callsSinceAdoption g % 20) :=
    hshows.mClockCount
  have hlt : callsSinceAdoption g % 20 < 20 := Nat.mod_lt _ (by decide)
  rcases mainFunction_of_holds hwired.ready hholds hstep with hrequest | ⟨hidle, hbase, hverdict⟩
  · exact stage_of_request hrequest
  · cases htells with
    | arrives value hsent => cases hnone.symm.trans hsent
    | compares _ hstate hvalue =>
      rw [hvalue] at hverdict
      have haccepts := hverdict hstate
        (inRange_of_shows hserver (by omega) hbelow hbelow' hclock hlt)
      exact .near (near_of_accepted hserver (by omega) he hj haccepts hclock hlt hwired.ready hvalid
        hbase (Or.inl hidle) _ _)

theorem Stage.participantTick (hstage : Stage w s d b) (hwired : Wired w s.toFvLink)
    (hbelow : s.server.mFV.toNat < 2 ^ 56) (hbelow' : s.participant.mFV.toNat < 2 ^ 56)
    (hquiet : s.Quiet) (hnone : s.broadcast = none) (hlead : 0 ≤ d) (hle : d ≤ 1)
    (hahead : due s.server + d ≤ 21)
    (hrandom : (csm.generateRandomBytes challengeLengthBytes).isOk = true)
    (hpublish : ∀ config bytes, signals.publish config bytes = .kSuccess)
    (haccepts : AcceptsTruncated w.creator w.keyId csm s.participant.mEcuKeyIdForFvDistribution)
    (hstep : participantStep s.participant (.mainFunction csm signals) = .ok (p, es))
    (hv : v = ⟨⟨s.server, p⟩, (es.findSome? (·.challenge?)).or s.toServer, s.toParticipant⟩) :
    ∃ b', Stage w ⟨v, s.broadcast⟩ (d - 1) b' ∧ (b' = 0 ∨ b' < b) := by
  subst hv
  have hpos := ticksToBroadcast_pos s.server
  have hmax := ticksToBroadcast_le s.server
  cases hstage with
  | near hnear => exact ⟨0, hnear.participantTick hwired hstep rfl rfl, Or.inl rfl⟩
  | told htold =>
    exact ⟨0, htold.participantTick hwired hnone hle hbelow hbelow' hstep _ _, Or.inl rfl⟩
  | waits hholds hrank =>
    rcases mainFunction_of_holds hwired.ready hholds hstep with hrequest | ⟨hidle, -, -⟩
    · exact ⟨0, stage_of_request hrequest, Or.inl rfl⟩
    · refine ⟨b - 1, .waits (Or.inl hidle) ?_, Or.inr (by omega)⟩
      show ((b - 1 : Nat) : Int) = d - 1 + ticksToBroadcast s.server + 1
      omega
  | request hphase hpos' hle' =>
    have hlost := hphase.not_holdsFv hpos'
    rcases hphase.participantTick hwired hquiet hlead hahead hrandom hpublish haccepts hstep with
      hholds | ⟨b', hphase', hpos'', hdown⟩
    · rcases hphase.adoption hpos' hwired hquiet hrandom hpublish hstep hholds with
        hlarge | ⟨fv, hsigned, hvalue⟩
      · omega
      · exact ⟨0, .near (.of_settled (settled_of_adoption hwired hbelow hsigned hle hnone hvalue
          hlost hstep hholds _ _)), Or.inl rfl⟩
    · exact ⟨0, .request hphase' hpos'' (by omega), Or.inl rfl⟩
  | stale hphase hpos' =>
    rcases hphase.participantTick hwired hquiet hlead hahead hrandom hpublish haccepts hstep with
      hholds | ⟨b', hphase', hpos'', hdown⟩
    · refine ⟨(d + ticksToBroadcast s.server).toNat, .waits hholds ?_, Or.inr (by omega)⟩
      show ((d + ticksToBroadcast s.server).toNat : Int) = d - 1 + ticksToBroadcast s.server + 1
      omega
    · exact ⟨b' + 203, .stale hphase' hpos'', Or.inr (by omega)⟩

end ParticipantTick

/-- The stage with what stays. -/
structure OnTheWay (w : Wiring) (s : BroadcastLink) (h : List FvLinkEvent) (b : Nat) : Prop where
  wired : Wired w s.toFvLink
  paced : Paced s.toFvLink h
  ontime : BroadcastsOnTime s.server
  stage : Stage w s (lead h) b

/-- A tick of the participant, as a mark. -/
def FvLinkEvent.participant (e : FvLinkEvent) : Bool :=
  e.tick.isSome

/-- Nothing but a tick of the participant takes it further, and nothing takes it back. -/
theorem OnTheWay.step (hway : OnTheWay w s h b) {op : BroadcastLinkOp} {es : List FvLinkEvent}
    (hmeets : HonestBelowLimit w s h op) (hstep : broadcastLinkStep w s op = .ok (s', es)) :
    ∃ b', OnTheWay w s' (es ++ h) b' ∧ (b' = 0 ∨ es.countP (·.participant) + b' ≤ b) := by
  obtain ⟨hwired, hpaced, hontime, hstage⟩ := hway
  obtain ⟨hhonest, hbelow'⟩ := hmeets
  have hnoTick : ¬ op.IsTick →
      ∃ b', OnTheWay w s' (es ++ h) b' ∧ (b' = 0 ∨ es.countP (·.participant) + b' ≤ b) := by
    intro hop
    obtain ⟨rfl, hstill⟩ := still_of_step hwired hontime hop hhonest hstep
    obtain ⟨b', hstage', hle⟩ := hstage.of_still hwired.ready hstill
    refine ⟨b', ⟨hstill.wired, hpaced.of_due hstill.due, hstill.ontime, hstage'⟩, Or.inr ?_⟩
    show 0 + b' ≤ b
    omega
  cases op with
  | deliverBroadcast => exact hnoTick id
  | link op =>
    cases op with
    | serverTick services =>
      obtain ⟨hbelow, ⟨hquiet, hlead, hcreator, hpublish⟩, hnone, hbroadcasts⟩ := hhonest
      obtain ⟨next, hnext, heq⟩ := exists_of_map_ok hstep
      obtain ⟨ret, hserver, hnext'⟩ := exists_of_map_ok hnext
      cases hnext'
      cases heq
      obtain ⟨b', hstage', hle⟩ := hstage.serverTick hwired hontime hquiet hnone hbroadcasts
        hcreator hpublish hpaced.behind hlead hserver
      refine ⟨b', ⟨hwired.atServer hserver _ _, hpaced.serverTick hwired hlead hserver _ _,
        hontime.step hbelow hserver fun ret' hmem =>
          kSuccess_of_broadcasts hontime.mInitialized hbroadcasts hserver hmem, ?_⟩, Or.inr ?_⟩
      · rw [List.singleton_append, lead_serverTicked]
        exact hstage'
      · rw [List.countP_singleton]
        show 0 + b' ≤ b
        omega
    | participantTick csm signals =>
      obtain ⟨hbelow, ⟨hquiet, hlead, hrandom, hpublish, haccepts⟩, hnone⟩ := hhonest
      obtain ⟨next, hnext, heq⟩ := exists_of_map_ok hstep
      obtain ⟨ret, hparticipant, hnext'⟩ := exists_of_map_ok hnext
      cases hnext'
      cases heq
      obtain ⟨b', hstage', hdown⟩ := hstage.participantTick hwired hbelow hbelow' hquiet hnone
        hlead hpaced.ahead hpaced.answered hrandom hpublish haccepts hparticipant rfl
      refine ⟨b', ⟨hwired.atParticipant hparticipant _ _,
        hpaced.participantTick hlead _ _ _ _, hontime, ?_⟩, ?_⟩
      · rw [List.singleton_append, lead_participantTicked]
        exact hstage'
      · rw [List.countP_singleton]
        show b' = 0 ∨ 1 + b' ≤ b
        omega
    | _ => exact hnoTick id

/-! ## The bound -/

/-- The way at the start. -/
theorem BroadcastLinked.onTheWay (hlinked : BroadcastLinked w s) :
    ∃ b, OnTheWay w s [] b ∧ b ≤ 278 ∧
      (¬ s.participant.requestCycle.Outstanding → b ≤ 202) := by
  have hwired := hlinked.wired
  have hmax := ticksToBroadcast_le s.server
  obtain ⟨state, hcurrent⟩ := Option.isSome_iff_exists.mp hwired.ready.current
  have hstate : s.participant.requestCycle.state = some state := hcurrent
  have hway : ∀ {b}, Stage w s 0 b → OnTheWay w s [] b := by
    intro b hstage
    exact ⟨hwired, paced_nil, hlinked.ontime, hstage⟩
  have hwaits : FreshnessValueState.HoldsFv s.participant.requestCycle.state →
      ∃ b, OnTheWay w s [] b ∧ b ≤ 278 ∧
        (¬ s.participant.requestCycle.Outstanding → b ≤ 202) := by
    intro hholds
    refine ⟨ticksToBroadcast s.server + 1, hway (.waits hholds ?_), by omega, fun _ => by omega⟩
    omega
  have hstale : s.participant.requestCycle.Outstanding →
      ∃ b, OnTheWay w s [] b ∧ b ≤ 278 ∧
        (¬ s.participant.requestCycle.Outstanding → b ≤ 202) := by
    intro houtstanding
    refine ⟨_, hway (.stale (.stale 1 1 houtstanding hlinked.quiet.1 (fun _ => Nat.one_pos)
      fun _ => Nat.one_pos) (by omega)), by omega, fun h => absurd houtstanding h⟩
  cases state with
  | requestFV => exact ⟨0, hway (stage_of_request hstate), by decide, fun _ => by decide⟩
  | fvInProgress => exact hstale (Or.inl hstate)
  | processFV => exact hstale (Or.inr hstate)
  | processAnauthFV => exact hwaits (Or.inr hstate)
  | idle => exact hwaits (Or.inl hstate)

/-- **The drift is bounded.**  A participant comes into a link that works with any
freshness value.  After 278 of its ticks, or 202 when no request is outstanding at the
start, its freshness value is at most one behind that of the server and at most two
ahead, whenever it is valid. -/
theorem drift_bounded (hlinked : BroadcastLinked w s₀)
    (hrun : Run (broadcastLinkStep w) (HonestBelowLimit w) s₀ [] s h)
    (hlong : 278 ≤ participantTicked h ∨
      ¬ s₀.participant.requestCycle.Outstanding ∧ 202 ≤ participantTicked h)
    (hvalid : s.participant.mIsFvValid = true) :
    s.participant.mFV ∈
      [s.server.mFV - 1, s.server.mFV, s.server.mFV + 1, s.server.mFV + 2] := by
  obtain ⟨b₀, hstart, hle, hidle⟩ := hlinked.onTheWay
  have hticks : b₀ ≤ h.countP (·.participant) := by
    show b₀ ≤ participantTicked h
    rcases hlong with hlong | ⟨houtstanding, hlong⟩
    · omega
    · have hearly := hidle houtstanding
      omega
  obtain ⟨hwired, hpaced, -, hstage⟩ := hrun.settles hstart
    (fun hway hmeets hstep => hway.step hmeets hstep) hticks
  have hholds := hwired.valid_iff.mp hvalid
  have hbehind := hpaced.behind
  have hahead := hpaced.ahead
  cases hstage with
  | near hnear => exact hnear.mFV hbehind hahead
  | request hphase hpos => exact absurd hholds (hphase.not_holdsFv hpos)
  | waits _ hrank =>
    have hpos := ticksToBroadcast_pos s.server
    omega

/-! ## The bound is reached -/

/-- The participant adopts the freshness value after that of the server, and goes on
alone for the rest of its period. -/
def goesAhead : List ParticipantOp :=
  [.mainFunction zeroDigestCsm reliableSignals,
    .incomingAuthFvSignal (valueName firstParticipant) [0, 7, 7, 7, 7, 7, 7, 8],
    .incomingAuthFvSignal (signatureName firstParticipant) (.replicate 8 0)] ++
  List.replicate 19 (.mainFunction zeroDigestCsm reliableSignals)

def aheadParticipant : FreshnessValueManagerImplParticipant :=
  (execState participantStep firstParticipant [] goesAhead).1

def aheadLink : BroadcastLink :=
  ⟨⟨⟨firstServer, aheadParticipant⟩, none, []⟩, none⟩

theorem linked_aheadLink : BroadcastLinked wiringOfSink aheadLink :=
  ⟨⟨firstServer, [], firstInit_firstServer, .refl, nofun⟩,
    ⟨firstParticipant, _, firstInit_firstParticipant,
      .of_execState goesAhead (execMeets_anything _) (by decide +kernel)⟩,
    by decide +kernel, by decide +kernel, ⟨rfl, rfl⟩, rfl, fun h => absurd h (by decide +kernel)⟩

/-- A tick of each party, the server first. -/
def serverFirstRound : List BroadcastLinkOp :=
  [.link FvLinkMove.serverTick.input, .deliverBroadcast, .link FvLinkMove.participantTick.input]

def TimelyBelowLimit : Guard BroadcastLink BroadcastLinkOp FvLinkEvent := fun s h op =>
  TimelyBroadcasts s h op ∧ s.participant.mFV.toNat < 2 ^ 56

instance (s : BroadcastLink) (h : List FvLinkEvent) : DecidablePred (TimelyBelowLimit s h) :=
  fun _ => inferInstanceAs (Decidable (_ ∧ _))

/-- A participant that comes in 39 ticks ahead stays two freshness values ahead: the
broadcasts do not find it too far away. -/
theorem drift_bounded_reached :
    ∃ s h, Run (broadcastLinkStep wiringOfSink) (HonestBelowLimit wiringOfSink) aheadLink [] s h ∧
      202 ≤ participantTicked h ∧ s.participant.mFV = s.server.mFV + 2 ∧
      s.participant.mFV ∈
        [s.server.mFV - 1, s.server.mFV, s.server.mFV + 1, s.server.mFV + 2] := by
  let inputs := (List.replicate 202 serverFirstRound).flatten
  have hexec : ((exec (broadcastLinkStep wiringOfSink) aheadLink [] inputs).toOption.map
      fun ret => (decide (202 ≤ participantTicked ret.2), ret.1.participant.mIsFvValid,
        decide (ret.1.participant.mFV = ret.1.server.mFV + 2))) = some (true, true, true) := by
    decide +kernel
  cases hret : exec (broadcastLinkStep wiringOfSink) aheadLink [] inputs with
  | error fault =>
    rw [hret] at hexec
    cases hexec
  | ok ret =>
    rw [hret] at hexec
    obtain ⟨hlong, hrest⟩ := Prod.mk.inj (Option.some.inj hexec)
    obtain ⟨hvalid, htwo⟩ := Prod.mk.inj hrest
    have hmeets : execMeets (broadcastLinkStep wiringOfSink) TimelyBelowLimit aheadLink []
        inputs = true := by decide +kernel
    have hrun : Run (broadcastLinkStep wiringOfSink) (HonestBelowLimit wiringOfSink) aheadLink []
        ret.1 ret.2 := by
      refine .of_exec_of_imp ?_ hmeets hret
      intro op hop s h htimely
      obtain ⟨round, hround, hmem⟩ := List.mem_flatten.mp hop
      rw [List.eq_of_mem_replicate hround] at hmem
      have hmem' : op ∈ broadcastRound := by
        simp only [serverFirstRound, List.mem_cons, List.not_mem_nil, or_false] at hmem
        simp only [broadcastRound, List.mem_cons]
        rcases hmem with rfl | rfl | rfl
        · simp
        · simp
        · simp
      exact ⟨honestLink_of_timely hmem' htimely.1, htimely.2⟩
    have hidle : aheadLink.participant.requestCycle.state = some .idle := by decide +kernel
    have hbound := drift_bounded linked_aheadLink hrun (Or.inr
      ⟨RequestCycle.not_outstanding hidle (by decide), of_decide_eq_true hlong⟩) hvalid
    exact ⟨ret.1, ret.2, hrun, of_decide_eq_true hlong, of_decide_eq_true htwo, hbound⟩

end Sok.Fvm
