import SokFvm.Fvm.BroadcastLink

/-!
# A participant keeps what it was sent

`Recovery` bounds the ticks without a freshness value in a row, whatever the
participant hears in broadcasts.  In a link with the broadcasts of its server it loses a
freshness value of the server no more.

A freshness value that the participant adopts in such a link is that of the server, and
stays as far behind as the parties are apart: `Settled`.  A broadcast finds a settled
participant within the maximal jitter, so it is kept.  A participant that came into the
run with another freshness value can lose it once, and is settled after that.  So the
ticks without a freshness value are bounded for the whole run, by a budget: `Budget` is
the phase of the request, less the tick that ends it, and what one loss costs as long as
it may come.
-/

namespace Sok.Fvm

open Sok.Common StateMachine Cadence FreshnessValueManagerImplServer
open FreshnessValueManagerImplParticipant

variable {w : Wiring} {s s' s₀ : BroadcastLink} {h : List FvLinkEvent} {d : Int}

/-! ## A settled participant -/

/-- A broadcast that the server made in the tick before last, at the earliest, when it
had moved on `q` times since it showed `fv`; now it has ticked `m` times since. -/
def Recent (fv : UInt64) (m : Nat) (d : Int) (value : ByteVector) : Prop :=
  ∃ q e : Nat, e ≤ 1 ∧ (m : Int) = 20 * q + d + e ∧ byteVectorToUint value = fv + UInt64.ofNat q

/-- Since a time when both showed `fv`, the server has ticked `m` times and the
participant `n` times. -/
structure SettledAt (s : BroadcastLink) (d : Int) (fv : UInt64) (m n o : Nat) : Prop where
  holds : FreshnessValueState.HoldsFv s.participant.requestCycle.state
  server : Shows s.server.toAFreshnessValueManagerImpl fv (after ticksPerIncrement m)
  participant : Shows s.participant.toAFreshnessValueManagerImpl fv (after ticksPerIncrement n)
  o_le : o ≤ 1
  apart : (m : Int) = n + d + o
  compares : s.participant.requestCycle.state = some .processAnauthFV →
    Recent fv m d s.participant.mUnAuthFv
  arrives : ∀ value, s.broadcast = some value → Recent fv m d value

/-- The participant has the freshness value of the server. -/
def Settled (s : BroadcastLink) (d : Int) : Prop :=
  ∃ fv m n o, SettledAt s d fv m n o

variable {fv : UInt64} {m n o : Nat}

theorem Recent.tick {value : ByteVector} (hrecent : Recent fv m d value) :
    Recent fv (m + 1) (d + 1) value := by
  obtain ⟨q, e, he, hm, hvalue⟩ := hrecent
  exact ⟨q, e, he, by omega, hvalue⟩

/-- A broadcast comes from a clock that stands at zero. -/
theorem recent_of_announced {services : ServerServices} {value : ByteVector}
    {server : FreshnessValueManagerImplServer} {es : List ServerEvent}
    (hserver : Shows s.server.toAFreshnessValueManagerImpl fv (after ticksPerIncrement m))
    (hontime : BroadcastsOnTime s.server) (hbehind : -1 ≤ d) (hahead : d ≤ 0)
    (hpublish : ∀ config bytes, services.broadcastSignals.publish config bytes = .kSuccess)
    (hstep : serverStep s.server (.mainFunction services) = .ok (server, es))
    (hannounced : s.announced (.serverTick services) = some value) :
    Recent fv (m + 1) (d + 1) value := by
  rw [announced_eq hontime.mInitialized hpublish hstep] at hannounced
  split at hannounced
  · rename_i hneed
    have hzero := hontime.mClockCount hneed
    have hphase : s.server.mClockCount.toNat = 5 * (m % 20) := hserver.mClockCount
    have hfv : s.server.mFV = fv + UInt64.ofNat (m / 20) := hserver.mFV
    refine ⟨m / 20, (-d).toNat, by omega, by omega, ?_⟩
    rw [← Option.some.inj hannounced, ← hfv]
    exact byteVectorToUint_uintToByteVector _
  · cases hannounced

theorem SettledAt.serverTick (hsettled : SettledAt s d fv m n o) (hwired : Wired w s.toFvLink)
    (hontime : BroadcastsOnTime s.server) (hbehind : -1 ≤ d) (hahead : d ≤ 0)
    (hnone : s.broadcast = none) {services : ServerServices}
    (hbroadcasts : ∀ config bytes, services.broadcastSignals.publish config bytes = .kSuccess)
    {server : FreshnessValueManagerImplServer} {es : List ServerEvent}
    (hstep : serverStep s.server (.mainFunction services) = .ok (server, es))
    (toServer : Option ByteVector) (toParticipant : List (String × ByteVector)) :
    SettledAt ⟨⟨⟨server, s.participant⟩, toServer, toParticipant⟩,
      (s.announced (.serverTick services)).or s.broadcast⟩ (d + 1) fv (m + 1) n o := by
  obtain ⟨start, g, hclock⟩ := hwired.server
  refine ⟨hsettled.holds, hsettled.server.serverTick hclock hstep, hsettled.participant,
    hsettled.o_le, ?_, fun hstate => (hsettled.compares hstate).tick, ?_⟩
  · have hapart := hsettled.apart
    omega
  · intro value hvalue
    rw [hnone, Option.or_none] at hvalue
    exact recent_of_announced hsettled.server hontime hbehind hahead hbroadcasts hstep hvalue

/-- A tick of the participant, which finds a broadcast close enough. -/
theorem SettledAt.participantTick (hsettled : SettledAt s d fv m n o)
    (hwired : Wired w s.toFvLink) (hnone : s.broadcast = none) {csm : ICsmAccessor}
    {signals : ISignalManager} {p : FreshnessValueManagerImplParticipant}
    {es : List ParticipantEvent}
    (hstep : participantStep s.participant (.mainFunction csm signals) = .ok (p, es))
    (toServer : Option ByteVector) (toParticipant : List (String × ByteVector)) :
    SettledAt ⟨⟨⟨s.server, p⟩, toServer, toParticipant⟩, s.broadcast⟩ (d - 1) fv m (n + 1) o := by
  have hapart := hsettled.apart
  have hready := hwired.ready
  obtain ⟨ret, hresult⟩ := mainFunction_of_step hstep
  obtain ⟨state, result, hstate, haction, hresult'⟩ := mainFunction_cases hready hresult
  have hp : p = result.2.1.incTimers := congrArg (·.2.1) hresult'
  have hvalid : s.participant.mIsFvValid = true := hwired.valid_iff.mpr hsettled.holds
  have hnext : result.2.1.requestCycle.state = some .idle ∧
      result.2.1.toAFreshnessValueManagerImpl = s.participant.toAFreshnessValueManagerImpl := by
    rcases hsettled.holds with hidle | hcompares
    · cases Option.some.inj (hstate.symm.trans hidle)
      cases Except.ok.inj haction
      exact ⟨hidle, rfl⟩
    · cases Option.some.inj (hstate.symm.trans hcompares)
      obtain ⟨q, e, he, hm, hvalue⟩ := hsettled.compares hcompares
      have ho := hsettled.o_le
      have hclose := processAnUnauthenticFv_of_close hsettled.participant (q := q) (by omega)
        (by omega) hvalue
      have haction' : s.participant.processAnUnauthenticFv = .ok result := haction
      cases Except.ok.inj (hclose.symm.trans haction')
      exact ⟨state_transiteTo hready rfl _, rfl⟩
  have hidle : p.requestCycle.state = some .idle := by
    rw [hp]
    exact hnext.1
  refine ⟨Or.inl hidle, hsettled.server, ?_, hsettled.o_le, by omega, ?_, ?_⟩
  · show Shows p.toAFreshnessValueManagerImpl fv _
    rw [hp]
    show Shows result.2.1.toAFreshnessValueManagerImpl.incTimers fv _
    rw [hnext.2]
    exact hsettled.participant.incTimers_after hready.mInitialized hvalid
  · intro hcompares
    cases hidle.symm.trans hcompares
  · intro value hvalue
    cases hnone.symm.trans hvalue

/-- An input that is no tick leaves the clocks alone, and the broadcasts stay recent. -/
theorem SettledAt.of_still (hsettled : SettledAt s d fv m n o) (hstill : Still w s s') :
    SettledAt s' d fv m n o := by
  refine ⟨hstill.holds.mpr hsettled.holds, hsettled.server.of_sameContext hstill.server,
    hsettled.participant.of_sameContext hstill.participant, hsettled.o_le, hsettled.apart, ?_, ?_⟩
  · intro hcompares
    cases hstill.news with
    | keeps hbroadcast hstate hvalue =>
      rw [hvalue]
      exact hsettled.compares (hstate.mp hcompares)
    | arrives value hvalue hnone hparticipant =>
      rw [hparticipant] at hcompares ⊢
      unfold incomingUnAuthFvSignalsCb at hcompares ⊢
      split at hcompares
      · rename_i hname
        rw [if_pos hname]
        exact hsettled.arrives value hvalue
      · rename_i hname
        rw [if_neg hname]
        exact hsettled.compares hcompares
  · intro value hvalue
    cases hstill.news with
    | keeps hbroadcast =>
      rw [hbroadcast] at hvalue
      exact hsettled.arrives value hvalue
    | arrives _ _ hnone => cases hnone.symm.trans hvalue

/-! ## An adoption -/

variable {b : Nat}

/-- A request ends with an adoption when its answer is verified, or, of the requests
that were there before the run, when one verifies that came earlier. -/
theorem Phase.adoption {v : FvLink} (hphase : Phase w v d b) (hpos : 0 < b) (hwired : Wired w v)
    (hquiet : v.Quiet) {csm : ICsmAccessor} {signals : ISignalManager}
    {p : FreshnessValueManagerImplParticipant} {es : List ParticipantEvent}
    (hrandom : (csm.generateRandomBytes challengeLengthBytes).isOk = true)
    (hpublish : ∀ config bytes, signals.publish config bytes = .kSuccess)
    (hstep : participantStep v.participant (.mainFunction csm signals) = .ok (p, es))
    (hholds : FreshnessValueState.HoldsFv p.requestCycle.state) :
    23 ≤ b ∨ ∃ fv, SignedAt v.server fv d ∧
      v.participant.requestCycle.value = 0 :: uintToByteVectorTrim fv 7 := by
  have hnotHolds : ∀ state, state ≠ .idle → state ≠ .processAnauthFV →
      p.requestCycle.state ≠ some state := by
    intro state hidle hcompares hstate
    rcases hholds with h | h
    · exact hidle (Option.some.inj (hstate.symm.trans h))
    · exact hcompares (Option.some.inj (hstate.symm.trans h))
  have hwaits : v.participant.requestCycle.state ≠ some .fvInProgress := by
    intro hstate
    obtain ⟨-, ⟨-, hnext⟩ | ⟨-, hnext⟩⟩ := (requestCycle_step hwired.ready hstep).step.waits
      (mainFunctionCompleted_mem hwired.ready hstep) hstate
    · refine hnotHolds .fvInProgress (by decide) (by decide) ?_
      rw [hnext]
      exact hstate
    · exact hnotHolds .requestFV (by decide) (by decide) hnext
  cases hphase with
  | valid => exact absurd hpos (Nat.lt_irrefl 0)
  | request hstate =>
    obtain ⟨challenge, -, hcycle⟩ :=
      published_of_request hwired.ready hstate hrandom hpublish hstep
    refine absurd ?_ (hnotHolds .fvInProgress (by decide) (by decide))
    rw [hcycle]
  | asked hstate => exact absurd hstate hwaits
  | booked n hstate => exact absurd hstate hwaits
  | answered fv mac _ _ _ _ hsigned harrives =>
    refine Or.inr ⟨fv, hsigned, ?_⟩
    rw [hquiet.2] at harrives
    generalize hsignals : ([] : List (String × ByteVector)) = inFlight at harrives
    cases harrives with
    | both => cases hsignals
    | value => cases hsignals
    | signature => cases hsignals
    | none _ hvalue => exact hvalue
  | stale i j => exact Or.inl (by omega)

/-- The participant has adopted what the server signed. -/
theorem settled_of_adoption (hwired : Wired w s.toFvLink) (hbelow : s.server.mFV.toNat < 2 ^ 56)
    (hsigned : SignedAt s.server fv d) (hahead : d ≤ 1) (hnone : s.broadcast = none)
    (hvalue : s.participant.requestCycle.value = 0 :: uintToByteVectorTrim fv 7)
    (hlost : ¬ FreshnessValueState.HoldsFv s.participant.requestCycle.state)
    {csm : ICsmAccessor} {signals : ISignalManager} {p : FreshnessValueManagerImplParticipant}
    {es : List ParticipantEvent}
    (hstep : participantStep s.participant (.mainFunction csm signals) = .ok (p, es))
    (hholds : FreshnessValueState.HoldsFv p.requestCycle.state)
    (toServer : Option ByteVector) (toParticipant : List (String × ByteVector)) :
    Settled ⟨⟨⟨s.server, p⟩, toServer, toParticipant⟩, s.broadcast⟩ (d - 1) := by
  obtain ⟨m, o, ho, hm, hserver⟩ := hsigned
  -- the value is the one that the server still shows, and fits into the answer
  have hfv : s.server.mFV = fv := by
    have hmoved : s.server.mFV = fv + UInt64.ofNat (m / 20) := hserver.mFV
    rw [show m / 20 = 0 by omega] at hmoved
    exact hmoved.trans (UInt64.add_zero _)
  have hadopted : byteVectorToUint s.participant.mCrAuthFvAndMac.1 = fv := by
    rw [show s.participant.mCrAuthFvAndMac.1 = _ from hvalue]
    exact byteVectorToUint_zero_cons_trim (by rw [← hfv]; exact hbelow)
  cases fvStep_of_step hwired.ready hstep with
  | adopts csm' signals' hop hverified hes hbase hstate =>
    refine ⟨fv, m, 1, o, Or.inl hstate, hserver, ?_, ho, by omega, ?_, ?_⟩
    · have hzero : Shows (s.participant.toAFreshnessValueManagerImpl.adoptFv fv) fv
          (after ticksPerIncrement 0) := ⟨(UInt64.add_zero _).symm, rfl⟩
      show Shows p.toAFreshnessValueManagerImpl fv _
      rw [hbase, hadopted]
      exact hzero.incTimers_after hwired.ready.mInitialized rfl
    · intro hcompares
      cases hstate.symm.trans hcompares
    · intro value hsome
      cases hnone.symm.trans hsome
  | invalidates hop hfrom => exact absurd (Or.inr hfrom) hlost
  | ticks hop hadoption hcompleted hbase hstate => exact absurd (hstate.mp hholds) hlost
  | calls hop => exact absurd rfl (hop csm signals)

/-! ## The budget -/

/-- The ticks without a freshness value that may still come. -/
inductive Budget (w : Wiring) (s : BroadcastLink) (d : Int) : Nat → Prop
  | settled (hsettled : Settled s d) : Budget w s d 0
  /-- It has another freshness value, and may lose it. -/
  | other (hholds : FreshnessValueState.HoldsFv s.participant.requestCycle.state) : Budget w s d 22
  | request {t : Nat} (hphase : Phase w s.toFvLink d (t + 1)) : Budget w s d t

/-- The budget with what stays. -/
structure Account (w : Wiring) (s : BroadcastLink) (h : List FvLinkEvent) (t : Nat) : Prop where
  wired : Wired w s.toFvLink
  paced : Paced s.toFvLink h
  ontime : BroadcastsOnTime s.server
  budget : Budget w s (lead h) t

/-- A request goes on. -/
theorem budget_of_noLater {v : FvLink} {broadcast : Option ByteVector} {t : Nat}
    (hnext : NoLater w v d (t + 1)) : ∃ t', Budget w ⟨v, broadcast⟩ d t' ∧ t' ≤ t := by
  obtain ⟨b, hphase, hle, hzero⟩ := hnext
  cases b with
  | zero => exact absurd (hzero rfl) (Nat.succ_ne_zero t)
  | succ t' => exact ⟨t', .request hphase, Nat.le_of_succ_le_succ hle⟩

variable {t : Nat}

theorem Budget.serverTick (hbudget : Budget w s d t) (hwired : Wired w s.toFvLink)
    (hontime : BroadcastsOnTime s.server) (hquiet : s.Quiet) (hnone : s.broadcast = none)
    {services : ServerServices}
    (hbroadcasts : ∀ config bytes, services.broadcastSignals.publish config bytes = .kSuccess)
    (hcreator : services.mCsmAccessor w.client = w.creator)
    (hpublish : ∀ config bytes,
      (services.mSignalManager w.client).publish config bytes = .kSuccess)
    (hbehind : -1 ≤ d) (hahead : d ≤ 0) {server : FreshnessValueManagerImplServer}
    {es : List ServerEvent}
    (hstep : serverStep s.server (.mainFunction services) = .ok (server, es)) :
    ∃ t', Budget w ⟨⟨⟨server, s.participant⟩, s.toServer,
      es.filterMap (sentTo w.client s.participant) ++ s.toParticipant⟩,
      (s.announced (.serverTick services)).or s.broadcast⟩ (d + 1) t' ∧ t' ≤ t := by
  cases hbudget with
  | settled hsettled =>
    obtain ⟨fv, m, n, o, hsettled⟩ := hsettled
    exact ⟨0, .settled ⟨fv, m + 1, n, o,
      hsettled.serverTick hwired hontime hbehind hahead hnone hbroadcasts hstep _ _⟩, Nat.le_refl 0⟩
  | other hholds => exact ⟨22, .other hholds, Nat.le_refl 22⟩
  | request hphase =>
    exact budget_of_noLater
      (hphase.serverTick hwired hquiet hcreator hpublish hbehind hahead hstep)

theorem Budget.participantTick (hbudget : Budget w s d t) (hwired : Wired w s.toFvLink)
    (hbelow : s.server.mFV.toNat < 2 ^ 56) (hquiet : s.Quiet) (hnone : s.broadcast = none)
    (hlead : 0 ≤ d) (hahead : due s.server + d ≤ 21) {csm : ICsmAccessor}
    {signals : ISignalManager}
    (hrandom : (csm.generateRandomBytes challengeLengthBytes).isOk = true)
    (hpublish : ∀ config bytes, signals.publish config bytes = .kSuccess)
    (haccepts : AcceptsTruncated w.creator w.keyId csm s.participant.mEcuKeyIdForFvDistribution)
    (hle : d ≤ 1) {p : FreshnessValueManagerImplParticipant} {es : List ParticipantEvent}
    (hstep : participantStep s.participant (.mainFunction csm signals) = .ok (p, es))
    {v : FvLink} (hv : v = ⟨⟨s.server, p⟩, (es.findSome? (·.challenge?)).or s.toServer,
      s.toParticipant⟩) :
    ∃ t', Budget w ⟨v, s.broadcast⟩ (d - 1) t' ∧
      (FreshnessValueState.HoldsFv p.requestCycle.state ∧ t' ≤ t ∨ t' + 1 ≤ t) := by
  subst hv
  cases hbudget with
  | settled hsettled =>
    obtain ⟨fv, m, n, o, hsettled⟩ := hsettled
    have hnext := hsettled.participantTick hwired hnone hstep
      ((es.findSome? (·.challenge?)).or s.toServer) s.toParticipant
    exact ⟨0, .settled ⟨fv, m, n + 1, o, hnext⟩, Or.inl ⟨hnext.holds, Nat.le_refl 0⟩⟩
  | other hholds =>
    rcases (requestCycle_step hwired.ready hstep).step.compares
      (mainFunctionCompleted_mem hwired.ready hstep) hholds with hstate | hstate
    · exact ⟨22, .other (Or.inl hstate), Or.inl ⟨Or.inl hstate, Nat.le_refl 22⟩⟩
    · exact ⟨21, .request (.request hstate), Or.inr (Nat.le_refl 22)⟩
  | request hphase =>
    have hlost := hphase.not_holdsFv (Nat.succ_pos t)
    rcases hphase.participantTick hwired hquiet hlead hahead hrandom hpublish haccepts hstep with
      hholds | ⟨b, hphase', hpos, hdown | ⟨hzero, -⟩⟩
    · rcases hphase.adoption (Nat.succ_pos t) hwired hquiet hrandom hpublish hstep hholds with
        hlarge | ⟨fv, hsigned, hvalue⟩
      · exact ⟨22, .other hholds, Or.inl ⟨hholds, by omega⟩⟩
      · exact ⟨0, .settled (settled_of_adoption hwired hbelow hsigned hle hnone hvalue hlost hstep
          hholds _ _), Or.inl ⟨hholds, Nat.zero_le t⟩⟩
    · cases b with
      | zero => exact absurd hpos (Nat.lt_irrefl 0)
      | succ t' => exact ⟨t', .request hphase', Or.inr (by omega)⟩
    · exact absurd hzero (Nat.succ_ne_zero t)

/-- A tick without a freshness value. -/
def FvLinkEvent.lost (e : FvLinkEvent) : Bool :=
  e.tick == some false

variable {es : List FvLinkEvent}

theorem Account.serverTick (haccount : Account w s h t) {services : ServerServices}
    (hmeets : HonestLink w s h (.link (.serverTick services)))
    (hstep : broadcastLinkStep w s (.link (.serverTick services)) = .ok (s', es)) :
    ∃ t', Account w s' (es ++ h) t' ∧ es.countP (·.lost) + t' ≤ t := by
  obtain ⟨hbelow, ⟨hquiet, hlead, hcreator, hpublish⟩, hnone, hbroadcasts⟩ := hmeets
  obtain ⟨hwired, hpaced, hontime, hbudget⟩ := haccount
  obtain ⟨next, hnext, heq⟩ := exists_of_map_ok hstep
  obtain ⟨ret, hserver, hnext'⟩ := exists_of_map_ok hnext
  cases hnext'
  cases heq
  obtain ⟨t', hbudget', hle⟩ := hbudget.serverTick hwired hontime hquiet hnone hbroadcasts hcreator
    hpublish hpaced.behind hlead hserver
  obtain ⟨start, g, hclock⟩ := hwired.server
  refine ⟨t', ⟨hwired.atServer hserver _ _, hpaced.serverTick hwired hlead hserver _ _,
    hontime.step hbelow hserver fun ret' hmem =>
      kSuccess_of_broadcasts hclock.mInitialized hbroadcasts hserver hmem, ?_⟩, ?_⟩
  · rw [List.singleton_append, lead_serverTicked]
    exact hbudget'
  · rw [List.countP_singleton]
    show 0 + t' ≤ t
    omega

theorem Account.participantTick (haccount : Account w s h t) {csm : ICsmAccessor}
    {signals : ISignalManager}
    (hmeets : HonestLink w s h (.link (.participantTick csm signals)))
    (hstep : broadcastLinkStep w s (.link (.participantTick csm signals)) = .ok (s', es)) :
    ∃ t', Account w s' (es ++ h) t' ∧ es.countP (·.lost) + t' ≤ t := by
  obtain ⟨hbelow, ⟨hquiet, hlead, hrandom, hpublish, haccepts⟩, hnone⟩ := hmeets
  obtain ⟨hwired, hpaced, hontime, hbudget⟩ := haccount
  obtain ⟨next, hnext, heq⟩ := exists_of_map_ok hstep
  obtain ⟨ret, hparticipant, hnext'⟩ := exists_of_map_ok hnext
  cases hnext'
  cases heq
  have hwired' := hwired.atParticipant hparticipant
    ((ret.2.findSome? (·.challenge?)).or s.toServer) s.toParticipant
  obtain ⟨t', hbudget', hpaid⟩ := hbudget.participantTick hwired hbelow hquiet hnone hlead
    hpaced.answered hrandom hpublish haccepts hpaced.ahead hparticipant rfl
  refine ⟨t', ⟨hwired', hpaced.participantTick hlead _ _ _ _, hontime, ?_⟩, ?_⟩
  · rw [List.singleton_append, lead_participantTicked]
    exact hbudget'
  · rw [List.countP_singleton]
    rcases hpaid with ⟨hholds, hle⟩ | hle
    · have hvalid : ret.1.mIsFvValid = true := hwired'.valid_iff.mpr hholds
      rw [show FvLinkEvent.lost (.participantTicked ret.1.mIsFvValid) = false by
        rw [hvalid]
        rfl]
      show 0 + t' ≤ t
      omega
    · split
      · omega
      · omega

theorem Account.of_still (haccount : Account w s h t) (hstill : Still w s s') :
    ∃ t', Account w s' h t' ∧ t' ≤ t := by
  obtain ⟨-, hpaced, -, hbudget⟩ := haccount
  have hnext : ∃ t', Budget w s' (lead h) t' ∧ t' ≤ t := by
    cases hbudget with
    | settled hsettled =>
      obtain ⟨fv, m, n, o, hsettled⟩ := hsettled
      exact ⟨0, .settled ⟨fv, m, n, o, hsettled.of_still hstill⟩, Nat.le_refl 0⟩
    | other hholds => exact ⟨22, .other (hstill.holds.mpr hholds), Nat.le_refl 22⟩
    | request hphase => exact budget_of_noLater (hstill.phase hphase)
  obtain ⟨t', hbudget', hle⟩ := hnext
  exact ⟨t', ⟨hstill.wired, hpaced.of_due hstill.due, hstill.ontime, hbudget'⟩, hle⟩

/-- Every input pays for what it loses. -/
theorem Account.step (haccount : Account w s h t) {op : BroadcastLinkOp}
    (hmeets : HonestLink w s h op) (hstep : broadcastLinkStep w s op = .ok (s', es)) :
    ∃ t', Account w s' (es ++ h) t' ∧ es.countP (·.lost) + t' ≤ t := by
  have hnoTick : ¬ op.IsTick →
      ∃ t', Account w s' (es ++ h) t' ∧ es.countP (·.lost) + t' ≤ t := by
    intro hop
    obtain ⟨rfl, hstill⟩ := still_of_step haccount.wired haccount.ontime hop hmeets hstep
    obtain ⟨t', haccount', hle⟩ := haccount.of_still hstill
    refine ⟨t', haccount', ?_⟩
    show 0 + t' ≤ t
    omega
  cases op with
  | deliverBroadcast => exact hnoTick id
  | link op =>
    cases op with
    | serverTick services => exact haccount.serverTick hmeets hstep
    | participantTick csm signals => exact haccount.participantTick hmeets hstep
    | _ => exact hnoTick id

/-! ## The bound -/

/-- The two parties are in states that they reach after their first `Init`, the
participant is a client of the server, and nothing is on its way.  The freshness value of
the server has stayed within seven bytes, the last call of its main function did not fail,
and a pair that waits for its verification has a value. -/
structure BroadcastLinked (w : Wiring) (s : BroadcastLink) : Prop where
  server : ∃ server₀ g, server₀.FirstInit ∧
    Run serverStep ServerBelowLimit server₀ [] s.server g ∧ FirstAttempt g
  participant : ∃ participant₀ g, participant₀.FirstInit ∧
    Run participantStep Anything participant₀ [] s.participant g
  names : valueName s.participant ≠ signatureName s.participant
  key : s.server.mClientNameToKeyId.lookup w.client = some w.keyId
  quiet : s.Quiet
  broadcast : s.broadcast = none
  hasValue : s.participant.requestCycle.HasValue

theorem BroadcastLinked.fvLinked (hlinked : BroadcastLinked w s) : FvLinked w s.toFvLink := by
  obtain ⟨server₀, g, hserver, hrun, -⟩ := hlinked.server
  have hrun' : Run serverStep Anything server₀ [] s.server g :=
    hrun.project id id fun _ _ _ _ _ _ hstep => .single trivial hstep
  exact ⟨⟨server₀, g, hserver, hrun'⟩, hlinked.participant, hlinked.names, hlinked.key,
    hlinked.quiet, hlinked.hasValue⟩

theorem BroadcastLinked.wired (hlinked : BroadcastLinked w s) : Wired w s.toFvLink :=
  hlinked.fvLinked.wired

theorem BroadcastLinked.ontime (hlinked : BroadcastLinked w s) : BroadcastsOnTime s.server := by
  obtain ⟨server₀, g, hserver, hserverRun, hfirst⟩ := hlinked.server
  have hstart := serverClock_of_firstInit hserver
  exact ⟨_, server₀, g, serverClock_of_run hstart hserverRun, progress_of_run hstart hserverRun,
    hfirst⟩

/-- The budget at the start. -/
theorem BroadcastLinked.account (hlinked : BroadcastLinked w s) : ∃ t, Account w s [] t ∧ t ≤ 74 ∧
    (¬ s.participant.requestCycle.Outstanding → t ≤ 22) ∧
    (s.participant.requestCycle.state = some .requestFV → t ≤ 21) := by
  have hwired := hlinked.wired
  obtain ⟨state, hcurrent⟩ := Option.isSome_iff_exists.mp hwired.ready.current
  have hstate : s.participant.requestCycle.state = some state := hcurrent
  have haccount : ∀ {t}, Budget w s 0 t → Account w s [] t := by
    intro t hbudget
    exact ⟨hwired, paced_nil, hlinked.ontime, hbudget⟩
  have hother : FreshnessValueState.HoldsFv s.participant.requestCycle.state →
      state ≠ .requestFV → ∃ t, Account w s [] t ∧ t ≤ 74 ∧
        (¬ s.participant.requestCycle.Outstanding → t ≤ 22) ∧
        (s.participant.requestCycle.state = some .requestFV → t ≤ 21) := by
    intro hholds hne
    exact ⟨22, haccount (.other hholds), by decide, fun _ => Nat.le_refl 22, fun hrequest =>
      absurd (Option.some.inj (hstate.symm.trans hrequest)) hne⟩
  have hstale : s.participant.requestCycle.Outstanding →
      state ≠ .requestFV → ∃ t, Account w s [] t ∧ t ≤ 74 ∧
        (¬ s.participant.requestCycle.Outstanding → t ≤ 22) ∧
        (s.participant.requestCycle.state = some .requestFV → t ≤ 21) := by
    intro houtstanding hne
    refine ⟨23 + (250 - s.participant.requestCycle.waited) / 5 + 1, haccount (.request
      (.stale 1 1 houtstanding hlinked.quiet.1 (fun _ => Nat.one_pos) fun _ => Nat.one_pos)),
      by omega, fun h => absurd houtstanding h, fun hrequest =>
      absurd (Option.some.inj (hstate.symm.trans hrequest)) hne⟩
  cases state with
  | requestFV =>
    exact ⟨21, haccount (.request (.request hstate)), by decide, fun _ => by decide,
      fun _ => Nat.le_refl 21⟩
  | fvInProgress => exact hstale (Or.inl hstate) (by decide)
  | processFV => exact hstale (Or.inr hstate) (by decide)
  | processAnauthFV => exact hother (Or.inr hstate) (by decide)
  | idle => exact hother (Or.inl hstate) (by decide)

/-- With a budget that has no room for another loss, a participant with a freshness
value is beside the server. -/
theorem Account.mem_neighbours (haccount : Account w s h t) (hle : t ≤ 21)
    (hvalid : s.participant.mIsFvValid = true) : s.server.mFV ∈ s.participant.neighbours := by
  have hholds := haccount.wired.valid_iff.mp hvalid
  have hbehind := haccount.paced.behind
  have hahead := haccount.paced.ahead
  cases haccount.budget with
  | settled hsettled =>
    obtain ⟨fv, m, n, o, hsettled⟩ := hsettled
    have ho := hsettled.o_le
    have hapart := hsettled.apart
    exact mem_neighbours_of_shows hsettled.server hsettled.participant (by omega) (by omega)
  | other => exact absurd hle (by decide)
  | request hphase => exact absurd hholds (hphase.not_holdsFv (Nat.succ_pos t))

/-- **A participant keeps what it was sent.**  In a link that works, with the broadcasts of
its server, a participant spends at most 74 ticks without a freshness value in the
whole run, and at most 22 when no request is outstanding at the start.  Once it has
been without one, its freshness value is beside that of the server whenever it is valid.
No tick is spent on an empty value. -/
theorem total_outage_bounded (hlinked : BroadcastLinked w s₀)
    (hrun : Run (broadcastLinkStep w) (HonestLink w) s₀ [] s h) :
    h.countP (·.lost) ≤ 74 ∧
      (¬ s₀.participant.requestCycle.Outstanding → h.countP (·.lost) ≤ 22) ∧
      (s₀.participant.requestCycle.state = some .requestFV → h.countP (·.lost) ≤ 21) ∧
      (¬ s₀.participant.requestCycle.Outstanding →
        0 < h.countP (·.lost) ∨ s₀.participant.mIsFvValid = false →
        s.participant.mIsFvValid = true → s.server.mFV ∈ s.participant.neighbours) ∧
      s.participant.requestCycle.HasValue := by
  have hvalues := hasValue_of_run hlinked.fvLinked (fvLinkRun_of_broadcastLinkRun hrun)
  obtain ⟨t₀, hstart, hall, hidle, hrequest⟩ := hlinked.account
  obtain ⟨t, haccount, hsum⟩ := hrun.countP_add_le hstart fun haccount hmeets hstep =>
    haccount.step hmeets hstep
  refine ⟨by omega, ?_, ?_, ?_, hvalues⟩
  · intro houtstanding
    have hearly := hidle houtstanding
    omega
  · intro hstate
    have hearly := hrequest hstate
    omega
  · intro houtstanding hlost hvalid
    refine haccount.mem_neighbours ?_ hvalid
    rcases hlost with hpos | hinvalid
    · have hearly := hidle houtstanding
      omega
    · have hstate : s₀.participant.requestCycle.state = some .requestFV := by
        have hwired := hlinked.wired
        have hnot : ¬ FreshnessValueState.HoldsFv s₀.participant.requestCycle.state :=
          mt hwired.valid_iff.mpr (by rw [hinvalid]; exact Bool.false_ne_true)
        obtain ⟨state, hcurrent⟩ := Option.isSome_iff_exists.mp hwired.ready.current
        have hstate : s₀.participant.requestCycle.state = some state := hcurrent
        cases state with
        | requestFV => exact hstate
        | fvInProgress => exact absurd (Or.inl hstate) houtstanding
        | processFV => exact absurd (Or.inr hstate) houtstanding
        | processAnauthFV => exact absurd (Or.inr hstate) hnot
        | idle => exact absurd (Or.inl hstate) hnot
      have hearly := hrequest hstate
      omega

/-! ## A run with a broadcast -/

/-- The part of `HonestLink` that is about the time. -/
def TimelyBroadcasts : Guard BroadcastLink BroadcastLinkOp FvLinkEvent := fun s h op =>
  s.server.mFV.toNat < 2 ^ 56 ∧
    match op with
    | .link op => Timely s.toFvLink h op ∧ s.broadcast = none
    | .deliverBroadcast => True

instance (s : BroadcastLink) (h : List FvLinkEvent) : DecidablePred (TimelyBroadcasts s h)
  | .link _ => inferInstanceAs (Decidable (_ ∧ _ ∧ _))
  | .deliverBroadcast => inferInstanceAs (Decidable (_ ∧ True))

def firstBroadcastLink : BroadcastLink :=
  ⟨firstFvLink, none⟩

theorem linked_firstBroadcastLink : BroadcastLinked wiringOfSink firstBroadcastLink :=
  ⟨⟨firstServer, [], firstInit_firstServer, .refl, nofun⟩,
    ⟨firstParticipant, [], firstInit_firstParticipant, .refl⟩, by decide +kernel,
    by decide +kernel, ⟨rfl, rfl⟩, rfl, nofun⟩

/-- A tick of each party, and everything arrives. -/
def broadcastRound : List BroadcastLinkOp :=
  [.link FvLinkMove.participantTick.input, .link FvLinkMove.deliverChallenge.input,
    .link FvLinkMove.serverTick.input, .deliverBroadcast,
    .link FvLinkMove.deliverResponse.input, .link FvLinkMove.deliverResponse.input]

theorem honestLink_of_timely {op : BroadcastLinkOp} (hop : op ∈ broadcastRound)
    (htimely : TimelyBroadcasts s h op) : HonestLink wiringOfSink s h op := by
  obtain ⟨hbelow, htimely⟩ := htimely
  refine ⟨hbelow, ?_⟩
  cases op with
  | deliverBroadcast => trivial
  | link op =>
    obtain ⟨htimely, hnone⟩ := htimely
    simp only [broadcastRound, List.mem_cons, List.not_mem_nil, or_false, reduceCtorEq, false_or,
      BroadcastLinkOp.link.injEq, or_self] at hop
    rcases hop with rfl | rfl | rfl | rfl
    · exact ⟨honest_of_timely .participantTick _ _ htimely, hnone⟩
    · exact ⟨honest_of_timely .deliverChallenge _ _ htimely, trivial⟩
    · exact ⟨honest_of_timely .serverTick _ _ htimely, hnone, fun _ _ => rfl⟩
    · exact ⟨honest_of_timely .deliverResponse _ _ htimely, trivial⟩

/-- The participant gets its freshness value, and keeps it when the first broadcast comes. -/
theorem total_outage_bounded_reached :
    ∃ s h, Run (broadcastLinkStep wiringOfSink) (HonestLink wiringOfSink) firstBroadcastLink []
        s h ∧ s.participant.mUnAuthFv ≠ [] ∧ h.countP (·.lost) = 21 ∧ h.countP (·.lost) ≤ 21 ∧
      s.server.mFV ∈ s.participant.neighbours := by
  let inputs := (List.replicate 202 broadcastRound).flatten
  have hexec : ((exec (broadcastLinkStep wiringOfSink) firstBroadcastLink [] inputs).toOption.map
      fun ret => (ret.2.countP (·.lost), ret.1.participant.mIsFvValid,
        decide (ret.1.participant.mUnAuthFv ≠ []))) = some (21, true, true) := by
    decide +kernel
  cases hret : exec (broadcastLinkStep wiringOfSink) firstBroadcastLink [] inputs with
  | error fault =>
    rw [hret] at hexec
    cases hexec
  | ok ret =>
    rw [hret] at hexec
    obtain ⟨hlost, hrest⟩ := Prod.mk.inj (Option.some.inj hexec)
    obtain ⟨hvalid, hcompared⟩ := Prod.mk.inj hrest
    have hmeets : execMeets (broadcastLinkStep wiringOfSink) TimelyBroadcasts firstBroadcastLink []
        inputs = true := by decide +kernel
    have hrun : Run (broadcastLinkStep wiringOfSink) (HonestLink wiringOfSink) firstBroadcastLink []
        ret.1 ret.2 := by
      refine .of_exec_of_imp ?_ hmeets hret
      intro op hop s h htimely
      obtain ⟨round, hround, hmem⟩ := List.mem_flatten.mp hop
      rw [List.eq_of_mem_replicate hround] at hmem
      exact honestLink_of_timely hmem htimely
    have hstate : firstBroadcastLink.participant.requestCycle.state = some .requestFV := rfl
    obtain ⟨-, -, hbound, hbeside, -⟩ := total_outage_bounded linked_firstBroadcastLink hrun
    exact ⟨ret.1, ret.2, hrun, of_decide_eq_true hcompared, hlost, hbound hstate,
      hbeside (RequestCycle.not_outstanding hstate (by decide)) (Or.inr rfl) hvalid⟩

end Sok.Fvm
