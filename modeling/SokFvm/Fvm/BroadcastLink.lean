import SokFvm.Fvm.HonestBroadcast
import SokFvm.Fvm.Recovery
import SokFvm.Fvm.ServerTimeLaw

/-!
# A link with the broadcasts of its server

In `FvLink` a participant may hear anything in broadcasts.  Here it hears what the server
broadcasts: `broadcastLinkStep` is the linked system with the broadcast on its way, and
`fvLinkRun_of_broadcastLinkRun` projects its runs.  `HonestLink` is the guard of such a
link that works.

* A broadcast is made when the clock of the server stands at zero, `BroadcastsOnTime`,
  and it is the freshness value, `announced_eq`.
* `Still` is what the inputs leave that are no ticks, and `still_of_step` is the one
  lemma about them.
-/

namespace Sok.Fvm

open Sok.Common StateMachine Cadence FreshnessValueManagerImplServer
open FreshnessValueManagerImplParticipant

/-! ## The system -/

structure BroadcastLink extends FvLink where
  /-- The broadcast on its way to the participant. -/
  broadcast : Option ByteVector

inductive BroadcastLinkOp
  | link (op : FvLinkOp)
  | deliverBroadcast

def ServerEvent.broadcast? : ServerEvent → Option ByteVector
  | .broadcast value => some value
  | _ => none

/-- What an input makes the server broadcast, as it arrives. -/
def BroadcastLink.announced (s : BroadcastLink) : FvLinkOp → Option ByteVector
  | .serverTick services => (serverStep s.server (.mainFunction services)).toOption.bind
      fun next => (next.2.findSome? (·.broadcast?)).map padded
  | _ => none

/-- The name of the signal for broadcasts. -/
def broadcastSignalName (p : FreshnessValueManagerImplParticipant) : String :=
  p.mFvmConfAccessor.getUnauthenticatedFvSignalConfig.name

/-- The linked system with its broadcasts. -/
def broadcastLinkStep (w : Wiring) : Machine BroadcastLink BroadcastLinkOp FvLinkEvent Fault :=
  fun s op =>
  match op with
  | .link op => (fvLinkStep w s.toFvLink op).map fun next =>
      (⟨next.1, (s.announced op).or s.broadcast⟩, next.2)
  | .deliverBroadcast =>
    match s.broadcast with
    | none => .ok (s, [])
    | some value =>
      (fvLinkStep w s.toFvLink (.atParticipant
        (.incomingUnAuthFvSignal (broadcastSignalName s.participant) value))).map fun next =>
          (⟨next.1, none⟩, next.2)

/-- The broadcasts succeed, everything of them arrives before the next tick, and nobody
else broadcasts. -/
def HonestBroadcasting (s : BroadcastLink) : FvLinkOp → Prop
  | .serverTick services => s.broadcast = none ∧
      ∀ config bytes, services.broadcastSignals.publish config bytes = .kSuccess
  | .participantTick _ _ => s.broadcast = none
  | .atParticipant op => ∃ call, op = .call call
  | .deliverChallenge | .deliverResponse _ | .atServer _ => True

/-- The link works, and the freshness value fits into the seven bytes of an answer. -/
def HonestLink (w : Wiring) : Guard BroadcastLink BroadcastLinkOp FvLinkEvent := fun s h op =>
  s.server.mFV.toNat < 2 ^ 56 ∧
    match op with
    | .link op => Honest w s.toFvLink h op ∧ HonestBroadcasting s op
    | .deliverBroadcast => True

variable {w : Wiring} {s s' s₀ : BroadcastLink} {h : List FvLinkEvent} {d : Int}

/-- Without its broadcasts, an honest run is an honest run of the link. -/
theorem fvLinkRun_of_broadcastLinkRun
    (hrun : Run (broadcastLinkStep w) (HonestLink w) s₀ [] s h) :
    Run (fvLinkStep w) (Honest w) s₀.toFvLink [] s.toFvLink h := by
  refine hrun.project BroadcastLink.toFvLink id ?_
  intro s h op s' es hmeets hstep
  cases op with
  | link op =>
    obtain ⟨next, hnext, heq⟩ := exists_of_map_ok hstep
    cases heq
    exact .single hmeets.2.1 hnext
  | deliverBroadcast =>
    unfold broadcastLinkStep at hstep
    dsimp only at hstep
    split at hstep
    · cases hstep
      exact .refl
    · rename_i value hvalue
      obtain ⟨next, hnext, heq⟩ := exists_of_map_ok hstep
      cases heq
      have hmeets' : Honest w s.toFvLink h (.atParticipant
          (.incomingUnAuthFvSignal (broadcastSignalName s.participant) value)) := trivial
      exact .single hmeets' hnext

/-! ## The schedule of the broadcasts -/

section Schedule

variable {server server' : FreshnessValueManagerImplServer} {op : ServerOp}
variable {services : ServerServices} {es g : List ServerEvent} {start : UInt64}

/-- No broadcast waits for its second attempt, and the clock has not wrapped. -/
def BroadcastsOnTime (server : FreshnessValueManagerImplServer) : Prop :=
  ∃ start server₀ g, ServerClock start server g ∧ Progress server₀ [] server g ∧ FirstAttempt g

theorem BroadcastsOnTime.step (hontime : BroadcastsOnTime server)
    (hbelow : server.mFV.toNat < 2 ^ 56)
    (hstep : serverStep server op = .ok (server', es))
    (hsuccess : ∀ ret, .mainFunctionCompleted ret ∈ es → ret = .kSuccess) :
    BroadcastsOnTime server' := by
  obtain ⟨start, server₀, g, hclock, hprogress, hfirst⟩ := hontime
  have htick := serverClockStep_of_step hclock.mInitialized hstep
  have hclock' := hclock.step htick
  refine ⟨start, server₀, es ++ g, hclock',
    hprogress.step hclock hbelow hclock' (serverCalls_le_one htick), ?_⟩
  intro ret hret
  unfold lastReturn at hret
  rw [List.findSome?_append] at hret
  cases hnew : es.findSome? (·.returned) with
  | none =>
    rw [hnew] at hret
    exact hfirst ret hret
  | some ret' =>
    rw [hnew] at hret
    cases Option.some.inj hret
    obtain ⟨e, hmem, hreturned⟩ := List.exists_of_findSome?_eq_some hnew
    cases e with
    | mainFunctionCompleted ret'' =>
      cases Option.some.inj hreturned
      exact hsuccess _ hmem
    | _ => cases hreturned

/-- A broadcast that is due on schedule finds a clock that stands at zero. -/
theorem BroadcastsOnTime.mClockCount (hontime : BroadcastsOnTime server)
    (hneed : server.mNeedToBroadcastFv = true) : server.mClockCount.toNat = 0 := by
  obtain ⟨start, server₀, g, hclock, hprogress, hfirst⟩ := hontime
  have hbound := hprogress.bound
  have hnone : serverCalls [] / 20 = 0 := rfl
  have htime := hclock.broadcasts hneed hfirst
  rw [hclock.time] at htime
  have hwhole := wholeSeconds_of_time (by omega) htime
  have hcount : server.mClockCount.toNat = 5 * (serverCalls g % 20) := hclock.shows.mClockCount
  omega

/-- The main function reports how the broadcast went. -/
theorem kSuccess_of_broadcasts (hinit : server.mInitialized = true)
    (hpublish : ∀ config bytes, services.broadcastSignals.publish config bytes = .kSuccess)
    (hstep : serverStep server (.mainFunction services) = .ok (server', es)) {ret : FvmErrorCode}
    (hmem : .mainFunctionCompleted ret ∈ es) : ret = .kSuccess := by
  obtain ⟨ret', hresult⟩ := mainFunction_of_serverStep hstep
  obtain ⟨events, hserves, hes, hret⟩ := mainFunction_spec hinit hresult
  have hret' : ret' = .kSuccess := by
    rw [hret]
    rcases server.broadcastIfNeeded_cases services.broadcastSignals with
      ⟨-, heq⟩ | ⟨-, code, hfailed, hcode, -⟩ | ⟨-, -, heq⟩
    · rw [heq]
    · exact absurd (hcode.symm.trans (hpublish _ _)) hfailed
    · rw [heq]
  rw [hes] at hmem
  rcases List.mem_cons.mp hmem with heq | hmem
  · cases heq
    exact hret'
  · cases hserves.quiet _ hmem

theorem BroadcastsOnTime.mInitialized (hontime : BroadcastsOnTime server) :
    server.mInitialized = true := by
  obtain ⟨start, server₀, g, hclock, -, -⟩ := hontime
  exact hclock.mInitialized

theorem not_broadcastFails
    (hpublish : ∀ config bytes, services.broadcastSignals.publish config bytes = .kSuccess) :
    ¬ BroadcastFails server services :=
  fun hfails => hfails.2 (hpublish _ _)

end Schedule

/-- What is announced is the freshness value, when a broadcast is due. -/
theorem announced_eq {services : ServerServices} {server : FreshnessValueManagerImplServer}
    {es : List ServerEvent} (hinit : s.server.mInitialized = true)
    (hpublish : ∀ config bytes, services.broadcastSignals.publish config bytes = .kSuccess)
    (hstep : serverStep s.server (.mainFunction services) = .ok (server, es)) :
    s.announced (.serverTick services) =
      if s.server.mNeedToBroadcastFv then some (uintToByteVector s.server.mFV) else none := by
  obtain ⟨ret, hresult⟩ := mainFunction_of_serverStep hstep
  obtain ⟨events, hserves, hes, -⟩ := mainFunction_spec hinit hresult
  have hevents : events.findSome? (·.broadcast?) = none := by
    rw [List.findSome?_eq_none_iff]
    intro e hmem
    obtain ⟨client, hclient⟩ := hserves.client e hmem
    cases e with
    | broadcast value => cases hclient
    | _ => rfl
  unfold BroadcastLink.announced
  dsimp only
  rw [hstep]
  show (es.findSome? (·.broadcast?)).map padded = _
  rw [hes, List.findSome?_cons_of_isNone rfl, List.findSome?_append, hevents, Option.none_or,
    (broadcastIfNeeded_of_succeeds (not_broadcastFails hpublish)).2]
  split
  · show some (padded (uintToByteVector s.server.mFV)) = _
    unfold padded
    rw [length_uintToByteVector]
    rfl
  · rfl

/-! ## Inputs that are no ticks -/

/-- What is no tick leaves the schedule of the broadcasts alone. -/
theorem BroadcastsOnTime.of_notTick {server server' : FreshnessValueManagerImplServer}
    {op : ServerOp} {es : List ServerEvent} (hontime : BroadcastsOnTime server)
    (hbelow : server.mFV.toNat < 2 ^ 56) (hop : ∀ services, op ≠ .mainFunction services)
    (hstep : serverStep server op = .ok (server', es)) : BroadcastsOnTime server' := by
  refine hontime.step hbelow hstep ?_
  intro ret hmem
  cases op with
  | mainFunction services => exact absurd rfl (hop services)
  | incomingAuthFvChallengeSignal signal challenge =>
    have hcb : server.incomingAuthFvChallengeSignalsCb signal challenge = (server', es) :=
      Except.ok.inj hstep
    rcases server.incomingAuthFvChallengeSignalsCb_cases signal challenge with
      heq | ⟨client, -, -, heq⟩
    · rw [show es = [] from congrArg Prod.snd (hcb.symm.trans heq)] at hmem
      cases hmem
    · rw [show es = [.recorded client challenge] from congrArg Prod.snd (hcb.symm.trans heq)]
        at hmem
      cases List.mem_singleton.mp hmem
  | call call =>
    cases Except.ok.inj hstep
    cases hmem

section Inputs

variable {p : FreshnessValueManagerImplParticipant} {op : ParticipantOp}
variable {es : List ParticipantEvent} {signal : String} {value : ByteVector}

/-- A participant with a freshness value keeps it as long as no tick comes. -/
theorem holdsFv_of_signal (hready : Ready s.participant)
    (hstep : participantStep s.participant op = .ok (p, es))
    (hop : ∀ csm signals, op ≠ .mainFunction csm signals) :
    AFreshnessValueManagerImpl.SameContext s.participant.toAFreshnessValueManagerImpl
        p.toAFreshnessValueManagerImpl ∧
      (FreshnessValueState.HoldsFv p.requestCycle.state ↔
        FreshnessValueState.HoldsFv s.participant.requestCycle.state) := by
  cases fvStep_of_step hready hstep with
  | adopts csm signals hmain => exact absurd hmain (hop csm signals)
  | invalidates hmain =>
    obtain ⟨csm, signals, hmain⟩ := hmain
    exact absurd hmain (hop csm signals)
  | ticks hmain =>
    obtain ⟨csm, signals, hmain⟩ := hmain
    exact absurd hmain (hop csm signals)
  | calls _ _ _ hbase hstate => exact ⟨hbase, hstate⟩

/-- The reaction to an answer leads neither to the comparison nor away from it. -/
theorem compares_of_response (hready : Ready s.participant)
    (hstep : participantStep s.participant (.incomingAuthFvSignal signal value) = .ok (p, es)) :
    (p.requestCycle.state = some .processAnauthFV ↔
        s.participant.requestCycle.state = some .processAnauthFV) ∧
      p.mUnAuthFv = s.participant.mUnAuthFv := by
  have hcb : (s.participant.incomingAuthFvSignalsCb signal value).1 = p :=
    congrArg Prod.fst (Except.ok.inj hstep)
  obtain ⟨value', signature, hcycle⟩ := requestCycle_of_response hready hstep
  refine ⟨?_, ?_⟩
  · rw [hcycle]
    rcases RequestCycle.react_cases { s.participant.requestCycle with
      value := value', signature := signature } with h | h
    · rw [h]
    · rw [h]
      dsimp only
      cases s.participant.requestCycle.state with
      | none => exact Iff.rfl
      | some state => cases state <;> decide
  · rw [← hcb, incomingAuthFvSignalsCb_eq]

end Inputs

/-- What an input that is no tick does to the broadcasts that the participant has and
will have. -/
inductive News (s s' : BroadcastLink) : Prop
  | keeps (hbroadcast : s'.broadcast = s.broadcast)
      (hstate : s'.participant.requestCycle.state = some .processAnauthFV ↔
        s.participant.requestCycle.state = some .processAnauthFV)
      (hvalue : s'.participant.mUnAuthFv = s.participant.mUnAuthFv)
  | arrives (value : ByteVector) (hvalue : s.broadcast = some value)
      (hnone : s'.broadcast = none)
      (hparticipant : s'.participant = s.participant.incomingUnAuthFvSignalsCb
        (broadcastSignalName s.participant) value)

/-- What an input that is no tick leaves. -/
structure Still (w : Wiring) (s s' : BroadcastLink) : Prop where
  wired : Wired w s'.toFvLink
  ontime : BroadcastsOnTime s'.server
  due : due s'.server = due s.server
  needs : s'.server.mNeedToBroadcastFv = s.server.mNeedToBroadcastFv
  server : AFreshnessValueManagerImpl.SameContext s.server.toAFreshnessValueManagerImpl
    s'.server.toAFreshnessValueManagerImpl
  participant : AFreshnessValueManagerImpl.SameContext
    s.participant.toAFreshnessValueManagerImpl s'.participant.toAFreshnessValueManagerImpl
  holds : FreshnessValueState.HoldsFv s'.participant.requestCycle.state ↔
    FreshnessValueState.HoldsFv s.participant.requestCycle.state
  phase : ∀ {d b}, Phase w s.toFvLink d b → NoLater w s'.toFvLink d b
  news : News s s'

theorem Still.refl (hwired : Wired w s.toFvLink) (hontime : BroadcastsOnTime s.server) :
    Still w s s :=
  ⟨hwired, hontime, rfl, rfl, ⟨rfl, rfl, rfl, rfl, rfl, rfl⟩, ⟨rfl, rfl, rfl, rfl, rfl, rfl⟩,
    Iff.rfl, Phase.noLater, .keeps rfl Iff.rfl rfl⟩

/-- An input of the participant. -/
theorem still_of_participant (hwired : Wired w s.toFvLink) (hontime : BroadcastsOnTime s.server)
    {op : ParticipantOp} {p : FreshnessValueManagerImplParticipant}
    {pes : List ParticipantEvent} (hop : ∀ csm signals, op ≠ .mainFunction csm signals)
    (hstep : participantStep s.participant op = .ok (p, pes))
    {toParticipant : List (String × ByteVector)} {broadcast : Option ByteVector}
    (hphase : ∀ {d b}, Phase w s.toFvLink d b →
      Phase w ⟨⟨s.server, p⟩, s.toServer, toParticipant⟩ d b)
    (hnews : News s ⟨⟨⟨s.server, p⟩, s.toServer, toParticipant⟩, broadcast⟩) :
    Still w s ⟨⟨⟨s.server, p⟩, s.toServer, toParticipant⟩, broadcast⟩ := by
  obtain ⟨hbase, hholds⟩ := holdsFv_of_signal hwired.ready hstep hop
  exact ⟨hwired.atParticipant hstep _ _, hontime, rfl, rfl, ⟨rfl, rfl, rfl, rfl, rfl, rfl⟩, hbase,
    hholds, fun hwas => (hphase hwas).noLater, hnews⟩

/-- An input of the server. -/
theorem still_of_server (hwired : Wired w s.toFvLink) (hontime : BroadcastsOnTime s.server)
    (hbelow : s.server.mFV.toNat < 2 ^ 56) {op : ServerOp}
    {server : FreshnessValueManagerImplServer} {ses : List ServerEvent}
    (hop : ∀ services, op ≠ .mainFunction services)
    (hstep : serverStep s.server op = .ok (server, ses)) {toServer : Option ByteVector}
    (hdue : Sok.Fvm.due server = Sok.Fvm.due s.server)
    (hneeds : server.mNeedToBroadcastFv = s.server.mNeedToBroadcastFv)
    (hcontext : AFreshnessValueManagerImpl.SameContext s.server.toAFreshnessValueManagerImpl
      server.toAFreshnessValueManagerImpl)
    (hphase : ∀ {d b}, Phase w s.toFvLink d b →
      NoLater w ⟨⟨server, s.participant⟩, toServer, s.toParticipant⟩ d b) :
    Still w s ⟨⟨⟨server, s.participant⟩, toServer, s.toParticipant⟩, s.broadcast⟩ :=
  ⟨hwired.atServer hstep _ _, hontime.of_notTick hbelow hop hstep, hdue, hneeds, hcontext,
    ⟨rfl, rfl, rfl, rfl, rfl, rfl⟩, Iff.rfl, hphase, .keeps rfl Iff.rfl rfl⟩

def BroadcastLinkOp.IsTick : BroadcastLinkOp → Prop
  | .link (.serverTick _) | .link (.participantTick _ _) => True
  | _ => False

/-- One lemma for everything that is no tick. -/
theorem still_of_step (hwired : Wired w s.toFvLink) (hontime : BroadcastsOnTime s.server)
    {op : BroadcastLinkOp} (hop : ¬ op.IsTick) (hmeets : HonestLink w s h op)
    {es : List FvLinkEvent} (hstep : broadcastLinkStep w s op = .ok (s', es)) :
    es = [] ∧ Still w s s' := by
  have hready := hwired.ready
  obtain ⟨hbelow, hmeets⟩ := hmeets
  cases op with
  | deliverBroadcast =>
    unfold broadcastLinkStep at hstep
    dsimp only at hstep
    split at hstep
    · cases hstep
      exact ⟨rfl, .refl hwired hontime⟩
    · rename_i value hvalue
      obtain ⟨next, hnext, heq⟩ := exists_of_map_ok hstep
      cases heq
      unfold fvLinkStep at hnext
      obtain ⟨ret, hret, heq⟩ := exists_of_map_ok hnext
      cases heq
      have hquiet : Quiet s.participant []
          (.incomingUnAuthFvSignal (broadcastSignalName s.participant) value) := trivial
      refine ⟨rfl, still_of_participant hwired hontime (by simp) hret
        (fun hwas => hwas.atParticipant hready hquiet hret) ?_⟩
      exact .arrives value hvalue rfl (congrArg Prod.fst (Except.ok.inj hret)).symm
  | link op =>
    obtain ⟨honest, hbroadcasting⟩ := hmeets
    obtain ⟨next, hnext, heq⟩ := exists_of_map_ok hstep
    cases heq
    unfold fvLinkStep at hnext
    cases op with
    | serverTick services => exact absurd trivial hop
    | participantTick csm signals => exact absurd trivial hop
    | deliverChallenge =>
      dsimp only at hnext
      split at hnext
      · cases hnext
        exact ⟨rfl, .refl hwired hontime⟩
      · rename_i challenge hsent
        obtain ⟨ret, hret, heq⟩ := exists_of_map_ok hnext
        cases heq
        have hbooked := serverStep_challenge w.signal_client hwired.known hret
        refine ⟨rfl, still_of_server hwired hontime hbelow (by simp) hret ?_ ?_ ?_
          fun hwas => hwas.deliverChallenge hwired hsent hret⟩
        · rw [hbooked]
          rfl
        · rw [hbooked]
        · rw [hbooked]
          exact ⟨rfl, rfl, rfl, rfl, rfl, rfl⟩
    | deliverResponse i =>
      dsimp only at hnext
      split at hnext
      · cases hnext
        exact ⟨rfl, .refl hwired hontime⟩
      · rename_i signal hsignal
        obtain ⟨ret, hret, heq⟩ := exists_of_map_ok hnext
        cases heq
        obtain ⟨hstate, hvalue⟩ := compares_of_response hready hret
        exact ⟨rfl, still_of_participant hwired hontime (by simp) hret
          (fun hwas => hwas.deliverResponse hwired hsignal hret) (.keeps rfl hstate hvalue)⟩
    | atServer op =>
      obtain ⟨ret, hret, heq⟩ := exists_of_map_ok hnext
      cases heq
      obtain ⟨hagree, -⟩ := AgreeFor.of_hidden honest hret
      refine ⟨rfl, still_of_server hwired hontime hbelow ?_ hret
        (due_of_sameContext hagree.context hagree.respond) hagree.broadcast hagree.context
        fun hwas => (hwas.atServer honest hret).noLater⟩
      rintro services rfl
      exact honest
    | atParticipant op =>
      obtain ⟨call, rfl⟩ := hbroadcasting
      obtain ⟨ret, hret, heq⟩ := exists_of_map_ok hnext
      cases heq
      have hquiet : Quiet s.participant [] (.call call) := trivial
      refine ⟨rfl, still_of_participant hwired hontime (by simp) hret
        (fun hwas => hwas.atParticipant hready hquiet hret) ?_⟩
      cases Except.ok.inj hret
      exact .keeps rfl Iff.rfl rfl

end Sok.Fvm
