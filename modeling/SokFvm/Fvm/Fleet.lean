import Mathlib.Data.Fintype.Option
import SokFvm.Fvm.HonestBroadcast

/-!
# A fleet

One server distributes its freshness value to any number of participants, each of
which takes its steps on its own behind an adversarial network.  The messages that
the freshness values protect go between any two of these parties, so what matters
is not how far a participant is from the server but how far any two parties are
from each other.

A fleet is a family of systems of one server and one participant which share the
server: `distributionRun_of_fleetRun`.  So every participant shows the value that
the server drew at its `Init`, moved on with a number of ticks, its position.  The
server is at the position of its own calls, and a participant that adopted with a
delay of `k` ticks is `k` behind its own calls: `position_of_synchronised`.

Neither the value nor the delay of one participant says anything about another
one.  Two parties that are each up to 19 ticks late are at most 19 apart, though,
because nobody is ever ahead of the server, and in lock-step that leaves one tick
for the order of the calls: `fleet_within_one_step`.
-/

namespace Sok.Fvm

open Sok.Common StateMachine Cadence

/-! ## The system -/

structure Fleet (ι : Type) where
  server : FreshnessValueManagerImplServer
  participant : ι → FreshnessValueManagerImplParticipant

inductive FleetOp (ι : Type)
  | atServer (op : ServerOp)
  | atParticipant (i : ι) (op : ParticipantOp)

inductive FleetEvent (ι : Type)
  | server (e : ServerEvent)
  | participant (i : ι) (e : ParticipantEvent)
  deriving DecidableEq

section Fleets

variable {ι : Type} [DecidableEq ι]

/-- Each party takes its steps on its own. -/
def fleetStep : Machine (Fleet ι) (FleetOp ι) (FleetEvent ι) Fault := fun s op =>
  match op with
  | .atServer op =>
    match serverStep s.server op with
    | .error fault => .error fault
    | .ok (server, es) => .ok ({ s with server := server }, es.map .server)
  | .atParticipant i op =>
    match participantStep (s.participant i) op with
    | .error fault => .error fault
    | .ok (participant, es) =>
      .ok ({ s with participant := Function.update s.participant i participant },
        es.map (.participant i))

variable {s s' s₀ : Fleet ι} {h h' : List (FleetEvent ι)} {es : List (FleetEvent ι)}
variable {op : FleetOp ι} {P : Guard (Fleet ι) (FleetOp ι) (FleetEvent ι)} {i : ι}

/-- A step is a step of one party. -/
theorem fleetStep_cases (hstep : fleetStep s op = .ok (s', es)) :
    (∃ op' server es', op = .atServer op' ∧ serverStep s.server op' = .ok (server, es') ∧
        s' = { s with server := server } ∧ es = es'.map .server) ∨
      ∃ i op' participant es', op = .atParticipant i op' ∧
        participantStep (s.participant i) op' = .ok (participant, es') ∧
        s' = { s with participant := Function.update s.participant i participant } ∧
        es = es'.map (.participant i) := by
  unfold fleetStep at hstep
  cases op with
  | atServer op' =>
    dsimp only at hstep
    split at hstep
    · cases hstep
    · rename_i server es' hserver
      cases Except.ok.inj hstep
      exact Or.inl ⟨op', server, es', rfl, hserver, rfl, rfl⟩
  | atParticipant i op' =>
    dsimp only at hstep
    split at hstep
    · cases hstep
    · rename_i participant es' hparticipant
      cases Except.ok.inj hstep
      exact Or.inr ⟨i, op', participant, es', rfl, hparticipant, rfl, rfl⟩

/-! ## The server and one participant -/

/-- The server and the participant `i`. -/
def Fleet.pair (s : Fleet ι) (i : ι) : Distribution :=
  ⟨s.server, s.participant i⟩

theorem pair_update_self (participant : FreshnessValueManagerImplParticipant) :
    Fleet.pair { s with participant := Function.update s.participant i participant } i =
      { s.pair i with participant := participant } := by
  unfold Fleet.pair
  dsimp only
  rw [Function.update_self]

theorem pair_update_of_ne {j : ι} (hne : j ≠ i)
    (participant : FreshnessValueManagerImplParticipant) :
    Fleet.pair { s with participant := Function.update s.participant j participant } i =
      s.pair i := by
  unfold Fleet.pair
  dsimp only
  rw [Function.update_of_ne (Ne.symm hne)]

/-- What the server and the participant `i` see of an event. -/
def FleetEvent.pair? (i : ι) : FleetEvent ι → Option DistributionEvent
  | .server e => some (.server e)
  | .participant j e => if j = i then some (.participant e) else none

/-- The server's and the participant's side of a history. -/
def pairEvents (i : ι) (h : List (FleetEvent ι)) : List DistributionEvent :=
  h.filterMap (FleetEvent.pair? i)

theorem pairEvents_append : pairEvents i (h' ++ h) = pairEvents i h' ++ pairEvents i h :=
  List.filterMap_append

theorem pairEvents_map_server (g : List ServerEvent) :
    pairEvents i (g.map .server) = g.map .server := by
  induction g with
  | nil => rfl
  | cons e g ih => exact congrArg (.server e :: ·) ih

theorem pairEvents_map_self (g : List ParticipantEvent) :
    pairEvents i (g.map (.participant i)) = g.map .participant := by
  induction g with
  | nil => rfl
  | cons e g ih =>
    have hhead : FleetEvent.pair? i (.participant i e) = some (.participant e) := if_pos rfl
    rw [List.map_cons, pairEvents, List.filterMap_cons, hhead]
    exact congrArg (.participant e :: ·) ih

theorem pairEvents_map_other {j : ι} (hne : j ≠ i) (g : List ParticipantEvent) :
    pairEvents i (g.map (.participant j)) = [] := by
  induction g with
  | nil => rfl
  | cons e g ih =>
    have hhead : FleetEvent.pair? i (.participant j e) = none := if_neg hne
    rw [List.map_cons, pairEvents, List.filterMap_cons, hhead]
    exact ih

/-- A step of the fleet is a step of the server and the participant `i`, or it is
none of theirs. -/
theorem pair_of_fleetStep (i : ι) (hstep : fleetStep s op = .ok (s', es)) :
    (∃ op', distributionStep (s.pair i) op' = .ok (s'.pair i, pairEvents i es) ∧
        ((∃ op'', op = .atServer op'' ∧ op' = .atServer op'') ∨
          ∃ op'', op = .atParticipant i op'' ∧ op' = .atParticipant op'')) ∨
      (s'.pair i = s.pair i ∧ pairEvents i es = [] ∧
        ∃ j op', j ≠ i ∧ op = .atParticipant j op') := by
  rcases fleetStep_cases hstep with ⟨op', server, es', hop, hserver, hs', hes⟩ |
    ⟨j, op', participant, es', hop, hparticipant, hs', hes⟩
  · refine Or.inl ⟨.atServer op', ?_, Or.inl ⟨op', hop, rfl⟩⟩
    have hserver' : serverStep (s.pair i).server op' = .ok (server, es') := hserver
    rw [hs', hes, pairEvents_map_server, distributionStep, hserver']
    rfl
  · by_cases hne : j = i
    · subst hne
      refine Or.inl ⟨.atParticipant op', ?_, Or.inr ⟨op', hop, rfl⟩⟩
      have hparticipant' : participantStep (s.pair j).participant op' = .ok (participant, es') :=
        hparticipant
      rw [hs', hes, pairEvents_map_self, distributionStep, hparticipant', pair_update_self]
    · right
      refine ⟨?_, ?_, j, op', hne, hop⟩
      · rw [hs', pair_update_of_ne hne]
      · rw [hes, pairEvents_map_other hne]

/-- The server and the participant `i` take their part in a run of the fleet. -/
theorem distributionRun_of_fleetRun (i : ι) (hrun : Run fleetStep P s₀ [] s h) :
    Run distributionStep Anything (s₀.pair i) [] (s.pair i) (pairEvents i h) := by
  refine hrun.project (Fleet.pair · i) (pairEvents i) ?_
  intro s h op s' es _ hstep
  rw [pairEvents_append]
  rcases pair_of_fleetStep i hstep with ⟨op', hstep', -⟩ | ⟨hsame, hnone, -⟩
  · exact .single trivial hstep'
  · rw [hsame, hnone]
    exact .refl

/-! ## The parties -/

/-- The server, or one of the participants. -/
abbrev Party (ι : Type) := Option ι

/-- The manager of a party. -/
def Fleet.manager (s : Fleet ι) : Party ι → AFreshnessValueManagerImpl
  | none => s.server.toAFreshnessValueManagerImpl
  | some i => (s.participant i).toAFreshnessValueManagerImpl

/-- The server's side of a history of the fleet. -/
def FleetEvent.server? : FleetEvent ι → Option ServerEvent
  | .server e => some e
  | .participant _ _ => none

def fleetServerEvents (h : List (FleetEvent ι)) : List ServerEvent :=
  h.filterMap (·.server?)

/-- The ticks that a party has seen. -/
def ticksOf (h : List (FleetEvent ι)) : Party ι → Nat
  | none => serverCalls (fleetServerEvents h)
  | some i => participantTicks (pairEvents i h)

omit [DecidableEq ι] in
theorem fleetServerEvents_map_server (g : List ServerEvent) :
    fleetServerEvents (ι := ι) (g.map .server) = g := by
  induction g with
  | nil => rfl
  | cons e g ih => exact congrArg (e :: ·) ih

omit [DecidableEq ι] in
theorem fleetServerEvents_map_participant (i : ι) (g : List ParticipantEvent) :
    fleetServerEvents (g.map (.participant i)) = [] := by
  induction g with
  | nil => rfl
  | cons e g ih => exact ih

theorem ticksOf_append (p : Party ι) : ticksOf (h' ++ h) p = ticksOf h' p + ticksOf h p := by
  cases p with
  | none =>
    show serverCalls (fleetServerEvents (h' ++ h)) = _
    rw [fleetServerEvents, List.filterMap_append, serverCalls_append]
    rfl
  | some i =>
    show participantTicks (pairEvents i (h' ++ h)) = _
    rw [pairEvents_append, participantTicks_append]
    rfl

/-- The party whose main function an input calls. -/
def FleetOp.caller : FleetOp ι → Option (Party ι)
  | .atServer (.mainFunction _) => some none
  | .atParticipant i (.mainFunction _ _) => some (some i)
  | _ => none

/-! ## Lock-step -/

/-- Every party calls its main function once in each tick: nobody calls it again
before everybody else has called it, too. -/
def FleetLockStep : Guard (Fleet ι) (FleetOp ι) (FleetEvent ι) := fun _ h op =>
  ∀ p, op.caller = some p → ∀ q, ticksOf h p ≤ ticksOf h q

instance [Fintype ι] (s : Fleet ι) (h : List (FleetEvent ι)) :
    DecidablePred (FleetLockStep s h) := fun op =>
  match hcaller : op.caller with
  | none => .isTrue fun p hp => by rw [hcaller] at hp; cases hp
  | some p => decidable_of_iff (∀ q, ticksOf h p ≤ ticksOf h q)
      ⟨fun hall p' hp' => by rw [hcaller] at hp'; cases hp'; exact hall, fun hlock =>
        hlock p hcaller⟩

/-- Every party is initialised. -/
structure FleetReady (s : Fleet ι) : Prop where
  server : s.server.mInitialized = true
  participant : ∀ i, Ready (s.participant i)

/-- A step ticks at most the party whose main function it calls. -/
theorem ticks_of_fleetStep (hready : FleetReady s) (hstep : fleetStep s op = .ok (s', es))
    (p : Party ι) : ticksOf es p = 0 ∨ ticksOf es p = 1 ∧ op.caller = some p := by
  cases p with
  | none =>
    rcases fleetStep_cases hstep with ⟨op', server, es', hop, hserver, -, hes⟩ |
      ⟨i, op', participant, es', -, -, -, hes⟩
    · have hview : ticksOf es none = serverCalls es' := by
        rw [hes]
        exact congrArg serverCalls (fleetServerEvents_map_server es')
      rw [hview]
      cases serverClockStep_of_step hready.server hserver with
      | ticks hmain ret sent hes' hsent =>
        obtain ⟨services, rfl⟩ := hmain
        have hquiet : ∀ e ∈ sent, e.returned = none := fun e hmem => (hsent e hmem).quiet
        subst hop hes'
        exact Or.inr ⟨serverCalls_completed hquiet, rfl⟩
      | calls hquiet => exact Or.inl (serverCalls_of_quiet hquiet)
    · left
      rw [hes]
      exact congrArg serverCalls (fleetServerEvents_map_participant i es')
  | some i =>
    show participantTicks (pairEvents i es) = 0 ∨ participantTicks (pairEvents i es) = 1 ∧ _
    rcases pair_of_fleetStep i hstep with ⟨op', hstep', hops⟩ | ⟨-, hnone, -⟩
    · have hboth : BothReady (s.pair i) := ⟨hready.server, hready.participant i⟩
      rcases ticks_of_step hboth hstep' with ⟨-, hp⟩ | ⟨-, hp, -⟩ | ⟨-, hp, csm, signals, hop'⟩
      · exact Or.inl hp
      · exact Or.inl hp
      · right
        refine ⟨hp, ?_⟩
        rcases hops with ⟨op'', -, hserver⟩ | ⟨op'', hop, hparticipant⟩
        · cases hserver.symm.trans hop'
        · cases hparticipant.symm.trans hop'
          rw [hop]
          rfl
    · rw [hnone]
      exact Or.inl rfl

theorem FleetReady.step (hready : FleetReady s) (hstep : fleetStep s op = .ok (s', es)) :
    FleetReady s' := by
  rcases fleetStep_cases hstep with ⟨op', server, es', -, hserver, hs', -⟩ |
    ⟨i, op', participant, es', -, hparticipant, hs', -⟩
  · rw [hs']
    exact ⟨(sameSetup_of_serverStep hserver).mInitialized.trans hready.server, hready.participant⟩
  · rw [hs']
    refine ⟨hready.server, fun j => ?_⟩
    by_cases hj : j = i
    · subst hj
      show Ready (Function.update s.participant j participant j)
      rw [Function.update_self]
      exact (requestCycle_step (hready.participant j) hparticipant).ready
    · show Ready (Function.update s.participant i participant j)
      rw [Function.update_of_ne hj]
      exact hready.participant j

/-- Run lemma: in lock-step nobody is more than one tick ahead of anybody else. -/
theorem ticks_within_one_of_fleetRun (hstart : FleetReady s₀)
    (hrun : Run fleetStep FleetLockStep s₀ [] s h) :
    FleetReady s ∧ ∀ p q, ticksOf h p ≤ ticksOf h q + 1 := by
  refine hrun.invariant (fun s h => FleetReady s ∧ ∀ p q, ticksOf h p ≤ ticksOf h q + 1)
    ⟨hstart, ?_⟩ ?_
  · intro p q
    have hzero : ticksOf ([] : List (FleetEvent ι)) p = 0 := by
      cases p with
      | none => rfl
      | some i => rfl
    omega
  · intro s h op s' es ⟨hready, hclose⟩ hlock hstep
    refine ⟨hready.step hstep, fun p q => ?_⟩
    rw [ticksOf_append, ticksOf_append]
    have hpq := hclose p q
    rcases ticks_of_fleetStep hready hstep p with hp | ⟨hp, hcaller⟩
    · omega
    · have hbehind := hlock p hcaller q
      omega

/-! ## The position of a party -/

/-- Every party has come from its first `Init`. `g` is what the server has done
since. -/
structure FromFirstInit (start : UInt64) (g : List ServerEvent) (s : Fleet ι) : Prop where
  server : ∃ server₀, server₀.FirstInit ∧ server₀.mFV = start ∧
    Run serverStep Anything server₀ [] s.server g
  participant : ∀ i, ∃ participant₀ g', participant₀.FirstInit ∧
    Run participantStep Anything participant₀ [] (s.participant i) g'

/-- The server, or a participant that adopted in tick `T + k` what the server had
signed in tick `T`, for some `k` up to `delay`, and that has kept it since. -/
def SynchronisedWithin (delay : Nat) (s : Fleet ι) (h : List (FleetEvent ι)) : Party ι → Prop
  | none => True
  | some i => (s.participant i).mIsFvValid = true ∧
      ∃ T k fv newer, k ≤ delay ∧ AdoptedAfter T k fv newer (pairEvents i h) ∧ NoAdoption newer

variable {start : UInt64} {g : List ServerEvent} {delay : Nat} {p q : Party ι}

omit [DecidableEq ι] in
theorem FromFirstInit.ready (hfrom : FromFirstInit start g s) : FleetReady s := by
  obtain ⟨⟨server₀, hserver, -, hserverRun⟩, hparticipants⟩ := hfrom
  refine ⟨(serverClock_of_run (serverClock_of_firstInit hserver) hserverRun).mInitialized, ?_⟩
  intro i
  obtain ⟨participant₀, g', hparticipant, hparticipantRun⟩ := hparticipants i
  exact (lineage_of_run hparticipant hparticipantRun).1

/-- A clock that stands at zero `n` ticks after `start` counts on from there. -/
theorem Shows.from_start {manager : AFreshnessValueManagerImpl} {fv : UInt64} {n m : Nat}
    (hfv : fv = start + UInt64.ofNat (n / 20)) (hphase : n % 20 = 0)
    (hshows : Shows manager fv (after ticksPerIncrement m)) :
    Shows manager start (after ticksPerIncrement (n + m)) := by
  have hcount : (n + m) / 20 = n / 20 + m / 20 := by omega
  have hsame : (n + m) % 20 = m % 20 := by omega
  refine ⟨?_, ?_⟩
  · rw [hshows.mFV, hfv, UInt64.add_assoc, ← UInt64.ofNat_add]
    show _ = start + UInt64.ofNat ((n + m) / 20)
    rw [hcount]
    rfl
  · rw [hshows.mClockCount]
    show _ * (m % 20) = _ * ((n + m) % 20)
    rw [hsame]

/-- The server takes its part in a run of the fleet. -/
theorem serverRun_of_fleetRun (hrun : Run fleetStep P s₀ [] s h) :
    Run serverStep Anything s₀.server g s.server (fleetServerEvents h ++ g) := by
  refine hrun.project Fleet.server (fun h => fleetServerEvents h ++ g) ?_
  intro s h op s' es _ hstep
  have happend : fleetServerEvents (es ++ h) = fleetServerEvents es ++ fleetServerEvents h :=
    List.filterMap_append
  rw [happend, List.append_assoc]
  rcases fleetStep_cases hstep with ⟨op', server, es', -, hserver, hs', hes⟩ |
    ⟨i, op', participant, es', -, -, hs', hes⟩
  · rw [hs', hes, fleetServerEvents_map_server]
    exact .single trivial hserver
  · rw [hs', hes, fleetServerEvents_map_participant]
    exact .refl

/-- A party is behind its own calls by the delay of its adoption. -/
theorem position_of_synchronised (hfrom : FromFirstInit start g s₀)
    (hrun : Run fleetStep P s₀ [] s h) (hsync : SynchronisedWithin delay s h p) :
    ∃ n k, k ≤ delay ∧ n + k = ticksOf h p + serverCalls g ∧
      Shows (s.manager p) start (after ticksPerIncrement n) := by
  obtain ⟨⟨server₀, hserver, hstart, hserverRun⟩, hparticipants⟩ := hfrom
  have hclock₀ := serverClock_of_run (serverClock_of_firstInit hserver) hserverRun
  rw [hstart] at hclock₀
  cases p with
  | none =>
    have hclock := serverClock_of_run hclock₀ (serverRun_of_fleetRun (g := g) hrun)
    refine ⟨ticksOf h none + serverCalls g, 0, Nat.zero_le _, rfl, ?_⟩
    have hshows := hclock.shows
    rw [serverCalls_append] at hshows
    exact hshows
  | some i =>
    obtain ⟨participant₀, g', hparticipant, hparticipantRun⟩ := hparticipants i
    obtain ⟨hvalid, T, k, fv, newer, hk, hadopted, hkept⟩ := hsync
    have hpair := distributionRun_of_fleetRun i hrun
    have hclock : ServerClock start (s.pair i).server (serverEvents (pairEvents i h) ++ g) :=
      serverClock_of_run hclock₀ (serverRun_of_run (Q := Anything) hpair fun _ _ _ _ => trivial)
    obtain ⟨-, hlineage⟩ := lineage_of_run hparticipant
      (hparticipantRun.trans (participantRun_of_view hpair))
    obtain ⟨a, -, hticks, -, hshows⟩ :=
      shows_of_adoptedAfter hadopted hkept hvalid hclock hlineage
    obtain ⟨hsigned, hphase⟩ := hadopted.signed hclock
    refine ⟨T + serverCalls g + participantTicks newer, k, hk, ?_, ?_⟩
    · show _ = participantTicks (pairEvents i h) + serverCalls g
      omega
    · exact hshows.from_start hsigned hphase

/-- **One step between any two parties.**  A fleet runs in lock-step, and every
participant adopts with a delay of at most 19 ticks.  Then the freshness value of
any party is the value of any other one or a neighbour of it. -/
theorem fleet_within_one_step (hfrom : FromFirstInit start g s₀)
    (hrun : Run fleetStep FleetLockStep s₀ [] s h) (hp : SynchronisedWithin 19 s h p)
    (hq : SynchronisedWithin 19 s h q) : (s.manager p).mFV ∈ (s.manager q).neighbours := by
  obtain ⟨-, hclose⟩ := ticks_within_one_of_fleetRun hfrom.ready hrun
  obtain ⟨n, k, hk, hn, hshows⟩ := position_of_synchronised hfrom hrun hp
  obtain ⟨m, k', hk', hm, hshows'⟩ := position_of_synchronised hfrom hrun hq
  have hpq := hclose p q
  have hqp := hclose q p
  exact mem_neighbours_of_shows hshows hshows' (by omega) (by omega)

/-- The history of a participant that is synchronised. -/
theorem synchronisedWithin_of_eq {T k : Nat} {fv : UInt64} {client : String} {keyId : UInt16}
    {challenge data mac : ByteVector} {newer between older : List DistributionEvent}
    (hvalid : (s.participant i).mIsFvValid = true)
    (hh : pairEvents i h = newer ++ .participant (.adopted fv) :: between ++
      .server (.answered client keyId challenge fv data mac) :: older)
    (hsigned : serverTicks older = T)
    (hadopted : participantTicks
      (between ++ .server (.answered client keyId challenge fv data mac) :: older) = T + k)
    (hk : k ≤ delay) (hkept : ∀ e ∈ participantEvents newer, e.adoption = none) :
    SynchronisedWithin delay s h (some i) := by
  refine ⟨hvalid, T, k, fv, newer, hk, .of_eq hh hsigned hadopted, ?_⟩
  intro fv' hmem
  have hnone := hkept (.adopted fv') (List.mem_filterMap.mpr ⟨_, hmem, rfl⟩)
  cases hnone

end Fleets

/-! ### A fleet of two -/

/-- The configuration of a participant with an identifier for messages. -/
def fleetConfig : SokFmConfig :=
  { participantConfig with
    mAuthBroadcastConfig := AList.insert 1 ⟨.kVwSokFreshnessValue, 0, 0⟩ ∅ }

/-- A server and two participants after their first `Init`, for runs on concrete
inputs. -/
def firstFleet : Fleet Bool where
  server := firstServer
  participant _ := FreshnessValueManagerImplParticipant.derivedClass.initialised
    (reliableInit fleetConfig) (.construct .construct)

theorem fromFirstInit_firstFleet : FromFirstInit firstServer.mFV [] firstFleet :=
  ⟨⟨firstServer, firstInit_firstServer, rfl, .refl⟩, fun _ =>
    ⟨_, [], ⟨reliableInit fleetConfig, DerivedClass.init_eq_initialised (by decide +kernel)⟩,
      .refl⟩⟩

/-- Ticks in which the server comes first. -/
def fleetTicks (n : Nat) : List (FleetOp Bool) :=
  (List.replicate n [.atServer (.mainFunction reliableServices),
    .atParticipant false (.mainFunction zeroDigestCsm reliableSignals),
    .atParticipant true (.mainFunction zeroDigestCsm reliableSignals)]).flatten

/-- The fleet runs for twenty ticks, and in the next one the server signs and both
participants adopt. -/
def fleetSynchronisation : List (FleetOp Bool) :=
  [.atServer (.incomingAuthFvChallengeSignal "SOK_Zeit_SINK_Challenge" (.replicate 8 7))] ++
  fleetTicks 20 ++
  [.atServer (.mainFunction reliableServices),
    .atParticipant false (.incomingAuthFvSignal "SOK_Zeit_SINK_Zeit" [0, 7, 7, 7, 7, 7, 7, 8]),
    .atParticipant false (.incomingAuthFvSignal "SOK_Zeit_SINK_Signatur" (.replicate 8 0)),
    .atParticipant true (.incomingAuthFvSignal "SOK_Zeit_SINK_Zeit" [0, 7, 7, 7, 7, 7, 7, 8]),
    .atParticipant true (.incomingAuthFvSignal "SOK_Zeit_SINK_Signatur" (.replicate 8 0)),
    .atParticipant false (.mainFunction zeroDigestCsm reliableSignals),
    .atParticipant true (.mainFunction zeroDigestCsm reliableSignals)]

/-- The participant `i` has adopted the answer of `fleetSynchronisation`, with `n`
events since. -/
def AdoptedBefore (n : Nat) (i : Bool) (s : Fleet Bool) (h : List (FleetEvent Bool)) : Prop :=
  (s.participant i).mIsFvValid = true ∧
    pairEvents i h = (pairEvents i h).take n ++ .participant (.adopted 0x07070707070708) ::
      ((pairEvents i h).drop (n + 1)).take 5 ++ signedResponse :: (pairEvents i h).drop (n + 7) ∧
    serverTicks ((pairEvents i h).drop (n + 7)) = 20 ∧
    participantTicks (((pairEvents i h).drop (n + 1)).take 5 ++
      signedResponse :: (pairEvents i h).drop (n + 7)) = 20 + 0 ∧
    ∀ e ∈ participantEvents ((pairEvents i h).take n), e.adoption = none

instance (n : Nat) (i : Bool) (s : Fleet Bool) (h : List (FleetEvent Bool)) :
    Decidable (AdoptedBefore n i s h) :=
  inferInstanceAs (Decidable (_ ∧ _ ∧ _ ∧ _ ∧ _))

theorem AdoptedBefore.synchronised {n : Nat} {i : Bool} {s : Fleet Bool}
    {h : List (FleetEvent Bool)} (hadopted : AdoptedBefore n i s h) (delay : Nat) :
    SynchronisedWithin delay s h (some i) := by
  obtain ⟨hvalid, hhistory, hsigned, hticks, hkept⟩ := hadopted
  exact synchronisedWithin_of_eq hvalid hhistory hsigned hticks (Nat.zero_le _) hkept

theorem fleet_within_one_step_synchronised :
    ∃ s h, Run fleetStep FleetLockStep firstFleet [] s h ∧
      SynchronisedWithin 19 s h (some false) ∧ SynchronisedWithin 19 s h (some true) ∧
      (s.manager (some false)).mFV ∈ (s.manager (some true)).neighbours := by
  obtain ⟨s, h, hrun, hfalse, htrue⟩ : ∃ s h, Run fleetStep FleetLockStep firstFleet [] s h ∧
      (AdoptedBefore 43 false s h ∧ AdoptedBefore 43 true s h) :=
    Run.exists_of_exec_of_meets (fleetSynchronisation ++ fleetTicks 21) (by decide +kernel)
      (by decide +kernel)
  exact ⟨s, h, hrun, hfalse.synchronised 19, htrue.synchronised 19,
    fleet_within_one_step fromFirstInit_firstFleet hrun (hfalse.synchronised 19)
      (htrue.synchronised 19)⟩

end Sok.Fvm
