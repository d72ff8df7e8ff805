import SokFvm.Fvm.Distribution
import SokFvm.Fvm.ServerClock

/-!
# Server and participant in lock-step

Server and participant call their main functions once in each tick, in either
order.  The participant adopts in tick `T + k` what the server signed in tick `T`,
and from then on there are two clocks that count the same ticks.

The server signs right after an increment, so its clock stands at zero at tick `T`
(`ServerClock`).  The participant sets its clock to zero at tick `T + k`
(`Lineage`).  So the participant runs behind by `k` ticks, or one more within a
tick, and for `k` up to 19 that is at most one period.

* `serverEvents` and `participantEvents` are the two sides of a history, and a run
  of the system is a run of each side: `serverRun_of_run`, `participantRun_of_view`.
* `LockStep` is the guard, and `ticks_within_one` what it means for the ticks.
* `clocks_within_one_step` is the result.
-/

namespace Sok.Fvm

open Sok.Common StateMachine Cadence

/-! ## The two sides of a history -/

def DistributionEvent.server? : DistributionEvent → Option ServerEvent
  | .server e => some e
  | .participant _ => none

def DistributionEvent.participant? : DistributionEvent → Option ParticipantEvent
  | .server _ => none
  | .participant e => some e

/-- The server's side of a history. -/
def serverEvents (h : List DistributionEvent) : List ServerEvent :=
  h.filterMap (·.server?)

/-- The participant's side of a history. -/
def participantEvents (h : List DistributionEvent) : List ParticipantEvent :=
  h.filterMap (·.participant?)

/-- The ticks that the server has seen. -/
def serverTicks (h : List DistributionEvent) : Nat :=
  serverCalls (serverEvents h)

/-- The ticks that the participant has seen. -/
def participantTicks (h : List DistributionEvent) : Nat :=
  (participantEvents h).count .mainFunctionCompleted

variable {s s' s₀ : Distribution} {h h' newer between older : List DistributionEvent}
variable {es : List DistributionEvent} {op : DistributionOp}
variable {P : Guard Distribution DistributionOp DistributionEvent}
variable {g : List ServerEvent} {g' : List ParticipantEvent}

@[simp] theorem serverEvents_append : serverEvents (h' ++ h) = serverEvents h' ++ serverEvents h :=
  List.filterMap_append

@[simp] theorem participantEvents_append :
    participantEvents (h' ++ h) = participantEvents h' ++ participantEvents h :=
  List.filterMap_append

@[simp] theorem serverEvents_cons_server (e : ServerEvent) :
    serverEvents (.server e :: h) = e :: serverEvents h := rfl

@[simp] theorem serverEvents_cons_participant (e : ParticipantEvent) :
    serverEvents (.participant e :: h) = serverEvents h := rfl

@[simp] theorem participantEvents_cons_server (e : ServerEvent) :
    participantEvents (.server e :: h) = participantEvents h := rfl

@[simp] theorem participantEvents_cons_participant (e : ParticipantEvent) :
    participantEvents (.participant e :: h) = e :: participantEvents h := rfl

@[simp] theorem serverEvents_map_server (g : List ServerEvent) :
    serverEvents (g.map .server) = g := by
  induction g with
  | nil => rfl
  | cons e g ih => simp [ih]

@[simp] theorem serverEvents_map_participant (g : List ParticipantEvent) :
    serverEvents (g.map .participant) = [] := by
  induction g with
  | nil => rfl
  | cons e g ih => simp [ih]

@[simp] theorem participantEvents_map_server (g : List ServerEvent) :
    participantEvents (g.map .server) = [] := by
  induction g with
  | nil => rfl
  | cons e g ih => simp [ih]

@[simp] theorem participantEvents_map_participant (g : List ParticipantEvent) :
    participantEvents (g.map .participant) = g := by
  induction g with
  | nil => rfl
  | cons e g ih => simp [ih]

theorem serverTicks_append : serverTicks (h' ++ h) = serverTicks h' + serverTicks h := by
  unfold serverTicks
  rw [serverEvents_append, serverCalls_append]

theorem participantTicks_append :
    participantTicks (h' ++ h) = participantTicks h' + participantTicks h := by
  unfold participantTicks
  rw [participantEvents_append, List.count_append]

/-- The server's part of a run. -/
theorem serverRun_of_run {Q : Guard FreshnessValueManagerImplServer ServerOp ServerEvent}
    (hrun : Run distributionStep P s₀ [] s h)
    (hguard : ∀ s h op, P s h (.atServer op) → Q s.server (serverEvents h ++ g) op) :
    Run serverStep Q s₀.server g s.server (serverEvents h ++ g) := by
  refine hrun.project Distribution.server (fun h => serverEvents h ++ g) ?_
  intro s h op s' es hmeets hstep
  rcases distributionStep_cases hstep with ⟨op', server, es', hop, hserver, hs', hes⟩ |
    ⟨op', participant, es', -, -, hs', hes⟩
  · subst hop hs' hes
    rw [serverEvents_append, serverEvents_map_server, List.append_assoc]
    exact .single (hguard _ _ _ hmeets) hserver
  · subst hs' hes
    rw [serverEvents_append, serverEvents_map_participant, List.nil_append]
    exact .refl

/-- The participant's part of a run. -/
theorem participantRun_of_view (hrun : Run distributionStep P s₀ [] s h) :
    Run participantStep Anything s₀.participant g' s.participant
      (participantEvents h ++ g') := by
  refine hrun.project Distribution.participant (fun h => participantEvents h ++ g') ?_
  intro s h op s' es _ hstep
  rcases distributionStep_cases hstep with ⟨op', server, es', -, -, hs', hes⟩ |
    ⟨op', participant, es', -, hparticipant, hs', hes⟩
  · subst hs' hes
    rw [participantEvents_append, participantEvents_map_server, List.nil_append]
    exact .refl
  · subst hs' hes
    rw [participantEvents_append, participantEvents_map_participant, List.append_assoc]
    exact .single trivial hparticipant

/-! ## Lock-step -/

/-- Each side calls its main function once in each tick: neither calls it again
before the other one has called it, too. -/
def LockStep : Guard Distribution DistributionOp DistributionEvent := fun _ h op =>
  match op with
  | .atServer (.mainFunction _) => serverTicks h ≤ participantTicks h
  | .atParticipant (.mainFunction _ _) => participantTicks h ≤ serverTicks h
  | _ => True

instance (s : Distribution) (h : List DistributionEvent) : DecidablePred (LockStep s h)
  | .atServer (.mainFunction _) | .atParticipant (.mainFunction _ _) =>
    inferInstanceAs (Decidable (_ ≤ _))
  | .atServer (.incomingAuthFvChallengeSignal _ _) | .atServer (.call _)
  | .atParticipant (.incomingAuthFvSignal _ _)
  | .atParticipant (.incomingUnAuthFvSignal _ _) | .atParticipant (.call _) => .isTrue trivial

/-- The freshness value of the server fits into the seven bytes of a response. -/
def BelowLimit : Guard Distribution DistributionOp DistributionEvent := fun s _ _ =>
  s.server.mFV.toNat < 2 ^ 56

instance (s : Distribution) (h : List DistributionEvent) : DecidablePred (BelowLimit s h) :=
  fun _ => inferInstanceAs (Decidable (_ < _))

/-- Server and participant are initialised. -/
structure BothReady (s : Distribution) : Prop where
  server : s.server.mInitialized = true
  participant : Ready s.participant

theorem BothReady.step (hready : BothReady s) (hstep : distributionStep s op = .ok (s', es)) :
    BothReady s' := by
  rcases distributionStep_cases hstep with ⟨op', server, es', -, hserver, hs', -⟩ |
    ⟨op', participant, es', -, hparticipant, hs', -⟩
  · subst hs'
    have hsetup := (sameSetup_of_serverStep hserver).mInitialized
    exact ⟨hsetup.trans hready.server, hready.participant⟩
  · subst hs'
    exact ⟨hready.server, (requestCycle_step hready.participant hparticipant).ready⟩

/-- A step ticks one side, by a call of its main function, or none. -/
theorem ticks_of_step (hready : BothReady s) (hstep : distributionStep s op = .ok (s', es)) :
    (serverTicks es = 0 ∧ participantTicks es = 0) ∨
      (serverTicks es = 1 ∧ participantTicks es = 0 ∧
        ∃ services, op = .atServer (.mainFunction services)) ∨
      (serverTicks es = 0 ∧ participantTicks es = 1 ∧
        ∃ csm signals, op = .atParticipant (.mainFunction csm signals)) := by
  unfold serverTicks participantTicks
  rcases distributionStep_cases hstep with ⟨op', server, es', hop, hserver, -, hes⟩ |
    ⟨op', participant, es', hop, hparticipant, -, hes⟩
  · subst hop hes
    rw [serverEvents_map_server, participantEvents_map_server]
    cases serverClockStep_of_step hready.server hserver with
    | ticks hop ret sent hes hsent =>
      obtain ⟨services, rfl⟩ := hop
      have hquiet : ∀ e ∈ sent, e.returned = none := fun e hmem => (hsent e hmem).quiet
      subst hes
      right
      left
      exact ⟨serverCalls_completed hquiet, rfl, services, rfl⟩
    | calls hquiet =>
      left
      exact ⟨serverCalls_of_quiet hquiet, rfl⟩
  · subst hop hes
    rw [serverEvents_map_participant, participantEvents_map_participant]
    cases fvStep_of_step hready.participant hparticipant with
    | adopts csm signals hop hverified hes =>
      subst hop hes
      exact Or.inr (Or.inr ⟨rfl, rfl, csm, signals, rfl⟩)
    | invalidates hop hfrom hes =>
      obtain ⟨csm, signals, rfl⟩ := hop
      subst hes
      exact Or.inr (Or.inr ⟨rfl, rfl, csm, signals, rfl⟩)
    | ticks hop hadoption hcompleted =>
      obtain ⟨csm, signals, rfl⟩ := hop
      exact Or.inr (Or.inr ⟨rfl, hcompleted, csm, signals, rfl⟩)
    | calls hop hadoption hcompleted => exact Or.inl ⟨rfl, hcompleted⟩

/-- Run lemma: in lock-step neither side is more than one tick ahead. -/
theorem ticks_within_one (hstart : BothReady s₀) (hlock : ∀ s h op, P s h op → LockStep s h op)
    (hrun : Run distributionStep P s₀ [] s h) :
    BothReady s ∧ serverTicks h ≤ participantTicks h + 1 ∧
      participantTicks h ≤ serverTicks h + 1 := by
  refine hrun.invariant (fun s h => BothReady s ∧ serverTicks h ≤ participantTicks h + 1 ∧
    participantTicks h ≤ serverTicks h + 1) ⟨hstart, Nat.zero_le _, Nat.zero_le _⟩ ?_
  intro s h op s' es ⟨hready, hserver, hparticipant⟩ hmeets hstep
  have hguard := hlock _ _ _ hmeets
  refine ⟨hready.step hstep, ?_⟩
  rw [serverTicks_append, participantTicks_append]
  rcases ticks_of_step hready hstep with ⟨hs, hp⟩ | ⟨hs, hp, services, rfl⟩ |
    ⟨hs, hp, csm, signals, rfl⟩
  · omega
  · have hle : serverTicks h ≤ participantTicks h := hguard
    omega
  · have hle : participantTicks h ≤ serverTicks h := hguard
    omega

/-! ## The adoption -/

/-- In tick `T + k` the participant adopted the value that the server had signed in
tick `T`, and `newer` is what has happened since. -/
inductive AdoptedAfter (T k : Nat) (fv : UInt64) (newer : List DistributionEvent) :
    List DistributionEvent → Prop
  | intro (between older : List DistributionEvent) (client : String) (keyId : UInt16)
      (challenge data mac : ByteVector) (hsigned : serverTicks older = T)
      (hadopted : participantTicks
        (between ++ .server (.answered client keyId challenge fv data mac) :: older) = T + k) :
      AdoptedAfter T k fv newer (newer ++ .participant (.adopted fv) :: between ++
        .server (.answered client keyId challenge fv data mac) :: older)

theorem AdoptedAfter.of_eq {T k : Nat} {fv : UInt64} {client : String} {keyId : UInt16}
    {challenge data mac : ByteVector}
    (hh : h = newer ++ .participant (.adopted fv) :: between ++
      .server (.answered client keyId challenge fv data mac) :: older)
    (hsigned : serverTicks older = T)
    (hadopted : participantTicks
      (between ++ .server (.answered client keyId challenge fv data mac) :: older) = T + k) :
    AdoptedAfter T k fv newer h := by
  rw [hh]
  exact .intro _ _ _ _ _ _ _ hsigned hadopted

/-- There has been no other adoption since. -/
def NoAdoption (newer : List DistributionEvent) : Prop :=
  ∀ fv, .participant (.adopted fv) ∉ newer

variable {T k : Nat} {fv : UInt64}

theorem adoption_participantEvents (hkept : NoAdoption newer) :
    ∀ e ∈ participantEvents newer, e.adoption = none := by
  intro e hmem
  obtain ⟨e', hmem', hview⟩ := List.mem_filterMap.mp hmem
  cases e' with
  | server e' => cases hview
  | participant e' =>
    cases hview
    cases e with
    | adopted fv => exact absurd hmem' (hkept fv)
    | _ => rfl

/-- The two clocks: each side shows the value with the ticks it has seen since. -/
theorem shows_of_adoptedAfter {start : UInt64} (hadopted : AdoptedAfter T k fv newer h)
    (hkept : NoAdoption newer) (hvalid : s.participant.mIsFvValid = true)
    (hclock : ServerClock start s.server (serverEvents h ++ g))
    (hlineage : Lineage s.participant (participantEvents h ++ g')) :
    ∃ a, serverTicks h = T + a ∧ participantTicks h = T + k + participantTicks newer ∧
      Shows s.server.toAFreshnessValueManagerImpl fv (after ticksPerIncrement a) ∧
      Shows s.participant.toAFreshnessValueManagerImpl fv
        (after ticksPerIncrement (participantTicks newer)) := by
  obtain ⟨between, older, client, keyId, challenge, data, mac, hsigned, hticks⟩ := hadopted
  have hnone := adoption_participantEvents hkept
  refine ⟨serverTicks (newer ++ between), ?_, ?_, ?_, ?_⟩
  · rw [serverTicks_append, serverTicks_append, serverTicks_append, ← hsigned]
    show serverTicks newer + serverTicks between + serverTicks older = _
    omega
  · rw [List.append_assoc, participantTicks_append, ← hticks]
    show _ + participantTicks (between ++ _) = _
    omega
  · have hview : serverEvents (newer ++ .participant (.adopted fv) :: between ++
        .server (.answered client keyId challenge fv data mac) :: older) ++ g =
        serverEvents (newer ++ between) ++
          .answered client keyId challenge fv data mac :: (serverEvents older ++ g) := by
      simp
    rw [hview] at hclock
    exact hclock.shows_since_answered
  · have hview : participantEvents (newer ++ .participant (.adopted fv) :: between ++
        .server (.answered client keyId challenge fv data mac) :: older) ++ g' =
        participantEvents newer ++ .adopted fv ::
          (participantEvents between ++ participantEvents older ++ g') := by
      simp
    rw [hview] at hlineage
    obtain ⟨fv', hlast, hshows⟩ := hlineage.descends hvalid
    rw [lastAdoption_append hnone] at hlast
    cases Option.some.inj hlast
    rw [callsSinceAdoption_append hnone] at hshows
    exact hshows

/-! ## The distance of the two clocks -/

section Distance

variable {s t : AFreshnessValueManagerImpl} {a b : Nat}

theorem mem_neighbours {x : UInt64} :
    x ∈ s.neighbours ↔ x = s.mFV ∨ x = s.mFV - 1 ∨ x = s.mFV + 1 := by
  simp [AFreshnessValueManagerImpl.neighbours]

/-- Two readings that are at most one period apart show neighbours. -/
theorem mem_neighbours_of_shows (hs : Shows s fv (after ticksPerIncrement a))
    (ht : Shows t fv (after ticksPerIncrement b)) (hab : a ≤ b + 20) (hba : b ≤ a + 20) :
    s.mFV ∈ t.neighbours := by
  have hpos : 0 < ticksPerIncrement := by decide
  have hab' := count_le_succ (n := a) (m := b) hpos hab
  have hba' := count_le_succ (n := b) (m := a) hpos hba
  rw [mem_neighbours, hs.mFV, ht.mFV]
  rcases (by omega : (after ticksPerIncrement a).count = (after ticksPerIncrement b).count ∨
      (after ticksPerIncrement b).count = (after ticksPerIncrement a).count + 1 ∨
      (after ticksPerIncrement a).count = (after ticksPerIncrement b).count + 1) with h | h | h
  · rw [h]
    exact Or.inl rfl
  · rw [h, UInt64.ofNat_add, ← UInt64.add_assoc]
    exact Or.inr (Or.inl (UInt64.add_sub_cancel _ _).symm)
  · rw [h, UInt64.ofNat_add, ← UInt64.add_assoc]
    exact Or.inr (Or.inr rfl)

/-- The same for the integers, where neither value has wrapped around. -/
theorem natAbs_le_one_of_shows (ht : Shows t fv (after ticksPerIncrement b))
    (hab : a ≤ b + 20) (hba : b ≤ a + 20) (hwhole : s.mFV.toNat = fv.toNat + a / 20)
    (hbelow : s.mFV.toNat < 2 ^ 56) :
    ((s.mFV.toNat : Int) - t.mFV.toNat).natAbs ≤ 1 := by
  have ht' : t.mFV.toNat = fv.toNat + b / 20 := by
    have hb : (UInt64.ofNat (b / 20)).toNat = b / 20 := by
      rw [UInt64.toNat_ofNat', Nat.mod_eq_of_lt (by omega)]
    rw [ht.mFV]
    show (fv + UInt64.ofNat (b / 20)).toNat = _
    rw [UInt64.toNat_add, hb, Nat.mod_eq_of_lt (by omega)]
  omega

end Distance

/-- The server has not wrapped around since it signed. -/
theorem toNat_of_progress {server : FreshnessValueManagerImplServer} {a : Nat}
    {calls calls₀ : Nat}
    (hprogress : server.mFV.toNat + calls₀ / 20 = s₀.server.mFV.toNat + calls / 20)
    (hshows : Shows server.toAFreshnessValueManagerImpl fv (after ticksPerIncrement a))
    (hle : a + calls₀ ≤ calls) (hbelow : server.mFV.toNat < 2 ^ 56) :
    server.mFV.toNat = fv.toNat + a / 20 := by
  have hsum : server.mFV.toNat = (fv.toNat + (UInt64.ofNat (a / 20)).toNat) % 2 ^ 64 := by
    rw [hshows.mFV]
    exact UInt64.toNat_add _ _
  have ha : (UInt64.ofNat (a / 20)).toNat = a / 20 := by
    rw [UInt64.toNat_ofNat', Nat.mod_eq_of_lt (by omega)]
  have hlt := fv.toNat_lt
  rw [ha] at hsum
  omega

/-- A list that is built while the value is valid has the neighbours. -/
theorem neighbours_subset_of_buildRxCandidates {t t' : AFreshnessValueManagerImpl}
    {id : SokFreshnessValueId} (hvalid : t.mIsFvValid = true)
    (hbuild : t.buildRxCandidates id = .ok t') :
    ∃ rxCandList, t'.mFvRxCandidates.lookup id = some rxCandList ∧
      ∀ x ∈ t.neighbours, x ∈ rxCandList := by
  rw [AFreshnessValueManagerImpl.buildRxCandidates_eq (by rw [hvalid]; rfl)] at hbuild
  split at hbuild
  · cases hbuild
  · cases hbuild
    refine ⟨t.rxCandidateList id, AFreshnessValueManagerImpl.candidates_setRxCandidates_self _, ?_⟩
    intro x hmem
    unfold AFreshnessValueManagerImpl.rxCandidateList
    rw [hvalid, if_neg (by decide)]
    split
    · exact List.mem_cons_of_mem _ hmem
    · exact hmem

/-- A list that a reception builds, after it has used its session counter. -/
theorem neighbours_subset_of_reception {t t' : AFreshnessValueManagerImpl}
    {id : SokFreshnessValueId} {type : SokFreshnessType} (hvalid : t.mIsFvValid = true)
    (hbuild : (t.consumeSessionCounter id type).buildRxCandidates id = .ok t') :
    ∃ rxCandList, t'.mFvRxCandidates.lookup id = some rxCandList ∧
      ∀ x ∈ t.neighbours, x ∈ rxCandList := by
  have hsame : (t.consumeSessionCounter id type).mIsFvValid = t.mIsFvValid ∧
      (t.consumeSessionCounter id type).neighbours = t.neighbours := by
    rw [AFreshnessValueManagerImpl.consumeSessionCounter_eq]
    exact ⟨rfl, rfl⟩
  rw [← hsame.2]
  exact neighbours_subset_of_buildRxCandidates (hsame.1.trans hvalid) hbuild

/-- **One step.**  Server and participant run in lock-step, and the participant
adopted in tick `T + k`, for `k` up to 19, what the server had signed in tick `T`.
As long as the participant has neither invalidated its value nor adopted another
one, the two freshness values are at most one apart, and what the server puts into
a message on an identifier in use is among the candidates of the participant. -/
theorem clocks_within_one_step {server₀ : FreshnessValueManagerImplServer}
    {participant₀ : FreshnessValueManagerImplParticipant}
    (hserver : server₀.FirstInit) (hparticipant : participant₀.FirstInit)
    (hserverRun : Run serverStep Anything server₀ [] s₀.server g)
    (hparticipantRun : Run participantStep Anything participant₀ [] s₀.participant g')
    (hrun : Run distributionStep (fun s h op => LockStep s h op ∧ BelowLimit s h op) s₀ [] s h)
    (hbelow : s.server.mFV.toNat < 2 ^ 56) (hadopted : AdoptedAfter T k fv newer h)
    (hk : k ≤ 19) (hkept : NoAdoption newer) (hvalid : s.participant.mIsFvValid = true) :
    ((s.server.mFV.toNat : Int) - s.participant.mFV.toNat).natAbs ≤ 1 ∧
    (∀ id type bytes, s.server.mFvmConfAccessor.getEntryTypeByFvId id = .ok type →
      AFreshnessValueManagerImpl.IsTxFvType type → s.server.mAttrMgr.isActive id = true →
      (s.server.getTxFreshness id).1 = .ok bytes →
      ∃ x ∈ s.participant.neighbours, bytes.take 8 = uintToByteVector x) ∧
    ∀ id type t, (s.participant.consumeSessionCounter id type).buildRxCandidates id = .ok t →
      ∃ rxCandList, t.mFvRxCandidates.lookup id = some rxCandList ∧
        ∀ x ∈ s.participant.neighbours, x ∈ rxCandList := by
  obtain ⟨hready₀, -⟩ := lineage_of_run hparticipant hparticipantRun
  have hclock₀ := serverClock_of_run (serverClock_of_firstInit hserver) hserverRun
  obtain ⟨hready, hticks⟩ := ticks_within_one ⟨hclock₀.mInitialized, hready₀⟩
    (fun _ _ _ hmeets => hmeets.1) hrun
  have hserverRun' : Run serverStep ServerBelowLimit s₀.server g s.server (serverEvents h ++ g) :=
    serverRun_of_run hrun fun _ _ _ hmeets => hmeets.2
  have hclock := serverClock_of_run hclock₀ hserverRun'
  obtain ⟨-, hlineage⟩ := lineage_of_run hparticipant
    (hparticipantRun.trans (participantRun_of_view hrun))
  obtain ⟨a, hserverTicks, hparticipantTicks, hs, hp⟩ :=
    shows_of_adoptedAfter hadopted hkept hvalid hclock hlineage
  -- the participant is behind by `k` ticks, and by one more within a tick
  have hab : a ≤ participantTicks newer + 20 := by omega
  have hba : participantTicks newer ≤ a + 20 := by omega
  have hneighbour := mem_neighbours_of_shows hs hp hab hba
  refine ⟨?_, ?_, fun _ _ _ hbuild => neighbours_subset_of_reception hvalid hbuild⟩
  · have hcalls : a + serverCalls g ≤ serverCalls (serverEvents h ++ g) := by
      rw [serverCalls_append]
      show a + serverCalls g ≤ serverTicks h + serverCalls g
      omega
    have hwhole := toNat_of_progress (progress_of_run hclock₀ hserverRun').mFV hs hcalls hbelow
    exact natAbs_le_one_of_shows hp hab hba hwhole hbelow
  · intro id type bytes htype htx hactive hbytes
    rw [AFreshnessValueManagerImpl.getTxFreshness_eq hready.server htype htx] at hbytes
    refine ⟨s.server.mFV, hneighbour, ?_⟩
    rw [← Except.ok.inj hbytes, AFreshnessValueManagerImpl.take_getTxFv,
      AFreshnessValueManagerImpl.chooseTxFv, hactive, hclock.mIsFvValid]
    rfl

/-- The configuration of a server with one client. -/
def serverConfig : SokFmConfig :=
  { (FreshnessValueManagerConfigAccessor.ofClient "SINK" 132).mConfig with
    mChallengesConfig := (challengeConfig .kVwSokFreshnessCrChallenge).mChallengesConfig }

/-- A server after its first `Init`, for runs on concrete inputs. -/
def firstServer : FreshnessValueManagerImplServer :=
  FreshnessValueManagerImplServer.derivedClass.initialised (reliableInit serverConfig)
    (.construct .construct)

theorem firstInit_firstServer : firstServer.FirstInit :=
  ⟨reliableInit serverConfig, DerivedClass.init_eq_initialised (by decide +kernel)⟩

def firstDistribution : Distribution :=
  ⟨firstServer, firstParticipant⟩

/-- Ticks in which the server comes first. -/
def lockStepTicks (ticks : Nat) : List DistributionOp :=
  (List.replicate ticks [.atServer (.mainFunction reliableServices),
    .atParticipant (.mainFunction zeroDigestCsm reliableSignals)]).flatten

/-- Server and participant run for twenty ticks, and in the next one the server
signs and the participant adopts. -/
def synchronisation : List DistributionOp :=
  [.atServer (.incomingAuthFvChallengeSignal "SOK_Zeit_SINK_Challenge" (.replicate 8 7))] ++
  lockStepTicks 20 ++
  [.atServer (.mainFunction reliableServices),
    .atParticipant (.incomingAuthFvSignal "SOK_Zeit_SINK_Zeit" [0, 7, 7, 7, 7, 7, 7, 8]),
    .atParticipant (.incomingAuthFvSignal "SOK_Zeit_SINK_Signatur" (.replicate 8 0)),
    .atParticipant (.mainFunction zeroDigestCsm reliableSignals)]

/-- The response of the run `synchronisation`. -/
def signedResponse : DistributionEvent :=
  .server (.answered "SINK" 132 (.replicate 8 7) 0x07070707070708
    (.replicate 8 7 ++ [7, 7, 7, 7, 7, 7, 8]) (.replicate 8 0))

theorem clocks_within_one_step_synchronised :
    ∃ s h newer, Run distributionStep (fun s h op => LockStep s h op ∧ BelowLimit s h op)
        firstDistribution [] s h ∧
      AdoptedAfter 20 0 0x07070707070708 newer h ∧ NoAdoption newer ∧
      ((s.server.mFV.toNat : Int) - s.participant.mFV.toNat).natAbs ≤ 1 := by
  obtain ⟨s, h, hrun, hbelow, hvalid, hhistory, hsigned, hadopted, hkept⟩ :
      ∃ s h, Run distributionStep (fun s h op => LockStep s h op ∧ BelowLimit s h op)
          firstDistribution [] s h ∧
        (s.server.mFV.toNat < 2 ^ 56 ∧ s.participant.mIsFvValid = true ∧
          h = h.take 43 ++ .participant (.adopted 0x07070707070708) :: (h.drop 44).take 5 ++
            signedResponse :: h.drop 50 ∧
          serverTicks (h.drop 50) = 20 ∧
          participantTicks ((h.drop 44).take 5 ++ signedResponse :: h.drop 50) = 20 + 0 ∧
          ∀ e ∈ participantEvents (h.take 43), e.adoption = none) :=
    Run.exists_of_exec_of_meets (synchronisation ++ lockStepTicks 21) (by decide +kernel)
      (by decide +kernel)
  have hadoptedAfter : AdoptedAfter 20 0 0x07070707070708 (h.take 43) h :=
    .of_eq hhistory hsigned hadopted
  have hkept' : NoAdoption (h.take 43) := by
    intro fv hmem
    have hnone := hkept (.adopted fv) (List.mem_filterMap.mpr ⟨_, hmem, rfl⟩)
    cases hnone
  exact ⟨s, h, h.take 43, hrun, hadoptedAfter, hkept',
    (clocks_within_one_step firstInit_firstServer firstInit_firstParticipant .refl .refl hrun
      hbelow hadoptedAfter (by decide) hkept' hvalid).1⟩

end Sok.Fvm
