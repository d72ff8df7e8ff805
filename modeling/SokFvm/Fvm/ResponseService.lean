import SokFvm.Fvm.LockStep
import SokFvm.Fvm.ServerRounds

/-!
# What becomes of a challenge

A server answers the challenges that are booked in rounds.

* **When.**  A round is due whenever the freshness value has changed, once in
  twenty calls of the main function, and it is held in the call after the change.
  `RoundClock` counts the calls since the last round; a challenge that is booked
  arrived after that round, so it waits for at most twenty calls:
  `challenge_answered_in_time`.
* **Whether.**  The loop over the challenges goes on when one of them cannot be
  answered, the map is cleared behind it, and its result is `kSuccess`.  `Fate`
  follows one challenge through the history; it is lost when its answer fails and
  the call does not fail for another reason.  `no_challenge_lost` says that this is
  the only way.
-/

namespace Sok.Fvm

open Sok.Common StateMachine Cadence FreshnessValueManagerImplServer

variable {s s' s₀ : FreshnessValueManagerImplServer} {op : ServerOp} {services : ServerServices}
variable {g h newer older : List RoundEvent} {start : UInt64} {client : String}
variable {challenge : ByteVector}

/-! ## The calls since the last round -/

/-- The calls of the main function that completed. -/
def calls (h : List RoundEvent) : Nat :=
  serverCalls (served h)

@[simp] theorem calls_append : calls (g ++ h) = calls g + calls h := by
  unfold calls
  rw [served_append, serverCalls_append]

theorem calls_map_server {es : List ServerEvent} :
    calls (es.map .server) = serverCalls es := by
  unfold calls
  rw [served_map_server]

theorem calls_since_le (mark : RoundEvent → Bool) : calls (since mark h) ≤ calls h := by
  unfold calls serverCalls served since
  exact ((List.takeWhile_sublist _).filterMap _).countP_le

/-- The clock of a server whose rounds are marked: a round is due in the call after
each change of the freshness value, and so there is one in any twenty calls. -/
structure RoundClock (start : UInt64) (s : FreshnessValueManagerImplServer)
    (h : List RoundEvent) : Prop where
  clock : ServerClock start s (served h)
  due : 0 < calls h → calls h % 20 = 0 → s.mNeedToSendAuthFvResponses = true
  since_le : calls (since RoundEvent.isRound h) ≤ 20
  since_mod : calls (since RoundEvent.isRound h) % 20 = calls h % 20

/-- The main function notices that the freshness value changes. -/
theorem mNeedToSendAuthFvResponses_of_tick (hinit : s.mInitialized = true)
    {es : List ServerEvent} (hstep : serverStep s (.mainFunction services) = .ok (s', es))
    (hchanged : s'.mFV ≠ s.mFV) : s'.mNeedToSendAuthFvResponses = true := by
  obtain ⟨ret, hresult⟩ := mainFunction_of_serverStep hstep
  obtain ⟨t, events, hrespond, hparts⟩ := mainFunction_parts hinit hresult
  have hbase := base_respondIfNeeded hrespond
  rw [broadcastIfNeeded_eq] at hbase
  have hfv : t.mFV = s.mFV := congrArg (·.mFV) hbase
  cases hparts
  have hincreased : t.toAFreshnessValueManagerImpl.incTimers.mFV ≠ t.mFV := by
    rw [hfv, ← base_advanceClock]
    exact hchanged
  unfold advanceClock
  dsimp only
  rw [if_pos hincreased]
  split
  · rfl
  · rfl

/-- The value shown after one more call differs, if it has counted on. -/
theorem ne_of_shows {t t' : AFreshnessValueManagerImpl} {n : Nat}
    (hshows : Shows t start (after ticksPerIncrement n))
    (hshows' : Shows t' start (after ticksPerIncrement (n + 1)))
    (hlast : (n + 1) % 20 = 0) : t'.mFV ≠ t.mFV := by
  have hcount : (n + 1) / 20 = n / 20 + 1 := by omega
  intro heq
  have hfv : start + UInt64.ofNat ((n + 1) / 20) = start + UInt64.ofNat (n / 20) := by
    have h := heq
    rw [hshows'.mFV, hshows.mFV] at h
    exact h
  rw [hcount, UInt64.ofNat_add, ← UInt64.add_assoc] at hfv
  have hone : start + UInt64.ofNat (n / 20) + 1 = start + UInt64.ofNat (n / 20) := hfv
  exact absurd (UInt64.add_eq_left.mp hone) (by decide)

theorem ServesClients.quiet {events : List ServerEvent}
    (hserves : ServesClients s services events s') :
    ∀ e ∈ events ++ (s.broadcastIfNeeded services.broadcastSignals).2.2, e.returned = none := by
  intro e hmem
  rcases List.mem_append.mp hmem with hmem | hmem
  · obtain ⟨client, hclient⟩ := hserves.client e hmem
    cases e with
    | mainFunctionCompleted ret => cases hclient
    | _ => rfl
  · obtain ⟨value, rfl⟩ := client_broadcastIfNeeded _ e hmem
    rfl

/-- A call of the main function completes once. -/
theorem ServesClients.serverCalls_eq {events : List ServerEvent}
    (hserves : ServesClients s services events s') (ret : FvmErrorCode) :
    serverCalls (.mainFunctionCompleted ret ::
      (events ++ (s.broadcastIfNeeded services.broadcastSignals).2.2)) = 1 :=
  serverCalls_completed hserves.quiet

theorem RoundClock.step_mainFunction {events : List ServerEvent} {ret : FvmErrorCode}
    (hclock : RoundClock start s h) (hclock' : ServerClock start s' (served (g ++ h)))
    {es : List ServerEvent} (hserver : serverStep s (.mainFunction services) = .ok (s', es))
    (hserves : ServesClients s services events s')
    (hg : g = .server (.mainFunctionCompleted ret) ::
      ((events ++ (s.broadcastIfNeeded services.broadcastSignals).2.2).map .server ++
        if s.mNeedToSendAuthFvResponses then [.round] else [])) :
    RoundClock start s' (g ++ h) := by
  have hinit := hclock.clock.mInitialized
  have hone := hserves.serverCalls_eq ret
  rw [← calls_map_server, List.map_cons] at hone
  have hquiet := isRound_map_server (.mainFunctionCompleted ret ::
    (events ++ (s.broadcastIfNeeded services.broadcastSignals).2.2))
  rw [List.map_cons] at hquiet
  have hcalls : calls (g ++ h) = 1 + calls h := by
    rw [hg, ← List.cons_append, calls_append, calls_append, hone]
    split
    · rfl
    · rfl
  have hle := calls_since_le (h := h) RoundEvent.isRound
  obtain ⟨hserverClock, hdue, hsince, hmod⟩ := hclock
  refine ⟨hclock', ?_, ?_, ?_⟩
  · intro hpos hlast
    apply mNeedToSendAuthFvResponses_of_tick hinit hserver
    have hshows' := hclock'.shows
    have hnext : serverCalls (served (g ++ h)) = serverCalls (served h) + 1 := by
      rw [Nat.add_comm]
      exact hcalls
    rw [hnext] at hshows'
    apply ne_of_shows hserverClock.shows hshows'
    show (calls h + 1) % 20 = 0
    omega
  · cases hneed : s.mNeedToSendAuthFvResponses with
    | false =>
      rw [hneed, if_neg Bool.false_ne_true, List.append_nil] at hg
      rw [hg, since_append_of_not_mark hquiet, calls_append, hone]
      -- a round would be due after twenty calls
      have hnotDue : ¬ (0 < calls h ∧ calls h % 20 = 0) := by
        intro hboth
        rw [hdue hboth.1 hboth.2] at hneed
        cases hneed
      omega
    | true =>
      rw [hneed, if_pos rfl, ← List.cons_append] at hg
      rw [hg, List.append_assoc, since_append_of_not_mark hquiet, List.singleton_append,
        since_cons_of_mark rfl, List.append_nil, hone]
      omega
  · rw [hcalls]
    cases hneed : s.mNeedToSendAuthFvResponses with
    | false =>
      rw [hneed, if_neg Bool.false_ne_true, List.append_nil] at hg
      rw [hg, since_append_of_not_mark hquiet, calls_append, hone]
      omega
    | true =>
      have hphase : calls h % 20 = 0 := hserverClock.responds hneed
      rw [hneed, if_pos rfl, ← List.cons_append] at hg
      rw [hg, List.append_assoc, since_append_of_not_mark hquiet, List.singleton_append,
        since_cons_of_mark rfl, List.append_nil, hone]
      omega

theorem RoundClock.step (hclock : RoundClock start s h) (hstep : roundStep s op = .ok (s', g)) :
    RoundClock start s' (g ++ h) := by
  have hinit := hclock.clock.mInitialized
  obtain ⟨es, hserver, hg⟩ := serverStep_of_roundStep hstep
  have hclock' : ServerClock start s' (served (g ++ h)) := by
    rw [served_append, hg, served_append, served_map_server, served_roundMark, List.append_nil]
    exact hclock.clock.step (serverClockStep_of_step hinit hserver)
  cases roundStep_of_step hinit hstep with
  | mainFunction services ret events hop hserves hg hret =>
    rw [hop] at hserver
    exact hclock.step_mainFunction hclock' hserver hserves hg
  | books signal client challenge hop hclient hknown hg hs' =>
    subst hg hs'
    have hsince : since RoundEvent.isRound ([.server (.recorded client challenge)] ++ h) =
        [.server (.recorded client challenge)] ++ since RoundEvent.isRound h :=
      since_cons_of_not_mark rfl
    have hquiet : calls [.server (.recorded client challenge)] = 0 := rfl
    refine ⟨hclock', ?_, ?_, ?_⟩
    · rw [calls_append, hquiet, Nat.zero_add]
      exact hclock.due
    · rw [hsince, calls_append, hquiet, Nat.zero_add]
      exact hclock.since_le
    · rw [hsince, calls_append, calls_append, hquiet, Nat.zero_add, Nat.zero_add]
      exact hclock.since_mod
  | quiet hop hg base hs' =>
    subst hg hs'
    exact ⟨hclock', hclock.due, hclock.since_le, hclock.since_mod⟩

variable {P : Guard FreshnessValueManagerImplServer ServerOp RoundEvent}

theorem booked_of_firstInit (hfirst : s.FirstInit) : Booked s [] := by
  obtain ⟨-, -, -, -, -, hempty⟩ := hfirst.spec
  refine ⟨?_, fun client => ?_⟩
  · intro client hmem
    rw [hempty] at hmem
    exact absurd hmem (AList.notMem_empty client)
  · rw [hempty]
    rfl

/-- Run lemma. -/
theorem roundClock_of_run (hfirst : s₀.FirstInit) (hrun : Run roundStep P s₀ [] s h) :
    RoundClock s₀.mFV s h ∧ Booked s h := by
  refine hrun.invariant (fun s h => RoundClock s₀.mFV s h ∧ Booked s h) ⟨?_, ?_⟩ ?_
  · refine ⟨serverClock_of_firstInit hfirst, ?_, Nat.zero_le _, rfl⟩
    intro hpos
    exact absurd hpos (Nat.lt_irrefl 0)
  · exact booked_of_firstInit hfirst
  · intro s h op s' g ⟨hclock, hbooked⟩ _ hstep
    exact ⟨hclock.step hstep,
      hbooked.step (roundStep_of_step hclock.clock.mInitialized hstep)⟩

/-! ## In time -/

/-- **The server answers before the participant gives up.**  In every state of every
run of an initialised server, a challenge that has seen 21 calls of the main function
since it arrived is not booked any more; what is booked is the last challenge of its
client, with fewer calls since; and a round is held in a call that starts with the
clock at zero. -/
theorem challenge_answered_in_time (hfirst : s₀.FirstInit)
    (hrun : Run roundStep Anything s₀ [] s h) :
    (∀ newer client challenge older,
        h = newer ++ .server (.recorded client challenge) :: older →
        lastChallenge client newer = none → 21 ≤ calls newer →
        s.mResponsePendingChallenges.lookup client = none) ∧
      (∀ client challenge, s.mResponsePendingChallenges.lookup client = some challenge →
        ∃ newer older, h = newer ++ .server (.recorded client challenge) :: older ∧
          lastChallenge client newer = none ∧ calls newer < 21) ∧
      21 * sokFmMainFunctionPeriodMs.toNat < sokFmTimeRequestTimeoutMs.toNat ∧
      ∀ op, opensRound s op = true → s.mClockCount = 0 := by
  obtain ⟨hclock, hbooked⟩ := roundClock_of_run hfirst hrun
  have hsince := hclock.since_le
  refine ⟨?_, ?_, by decide, ?_⟩
  · intro newer client challenge older hsplit hlast hcalls
    rw [hbooked.lookup, hsplit]
    by_cases hround : ∃ e ∈ newer, e.isRound = true
    · rw [since_append_of_mark hround]
      obtain ⟨rest, hrest⟩ : since RoundEvent.isRound newer <+: newer :=
        List.takeWhile_prefix _
      rw [← hrest] at hlast
      unfold lastChallenge at hlast ⊢
      rw [List.findSome?_append, Option.or_eq_none_iff] at hlast
      exact hlast.1
    · -- then all of `newer` would be newer than the last round
      exfalso
      have hnone : ∀ e ∈ newer, e.isRound = false := by
        intro e hmem
        cases hmark : e.isRound with
        | false => rfl
        | true => exact absurd ⟨e, hmem, hmark⟩ hround
      rw [hsplit, since_append_of_not_mark hnone, calls_append] at hsince
      omega
  · intro client challenge hlookup
    rw [hbooked.lookup] at hlookup
    obtain ⟨newer, older, hsplit, hlast⟩ := lastChallenge_eq_some hlookup
    obtain ⟨rest, hrest⟩ : since RoundEvent.isRound h <+: h := List.takeWhile_prefix _
    refine ⟨newer, older ++ rest, ?_, hlast, ?_⟩
    · rw [← hrest, hsplit, List.append_assoc, List.cons_append]
    · rw [hsplit, calls_append] at hsince
      omega
  · intro op hopens
    unfold opensRound at hopens
    split at hopens
    · rw [Bool.and_eq_true] at hopens
      have hphase := hclock.clock.responds hopens.2
      have hcount := hclock.clock.shows.mClockCount
      rw [hphase, Nat.mul_zero] at hcount
      exact UInt32.toNat_inj.mp hcount
    · cases hopens

/-- A challenge for the server with one client, and `n` calls of the main function. -/
def challengeThenCalls (n : Nat) : List ServerOp :=
  .incomingAuthFvChallengeSignal "SOK_Zeit_SINK_Challenge" (.replicate 8 7) ::
    List.replicate n (.mainFunction reliableServices)

theorem challenge_answered_in_time_at_start :
    ∃ s h newer, Run roundStep Anything firstServer [] s h ∧
      h = newer ++ [.server (.recorded "SINK" (.replicate 8 7))] ∧ calls newer = 21 ∧
      s.mResponsePendingChallenges.lookup "SINK" = none := by
  obtain ⟨s, h, hrun, hsplit, hlast, hcalls⟩ :
      ∃ s h, Run roundStep Anything firstServer [] s h ∧
        h = h.dropLast ++ [.server (.recorded "SINK" (.replicate 8 7))] ∧
        lastChallenge "SINK" h.dropLast = none ∧ calls h.dropLast = 21 :=
    Run.exists_of_exec (challengeThenCalls 21) (by decide +kernel)
  obtain ⟨hanswered, -⟩ := challenge_answered_in_time firstInit_firstServer hrun
  exact ⟨s, h, h.dropLast, hrun, hsplit, hcalls,
    hanswered _ _ _ [] hsplit hlast (by omega)⟩

/-! ## What becomes of a challenge -/

/-- What has become of a challenge. -/
inductive Fate
  | pending
  /-- A round goes on, and the value and the signature have been published or not. -/
  | attempted (value signature : Bool)
  | superseded
  | answered
  /-- The answer failed, and the main function that attempted it did not succeed. -/
  | reported
  /-- The answer failed, and the main function that attempted it succeeded. -/
  | lost
  deriving DecidableEq, Repr

/-- What an event means for a challenge of a client. -/
def Fate.next (client : String) (fate : Fate) (e : RoundEvent) : Fate :=
  match fate, e with
  | .pending, .round => .attempted false false
  | .pending, .server (.recorded client' _) => if client' = client then .superseded else .pending
  | .attempted value signature, .server (.valuePublished client' _) =>
    .attempted (value || client' = client) signature
  | .attempted value signature, .server (.signaturePublished client' _) =>
    .attempted value (signature || client' = client)
  | .attempted value signature, .server (.mainFunctionCompleted ret) =>
    if value && signature then .answered else if ret ≠ .kSuccess then .reported else .lost
  | fate, _ => fate

/-- What the events `g` mean for it. -/
def Fate.after (client : String) (fate : Fate) (g : List RoundEvent) : Fate :=
  g.foldr (fun e fate => fate.next client e) fate

/-- A challenge of the client with the events `newer` since it was booked. -/
def fateOf (client : String) (newer : List RoundEvent) : Fate :=
  Fate.after client .pending newer

/-- A challenge is booked still, superseded by a newer one, answered, or its failure
was reported. -/
def NotLost (s : FreshnessValueManagerImplServer) (client : String) (challenge : ByteVector)
    (newer : List RoundEvent) : Prop :=
  match fateOf client newer with
  | .pending => s.mResponsePendingChallenges.lookup client = some challenge
  | .superseded | .answered | .reported => True
  | .attempted _ _ | .lost => False

/-- No challenge that was ever booked is lost. -/
def NoChallengeLost (s : FreshnessValueManagerImplServer) (h : List RoundEvent) : Prop :=
  ∀ newer client challenge older, h = newer ++ .server (.recorded client challenge) :: older →
    NotLost s client challenge newer

/-- The broadcast is due and cannot be published. -/
def BroadcastFails (s : FreshnessValueManagerImplServer) (services : ServerServices) : Prop :=
  s.mNeedToBroadcastFv = true ∧
    services.broadcastSignals.publish s.mFvmConfAccessor.getUnauthenticatedFvSignalConfig
      (uintToByteVector s.mFV) ≠ .kSuccess

/-- The MAC of the answer to a challenge can be created, and both of its signals can
be published. -/
def Answerable (s : FreshnessValueManagerImplServer) (services : ServerServices)
    (client : String) (challenge : ByteVector) : Prop :=
  ∃ mac, macRes s services client challenge = .ok mac ∧
    publishValue s services client = .kSuccess ∧
    publishSignature s services client mac = .kSuccess

/-- A round answers everything that is booked, or the broadcast of the same call
fails. -/
def AnswersOrReports : Guard FreshnessValueManagerImplServer ServerOp RoundEvent := fun s _ op =>
  match op with
  | .mainFunction services => s.mNeedToSendAuthFvResponses = true →
    BroadcastFails s services ∨
      ∀ client challenge, s.mResponsePendingChallenges.lookup client = some challenge →
        Answerable s services client challenge
  | _ => True

variable {fate : Fate} {es : List ServerEvent}

@[simp] theorem Fate.after_nil : fate.after client [] = fate := rfl

@[simp] theorem Fate.after_cons (e : RoundEvent) :
    fate.after client (e :: g) = (fate.after client g).next client e := rfl

@[simp] theorem Fate.after_append :
    fate.after client (g ++ h) = (fate.after client h).after client g :=
  List.foldr_append

theorem fateOf_append : fateOf client (g ++ newer) = (fateOf client newer).after client g :=
  Fate.after_append

/-- What is settled stays as it is. -/
theorem Fate.after_of_settled (hsettled : ∀ e, fate.next client e = fate) :
    fate.after client g = fate := by
  induction g with
  | nil => rfl
  | cons e g ih => rw [after_cons, ih, hsettled e]

theorem Fate.next_pending {e : RoundEvent} (hround : e.isRound = false)
    (hlast : e.challengeOf client = none) : Fate.pending.next client e = .pending := by
  cases e with
  | round => cases hround
  | server e =>
    cases e with
    | recorded client' c =>
      unfold RoundEvent.challengeOf at hlast
      dsimp only at hlast
      split at hlast
      · cases hlast
      · rename_i hother
        exact if_neg hother
    | _ => rfl

/-- A challenge stays booked until a round or the next challenge. -/
theorem Fate.after_pending (hround : ∀ e ∈ g, e.isRound = false)
    (hlast : lastChallenge client g = none) : Fate.pending.after client g = .pending := by
  have hnone := List.findSome?_eq_none_iff.mp hlast
  induction g with
  | nil => rfl
  | cons e g ih =>
    have hrest : ∀ e ∈ g, e.challengeOf client = none :=
      fun e hmem => hnone e (List.mem_cons_of_mem _ hmem)
    rw [after_cons, ih (fun e hmem => hround e (List.mem_cons_of_mem _ hmem))
      (List.findSome?_eq_none_iff.mpr hrest) hrest]
    exact next_pending (hround e List.mem_cons_self) (hnone e List.mem_cons_self)

/-- Events about other clients mean nothing for a challenge in a round. -/
theorem Fate.next_attempted_other {value signature : Bool} {e : ServerEvent}
    (hquiet : e.returned = none) (hother : e.client ≠ some client) :
    (Fate.attempted value signature).next client (.server e) = .attempted value signature := by
  cases e with
  | valuePublished client' v =>
    have hne : client' ≠ client := fun heq => hother (congrArg some heq)
    simp [next, hne]
  | signaturePublished client' v =>
    have hne : client' ≠ client := fun heq => hother (congrArg some heq)
    simp [next, hne]
  | mainFunctionCompleted ret => cases hquiet
  | _ => rfl

theorem Fate.next_attempted {value signature : Bool} {e : ServerEvent}
    (hquiet : e.returned = none) : ∃ value' signature',
      (Fate.attempted value signature).next client (.server e) = .attempted value' signature' := by
  cases e with
  | mainFunctionCompleted ret => cases hquiet
  | _ => exact ⟨_, _, rfl⟩

/-- In a round, only the events of the client itself matter. -/
theorem Fate.after_attempted {value signature : Bool} (hquiet : ∀ e ∈ es, e.returned = none) :
    (∃ value' signature', (Fate.attempted value signature).after client (es.map .server) =
        .attempted value' signature') ∧
      (Fate.attempted value signature).after client (es.map .server) =
        (Fate.attempted value signature).after client ((clientView client es).map .server) := by
  induction es with
  | nil => exact ⟨⟨value, signature, rfl⟩, rfl⟩
  | cons e es ih =>
    obtain ⟨⟨value', signature', hattempted⟩, hview⟩ :=
      ih fun e hmem => hquiet e (List.mem_cons_of_mem _ hmem)
    have hfirst := hquiet e List.mem_cons_self
    rw [List.map_cons, after_cons, hattempted]
    refine ⟨next_attempted hfirst, ?_⟩
    rw [hattempted] at hview
    unfold clientView at hview ⊢
    by_cases hclient : e.client = some client
    · rw [List.filter_cons_of_pos (by simp [hclient]), List.map_cons, after_cons, ← hview]
    · rw [List.filter_cons_of_neg (by simp [hclient]), ← hview,
        next_attempted_other hfirst hclient]

/-- What becomes of a booked challenge in a round: it is answered, or its failure shows
in the result of the call if anything does. -/
theorem fate_of_round {events : List ServerEvent} {ret : FvmErrorCode}
    (hserves : ServesClients s services events s') (hneed : s.mNeedToSendAuthFvResponses = true)
    (hg : g = .server (.mainFunctionCompleted ret) ::
      ((events ++ (s.broadcastIfNeeded services.broadcastSignals).2.2).map .server ++
        if s.mNeedToSendAuthFvResponses then [.round] else []))
    (hlookup : s.mResponsePendingChallenges.lookup client = some challenge) :
    Answerable s services client challenge ∧ Fate.pending.after client g = .answered ∨
      ¬ Answerable s services client challenge ∧
        Fate.pending.after client g = if ret ≠ .kSuccess then .reported else .lost := by
  have hbroadcast := clientView_broadcastIfNeeded (s := s) client services.broadcastSignals
  have hround : Fate.pending.after client [.round] = .attempted false false := rfl
  have hview := (hserves.round hneed).2 client
  rw [hlookup] at hview
  have hresponse := response_of_sendAuthenticFvResponse hview
  rw [hneed, if_pos rfl] at hg
  rw [hg, Fate.after_cons, Fate.after_append, hround, (Fate.after_attempted hserves.quiet).2,
    clientView_append, hbroadcast, List.append_nil]
  cases hcases : clientView client events with
  | nil =>
    rw [hcases] at hresponse
    cases hresponse with
    | unsigned hmac =>
      right
      refine ⟨?_, rfl⟩
      rintro ⟨mac, hcreated, -⟩
      rw [hmac] at hcreated
      cases hcreated
  | cons e rest =>
    rw [hcases] at hresponse
    cases hresponse with
    | unsent hmac hvalue =>
      right
      refine ⟨?_, rfl⟩
      rintro ⟨mac', -, hpublished, -⟩
      exact hvalue hpublished
    | halfSent hmac hvalue hsignature =>
      right
      refine ⟨?_, by simp [Fate.next, madeFor]⟩
      rintro ⟨mac', hmac', -, hpublished⟩
      cases hmac.symm.trans hmac'
      exact hsignature hpublished
    | sent hmac hvalue hsignature =>
      left
      exact ⟨⟨_, hmac, hvalue, hsignature⟩, by simp [Fate.next, madeFor]⟩

/-- The broadcast decides what the main function returns. -/
theorem broadcastFails_iff :
    BroadcastFails s services ↔ (s.broadcastIfNeeded services.broadcastSignals).1 ≠ .kSuccess := by
  unfold BroadcastFails
  rcases s.broadcastIfNeeded_cases services.broadcastSignals with
    ⟨hidle, heq⟩ | ⟨hneed, code, hfailed, hcode, heq⟩ | ⟨hneed, hpublished, heq⟩
  · rw [heq, hidle]
    exact ⟨fun hfails => absurd hfails.1 Bool.false_ne_true, fun h => absurd rfl h⟩
  · rw [heq, hcode]
    exact ⟨fun _ => hfailed, fun _ => ⟨hneed, hfailed⟩⟩
  · rw [heq]
    exact ⟨fun hfails => absurd hpublished hfails.2, fun h => absurd rfl h⟩

/-- A challenge that is accounted for stays so, if the step answers what is booked or
reports that it does not. -/
theorem NotLost.step (hstep : RoundStep s op g s') (hreports : AnswersOrReports s h op)
    (hnotLost : NotLost s client challenge newer) : NotLost s' client challenge (g ++ newer) := by
  unfold NotLost at hnotLost ⊢
  rw [fateOf_append]
  cases hfate : fateOf client newer with
  | attempted value signature =>
    rw [hfate] at hnotLost
    exact hnotLost.elim
  | lost =>
    rw [hfate] at hnotLost
    exact hnotLost.elim
  | superseded =>
    rw [Fate.after_of_settled fun _ => rfl]
    trivial
  | answered =>
    rw [Fate.after_of_settled fun _ => rfl]
    trivial
  | reported =>
    rw [Fate.after_of_settled fun _ => rfl]
    trivial
  | pending =>
    rw [hfate] at hnotLost
    cases hstep with
    | mainFunction services ret events hop hserves hg hret =>
      cases hneed : s.mNeedToSendAuthFvResponses with
      | false =>
        rw [hneed, if_neg Bool.false_ne_true, List.append_nil] at hg
        have hround := isRound_map_server (.mainFunctionCompleted ret ::
          (events ++ (s.broadcastIfNeeded services.broadcastSignals).2.2))
        rw [List.map_cons, ← hg] at hround
        have hlast := hserves.lastChallenge_eq_none client ret
        rw [← hg] at hlast
        rw [Fate.after_pending hround hlast]
        show s'.mResponsePendingChallenges.lookup client = some challenge
        rw [(hserves.idle hneed).2]
        exact hnotLost
      | true =>
        rcases fate_of_round hserves hneed hg hnotLost with ⟨-, hanswered⟩ | ⟨hfailed, hfate'⟩
        · rw [hanswered]
          trivial
        · subst hop
          rcases hreports hneed with hbroadcast | hall
          · rw [broadcastFails_iff, ← hret] at hbroadcast
            rw [hfate', if_pos hbroadcast]
            trivial
          · exact absurd (hall client challenge hnotLost) hfailed
    | books signal client' challenge' hop hclient hknown hg hs' =>
      subst hg hs'
      by_cases hsame : client' = client
      · subst hsame
        simp [Fate.next]
      · simp only [Fate.after_cons, Fate.after_nil, Fate.next, hsame, if_false]
        show (AList.insert client' challenge' s.mResponsePendingChallenges).lookup client = _
        rw [AList.lookup_insert_ne (Ne.symm hsame)]
        exact hnotLost
    | quiet hop hg base hs' =>
      subst hg hs'
      exact hnotLost

theorem NoChallengeLost.step (hstep : RoundStep s op g s') (hreports : AnswersOrReports s h op)
    (hkept : NoChallengeLost s h) : NoChallengeLost s' (g ++ h) := by
  intro newer client challenge older hsplit
  rcases split_of_append hsplit with ⟨newer', hnewer, hh⟩ | ⟨rest, hg, -⟩
  · rw [hnewer]
    exact (hkept newer' client challenge older hh).step hstep hreports
  · -- the challenge has just been booked
    have hmem : .server (.recorded client challenge) ∈ g := by
      rw [hg]
      exact List.mem_append_right _ List.mem_cons_self
    cases hstep with
    | mainFunction services ret events hop hserves hes hret =>
      exfalso
      rw [hes, ← List.cons_append] at hmem
      rcases List.mem_append.mp hmem with hmem | hmem
      · exact recorded_not_mem (hserves.lastChallenge_eq_none client ret) hmem
      · split at hmem
        · simp at hmem
        · cases hmem
    | books signal client' challenge' hop hclient hknown hes hs' =>
      rw [hes] at hg
      cases newer with
      | nil =>
        cases hg
        rw [hs']
        exact AList.lookup_insert _
      | cons e newer =>
        have hlength := congrArg List.length hg
        simp at hlength
    | quiet hop hes base hs' =>
      rw [hes] at hmem
      cases hmem

/-- A step that neither answers what is booked nor reports it loses a challenge. -/
theorem lost_of_step (hbooked : Booked s h) (hstep : RoundStep s op g s')
    (hfails : ¬ AnswersOrReports s h op) : ¬ NoChallengeLost s' (g ++ h) := by
  intro hkept
  cases hstep with
  | mainFunction services ret events hop hserves hg hret =>
    subst hop
    apply hfails
    intro hneed
    by_cases hbroadcast : BroadcastFails s services
    · left
      exact hbroadcast
    · right
      intro client challenge hlookup
      by_contra hunanswerable
      rw [broadcastFails_iff, ← hret] at hbroadcast
      have hfate : Fate.pending.after client g = .lost := by
        rcases fate_of_round hserves hneed hg hlookup with ⟨hanswerable, -⟩ | ⟨-, hfate⟩
        · exact absurd hanswerable hunanswerable
        · rw [hfate, if_neg hbroadcast]
      -- the challenge is found in the history, with no round since
      have hlast := hlookup
      rw [hbooked.lookup] at hlast
      obtain ⟨newer, older, hsplit, hnone⟩ := lastChallenge_eq_some hlast
      obtain ⟨rest, hrest⟩ : since RoundEvent.isRound h <+: h := List.takeWhile_prefix _
      have hround : ∀ e ∈ newer, e.isRound = false := by
        intro e hmem
        have hmem' : e ∈ since RoundEvent.isRound h := by
          rw [hsplit]
          exact List.mem_append_left _ hmem
        exact mark_of_mem_since hmem'
      have hnotLost := hkept (g ++ newer) client challenge (older ++ rest) (by
        rw [← hrest, hsplit, List.append_assoc, List.append_assoc, List.cons_append])
      unfold NotLost at hnotLost
      rw [fateOf_append, fateOf, Fate.after_pending hround hnone, hfate] at hnotLost
      exact hnotLost
  | books signal client challenge hop hclient hknown hg hs' =>
    subst hop
    exact hfails trivial
  | quiet hop hg base hs' =>
    apply hfails
    cases op with
    | mainFunction services => exact absurd rfl (hop services)
    | incomingAuthFvChallengeSignal signal challenge => trivial
    | call call => trivial

/-- **No challenge is lost silently, as long as every round answers what is booked.**
Let every round of a run answer all the challenges that are booked, or be held in a
call whose broadcast fails.  Then after every step of the run each challenge that
was ever booked is booked still, superseded, answered, or its failure was reported;
and this survives the next step exactly if that step is one of this kind. -/
theorem no_challenge_lost (hfirst : s₀.FirstInit)
    (hrun : Run roundStep AnswersOrReports s₀ [] s h) :
    NoChallengeLost s h ∧ ∀ op s' g, roundStep s op = .ok (s', g) →
      (NoChallengeLost s' (g ++ h) ↔ AnswersOrReports s h op) := by
  have hkept : NoChallengeLost s h := by
    have hboth : RoundClock s₀.mFV s h ∧ NoChallengeLost s h := by
      refine hrun.invariant (fun s h => RoundClock s₀.mFV s h ∧ NoChallengeLost s h)
        ⟨(roundClock_of_run hfirst (P := AnswersOrReports) .refl).1, ?_⟩ ?_
      · intro newer client challenge older hsplit
        simp at hsplit
      · intro s h op s' g ⟨hclock, hkept⟩ hreports hstep
        exact ⟨hclock.step hstep,
          hkept.step (roundStep_of_step hclock.clock.mInitialized hstep) hreports⟩
    exact hboth.2
  obtain ⟨hclock, hbooked⟩ := roundClock_of_run hfirst hrun
  refine ⟨hkept, ?_⟩
  intro op s' g hstep
  have hround := roundStep_of_step hclock.clock.mInitialized hstep
  constructor
  · intro hkept'
    by_contra hfails
    exact lost_of_step hbooked hround hfails hkept'
  · intro hreports
    exact hkept.step hround hreports

theorem answerable_reliableServices : Answerable s reliableServices client challenge :=
  ⟨_, rfl, rfl, rfl⟩

theorem no_challenge_lost_at_start :
    ∃ s h, Run roundStep AnswersOrReports firstServer [] s h ∧
      .server (.signaturePublished "SINK" (.replicate 8 0)) ∈ h ∧ NoChallengeLost s h := by
  have hmeets : ∀ op ∈ challengeThenCalls 21, ∀ s h, AnswersOrReports s h op := by
    intro op hmem s h
    rcases List.mem_cons.mp hmem with hop | hmem
    · subst hop
      trivial
    · rw [List.eq_of_mem_replicate hmem]
      intro _
      right
      intro client challenge _
      exact answerable_reliableServices
  obtain ⟨s, h, hrun, hsigned⟩ :
      ∃ s h, Run roundStep AnswersOrReports firstServer [] s h ∧
        .server (.signaturePublished "SINK" (.replicate 8 0)) ∈ h :=
    Run.exists_of_exec_of_forall (challengeThenCalls 21) hmeets (by decide +kernel)
  exact ⟨s, h, hrun, hsigned, (no_challenge_lost firstInit_firstServer hrun).1⟩

/-- Services that create every MAC and publish nothing but the broadcast. -/
def mutedServices : ServerServices :=
  { reliableServices with
    mSignalManager := fun _ => { reliableSignals with publish := fun _ _ => .kGeneralError } }

/-- A challenge whose answer is due in the call that cannot publish it. -/
def mutedRound : List ServerOp :=
  List.replicate 20 (.mainFunction reliableServices) ++
    [.incomingAuthFvChallengeSignal "SOK_Zeit_SINK_Challenge" (.replicate 8 7),
      .mainFunction mutedServices]

theorem challenge_lost_in_muted_round :
    ¬ ∀ (s₀ s : FreshnessValueManagerImplServer) (h : List RoundEvent), s₀.FirstInit →
      Run roundStep Anything s₀ [] s h → NoChallengeLost s h := by
  intro hall
  obtain ⟨s, h, hrun, hsplit, hlost⟩ :
      ∃ s h, Run roundStep Anything firstServer [] s h ∧
        h = h.take 3 ++ .server (.recorded "SINK" (.replicate 8 7)) :: h.drop 4 ∧
        h.take 3 = [.server (.mainFunctionCompleted .kSuccess),
          .server (.answered "SINK" 132 (.replicate 8 7) 0x07070707070708
            (.replicate 8 7 ++ [7, 7, 7, 7, 7, 7, 8]) (.replicate 8 0)), .round] :=
    Run.exists_of_exec mutedRound (by decide +kernel)
  have hnotLost := hall firstServer s h firstInit_firstServer hrun _ _ _ _ hsplit
  rw [hlost] at hnotLost
  exact hnotLost

end Sok.Fvm
