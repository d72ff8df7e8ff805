import SokFvm.Fvm.ClientIsolation
import SokFvm.Fvm.HonestExchange

/-!
# A server and a participant that reach each other

`Distribution` leaves it open what the network does.  Here a server and one of its
clients are linked: what the participant publishes as a challenge is on its way to
the server, what the server publishes in answer is on its way to the participant,
and SCI delivers it, every signal once and padded to eight bytes, in any order.

`fvLinkStep` is the system, and `distributionRun_of_fvLinkRun` says that its runs are runs
of `distributionStep`.  `Honest` is the guard of a link that works:

* everything arrives before the next tick;
* the two parties tick in lock-step;
* the random generator, the signatures and the publications for this client succeed,
  and the participant accepts the signatures;
* nobody else sends signals in the name of one of the two.

Other clients, failing broadcasts, unauthentic values and calls of applications are
arbitrary.

The rest of the module is about the two parties in a link: `due` counts the ticks
until the server answers, and there is one lemma for each kind of input about the
request cycle of the participant.
-/

namespace Sok.Fvm

open Sok.Common StateMachine FreshnessValueManagerImplServer FreshnessValueManagerImplParticipant

/-! ## The system -/

structure FvLink extends Distribution where
  /-- The challenge on its way to the server. -/
  toServer : Option ByteVector
  /-- The signals on their way to the participant. -/
  toParticipant : List (String × ByteVector)

/-- What the two parties are to each other. -/
structure Wiring where
  /-- The name of the participant at the server. -/
  client : String
  /-- The signal in which the server receives its challenges. -/
  signal : String
  /-- The key of the client at the server. -/
  keyId : UInt16
  /-- What the server signs with. -/
  creator : ICsmAccessor
  signal_client : clientOfSignal signal = some client
  signs : ∀ data, ∃ mac, creator.macCreate keyId data .kAes128Cmac = .ok mac ∧ 8 ≤ mac.length

inductive FvLinkOp
  | serverTick (services : ServerServices)
  | participantTick (csm : ICsmAccessor) (signals : ISignalManager)
  | deliverChallenge
  /-- One of the signals arrives. -/
  | deliverResponse (i : Nat)
  | atServer (op : ServerOp)
  | atParticipant (op : ParticipantOp)

inductive FvLinkEvent
  | serverTicked
  /-- A tick of the participant, and whether its freshness value is valid after it. -/
  | participantTicked (valid : Bool)
  deriving DecidableEq, Repr

/-- The signal that an event sends to a client. -/
def sentTo (client : String) (p : FreshnessValueManagerImplParticipant) :
    ServerEvent → Option (String × ByteVector)
  | .valuePublished client' value =>
    if client' = client then some (valueName p, padded value) else none
  | .signaturePublished client' signature =>
    if client' = client then some (signatureName p, padded signature) else none
  | _ => none

def ParticipantEvent.challenge? : ParticipantEvent → Option ByteVector
  | .published challenge => some challenge
  | _ => none

/-- The linked system. -/
def fvLinkStep (w : Wiring) : Machine FvLink FvLinkOp FvLinkEvent Fault := fun s op =>
  match op with
  | .serverTick services => (serverStep s.server (.mainFunction services)).map fun next =>
      ({ s with
        server := next.1
        toParticipant := next.2.filterMap (sentTo w.client s.participant) ++ s.toParticipant },
        [.serverTicked])
  | .participantTick csm signals =>
    (participantStep s.participant (.mainFunction csm signals)).map fun next =>
      ({ s with
        participant := next.1
        toServer := (next.2.findSome? (·.challenge?)).or s.toServer },
        [.participantTicked next.1.mIsFvValid])
  | .deliverChallenge =>
    match s.toServer with
    | none => .ok (s, [])
    | some challenge =>
      (serverStep s.server (.incomingAuthFvChallengeSignal w.signal challenge)).map fun next =>
        ({ s with server := next.1, toServer := none }, [])
  | .deliverResponse i =>
    match s.toParticipant[i]? with
    | none => .ok (s, [])
    | some signal =>
      (participantStep s.participant (.incomingAuthFvSignal signal.1 signal.2)).map fun next =>
        ({ s with participant := next.1, toParticipant := s.toParticipant.eraseIdx i }, [])
  | .atServer op => (serverStep s.server op).map fun next => ({ s with server := next.1 }, [])
  | .atParticipant op =>
    (participantStep s.participant op).map fun next => ({ s with participant := next.1 }, [])

variable {w : Wiring} {s s' s₀ : FvLink} {op : FvLinkOp} {es h : List FvLinkEvent}
variable {P : Guard FvLink FvLinkOp FvLinkEvent}

theorem distributionRun_of_serverStep {d : Distribution} {op : ServerOp}
    {server : FreshnessValueManagerImplServer} {es : List ServerEvent}
    (hserver : serverStep d.server op = .ok (server, es)) (g : List DistributionEvent) :
    ∃ g', Run distributionStep Anything d g { d with server := server } g' := by
  have hstep : distributionStep d (.atServer op) =
      .ok ({ d with server := server }, es.map .server) := by
    unfold distributionStep
    dsimp only
    rw [hserver]
  exact ⟨_, .single trivial hstep⟩

theorem distributionRun_of_participantStep {d : Distribution} {op : ParticipantOp}
    {participant : FreshnessValueManagerImplParticipant} {es : List ParticipantEvent}
    (hparticipant : participantStep d.participant op = .ok (participant, es))
    (g : List DistributionEvent) :
    ∃ g', Run distributionStep Anything d g { d with participant := participant } g' := by
  have hstep : distributionStep d (.atParticipant op) =
      .ok ({ d with participant := participant }, es.map .participant) := by
    unfold distributionStep
    dsimp only
    rw [hparticipant]
  exact ⟨_, .single trivial hstep⟩

/-- A run of the link is a run of the two parties. -/
theorem distributionRun_of_fvLinkRun (hrun : Run (fvLinkStep w) P s₀ [] s h)
    (g₀ : List DistributionEvent) :
    ∃ g, Run distributionStep Anything s₀.toDistribution g₀ s.toDistribution g := by
  refine hrun.simulate FvLink.toDistribution ?_ g₀
  intro s h op s' es g _ hstep
  unfold fvLinkStep at hstep
  cases op with
  | serverTick services =>
    obtain ⟨next, hnext, heq⟩ := exists_of_map_ok hstep
    cases heq
    exact distributionRun_of_serverStep hnext g
  | participantTick csm signals =>
    obtain ⟨next, hnext, heq⟩ := exists_of_map_ok hstep
    cases heq
    exact distributionRun_of_participantStep hnext g
  | deliverChallenge =>
    dsimp only at hstep
    split at hstep
    · cases hstep
      exact ⟨g, .refl⟩
    · obtain ⟨next, hnext, heq⟩ := exists_of_map_ok hstep
      cases heq
      exact distributionRun_of_serverStep hnext g
  | deliverResponse i =>
    dsimp only at hstep
    split at hstep
    · cases hstep
      exact ⟨g, .refl⟩
    · obtain ⟨next, hnext, heq⟩ := exists_of_map_ok hstep
      cases heq
      exact distributionRun_of_participantStep hnext g
  | atServer op =>
    obtain ⟨next, hnext, heq⟩ := exists_of_map_ok hstep
    cases heq
    exact distributionRun_of_serverStep hnext g
  | atParticipant op =>
    obtain ⟨next, hnext, heq⟩ := exists_of_map_ok hstep
    cases heq
    exact distributionRun_of_participantStep hnext g

/-! ## A link that works -/

/-- The tick of the participant, if an event is one. -/
def FvLinkEvent.tick : FvLinkEvent → Option Bool
  | .serverTicked => none
  | .participantTicked valid => some valid

def serverTicked (h : List FvLinkEvent) : Nat :=
  h.count .serverTicked

def participantTicked (h : List FvLinkEvent) : Nat :=
  h.countP (·.tick.isSome)

/-- By how many ticks the server is ahead. -/
def lead (h : List FvLinkEvent) : Int :=
  serverTicked h - participantTicked h

theorem lead_serverTicked : lead (.serverTicked :: h) = lead h + 1 := by
  unfold lead serverTicked participantTicked
  rw [List.count_cons_self, List.countP_cons_of_neg (by simp [FvLinkEvent.tick])]
  omega

theorem lead_participantTicked (valid : Bool) :
    lead (.participantTicked valid :: h) = lead h - 1 := by
  unfold lead serverTicked participantTicked
  rw [List.count_cons_of_ne (by simp), List.countP_cons_of_pos (by simp [FvLinkEvent.tick])]
  omega

/-- Everything has arrived. -/
def FvLink.Quiet (s : FvLink) : Prop :=
  s.toServer = none ∧ s.toParticipant = []

/-- The link works. -/
def Honest (w : Wiring) : Guard FvLink FvLinkOp FvLinkEvent := fun s h op =>
  match op with
  | .serverTick services => s.Quiet ∧ lead h ≤ 0 ∧ services.mCsmAccessor w.client = w.creator ∧
      ∀ config bytes, (services.mSignalManager w.client).publish config bytes = .kSuccess
  | .participantTick csm signals => s.Quiet ∧ 0 ≤ lead h ∧
      (csm.generateRandomBytes challengeLengthBytes).isOk = true ∧
      (∀ config bytes, signals.publish config bytes = .kSuccess) ∧
      AcceptsTruncated w.creator w.keyId csm s.participant.mEcuKeyIdForFvDistribution
  | .deliverChallenge | .deliverResponse _ => True
  | .atServer op => HiddenFrom w.client op
  | .atParticipant op => Sok.Fvm.Quiet s.participant [] op

/-! ## The server until its answer -/

section Server

variable {server server' : FreshnessValueManagerImplServer} {services : ServerServices}
variable {op : ServerOp} {es : List ServerEvent} {g : List ServerEvent} {start : UInt64}
variable {p : FreshnessValueManagerImplParticipant} {client : String} {challenge : ByteVector}

/-- The ticks of the server until it answers what is booked, that of the answer
included. -/
def due (server : FreshnessValueManagerImplServer) : Nat :=
  if server.mNeedToSendAuthFvResponses then 1
  else 21 - server.mClockCount.toNat / sokFmMainFunctionPeriodMs.toNat

theorem due_le (server : FreshnessValueManagerImplServer) : due server ≤ 21 := by
  unfold due
  split
  · decide
  · exact Nat.sub_le _ _

theorem due_of_responds (hneed : server.mNeedToSendAuthFvResponses = true) : due server = 1 :=
  if_pos hneed

/-- Without a round to come the phase of the clock says how many ticks are left. -/
theorem due_of_clock (hclock : ServerClock start server g)
    (hneed : server.mNeedToSendAuthFvResponses = false) :
    due server = 21 - serverCalls g % 20 := by
  have hcount : server.mClockCount.toNat = 5 * (serverCalls g % 20) := hclock.shows.mClockCount
  unfold due
  rw [if_neg (Bool.eq_false_iff.mp hneed), hcount,
    show sokFmMainFunctionPeriodMs.toNat = 5 from rfl, Nat.mul_div_cancel_left _ (by decide)]

theorem due_pos (hclock : ServerClock start server g) : 1 ≤ due server := by
  cases hneed : server.mNeedToSendAuthFvResponses with
  | true => rw [due_of_responds hneed]
  | false =>
    rw [due_of_clock hclock hneed]
    omega

/-- What is not a tick leaves the time of the answer alone. -/
theorem due_of_sameContext
    (hcontext : AFreshnessValueManagerImpl.SameContext server.toAFreshnessValueManagerImpl
      server'.toAFreshnessValueManagerImpl)
    (hneed : server'.mNeedToSendAuthFvResponses = server.mNeedToSendAuthFvResponses) :
    due server' = due server := by
  unfold due
  rw [hneed, hcontext.mClockCount]

/-- The calls after a tick. -/
theorem serverCalls_of_tick (hclock : ServerClock start server g)
    (hstep : serverStep server (.mainFunction services) = .ok (server', es)) :
    serverCalls (es ++ g) = serverCalls g + 1 := by
  obtain ⟨ret, hresult⟩ := mainFunction_of_serverStep hstep
  obtain ⟨events, hserves, hes, -⟩ := mainFunction_spec hclock.mInitialized hresult
  rw [hes, serverCalls_append, hserves.serverCalls_eq, Nat.add_comm]

/-- A round comes after the tick in which the freshness value has changed. -/
theorem mNeedToSendAuthFvResponses_of_step (hclock : ServerClock start server g)
    (hstep : serverStep server (.mainFunction services) = .ok (server', es)) :
    server'.mNeedToSendAuthFvResponses = true ↔ (serverCalls g + 1) % 20 = 0 := by
  have hstep' := serverClockStep_of_step hclock.mInitialized hstep
  have hclock' := hclock.step hstep'
  have hcalls := serverCalls_of_tick hclock hstep
  refine ⟨fun hneed => ?_, fun hlast => ?_⟩
  · have hphase := hclock'.responds hneed
    rw [hcalls] at hphase
    exact hphase
  · have hshows := hclock'.shows
    rw [hcalls] at hshows
    exact mNeedToSendAuthFvResponses_of_tick hclock.mInitialized hstep
      (ne_of_shows hclock.shows hshows hlast)

/-- What a tick does to the time of the answer. -/
theorem due_of_tick (hclock : ServerClock start server g)
    (hstep : serverStep server (.mainFunction services) = .ok (server', es)) :
    (server.mNeedToSendAuthFvResponses = false → due server' + 1 = due server) ∧
      (server.mNeedToSendAuthFvResponses = true → due server' ≤ 20) := by
  have hclock' := hclock.step (serverClockStep_of_step hclock.mInitialized hstep)
  have hcalls := serverCalls_of_tick hclock hstep
  have hnext := mNeedToSendAuthFvResponses_of_step hclock hstep
  cases hneed' : server'.mNeedToSendAuthFvResponses with
  | true =>
    have hlast := hnext.mp hneed'
    rw [due_of_responds hneed']
    refine ⟨fun hneed => ?_, fun _ => by decide⟩
    rw [due_of_clock hclock hneed]
    omega
  | false =>
    have hlast : ¬ (serverCalls g + 1) % 20 = 0 := by
      rw [← hnext, hneed']
      exact Bool.false_ne_true
    rw [due_of_clock hclock' hneed', hcalls]
    refine ⟨fun hneed => ?_, fun hneed => ?_⟩
    · rw [due_of_clock hclock hneed]
      omega
    · have hphase : serverCalls g % 20 = 0 := hclock.responds hneed
      omega

/-- What the server signed, as `fv`, and what it shows now are as far apart as the
parties, up to one tick. -/
def SignedAt (server : FreshnessValueManagerImplServer) (fv : UInt64) (d : Int) : Prop :=
  ∃ m o : Nat, o ≤ 1 ∧ (m : Int) = d + o ∧
    Shows server.toAFreshnessValueManagerImpl fv (Cadence.after ticksPerIncrement m)

theorem Shows.serverTick {fv : UInt64} {m : Nat} (hclock : ServerClock start server g)
    (hshows : Shows server.toAFreshnessValueManagerImpl fv (Cadence.after ticksPerIncrement m))
    (hstep : serverStep server (.mainFunction services) = .ok (server', es)) :
    Shows server'.toAFreshnessValueManagerImpl fv
      (Cadence.after ticksPerIncrement (m + 1)) := by
  obtain ⟨ret, hresult⟩ := mainFunction_of_serverStep hstep
  have hbase : server'.toAFreshnessValueManagerImpl =
      server.toAFreshnessValueManagerImpl.incTimers := base_mainFunction_server hresult
  rw [hbase]
  exact hshows.incTimers_after hclock.mInitialized hclock.mIsFvValid

theorem SignedAt.serverTick {fv : UInt64} {d : Int} (hclock : ServerClock start server g)
    (hsigned : SignedAt server fv d)
    (hstep : serverStep server (.mainFunction services) = .ok (server', es)) :
    SignedAt server' fv (d + 1) := by
  obtain ⟨m, o, ho, hm, hshows⟩ := hsigned
  exact ⟨m + 1, o, ho, by omega, hshows.serverTick hclock hstep⟩

/-- In a round the server signs what it shows, and its clock stands at zero. -/
theorem signedAt_of_round {d : Int} (hclock : ServerClock start server g)
    (hneed : server.mNeedToSendAuthFvResponses = true) (hbehind : -1 ≤ d) (hahead : d ≤ 0)
    (hstep : serverStep server (.mainFunction services) = .ok (server', es)) :
    SignedAt server' server.mFV (d + 1) := by
  have hzero : Shows server.toAFreshnessValueManagerImpl server.mFV
      (Cadence.after ticksPerIncrement 0) := by
    refine ⟨(UInt64.add_zero _).symm, ?_⟩
    have hcount := hclock.shows.mClockCount
    rw [hclock.responds hneed] at hcount
    exact hcount
  exact ⟨1, (-d).toNat, by omega, by omega, hzero.serverTick hclock hstep⟩

/-- What is sent to a client is about the client. -/
theorem filterMap_sentTo :
    es.filterMap (sentTo client p) = (clientView client es).filterMap (sentTo client p) := by
  unfold clientView
  rw [List.filterMap_filter]
  congr 1
  funext e
  cases e with
  | valuePublished client' value =>
    by_cases hclient : client' = client
    · simp [sentTo, ServerEvent.client, hclient]
    · simp [sentTo, hclient]
  | signaturePublished client' signature =>
    by_cases hclient : client' = client
    · simp [sentTo, ServerEvent.client, hclient]
    · simp [sentTo, hclient]
  | _ => simp [sentTo]

/-- A tick of the server as the client sees it. -/
theorem serverTick_cases (client : String) (hclock : ServerClock start server g)
    (hstep : serverStep server (.mainFunction services) = .ok (server', es)) :
    (server.mNeedToSendAuthFvResponses = false ∧ due server' + 1 = due server ∧
        server'.mResponsePendingChallenges = server.mResponsePendingChallenges ∧
        clientView client es = []) ∨
      (server.mNeedToSendAuthFvResponses = true ∧ due server' ≤ 20 ∧
        server'.mResponsePendingChallenges = ∅ ∧
        responseTo server services client (server.mResponsePendingChallenges.lookup client) =
          .ok (clientView client es)) := by
  obtain ⟨ret, hresult⟩ := mainFunction_of_serverStep hstep
  obtain ⟨events, hserves, hes, -⟩ := mainFunction_spec hclock.mInitialized hresult
  have hview : clientView client es = clientView client events := by
    rw [hes, show ServerEvent.mainFunctionCompleted ret :: (events ++
      (server.broadcastIfNeeded services.broadcastSignals).2.2) = [.mainFunctionCompleted ret] ++
      (events ++ (server.broadcastIfNeeded services.broadcastSignals).2.2) from rfl,
      clientView_append, clientView_append, clientView_broadcastIfNeeded, List.append_nil]
    rfl
  rw [hview]
  cases hneed : server.mNeedToSendAuthFvResponses with
  | false =>
    obtain ⟨hevents, hpending⟩ := hserves.idle hneed
    refine Or.inl ⟨rfl, (due_of_tick hclock hstep).1 hneed, hpending, ?_⟩
    rw [hevents]
    rfl
  | true =>
    obtain ⟨hpending, hresponse⟩ := hserves.round hneed
    exact Or.inr ⟨rfl, (due_of_tick hclock hstep).2 hneed, hpending, hresponse client⟩

/-- The two signals of an answer, as they arrive. -/
def answerSignals (p : FreshnessValueManagerImplParticipant) (fv : UInt64) (mac : ByteVector) :
    List (String × ByteVector) :=
  [(signatureName p, mac.take authFvSignatureSizeBytes.toNatClampNeg),
    (valueName p, 0 :: uintToByteVectorTrim fv 7)]

/-- When nothing fails for the client, it is sent both parts of the answer. -/
theorem answerSignals_of_responseTo {mac : ByteVector}
    (hmac : macRes server services client challenge = .ok mac) (hlength : 8 ≤ mac.length)
    (hpublish : ∀ config bytes,
      (services.mSignalManager client).publish config bytes = .kSuccess)
    (hresponse : responseTo server services client (some challenge) = .ok es) :
    es.filterMap (sentTo client p) = answerSignals p server.mFV mac := by
  have hsize : authFvSignatureSizeBytes.toNatClampNeg = 8 := by decide
  cases response_of_sendAuthenticFvResponse hresponse with
  | unsigned hfailed => cases hmac.symm.trans hfailed
  | unsent _ hvalue => exact absurd (hpublish _ _) hvalue
  | halfSent _ _ hsignature => exact absurd (hpublish _ _) hsignature
  | sent hmac' =>
    cases hmac.symm.trans hmac'
    have hsigned : padded (mac.take 8) = mac.take 8 := by
      unfold padded
      rw [List.length_take, Nat.min_eq_left hlength]
      rfl
    have hvalue : padded (serializedFv server) = 0 :: uintToByteVectorTrim server.mFV 7 := by
      have htrim : (uintToByteVectorTrim server.mFV 7).length = 7 :=
        length_uintToByteVectorTrim _ (by decide)
      show padded (uintToByteVectorTrim server.mFV 7) = _
      unfold padded
      rw [htrim]
      rfl
    unfold answerSignals
    rw [hsize, ← hsigned, ← hvalue]
    simp [sentTo, madeFor, hsigned]

/-- The challenge of the client arrives. -/
theorem serverStep_challenge {signal : String} (hclient : clientOfSignal signal = some client)
    (hknown : client ∈ server.mClientNameToKeyId)
    (hstep : serverStep server (.incomingAuthFvChallengeSignal signal challenge) =
      .ok (server', es)) :
    server' = { server with mResponsePendingChallenges :=
      server.mResponsePendingChallenges.insert client challenge } := by
  have hcb : server.incomingAuthFvChallengeSignalsCb signal challenge = (server', es) :=
    Except.ok.inj hstep
  rcases server.incomingAuthFvChallengeSignalsCb_cases signal challenge with
    heq | ⟨client', hclient', -, heq⟩
  · unfold incomingAuthFvChallengeSignalsCb at heq
    rw [hclient] at heq
    dsimp only at heq
    rw [if_neg (not_not.mpr hknown)] at heq
    cases congrArg Prod.snd heq
  · cases Option.some.inj (hclient.symm.trans hclient')
    exact (congrArg Prod.fst (heq.symm.trans hcb)).symm

/-- The table of the keys stays. -/
theorem mClientNameToKeyId_of_serverStep (hinit : server.mInitialized = true)
    (hstep : serverStep server op = .ok (server', es)) :
    server'.mClientNameToKeyId = server.mClientNameToKeyId := by
  have hround : roundStep server op = .ok (server', es.map .server ++ roundMark server op) := by
    unfold roundStep
    rw [hstep]
    rfl
  cases roundStep_of_step hinit hround with
  | mainFunction services ret events hop hserves => exact hserves.mClientNameToKeyId
  | books signal client challenge hop hclient hknown hg hs' =>
    rw [hs']
  | quiet hop hg base hs' =>
    rw [hs']

end Server

/-! ## The participant in its request cycle -/

section Participant

variable {p p' : FreshnessValueManagerImplParticipant} {op : ParticipantOp}
variable {es h : List ParticipantEvent} {csm : ICsmAccessor} {signals : ISignalManager}
variable {c c' : RequestCycle}

/-- The call of the main function that asks for a freshness value, when neither the
random generator nor the publication fails. -/
theorem published_of_request (hready : Ready p) (hstate : p.requestCycle.state = some .requestFV)
    (hrandom : (csm.generateRandomBytes challengeLengthBytes).isOk = true)
    (hpublish : ∀ config bytes, signals.publish config bytes = .kSuccess)
    (hstep : participantStep p (.mainFunction csm signals) = .ok (p', es)) :
    ∃ challenge, es = [.mainFunctionCompleted, .published challenge] ∧
      p'.requestCycle = { p.requestCycle with
        state := some .fvInProgress, waited := 0, challenge := challenge } := by
  obtain ⟨ret, hresult⟩ := mainFunction_of_step hstep
  obtain ⟨state, result, hstate', haction, hresult'⟩ := mainFunction_cases hready hresult
  cases Option.some.inj (hstate.symm.trans hstate')
  have hes : es = .mainFunctionCompleted :: result.2.2 := congrArg (·.2.2) hresult'
  have hp' : p' = result.2.1.incTimers := congrArg (·.2.1) hresult'
  have haction' : p.requestAnAuthenticFv csm signals = result := Except.ok.inj haction
  unfold requestAnAuthenticFv at haction'
  cases hbytes : csm.generateRandomBytes challengeLengthBytes with
  | error code =>
    rw [hbytes] at hrandom
    cases hrandom
  | ok challenge =>
    rw [hbytes] at haction'
    dsimp only at haction'
    rw [if_pos (hpublish _ _)] at haction'
    refine ⟨challenge, ?_, ?_⟩
    · rw [hes, ← haction']
    · have hcurrent := hready.registered.current_transiteTo .fvInProgress
      rw [hp', ← haction']
      show RequestCycle.mk (p.mFvStateManager.transiteTo .fvInProgress).mCurrentFvState _ _ _ _ = _
      rw [hcurrent]
      rfl

theorem mainFunctionCompleted_mem (hready : Ready p)
    (hstep : participantStep p (.mainFunction csm signals) = .ok (p', es)) :
    .mainFunctionCompleted ∈ es := by
  obtain ⟨ret, hresult⟩ := mainFunction_of_step hstep
  obtain ⟨state, result, -, -, hresult'⟩ := mainFunction_cases hready hresult
  rw [show es = .mainFunctionCompleted :: result.2.2 from congrArg (·.2.2) hresult']
  exact List.mem_cons_self

/-- A call of the main function while the participant waits. -/
theorem RequestCycle.Step.waits (hstep : RequestCycle.Step c es c')
    (hcompleted : .mainFunctionCompleted ∈ es) (hstate : c.state = some .fvInProgress) :
    es = [.mainFunctionCompleted] ∧
      (c.waited + 5 ≤ 250 ∧ c' = { c with waited := c.waited + 5 } ∨
        250 < c.waited + 5 ∧ c'.state = some .requestFV) := by
  cases hstep with
  | wait _ hwait => exact ⟨rfl, Or.inl ⟨hwait, rfl⟩⟩
  | timeout _ hwait => exact ⟨rfl, Or.inr ⟨hwait, rfl⟩⟩
  | publish challenge hother => cases hstate.symm.trans hother
  | fail hother => cases hstate.symm.trans hother
  | adopt fv hother => cases hstate.symm.trans hother
  | reject hother => cases hstate.symm.trans hother
  | agree hother => cases hstate.symm.trans hother
  | drift hother => cases hstate.symm.trans hother
  | rest hother => cases hstate.symm.trans hother
  | _ => simp at hcompleted

/-- A call of the main function that verifies. -/
theorem RequestCycle.Step.verified (hstep : RequestCycle.Step c es c')
    (hcompleted : .mainFunctionCompleted ∈ es) (hstate : c.state = some .processFV) :
    (∀ e ∈ es, e.challenge? = none) ∧ (c'.state = some .idle ∨
      c'.state = some .fvInProgress ∧ c'.waited = c.waited) := by
  cases hstep with
  | adopt fv _ => exact ⟨by simp [ParticipantEvent.challenge?], Or.inl rfl⟩
  | reject _ => exact ⟨by simp [ParticipantEvent.challenge?], Or.inr ⟨rfl, rfl⟩⟩
  | publish challenge hother => cases hstate.symm.trans hother
  | fail hother => cases hstate.symm.trans hother
  | wait hother => cases hstate.symm.trans hother
  | timeout hother => cases hstate.symm.trans hother
  | agree hother => cases hstate.symm.trans hother
  | drift hother => cases hstate.symm.trans hother
  | rest hother => cases hstate.symm.trans hother
  | _ => simp at hcompleted

/-- A call of the main function of a participant with a freshness value. -/
theorem RequestCycle.Step.compares (hstep : RequestCycle.Step c es c')
    (hcompleted : .mainFunctionCompleted ∈ es) (hholds : FreshnessValueState.HoldsFv c.state) :
    c'.state = some .idle ∨ c'.state = some .requestFV := by
  have hother : ∀ {state}, c.state = some state → state = .idle ∨ state = .processAnauthFV := by
    intro state hstate
    rw [hstate] at hholds
    rcases hholds with h | h
    · exact Or.inl (Option.some.inj h)
    · exact Or.inr (Option.some.inj h)
  cases hstep with
  | agree _ => exact Or.inl rfl
  | drift _ => exact Or.inr rfl
  | rest hstate => exact Or.inl hstate
  | publish challenge hstate => exact absurd (hother hstate) (by decide)
  | fail hstate => exact absurd (hother hstate) (by decide)
  | wait hstate => exact absurd (hother hstate) (by decide)
  | timeout hstate => exact absurd (hother hstate) (by decide)
  | adopt fv hstate => exact absurd (hother hstate) (by decide)
  | reject hstate => exact absurd (hother hstate) (by decide)
  | _ => simp at hcompleted

/-- A signal of the distribution, or one with another name, arrives. -/
theorem requestCycle_of_response {signal : String} {bytes : ByteVector} (hready : Ready p)
    (hstep : participantStep p (.incomingAuthFvSignal signal bytes) = .ok (p', es)) :
    ∃ value signature, p'.requestCycle =
      ({ p.requestCycle with value := value, signature := signature } : RequestCycle).react := by
  rcases storeAuthFvSignal_cases (s := p) signal bytes with hstored | hstored | hstored
  · exact ⟨_, _, requestCycle_of_stored hready hstored hstep⟩
  · exact ⟨_, _, requestCycle_of_stored hready hstored hstep⟩
  · have hkept : p.storeAuthFvSignal signal bytes =
        ({ p with mCrAuthFvAndMac := p.mCrAuthFvAndMac }, []) := hstored
    exact ⟨_, _, requestCycle_of_stored hready hkept hstep⟩

/-- The participant has stored a part of an answer, and has now `value` and
`signature`. -/
structure Stored (p : FreshnessValueManagerImplParticipant) (value signature : ByteVector)
    (p' : FreshnessValueManagerImplParticipant) : Prop where
  challenge : p'.requestCycle.challenge = p.requestCycle.challenge
  valueStored : p'.requestCycle.value = value
  signatureStored : p'.requestCycle.signature = signature
  outstanding : p.requestCycle.Outstanding → p'.requestCycle.Outstanding
  complete : p.requestCycle.Outstanding → value ≠ [] → signature ≠ [] →
    p'.requestCycle.state = some .processFV

theorem stored_of_react {value signature : ByteVector} {waited : Nat}
    (hcycle : p'.requestCycle = { ({ p.requestCycle with
      value := value, signature := signature } : RequestCycle).react with waited := waited }) :
    Stored p value signature p' := by
  have houtstanding : p'.requestCycle.Outstanding ↔ p.requestCycle.Outstanding := by
    rw [hcycle]
    exact RequestCycle.outstanding_react
      (c := { p.requestCycle with value := value, signature := signature })
  rw [RequestCycle.react_eq] at hcycle
  refine ⟨by rw [hcycle], by rw [hcycle], by rw [hcycle], houtstanding.mpr, ?_⟩
  intro hwaits hvalue hsignature
  rw [hcycle]
  dsimp only
  rw [RequestCycle.state_react_of_complete ⟨hvalue, hsignature⟩]
  rcases hwaits with hstate | hstate
  · dsimp only
    rw [hstate]
    rfl
  · dsimp only
    rw [hstate]
    rfl

theorem stored_of_value {bytes : ByteVector} (hready : Ready p)
    (hstep : participantStep p (.incomingAuthFvSignal (valueName p) bytes) = .ok (p', es)) :
    Stored p bytes p.requestCycle.signature p' :=
  stored_of_react ((Reaches.refl hready).value hstep).cycle

theorem stored_of_signature {bytes : ByteVector} (hready : Ready p)
    (hnames : valueName p ≠ signatureName p)
    (hstep : participantStep p (.incomingAuthFvSignal (signatureName p) bytes) = .ok (p', es)) :
    Stored p p.requestCycle.value bytes p' :=
  stored_of_react ((Reaches.refl hready).signature hnames hstep).cycle

/-- A reaction leaves everything but the state. -/
theorem RequestCycle.react_cases (c : RequestCycle) :
    c.react = c ∨ c.react = { c with state := c.state.map FreshnessValueStateManager.onFvRes } := by
  unfold react
  split
  · exact Or.inr rfl
  · exact Or.inl rfl

/-- A quiet input matters to a participant with a freshness value only. -/
theorem requestCycle_of_quiet_cases (hready : Ready p) (hquiet : Quiet p h op)
    (hstep : participantStep p op = .ok (p', es)) :
    p'.requestCycle = p.requestCycle ∨ p.requestCycle.state = some .idle ∧
      p'.requestCycle.state = some .processAnauthFV := by
  cases op with
  | mainFunction csm signals => exact hquiet.elim
  | incomingAuthFvSignal signal value => exact hquiet.elim
  | call call =>
    cases Except.ok.inj hstep
    exact Or.inl rfl
  | incomingUnAuthFvSignal signal value =>
    cases Except.ok.inj hstep
    unfold incomingUnAuthFvSignalsCb
    split
    · obtain ⟨state, hstate⟩ := Option.isSome_iff_exists.mp hready.current
      obtain ⟨-, hcurrent⟩ := hready.registered.reactToUnauthenticFVRes hstate
      cases state with
      | idle => exact Or.inr ⟨hstate, hcurrent⟩
      | _ =>
        left
        unfold FreshnessValueManagerImplParticipant.requestCycle
        dsimp only
        rw [hcurrent, hstate]
        rfl
    · exact Or.inl rfl

/-- A pair that waits for its verification has a value.  The call that verifies it does
not end in an exception then. -/
def RequestCycle.HasValue (c : RequestCycle) : Prop :=
  c.state = some .processFV → c.value ≠ []

theorem RequestCycle.HasValue.react (hvalue : c.HasValue) : c.react.HasValue := by
  intro hstate
  by_cases hcomplete : c.Complete
  · rw [react_eq]
    exact hcomplete.1
  · rw [react_of_not_complete hcomplete] at hstate ⊢
    exact hvalue hstate

/-- Only an empty value that comes in can take the value away. -/
theorem RequestCycle.HasValue.step (hvalue : c.HasValue) (hbytes : .valueReceived [] ∉ es)
    (hstep : RequestCycle.Step c es c') : c'.HasValue := by
  cases hstep with
  | value bytes =>
    refine HasValue.react fun _ hempty => hbytes ?_
    rw [show bytes = [] from hempty]
    exact List.mem_singleton.mpr rfl
  | signature bytes =>
    have hkept : ({ c with signature := bytes } : RequestCycle).HasValue := hvalue
    exact hkept.react
  | otherSignal => exact hvalue.react
  | other => exact hvalue
  | fail hstate | wait hstate | rest hstate =>
    intro h
    simp [hstate] at h
  | publish | timeout | reject | adopt | agree | drift | unauthentic =>
    intro h
    simp at h

/-- In a call of the main function nothing comes in. -/
theorem RequestCycle.Step.not_valueReceived (hstep : RequestCycle.Step c es c')
    (hcompleted : .mainFunctionCompleted ∈ es) (bytes : ByteVector) :
    .valueReceived bytes ∉ es := by
  cases hstep with
  | value bytes => simp at hcompleted
  | _ => simp

/-- An empty value comes in as a signal. -/
theorem not_valueReceived_of_step (hready : Ready p)
    (hop : ∀ signal, op ≠ .incomingAuthFvSignal signal [])
    (hstep : participantStep p op = .ok (p', es)) : .valueReceived [] ∉ es := by
  cases op with
  | mainFunction csm signals =>
    have hcompleted := mainFunctionCompleted_mem hready hstep
    exact (requestCycle_step hready hstep).step.not_valueReceived hcompleted []
  | incomingAuthFvSignal signal value =>
    have hes : (p.incomingAuthFvSignalsCb signal value).2 = es :=
      congrArg Prod.snd (Except.ok.inj hstep)
    rw [← hes, events_incomingAuthFvSignalsCb, storeAuthFvSignal]
    split
    · intro hmem
      cases List.mem_singleton.mp hmem
      exact hop signal rfl
    · split
      · simp
      · simp
  | incomingUnAuthFvSignal signal value =>
    cases Except.ok.inj hstep
    simp
  | call call =>
    cases Except.ok.inj hstep
    simp

end Participant

end Sok.Fvm
