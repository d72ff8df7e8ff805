import SokFvm.Fvm.ServerClock

/-!
# Rounds of responses

A server does not answer a challenge when it arrives.  It books the challenge, and
the main function that follows the next change of the freshness value answers
everything that is booked: a round.  A round leaves no event of its own behind when
nothing is booked, or when nothing can be signed, so it is marked in the history:
`roundStep` is `serverStep` with a mark before the events of each round.

A round serves its clients one after the other.  Seen from one of them it is the
answer to the challenge of that client and nothing else, `responseTo`; this is what
`mainFunction_spec` says, and every result about rounds is read off it.

What is booked is known from the history, `Booked`: for each client the challenge
that arrived last since the last round.  The keys and the signals of the clients
are those of the configuration, `KeyTable`.
-/

namespace Sok.Fvm

open Sok.Common StateMachine FreshnessValueManagerImplServer

/-! ## One client in a round -/

/-- The client that an event is about. -/
def ServerEvent.client : ServerEvent → Option String
  | .recorded client _ => some client
  | .answered client _ _ _ _ _ => some client
  | .valuePublished client _ => some client
  | .signaturePublished client _ => some client
  | _ => none

/-- What of the events is about a client. -/
def clientView (client : String) (es : List ServerEvent) : List ServerEvent :=
  es.filter fun e => e.client = some client

variable {s s' s₀ : FreshnessValueManagerImplServer} {services : ServerServices}
variable {client : String} {es es' : List ServerEvent}

@[simp] theorem clientView_append :
    clientView client (es ++ es') = clientView client es ++ clientView client es' :=
  List.filter_append ..

theorem clientView_of_same (hsame : ∀ e ∈ es, e.client = some client) :
    clientView client es = es := by
  apply List.filter_eq_self.mpr
  intro e hmem
  simp [hsame e hmem]

theorem clientView_of_other (hother : ∀ e ∈ es, e.client ≠ some client) :
    clientView client es = [] := by
  apply List.filter_eq_nil_iff.mpr
  intro e hmem
  simp [hother e hmem]

/-- What a round does about one client, for which a challenge may be booked. -/
def responseTo (s : FreshnessValueManagerImplServer) (services : ServerServices)
    (client : String) : Option ByteVector → Except Fault (List ServerEvent)
  | none => .ok []
  | some challenge => s.sendAuthenticFvResponse services ⟨client, challenge⟩

/-- The value of a response. -/
def serializedFv (s : FreshnessValueManagerImplServer) : ByteVector :=
  uintToByteVectorTrim s.mFV fvmServerNumOfBytesInitialFv.toNat

/-- The MAC of the response to a challenge, when it can be created. -/
def macRes (s : FreshnessValueManagerImplServer) (services : ServerServices) (client : String)
    (challenge : ByteVector) : CsmResult ByteVector :=
  (services.mCsmAccessor client).macCreate (UnorderedMap.getD client 0 s.mClientNameToKeyId)
    (challenge ++ serializedFv s) .kAes128Cmac

/-- What publishing the value of a response returns. -/
def publishValue (s : FreshnessValueManagerImplServer) (services : ServerServices)
    (client : String) : FvmErrorCode :=
  (services.mSignalManager client).publish
    (UnorderedMap.getD client default s.mClientConfigMap).clientResponseValueSignal
    (serializedFv s)

/-- What publishing the signature of a response returns. -/
def publishSignature (s : FreshnessValueManagerImplServer) (services : ServerServices)
    (client : String) (mac : ByteVector) : FvmErrorCode :=
  (services.mSignalManager client).publish
    (UnorderedMap.getD client default s.mClientConfigMap).clientResponseSignatureSignal
    (mac.take 8)

/-- The event of a signature that was made. -/
def madeFor (s : FreshnessValueManagerImplServer) (client : String) (challenge mac : ByteVector) :
    ServerEvent :=
  .answered client (UnorderedMap.getD client 0 s.mClientNameToKeyId) challenge s.mFV
    (challenge ++ serializedFv s) (mac.take 8)

/-- How far the response to a challenge came. -/
inductive Response (s : FreshnessValueManagerImplServer) (services : ServerServices)
    (client : String) (challenge : ByteVector) : List ServerEvent → Prop
  | unsigned {code} (hmac : macRes s services client challenge = .error code) :
      Response s services client challenge []
  | unsent {mac} (hmac : macRes s services client challenge = .ok mac)
      (hvalue : publishValue s services client ≠ .kSuccess) :
      Response s services client challenge [madeFor s client challenge mac]
  | halfSent {mac} (hmac : macRes s services client challenge = .ok mac)
      (hvalue : publishValue s services client = .kSuccess)
      (hsignature : publishSignature s services client mac ≠ .kSuccess) :
      Response s services client challenge
        [.valuePublished client (serializedFv s), madeFor s client challenge mac]
  | sent {mac} (hmac : macRes s services client challenge = .ok mac)
      (hvalue : publishValue s services client = .kSuccess)
      (hsignature : publishSignature s services client mac = .kSuccess) :
      Response s services client challenge
        [.signaturePublished client (mac.take 8), .valuePublished client (serializedFv s),
          madeFor s client challenge mac]

theorem response_of_sendAuthenticFvResponse {challenge : ByteVector} {events : List ServerEvent}
    (hevents : s.sendAuthenticFvResponse services ⟨client, challenge⟩ = .ok events) :
    Response s services client challenge events := by
  have hsize : authFvSignatureSizeBytes.toNatClampNeg = 8 := by decide
  unfold sendAuthenticFvResponse publishResponse at hevents
  rw [hsize] at hevents
  dsimp only at hevents
  split at hevents
  · rename_i code hmac
    rw [← Except.ok.inj hevents]
    exact .unsigned hmac
  · rename_i mac hmac
    split at hevents
    · cases hevents
    · rw [← Except.ok.inj hevents]
      split
      · rename_i hvalue
        exact .unsent hmac hvalue
      · rename_i hvalue
        rw [ne_eq, not_not] at hvalue
        split
        · rename_i hsignature
          exact .halfSent hmac hvalue hsignature
        · rename_i hsignature
          rw [ne_eq, not_not] at hsignature
          exact .sent hmac hvalue hsignature

/-- A response is about its client. -/
theorem Response.client_eq {challenge : ByteVector} {events : List ServerEvent}
    (hresponse : Response s services client challenge events) :
    ∀ e ∈ events, e.client = some client := by
  intro e hmem
  cases hresponse with
  | unsigned hmac => simp at hmem
  | unsent hmac hvalue =>
    rw [List.mem_singleton.mp hmem]
    rfl
  | halfSent hmac hvalue hsignature =>
    simp only [List.mem_cons, List.not_mem_nil, or_false] at hmem
    rcases hmem with h | h
    · rw [h]
      rfl
    · rw [h]
      rfl
  | sent hmac hvalue hsignature =>
    simp only [List.mem_cons, List.not_mem_nil, or_false] at hmem
    rcases hmem with h | h | h
    · rw [h]
      rfl
    · rw [h]
      rfl
    · rw [h]
      rfl

/-- Seen from one client, a round over some entries is the response to its entry. -/
theorem clientView_sendResponses {entries : List (Σ _ : String, ByteVector)}
    (hnodup : entries.NodupKeys) {events : List ServerEvent}
    (hevents : s.sendResponses services entries = .ok events) (client : String) :
    responseTo s services client (entries.dlookup client) = .ok (clientView client events) := by
  induction entries generalizing events with
  | nil =>
    cases hevents
    rfl
  | cons entry rest ih =>
    obtain ⟨name, challenge⟩ := entry
    rw [List.nodupKeys_cons] at hnodup
    rw [sendResponses] at hevents
    split at hevents
    · cases hevents
    · rename_i first hfirst
      split at hevents
      · cases hevents
      · rename_i later hlater
        rw [← Except.ok.inj hevents, clientView_append]
        have hview := ih hnodup.2 hlater
        have habout := (response_of_sendAuthenticFvResponse hfirst).client_eq
        by_cases hname : name = client
        · subst hname
          rw [List.dlookup_eq_none.mpr hnodup.1] at hview
          rw [← Except.ok.inj hview, List.dlookup_cons_eq, clientView_of_same habout]
          exact hfirst
        · have hother : clientView client first = [] := by
            apply clientView_of_other
            intro e hmem heq
            rw [habout e hmem] at heq
            exact hname (Option.some.inj heq)
          rw [List.dlookup_cons_ne _ _ (Ne.symm hname), hview, hother, List.append_nil]

/-! ## The main function -/

/-- A round does not fault when the answer to none of its challenges does. -/
theorem sendResponses_ok {entries : List (Σ _ : String, ByteVector)}
    (hok : ∀ entry ∈ entries, ∃ events, s.sendAuthenticFvResponse services entry = .ok events) :
    ∃ events, s.sendResponses services entries = .ok events := by
  induction entries with
  | nil => exact ⟨[], rfl⟩
  | cons entry rest ih =>
    obtain ⟨first, hfirst⟩ := hok entry List.mem_cons_self
    obtain ⟨later, hlater⟩ := ih fun e hmem => hok e (List.mem_cons_of_mem _ hmem)
    refine ⟨later ++ first, ?_⟩
    rw [sendResponses, hfirst]
    dsimp only
    rw [hlater]

theorem advanceClock_responses :
    s.advanceClock.mResponsePendingChallenges = s.mResponsePendingChallenges ∧
      s.advanceClock.mClientNameToKeyId = s.mClientNameToKeyId ∧
      s.advanceClock.mClientConfigMap = s.mClientConfigMap := by
  unfold advanceClock
  dsimp only
  split
  · split
    · exact ⟨rfl, rfl, rfl⟩
    · exact ⟨rfl, rfl, rfl⟩
  · split
    · exact ⟨rfl, rfl, rfl⟩
    · exact ⟨rfl, rfl, rfl⟩

/-- Every event of a round is about a client. -/
theorem client_of_sendResponses {entries : List (Σ _ : String, ByteVector)}
    {events : List ServerEvent} (hevents : s.sendResponses services entries = .ok events) :
    ∀ e ∈ events, ∃ client, e.client = some client := by
  induction entries generalizing events with
  | nil =>
    cases hevents
    simp
  | cons entry rest ih =>
    rw [sendResponses] at hevents
    split at hevents
    · cases hevents
    · rename_i first hfirst
      split at hevents
      · cases hevents
      · rename_i later hlater
        rw [← Except.ok.inj hevents]
        intro e hmem
        rcases List.mem_append.mp hmem with hmem | hmem
        · exact ih hlater e hmem
        · exact ⟨entry.1, (response_of_sendAuthenticFvResponse hfirst).client_eq e hmem⟩

/-- What a call of the main function does to the clients: `events` are those of the
round, if there is one, and `broadcast` those of the broadcast. -/
structure ServesClients (s : FreshnessValueManagerImplServer) (services : ServerServices)
    (events : List ServerEvent) (s' : FreshnessValueManagerImplServer) : Prop where
  idle : s.mNeedToSendAuthFvResponses = false →
    events = [] ∧ s'.mResponsePendingChallenges = s.mResponsePendingChallenges
  round : s.mNeedToSendAuthFvResponses = true → s'.mResponsePendingChallenges = ∅ ∧
    ∀ client, responseTo s services client (s.mResponsePendingChallenges.lookup client) =
      .ok (clientView client events)
  client : ∀ e ∈ events, ∃ client, e.client = some client
  mClientNameToKeyId : s'.mClientNameToKeyId = s.mClientNameToKeyId
  mClientConfigMap : s'.mClientConfigMap = s.mClientConfigMap

theorem servesClients_respondIfNeeded {result : ServerResult}
    (hresult : s.respondIfNeeded services = .ok result) :
    ServesClients s services result.2.2 result.2.1 := by
  rcases respondIfNeeded_cases hresult with ⟨hidle, rfl⟩ | ⟨hneed, events, hevents, rfl⟩
  · refine ⟨fun _ => ⟨rfl, rfl⟩, ?_, List.forall_mem_nil _, rfl, rfl⟩
    intro hneed
    rw [hidle] at hneed
    cases hneed
  · have hperm := services.order.perm s.mResponsePendingChallenges.entries
    have hnodup : (services.order.arrange s.mResponsePendingChallenges.entries).NodupKeys :=
      (List.perm_nodupKeys hperm).mpr s.mResponsePendingChallenges.nodupKeys
    refine ⟨?_, ?_, client_of_sendResponses hevents, rfl, rfl⟩
    · intro hidle
      rw [hneed] at hidle
      cases hidle
    · intro _
      refine ⟨rfl, fun client => ?_⟩
      rw [← clientView_sendResponses hnodup hevents client, AList.lookup,
        List.perm_dlookup client hnodup hperm]

/-- A broadcast is not about a client. -/
theorem client_broadcastIfNeeded (signals : ISignalManager) :
    ∀ e ∈ (s.broadcastIfNeeded signals).2.2, ∃ value, e = .broadcast value := by
  intro e hmem
  exact ⟨_, (event_broadcastIfNeeded signals e hmem).2⟩

theorem clientView_broadcastIfNeeded (client : String) (signals : ISignalManager) :
    clientView client (s.broadcastIfNeeded signals).2.2 = [] := by
  apply clientView_of_other
  intro e hmem
  obtain ⟨value, rfl⟩ := client_broadcastIfNeeded signals e hmem
  simp [ServerEvent.client]

/-- What a call of the main function does, seen from the clients. -/
theorem mainFunction_spec (hinit : s.mInitialized = true) {ret : FvmErrorCode}
    (hresult : s.mainFunction services = .ok (ret, s', es)) :
    ∃ events, ServesClients s services events s' ∧
      es = .mainFunctionCompleted ret ::
        (events ++ (s.broadcastIfNeeded services.broadcastSignals).2.2) ∧
      ret = (s.broadcastIfNeeded services.broadcastSignals).1 := by
  obtain ⟨t, events, hrespond, hparts⟩ := mainFunction_parts hinit hresult
  have hserves := servesClients_respondIfNeeded hrespond
  rw [broadcastIfNeeded_eq] at hserves
  obtain ⟨hpending, hkeys, hconfig⟩ := advanceClock_responses (s := t)
  cases hparts
  refine ⟨events, ?_, rfl, rfl⟩
  refine ⟨?_, ?_, ?_, ?_, ?_⟩
  · rw [hpending]
    exact hserves.idle
  · rw [hpending]
    exact hserves.round
  · exact hserves.client
  · rw [hkeys]
    exact hserves.mClientNameToKeyId
  · rw [hconfig]
    exact hserves.mClientConfigMap

/-! ## The server with its rounds marked -/

inductive RoundEvent
  /-- A round begins. -/
  | round
  | server (e : ServerEvent)
  deriving DecidableEq, Repr

/-- The input makes the main function go through what is booked. -/
def opensRound (s : FreshnessValueManagerImplServer) : ServerOp → Bool
  | .mainFunction _ => s.mInitialized && s.mNeedToSendAuthFvResponses
  | _ => false

/-- The mark of a round. -/
def roundMark (s : FreshnessValueManagerImplServer) (op : ServerOp) : List RoundEvent :=
  if opensRound s op then [.round] else []

/-- `serverStep`, with a mark before the events of each round. -/
def roundStep : Machine FreshnessValueManagerImplServer ServerOp RoundEvent Fault := fun s op =>
  (serverStep s op).map fun ret => (ret.1, ret.2.map .server ++ roundMark s op)

variable {op : ServerOp} {g g' h h' newer older : List RoundEvent} {challenge : ByteVector}

theorem serverStep_of_roundStep (hstep : roundStep s op = .ok (s', g)) :
    ∃ es, serverStep s op = .ok (s', es) ∧ g = es.map .server ++ roundMark s op := by
  obtain ⟨ret, hret, heq⟩ := exists_of_map_ok hstep
  cases heq
  exact ⟨ret.2, hret, rfl⟩

/-- The events of the server. -/
def served (h : List RoundEvent) : List ServerEvent :=
  h.filterMap fun
    | .server e => some e
    | .round => none

@[simp] theorem served_append : served (h' ++ h) = served h' ++ served h :=
  List.filterMap_append ..

@[simp] theorem served_map_server : served (es.map .server) = es := by
  unfold served
  rw [List.filterMap_map]
  exact List.filterMap_some

@[simp] theorem served_roundMark : served (roundMark s op) = [] := by
  unfold roundMark
  split
  · rfl
  · rfl

/-- Without the marks, a run is a run of the server. -/
theorem serverRun_of_roundRun {P : Guard FreshnessValueManagerImplServer ServerOp RoundEvent}
    (hrun : Run roundStep P s₀ [] s h) : Run serverStep Anything s₀ [] s (served h) := by
  refine hrun.project id served ?_
  intro s h op s' g _ hstep
  obtain ⟨es, hserver, rfl⟩ := serverStep_of_roundStep hstep
  simp only [served_append, served_map_server, served_roundMark, List.append_nil]
  exact .single trivial hserver

/-! ## What is booked -/

def RoundEvent.isRound : RoundEvent → Bool
  | .round => true
  | .server _ => false

/-- The challenge that is booked for a client. -/
def RoundEvent.challengeOf (client : String) : RoundEvent → Option ByteVector
  | .server (.recorded client' challenge) => if client' = client then some challenge else none
  | _ => none

/-- The challenge that was booked for a client last. -/
def lastChallenge (client : String) (h : List RoundEvent) : Option ByteVector :=
  h.findSome? (·.challengeOf client)

theorem lastChallenge_append (hnone : lastChallenge client h' = none) :
    lastChallenge client (h' ++ h) = lastChallenge client h := by
  unfold lastChallenge at hnone ⊢
  rw [List.findSome?_append, hnone]
  rfl

/-- The last challenge, found in the history. -/
theorem lastChallenge_eq_some (hlast : lastChallenge client h = some challenge) :
    ∃ newer older, h = newer ++ .server (.recorded client challenge) :: older ∧
      lastChallenge client newer = none := by
  induction h with
  | nil => cases hlast
  | cons e h ih =>
    unfold lastChallenge at hlast
    rw [List.findSome?_cons] at hlast
    split at hlast
    · rename_i found hfound
      cases hlast
      unfold RoundEvent.challengeOf at hfound
      split at hfound
      · rename_i client' challenge'
        split at hfound
        · rename_i hclient
          cases hfound
          rw [hclient]
          exact ⟨[], h, rfl, rfl⟩
        · cases hfound
      · cases hfound
    · rename_i hnone
      obtain ⟨newer, older, hsplit, hnewer⟩ := ih hlast
      refine ⟨e :: newer, older, by rw [hsplit, List.cons_append], ?_⟩
      unfold lastChallenge at hnewer ⊢
      rw [List.findSome?_cons, hnone]
      exact hnewer

/-- A part of the history in which nothing was booked. -/
theorem lastChallenge_eq_none (hnone : ∀ c, .server (.recorded client c) ∉ h) :
    lastChallenge client h = none := by
  apply List.findSome?_eq_none_iff.mpr
  intro e hmem
  unfold RoundEvent.challengeOf
  split
  · rename_i client' c
    split
    · rename_i hclient
      subst hclient
      exact absurd hmem (hnone c)
    · rfl
  · rfl

theorem recorded_not_mem (hnone : lastChallenge client h = none) :
    .server (.recorded client challenge) ∉ h := by
  intro hmem
  have hquiet := List.findSome?_eq_none_iff.mp hnone _ hmem
  simp [RoundEvent.challengeOf] at hquiet

/-- A client whose challenge is booked is one that the server knows, and the
challenge is the last one since the last round. -/
structure Booked (s : FreshnessValueManagerImplServer) (h : List RoundEvent) : Prop where
  known : ∀ client ∈ s.mResponsePendingChallenges, client ∈ s.mClientNameToKeyId
  lookup : ∀ client, s.mResponsePendingChallenges.lookup client =
    lastChallenge client (since RoundEvent.isRound h)

/-- What a step does, seen from the clients. -/
inductive RoundStep (s : FreshnessValueManagerImplServer) (op : ServerOp) (g : List RoundEvent)
    (s' : FreshnessValueManagerImplServer) : Prop
  | mainFunction (services : ServerServices) (ret : FvmErrorCode) (events : List ServerEvent)
      (hop : op = .mainFunction services)
      (hserves : ServesClients s services events s')
      (hg : g = .server (.mainFunctionCompleted ret) ::
        ((events ++ (s.broadcastIfNeeded services.broadcastSignals).2.2).map .server ++
          if s.mNeedToSendAuthFvResponses then [.round] else []))
      (hret : ret = (s.broadcastIfNeeded services.broadcastSignals).1)
  | books (signal client : String) (challenge : ByteVector)
      (hop : op = .incomingAuthFvChallengeSignal signal challenge)
      (hclient : clientOfSignal signal = some client) (hknown : client ∈ s.mClientNameToKeyId)
      (hg : g = [.server (.recorded client challenge)])
      (hs' : s' = { s with
        mResponsePendingChallenges := s.mResponsePendingChallenges.insert client challenge })
  | quiet (hop : ∀ services, op ≠ .mainFunction services) (hg : g = [])
      (base : AFreshnessValueManagerImpl)
      (hs' : s' = { s with toAFreshnessValueManagerImpl := base })

theorem roundStep_of_step (hinit : s.mInitialized = true)
    (hstep : roundStep s op = .ok (s', g)) : RoundStep s op g s' := by
  obtain ⟨es, hserver, rfl⟩ := serverStep_of_roundStep hstep
  cases op with
  | mainFunction services =>
    obtain ⟨ret, hresult⟩ := mainFunction_of_serverStep hserver
    obtain ⟨events, hserves, rfl, hret⟩ := mainFunction_spec hinit hresult
    refine .mainFunction services ret events rfl hserves ?_ hret
    simp [roundMark, opensRound, hinit]
  | incomingAuthFvChallengeSignal signal challenge =>
    have hcb : s.incomingAuthFvChallengeSignalsCb signal challenge = (s', es) :=
      Except.ok.inj hserver
    rcases s.incomingAuthFvChallengeSignalsCb_cases signal challenge with
      heq | ⟨client, hclient, hknown, heq⟩
    · cases heq.symm.trans hcb
      exact .quiet nofun rfl s.toAFreshnessValueManagerImpl rfl
    · cases heq.symm.trans hcb
      exact .books signal client challenge rfl hclient hknown rfl rfl
  | call call =>
    cases Except.ok.inj hserver
    exact .quiet nofun rfl _ rfl

/-- A response publishes the freshness value of its round. -/
theorem Response.of_valuePublished {events : List ServerEvent} {value : ByteVector}
    (hresponse : Response s services client challenge events)
    (hmem : .valuePublished client value ∈ events) :
    value = serializedFv s ∧ publishValue s services client = .kSuccess := by
  cases hresponse with
  | unsigned hmac => cases hmem
  | unsent hmac hvalue => simp [madeFor] at hmem
  | halfSent hmac hvalue hsignature =>
    simp only [madeFor, List.mem_cons, ServerEvent.valuePublished.injEq, true_and, reduceCtorEq,
      List.not_mem_nil, or_false] at hmem
    exact ⟨hmem, hvalue⟩
  | sent hmac hvalue hsignature =>
    simp only [madeFor, List.mem_cons, ServerEvent.valuePublished.injEq, true_and, reduceCtorEq,
      List.not_mem_nil, or_false, false_or] at hmem
    exact ⟨hmem, hvalue⟩

/-- A response publishes the beginning of its MAC, after the value. -/
theorem Response.of_signaturePublished {events : List ServerEvent} {signature : ByteVector}
    (hresponse : Response s services client challenge events)
    (hmem : .signaturePublished client signature ∈ events) :
    ∃ mac, macRes s services client challenge = .ok mac ∧ signature = mac.take 8 ∧
      publishSignature s services client mac = .kSuccess ∧
      .valuePublished client (serializedFv s) ∈ events := by
  cases hresponse with
  | unsigned hmac => cases hmem
  | unsent hmac hvalue => simp [madeFor] at hmem
  | halfSent hmac hvalue hsignature => simp [madeFor] at hmem
  | sent hmac hvalue hsignature =>
    simp only [madeFor, List.mem_cons, ServerEvent.signaturePublished.injEq, true_and,
      reduceCtorEq, List.not_mem_nil, or_false] at hmem
    exact ⟨_, hmac, hmem, hsignature, by simp⟩

/-- A response does not book a challenge. -/
theorem Response.recorded_not_mem {c : ByteVector} {events : List ServerEvent}
    (hresponse : Response s services client challenge events) :
    .recorded client c ∉ events := by
  cases hresponse with
  | unsigned hmac => simp
  | unsent hmac hvalue => simp [madeFor]
  | halfSent hmac hvalue hsignature => simp [madeFor]
  | sent hmac hvalue hsignature => simp [madeFor]

theorem ServesClients.recorded_not_mem {events : List ServerEvent} {c : ByteVector}
    (hserves : ServesClients s services events s') : .recorded client c ∉ events := by
  intro hmem
  cases hneed : s.mNeedToSendAuthFvResponses with
  | false =>
    rw [(hserves.idle hneed).1] at hmem
    cases hmem
  | true =>
    have hview : .recorded client c ∈ clientView client events :=
      List.mem_filter.mpr ⟨hmem, by simp [ServerEvent.client]⟩
    have hresponse := (hserves.round hneed).2 client
    cases hlookup : s.mResponsePendingChallenges.lookup client with
    | none =>
      rw [hlookup] at hresponse
      rw [← Except.ok.inj hresponse] at hview
      cases hview
    | some challenge =>
      rw [hlookup] at hresponse
      exact (response_of_sendAuthenticFvResponse hresponse).recorded_not_mem hview

/-- A call of the main function does not book a challenge. -/
theorem ServesClients.lastChallenge_eq_none {events : List ServerEvent}
    (hserves : ServesClients s services events s') (client : String) (ret : FvmErrorCode) :
    lastChallenge client (.server (.mainFunctionCompleted ret) ::
      (events ++ (s.broadcastIfNeeded services.broadcastSignals).2.2).map .server) = none := by
  apply Sok.Fvm.lastChallenge_eq_none
  intro c hmem
  simp only [List.mem_cons, List.mem_map, List.mem_append, RoundEvent.server.injEq,
    exists_eq_right, reduceCtorEq, false_or] at hmem
  rcases hmem with hmem | hmem
  · exact hserves.recorded_not_mem hmem
  · obtain ⟨value, hvalue⟩ := client_broadcastIfNeeded _ _ hmem
    cases hvalue

theorem isRound_map_server (es : List ServerEvent) :
    ∀ e ∈ es.map RoundEvent.server, e.isRound = false := by
  intro e hmem
  obtain ⟨e', -, rfl⟩ := List.mem_map.mp hmem
  rfl

theorem Booked.step (hbooked : Booked s h) (hstep : RoundStep s op g s') : Booked s' (g ++ h) := by
  cases hstep with
  | mainFunction services ret events hop hserves hg hret =>
    have hnone := fun client => hserves.lastChallenge_eq_none client ret
    have hquiet := isRound_map_server (.mainFunctionCompleted ret ::
      (events ++ (s.broadcastIfNeeded services.broadcastSignals).2.2))
    rw [List.map_cons] at hquiet
    subst hg
    cases hneed : s.mNeedToSendAuthFvResponses with
    | false =>
      obtain ⟨-, hpending⟩ := hserves.idle hneed
      refine ⟨?_, fun client => ?_⟩
      · rw [hpending, hserves.mClientNameToKeyId]
        exact hbooked.known
      · simp only [Bool.false_eq_true, if_false, List.append_nil]
        rw [since_append_of_not_mark hquiet, lastChallenge_append (hnone client), hpending]
        exact hbooked.lookup client
    | true =>
      obtain ⟨hpending, -⟩ := hserves.round hneed
      refine ⟨?_, fun client => ?_⟩
      · intro client hmem
        rw [hpending] at hmem
        exact absurd hmem (AList.notMem_empty client)
      · rw [if_pos rfl, ← List.cons_append, List.append_assoc, since_append_of_not_mark hquiet,
          List.singleton_append, since_cons_of_mark rfl, List.append_nil, hnone client, hpending]
        rfl
  | books signal client' challenge hop hclient hknown hg hs' =>
    subst hg hs'
    refine ⟨?_, fun client => ?_⟩
    · intro client hmem
      rcases AList.mem_insert _ |>.mp hmem with hsame | hmem
      · rw [hsame]
        exact hknown
      · exact hbooked.known client hmem
    · rw [List.singleton_append, since_cons_of_not_mark rfl]
      by_cases hsame : client = client'
      · subst hsame
        simp [lastChallenge, RoundEvent.challengeOf]
      · show (AList.insert client' challenge s.mResponsePendingChallenges).lookup client = _
        rw [AList.lookup_insert_ne hsame, hbooked.lookup client]
        simp [lastChallenge, RoundEvent.challengeOf, Ne.symm hsame]
  | quiet hop hg base hs' =>
    subst hg hs'
    exact ⟨hbooked.known, hbooked.lookup⟩

end Sok.Fvm
