import SokFvm.Fvm.ResponseService

/-!
# What a response is bound to

A response carries the freshness value of its round, is signed with the key of the
client whose challenge it answers, over that challenge and that value, and goes out
on the signals of that client.

* `KeyTable`: the two tables that the server keeps about its clients are those of
  the configuration, from `Init` on.
* `FreshlyBooked`: what is booked for a client is the newest event that is about it.  From
  this it follows that a signature is made once for each challenge,
  `SignedOnce`.
* `without`: a server that never heard of one client serves the others as before.

`responses_bound` is the assembly.
-/

namespace Sok.Fvm

open Sok.Common StateMachine FreshnessValueManagerImplServer

variable {s s' s₀ t : FreshnessValueManagerImplServer} {op : ServerOp} {services : ServerServices}
variable {g h newer older : List RoundEvent} {client : String} {challenge : ByteVector}

/-! ## The tables of the clients -/

/-- The keys and the signals that the server uses are those of the configuration. -/
structure KeyTable (s : FreshnessValueManagerImplServer) : Prop where
  keys : ∀ client, s.mClientNameToKeyId.lookup client =
    (s.mFvmConfAccessor.getClientsConfigMap.lookup client).map (·.keyId)
  configs : s.mClientConfigMap = s.mFvmConfAccessor.getClientsConfigMap

/-- The loop of `serverOrParticipantInit` takes down the key of every client. -/
theorem lookup_subscribeClients {csm : ICsmAccessor} {signals : ISignalManager}
    {clients : List (Σ _ : String, SokFvClientConfigArrayInstance)} (hnodup : clients.NodupKeys)
    (hret : (subscribeClients csm signals s clients).1 = true) (client : String) :
    (subscribeClients csm signals s clients).2.mClientNameToKeyId.lookup client =
      ((clients.dlookup client).map (·.keyId)).or (s.mClientNameToKeyId.lookup client) := by
  induction clients generalizing s with
  | nil => rfl
  | cons entry rest ih =>
    obtain ⟨name, conf⟩ := entry
    rw [List.nodupKeys_cons] at hnodup
    rw [subscribeClients] at hret ⊢
    split at hret
    · cases hret
    · rename_i hkey
      rw [if_neg hkey]
      split at hret
      · cases hret
      · rename_i hsubscribe
        rw [if_neg hsubscribe, ih hnodup.2 hret]
        by_cases hname : client = name
        · subst hname
          rw [List.dlookup_eq_none.mpr hnodup.1, List.dlookup_cons_eq]
          exact AList.lookup_insert _
        · rw [List.dlookup_cons_ne _ _ hname]
          congr 1
          exact AList.lookup_insert_ne hname

theorem keyTable_of_firstInit (hfirst : s.FirstInit) : KeyTable s := by
  obtain ⟨services, hinit⟩ := hfirst
  obtain ⟨-, -, base, ret, hregister, hret, rfl⟩ := DerivedClass.init_eq_success hinit
  have hcalled : (construct base).serverOrParticipantInit services.mCsmAccessor
      services.mSignalManager services.order = (true, ret) := hret
  unfold serverOrParticipantInit at hcalled
  split at hcalled
  · cases hcalled
  · rename_i randomBytes hrandom
    dsimp only at hcalled
    have hsuccess := congrArg Prod.fst hcalled
    have hsnd := congrArg Prod.snd hcalled
    have hperm := services.order.perm base.mFvmConfAccessor.getClientsConfigMap.entries
    have hnodup := (List.perm_nodupKeys hperm).mpr
      base.mFvmConfAccessor.getClientsConfigMap.nodupKeys
    rw [base_subscribeClients] at hsnd
    dsimp only at hsnd
    subst hsnd
    refine ⟨fun client => ?_, rfl⟩
    have hlookup := lookup_subscribeClients hnodup hsuccess client
    rw [List.perm_dlookup client hnodup hperm] at hlookup
    exact hlookup.trans Option.or_none

theorem KeyTable.step (htable : KeyTable s) (hround : RoundStep s op g s')
    (hstep : roundStep s op = .ok (s', g)) : KeyTable s' := by
  obtain ⟨es, hserver, -⟩ := serverStep_of_roundStep hstep
  have haccessor := (sameSetup_of_serverStep hserver).mFvmConfAccessor
  have hsame : s'.mClientNameToKeyId = s.mClientNameToKeyId ∧
      s'.mClientConfigMap = s.mClientConfigMap := by
    cases hround with
    | mainFunction services ret events hop hserves hg hret =>
      exact ⟨hserves.mClientNameToKeyId, hserves.mClientConfigMap⟩
    | books signal client challenge hop hclient hknown hg hs' =>
      rw [hs']
      exact ⟨rfl, rfl⟩
    | quiet hop hg base hs' =>
      rw [hs']
      exact ⟨rfl, rfl⟩
  refine ⟨?_, ?_⟩
  · rw [hsame.1, haccessor]
    exact htable.keys
  · rw [hsame.2, haccessor]
    exact htable.configs

/-- A client that the server knows is configured. -/
theorem KeyTable.configured (htable : KeyTable s) (hknown : client ∈ s.mClientNameToKeyId) :
    ∃ conf, s.mFvmConfAccessor.getClientsConfigMap.lookup client = some conf ∧
      UnorderedMap.getD client 0 s.mClientNameToKeyId = conf.keyId ∧
      UnorderedMap.getD client default s.mClientConfigMap = conf := by
  have hkey := htable.keys client
  cases hconf : s.mFvmConfAccessor.getClientsConfigMap.lookup client with
  | none =>
    rw [hconf] at hkey
    exact absurd hknown (AList.lookup_eq_none.mp hkey)
  | some conf =>
    rw [hconf] at hkey
    refine ⟨conf, rfl, ?_, ?_⟩
    · rw [UnorderedMap.getD, hkey]
      rfl
    · rw [UnorderedMap.getD, htable.configs, hconf]
      rfl

/-! ## One signature for each challenge -/

/-- What of the history is about a client. -/
def viewOf (client : String) (h : List RoundEvent) : List ServerEvent :=
  clientView client (served h)

@[simp] theorem viewOf_append : viewOf client (g ++ h) = viewOf client g ++ viewOf client h := by
  unfold viewOf
  rw [served_append, clientView_append]

theorem mem_of_mem_viewOf {e : ServerEvent} (hmem : e ∈ viewOf client h) : .server e ∈ h := by
  have hserved := (List.mem_filter.mp hmem).1
  obtain ⟨e', hmem', he⟩ := List.mem_filterMap.mp hserved
  cases e' with
  | round => cases he
  | server e' =>
    cases he
    exact hmem'

/-- What is booked for a client is the newest event about it. -/
def FreshlyBooked (s : FreshnessValueManagerImplServer) (h : List RoundEvent) : Prop :=
  ∀ client challenge, s.mResponsePendingChallenges.lookup client = some challenge →
    ∃ past, viewOf client h = .recorded client challenge :: past

/-- A signature for a client follows the challenge of that client that it answers. -/
def FollowsChallenge (client : String) (e : ServerEvent) (past : List ServerEvent) : Prop :=
  ∀ signature, e = .signaturePublished client signature →
    ∃ value keyId challenge fv data mac older,
      past = .valuePublished client value :: .answered client keyId challenge fv data mac ::
        .recorded client challenge :: older

/-- Of a call of the main function, a client sees the round. -/
theorem viewOf_mainFunction {events : List ServerEvent} {ret : FvmErrorCode}
    (hg : g = .server (.mainFunctionCompleted ret) ::
      ((events ++ (s.broadcastIfNeeded services.broadcastSignals).2.2).map .server ++
        if s.mNeedToSendAuthFvResponses then [.round] else [])) :
    viewOf client g = clientView client events := by
  have hbroadcast := clientView_broadcastIfNeeded (s := s) client services.broadcastSignals
  have hserved : served g = .mainFunctionCompleted ret ::
      (events ++ (s.broadcastIfNeeded services.broadcastSignals).2.2) := by
    rw [hg, ← List.cons_append, ← List.map_cons, served_append, served_map_server]
    split
    · exact List.append_nil _
    · exact List.append_nil _
  unfold viewOf
  rw [hserved, ← List.singleton_append, clientView_append, clientView_append, hbroadcast,
    List.append_nil]
  rfl

/-- The events about a client that a step adds. -/
theorem RoundStep.viewOf_cases (hstep : RoundStep s op g s') (client : String) :
    viewOf client g = [] ∧ (s'.mResponsePendingChallenges.lookup client =
        s.mResponsePendingChallenges.lookup client ∨
        s'.mResponsePendingChallenges.lookup client = none) ∨
      (∃ challenge, viewOf client g = [.recorded client challenge] ∧
        s'.mResponsePendingChallenges.lookup client = some challenge) ∨
      ∃ services challenge, op = .mainFunction services ∧ s.mNeedToSendAuthFvResponses = true ∧
        s.mResponsePendingChallenges.lookup client = some challenge ∧
        s'.mResponsePendingChallenges.lookup client = none ∧
        Response s services client challenge (viewOf client g) := by
  cases hstep with
  | mainFunction services ret events hop hserves hg hret =>
    have hview : viewOf client g = clientView client events := viewOf_mainFunction hg
    rw [hview]
    cases hneed : s.mNeedToSendAuthFvResponses with
    | false =>
      obtain ⟨hevents, hpending⟩ := hserves.idle hneed
      left
      rw [hevents, hpending]
      exact ⟨rfl, Or.inl rfl⟩
    | true =>
      obtain ⟨hpending, hresponse⟩ := hserves.round hneed
      have hclient := hresponse client
      cases hlookup : s.mResponsePendingChallenges.lookup client with
      | none =>
        rw [hlookup] at hclient
        left
        rw [← Except.ok.inj hclient, hpending]
        exact ⟨rfl, Or.inr rfl⟩
      | some challenge =>
        rw [hlookup] at hclient
        right
        right
        refine ⟨services, challenge, hop, rfl, rfl, ?_,
          response_of_sendAuthenticFvResponse hclient⟩
        rw [hpending]
        rfl
  | books signal client' challenge hop hclient hknown hg hs' =>
    subst hg hs'
    by_cases hsame : client = client'
    · subst hsame
      right
      left
      refine ⟨challenge, ?_, AList.lookup_insert _⟩
      simp [viewOf, served, clientView, ServerEvent.client]
    · left
      refine ⟨?_, Or.inl (AList.lookup_insert_ne hsame)⟩
      simp [viewOf, served, clientView, ServerEvent.client, Ne.symm hsame]
  | quiet hop hg base hs' =>
    subst hg hs'
    left
    exact ⟨rfl, Or.inl rfl⟩

theorem FreshlyBooked.step (hfresh : FreshlyBooked s h) (hstep : RoundStep s op g s') :
    FreshlyBooked s' (g ++ h) := by
  intro client challenge hlookup
  rw [viewOf_append]
  rcases hstep.viewOf_cases client with ⟨hview, hkept | hgone⟩ | ⟨challenge', hview, hbooked⟩ |
    ⟨services, challenge', -, -, -, hgone, -⟩
  · rw [hview, List.nil_append]
    exact hfresh client challenge (hkept ▸ hlookup)
  · rw [hgone] at hlookup
    cases hlookup
  · rw [hbooked] at hlookup
    cases hlookup
    rw [hview]
    exact ⟨_, rfl⟩
  · rw [hgone] at hlookup
    cases hlookup

theorem followsChallenge_step (hfresh : FreshlyBooked s h) (hstep : RoundStep s op g s')
    (heach : EachEvent (FollowsChallenge client) (viewOf client h)) :
    EachEvent (FollowsChallenge client) (viewOf client (g ++ h)) := by
  rw [viewOf_append]
  rcases hstep.viewOf_cases client with ⟨hview, -⟩ | ⟨challenge, hview, -⟩ |
    ⟨services, challenge, -, -, hlookup, -, hresponse⟩
  · rw [hview]
    exact heach
  · rw [hview]
    exact ⟨nofun, heach⟩
  · obtain ⟨past, hpast⟩ := hfresh client challenge hlookup
    rw [hpast] at heach ⊢
    cases hview : viewOf client g with
    | nil => exact heach
    | cons e rest =>
      rw [hview] at hresponse
      cases hresponse with
      | unsent hmac hvalue => exact ⟨nofun, heach⟩
      | halfSent hmac hvalue hsignature => exact ⟨nofun, nofun, heach⟩
      | sent hmac hvalue hsignature =>
        refine ⟨?_, nofun, nofun, heach⟩
        intro signature _
        exact ⟨_, _, _, _, _, _, past, rfl⟩

/-- Between two signatures for a client, a challenge of that client is booked. -/
theorem recorded_between {newer mid older : List RoundEvent} {first second : ByteVector}
    (heach : EachEvent (FollowsChallenge client) (viewOf client
      (newer ++ .server (.signaturePublished client second) ::
        (mid ++ .server (.signaturePublished client first) :: older)))) :
    ∃ challenge, .server (.recorded client challenge) ∈ mid := by
  have hcons : ∀ (signature : ByteVector) (h : List RoundEvent),
      viewOf client (.server (.signaturePublished client signature) :: h) =
        .signaturePublished client signature :: viewOf client h := by
    intro signature h
    simp [viewOf, served, clientView, ServerEvent.client]
  rw [viewOf_append, hcons, viewOf_append, hcons] at heach
  obtain ⟨value, keyId, challenge, fv, data, mac, past, hpast⟩ := heach.past second rfl
  refine ⟨challenge, ?_⟩
  -- the three events before the second signature all lie after the first one
  have hmem : .recorded client challenge ∈ viewOf client mid := by
    generalize viewOf client mid = view at hpast ⊢
    rcases view with _ | ⟨e, view⟩
    · cases hpast
    rcases view with _ | ⟨e', view⟩
    · cases hpast
    rcases view with _ | ⟨e'', view⟩
    · cases hpast
    cases hpast
    simp
  exact mem_of_mem_viewOf hmem

/-! ## Without one client -/

/-- The input is a challenge of the client. -/
def fromClient (client : String) : ServerOp → Bool
  | .incomingAuthFvChallengeSignal signal _ => clientOfSignal signal = some client
  | _ => false

/-- The server with other challenges booked. -/
def withPending (s : FreshnessValueManagerImplServer) (pending : UnorderedMap String ByteVector) :
    FreshnessValueManagerImplServer :=
  { s with mResponsePendingChallenges := pending }

variable {pending : UnorderedMap String ByteVector}

/-- What is booked but for one client. -/
structure Without (client : String) (s : FreshnessValueManagerImplServer)
    (pending : UnorderedMap String ByteVector) : Prop where
  absent : pending.lookup client = none
  others : ∀ other, other ≠ client →
    pending.lookup other = s.mResponsePendingChallenges.lookup other

theorem broadcastIfNeeded_withPending (signals : ISignalManager) :
    (withPending s pending).broadcastIfNeeded signals =
      ((s.broadcastIfNeeded signals).1, withPending (s.broadcastIfNeeded signals).2.1 pending,
        (s.broadcastIfNeeded signals).2.2) := by
  unfold broadcastIfNeeded unauthenticatedBroadcast
  by_cases hneed : s.mNeedToBroadcastFv = true
  · by_cases hpublished : signals.publish s.mFvmConfAccessor.getUnauthenticatedFvSignalConfig
        (uintToByteVector s.mFV) = .kSuccess
    · simp [withPending, hneed, hpublished]
    · simp [withPending, hneed, hpublished]
  · simp [withPending, hneed]

theorem advanceClock_withPending :
    (withPending s pending).advanceClock = withPending s.advanceClock pending := by
  unfold advanceClock
  by_cases hchanged : s.toAFreshnessValueManagerImpl.incTimers.mFV = s.mFV
  · simp only [withPending, hchanged, ne_eq, not_true_eq_false, if_false]
    split
    · rfl
    · rfl
  · simp only [withPending, hchanged, ne_eq, not_false_eq_true, if_true]
    split
    · rfl
    · rfl

/-- A round over fewer challenges does not fault if the round over all does not. -/
theorem respondIfNeeded_withPending (hwithout : Without client s pending) {result : ServerResult}
    (hresult : s.respondIfNeeded services = .ok result) :
    ∃ pending' events, (withPending s pending).respondIfNeeded services =
      .ok (result.1, withPending result.2.1 pending', events) ∧
      Without client result.2.1 pending' := by
  have hserves := servesClients_respondIfNeeded hresult
  by_cases hneed : s.mNeedToSendAuthFvResponses = true
  · have hok : ∃ events, (withPending s pending).sendResponses services
        (services.order.arrange pending.entries) = .ok events := by
      apply sendResponses_ok
      intro entry hmem
      have hentry := (services.order.perm _).mem_iff.mp hmem
      have hlookup : pending.lookup entry.1 = some entry.2 := AList.mem_lookup_iff.mpr hentry
      have hother : entry.1 ≠ client := by
        intro hsame
        rw [hsame, hwithout.absent] at hlookup
        cases hlookup
      have hresponse := (hserves.round hneed).2 entry.1
      rw [← hwithout.others _ hother, hlookup] at hresponse
      exact ⟨_, hresponse⟩
    obtain ⟨events, hevents⟩ := hok
    have hneed' : (withPending s pending).mNeedToSendAuthFvResponses = true := hneed
    unfold respondIfNeeded sendAuthenticFvResponses at hresult ⊢
    rw [if_pos hneed] at hresult
    rw [if_pos hneed']
    split at hresult
    · cases hresult
    · cases hresult
      refine ⟨∅, events, ?_, ⟨rfl, fun _ _ => rfl⟩⟩
      dsimp only [withPending] at hevents ⊢
      rw [hevents]
  · have hneed' : ¬ (withPending s pending).mNeedToSendAuthFvResponses = true := hneed
    unfold respondIfNeeded at hresult ⊢
    rw [if_neg hneed] at hresult
    rw [if_neg hneed']
    cases hresult
    exact ⟨pending, [], rfl, hwithout⟩

/-- What the main function does for a client. -/
theorem responseTo_of_roundStep (hinit : s.mInitialized = true)
    (hstep : roundStep s (.mainFunction services) = .ok (s', g)) (client : String) :
    if s.mNeedToSendAuthFvResponses then
      responseTo s services client (s.mResponsePendingChallenges.lookup client) =
        .ok (viewOf client g)
    else viewOf client g = [] := by
  cases roundStep_of_step hinit hstep with
  | mainFunction services' ret events hop hserves hg hret =>
    cases hop
    rw [viewOf_mainFunction hg]
    split
    · rename_i hneed
      exact (hserves.round hneed).2 client
    · rename_i hneed
      rw [(hserves.idle (Bool.eq_false_of_not_eq_true hneed)).1]
      rfl
  | books signal client challenge hop => cases hop
  | quiet hop => exact absurd rfl (hop services)

/-- The main function of the server without the client. -/
theorem mainFunction_withPending (hwithout : Without client s pending)
    (hinit : s.mInitialized = true) {ret : FvmErrorCode} {es : List ServerEvent}
    (hresult : s.mainFunction services = .ok (ret, s', es)) :
    ∃ pending' es', (withPending s pending).mainFunction services =
      .ok (ret, withPending s' pending', es') ∧ Without client s' pending' := by
  have hgo : ¬ (!(withPending s pending).mInitialized) = true := by
    rw [show (withPending s pending).mInitialized = true from hinit]
    decide
  obtain ⟨t, events, hrespond, hparts⟩ := mainFunction_parts hinit hresult
  have hwithout' :
      Without client (s.broadcastIfNeeded services.broadcastSignals).2.1 pending := by
    rw [broadcastIfNeeded_eq]
    exact ⟨hwithout.absent, hwithout.others⟩
  obtain ⟨pending', events', hrespond', hkept⟩ := respondIfNeeded_withPending hwithout' hrespond
  cases hparts
  refine ⟨pending', .mainFunctionCompleted (s.broadcastIfNeeded services.broadcastSignals).1 ::
    (events' ++ (s.broadcastIfNeeded services.broadcastSignals).2.2), ?_, ?_⟩
  · unfold mainFunction
    rw [if_neg hgo, broadcastIfNeeded_withPending]
    dsimp only
    rw [hrespond']
    dsimp only
    rw [advanceClock_withPending]
    rfl
  · refine ⟨hkept.absent, ?_⟩
    rw [(advanceClock_responses (s := t)).1]
    exact hkept.others

/-- In a call of the main function the others see the same. -/
theorem viewOf_mainFunction_withPending (hwithout : Without client s pending)
    (hinit : s.mInitialized = true) {t : FreshnessValueManagerImplServer} {g' : List RoundEvent}
    (hstep : roundStep s (.mainFunction services) = .ok (s', g))
    (hstep' : roundStep (withPending s pending) (.mainFunction services) = .ok (t, g'))
    {other : String} (hother : other ≠ client) : viewOf other g' = viewOf other g := by
  have hview := responseTo_of_roundStep hinit hstep other
  have hview' := responseTo_of_roundStep (s := withPending s pending) hinit hstep' other
  have hlookup : (withPending s pending).mResponsePendingChallenges.lookup other =
      s.mResponsePendingChallenges.lookup other := hwithout.others other hother
  rw [hlookup] at hview'
  by_cases hneed : s.mNeedToSendAuthFvResponses = true
  · have hneed' : (withPending s pending).mNeedToSendAuthFvResponses = true := hneed
    rw [if_pos hneed] at hview
    rw [if_pos hneed'] at hview'
    have hsame : responseTo (withPending s pending) services other =
        responseTo s services other := by
      funext challenge
      cases challenge with
      | none => rfl
      | some challenge => rfl
    rw [hsame, hview] at hview'
    exact (Except.ok.inj hview').symm
  · have hneed' : ¬ (withPending s pending).mNeedToSendAuthFvResponses = true := hneed
    rw [if_neg hneed] at hview
    rw [if_neg hneed'] at hview'
    rw [hview, hview']

/-- A challenge of another client is booked in the same way. -/
theorem incomingAuthFvChallengeSignalsCb_withPending (hwithout : Without client s pending)
    {signal : String} {challenge : ByteVector} {es : List ServerEvent}
    (hother : clientOfSignal signal ≠ some client)
    (hcb : s.incomingAuthFvChallengeSignalsCb signal challenge = (s', es)) :
    ∃ pending', (withPending s pending).incomingAuthFvChallengeSignalsCb signal challenge =
      (withPending s' pending', es) ∧ Without client s' pending' := by
  unfold incomingAuthFvChallengeSignalsCb at hcb ⊢
  split at hcb
  · cases hcb
    exact ⟨pending, rfl, hwithout⟩
  · rename_i client' hclient
    split at hcb
    · rename_i hunknown
      have hunknown' : client' ∉ (withPending s pending).mClientNameToKeyId := hunknown
      cases hcb
      exact ⟨pending, if_pos hunknown', hwithout⟩
    · rename_i hknown
      have hknown' : ¬ client' ∉ (withPending s pending).mClientNameToKeyId := hknown
      cases hcb
      have hne : client ≠ client' := by
        intro hsame
        rw [hclient, hsame] at hother
        exact hother rfl
      refine ⟨pending.insert client' challenge, if_neg hknown', ?_, ?_⟩
      · rw [AList.lookup_insert_ne hne]
        exact hwithout.absent
      · intro other hother
        by_cases hsame : other = client'
        · subst hsame
          rw [AList.lookup_insert, AList.lookup_insert]
        · rw [AList.lookup_insert_ne hsame, AList.lookup_insert_ne hsame]
          exact hwithout.others other hother

/-- A step that is not a challenge of the client, on the server without it. -/
theorem roundStep_withPending (hwithout : Without client s pending)
    (hop : fromClient client op = false) (hinit : s.mInitialized = true)
    (hstep : roundStep s op = .ok (s', g)) :
    ∃ pending' g', roundStep (withPending s pending) op = .ok (withPending s' pending', g') ∧
      Without client s' pending' ∧ ∀ other, other ≠ client → viewOf other g' = viewOf other g := by
  obtain ⟨es, hserver, hg⟩ := serverStep_of_roundStep hstep
  cases op with
  | mainFunction services =>
    obtain ⟨ret, hresult⟩ := mainFunction_of_serverStep hserver
    obtain ⟨pending', es', hresult', hwithout'⟩ :=
      mainFunction_withPending hwithout hinit hresult
    have hstep' : roundStep (withPending s pending) (.mainFunction services) =
        .ok (withPending s' pending', es'.map .server ++
          roundMark (withPending s pending) (.mainFunction services)) := by
      unfold roundStep serverStep
      dsimp only
      rw [hresult']
      rfl
    exact ⟨pending', _, hstep', hwithout', fun other hother =>
      viewOf_mainFunction_withPending hwithout hinit hstep hstep' hother⟩
  | incomingAuthFvChallengeSignal signal challenge =>
    have hother : clientOfSignal signal ≠ some client := by simpa [fromClient] using hop
    obtain ⟨pending', hcb', hwithout'⟩ :=
      incomingAuthFvChallengeSignalsCb_withPending hwithout hother (Except.ok.inj hserver)
    have hstep' : roundStep (withPending s pending)
        (.incomingAuthFvChallengeSignal signal challenge) = .ok (withPending s' pending', g) := by
      rw [hg]
      unfold roundStep serverStep
      dsimp only
      rw [hcb']
      rfl
    exact ⟨pending', g, hstep', hwithout', fun _ _ => rfl⟩
  | call call =>
    cases Except.ok.inj hserver
    exact ⟨pending, g, by rw [hg]; rfl, ⟨hwithout.absent, hwithout.others⟩, fun _ _ => rfl⟩

/-- A challenge of the client changes nothing for the others. -/
theorem roundStep_fromClient (hwithout : Without client s pending)
    (hop : fromClient client op = true) (hstep : roundStep s op = .ok (s', g)) :
    withPending s' pending = withPending s pending ∧ Without client s' pending ∧
      ∀ other, other ≠ client → viewOf other g = [] := by
  obtain ⟨es, hserver, hg⟩ := serverStep_of_roundStep hstep
  cases op with
  | mainFunction services => cases hop
  | call call => cases hop
  | incomingAuthFvChallengeSignal signal challenge =>
    have hclient : clientOfSignal signal = some client := by simpa [fromClient] using hop
    have hcb : s.incomingAuthFvChallengeSignalsCb signal challenge = (s', es) :=
      Except.ok.inj hserver
    have hes : g = es.map .server := by simpa [roundMark, opensRound] using hg
    unfold incomingAuthFvChallengeSignalsCb at hcb
    rw [hclient] at hcb
    dsimp only at hcb
    split at hcb
    · cases hcb
      exact ⟨rfl, hwithout, fun _ _ => by rw [hes]; rfl⟩
    · cases hcb
      refine ⟨rfl, ⟨hwithout.absent, ?_⟩, ?_⟩
      · intro other hother
        rw [hwithout.others other hother]
        exact (AList.lookup_insert_ne hother).symm
      · intro other hother
        rw [hes]
        simp [viewOf, served, clientView, ServerEvent.client, Ne.symm hother]

/-- **No client influences another.**  Take the challenges of one client out of the
inputs of a run: the run goes on without a fault, and every other client sees the
same. -/
theorem exec_without (hinit : s.mInitialized = true) (hwithout : Without client s pending)
    {ops : List ServerOp} (hexec : exec roundStep s h ops = .ok (s', newer))
    (hviews : ∀ other, other ≠ client → viewOf other older = viewOf other h) :
    ∃ t g, exec roundStep (withPending s pending) older
        (ops.filter fun op => !fromClient client op) = .ok (t, g) ∧
      ∀ other, other ≠ client → viewOf other g = viewOf other newer := by
  induction ops generalizing s h pending older with
  | nil =>
    cases hexec
    exact ⟨_, _, rfl, hviews⟩
  | cons op ops ih =>
    rw [exec] at hexec
    split at hexec
    · rename_i s₁ g₁ hstep
      obtain ⟨es, hserver, -⟩ := serverStep_of_roundStep hstep
      have hinit₁ : s₁.mInitialized = true := by
        rw [(sameSetup_of_serverStep hserver).mInitialized]
        exact hinit
      cases hop : fromClient client op with
      | true =>
        obtain ⟨hsame, hwithout₁, hview₁⟩ := roundStep_fromClient hwithout hop hstep
        rw [List.filter_cons_of_neg (by simp [hop]), ← hsame]
        apply ih hinit₁ hwithout₁ hexec
        intro other hother
        rw [viewOf_append, hview₁ other hother, List.nil_append]
        exact hviews other hother
      | false =>
        obtain ⟨pending₁, g', hstep', hwithout₁, hview₁⟩ :=
          roundStep_withPending hwithout hop hinit hstep
        rw [List.filter_cons_of_pos (by simp [hop]), exec, hstep']
        apply ih hinit₁ hwithout₁ hexec
        intro other hother
        rw [viewOf_append, viewOf_append, hview₁ other hother, hviews other hother]
    · cases hexec

/-! ## The result -/

/-- Run lemma: the tables, what is booked, and one signature for each challenge. -/
theorem binding_of_run {P : Guard FreshnessValueManagerImplServer ServerOp RoundEvent}
    (hfirst : s₀.FirstInit) (hrun : Run roundStep P s₀ [] s h) :
    KeyTable s ∧ FreshlyBooked s h ∧
      ∀ client, EachEvent (FollowsChallenge client) (viewOf client h) := by
  have hall : RoundClock s₀.mFV s h ∧ KeyTable s ∧ FreshlyBooked s h ∧
      ∀ client, EachEvent (FollowsChallenge client) (viewOf client h) := by
    refine hrun.invariant (fun s h => RoundClock s₀.mFV s h ∧ KeyTable s ∧ FreshlyBooked s h ∧
      ∀ client, EachEvent (FollowsChallenge client) (viewOf client h)) ?_ ?_
    · refine ⟨(roundClock_of_run hfirst (P := P) .refl).1, keyTable_of_firstInit hfirst, ?_,
        fun _ => eachEvent_nil⟩
      intro client challenge hlookup
      obtain ⟨-, -, -, -, -, hempty⟩ := hfirst.spec
      rw [hempty] at hlookup
      cases hlookup
    · intro s h op s' g ⟨hclock, htable, hfresh, heach⟩ _ hstep
      have hround := roundStep_of_step hclock.clock.mInitialized hstep
      exact ⟨hclock.step hstep, htable.step hround hstep, hfresh.step hround,
        fun client => followsChallenge_step hfresh hround (heach client)⟩
  exact hall.2

/-- What is published for a client in a step. -/
theorem published_of_roundStep {e : ServerEvent} (client : String) (hstep : RoundStep s op g s')
    (hclient : e.client = some client) (hmem : .server e ∈ g)
    (hnotRecorded : ∀ challenge, e ≠ .recorded client challenge) :
    ∃ services challenge, op = .mainFunction services ∧
      s.mResponsePendingChallenges.lookup client = some challenge ∧ e ∈ viewOf client g ∧
      Response s services client challenge (viewOf client g) := by
  have hview : e ∈ viewOf client g := by
    apply List.mem_filter.mpr
    refine ⟨List.mem_filterMap.mpr ⟨.server e, hmem, rfl⟩, by simp [hclient]⟩
  rcases hstep.viewOf_cases client with ⟨hnil, -⟩ | ⟨challenge, hbooked, -⟩ |
    ⟨services, challenge, hop, -, hlookup, -, hresponse⟩
  · rw [hnil] at hview
    cases hview
  · rw [hbooked] at hview
    exact absurd (List.mem_singleton.mp hview) (hnotRecorded challenge)
  · exact ⟨services, challenge, hop, hlookup, hview, hresponse⟩

theorem serializedFv_eq : serializedFv s = BigEndian.encode 7 s.mFV.toNat :=
  uintToByteVectorTrim_eq s.mFV (by decide)

/-- **What a response is bound to.**  In every run of an initialised server, with any
clients, challenges and failures of the services:

* a value that is published for a client is the seven low bytes of the freshness
  value of that moment, on the value signal of the client;
* a signature that is published for it comes with such a value, on the signature
  signal of the client, and is cut from the MAC with the key of the client over the
  challenge that was booked for it last since the last round, and that value;
* between two signatures for a client a challenge of it is booked;
* without the challenges of a client, the others see the same. -/
theorem responses_bound (hfirst : s₀.FirstInit) :
    (∀ s h, Run roundStep Anything s₀ [] s h →
      (∀ op s' g client, roundStep s op = .ok (s', g) →
        (∀ value, .server (.valuePublished client value) ∈ g →
          value = BigEndian.encode 7 s.mFV.toNat ∧
          ∃ services conf, op = .mainFunction services ∧
            s.mFvmConfAccessor.getClientsConfigMap.lookup client = some conf ∧
            (services.mSignalManager client).publish conf.clientResponseValueSignal value =
              .kSuccess) ∧
        ∀ signature, .server (.signaturePublished client signature) ∈ g →
          ∃ services conf challenge value mac, op = .mainFunction services ∧
            s.mFvmConfAccessor.getClientsConfigMap.lookup client = some conf ∧
            .server (.valuePublished client value) ∈ g ∧
            lastChallenge client (since RoundEvent.isRound h) = some challenge ∧
            (services.mCsmAccessor client).macCreate conf.keyId (challenge ++ value)
              .kAes128Cmac = .ok mac ∧
            signature = mac.take 8 ∧
            (services.mSignalManager client).publish conf.clientResponseSignatureSignal
              signature = .kSuccess) ∧
      ∀ client newer second mid first older,
        h = newer ++ .server (.signaturePublished client second) ::
          (mid ++ .server (.signaturePublished client first) :: older) →
        ∃ challenge, .server (.recorded client challenge) ∈ mid) ∧
    ∀ client ops s h, exec roundStep s₀ [] ops = .ok (s, h) →
      ∃ t g, exec roundStep s₀ [] (ops.filter fun op => !fromClient client op) = .ok (t, g) ∧
        ∀ other, other ≠ client → viewOf other g = viewOf other h := by
  constructor
  · intro s h hrun
    obtain ⟨hclock, hbooked⟩ := roundClock_of_run hfirst hrun
    obtain ⟨htable, hfresh, heach⟩ := binding_of_run hfirst hrun
    have hinit := hclock.clock.mInitialized
    refine ⟨?_, ?_⟩
    · intro op s' g client hstep
      have hround := roundStep_of_step hinit hstep
      have hconfigured : ∀ challenge,
          s.mResponsePendingChallenges.lookup client = some challenge →
          ∃ conf, s.mFvmConfAccessor.getClientsConfigMap.lookup client = some conf ∧
            UnorderedMap.getD client 0 s.mClientNameToKeyId = conf.keyId ∧
            UnorderedMap.getD client default s.mClientConfigMap = conf := by
        intro challenge hlookup
        apply htable.configured
        apply hbooked.known
        exact AList.lookup_isSome.mp (Option.isSome_of_eq_some hlookup)
      constructor
      · intro value hmem
        obtain ⟨services, challenge, hop, hlookup, hview, hresponse⟩ :=
          published_of_roundStep client hround rfl hmem nofun
        obtain ⟨conf, hconf, -, hconfig⟩ := hconfigured challenge hlookup
        obtain ⟨hvalue, hpublished⟩ := hresponse.of_valuePublished hview
        rw [publishValue, hconfig, ← hvalue] at hpublished
        rw [serializedFv_eq] at hvalue
        exact ⟨hvalue, services, conf, hop, hconf, hpublished⟩
      · intro signature hmem
        obtain ⟨services, challenge, hop, hlookup, hview, hresponse⟩ :=
          published_of_roundStep client hround rfl hmem nofun
        obtain ⟨conf, hconf, hkey, hconfig⟩ := hconfigured challenge hlookup
        obtain ⟨mac, hmac, hsignature, hpublished, hvalue⟩ :=
          hresponse.of_signaturePublished hview
        rw [macRes, hkey] at hmac
        rw [publishSignature, hconfig, ← hsignature] at hpublished
        rw [hbooked.lookup] at hlookup
        exact ⟨services, conf, challenge, serializedFv s, mac, hop, hconf, mem_of_mem_viewOf hvalue,
          hlookup, hmac, hsignature, hpublished⟩
    · intro client newer second mid first older hsplit
      have hfollows := heach client
      rw [hsplit] at hfollows
      exact recorded_between hfollows
  · intro client ops s h hexec
    obtain ⟨hinit, -, -, -, -, hempty⟩ := hfirst.spec
    have hwithout : Without client s₀ s₀.mResponsePendingChallenges := by
      refine ⟨?_, fun _ _ => rfl⟩
      rw [hempty]
      rfl
    exact exec_without hinit.mInitialized hwithout hexec fun _ _ => rfl

theorem responses_bound_at_start :
    ∃ s h s' g, Run roundStep Anything firstServer [] s h ∧
      roundStep s (.mainFunction reliableServices) = .ok (s', g) ∧
      .server (.valuePublished "SINK" [7, 7, 7, 7, 7, 7, 8]) ∈ g ∧
      [7, 7, 7, 7, 7, 7, 8] = BigEndian.encode 7 s.mFV.toNat := by
  obtain ⟨s, h, hrun, s', g, hstep, hmem⟩ :
      ∃ s h, Run roundStep Anything firstServer [] s h ∧
        Emits roundStep s (.mainFunction reliableServices)
          (.server (.valuePublished "SINK" [7, 7, 7, 7, 7, 7, 8])) :=
    Run.exists_of_exec (challengeThenCalls 20) (by decide +kernel)
  obtain ⟨hvalues, -⟩ :=
    ((responses_bound firstInit_firstServer).1 s h hrun).1 _ s' g "SINK" hstep
  exact ⟨s, h, s', g, hrun, hstep, hmem, (hvalues _ hmem).1⟩

end Sok.Fvm
