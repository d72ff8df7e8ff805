import SokFvm.Fvm.IdIsolation
import SokFvm.Fvm.ResponseService
import SokFvm.Fvm.ServerTimeLaw

/-!
# Clients of a server do not see each other

A server books the challenges of all its clients in one map, walks through the map
in an order that nobody knows, and answers each client with services that may fail
for that one only.  What a client gets from the server must not depend on any of
this: on which other clients challenge it, on where the client stands in the map,
on what goes wrong with the others, or on what applications on the ECU of the
server do with their own identifiers.

`AgreeFor` says that two servers are the same for a client, `HiddenFrom` which
inputs are the business of somebody else, and `SameFor` when two calls of the main
function are the same as far as the client can tell.  `client_isolation` follows
by the isolation rule from what one step does, `unwinding_agreeFor`.

A response of another client that ends in a fault takes the whole call with it, so
the result is about executions without a fault.
-/

namespace Sok.Fvm

open Sok.Common StateMachine FreshnessValueManagerImplServer AFreshnessValueManagerImpl

/-! ## What a client sees -/

/-- The events of a client, and those that are about no client. -/
def ServerEvent.seenBy (client : String) (e : ServerEvent) : Bool :=
  e.client == none || e.client == some client

/-- The servers have the same configuration, the same clock, the same freshness value and
the same flags, and the same entries for a client. -/
structure AgreeFor (client : String) (s t : FreshnessValueManagerImplServer) : Prop where
  context : SameContext s.toAFreshnessValueManagerImpl t.toAFreshnessValueManagerImpl
  respond : t.mNeedToSendAuthFvResponses = s.mNeedToSendAuthFvResponses
  broadcast : t.mNeedToBroadcastFv = s.mNeedToBroadcastFv
  pending : t.mResponsePendingChallenges.lookup client = s.mResponsePendingChallenges.lookup client
  key : t.mClientNameToKeyId.lookup client = s.mClientNameToKeyId.lookup client
  config : t.mClientConfigMap.lookup client = s.mClientConfigMap.lookup client

/-- The inputs that are about others: the signals of other clients, and the calls on
the ECU of the server. -/
def HiddenFrom (client : String) : ServerOp → Prop
  | .mainFunction _ => False
  | .incomingAuthFvChallengeSignal signal _ => clientOfSignal signal ≠ some client
  | .call _ => True

/-- The services answer the same as far as a client is concerned. The order in which
the map is visited is free. -/
structure SameServicesFor (client : String) (services services' : ServerServices) : Prop where
  broadcastSignals : services'.broadcastSignals = services.broadcastSignals
  mCsmAccessor : services'.mCsmAccessor client = services.mCsmAccessor client
  mSignalManager : services'.mSignalManager client = services.mSignalManager client

/-- The same input, as far as a client is concerned. -/
inductive SameFor (client : String) : ServerOp → ServerOp → Prop
  | mainFunction {services services' : ServerServices}
      (same : SameServicesFor client services services') :
      SameFor client (.mainFunction services) (.mainFunction services')
  | signal {signal : String} (own : clientOfSignal signal = some client) (challenge : ByteVector) :
      SameFor client (.incomingAuthFvChallengeSignal signal challenge)
        (.incomingAuthFvChallengeSignal signal challenge)

variable {client : String} {s s' t t' : FreshnessValueManagerImplServer} {op : ServerOp}
variable {es es' : List ServerEvent} {services services' : ServerServices}

theorem AgreeFor.refl : AgreeFor client s s :=
  ⟨⟨rfl, rfl, rfl, rfl, rfl, rfl⟩, rfl, rfl, rfl, rfl, rfl⟩

theorem sameContext_symm {a b : AFreshnessValueManagerImpl} (hsame : SameContext a b) :
    SameContext b a :=
  ⟨hsame.mInitialized.symm, hsame.mIsFvValid.symm, hsame.mTimeSinceInit.symm,
    hsame.mClockCount.symm, hsame.mFV.symm, hsame.mFvmConfAccessor.symm⟩

theorem sameContext_trans {a b c : AFreshnessValueManagerImpl} (first : SameContext a b)
    (second : SameContext b c) : SameContext a c :=
  ⟨second.mInitialized.trans first.mInitialized, second.mIsFvValid.trans first.mIsFvValid,
    second.mTimeSinceInit.trans first.mTimeSinceInit,
    second.mClockCount.trans first.mClockCount, second.mFV.trans first.mFV,
    second.mFvmConfAccessor.trans first.mFvmConfAccessor⟩

theorem AgreeFor.symm (hagree : AgreeFor client s t) : AgreeFor client t s :=
  ⟨sameContext_symm hagree.context, hagree.respond.symm, hagree.broadcast.symm,
    hagree.pending.symm, hagree.key.symm, hagree.config.symm⟩

/-! ## The main function -/

/-- The events that a client sees of a list of events about clients. -/
theorem filter_seenBy_eq_clientView (habout : ∀ e ∈ es, ∃ client', e.client = some client') :
    es.filter (ServerEvent.seenBy client) = clientView client es := by
  unfold clientView
  apply List.filter_congr
  intro e hmem
  obtain ⟨client', hclient⟩ := habout e hmem
  unfold ServerEvent.seenBy
  rw [hclient]
  simp [beq_eq_decide]

/-- The response to a challenge of the client is the same on both servers. -/
theorem AgreeFor.responseTo (hagree : AgreeFor client s t)
    (hsame : SameServicesFor client services services') (challenge : Option ByteVector) :
    responseTo t services' client challenge = responseTo s services client challenge := by
  have hkey : UnorderedMap.getD client 0 t.mClientNameToKeyId =
      UnorderedMap.getD client 0 s.mClientNameToKeyId := by
    unfold UnorderedMap.getD
    rw [hagree.key]
  have hconfig : UnorderedMap.getD client default t.mClientConfigMap =
      UnorderedMap.getD client default s.mClientConfigMap := by
    unfold UnorderedMap.getD
    rw [hagree.config]
  cases challenge with
  | none => rfl
  | some challenge =>
    unfold Sok.Fvm.responseTo sendAuthenticFvResponse publishResponse
    dsimp only
    rw [hkey, hconfig, hsame.mCsmAccessor, hsame.mSignalManager, hagree.context.mFV]

/-- Both servers broadcast, or neither does. -/
theorem AgreeFor.broadcastIfNeeded (hagree : AgreeFor client s t) (signals : ISignalManager) :
    (t.broadcastIfNeeded signals).1 = (s.broadcastIfNeeded signals).1 ∧
      (t.broadcastIfNeeded signals).2.2 = (s.broadcastIfNeeded signals).2.2 ∧
      (t.broadcastIfNeeded signals).2.1.mNeedToBroadcastFv =
        (s.broadcastIfNeeded signals).2.1.mNeedToBroadcastFv := by
  unfold FreshnessValueManagerImplServer.broadcastIfNeeded unauthenticatedBroadcast
  dsimp only
  rw [hagree.broadcast, hagree.context.mFV, hagree.context.mFvmConfAccessor]
  split
  · split
    · exact ⟨rfl, rfl, hagree.broadcast⟩
    · exact ⟨rfl, rfl, rfl⟩
  · exact ⟨rfl, rfl, hagree.broadcast⟩

/-- The flags after the clock has moved on. -/
theorem flags_advanceClock :
    s.advanceClock.mNeedToSendAuthFvResponses =
        (s.mNeedToSendAuthFvResponses || s.toAFreshnessValueManagerImpl.incTimers.mFV != s.mFV) ∧
      s.advanceClock.mNeedToBroadcastFv = (s.mNeedToBroadcastFv ||
        s.toAFreshnessValueManagerImpl.incTimers.mTimeSinceInit %
          sokFmTimeSendMs.toUInt64 == 0) := by
  unfold advanceClock
  dsimp only
  split
  · rename_i hmoved
    split
    · rename_i hdue
      simp [hmoved, hdue]
    · rename_i hdue
      simp [hmoved, hdue]
  · rename_i hmoved
    split
    · rename_i hdue
      simp [not_not.mp hmoved, hdue]
    · rename_i hdue
      simp [not_not.mp hmoved, hdue]

/-- The flags after a call of the main function. -/
theorem flags_mainFunction (hinit : s.mInitialized = true) {ret : FvmErrorCode}
    (hresult : s.mainFunction services = .ok (ret, s', es)) :
    s'.mNeedToSendAuthFvResponses =
        (s.toAFreshnessValueManagerImpl.incTimers.mFV != s.mFV) ∧
      s'.mNeedToBroadcastFv =
        ((s.broadcastIfNeeded services.broadcastSignals).2.1.mNeedToBroadcastFv ||
          s.toAFreshnessValueManagerImpl.incTimers.mTimeSinceInit %
            sokFmTimeSendMs.toUInt64 == 0) := by
  obtain ⟨u, events, hrespond, hparts⟩ := mainFunction_parts hinit hresult
  have hs' : s' = u.advanceClock := congrArg (·.2.1) hparts
  have hbase := base_respondIfNeeded hrespond
  obtain ⟨-, hanswered, hflag⟩ := respondIfNeeded_spec hrespond
  rw [broadcastIfNeeded_eq] at hbase
  dsimp only at hbase hanswered hflag
  obtain ⟨hrespond', hbroadcast'⟩ := flags_advanceClock (s := u)
  rw [hs', hrespond', hbroadcast', hanswered, hflag, hbase]
  exact ⟨rfl, rfl⟩

/-- A call of the main function is the same for the client on both servers. -/
theorem AgreeFor.mainFunction (hagree : AgreeFor client s t)
    (hsame : SameServicesFor client services services') {ret ret' : FvmErrorCode}
    (hs : s.mainFunction services = .ok (ret, s', es))
    (ht : t.mainFunction services' = .ok (ret', t', es')) :
    AgreeFor client s' t' ∧
      es.filter (ServerEvent.seenBy client) = es'.filter (ServerEvent.seenBy client) := by
  cases hinit : s.mInitialized with
  | false =>
    have hinit' : t.mInitialized = false := hagree.context.mInitialized.trans hinit
    cases mainFunction_of_not_initialized hinit hs
    cases mainFunction_of_not_initialized hinit' ht
    exact ⟨hagree, rfl⟩
  | true =>
    have hinit' : t.mInitialized = true := hagree.context.mInitialized.trans hinit
    obtain ⟨events, hserves, hes, hret⟩ := mainFunction_spec hinit hs
    obtain ⟨events', hserves', hes', hret'⟩ := mainFunction_spec hinit' ht
    obtain ⟨hrespond, hbroadcast⟩ := flags_mainFunction hinit hs
    obtain ⟨hrespond', hbroadcast'⟩ := flags_mainFunction hinit' ht
    have hbase := base_mainFunction_server hs
    have hbase' := base_mainFunction_server ht
    dsimp only at hbase hbase'
    have htick := sameContext_incTimers hagree.context
    obtain ⟨hcode, hsent, hflag⟩ := hagree.broadcastIfNeeded services.broadcastSignals
    rw [hsame.broadcastSignals] at hret' hes' hbroadcast'
    -- The round, if there is one, is the response to the client on both sides.
    have hround : clientView client events = clientView client events' ∧
        t'.mResponsePendingChallenges.lookup client =
          s'.mResponsePendingChallenges.lookup client := by
      cases hneed : s.mNeedToSendAuthFvResponses with
      | false =>
        obtain ⟨hnone, hkept⟩ := hserves.idle hneed
        obtain ⟨hnone', hkept'⟩ := hserves'.idle (hagree.respond.trans hneed)
        rw [hnone, hnone', hkept, hkept', hagree.pending]
        exact ⟨rfl, rfl⟩
      | true =>
        obtain ⟨hempty, hview⟩ := hserves.round hneed
        obtain ⟨hempty', hview'⟩ := hserves'.round (hagree.respond.trans hneed)
        have hanswer := hview' client
        rw [hagree.pending, hagree.responseTo hsame, hview client] at hanswer
        rw [hempty, hempty']
        exact ⟨Except.ok.inj hanswer, rfl⟩
    obtain ⟨hview, hpending⟩ := hround
    constructor
    · refine ⟨?_, ?_, ?_, hpending, ?_, ?_⟩
      · rw [hbase, hbase']
        exact htick
      · rw [hrespond, hrespond', htick.mFV, hagree.context.mFV]
      · rw [hbroadcast, hbroadcast', htick.mTimeSinceInit, hflag]
      · rw [hserves.mClientNameToKeyId, hserves'.mClientNameToKeyId, hagree.key]
      · rw [hserves.mClientConfigMap, hserves'.mClientConfigMap, hagree.config]
    · have hquiet : ∀ e ∈ (s.broadcastIfNeeded services.broadcastSignals).2.2,
          e.client = none := by
        intro e hmem
        obtain ⟨value, hvalue⟩ := client_broadcastIfNeeded _ e hmem
        rw [hvalue]
        rfl
      rw [hes, hes', hret, hret', hcode, hsent, List.filter_cons, List.filter_cons,
        List.filter_append, List.filter_append, filter_seenBy_eq_clientView hserves.client,
        filter_seenBy_eq_clientView hserves'.client, hview]

/-! ## Isolation -/

/-- An input that is about somebody else. -/
theorem AgreeFor.of_hidden (hhidden : HiddenFrom client op)
    (hstep : serverStep s op = .ok (s', es)) :
    AgreeFor client s s' ∧ es.filter (ServerEvent.seenBy client) = [] := by
  cases op with
  | mainFunction services => exact absurd hhidden id
  | incomingAuthFvChallengeSignal signal challenge =>
    have hcb : s.incomingAuthFvChallengeSignalsCb signal challenge = (s', es) :=
      Except.ok.inj hstep
    rcases s.incomingAuthFvChallengeSignalsCb_cases signal challenge with
      hrefused | ⟨client', hclient', -, hbooked⟩
    · cases hrefused.symm.trans hcb
      exact ⟨.refl, rfl⟩
    · cases hbooked.symm.trans hcb
      have hne : client ≠ client' := by
        intro heq
        subst heq
        exact hhidden hclient'
      refine ⟨⟨⟨rfl, rfl, rfl, rfl, rfl, rfl⟩, rfl, rfl, AList.lookup_insert_ne hne, rfl, rfl⟩, ?_⟩
      apply List.filter_eq_nil_iff.mpr
      intro e hmem
      rw [List.mem_singleton.mp hmem]
      simp [ServerEvent.seenBy, ServerEvent.client, Ne.symm hne]
  | call call =>
    cases Except.ok.inj hstep
    exact ⟨⟨sameContext_of_call call, rfl, rfl, rfl, rfl, rfl⟩, rfl⟩

/-- A challenge of the client is booked on both servers, or on neither. -/
theorem AgreeFor.signal (hagree : AgreeFor client s t) {signal : String}
    (hown : clientOfSignal signal = some client) (challenge : ByteVector) :
    AgreeFor client (s.incomingAuthFvChallengeSignalsCb signal challenge).1
        (t.incomingAuthFvChallengeSignalsCb signal challenge).1 ∧
      (s.incomingAuthFvChallengeSignalsCb signal challenge).2 =
        (t.incomingAuthFvChallengeSignalsCb signal challenge).2 := by
  have hknown : client ∈ t.mClientNameToKeyId ↔ client ∈ s.mClientNameToKeyId := by
    rw [← AList.lookup_isSome, ← AList.lookup_isSome, hagree.key]
  unfold incomingAuthFvChallengeSignalsCb
  rw [hown]
  dsimp only
  by_cases hmem : client ∈ s.mClientNameToKeyId
  · rw [if_neg (not_not.mpr hmem), if_neg (not_not.mpr (hknown.mpr hmem))]
    refine ⟨⟨hagree.context, hagree.respond, hagree.broadcast, ?_, hagree.key, hagree.config⟩,
      rfl⟩
    dsimp only
    rw [AList.lookup_insert, AList.lookup_insert]
  · rw [if_pos hmem, if_pos (mt hknown.mp hmem)]
    exact ⟨hagree, rfl⟩

/-- A client cannot tell what a server does for others. -/
theorem unwinding_agreeFor (client : String) :
    Unwinding serverStep (AgreeFor client) (HiddenFrom client) (SameFor client)
      (ServerEvent.seenBy client) where
  symm := AgreeFor.symm
  silent := by
    intro s t op s' es hagree hhidden hstep
    obtain ⟨hkept, hnone⟩ := AgreeFor.of_hidden hhidden hstep
    refine ⟨⟨sameContext_trans (sameContext_symm hkept.context) hagree.context, ?_, ?_, ?_, ?_,
      ?_⟩, hnone⟩
    · rw [hkept.respond, hagree.respond]
    · rw [hkept.broadcast, hagree.broadcast]
    · rw [hkept.pending, hagree.pending]
    · rw [hkept.key, hagree.key]
    · rw [hkept.config, hagree.config]
  consistent := by
    intro s t op op' s' t' es es' hagree hsame hs ht
    cases hsame with
    | mainFunction same =>
      obtain ⟨ret, hs'⟩ := mainFunction_of_serverStep hs
      obtain ⟨ret', ht'⟩ := mainFunction_of_serverStep ht
      exact hagree.mainFunction same hs' ht'
    | @signal signal own challenge =>
      obtain ⟨hagree', hevents⟩ := hagree.signal own challenge
      have hcb : s.incomingAuthFvChallengeSignalsCb signal challenge = (s', es) :=
        Except.ok.inj hs
      have hcb' : t.incomingAuthFvChallengeSignalsCb signal challenge = (t', es') :=
        Except.ok.inj ht
      rw [hcb, hcb'] at hagree' hevents
      exact ⟨hagree', congrArg _ hevents⟩

/-- Two executions of the server that are the same for a client show it the same
events, in the same order. -/
theorem client_isolation {ops ops' : List ServerOp} (hagree : AgreeFor client s t)
    (hinputs : SameInputs (HiddenFrom client) (SameFor client) ops ops')
    (hs : exec serverStep s [] ops = .ok (s', es))
    (ht : exec serverStep t [] ops' = .ok (t', es')) :
    es.filter (ServerEvent.seenBy client) = es'.filter (ServerEvent.seenBy client) ∧
      AgreeFor client s' t' :=
  (hinputs.unwind (unwinding_agreeFor client) hagree rfl hs ht).symm

/-- A server with two clients. -/
def twoClientsServer : FreshnessValueManagerImplServer :=
  FreshnessValueManagerImplServer.derivedClass.initialised (reliableInit { serverConfig with
    mFmServerClientsConfig := serverConfig.mFmServerClientsConfig.insert "MOTOR" default })
    (.construct .construct)

/-- Services that create no MAC for one client, and visit the map from its end. -/
def failsForMotor : ServerServices :=
  { reliableServices with
    mCsmAccessor := fun client => if client = "MOTOR" then
      { zeroDigestCsm with macCreate := fun _ _ _ => .error .kError } else zeroDigestCsm
    order := { arrange := List.reverse, perm := List.reverse_perm } }

/-- Two clients ask at the same time, and one of them cannot be answered. -/
def challengesOfBoth : List ServerOp :=
  .incomingAuthFvChallengeSignal "SOK_Zeit_MOTOR_Challenge" (.replicate 8 3) ::
    .incomingAuthFvChallengeSignal "SOK_Zeit_SINK_Challenge" (.replicate 8 7) ::
    List.replicate 21 (.mainFunction failsForMotor)

/-- The theorem at an execution with a failing client, and one without it. -/
theorem client_isolation_beside_failure :
    ∃ s' es t' es',
      exec serverStep twoClientsServer [] challengesOfBoth = .ok (s', es) ∧
        exec serverStep twoClientsServer [] (challengeThenCalls 21) = .ok (t', es') ∧
        .signaturePublished "SINK" (.replicate 8 0) ∈ es ∧
        es.filter (ServerEvent.seenBy "SINK") = es'.filter (ServerEvent.seenBy "SINK") ∧
        AgreeFor "SINK" s' t' := by
  have hother : clientOfSignal "SOK_Zeit_MOTOR_Challenge" ≠ some "SINK" := by decide
  have hinputs : SameInputs (HiddenFrom "SINK") (SameFor "SINK") challengesOfBoth
      (challengeThenCalls 21) :=
    .left hother (.both (.signal (by decide) _) (.replicate (.mainFunction ⟨rfl, rfl, rfl⟩) 21))
  obtain ⟨s', es, hs, hsigned⟩ :
      ∃ s' es, exec serverStep twoClientsServer [] challengesOfBoth = .ok (s', es) ∧
        .signaturePublished "SINK" (.replicate 8 0) ∈ es :=
    exists_of_execEnds (by decide +kernel)
  obtain ⟨t', es', ht, -⟩ :
      ∃ t' es', exec serverStep twoClientsServer [] (challengeThenCalls 21) = .ok (t', es') ∧
        True :=
    exists_of_execEnds (by decide +kernel)
  exact ⟨s', es, t', es', hs, ht, hsigned, client_isolation .refl hinputs hs ht⟩

end Sok.Fvm
