import SokFvm.Fvm.Manager

/-!
# `FreshnessValueManagerImplServer`

The server draws a random freshness value, broadcasts it without protection once
a second, and answers the challenges of its clients.  A challenge is booked under
the client name that a regular expression finds in the name of the signal; it is
answered in the first main function after the freshness value has moved on.

An answer is a value, the low seven bytes of the freshness value, and a signature,
the first eight bytes of the MAC over the challenge and that value.  Each client
is served on its own: when its MAC cannot be created or its signals cannot be
published, the loop goes on with the next one.  `sendAuthenticFvResponses` ends
with a fault when a MAC has fewer bytes than the signature.

The loop visits a hash map, in an order that is not specified, and the services
it calls may answer differently for each client.  Both are part of the input of
the main function, `ServerServices`.
-/

namespace Sok.Fvm

open Sok.Common

/-! ## The client name in a signal name -/

/-- The characters of the class `\w`. -/
def isWordChar (c : Char) : Bool := c.isAlphanum || c == '_'

/-- The text that `(\w+)_Challenge` captures at the start of `cs`: as long as
possible, because the repetition is greedy. -/
def captureClient (cs : List Char) : Option (List Char) :=
  let lengths := (List.range (cs.takeWhile isWordChar).length).map (· + 1)
  (lengths.reverse.find? fun n => "_Challenge".toList.isPrefixOf (cs.drop n)).map cs.take

/-- `SOK_Zeit_(\w+)_Challenge` at the start of `cs`. -/
def matchClient (cs : List Char) : Option (List Char) :=
  if "SOK_Zeit_".toList.isPrefixOf cs then captureClient (cs.drop "SOK_Zeit_".length) else none

/-- `regex_search`: the capture of the leftmost match. -/
def searchClient : List Char → Option (List Char)
  | [] => none
  | c :: cs => (matchClient (c :: cs)).or (searchClient cs)

/-- `match[1]` of the search in a signal name. -/
def clientOfSignal (signal : String) : Option String :=
  (searchClient signal.toList).map String.ofList

example : clientOfSignal "SOK_Zeit_ECU1_Challenge" = some "ECU1" := by decide

/-! ## The server -/

/-- What a call to the server does, apart from its result. -/
inductive ServerEvent
  /-- The value was broadcast without protection. -/
  | broadcast (value : ByteVector)
  /-- A challenge was booked for a client. -/
  | recorded (client : String) (challenge : ByteVector)
  /-- The signature `mac` over `data` was made in answer to a challenge, at a time
  when the freshness value was `fv`. -/
  | answered (client : String) (keyId : UInt16) (challenge : ByteVector) (fv : UInt64)
      (data mac : ByteVector)
  | valuePublished (client : String) (value : ByteVector)
  | signaturePublished (client : String) (signature : ByteVector)
  /-- `MainFunction` returned. -/
  | mainFunctionCompleted (ret : FvmErrorCode)
  deriving DecidableEq, Repr

/-- How the services answer during one call of the main function. -/
structure ServerServices where
  broadcastSignals : ISignalManager
  mCsmAccessor : String → ICsmAccessor
  mSignalManager : String → ISignalManager
  order : UnorderedMap.VisitOrder (Σ _ : String, ByteVector)

structure FreshnessValueManagerImplServer extends AFreshnessValueManagerImpl where
  mNeedToSendAuthFvResponses : Bool
  mNeedToBroadcastFv : Bool
  mResponsePendingChallenges : UnorderedMap String ByteVector
  mClientNameToKeyId : UnorderedMap String UInt16
  mClientConfigMap : FmServerClientsConfigMap

namespace FreshnessValueManagerImplServer

/-- The result of a function, the state after it and its events. -/
abbrev ServerResult := FvmErrorCode × FreshnessValueManagerImplServer × List ServerEvent

/-- The members of the server as its constructor sets them, around the state
`base` of the base class. -/
def construct (base : AFreshnessValueManagerImpl) : FreshnessValueManagerImplServer :=
  { base with
    mNeedToSendAuthFvResponses := false
    mNeedToBroadcastFv := true
    mResponsePendingChallenges := ∅
    mClientNameToKeyId := ∅
    mClientConfigMap := ∅ }

variable (self : FreshnessValueManagerImplServer)

/-- The loop of `serverOrParticipantInit` over the clients. -/
def subscribeClients (mCsmAccessor : ICsmAccessor) (mSignalManager : ISignalManager)
    (self : FreshnessValueManagerImplServer) :
    List (Σ _ : String, SokFvClientConfigArrayInstance) →
      Bool × FreshnessValueManagerImplServer
  | [] => (true, self)
  | client :: clients =>
    if mCsmAccessor.isKeyExists client.2.keyId ≠ .kSuccess then (false, self)
    else if mSignalManager.subscribe client.2.clientChallengeSignal ≠ .kSuccess then (false, self)
    else subscribeClients mCsmAccessor mSignalManager
      { self with
        mClientNameToKeyId := self.mClientNameToKeyId.insert client.1 client.2.keyId } clients

/-- `serverOrParticipantInit`. -/
def serverOrParticipantInit (mCsmAccessor : ICsmAccessor) (mSignalManager : ISignalManager)
    (order : UnorderedMap.VisitOrder (Σ _ : String, SokFvClientConfigArrayInstance)) :
    Bool × FreshnessValueManagerImplServer :=
  match mCsmAccessor.generateRandomBytes fvmServerNumOfBytesInitialFv with
  | .error _ => (false, self)
  | .ok randomBytes =>
    let mClientConfigMap := self.mFvmConfAccessor.getClientsConfigMap
    subscribeClients mCsmAccessor mSignalManager
      { self with
        mFV := byteVectorToUint (0 :: randomBytes)
        mIsFvValid := true
        mClientConfigMap := mClientConfigMap }
      (order.arrange mClientConfigMap.entries)

/-- `incomingAuthFvChallengeSignalsCb`. A challenge of any length is booked. -/
def incomingAuthFvChallengeSignalsCb (signal : String) (challenge : ByteVector) :
    FreshnessValueManagerImplServer × List ServerEvent :=
  match clientOfSignal signal with
  | none => (self, [])
  | some client =>
    if client ∉ self.mClientNameToKeyId then (self, [])
    else
      ({ self with
        mResponsePendingChallenges := self.mResponsePendingChallenges.insert client challenge },
        [.recorded client challenge])

/-- `unauthenticatedBroadcast`. -/
def unauthenticatedBroadcast (mSignalManager : ISignalManager) : ServerResult :=
  let value := uintToByteVector self.mFV
  let res := mSignalManager.publish self.mFvmConfAccessor.getUnauthenticatedFvSignalConfig value
  if res ≠ .kSuccess then (res, self, [])
  else (res, { self with mNeedToBroadcastFv := false }, [.broadcast value])

/-- The signals of an answer, published one after the other. -/
def publishResponse (mSignalManager : ISignalManager) (client : String)
    (serializedFv macRes8Byte : ByteVector) : List ServerEvent :=
  let config := UnorderedMap.getD client default self.mClientConfigMap
  if mSignalManager.publish config.clientResponseValueSignal serializedFv ≠ .kSuccess then []
  else if mSignalManager.publish config.clientResponseSignatureSignal macRes8Byte ≠ .kSuccess then
    [.valuePublished client serializedFv]
  else [.signaturePublished client macRes8Byte, .valuePublished client serializedFv]

/-- One iteration of `sendAuthenticFvResponses`. -/
def sendAuthenticFvResponse (services : ServerServices)
    (challengeEntry : Σ _ : String, ByteVector) : Except Fault (List ServerEvent) :=
  let client := challengeEntry.1
  let keyId := UnorderedMap.getD client 0 self.mClientNameToKeyId
  let serializedFv := uintToByteVectorTrim self.mFV fvmServerNumOfBytesInitialFv.toNat
  let data := challengeEntry.2 ++ serializedFv
  match (services.mCsmAccessor client).macCreate keyId data .kAes128Cmac with
  | .error _ => .ok []
  | .ok macRes =>
    if macRes.length < authFvSignatureSizeBytes.toNatClampNeg then .error .readPastEnd
    else
      let macRes8Byte := macRes.take authFvSignatureSizeBytes.toNatClampNeg
      .ok (self.publishResponse (services.mSignalManager client) client serializedFv macRes8Byte ++
        [.answered client keyId challengeEntry.2 self.mFV data macRes8Byte])

/-- The loop of `sendAuthenticFvResponses`. The events of later iterations come
first. -/
def sendResponses (services : ServerServices) :
    List (Σ _ : String, ByteVector) → Except Fault (List ServerEvent)
  | [] => .ok []
  | challengeEntry :: rest =>
    match self.sendAuthenticFvResponse services challengeEntry with
    | .error fault => .error fault
    | .ok events =>
      match sendResponses services rest with
      | .error fault => .error fault
      | .ok later => .ok (later ++ events)

/-- `sendAuthenticFvResponses`. -/
def sendAuthenticFvResponses (services : ServerServices) : Except Fault ServerResult :=
  match self.sendResponses services
      (services.order.arrange self.mResponsePendingChallenges.entries) with
  | .error fault => .error fault
  | .ok events =>
    .ok (.kSuccess,
      { self with mResponsePendingChallenges := ∅, mNeedToSendAuthFvResponses := false }, events)

/-- The end of `MainFunction`, from `incTimers` on. -/
def advanceClock : FreshnessValueManagerImplServer :=
  let cachedFv := self.mFV
  let self := { self with
    toAFreshnessValueManagerImpl := self.toAFreshnessValueManagerImpl.incTimers }
  let self :=
    if self.mFV ≠ cachedFv then { self with mNeedToSendAuthFvResponses := true } else self
  if self.mTimeSinceInit % sokFmTimeSendMs.toUInt64 = 0 then
    { self with mNeedToBroadcastFv := true }
  else self

/-- The broadcast of `MainFunction`. -/
def broadcastIfNeeded (mSignalManager : ISignalManager) : ServerResult :=
  if self.mNeedToBroadcastFv then self.unauthenticatedBroadcast mSignalManager
  else (.kSuccess, self, [])

/-- The response round of `MainFunction`. -/
def respondIfNeeded (services : ServerServices) : Except Fault ServerResult :=
  if self.mNeedToSendAuthFvResponses then self.sendAuthenticFvResponses services
  else .ok (.kSuccess, self, [])

/-- `MainFunction`. -/
def mainFunction (services : ServerServices) : Except Fault ServerResult :=
  if !self.mInitialized then
    .ok (.kNotInitialized, self, [.mainFunctionCompleted .kNotInitialized])
  else
    let broadcast := self.broadcastIfNeeded services.broadcastSignals
    match broadcast.2.1.respondIfNeeded services with
    | .error fault => .error fault
    | .ok (actionRet, self, events) =>
      let ret := if actionRet ≠ .kSuccess then actionRet else broadcast.1
      .ok (ret, self.advanceClock, .mainFunctionCompleted ret :: (events ++ broadcast.2.2))

/-! ## What is answered -/

/-- The signature `mac` over `data` answers a pending challenge of `client` with
the present freshness value. -/
structure Answer (s : FreshnessValueManagerImplServer) (client : String)
    (challenge : ByteVector) (fv : UInt64) (data mac : ByteVector) : Prop where
  pending : s.mResponsePendingChallenges.lookup client = some challenge
  fv_eq : fv = s.mFV
  data_eq : data = challenge ++ uintToByteVectorTrim fv fvmServerNumOfBytesInitialFv.toNat
  length_mac : mac.length = authFvSignatureSizeBytes.toNatClampNeg

variable {self} {services : ServerServices} {client : String} {keyId : UInt16}
variable {challenge data mac : ByteVector} {fv : UInt64}

theorem answered_not_mem_publishResponse {mSignalManager : ISignalManager} {client' : String}
    {serializedFv macRes8Byte : ByteVector} :
    .answered client keyId challenge fv data mac ∉
      self.publishResponse mSignalManager client' serializedFv macRes8Byte := by
  unfold publishResponse
  dsimp only
  split
  · simp
  · split
    · simp
    · simp

theorem answered_of_sendAuthenticFvResponse {challengeEntry : Σ _ : String, ByteVector}
    {events : List ServerEvent}
    (hevents : self.sendAuthenticFvResponse services challengeEntry = .ok events)
    (hanswered : .answered client keyId challenge fv data mac ∈ events) :
    challengeEntry = ⟨client, challenge⟩ ∧ fv = self.mFV ∧
      data = challenge ++ uintToByteVectorTrim fv fvmServerNumOfBytesInitialFv.toNat ∧
      mac.length = authFvSignatureSizeBytes.toNatClampNeg := by
  unfold sendAuthenticFvResponse at hevents
  dsimp only at hevents
  split at hevents
  · cases hevents
    cases hanswered
  · split at hevents
    · cases hevents
    · rename_i macRes _ hlength
      cases hevents
      rcases List.mem_append.mp hanswered with hmem | hmem
      · exact absurd hmem answered_not_mem_publishResponse
      · cases List.mem_singleton.mp hmem
        refine ⟨rfl, rfl, rfl, ?_⟩
        rw [List.length_take]
        omega

theorem answered_of_sendResponses {entries : List (Σ _ : String, ByteVector)}
    {events : List ServerEvent} (hevents : self.sendResponses services entries = .ok events)
    (hanswered : .answered client keyId challenge fv data mac ∈ events) :
    ⟨client, challenge⟩ ∈ entries ∧ fv = self.mFV ∧
      data = challenge ++ uintToByteVectorTrim fv fvmServerNumOfBytesInitialFv.toNat ∧
      mac.length = authFvSignatureSizeBytes.toNatClampNeg := by
  induction entries generalizing events with
  | nil =>
    cases hevents
    cases hanswered
  | cons entry rest ih =>
    rw [sendResponses] at hevents
    split at hevents
    · cases hevents
    · rename_i first hfirst
      split at hevents
      · cases hevents
      · rename_i later hlater
        cases hevents
        rcases List.mem_append.mp hanswered with hmem | hmem
        · obtain ⟨hentry, hrest⟩ := ih hlater hmem
          exact ⟨List.mem_cons_of_mem _ hentry, hrest⟩
        · obtain ⟨hentry, hrest⟩ := answered_of_sendAuthenticFvResponse hfirst hmem
          rw [hentry]
          exact ⟨List.mem_cons_self, hrest⟩

/-- A challenge of a client that the server knows is booked, any other signal is ignored. -/
theorem incomingAuthFvChallengeSignalsCb_cases (signal : String) (challenge : ByteVector) :
    self.incomingAuthFvChallengeSignalsCb signal challenge = (self, []) ∨
      ∃ client, clientOfSignal signal = some client ∧ client ∈ self.mClientNameToKeyId ∧
        self.incomingAuthFvChallengeSignalsCb signal challenge = ({ self with
          mResponsePendingChallenges := self.mResponsePendingChallenges.insert client challenge },
          [.recorded client challenge]) := by
  unfold incomingAuthFvChallengeSignalsCb
  split
  · exact Or.inl rfl
  · rename_i client hclient
    split
    · exact Or.inl rfl
    · rename_i hknown
      exact Or.inr ⟨client, hclient, not_not.mp hknown, rfl⟩

/-- No responses are due, or all that are booked are made and the books are emptied. -/
theorem respondIfNeeded_cases {result : ServerResult}
    (hresult : self.respondIfNeeded services = .ok result) :
    (self.mNeedToSendAuthFvResponses = false ∧ result = (.kSuccess, self, [])) ∨
    (self.mNeedToSendAuthFvResponses = true ∧ ∃ events, self.sendResponses services
        (services.order.arrange self.mResponsePendingChallenges.entries) = .ok events ∧
      result = (.kSuccess, { self with
        mResponsePendingChallenges := ∅
        mNeedToSendAuthFvResponses := false }, events)) := by
  unfold respondIfNeeded sendAuthenticFvResponses at hresult
  split at hresult
  · rename_i hneed
    split at hresult
    · cases hresult
    · rename_i events hevents
      exact Or.inr ⟨hneed, events, hevents, (Except.ok.inj hresult).symm⟩
  · rename_i hneed
    exact Or.inl ⟨Bool.eq_false_of_not_eq_true hneed, (Except.ok.inj hresult).symm⟩

theorem answered_of_respondIfNeeded {result : ServerResult}
    (hresult : self.respondIfNeeded services = .ok result)
    (hanswered : .answered client keyId challenge fv data mac ∈ result.2.2) :
    self.mNeedToSendAuthFvResponses = true ∧ self.Answer client challenge fv data mac := by
  rcases respondIfNeeded_cases hresult with ⟨-, rfl⟩ | ⟨hneed, events, hevents, rfl⟩
  · cases hanswered
  · obtain ⟨hentry, hfv, hdata, hmac⟩ := answered_of_sendResponses hevents hanswered
    have hentry' := (services.order.perm _).mem_iff.mp hentry
    exact ⟨hneed, AList.mem_lookup_iff.mpr hentry', hfv, hdata, hmac⟩

/-- No broadcast is due, or it fails, or it is made. -/
theorem broadcastIfNeeded_cases (signals : ISignalManager) :
    (self.mNeedToBroadcastFv = false ∧ self.broadcastIfNeeded signals = (.kSuccess, self, [])) ∨
    (self.mNeedToBroadcastFv = true ∧ ∃ code, code ≠ .kSuccess ∧
      signals.publish self.mFvmConfAccessor.getUnauthenticatedFvSignalConfig
        (uintToByteVector self.mFV) = code ∧
      self.broadcastIfNeeded signals = (code, self, [])) ∨
    (self.mNeedToBroadcastFv = true ∧
      signals.publish self.mFvmConfAccessor.getUnauthenticatedFvSignalConfig
        (uintToByteVector self.mFV) = .kSuccess ∧
      self.broadcastIfNeeded signals = (.kSuccess, { self with mNeedToBroadcastFv := false },
        [.broadcast (uintToByteVector self.mFV)])) := by
  unfold broadcastIfNeeded unauthenticatedBroadcast
  dsimp only
  split
  · rename_i hneed
    split
    · rename_i hfailed
      exact Or.inr (Or.inl ⟨hneed, _, hfailed, rfl, rfl⟩)
    · rename_i hpublished
      have hsuccess := not_not.mp hpublished
      rw [hsuccess]
      exact Or.inr (Or.inr ⟨hneed, rfl, rfl⟩)
  · rename_i hneed
    exact Or.inl ⟨Bool.eq_false_of_not_eq_true hneed, rfl⟩

/-- The broadcast changes its own flag only. -/
theorem broadcastIfNeeded_eq (signals : ISignalManager) :
    (self.broadcastIfNeeded signals).2.1 =
      { self with
        mNeedToBroadcastFv := (self.broadcastIfNeeded signals).2.1.mNeedToBroadcastFv } := by
  rcases self.broadcastIfNeeded_cases signals with ⟨-, heq⟩ | ⟨-, code, -, -, heq⟩ | ⟨-, -, heq⟩
  · rw [heq]
  · rw [heq]
  · rw [heq]

/-- What a broadcast leaves in the history. -/
theorem event_broadcastIfNeeded (signals : ISignalManager) :
    ∀ e ∈ (self.broadcastIfNeeded signals).2.2, self.mNeedToBroadcastFv = true ∧
      e = .broadcast (uintToByteVector self.mFV) := by
  rcases self.broadcastIfNeeded_cases signals with
    ⟨-, heq⟩ | ⟨-, code, -, -, heq⟩ | ⟨hneed, -, heq⟩
  · rw [heq]
    exact List.forall_mem_nil _
  · rw [heq]
    exact List.forall_mem_nil _
  · rw [heq]
    intro e hmem
    exact ⟨hneed, List.mem_singleton.mp hmem⟩

/-- The main function of an initialised server: the broadcast, the round of responses and
the clock, in this order. -/
theorem mainFunction_parts (hinit : self.mInitialized = true) {result : ServerResult}
    (hresult : self.mainFunction services = .ok result) :
    ∃ t events, (self.broadcastIfNeeded services.broadcastSignals).2.1.respondIfNeeded
        services = .ok (.kSuccess, t, events) ∧
      result = ((self.broadcastIfNeeded services.broadcastSignals).1, t.advanceClock,
        .mainFunctionCompleted (self.broadcastIfNeeded services.broadcastSignals).1 ::
          (events ++ (self.broadcastIfNeeded services.broadcastSignals).2.2)) := by
  have hgo : ¬ (!self.mInitialized) = true := by simp [hinit]
  unfold mainFunction at hresult
  rw [if_neg hgo] at hresult
  dsimp only at hresult
  split at hresult
  · cases hresult
  · rename_i actionRet t events hrespond
    have hret : actionRet = .kSuccess := by
      rcases respondIfNeeded_cases hrespond with ⟨-, heq⟩ | ⟨-, sent, -, heq⟩
      · exact congrArg Prod.fst heq
      · exact congrArg Prod.fst heq
    subst hret
    exact ⟨t, events, hrespond, (Except.ok.inj hresult).symm⟩

/-- The main function of any other server. -/
theorem mainFunction_of_not_initialized (hinit : self.mInitialized = false)
    {result : ServerResult} (hresult : self.mainFunction services = .ok result) :
    result = (.kNotInitialized, self, [.mainFunctionCompleted .kNotInitialized]) := by
  unfold mainFunction at hresult
  rw [hinit] at hresult
  exact (Except.ok.inj hresult).symm

/-- An answer of the main function comes from a response round. -/
theorem answered_of_mainFunction {result : ServerResult}
    (hresult : self.mainFunction services = .ok result)
    (hanswered : .answered client keyId challenge fv data mac ∈ result.2.2) :
    self.mNeedToSendAuthFvResponses = true ∧ self.Answer client challenge fv data mac := by
  cases hinit : self.mInitialized with
  | false =>
    rw [mainFunction_of_not_initialized hinit hresult] at hanswered
    simp at hanswered
  | true =>
    obtain ⟨t, events, hrespond, rfl⟩ := mainFunction_parts hinit hresult
    have hevents : .answered client keyId challenge fv data mac ∈ events := by
      rcases List.mem_cons.mp hanswered with hmem | hmem
      · cases hmem
      · rcases List.mem_append.mp hmem with hmem | hmem
        · exact hmem
        · cases (event_broadcastIfNeeded _ _ hmem).2
    rw [broadcastIfNeeded_eq] at hrespond
    obtain ⟨hneed, hpending, hfv, hdata, hmac⟩ := answered_of_respondIfNeeded hrespond hevents
    exact ⟨hneed, hpending, hfv, hdata, hmac⟩

theorem mFV_subscribeClients {csm : ICsmAccessor} {signals : ISignalManager}
    (clients : List (Σ _ : String, SokFvClientConfigArrayInstance)) :
    (subscribeClients csm signals self clients).2.mFV = self.mFV := by
  induction clients generalizing self with
  | nil => rfl
  | cons client clients ih =>
    rw [subscribeClients]
    split
    · rfl
    · split
      · rfl
      · rw [ih]

/-- The initial freshness value fits into the seven bytes of an answer. -/
theorem mFV_lt_of_init {csm : ICsmAccessor} {signals : ISignalManager}
    {order : UnorderedMap.VisitOrder (Σ _ : String, SokFvClientConfigArrayInstance)}
    (hret : (self.serverOrParticipantInit csm signals order).1 = true) :
    (self.serverOrParticipantInit csm signals order).2.mFV.toNat < 256 ^ 7 := by
  unfold serverOrParticipantInit at hret ⊢
  split
  · rename_i hrandom
    rw [hrandom] at hret
    cases hret
  · rename_i randomBytes hrandom
    have hlength : randomBytes.length = 7 := csm.length_generateRandomBytes _ _ hrandom
    have hlt := BigEndian.value_lt randomBytes
    rw [hlength] at hlt
    dsimp only
    rw [mFV_subscribeClients, toNat_byteVectorToUint (by rw [List.length_cons]; omega),
      BigEndian.value_cons]
    simpa using hlt

end FreshnessValueManagerImplServer

end Sok.Fvm
