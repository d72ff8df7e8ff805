import SokFvm.Fvm.ChallengeService

/-!
# A consumer and a producer

A consumer and the producer of the same identifier, with the channel that carries
the challenges from the one to the other.  The channel loses nothing and keeps the
order, and a challenge is on its way for as long as the run likes.  Either side takes
any call in any state, and the ticks of the two clocks are not tied to each other.

The history has the challenges that were published and those that were delivered.
Of a delivery it says what the challenge has met: an earlier challenge that the
producer holds and that is still undergoing on the producer's clock, if there is one.
Then `incomingChallengeSignalCb` drops the challenge that arrives, by a guard of its
own, and the two sides do not agree until the producer has given out the earlier one
or the consumer has replaced its own: `challenge_overtaken`.

So what the producer gives out after the latest challenge has arrived is that
challenge exactly if it has met nothing, or the same bytes: `challenge_agreement`.
`Linked` is the invariant.  It has what is latest on either side, from the history,
and where it is now.
-/

namespace Sok.Fvm

open Sok.Common StateMachine TimedSlot AFreshnessValueManagerImpl

/-- A consumer, a producer, and the challenges on their way, the oldest first. -/
structure ChallengeLink where
  consumer : AFreshnessValueManagerImpl
  producer : AFreshnessValueManagerImpl
  channel : List ByteVector

inductive LinkOp
  | atConsumer (op : ManagerOp)
  | atProducer (op : ManagerOp)
  | deliver

inductive LinkEvent
  | triggered (challenge : ByteVector)
  /-- The challenge has arrived and has met one that is still undergoing. -/
  | delivered (challenge : ByteVector) (met : Option ByteVector)
  deriving DecidableEq, Repr

/-- The challenge that a producer holds and that is still undergoing. -/
def undergoingChallenge (s : AFreshnessValueManagerImpl) (id : SokFreshnessValueId) :
    Option ByteVector :=
  if s.challengeUndergoing s.mActiveIncomingChallenges id then
    (s.mActiveIncomingChallenges.lookup id).map Prod.snd
  else none

/-- The challenge that an event of the consumer puts on the channel. -/
def publishedChallenge (id : SokFreshnessValueId) : ChallengeEvent → Option ByteVector
  | .triggered id' challenge _ => if id' = id then some challenge else none
  | .confirmed _ | .accepted _ _ _ | .served _ _ | .ticked => none

/-- The link for the identifier `id`, whose challenges arrive as the signal `signal`. -/
def linkStep (id : SokFreshnessValueId) (signal : String) :
    Machine ChallengeLink LinkOp LinkEvent Fault := fun l op =>
  match op with
  | .atConsumer op =>
    let published := (challengeEvents l.consumer op).filterMap (publishedChallenge id)
    .ok ({ l with consumer := (managerNext l.consumer op).1
                  channel := l.channel ++ published }, published.map .triggered)
  | .atProducer op => .ok ({ l with producer := (managerNext l.producer op).1 }, [])
  | .deliver =>
    match l.channel with
    | [] => .ok (l, [])
    | challenge :: channel =>
      .ok ({ l with producer := (l.producer.incomingChallengeSignalCb signal challenge).2
                    channel := channel },
        [.delivered challenge (undergoingChallenge l.producer id)])

/-- No challenge for the identifier arrives but through the channel. -/
def OnlyChannel (id : SokFreshnessValueId) : Guard ChallengeLink LinkOp LinkEvent :=
  fun l _ op =>
    match op with
    | .atProducer (.incomingChallengeSignal name _) =>
      l.producer.mChallengeSignalToFvId.lookup name ≠ some id
    | _ => True

instance (id : SokFreshnessValueId) (l : ChallengeLink) (h : List LinkEvent) (op : LinkOp) :
    Decidable (OnlyChannel id l h op) :=
  match op with
  | .atProducer (.incomingChallengeSignal name _) =>
    inferInstanceAs (Decidable (l.producer.mChallengeSignalToFvId.lookup name ≠ some id))
  | .atProducer (.getRxFreshness _ _ _) | .atProducer (.getTxFreshness _)
  | .atProducer (.verificationStatusCallout _) | .atProducer (.sPduTxConfirmation _)
  | .atProducer (.triggerCrRequest _ _ _) | .atProducer (.offerCrRequest _ _)
  | .atProducer .incTimers | .atProducer (.adoptFv _) | .atProducer .invalidateFv
  | .atConsumer _ | .deliver => inferInstanceAs (Decidable True)

/-- The challenge that was published last. -/
def lastTriggered (h : List LinkEvent) : Option ByteVector :=
  h.findSome? fun e =>
    match e with
    | .triggered challenge => some challenge
    | .delivered _ _ => none

/-- The challenge that was delivered last, with what it has met. -/
def lastDelivered (h : List LinkEvent) : Option (ByteVector × Option ByteVector) :=
  h.findSome? fun e =>
    match e with
    | .triggered _ => none
    | .delivered challenge met => some (challenge, met)

variable {l l' : ChallengeLink} {h : List LinkEvent} {id : SokFreshnessValueId}
variable {signal : String} {s s' c₀ p₀ : AFreshnessValueManagerImpl}
variable {challenge : ByteVector} {met : Option ByteVector}

@[simp] theorem lastTriggered_cons_triggered :
    lastTriggered (.triggered challenge :: h) = some challenge := rfl

@[simp] theorem lastTriggered_cons_delivered :
    lastTriggered (.delivered challenge met :: h) = lastTriggered h := rfl

@[simp] theorem lastDelivered_cons_triggered :
    lastDelivered (.triggered challenge :: h) = lastDelivered h := rfl

@[simp] theorem lastDelivered_cons_delivered :
    lastDelivered (.delivered challenge met :: h) = some (challenge, met) := rfl

/-! ## Registrations -/

/-- The producer takes the challenges of the identifier from the signal. -/
structure Receives (id : SokFreshnessValueId) (signal : String)
    (s : AFreshnessValueManagerImpl) : Prop where
  registered : s.mChallengeSignalToFvId.lookup signal = some id
  offered : (s.mFvIdToNotificationCallback.lookup id).isSome

theorem Receives.of_same (hreceives : Receives id signal s)
    (hsignals : s'.mChallengeSignalToFvId = s.mChallengeSignalToFvId)
    (hcallbacks : s'.mFvIdToNotificationCallback = s.mFvIdToNotificationCallback) :
    Receives id signal s' := by
  obtain ⟨hregistered, hoffered⟩ := hreceives
  rw [← hsignals] at hregistered
  rw [← hcallbacks] at hoffered
  exact ⟨hregistered, hoffered⟩

/-- No call takes a registration back. -/
theorem Receives.step (hreceives : Receives id signal s) (hinit : s.mInitialized = true)
    (op : ManagerOp) : Receives id signal (managerNext s op).1 := by
  obtain ⟨hsignals, hcallbacks | ⟨id', cb, -, hcallbacks⟩⟩ := managerNext_registrations hinit op
  · exact hreceives.of_same hsignals hcallbacks
  · refine ⟨?_, ?_⟩
    · rw [hsignals]
      exact hreceives.registered
    · rw [hcallbacks]
      by_cases hid : id = id'
      · rw [hid, AList.lookup_insert]
        rfl
      · rw [AList.lookup_insert_ne hid]
        exact hreceives.offered

/-- A challenge that is refused has met one that is undergoing. -/
theorem undergoingChallenge_of_refused {time : UInt64} {bytes : ByteVector}
    (hreceives : Receives id signal s) (hlength : challenge.length = challengeLengthBytes.toNat)
    (hpending : s.mActiveIncomingChallenges.lookup id = some (time, bytes))
    (hrefused : s.incomingChallengeSignalCb signal challenge = (none, s)) :
    undergoingChallenge s id = some bytes := by
  obtain ⟨cb, hoffered⟩ := Option.isSome_iff_exists.mp hreceives.offered
  unfold incomingChallengeSignalCb at hrefused
  rw [if_neg (not_not_intro hlength), hreceives.registered] at hrefused
  dsimp only at hrefused
  rw [hoffered] at hrefused
  dsimp only at hrefused
  unfold undergoingChallenge
  split at hrefused
  · rename_i hundergoing
    rw [if_pos hundergoing, hpending]
    rfl
  · cases hrefused

/-! ## The invariant -/

/-- What ties the two sides and the channel to the history. -/
structure Linked (id : SokFreshnessValueId) (signal : String)
    (c₀ p₀ : AFreshnessValueManagerImpl) (l : ChallengeLink) (h : List LinkEvent) : Prop where
  consumer : SameSetup c₀ l.consumer
  producer : SameSetup p₀ l.producer
  lengths : ∀ challenge ∈ l.channel, challenge.length = challengeLengthBytes.toNat
  /-- The latest challenge is at the end of the channel, or it has arrived. -/
  latest : lastTriggered h = l.channel.getLast?.or ((lastDelivered h).map Prod.fst)
  /-- The consumer verifies against the latest challenge. -/
  outgoing : ∀ time challenge, l.consumer.mActiveOutgoingChallenges.lookup id =
    some (time, challenge) → lastTriggered h = some challenge
  /-- The producer holds the challenge that has arrived last, or the one it has met. -/
  incoming : ∀ time bytes, l.producer.mActiveIncomingChallenges.lookup id = some (time, bytes) →
    ∃ challenge met, lastDelivered h = some (challenge, met) ∧ bytes = met.getD challenge
  receives : ∀ time bytes, l.producer.mActiveIncomingChallenges.lookup id = some (time, bytes) →
    Receives id signal l.producer

theorem linked_start (hconsumer : l.consumer.FirstInit) (hproducer : l.producer.FirstInit)
    (hchannel : l.channel = []) : Linked id signal l.consumer l.producer l [] := by
  have houtgoing : l.consumer.mActiveOutgoingChallenges.lookup id = none := by
    rw [hconsumer.spec.mActiveOutgoingChallenges]
    rfl
  have hincoming : l.producer.mActiveIncomingChallenges.lookup id = none := by
    rw [hproducer.spec.mActiveIncomingChallenges]
    rfl
  refine ⟨⟨rfl, rfl⟩, ⟨rfl, rfl⟩, ?_, ?_, ?_, ?_, ?_⟩
  · simp [hchannel]
  · rw [hchannel]
    rfl
  · simp [houtgoing]
  · simp [hincoming]
  · simp [hincoming]

/-- What is there after something was erased was there before. -/
theorem lookup_of_lookup_erase {α : Type} {map : UnorderedMap SokFreshnessValueId α}
    {id' : SokFreshnessValueId} {a : α} (herased : (map.erase id').lookup id = some a) :
    map.lookup id = some a := by
  by_cases hid : id = id'
  · rw [hid, AList.lookup_erase] at herased
    cases herased
  · rw [AList.lookup_erase_ne hid] at herased
    exact herased

/-- A step of the consumer that publishes nothing for the identifier. -/
theorem Linked.consumer_quiet {es : List ChallengeEvent} {consumer : AFreshnessValueManagerImpl}
    (hlinked : Linked id signal c₀ p₀ l h) (hsetup : SameSetup l.consumer consumer)
    (hpublished : es.filterMap (publishedChallenge id) = [])
    (hkept : ∀ active, consumer.mActiveOutgoingChallenges.lookup id = some active →
      l.consumer.mActiveOutgoingChallenges.lookup id = some active) :
    Linked id signal c₀ p₀
      { l with consumer := consumer
               channel := l.channel ++ es.filterMap (publishedChallenge id) }
      ((es.filterMap (publishedChallenge id)).map .triggered ++ h) := by
  rw [hpublished, List.append_nil]
  exact
    { hlinked with
      consumer := hlinked.consumer.trans hsetup
      outgoing := fun time challenge hactive =>
        hlinked.outgoing time challenge (hkept _ hactive) }

/-- The consumer publishes a challenge for the identifier. -/
theorem Linked.consumer_triggers {consumer : AFreshnessValueManagerImpl} {time : UInt64}
    (hlinked : Linked id signal c₀ p₀ l h) (hsetup : SameSetup l.consumer consumer)
    (hlength : challenge.length = challengeLengthBytes.toNat)
    (hstored : consumer.mActiveOutgoingChallenges.lookup id = some (time, challenge)) :
    Linked id signal c₀ p₀ { l with consumer := consumer, channel := l.channel ++ [challenge] }
      (.triggered challenge :: h) := by
  refine ⟨hlinked.consumer.trans hsetup, hlinked.producer, ?_, ?_, ?_, hlinked.incoming,
    hlinked.receives⟩
  · intro challenge' hmem
    rcases List.mem_append.mp hmem with hchannel | hnew
    · exact hlinked.lengths challenge' hchannel
    · rw [List.mem_singleton.mp hnew]
      exact hlength
  · simp
  · intro time' challenge' hactive
    rw [hstored] at hactive
    cases hactive
    rfl

/-- Step lemma for the consumer. -/
theorem Linked.atConsumer {es : List ChallengeEvent} {consumer : AFreshnessValueManagerImpl}
    (hlinked : Linked id signal c₀ p₀ l h) (heffect : ChallengeEffect l.consumer es consumer)
    (hsetup : SameSetup l.consumer consumer) :
    Linked id signal c₀ p₀
      { l with consumer := consumer
               channel := l.channel ++ es.filterMap (publishedChallenge id) }
      ((es.filterMap (publishedChallenge id)).map .triggered ++ h) := by
  cases heffect with
  | quiet hsame => exact hlinked.consumer_quiet hsetup rfl (by simp [hsame.outgoing])
  | ticks hout hin htime => exact hlinked.consumer_quiet hsetup rfl (by simp [hout])
  | triggers id' challenge hlength hexpired hout hin htime =>
    by_cases hid : id' = id
    · subst hid
      have hpublished : [ChallengeEvent.triggered id' challenge l.consumer.mTimeSinceInit].filterMap
          (publishedChallenge id') = [challenge] := by simp [publishedChallenge]
      rw [hpublished]
      apply hlinked.consumer_triggers hsetup hlength
      rw [hout, AList.lookup_insert]
    · apply hlinked.consumer_quiet hsetup
      · simp [publishedChallenge, hid]
      · rw [hout, AList.lookup_insert_ne (Ne.symm hid)]
        intro active hactive
        exact hactive
  | confirms id' hout hin htime =>
    apply hlinked.consumer_quiet hsetup rfl
    intro active hactive
    rw [hout] at hactive
    split at hactive
    · exact lookup_of_lookup_erase hactive
    · exact hactive
  | accepts id' challenge hlength hexpired hout hin htime =>
    exact hlinked.consumer_quiet hsetup rfl (by simp [hout])
  | responds id' time bytes hpending hout hin htime =>
    exact hlinked.consumer_quiet hsetup rfl (by simp [hout])
  | serves id' bytes htype hsame =>
    exact hlinked.consumer_quiet hsetup rfl (by simp [hsame.outgoing])

/-- A challenge is accepted from a signal that is registered for its identifier. -/
theorem registered_of_accepted {op : ManagerOp} {time : UInt64}
    (hmem : .accepted id challenge time ∈ challengeEvents s op) :
    ∃ name, op = .incomingChallengeSignal name challenge ∧
      s.mChallengeSignalToFvId.lookup name = some id := by
  cases op with
  | incomingChallengeSignal name challenge' =>
    unfold challengeEvents at hmem
    dsimp only at hmem
    rcases incomingChallengeSignalCb_cases (s := s) name challenge' with
      hrefused | ⟨fvId, cb, -, hregistered, -, -, haccepted⟩
    · rw [hrefused] at hmem
      cases hmem
    · rw [haccepted] at hmem
      cases List.mem_singleton.mp hmem
      exact ⟨name, rfl, hregistered⟩
  | triggerCrRequest csm signals id' =>
    unfold challengeEvents at hmem
    dsimp only at hmem
    split at hmem
    · cases hmem
    · split at hmem
      · cases List.mem_singleton.mp hmem
      · cases hmem
  | verificationStatusCallout status =>
    unfold challengeEvents at hmem
    dsimp only at hmem
    split at hmem
    · cases List.mem_singleton.mp hmem
    · cases hmem
  | getTxFreshness id' =>
    unfold challengeEvents at hmem
    dsimp only at hmem
    split at hmem
    · cases hmem
    · cases List.mem_singleton.mp hmem
  | incTimers => cases List.mem_singleton.mp hmem
  | getRxFreshness _ _ _ => cases hmem
  | sPduTxConfirmation _ => cases hmem
  | offerCrRequest _ _ => cases hmem
  | adoptFv _ => cases hmem
  | invalidateFv => cases hmem

/-- Without a signal for the identifier, a producer's challenge stays or is given
out. -/
theorem incoming_kept {op : ManagerOp} (hinit : s.mInitialized = true)
    (hother : ∀ name challenge, op = .incomingChallengeSignal name challenge →
      s.mChallengeSignalToFvId.lookup name ≠ some id)
    {active : UInt64 × ByteVector}
    (hactive : (managerNext s op).1.mActiveIncomingChallenges.lookup id = some active) :
    s.mActiveIncomingChallenges.lookup id = some active := by
  have heffect := challengeEffect hinit op
  have haccepted : ∀ id' challenge time, .accepted id' challenge time ∈ challengeEvents s op →
      id ≠ id' := by
    rintro id' challenge time hmem rfl
    obtain ⟨name, hop, hregistered⟩ := registered_of_accepted hmem
    exact hother name challenge hop hregistered
  revert heffect haccepted hactive
  generalize (managerNext s op).1 = s'
  generalize challengeEvents s op = es
  intro hactive heffect haccepted
  cases heffect with
  | quiet hsame =>
    rw [← hsame.incoming]
    exact hactive
  | ticks hout hin htime =>
    rw [← hin]
    exact hactive
  | triggers id' challenge hlength hexpired hout hin htime =>
    rw [← hin]
    exact hactive
  | confirms id' hout hin htime =>
    rw [← hin]
    exact hactive
  | accepts id' challenge hlength hexpired hout hin htime =>
    have hid := haccepted id' challenge _ List.mem_cons_self
    rw [hin, AList.lookup_insert_ne hid] at hactive
    exact hactive
  | responds id' time bytes hpending hout hin htime =>
    rw [hin] at hactive
    exact lookup_of_lookup_erase hactive
  | serves id' bytes htype hsame =>
    rw [← hsame.incoming]
    exact hactive

/-- Step lemma for the producer. -/
theorem Linked.atProducer {op : ManagerOp} (hlinked : Linked id signal c₀ p₀ l h)
    (hinit : l.producer.mInitialized = true)
    (hother : ∀ name challenge, op = .incomingChallengeSignal name challenge →
      l.producer.mChallengeSignalToFvId.lookup name ≠ some id) :
    Linked id signal c₀ p₀ { l with producer := (managerNext l.producer op).1 } h := by
  have heffect := managerNext_effect (s := l.producer) op
  exact
    { hlinked with
      producer := hlinked.producer.trans ⟨heffect.mInitialized, heffect.mFvmConfAccessor⟩
      incoming := fun time bytes hactive =>
        hlinked.incoming time bytes (incoming_kept hinit hother hactive)
      receives := fun time bytes hactive =>
        (hlinked.receives time bytes (incoming_kept hinit hother hactive)).step hinit op }

theorem getLast?_or_of_cons {channel : List ByteVector} (older : Option ByteVector) :
    (challenge :: channel).getLast?.or older = channel.getLast?.or (some challenge) := by
  rw [List.getLast?_cons]
  cases channel.getLast? with
  | none => rfl
  | some last => rfl

/-- The oldest challenge of the channel arrives, and the producer holds the one that it
has met, or the one that has arrived. -/
theorem Linked.arrives {channel : List ByteVector} {producer : AFreshnessValueManagerImpl}
    (hlinked : Linked id signal c₀ p₀ l h) (hchannel : l.channel = challenge :: channel)
    (hsetup : SameSetup l.producer producer)
    (hheld : ∀ time bytes, producer.mActiveIncomingChallenges.lookup id = some (time, bytes) →
      bytes = met.getD challenge ∧ Receives id signal producer) :
    Linked id signal c₀ p₀ { l with producer := producer, channel := channel }
      (.delivered challenge met :: h) := by
  have hlatest := hlinked.latest
  rw [hchannel, getLast?_or_of_cons] at hlatest
  refine ⟨hlinked.consumer, hlinked.producer.trans hsetup, ?_, hlatest, hlinked.outgoing, ?_, ?_⟩
  · intro challenge' hmem
    apply hlinked.lengths
    rw [hchannel]
    exact List.mem_cons_of_mem _ hmem
  · intro time bytes hactive
    exact ⟨challenge, met, rfl, (hheld time bytes hactive).1⟩
  · intro time bytes hactive
    exact (hheld time bytes hactive).2

/-- Step lemma for a delivery. -/
theorem Linked.deliver {channel : List ByteVector} (hlinked : Linked id signal c₀ p₀ l h)
    (hchannel : l.channel = challenge :: channel) :
    Linked id signal c₀ p₀
      { l with producer := (l.producer.incomingChallengeSignalCb signal challenge).2
               channel := channel }
      (.delivered challenge (undergoingChallenge l.producer id) :: h) := by
  have hlength : challenge.length = challengeLengthBytes.toNat := by
    apply hlinked.lengths
    rw [hchannel]
    exact List.mem_cons_self
  rcases incomingChallengeSignalCb_cases (s := l.producer) signal challenge with
    hrefused | ⟨fvId, cb, -, hregistered, hoffered, hexpired, haccepted⟩
  · rw [hrefused]
    apply hlinked.arrives hchannel ⟨rfl, rfl⟩
    intro time bytes hactive
    have hreceives := hlinked.receives time bytes hactive
    rw [undergoingChallenge_of_refused hreceives hlength hactive hrefused]
    exact ⟨rfl, hreceives⟩
  · rw [haccepted]
    refine hlinked.arrives hchannel ?_ ?_
    · exact ⟨rfl, rfl⟩
    intro time bytes hactive
    dsimp only at hactive
    by_cases hid : id = fvId
    · subst hid
      have hmet : undergoingChallenge l.producer id = none := by
        unfold undergoingChallenge
        rw [hexpired]
        rfl
      rw [AList.lookup_insert] at hactive
      cases hactive
      rw [hmet]
      exact ⟨rfl, hregistered, Option.isSome_of_eq_some hoffered⟩
    · -- the signal is registered for another identifier, so nothing is held for this one
      rw [AList.lookup_insert_ne hid] at hactive
      have hsignal := (hlinked.receives time bytes hactive).registered
      rw [hregistered] at hsignal
      exact absurd (Option.some.inj hsignal).symm hid

/-- Run lemma. -/
theorem linked_of_run {l₀ : ChallengeLink} (hconsumer : l₀.consumer.FirstInit)
    (hproducer : l₀.producer.FirstInit) (hchannel : l₀.channel = [])
    (hrun : Run (linkStep id signal) (OnlyChannel id) l₀ [] l h) :
    Linked id signal l₀.consumer l₀.producer l h := by
  apply hrun.invariant (fun l h => Linked id signal l₀.consumer l₀.producer l h)
  · exact linked_start hconsumer hproducer hchannel
  · intro l h op l' es hlinked hmeets hstep
    have hinitConsumer : l.consumer.mInitialized = true :=
      hlinked.consumer.mInitialized.trans hconsumer.spec.mInitialized
    have hinitProducer : l.producer.mInitialized = true :=
      hlinked.producer.mInitialized.trans hproducer.spec.mInitialized
    cases op with
    | atConsumer op =>
      have hsetup := managerNext_effect (s := l.consumer) op
      cases Except.ok.inj hstep
      exact hlinked.atConsumer (challengeEffect hinitConsumer op)
        ⟨hsetup.mInitialized, hsetup.mFvmConfAccessor⟩
    | atProducer op =>
      cases Except.ok.inj hstep
      apply hlinked.atProducer hinitProducer
      rintro name challenge rfl
      exact hmeets
    | deliver =>
      unfold linkStep at hstep
      dsimp only at hstep
      split at hstep
      · cases hstep
        exact hlinked
      · rename_i challenge channel hcons
        cases hstep
        exact hlinked.deliver hcons

/-- **When the two sides agree.**  When the latest challenge of the consumer has arrived,
what the producer gives out is the challenge that the consumer verifies against, if it
has met nothing at the producer.  If it has met an earlier challenge that was still
undergoing, the producer gives out that one. -/
theorem challenge_agreement {l₀ : ChallengeLink} {bytes : ByteVector}
    (hconsumer : l₀.consumer.FirstInit) (hproducer : l₀.producer.FirstInit)
    (hchallenge : l₀.consumer.mFvmConfAccessor.getEntryTypeByFvId id =
      .ok .kVwSokFreshnessCrChallenge)
    (hresponse : l₀.producer.mFvmConfAccessor.getEntryTypeByFvId id =
      .ok .kVwSokFreshnessCrResponse)
    (hchannel : l₀.channel = []) (hrun : Run (linkStep id signal) (OnlyChannel id) l₀ [] l h)
    (harrived : l.channel = []) (hserved : (l.producer.getTxFreshness id).1 = .ok bytes) :
    ∃ challenge met, lastTriggered h = some challenge ∧ lastDelivered h = some (challenge, met) ∧
      (∀ truncated challenge', (l.consumer.getRxFreshness id truncated 0).1 = .ok challenge' →
        challenge' = challenge) ∧
      (met = none → bytes = challenge) ∧ ∀ earlier, met = some earlier → bytes = earlier := by
  have hlinked := linked_of_run hconsumer hproducer hchannel hrun
  rw [← hlinked.consumer.mFvmConfAccessor] at hchallenge
  rw [← hlinked.producer.mFvmConfAccessor] at hresponse
  rw [getTxFreshness_response_iff
    (hlinked.producer.mInitialized.trans hproducer.spec.mInitialized) hresponse] at hserved
  obtain ⟨time, hpending⟩ := hserved
  obtain ⟨challenge, met, hlast, hbytes⟩ := hlinked.incoming time bytes hpending
  have htriggered : lastTriggered h = some challenge := by
    rw [hlinked.latest, harrived, hlast]
    rfl
  refine ⟨challenge, met, htriggered, hlast, ?_, ?_, ?_⟩
  · intro truncated challenge' hgiven
    rw [getRxFreshness_challenge_iff
      (hlinked.consumer.mInitialized.trans hconsumer.spec.mInitialized) hchallenge] at hgiven
    obtain ⟨time', hactive⟩ := hgiven
    have hlatest := hlinked.outgoing time' challenge' hactive
    rw [htriggered] at hlatest
    exact (Option.some.inj hlatest).symm
  · rintro rfl
    exact hbytes
  · rintro earlier rfl
    exact hbytes

/-! ## A link on concrete inputs -/

/-- A consumer and a producer after their first `Init`. -/
def firstLink : ChallengeLink :=
  ⟨firstConsumer, firstProducer, []⟩

/-- Another answer of the crypto service. -/
def eightsCsm : ICsmAccessor :=
  CsmAccessorAraCrypto.toICsmAccessor (.ofDigest (fun _ => Vector.replicate 16 0) 8)

/-- Both main functions are called. -/
def bothTick : List LinkOp :=
  [.atConsumer .incTimers, .atProducer .incTimers]

/-- One challenge that arrives at once. -/
def promptChallenge : List LinkOp :=
  [.atProducer (.offerCrRequest 0 7),
    .atConsumer (.triggerCrRequest zeroDigestCsm reliableSignals 0), .deliver]

theorem challenge_agreement_prompt :
    ∃ l h, Run (linkStep 0 "CR") (OnlyChannel 0) firstLink [] l h ∧
      (l.producer.getTxFreshness 0).1 = .ok (.replicate 8 7) ∧
      lastTriggered h = some (.replicate 8 7) := by
  obtain ⟨l, h, hrun, harrived, hserved, hlast⟩ :
      ∃ l h, Run (linkStep 0 "CR") (OnlyChannel 0) firstLink [] l h ∧ l.channel = [] ∧
        (l.producer.getTxFreshness 0).1 = .ok (.replicate 8 7) ∧
        lastDelivered h = some (.replicate 8 7, none) :=
    Run.exists_of_exec_of_meets promptChallenge (by decide +kernel) (by decide +kernel)
  obtain ⟨challenge, met, htriggered, hdelivered, -, hagree, -⟩ :=
    challenge_agreement firstInit_firstConsumer firstInit_firstProducer type_firstConsumer
      type_firstProducer rfl hrun harrived hserved
  refine ⟨l, h, hrun, hserved, ?_⟩
  rw [hlast] at hdelivered
  cases hdelivered
  exact htriggered

/-- The first challenge is 245 ms on its way and the second one 5 ms. -/
def lateChallenge : List LinkOp :=
  [.atProducer (.offerCrRequest 0 7),
    .atConsumer (.triggerCrRequest zeroDigestCsm reliableSignals 0)] ++
    (List.replicate 49 bothTick).flatten ++ [.deliver] ++ bothTick ++
    [.atConsumer (.triggerCrRequest eightsCsm reliableSignals 0)] ++ bothTick ++ [.deliver]

/-- The producer drops the challenge that the consumer verifies against, and gives out
the one before it. -/
theorem challenge_overtaken :
    ∃ l h, Run (linkStep 0 "CR") (OnlyChannel 0) firstLink [] l h ∧
      l.consumer.mTimeSinceInit = l.producer.mTimeSinceInit ∧ l.channel = [] ∧
      lastTriggered h = some (.replicate 8 8) ∧
      (l.producer.getTxFreshness 0).1 = .ok (.replicate 8 7) ∧
      (l.consumer.getRxFreshness 0 [] 0).1 = .ok (.replicate 8 8) :=
  Run.exists_of_exec_of_meets lateChallenge (by decide +kernel) (by decide +kernel)

end Sok.Fvm
