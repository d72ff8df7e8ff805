import SokFvm.Fvm.SessionCounter

/-!
# Sender and receiver of a session

Two ECUs share a session identifier, a sender entry on one and a receiver entry
on the other, with counters of the same length.  Messages travel in order and
each arrives once; only the counter of a message matters here, so a message is
its counter.  A reception starts with the counter of the message at the head of
the channel, may ask for further attempts, and ends with a call-back of either
outcome.  Meanwhile both managers do anything else.

The session is in step when the messages in flight carry the counters between
the receiver's and the sender's, `InStep`.  Every step keeps it, except the start
of a reception while a list is cached from an earlier one: then `getRxFv` answers
without moving the receiver's counter, and the two ECUs stay apart from there on.
`no_counter_mismatch` is the result for runs without such a start.
-/

namespace Sok.Fvm

open Sok.Common StateMachine AFreshnessValueManagerImpl FvmRuntimeAttributesManager

/-- The two ECUs, the counters of the messages in flight with the oldest first,
and the counter of the message that is being verified. -/
structure SessionPair where
  sender : AFreshnessValueManagerImpl
  receiver : AFreshnessValueManagerImpl
  inFlight : List ByteVector
  pending : Option ByteVector

/-- The steps of the pair. -/
inductive PairOp
  /-- `GetTxFreshness` on the sender; the message is sent. -/
  | send
  /-- Any other call on the sender. -/
  | atSender (op : ManagerOp)
  /-- `GetRxFreshness` at attempt `0` on the receiver, for the oldest message. -/
  | receive
  /-- `GetRxFreshness` at a further attempt for the same message. -/
  | retry (attempts : UInt16)
  /-- `VerificationStatusCallout`, which ends the reception. -/
  | finish (verificationSucceeded : Bool)
  /-- Any call on the receiver that is no part of a reception of the session. -/
  | atReceiver (op : ManagerOp)

/-- A step that is not possible in a state. -/
inductive Disabled
  | disabled

/-- A call that is a reception of `id` or its end. -/
def concernsReception (id : SokFreshnessValueId) : ManagerOp → Bool
  | .getRxFreshness id' _ _ => id' == id
  | .verificationStatusCallout status => status.fvId == id
  | _ => false

/-- A call that sends on `id`. -/
def concernsTransmission (id : SokFreshnessValueId) : ManagerOp → Bool
  | .getTxFreshness id' => id' == id
  | _ => false

/-- The pair as a machine. A successful send puts the counter, which follows the
eight bytes of the freshness value, into flight. -/
def pairStep (id : SokFreshnessValueId) : Machine SessionPair PairOp Unit Disabled := fun s op =>
  match op with
  | .send =>
    match s.sender.getTxFreshness id with
    | (.ok fv, sender) =>
      .ok ({ s with sender := sender, inFlight := s.inFlight ++ [fv.drop 8] }, [])
    | (.error _, _) => .error .disabled
  | .atSender op =>
    if concernsTransmission id op then .error .disabled
    else .ok ({ s with sender := (managerNext s.sender op).1 }, [])
  | .receive =>
    match s.pending, s.inFlight with
    | none, counter :: rest =>
      .ok ({ s with
        receiver := (s.receiver.getRxFreshness id counter 0).2
        inFlight := rest
        pending := some counter }, [])
    | _, _ => .error .disabled
  | .retry attempts =>
    match s.pending with
    | some counter =>
      if attempts = 0 then .error .disabled
      else .ok ({ s with receiver := (s.receiver.getRxFreshness id counter attempts).2 }, [])
    | none => .error .disabled
  | .finish verificationSucceeded =>
    match s.pending with
    | some _ =>
      .ok ({ s with
        receiver := s.receiver.verificationStatusCallout ⟨id, verificationSucceeded⟩
        pending := none }, [])
    | none => .error .disabled
  | .atReceiver op =>
    if concernsReception id op then .error .disabled
    else .ok ({ s with receiver := (managerNext s.receiver op).1 }, [])

/-- Both ECUs freshly initialised, with matching entries for the session. -/
structure FreshPair (id : SokFreshnessValueId) (length : UInt8) (s : SessionPair) : Prop where
  sender : FreshlyInitialised s.sender
  receiver : FreshlyInitialised s.receiver
  senderType : s.sender.mFvmConfAccessor.getEntryTypeByFvId id =
    .ok .kVwSokFreshnessValueSessionSender
  receiverType : s.receiver.mFvmConfAccessor.getEntryTypeByFvId id =
    .ok .kVwSokFreshnessValueSessionReceiver
  senderEntry : (s.sender.attributes id).isSome
  receiverEntry : (s.receiver.attributes id).isSome
  senderLength : counterLength s.sender id = length
  receiverLength : counterLength s.receiver id = length
  length : length ≠ 0
  inFlight : s.inFlight = []
  pending : s.pending = none

/-- No list is cached for the session when a reception starts. -/
def ReceivesUncached (id : SokFreshnessValueId) : Guard SessionPair PairOp Unit := fun s _ op =>
  op = .receive → s.receiver.candidates id = none

instance (id : SokFreshnessValueId) (s : SessionPair) (h : List Unit) :
    DecidablePred (ReceivesUncached id s h)
  | .receive => decidable_of_iff (s.receiver.candidates id = none)
      ⟨fun huncached _ => huncached, fun hmeets => hmeets rfl⟩
  | .send | .atSender _ | .retry _ | .finish _ | .atReceiver _ => .isTrue nofun

variable {id : SokFreshnessValueId} {length : UInt8} {s s₀ s' : SessionPair}
variable {m : AFreshnessValueManagerImpl} {counter : ByteVector}

/-! ## The counter of each side under its calls -/

/-- The manager is initialised and has an entry of this type for the
identifier. -/
structure Serves (m : AFreshnessValueManagerImpl) (id : SokFreshnessValueId)
    (type : SokFreshnessType) : Prop where
  mInitialized : m.mInitialized = true
  entryType : m.mFvmConfAccessor.getEntryTypeByFvId id = .ok type

theorem Serves.next {type : SokFreshnessType} (hserves : Serves m id type) (op : ManagerOp) :
    Serves (managerNext m op).1 id type := by
  have heffect : StepEffect m op (managerNext m op).1 := managerNext_effect op
  refine ⟨heffect.mInitialized.trans hserves.mInitialized, ?_⟩
  rw [heffect.mFvmConfAccessor, hserves.entryType]

theorem CounterAt.chooseTxFv (hcounter : CounterAt m id length counter) :
    CounterAt (m.chooseTxFv id).2 id length counter := by
  unfold AFreshnessValueManagerImpl.chooseTxFv
  split_ifs
  · apply hcounter.of_entry
    intro a ha
    have ha' : m.mAttrMgr.entry id = some a := ha
    refine ⟨activate m.mTimeSinceInit a, ?_, counterOf_activate⟩
    show (m.mAttrMgr.setActive id m.mTimeSinceInit).entry id = _
    rw [entry_setActive_self, ha']
    rfl
  · exact hcounter
  · exact hcounter
  · exact hcounter.updateEvent

theorem CounterAt.incSessionCounter (hcounter : CounterAt m id length counter) :
    (m.mAttrMgr.incSessionCounter id).1 = Odometer.turn 0 counter ∧
      CounterAt { m with mAttrMgr := (m.mAttrMgr.incSessionCounter id).2 } id length
        (Odometer.turn 0 counter) := by
  constructor
  · rw [incSessionCounter_fst, hcounter.getNextSessionCounter]
  · apply hcounter.countedUp
    intro a ha
    have ha' : m.mAttrMgr.entry id = some a := ha
    refine ⟨countUp a, ?_, rfl, rfl⟩
    show (m.mAttrMgr.incSessionCounter id).2.entry id = _
    rw [entry_incSessionCounter_self, ha']
    rfl

/-- A message carries the successor of the sender's counter, which moves to it. -/
theorem getTxFreshness_sender (hserves : Serves m id .kVwSokFreshnessValueSessionSender)
    (hcounter : CounterAt m id length counter) :
    ∃ fv, (m.getTxFreshness id).1 = .ok fv ∧ fv.drop 8 = Odometer.turn 0 counter ∧
      CounterAt (m.getTxFreshness id).2 id length (Odometer.turn 0 counter) := by
  obtain ⟨hbytes, hmoved⟩ := hcounter.chooseTxFv.incSessionCounter
  rw [getTxFreshness_eq hserves.mInitialized hserves.entryType (Or.inr rfl), getTxFv, if_pos rfl]
  refine ⟨_, rfl, ?_, hmoved⟩
  rw [List.drop_left' length_chooseTxFv, hbytes]

/-- No other call moves the sender's counter. -/
theorem counterAt_sender_of_ne (hserves : Serves m id .kVwSokFreshnessValueSessionSender)
    (hcounter : CounterAt m id length counter) {op : ManagerOp}
    (hop : concernsTransmission id op = false) :
    CounterAt (managerNext m op).1 id length counter := by
  by_cases hget : ∃ truncated attempts, op = .getRxFreshness id truncated attempts
  · obtain ⟨truncated, attempts, rfl⟩ := hget
    show CounterAt (m.getRxFreshness id truncated attempts).2 id length counter
    rw [getRxFreshness_of_sender hserves.mInitialized hserves.entryType]
    exact hcounter
  · refine hcounter.managerNext_of_ne ?_ ?_
    · intro truncated attempts heq
      exact hget ⟨truncated, attempts, heq⟩
    rintro rfl
    simp [concernsTransmission] at hop

/-- No call outside a reception moves the receiver's counter. -/
theorem counterAt_receiver_of_ne (hserves : Serves m id .kVwSokFreshnessValueSessionReceiver)
    (hcounter : CounterAt m id length counter) {op : ManagerOp}
    (hop : ∀ truncated attempts, op ≠ .getRxFreshness id truncated attempts) :
    CounterAt (managerNext m op).1 id length counter := by
  by_cases htx : op = .getTxFreshness id
  · subst htx
    show CounterAt (m.getTxFreshness id).2 id length counter
    rw [getTxFreshness_of_receiver hserves.mInitialized hserves.entryType]
    exact hcounter
  · exact hcounter.managerNext_of_ne hop htx

/-- The start of a reception with the successor moves the receiver's counter,
whatever the freshness value makes of it, and is not a mismatch. -/
theorem getRxFreshness_successor (hserves : Serves m id .kVwSokFreshnessValueSessionReceiver)
    (hcounter : CounterAt m id length counter) (hcached : m.candidates id = none) :
    (m.getRxFreshness id (Odometer.turn 0 counter) 0).1 ≠ .error .sessionCounterMismatch ∧
      CounterAt (m.getRxFreshness id (Odometer.turn 0 counter) 0).2 id length
        (Odometer.turn 0 counter) := by
  rw [getRxFreshness_eq hserves.mInitialized hserves.entryType (Or.inr rfl)]
  constructor
  · rw [getRxFv_of_uncached hcached, hcounter.getNextSessionCounter,
      if_neg (not_not_intro rfl), if_neg (fun hne => hne.2 rfl)]
    split_ifs
    · rintro ⟨⟩
    · rintro ⟨⟩
    · rintro ⟨⟩
  · have hmoved := hcounter.getRxFv_uncached hcached (Odometer.turn 0 counter) 0
    rw [if_pos (And.intro rfl rfl)] at hmoved
    exact hmoved

/-- A further attempt does not move the receiver's counter. -/
theorem getRxFreshness_retry (hserves : Serves m id .kVwSokFreshnessValueSessionReceiver)
    (hcounter : CounterAt m id length counter) (truncated : FVContainer) {attempts : UInt16}
    (hattempts : attempts ≠ 0) :
    CounterAt (m.getRxFreshness id truncated attempts).2 id length counter := by
  rw [getRxFreshness_eq hserves.mInitialized hserves.entryType (Or.inr rfl)]
  cases hcached : m.candidates id with
  | none =>
    rw [getRxFv_of_uncached hcached, if_pos hattempts]
    exact hcounter
  | some rxCandList =>
    rw [getRxFv_of_cached hcached]
    split
    · exact hcounter
    · exact hcounter

/-! ## The session stays in step -/

/-- The messages in flight lead from the receiver's counter to the sender's. -/
structure InStep (id : SokFreshnessValueId) (length : UInt8) (s : SessionPair) : Prop where
  sender : Serves s.sender id .kVwSokFreshnessValueSessionSender
  receiver : Serves s.receiver id .kVwSokFreshnessValueSessionReceiver
  counters : ∃ received sent, CounterAt s.receiver id length received ∧
    CounterAt s.sender id length sent ∧ Odometer.Consecutive 0 received s.inFlight sent

theorem FreshPair.inStep (hfresh : FreshPair id length s) : InStep id length s := by
  have hsender := counterAt_start hfresh.sender hfresh.senderEntry
    (by rw [hfresh.senderLength]; exact hfresh.length)
  have hreceiver := counterAt_start hfresh.receiver hfresh.receiverEntry
    (by rw [hfresh.receiverLength]; exact hfresh.length)
  rw [hfresh.senderLength] at hsender
  rw [hfresh.receiverLength] at hreceiver
  refine ⟨⟨hfresh.sender.mInitialized, hfresh.senderType⟩,
    ⟨hfresh.receiver.mInitialized, hfresh.receiverType⟩, _, _, hreceiver, hsender, ?_⟩
  rw [hfresh.inFlight]
  rfl

/-- Step lemma: one case for each step of the pair. -/
theorem InStep.step {op : PairOp} {h es : List Unit} (hin : InStep id length s)
    (hmeets : ReceivesUncached id s h op) (hstep : pairStep id s op = .ok (s', es)) :
    InStep id length s' := by
  obtain ⟨received, sent, hreceived, hsent, hflight⟩ := hin.counters
  cases op with
  | send =>
    obtain ⟨fv, hok, hbytes, hmoved⟩ := getTxFreshness_sender hin.sender hsent
    have hsender := hin.sender.next (.getTxFreshness id)
    unfold pairStep at hstep
    have hanswer : s.sender.getTxFreshness id = (.ok fv, (s.sender.getTxFreshness id).2) :=
      Prod.ext hok rfl
    rw [hanswer] at hstep
    cases hstep
    refine ⟨hsender, hin.receiver, received, _, hreceived, hmoved, ?_⟩
    show Odometer.Consecutive 0 received (s.inFlight ++ [fv.drop 8]) _
    rw [hbytes]
    exact hflight.concat
  | atSender op =>
    unfold pairStep at hstep
    dsimp only at hstep
    split at hstep
    · cases hstep
    · rename_i hother
      cases hstep
      exact ⟨hin.sender.next op, hin.receiver, received, sent, hreceived,
        counterAt_sender_of_ne hin.sender hsent (Bool.eq_false_of_not_eq_true hother), hflight⟩
  | receive =>
    unfold pairStep at hstep
    dsimp only at hstep
    split at hstep
    · rename_i counter rest hpending hcons
      cases hstep
      rw [hcons] at hflight
      obtain ⟨hnext, hrest⟩ := hflight
      subst hnext
      have hmoved := (getRxFreshness_successor hin.receiver hreceived (hmeets rfl)).2
      exact ⟨hin.sender, hin.receiver.next (.getRxFreshness id _ 0), _, sent, hmoved, hsent, hrest⟩
    · cases hstep
  | retry attempts =>
    unfold pairStep at hstep
    dsimp only at hstep
    split at hstep
    · rename_i counter hpending
      split at hstep
      · cases hstep
      · rename_i hattempts
        cases hstep
        exact ⟨hin.sender, hin.receiver.next (.getRxFreshness id counter attempts), received, sent,
          getRxFreshness_retry hin.receiver hreceived counter hattempts, hsent, hflight⟩
    · cases hstep
  | finish verificationSucceeded =>
    unfold pairStep at hstep
    dsimp only at hstep
    split at hstep
    · cases hstep
      have hkept : CounterAt (managerNext s.receiver (.verificationStatusCallout
          ⟨id, verificationSucceeded⟩)).1 id length received :=
        counterAt_receiver_of_ne hin.receiver hreceived (by rintro _ _ ⟨⟩)
      exact ⟨hin.sender, hin.receiver.next (.verificationStatusCallout _), received, sent, hkept,
        hsent, hflight⟩
    · cases hstep
  | atReceiver op =>
    unfold pairStep at hstep
    dsimp only at hstep
    split at hstep
    · cases hstep
    · rename_i hother
      cases hstep
      refine ⟨hin.sender, hin.receiver.next op, received, sent,
        counterAt_receiver_of_ne hin.receiver hreceived ?_, hsent, hflight⟩
      rintro truncated attempts rfl
      simp [concernsReception] at hother

/-- The message that arrives next is not refused for its counter. -/
def NextMessageMatches (id : SokFreshnessValueId) (s : SessionPair) : Prop :=
  ∀ counter rest, s.inFlight = counter :: rest → s.pending = none →
    (s.receiver.getRxFreshness id counter 0).1 ≠ .error .sessionCounterMismatch

/-- In every run in which no reception of the session starts while a list is
cached, no message whose reception starts so is refused for its counter. -/
theorem no_counter_mismatch (hfresh : FreshPair id length s₀)
    {h : List Unit} (hrun : Run (pairStep id) (ReceivesUncached id) s₀ [] s h)
    (hmeets : ReceivesUncached id s h .receive) : NextMessageMatches id s := by
  have hin : InStep id length s :=
    hrun.stateInvariant (InStep id length) hfresh.inStep
      fun _ _ _ _ _ hin hmeets hstep => hin.step hmeets hstep
  intro counter rest hcons _
  obtain ⟨received, sent, hreceived, -, hflight⟩ := hin.counters
  rw [hcons] at hflight
  obtain ⟨hnext, -⟩ := hflight
  subst hnext
  exact (getRxFreshness_successor hin.receiver hreceived (hmeets rfl)).1

/-! ## A session that falls out of step -/

/-- The same identifier on the sender. -/
def oneSessionSenderId : FreshnessValueManagerConfigAccessor :=
  .ofEntries [(0, ⟨.kVwSokFreshnessValueSessionSender, 0, 1⟩)]
    [(1, ⟨.kVwSokFreshnessCrChallenge, default⟩)]

/-- Two ECUs with one session between them, before the first message. -/
def newSession : SessionPair :=
  { sender := initialisedManager oneSessionSenderId
    receiver := initialisedManager oneSessionReceiverId
    inFlight := []
    pending := none }

theorem freshPair_newSession : FreshPair 0 1 newSession :=
  ⟨freshlyInitialised_initialisedManager rfl, freshlyInitialised_initialisedManager rfl,
    rfl, rfl, rfl, rfl, rfl, rfl, by decide, rfl, rfl⟩

/-- Two messages are sent, and the reception of the first one is completed: it takes a
second attempt and is verified. The second one is not refused for its counter. -/
theorem no_counter_mismatch_after_reception :
    ∃ s h, Run (pairStep 0) (ReceivesUncached 0) newSession [] s h ∧ s.inFlight = [[2]] ∧
      s.pending = none ∧ NextMessageMatches 0 s ∧
      (s.receiver.getRxFreshness 0 [2] 0).1 ≠ .error .sessionCounterMismatch := by
  obtain ⟨s, h, hrun, hflight, hpending, huncached⟩ : ∃ s h,
      Run (pairStep 0) (ReceivesUncached 0) newSession [] s h ∧ s.inFlight = [[2]] ∧
        s.pending = none ∧ s.receiver.candidates 0 = none :=
    Run.exists_of_exec_of_meets
      [.atSender (.adoptFv 1000), .atReceiver (.adoptFv 1000), .send, .send, .receive, .retry 1,
        .atReceiver .incTimers, .finish true] (by decide +kernel) (by decide +kernel)
  have hmatches : NextMessageMatches 0 s :=
    no_counter_mismatch freshPair_newSession hrun (fun _ => huncached)
  exact ⟨s, h, hrun, hflight, hpending, hmatches, hmatches [2] [] hflight hpending⟩

/-- Three messages are sent. The first one is corrupted, so its verification
fails; the second one is verified, through the list of the first; and the third
one is refused for its counter, although the freshness value is valid. -/
theorem session_falls_out_of_step :
    FreshPair 0 1 newSession ∧
    ∃ s h, Run (pairStep 0) Anything newSession [] s h ∧ s.receiver.mIsFvValid = true ∧
      ¬ NextMessageMatches 0 s := by
  refine ⟨freshPair_newSession, ?_⟩
  let ops : List PairOp := [.atReceiver (.adoptFv 1000), .send, .send, .send,
    .receive, .finish false, .receive, .finish true]
  obtain ⟨s, h, hrun, hvalid, hflight, hpending, hrefused⟩ : ∃ s h,
      Run (pairStep 0) Anything newSession [] s h ∧ s.receiver.mIsFvValid = true ∧
        s.inFlight = [[3]] ∧ s.pending = none ∧
        (s.receiver.getRxFreshness 0 [3] 0).1 = .error .sessionCounterMismatch :=
    Run.exists_of_exec ops (by decide +kernel)
  refine ⟨s, h, hrun, hvalid, ?_⟩
  intro hmatches
  exact hmatches [3] [] hflight hpending hrefused

end Sok.Fvm
