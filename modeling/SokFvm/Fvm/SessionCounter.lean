import SokFvm.Fvm.Reception

/-!
# The session counter of a receiver

A message on a session identifier carries the sender's counter.  The receiver
accepts it when it is the successor of its own counter, and moves its counter
on.  So the counters that start successful receptions are the ones that an
odometer visits, one after the other, and none of them comes back before the
odometer has gone full circle.

`session_replay_protection` is that result, for runs that keep the
`SessionDiscipline`.  Outside it the code does not have the property: a
reception that is answered from a cached list does not look at the counter at
all, and a reception that is refused for want of a freshness value has moved the
counter on already.

The proof follows the counter of one identifier.  `sessionCounter_getRxFv` says
when a reception moves it, `sessionCounter_managerNext_of_ne` that nothing else
does, and `SessionTrace` ties the counter to the list of starts in the history.
-/

namespace Sok.Fvm

open Sok.Common StateMachine AFreshnessValueManagerImpl FvmRuntimeAttributesManager

variable {s s' s₀ : AFreshnessValueManagerImpl} {id : SokFreshnessValueId}
variable {h h₀ : List ManagerEvent} {op : ManagerOp} {es : List ManagerEvent}
variable {type : SokFreshnessType} {truncated : FVContainer} {attempts : UInt16}
variable {P : Guard AFreshnessValueManagerImpl ManagerOp ManagerEvent}

/-! ## The counter under the calls -/

/-- The identifier has an entry with a counter of `length` bytes, which stands at
`counter`. -/
structure CounterAt (s : AFreshnessValueManagerImpl) (id : SokFreshnessValueId)
    (length : UInt8) (counter : ByteVector) : Prop where
  entry : ∃ a, s.attributes id = some a ∧ a.sessionCounterLength = length ∧
    a.sessionCounterLastUsed = counter
  nonempty : length ≠ 0

variable {length : UInt8} {counter : ByteVector}

theorem CounterAt.getSessionCounter (hcounter : CounterAt s id length counter) :
    s.mAttrMgr.getSessionCounter id = counter := by
  obtain ⟨a, ha, hlength, hlast⟩ := hcounter.entry
  have ha' : s.mAttrMgr.mAttributesMap.lookup id = some a := ha
  rw [FvmRuntimeAttributesManager.getSessionCounter, ha']
  show counterOf a = counter
  rw [counterOf, if_pos (by rw [hlength]; exact hcounter.nonempty), hlast]

theorem CounterAt.getNextSessionCounter (hcounter : CounterAt s id length counter) :
    s.mAttrMgr.getNextSessionCounter id = Odometer.turn 0 counter := by
  obtain ⟨a, ha, hlength, hlast⟩ := hcounter.entry
  have ha' : s.mAttrMgr.mAttributesMap.lookup id = some a := ha
  have hlong : a.sessionCounterLength ≠ 0 := by
    rw [hlength]
    exact hcounter.nonempty
  rw [FvmRuntimeAttributesManager.getNextSessionCounter, ha']
  show counterOf (countUp a) = Odometer.turn 0 counter
  rw [countUp, if_pos hlong, counterOf, if_pos hlong, hlast, incrementByteArray_eq_turn]

/-- A counter stays when its bytes and its length stay. -/
theorem CounterAt.of_entry (hcounter : CounterAt s id length counter)
    (hsame : ∀ a, s.attributes id = some a → ∃ a', s'.attributes id = some a' ∧
      a'.sessionCounterLength = a.sessionCounterLength ∧
      a'.sessionCounterLastUsed = a.sessionCounterLastUsed) :
    CounterAt s' id length counter := by
  obtain ⟨a, ha, hlength, hlast⟩ := hcounter.entry
  obtain ⟨a', ha', hlength', hlast'⟩ := hsame a ha
  exact ⟨⟨a', ha', hlength'.trans hlength, hlast'.trans hlast⟩, hcounter.nonempty⟩

theorem CounterAt.of_attributes (hcounter : CounterAt s id length counter)
    (hsame : s'.attributes id = s.attributes id) : CounterAt s' id length counter :=
  hcounter.of_entry fun a ha => ⟨a, hsame.trans ha, rfl, rfl⟩

theorem counterOf_setEvent {event : EventType} {value : UInt64} {a : SokFmRuntimeAttributes} :
    (setEvent event value a).sessionCounterLength = a.sessionCounterLength ∧
      (setEvent event value a).sessionCounterLastUsed = a.sessionCounterLastUsed := by
  cases event with
  | _ => exact ⟨rfl, rfl⟩

theorem counterOf_activate {time : UInt64} {a : SokFmRuntimeAttributes} :
    (activate time a).sessionCounterLength = a.sessionCounterLength ∧
      (activate time a).sessionCounterLastUsed = a.sessionCounterLastUsed := by
  unfold activate
  split
  · exact ⟨rfl, rfl⟩
  · exact ⟨rfl, rfl⟩

theorem CounterAt.updateEvent (hcounter : CounterAt s id length counter) {event : EventType}
    {value : UInt64} :
    CounterAt { s with mAttrMgr := s.mAttrMgr.updateEvent event id value } id length counter := by
  apply hcounter.of_entry
  intro a ha
  have ha' : s.mAttrMgr.entry id = some a := ha
  refine ⟨setEvent event value a, ?_, counterOf_setEvent⟩
  show (s.mAttrMgr.updateEvent event id value).entry id = _
  rw [entry_updateEvent_self, ha']
  rfl

/-- Only the two freshness requests of an identifier can move its counter. -/
theorem CounterAt.managerNext_of_ne (hcounter : CounterAt s id length counter)
    (hrx : ∀ truncated attempts, op ≠ .getRxFreshness id truncated attempts)
    (htx : op ≠ .getTxFreshness id) : CounterAt (managerNext s op).1 id length counter := by
  by_cases hsubject : op.subject = some id
  · cases op with
    | getRxFreshness id' truncated attempts =>
      cases hsubject
      exact absurd rfl (hrx truncated attempts)
    | getTxFreshness id' =>
      cases hsubject
      exact absurd rfl htx
    | verificationStatusCallout status =>
      cases hsubject
      show CounterAt (s.verificationStatusCallout status) status.fvId length counter
      rcases verificationStatusCallout_effect (s := s) status with heq | heq | heq
      · rw [heq]
        exact hcounter
      · rw [heq]
        exact hcounter.of_attributes rfl
      · rw [heq]
        exact hcounter.updateEvent.of_attributes rfl
    | sPduTxConfirmation id' =>
      cases hsubject
      exact hcounter.updateEvent
    | _ => cases hsubject
  · exact hcounter.of_attributes (sameEntries_managerNext hsubject).attributes

/-! ## The counter under a reception -/

theorem CounterAt.countedUp (hcounter : CounterAt s id length counter)
    (hsame : ∀ a, s.attributes id = some a → ∃ a', s'.attributes id = some a' ∧
      a'.sessionCounterLength = (countUp a).sessionCounterLength ∧
      a'.sessionCounterLastUsed = (countUp a).sessionCounterLastUsed) :
    CounterAt s' id length (Odometer.turn 0 counter) := by
  obtain ⟨a, ha, hlength, hlast⟩ := hcounter.entry
  obtain ⟨a', ha', hlength', hlast'⟩ := hsame a ha
  have hlong : a.sessionCounterLength ≠ 0 := by
    rw [hlength]
    exact hcounter.nonempty
  rw [countUp, if_pos hlong] at hlength' hlast'
  refine ⟨⟨a', ha', hlength'.trans hlength, ?_⟩, hcounter.nonempty⟩
  rw [hlast', hlast, incrementByteArray_eq_turn]

/-- A refused reception whose counter matched has moved the counter. -/
theorem CounterAt.consumed (hcounter : CounterAt s id length counter) :
    CounterAt (s.consumeSessionCounter id .kVwSokFreshnessValueSessionReceiver) id length
      (Odometer.turn 0 counter) := by
  apply hcounter.countedUp
  intro a ha
  refine ⟨_, ?_, rfl, rfl⟩
  rw [attributes_consumeSessionCounter, ha]
  rfl

theorem CounterAt.accepted (hcounter : CounterAt s id length counter) :
    CounterAt (s.acceptReception id .kVwSokFreshnessValueSessionReceiver) id length
      (Odometer.turn 0 counter) := by
  apply hcounter.countedUp
  intro a ha
  refine ⟨setEvent .kVerifyReq s.mFV (activate s.mTimeSinceInit (countUp a)), ?_, ?_, ?_⟩
  · rw [attributes_acceptReception, ha]
    rfl
  · rw [counterOf_setEvent.1, counterOf_activate.1]
  · rw [counterOf_setEvent.2, counterOf_activate.2]

/-- A reception without a cached list moves the counter when its own is the
successor, whether it is accepted or not. -/
theorem CounterAt.getRxFv_uncached (hcounter : CounterAt s id length counter)
    (hcached : s.candidates id = none) (truncated : FVContainer) (attempts : UInt16) :
    CounterAt (s.getRxFv id .kVwSokFreshnessValueSessionReceiver truncated attempts).2 id length
      (if attempts = 0 ∧ truncated = Odometer.turn 0 counter then Odometer.turn 0 counter
        else counter) := by
  rw [getRxFv_of_uncached hcached, hcounter.getNextSessionCounter]
  by_cases hattempts : attempts = 0
  · by_cases htruncated : truncated = Odometer.turn 0 counter
    · have hmatch : attempts = 0 ∧ truncated = Odometer.turn 0 counter :=
        ⟨hattempts, htruncated⟩
      rw [if_neg (not_not_intro hattempts), if_neg (fun hne => hne.2 htruncated), if_pos hmatch]
      split_ifs
      · exact hcounter.consumed
      · exact hcounter.consumed
      · exact hcounter.accepted
    · have hno : ¬ (attempts = 0 ∧ truncated = Odometer.turn 0 counter) :=
        fun hmatch => htruncated hmatch.2
      rw [if_neg (not_not_intro hattempts), if_pos (And.intro rfl htruncated), if_neg hno]
      exact hcounter
  · have hno : ¬ (attempts = 0 ∧ truncated = Odometer.turn 0 counter) :=
      fun hmatch => hattempts hmatch.1
    rw [if_pos hattempts, if_neg hno]
    exact hcounter

/-- The freshness value lets a reception of the identifier be judged. -/
def FvUsable (s : AFreshnessValueManagerImpl) (id : SokFreshnessValueId) : Prop :=
  ¬ NoFreshness s ∧ s.fvTooOld id = false

instance : Decidable (FvUsable s id) := inferInstanceAs (Decidable (_ ∧ _))

/-- With a usable freshness value the counter alone decides. -/
theorem getRxFv_of_usable (hcounter : CounterAt s id length counter)
    (hcached : s.candidates id = none) (husable : FvUsable s id) :
    s.getRxFv id .kVwSokFreshnessValueSessionReceiver (Odometer.turn 0 counter) 0 =
      (.ok (serializeCandidate (s.rxCandidateList id) 0 (Odometer.turn 0 counter)),
        s.acceptReception id .kVwSokFreshnessValueSessionReceiver) := by
  have hfresh : (!s.mIsFvValid && s.validTimeoutPassed) = false := by
    rw [Bool.eq_false_iff]
    intro hexpired
    rw [Bool.and_eq_true, Bool.not_eq_true'] at hexpired
    exact husable.1 ⟨hexpired.1, validTimeoutPassed_iff.mp hexpired.2⟩
  rw [getRxFv_of_uncached hcached, hcounter.getNextSessionCounter, hfresh, husable.2,
    if_neg (not_not_intro rfl), if_neg (fun hne => hne.2 rfl), if_neg Bool.false_ne_true,
    if_neg Bool.false_ne_true]

/-! ## The starts of receptions -/

/-- The counter of a message that started a successful reception of `id`. -/
def startOf (id : SokFreshnessValueId) : ManagerEvent → Option ByteVector
  | .rx id' truncated attempts (.ok _) => if id' = id ∧ attempts = 0 then some truncated else none
  | _ => none

/-- The counters that started successful receptions, the newest first. -/
def starts (id : SokFreshnessValueId) (h : List ManagerEvent) : List ByteVector :=
  h.filterMap (startOf id)

/-- The discipline under which the counter protects the receptions of `id`.  An
attempt that is answered from a cached list is not a first attempt and belongs to
the message that was accepted last; and when a counter matches, the freshness
value is usable. -/
def SessionDiscipline (id : SokFreshnessValueId) :
    Guard AFreshnessValueManagerImpl ManagerOp ManagerEvent := fun s _ op =>
  ∀ truncated attempts, op = .getRxFreshness id truncated attempts →
    (∀ rxCandList, s.candidates id = some rxCandList → attempts.toNat < rxCandList.length →
      attempts ≠ 0 ∧ truncated = s.mAttrMgr.getSessionCounter id) ∧
    (s.candidates id = none → attempts = 0 →
      truncated = s.mAttrMgr.getNextSessionCounter id → FvUsable s id)

instance (id : SokFreshnessValueId) (s : AFreshnessValueManagerImpl) (h : List ManagerEvent) :
    DecidablePred (SessionDiscipline id s h)
  | .getRxFreshness id' truncated attempts => decidable_of_iff
      (id' = id → (∀ rxCandList ∈ s.candidates id, attempts.toNat < rxCandList.length →
          attempts ≠ 0 ∧ truncated = s.mAttrMgr.getSessionCounter id) ∧
        (s.candidates id = none → attempts = 0 →
          truncated = s.mAttrMgr.getNextSessionCounter id → FvUsable s id))
      ⟨fun hkept _ _ hop => by cases hop; exact hkept rfl,
        fun hmeets hid => hmeets truncated attempts (by rw [hid])⟩
  | .getTxFreshness _ | .verificationStatusCallout _ | .sPduTxConfirmation _
  | .triggerCrRequest _ _ _ | .offerCrRequest _ _ | .incomingChallengeSignal _ _
  | .incTimers | .adoptFv _ | .invalidateFv => .isTrue nofun

/-- The counter stands at the last start, and the starts are the rows that an
odometer visits from zero. -/
def SessionTrace (id : SokFreshnessValueId) (length : UInt8) (s : AFreshnessValueManagerImpl)
    (h : List ManagerEvent) : Prop :=
  ∃ k, CounterAt s id length ((Odometer.turn 0)^[k] (List.replicate length.toNat 0)) ∧
    starts id h = Odometer.visited 0 (List.replicate length.toNat 0) k ∧
    ((s.candidates id).isSome → k ≠ 0)

theorem starts_cons_error {id' : SokFreshnessValueId} {failure : FreshnessFailure} :
    starts id (.rx id' truncated attempts (.error failure) :: h) = starts id h :=
  List.filterMap_cons_none rfl

theorem starts_cons_later {result : FreshnessResult} (hattempts : attempts ≠ 0) :
    starts id (.rx id truncated attempts result :: h) = starts id h := by
  cases result with
  | ok fv => exact List.filterMap_cons_none (if_neg fun hboth => hattempts hboth.2)
  | error failure => exact starts_cons_error

theorem starts_cons_start {fv : FVContainer} :
    starts id (.rx id truncated 0 (.ok fv) :: h) = truncated :: starts id h :=
  List.filterMap_cons_some (if_pos ⟨rfl, rfl⟩)

theorem starts_of_ne (hrx : ∀ truncated attempts, op ≠ .getRxFreshness id truncated attempts) :
    starts id ((managerNext s op).2 ++ h) = starts id h := by
  cases op with
  | getRxFreshness id' truncated attempts =>
    have hne : ¬ (id' = id ∧ attempts = 0) := by
      rintro ⟨rfl, -⟩
      exact hrx truncated attempts rfl
    show starts id (.rx id' truncated attempts _ :: h) = starts id h
    cases (s.getRxFreshness id' truncated attempts).1 with
    | ok fv => exact List.filterMap_cons_none (if_neg hne)
    | error failure => exact starts_cons_error
  | _ => rfl

/-- What the session counter is for.  At a successful first attempt the counter
of the message is the successor and the receiver's counter moves to it; a
successful later attempt belongs to the message that started the reception; and
among any `256 ^ length` consecutive starts no counter occurs twice. -/
structure ReplayProtected (s : AFreshnessValueManagerImpl) (h : List ManagerEvent)
    (id : SokFreshnessValueId) (length : UInt8) (truncated : FVContainer) (attempts : UInt16) :
    Prop where
  start : attempts = 0 → ∀ fv, (s.getRxFreshness id truncated attempts).1 = .ok fv →
    truncated = s.mAttrMgr.getNextSessionCounter id ∧
      (s.getRxFreshness id truncated attempts).2.mAttrMgr.getSessionCounter id =
        s.mAttrMgr.getNextSessionCounter id
  later : attempts ≠ 0 → ∀ fv, (s.getRxFreshness id truncated attempts).1 = .ok fv →
    (starts id h).head? = some truncated
  noRepeat : ∀ i j t, i < j → j < i + 256 ^ length.toNat → (starts id h)[i]? = some t →
    (starts id h)[j]? ≠ some t

/-- Step lemma: the discipline keeps counter and starts together. -/
theorem SessionTrace.step (htrace : SessionTrace id length s h) (hinit : s.mInitialized = true)
    (htype : s.mFvmConfAccessor.getEntryTypeByFvId id =
      .ok .kVwSokFreshnessValueSessionReceiver)
    (hdiscipline : SessionDiscipline id s h op) :
    SessionTrace id length (managerNext s op).1 ((managerNext s op).2 ++ h) := by
  obtain ⟨k, hcounter, hstarts, hstarted⟩ := htrace
  by_cases hget : ∃ truncated attempts, op = .getRxFreshness id truncated attempts
  · obtain ⟨truncated, attempts, rfl⟩ := hget
    obtain ⟨hlater, husable⟩ := hdiscipline truncated attempts rfl
    show SessionTrace id length (s.getRxFreshness id truncated attempts).2
      (.rx id truncated attempts (s.getRxFreshness id truncated attempts).1 :: h)
    rw [getRxFreshness_eq hinit htype (Or.inr rfl)]
    cases hcached : s.candidates id with
    | some rxCandList =>
      rw [getRxFv_of_cached hcached]
      split
      · refine ⟨k, hcounter, ?_, hstarted⟩
        rw [starts_cons_error, hstarts]
      · rename_i hshort
        have hattempts := (hlater rxCandList hcached (by omega)).1
        refine ⟨k, hcounter, ?_, hstarted⟩
        rw [starts_cons_later hattempts, hstarts]
    | none =>
      by_cases hattempts : attempts = 0
      · subst hattempts
        by_cases hmatch : truncated = s.mAttrMgr.getNextSessionCounter id
        · -- the one case in which a reception starts: everything moves by one
          have hjudged := husable hcached rfl hmatch
          rw [hcounter.getNextSessionCounter] at hmatch
          subst hmatch
          rw [getRxFv_of_usable hcounter hcached hjudged]
          refine ⟨k + 1, ?_, ?_, fun _ => Nat.succ_ne_zero k⟩
          · rw [Function.iterate_succ_apply']
            exact hcounter.accepted
          · rw [starts_cons_start, hstarts, Odometer.visited_succ, Function.iterate_succ_apply']
        · rw [getRxFv_of_uncached hcached, if_neg (not_not_intro rfl),
            if_pos (And.intro rfl hmatch)]
          refine ⟨k, hcounter, ?_, hstarted⟩
          rw [starts_cons_error, hstarts]
      · rw [getRxFv_of_uncached hcached, if_pos hattempts]
        refine ⟨k, hcounter, ?_, hstarted⟩
        rw [starts_cons_error, hstarts]
  · have hrx : ∀ truncated attempts, op ≠ .getRxFreshness id truncated attempts :=
      fun truncated attempts heq => hget ⟨truncated, attempts, heq⟩
    refine ⟨k, ?_, ?_, fun hsome => hstarted (candidates_isSome_of_step hrx hsome)⟩
    · by_cases htx : op = .getTxFreshness id
      · subst htx
        show CounterAt (s.getTxFreshness id).2 id length _
        rw [getTxFreshness_of_receiver hinit htype]
        exact hcounter
      · exact hcounter.managerNext_of_ne hrx htx
    · rw [starts_of_ne hrx, hstarts]

/-- The number of counter bytes that is configured for an identifier. -/
def counterLength (s₀ : AFreshnessValueManagerImpl) (id : SokFreshnessValueId) : UInt8 :=
  (freshAttributes s₀.mFvmConfAccessor id).sessionCounterLength

theorem counterAt_start (hinit : FreshlyInitialised s₀) (hentry : (s₀.attributes id).isSome)
    (hlength : counterLength s₀ id ≠ 0) :
    CounterAt s₀ id (counterLength s₀ id) (List.replicate (counterLength s₀ id).toNat 0) := by
  obtain ⟨a, ha⟩ := Option.isSome_iff_exists.mp hentry
  refine ⟨⟨a, ha, ?_, ?_⟩, hlength⟩
  · rw [hinit.attributes ha]
    rfl
  · rw [hinit.attributes ha]
    rfl

/-- Run lemma: under the discipline counter and starts stay together. -/
theorem sessionTrace_of_run (hinit : FreshlyInitialised s₀)
    (htype : s₀.mFvmConfAccessor.getEntryTypeByFvId id =
      .ok .kVwSokFreshnessValueSessionReceiver)
    (hentry : (s₀.attributes id).isSome) (hlength : counterLength s₀ id ≠ 0)
    (hrun : Run managerStep (SessionDiscipline id) s₀ [] s h) :
    SessionTrace id (counterLength s₀ id) s h := by
  have hboth : Tracked s₀ id s ∧ SessionTrace id (counterLength s₀ id) s h := by
    refine hrun.invariant (fun s h => Tracked s₀ id s ∧ SessionTrace id (counterLength s₀ id) s h)
      ⟨hinit.tracked hentry, 0, counterAt_start hinit hentry hlength, rfl, ?_⟩ ?_
    · intro hsome
      rw [hinit.candidates id] at hsome
      cases hsome
    · rintro s h op s' es ⟨htracked, htrace⟩ hmeets hstep
      refine ⟨htracked.step hstep, ?_⟩
      have hnext : managerNext s op = (s', es) := Except.ok.inj hstep
      have hstep' := htrace.step htracked.mInitialized
        (by rw [htracked.mFvmConfAccessor, htype]) hmeets
      rw [hnext] at hstep'
      exact hstep'
  exact hboth.2

/-- In every run that keeps the session discipline, the session counter protects
every reception that keeps it. -/
theorem session_replay_protection (hinit : FreshlyInitialised s₀)
    (htype : s₀.mFvmConfAccessor.getEntryTypeByFvId id =
      .ok .kVwSokFreshnessValueSessionReceiver)
    (hentry : (s₀.attributes id).isSome) (hlength : counterLength s₀ id ≠ 0)
    (hrun : Run managerStep (SessionDiscipline id) s₀ [] s h)
    (hmeets : SessionDiscipline id s h (.getRxFreshness id truncated attempts)) :
    ReplayProtected s h id (counterLength s₀ id) truncated attempts := by
  have htracked : Tracked s₀ id s := tracked_of_run hinit hentry hrun
  have htype' : s.mFvmConfAccessor.getEntryTypeByFvId id =
      .ok .kVwSokFreshnessValueSessionReceiver := by
    rw [htracked.mFvmConfAccessor, htype]
  obtain ⟨k, hcounter, hstarts, hstarted⟩ :=
    sessionTrace_of_run hinit htype hentry hlength hrun
  obtain ⟨hlater, husable⟩ := hmeets truncated attempts rfl
  have hanswer : s.getRxFreshness id truncated attempts = _ :=
    getRxFreshness_eq htracked.mInitialized htype' (Or.inr rfl)
  refine ⟨?_, ?_, ?_⟩
  · intro hattempts fv hok
    subst hattempts
    rw [hanswer] at hok ⊢
    cases hcached : s.candidates id with
    | some rxCandList =>
      rw [getRxFv_of_cached hcached] at hok
      split at hok
      · cases hok
      · rename_i hshort
        exact absurd rfl (hlater rxCandList hcached (by omega)).1
    | none =>
      by_cases hmatch : truncated = s.mAttrMgr.getNextSessionCounter id
      · have hjudged := husable hcached rfl hmatch
        refine ⟨hmatch, ?_⟩
        rw [hcounter.getNextSessionCounter] at hmatch ⊢
        subst hmatch
        rw [getRxFv_of_usable hcounter hcached hjudged]
        exact hcounter.accepted.getSessionCounter
      · rw [getRxFv_of_uncached hcached, if_neg (not_not_intro rfl),
          if_pos (And.intro rfl hmatch)] at hok
        cases hok
  · intro hattempts fv hok
    rw [hanswer] at hok
    cases hcached : s.candidates id with
    | some rxCandList =>
      rw [getRxFv_of_cached hcached] at hok
      split at hok
      · cases hok
      · rename_i hshort
        have hsame := (hlater rxCandList hcached (by omega)).2
        obtain ⟨j, rfl⟩ : ∃ j, k = j + 1 :=
          Nat.exists_eq_succ_of_ne_zero (hstarted (by rw [hcached]; rfl))
        rw [hstarts, Odometer.visited_succ, hsame, hcounter.getSessionCounter]
        rfl
    | none =>
      rw [getRxFv_of_uncached hcached, if_pos hattempts] at hok
      cases hok
  · intro i j t hij hnear hi
    rw [hstarts] at hi ⊢
    refine Odometer.visited_distinct hij ?_ hi
    rw [List.length_replicate]
    exact hnear

/-- One identifier of a session receiver, with a counter of one byte, beside a
challenge. -/
def oneSessionReceiverId : FreshnessValueManagerConfigAccessor :=
  .ofEntries [(0, ⟨.kVwSokFreshnessValueSessionReceiver, 0, 1⟩)]
    [(1, ⟨.kVwSokFreshnessCrChallenge, default⟩)]

/-- The third message of a session, after two that were accepted and verified: it moves
the counter on, and the two have started with different ones. -/
theorem session_replay_protection_after_verified :
    ∃ s h, Run managerStep (SessionDiscipline 0) (initialisedManager oneSessionReceiverId) [] s h ∧
      starts 0 h = [[2], [1]] ∧ ReplayProtected s h 0 1 [3] 0 ∧
      (s.getRxFreshness 0 [3] 0).2.mAttrMgr.getSessionCounter 0 = [3] := by
  obtain ⟨s, h, hrun, hstarts, hmeets, hnext, haccepted⟩ : ∃ s h,
      Run managerStep (SessionDiscipline 0) (initialisedManager oneSessionReceiverId) [] s h ∧
        starts 0 h = [[2], [1]] ∧ SessionDiscipline 0 s h (.getRxFreshness 0 [3] 0) ∧
        s.mAttrMgr.getNextSessionCounter 0 = [3] ∧
        (s.getRxFreshness 0 [3] 0).1 = .ok (uintToByteVector sokUpstartTime ++ [3]) :=
    Run.exists_of_exec_of_meets
      ([.adoptFv 1000, .getRxFreshness 0 [1] 0, .getRxFreshness 0 [1] 1,
          .verificationStatusCallout ⟨0, true⟩, .getRxFreshness 0 [2] 0,
          .verificationStatusCallout ⟨0, true⟩] ++
        List.replicate 10 .incTimers) (by decide +kernel) (by decide +kernel)
  have hprotected : ReplayProtected s h 0 1 [3] 0 :=
    session_replay_protection (freshlyInitialised_initialisedManager rfl) rfl rfl (by decide)
      hrun hmeets
  have hmoved := (hprotected.start rfl _ haccepted).2
  exact ⟨s, h, hrun, hstarts, hprotected, hmoved.trans hnext⟩

/-- The first message of a session can be replayed: after a failed verification
the same counter starts a second successful reception. -/
theorem session_replay_after_failed_verification :
    FreshlyInitialised (initialisedManager oneSessionReceiverId) ∧
    oneSessionReceiverId.getEntryTypeByFvId 0 = .ok .kVwSokFreshnessValueSessionReceiver ∧
    ((initialisedManager oneSessionReceiverId).attributes 0).isSome ∧
    counterLength (initialisedManager oneSessionReceiverId) 0 = 1 ∧
    ∃ s h, Run managerStep Anything (initialisedManager oneSessionReceiverId) [] s h ∧
      starts 0 h = [[1]] ∧ (∃ fv, (s.getRxFreshness 0 [1] 0).1 = .ok fv) ∧
      ¬ ReplayProtected s h 0 1 [1] 0 := by
  refine ⟨freshlyInitialised_initialisedManager rfl, rfl, rfl, rfl, ?_⟩
  let ops : List ManagerOp :=
    [.getRxFreshness 0 [1] 0, .verificationStatusCallout ⟨0, false⟩]
  obtain ⟨s, h, hrun, hstarts, hnext, haccepted⟩ : ∃ s h,
      Run managerStep Anything (initialisedManager oneSessionReceiverId) [] s h ∧
        starts 0 h = [[1]] ∧ s.mAttrMgr.getNextSessionCounter 0 = [2] ∧
        (s.getRxFreshness 0 [1] 0).1 = .ok (uintToByteVector sokUpstartTime ++ [1]) :=
    Run.exists_of_exec ops (by decide +kernel)
  refine ⟨s, h, hrun, hstarts, ⟨_, haccepted⟩, ?_⟩
  intro hprotected
  have hsuccessor := (hprotected.start rfl _ haccepted).1
  rw [hnext] at hsuccessor
  cases hsuccessor

end Sok.Fvm
