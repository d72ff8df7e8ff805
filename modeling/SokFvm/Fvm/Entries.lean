import SokFvm.Fvm.Manager

/-!
# What a call does to one identifier

Every property of the freshness interfaces follows one identifier through a run,
so this module says once what each function of the manager does to the two table
entries of an identifier: the cached candidate list, `candidates`, and the
runtime attributes, `attributes`.

There are four groups.

* The shape of `getRxFv`.  `getRxFv_of_cached` and `getRxFv_of_uncached` are its
  two halves: with a cached list the answer comes from the list and nothing
  changes, and without one an accepted reception caches `rxCandidateList`.
* Which path serves which type: `getRxFreshness_eq` and `getTxFreshness_eq`, and
  the two types that one of the interfaces refuses.
* Frames.  `SameContext` is what no freshness call changes at all, and
  `SameEntries` is what a call that works on another identifier leaves alone.
* `Evolves`, the effect that any call can have on an entry of the attribute
  table: the configured counter length stays, an active entry stays active with
  its time, and an entry that becomes active is given the current time.
-/

namespace Sok.Fvm.AFreshnessValueManagerImpl

open Sok.Common FvmRuntimeAttributesManager

/-- The candidate list that is cached for an identifier. -/
def candidates (s : AFreshnessValueManagerImpl) (id : SokFreshnessValueId) :
    Option (List UInt64) :=
  s.mFvRxCandidates.lookup id

/-- The runtime attributes of an identifier. -/
def attributes (s : AFreshnessValueManagerImpl) (id : SokFreshnessValueId) :
    Option SokFmRuntimeAttributes :=
  s.mAttrMgr.entry id

variable {s : AFreshnessValueManagerImpl} {id id' : SokFreshnessValueId}
variable {type : SokFreshnessType} {truncated : FVContainer} {attempts : UInt16}

/-! ## The shape of `getRxFv` -/

/-- The candidate list that a new reception builds. -/
def rxCandidateList (s : AFreshnessValueManagerImpl) (id : SokFreshnessValueId) : List UInt64 :=
  if !s.mIsFvValid then [sokUpstartTime]
  else if !s.mAttrMgr.isActive id ||
      decide (s.mTimeSinceInit - s.mAttrMgr.getEvent .kFirstActivity id ≤
        sokFmTimeValidTimeoutMs.toUInt64) then
    sokUpstartTime :: s.neighbours
  else s.neighbours

/-- The activation of an identifier that is used for the first time. -/
def activateOnFirstUse (s : AFreshnessValueManagerImpl) (id : SokFreshnessValueId) :
    AFreshnessValueManagerImpl :=
  if !s.mAttrMgr.isActive id then s.setActive id else s

/-- The freshness value is older than the first use of the identifier. -/
def fvTooOld (s : AFreshnessValueManagerImpl) (id : SokFreshnessValueId) : Bool :=
  s.mIsFvValid && s.mAttrMgr.isActive id &&
    decide (s.mFV < s.mAttrMgr.getEvent .kFirstActivity id)

/-- The state after a reception is accepted. -/
def acceptReception (s : AFreshnessValueManagerImpl) (id : SokFreshnessValueId)
    (type : SokFreshnessType) : AFreshnessValueManagerImpl :=
  let s' := ((s.consumeSessionCounter id type).activateOnFirstUse id).setRxCandidates id
    (s.rxCandidateList id)
  { s' with mAttrMgr := s'.mAttrMgr.updateEvent .kVerifyReq id s'.mFV }

theorem candidates_setRxCandidates_self (rxCandList : List UInt64) :
    (s.setRxCandidates id rxCandList).candidates id = some rxCandList :=
  AList.lookup_insert _

theorem candidates_setRxCandidates_ne (hne : id' ≠ id) (rxCandList : List UInt64) :
    (s.setRxCandidates id rxCandList).candidates id' = s.candidates id' :=
  AList.lookup_insert_ne hne

theorem rxCandidateList_ne_nil : s.rxCandidateList id ≠ [] := by
  unfold rxCandidateList neighbours
  split
  · exact List.cons_ne_nil _ _
  · split
    · exact List.cons_ne_nil _ _
    · exact List.cons_ne_nil _ _

/-- A session counter is incremented in the runtime attributes only. -/
theorem consumeSessionCounter_eq : s.consumeSessionCounter id type =
    { s with mAttrMgr := (s.consumeSessionCounter id type).mAttrMgr } := by
  unfold consumeSessionCounter
  split
  · rfl
  · rfl

theorem isActive_consumeSessionCounter :
    (s.consumeSessionCounter id type).mAttrMgr.isActive id = s.mAttrMgr.isActive id := by
  unfold consumeSessionCounter
  split
  · rw [isActive_eq, isActive_eq, entry_incSessionCounter_self, Option.map_map]
    congr 2
    funext a
    show (countUp a).valueIsActive = a.valueIsActive
    unfold countUp
    split <;> rfl
  · rfl

theorem getEvent_kFirstActivity_eq {mgr : FvmRuntimeAttributesManager} :
    mgr.getEvent .kFirstActivity id = ((mgr.entry id).map (·.firstUsed)).getD 0 := by
  unfold getEvent entry
  split
  · rename_i hnone
    rw [hnone]
    rfl
  · rename_i hsome
    rw [hsome]
    rfl

theorem firstActivity_consumeSessionCounter :
    (s.consumeSessionCounter id type).mAttrMgr.getEvent .kFirstActivity id =
      s.mAttrMgr.getEvent .kFirstActivity id := by
  unfold consumeSessionCounter
  split
  · rw [getEvent_kFirstActivity_eq, getEvent_kFirstActivity_eq, entry_incSessionCounter_self,
      Option.map_map]
    congr 2
    funext a
    show (countUp a).firstUsed = a.firstUsed
    unfold countUp
    split <;> rfl
  · rfl

theorem getRxFv_of_cached {rxCandList : List UInt64} (hcached : s.candidates id = some rxCandList) :
    s.getRxFv id type truncated attempts =
      if rxCandList.length ≤ attempts.toNat then (.error .invalidAttempts, s)
      else (.ok (serializeCandidate rxCandList attempts truncated), s) := by
  unfold candidates at hcached
  rw [getRxFv, hcached]

/-- `buildRxCandidates` in a state in which the freshness value is usable. -/
theorem buildRxCandidates_eq (husable : (!s.mIsFvValid && s.validTimeoutPassed) = false) :
    s.buildRxCandidates id =
      if s.fvTooOld id then .error .fvBeforeFirstActivity
      else .ok ((s.activateOnFirstUse id).setRxCandidates id (s.rxCandidateList id)) := by
  unfold buildRxCandidates fvTooOld rxCandidateList activateOnFirstUse
  cases hactive : s.mAttrMgr.isActive id with
  | false =>
    have hvalid' : (s.setActive id).mIsFvValid = s.mIsFvValid := rfl
    have hpassed' : (s.setActive id).validTimeoutPassed = s.validTimeoutPassed := rfl
    have hneighbours' : (s.setActive id).neighbours = s.neighbours := rfl
    simp only [Bool.not_false, if_true, hvalid', hpassed', hneighbours', Bool.and_false,
      Bool.false_and, Bool.false_eq_true, if_false, Bool.true_or]
    cases hvalid : s.mIsFvValid with
    | false =>
      rw [hvalid, Bool.not_false, Bool.true_and] at husable
      rw [husable]
      rfl
    | true => rfl
  | true =>
    cases hvalid : s.mIsFvValid with
    | false =>
      rw [hvalid, Bool.not_false, Bool.true_and] at husable
      simp only [Bool.not_true, Bool.false_eq_true, if_false, hvalid, husable]
      rfl
    | true =>
      simp only [Bool.not_true, Bool.false_eq_true, if_false, hvalid, Bool.false_and, if_true,
        Bool.true_and, Bool.false_or, decide_eq_true_eq]
      split
      · rfl
      · split
        · rfl
        · rfl

/-- Without a cached list an accepted reception caches `rxCandidateList` and
answers with its first entry. -/
theorem getRxFv_of_uncached (hcached : s.candidates id = none) :
    s.getRxFv id type truncated attempts =
      if attempts ≠ 0 then (.error .invalidAttempts, s)
      else if type = .kVwSokFreshnessValueSessionReceiver ∧
          truncated ≠ s.mAttrMgr.getNextSessionCounter id then
        (.error .sessionCounterMismatch, s)
      else if !s.mIsFvValid && s.validTimeoutPassed then
        (.error .noAuthFvAvailable, s.consumeSessionCounter id type)
      else if s.fvTooOld id then
        (.error .fvBeforeFirstActivity, s.consumeSessionCounter id type)
      else (.ok (serializeCandidate (s.rxCandidateList id) 0 truncated),
        s.acceptReception id type) := by
  unfold candidates at hcached
  rw [getRxFv, hcached]
  -- the reads of the build step are not changed by the increment of the counter
  have hconsume : (s.consumeSessionCounter id type).mIsFvValid = s.mIsFvValid ∧
      (s.consumeSessionCounter id type).mTimeSinceInit = s.mTimeSinceInit ∧
      (s.consumeSessionCounter id type).mFV = s.mFV ∧
      (s.consumeSessionCounter id type).mFvRxCandidates = s.mFvRxCandidates := by
    rw [consumeSessionCounter_eq]
    exact ⟨rfl, rfl, rfl, rfl⟩
  obtain ⟨hvalid, htime, hfv, hmap⟩ := hconsume
  have hpassed : (s.consumeSessionCounter id type).validTimeoutPassed = s.validTimeoutPassed := by
    rw [validTimeoutPassed, htime, validTimeoutPassed]
  have hold : (s.consumeSessionCounter id type).fvTooOld id = s.fvTooOld id := by
    rw [fvTooOld, fvTooOld, hvalid, hfv, isActive_consumeSessionCounter,
      firstActivity_consumeSessionCounter]
  have hlist : (s.consumeSessionCounter id type).rxCandidateList id = s.rxCandidateList id := by
    rw [rxCandidateList, rxCandidateList, hvalid, htime, isActive_consumeSessionCounter,
      firstActivity_consumeSessionCounter, neighbours, neighbours, hfv]
  by_cases hattempts : attempts = 0
  · subst hattempts
    simp only [ne_eq, not_true_eq_false, if_false, hvalid, hpassed]
    split
    · rfl
    · cases husable : (!s.mIsFvValid && s.validTimeoutPassed) with
      | true => rfl
      | false =>
        rw [buildRxCandidates_eq (by rw [hvalid, hpassed]; exact husable), hold, hlist]
        cases htooOld : s.fvTooOld id with
        | true => rfl
        | false =>
          have hfinal : AList.lookup id (((s.consumeSessionCounter id type).activateOnFirstUse
              id).setRxCandidates id (s.rxCandidateList id)).mFvRxCandidates =
              some (s.rxCandidateList id) := candidates_setRxCandidates_self _
          simp only [Bool.false_eq_true, if_false, UnorderedMap.getD, hfinal, Option.getD_some]
          rfl
  · simp only [ne_eq, hattempts, not_false_eq_true, if_true]

/-! ## Which type is served by which path -/

/-- The freshness types whose receptions go through `getRxFv`. -/
def IsRxFvType (type : SokFreshnessType) : Prop :=
  type = .kVwSokFreshnessValue ∨ type = .kVwSokFreshnessValueSessionReceiver

/-- For these types `GetRxFreshness` is `getRxFv`. -/
theorem getRxFreshness_eq (hinit : s.mInitialized = true)
    (htype : s.mFvmConfAccessor.getEntryTypeByFvId id = .ok type) (hrx : IsRxFvType type) :
    s.getRxFreshness id truncated attempts = s.getRxFv id type truncated attempts := by
  unfold getRxFreshness
  rw [hinit, htype]
  rcases hrx with rfl | rfl
  · rfl
  · rfl

/-- A reception changes nothing, or it is one on the freshness path. -/
theorem getRxFreshness_cases (id : SokFreshnessValueId) (truncated : FVContainer)
    (attempts : UInt16) : (s.getRxFreshness id truncated attempts).2 = s ∨
      ∃ type, s.mInitialized = true ∧ s.mFvmConfAccessor.getEntryTypeByFvId id = .ok type ∧
        IsRxFvType type ∧
        s.getRxFreshness id truncated attempts = s.getRxFv id type truncated attempts := by
  by_cases hpath : s.mInitialized = true ∧
      ∃ type, s.mFvmConfAccessor.getEntryTypeByFvId id = .ok type ∧ IsRxFvType type
  · obtain ⟨hinit, type, htype, hrx⟩ := hpath
    right
    exact ⟨type, hinit, htype, hrx, getRxFreshness_eq hinit htype hrx⟩
  · left
    unfold getRxFreshness
    split
    · rfl
    · rename_i hgo
      have hinit : s.mInitialized = true := by simpa using hgo
      split
      · rfl
      · split
        · rfl
        · rfl
      · rename_i htype
        exact absurd ⟨hinit, _, htype, Or.inr rfl⟩ hpath
      · rename_i htype
        exact absurd ⟨hinit, _, htype, Or.inl rfl⟩ hpath
      · rfl

/-- The types that `getTxFv` serves. -/
def IsTxFvType (type : SokFreshnessType) : Prop :=
  type = .kVwSokFreshnessValue ∨ type = .kVwSokFreshnessValueSessionSender

theorem getTxFreshness_eq (hinit : s.mInitialized = true)
    (htype : s.mFvmConfAccessor.getEntryTypeByFvId id = .ok type) (htx : IsTxFvType type) :
    s.getTxFreshness id = (.ok (s.getTxFv id type).1, (s.getTxFv id type).2) := by
  unfold getTxFreshness
  rw [hinit, htype]
  rcases htx with rfl | rfl
  · rfl
  · rfl

/-- No freshness is given out for sending on a receiver's identifier. -/
theorem getTxFreshness_of_receiver (hinit : s.mInitialized = true)
    (htype : s.mFvmConfAccessor.getEntryTypeByFvId id =
      .ok .kVwSokFreshnessValueSessionReceiver) :
    s.getTxFreshness id = (.error .notSupported, s) := by
  unfold getTxFreshness
  rw [hinit, htype]
  rfl

/-- No freshness is given out for receiving on a sender's identifier. -/
theorem getRxFreshness_of_sender (hinit : s.mInitialized = true)
    (htype : s.mFvmConfAccessor.getEntryTypeByFvId id =
      .ok .kVwSokFreshnessValueSessionSender) :
    s.getRxFreshness id truncated attempts = (.error .notSupported, s) := by
  unfold getRxFreshness
  rw [hinit, htype]
  rfl

theorem length_chooseTxFv : (s.chooseTxFv id).1.length = 8 := by
  unfold chooseTxFv
  split_ifs
  · exact length_uintToByteVector _
  · exact length_uintToByteVector _
  · exact length_uintToByteVector _
  · exact length_uintToByteVector _

/-- The first eight bytes for sending are the chosen freshness value. -/
theorem take_getTxFv (type : SokFreshnessType) :
    ((s.getTxFv id type).1).take 8 = (s.chooseTxFv id).1 := by
  by_cases htype : type = .kVwSokFreshnessValueSessionSender
  · rw [getTxFv, if_pos htype]
    exact List.take_left' length_chooseTxFv
  · rw [getTxFv, if_neg htype]
    exact List.take_of_length_le (Nat.le_of_eq length_chooseTxFv)

/-! ## Frames -/

/-- What no freshness call changes. -/
structure SameContext (s s' : AFreshnessValueManagerImpl) : Prop where
  mInitialized : s'.mInitialized = s.mInitialized
  mIsFvValid : s'.mIsFvValid = s.mIsFvValid
  mTimeSinceInit : s'.mTimeSinceInit = s.mTimeSinceInit
  mClockCount : s'.mClockCount = s.mClockCount
  mFV : s'.mFV = s.mFV
  mFvmConfAccessor : s'.mFvmConfAccessor = s.mFvmConfAccessor

/-- Both table entries of an identifier are the same. -/
structure SameEntries (s s' : AFreshnessValueManagerImpl) (id : SokFreshnessValueId) : Prop where
  candidates : s'.candidates id = s.candidates id
  attributes : s'.attributes id = s.attributes id

/-- The effect that calls at one time can have on an attribute entry. -/
structure Evolves (time : UInt64) (a a' : SokFmRuntimeAttributes) : Prop where
  counterLength : a'.sessionCounterLength = a.sessionCounterLength
  counterBytes : a'.sessionCounterLastUsed.length = a.sessionCounterLastUsed.length
  active : a.valueIsActive = true → a'.valueIsActive = true ∧ a'.firstUsed = a.firstUsed
  activated : a.valueIsActive = false → a'.valueIsActive = true → a'.firstUsed = time

/-- A call that works on one identifier. -/
structure WorksOn (s s' : AFreshnessValueManagerImpl) (id : SokFreshnessValueId) : Prop where
  context : SameContext s s'
  others : ∀ id', id' ≠ id → SameEntries s s' id'
  evolves : ∀ a, s.attributes id = some a →
    ∃ a', s'.attributes id = some a' ∧ Evolves s.mTimeSinceInit a a'

theorem Evolves.refl (time : UInt64) (a : SokFmRuntimeAttributes) : Evolves time a a where
  counterLength := rfl
  counterBytes := rfl
  active hactive := ⟨hactive, rfl⟩
  activated hinactive hactive := by
    rw [hinactive] at hactive
    cases hactive

theorem Evolves.trans {time : UInt64} {a b c : SokFmRuntimeAttributes}
    (hab : Evolves time a b) (hbc : Evolves time b c) : Evolves time a c where
  counterLength := hbc.counterLength.trans hab.counterLength
  counterBytes := hbc.counterBytes.trans hab.counterBytes
  active hactive := by
    obtain ⟨hb, hfirst⟩ := hab.active hactive
    obtain ⟨hc, hfirst'⟩ := hbc.active hb
    exact ⟨hc, hfirst'.trans hfirst⟩
  activated hinactive hactive := by
    cases hb : b.valueIsActive with
    | false => exact hbc.activated hb hactive
    | true => rw [(hbc.active hb).2, hab.activated hinactive hb]

theorem WorksOn.refl (s : AFreshnessValueManagerImpl) (id : SokFreshnessValueId) :
    WorksOn s s id where
  context := ⟨rfl, rfl, rfl, rfl, rfl, rfl⟩
  others _ _ := ⟨rfl, rfl⟩
  evolves a ha := ⟨a, ha, Evolves.refl _ a⟩

theorem WorksOn.trans {s s' s'' : AFreshnessValueManagerImpl} (first : WorksOn s s' id)
    (second : WorksOn s' s'' id) : WorksOn s s'' id where
  context :=
    { mInitialized := second.context.mInitialized.trans first.context.mInitialized
      mIsFvValid := second.context.mIsFvValid.trans first.context.mIsFvValid
      mTimeSinceInit := second.context.mTimeSinceInit.trans first.context.mTimeSinceInit
      mClockCount := second.context.mClockCount.trans first.context.mClockCount
      mFV := second.context.mFV.trans first.context.mFV
      mFvmConfAccessor := second.context.mFvmConfAccessor.trans first.context.mFvmConfAccessor }
  others id' hne :=
    { candidates := (second.others id' hne).candidates.trans (first.others id' hne).candidates
      attributes := (second.others id' hne).attributes.trans (first.others id' hne).attributes }
  evolves a ha := by
    obtain ⟨b, hb, hab⟩ := first.evolves a ha
    obtain ⟨c, hc, hbc⟩ := second.evolves b hb
    rw [first.context.mTimeSinceInit] at hbc
    exact ⟨c, hc, hab.trans hbc⟩

/-- A change of the attribute table that touches one entry, through a function
that respects `Evolves`. -/
theorem WorksOn.ofEntry {mgr : FvmRuntimeAttributesManager}
    {f : SokFmRuntimeAttributes → SokFmRuntimeAttributes}
    (hself : mgr.entry id = (s.mAttrMgr.entry id).map f)
    (hothers : ∀ id', id' ≠ id → mgr.entry id' = s.mAttrMgr.entry id')
    (hevolves : ∀ a, Evolves s.mTimeSinceInit a (f a)) :
    WorksOn s { s with mAttrMgr := mgr } id where
  context := ⟨rfl, rfl, rfl, rfl, rfl, rfl⟩
  others id' hne := ⟨rfl, hothers id' hne⟩
  evolves a ha := by
    refine ⟨f a, ?_, hevolves a⟩
    unfold attributes at ha ⊢
    rw [hself, ha]
    rfl

/-! ### The updates that the calls are made of -/

theorem evolves_activate (time : UInt64) (a : SokFmRuntimeAttributes) :
    Evolves time a (activate time a) := by
  unfold activate
  split
  · rename_i hinactive
    refine ⟨rfl, rfl, ?_, fun _ _ => rfl⟩
    intro hactive
    rw [hinactive] at hactive
    cases hactive
  · exact Evolves.refl time a

theorem evolves_countUp (time : UInt64) (a : SokFmRuntimeAttributes) :
    Evolves time a (countUp a) := by
  unfold countUp
  split
  · refine ⟨rfl, length_incrementByteArray _, fun hactive => ⟨hactive, rfl⟩, ?_⟩
    intro hinactive hactive
    rw [hinactive] at hactive
    cases hactive
  · exact Evolves.refl time a

theorem evolves_setEvent (time : UInt64) {event : EventType} (hevent : event ≠ .kFirstActivity)
    (value : UInt64) (a : SokFmRuntimeAttributes) : Evolves time a (setEvent event value a) := by
  have hsame : (setEvent event value a).sessionCounterLength = a.sessionCounterLength ∧
      (setEvent event value a).sessionCounterLastUsed = a.sessionCounterLastUsed ∧
      (setEvent event value a).valueIsActive = a.valueIsActive ∧
      (setEvent event value a).firstUsed = a.firstUsed := by
    cases event with
    | kFirstActivity => exact absurd rfl hevent
    | _ => exact ⟨rfl, rfl, rfl, rfl⟩
  obtain ⟨hlength, hcounter, hactive, hfirst⟩ := hsame
  refine ⟨hlength, by rw [hcounter], fun h => ⟨hactive.trans h, hfirst⟩, ?_⟩
  intro hinactive hactive'
  rw [hactive, hinactive] at hactive'
  cases hactive'

theorem worksOn_setActive : WorksOn s (s.setActive id) id :=
  WorksOn.ofEntry (entry_setActive_self _) (fun _ hne => entry_setActive_ne hne _)
    (evolves_activate _)

theorem worksOn_activateOnFirstUse : WorksOn s (s.activateOnFirstUse id) id := by
  unfold activateOnFirstUse
  split
  · exact worksOn_setActive
  · exact WorksOn.refl s id

theorem worksOn_incSessionCounter :
    WorksOn s { s with mAttrMgr := (s.mAttrMgr.incSessionCounter id).2 } id :=
  WorksOn.ofEntry entry_incSessionCounter_self (fun _ hne => entry_incSessionCounter_ne hne)
    (evolves_countUp _)

theorem worksOn_consumeSessionCounter : WorksOn s (s.consumeSessionCounter id type) id := by
  unfold consumeSessionCounter
  split
  · exact worksOn_incSessionCounter
  · exact WorksOn.refl s id

theorem worksOn_updateEvent {event : EventType} (hevent : event ≠ .kFirstActivity)
    (value : UInt64) :
    WorksOn s { s with mAttrMgr := s.mAttrMgr.updateEvent event id value } id :=
  WorksOn.ofEntry (entry_updateEvent_self _ _) (fun _ hne => entry_updateEvent_ne hne _ _)
    (evolves_setEvent _ hevent _)

theorem worksOn_setRxCandidates (rxCandList : List UInt64) :
    WorksOn s (s.setRxCandidates id rxCandList) id where
  context := ⟨rfl, rfl, rfl, rfl, rfl, rfl⟩
  others _ hne := ⟨candidates_setRxCandidates_ne hne _, rfl⟩
  evolves a ha := ⟨a, ha, Evolves.refl _ a⟩

/-! ### The entry after an accepted reception -/

theorem attributes_consumeSessionCounter :
    (s.consumeSessionCounter id type).attributes id =
      (s.attributes id).map fun a =>
        if type = .kVwSokFreshnessValueSessionReceiver then countUp a else a := by
  unfold consumeSessionCounter
  split
  · exact entry_incSessionCounter_self
  · exact Option.map_id'.symm

theorem attributes_activateOnFirstUse :
    (s.activateOnFirstUse id).attributes id =
      (s.attributes id).map (activate s.mTimeSinceInit) := by
  unfold activateOnFirstUse
  split
  · exact entry_setActive_self _
  · rename_i hactive
    cases ha : s.attributes id with
    | none => rfl
    | some a =>
      have ha' : s.mAttrMgr.entry id = some a := ha
      rw [isActive_eq, ha'] at hactive
      have hused : a.valueIsActive ≠ false := by
        intro hunused
        exact hactive (by simp [hunused])
      show some a = some (activate s.mTimeSinceInit a)
      rw [activate, if_neg hused]

theorem attributes_acceptReception :
    (s.acceptReception id type).attributes id =
      (s.attributes id).map fun a => setEvent .kVerifyReq s.mFV (activate s.mTimeSinceInit
        (if type = .kVwSokFreshnessValueSessionReceiver then countUp a else a)) := by
  let s₁ := s.consumeSessionCounter id type
  have hcontext : SameContext s s₁ := worksOn_consumeSessionCounter.context
  have hactivated : SameContext s₁ (s₁.activateOnFirstUse id) := worksOn_activateOnFirstUse.context
  have hupdate : (s.acceptReception id type).attributes id =
      ((s₁.activateOnFirstUse id).attributes id).map
        (setEvent .kVerifyReq (s₁.activateOnFirstUse id).mFV) := entry_updateEvent_self _ _
  rw [hupdate, attributes_activateOnFirstUse, attributes_consumeSessionCounter, hactivated.mFV,
    hcontext.mFV, hcontext.mTimeSinceInit, Option.map_map, Option.map_map]
  rfl

/-! ### The calls -/

theorem worksOn_acceptReception : WorksOn s (s.acceptReception id type) id := by
  have hconsumed : WorksOn s (s.consumeSessionCounter id type) id := worksOn_consumeSessionCounter
  have hactivated := hconsumed.trans worksOn_activateOnFirstUse
  have hbuilt := hactivated.trans (worksOn_setRxCandidates (s.rxCandidateList id))
  exact hbuilt.trans (worksOn_updateEvent (by decide) _)

theorem worksOn_getRxFv : WorksOn s (s.getRxFv id type truncated attempts).2 id := by
  cases hcached : s.candidates id with
  | some rxCandList =>
    rw [getRxFv_of_cached hcached]
    split
    · exact WorksOn.refl s id
    · exact WorksOn.refl s id
  | none =>
    rw [getRxFv_of_uncached hcached]
    split_ifs
    · exact WorksOn.refl s id
    · exact WorksOn.refl s id
    · exact worksOn_consumeSessionCounter
    · exact worksOn_consumeSessionCounter
    · exact worksOn_acceptReception

theorem worksOn_getRxFreshness : WorksOn s (s.getRxFreshness id truncated attempts).2 id := by
  rcases s.getRxFreshness_cases id truncated attempts with hsame | ⟨type, -, -, -, hpath⟩
  · rw [hsame]
    exact WorksOn.refl s id
  · rw [hpath]
    exact worksOn_getRxFv

theorem worksOn_chooseTxFv : WorksOn s (s.chooseTxFv id).2 id := by
  unfold chooseTxFv
  split_ifs
  · exact worksOn_setActive
  · exact WorksOn.refl s id
  · exact WorksOn.refl s id
  · exact worksOn_updateEvent (by decide) _

theorem worksOn_getTxFv : WorksOn s (s.getTxFv id type).2 id := by
  have hchoose : WorksOn s (s.chooseTxFv id).2 id := worksOn_chooseTxFv
  by_cases htype : type = .kVwSokFreshnessValueSessionSender
  · rw [getTxFv, if_pos htype]
    exact hchoose.trans worksOn_incSessionCounter
  · rw [getTxFv, if_neg htype]
    exact hchoose

theorem worksOn_getChallengeForOutgoingResponse :
    WorksOn s (s.getChallengeForOutgoingResponse id).2 id := by
  unfold getChallengeForOutgoingResponse
  split
  · exact WorksOn.refl s id
  · exact ⟨⟨rfl, rfl, rfl, rfl, rfl, rfl⟩, fun _ _ => ⟨rfl, rfl⟩,
      fun a ha => ⟨a, ha, Evolves.refl _ a⟩⟩

theorem worksOn_getTxFreshness : WorksOn s (s.getTxFreshness id).2 id := by
  unfold getTxFreshness
  split
  · exact WorksOn.refl s id
  · split
    · exact WorksOn.refl s id
    · exact worksOn_getChallengeForOutgoingResponse
    · exact worksOn_getTxFv
    · exact worksOn_getTxFv
    · exact WorksOn.refl s id

theorem worksOn_sPduTxConfirmation : WorksOn s (s.sPduTxConfirmation id) id :=
  worksOn_updateEvent (by decide) _

/-- A verification call-back changes nothing, or it discards the challenge or the cached
list of its identifier. -/
theorem verificationStatusCallout_effect (status : SecOCVerificationStatusType) :
    s.verificationStatusCallout status = s ∨
      s.verificationStatusCallout status = { s with
        mActiveOutgoingChallenges := s.mActiveOutgoingChallenges.erase status.fvId } ∨
      s.verificationStatusCallout status = { s with
        mAttrMgr := s.mAttrMgr.updateEvent .kVerifySuccess status.fvId
          (s.mAttrMgr.getEvent .kVerifyReq status.fvId)
        mFvRxCandidates := s.mFvRxCandidates.erase status.fvId } := by
  have hbroadcast : s.updateVerificationStatusAuthBroadcast status.fvId
        status.verificationSucceeded = s ∨
      s.updateVerificationStatusAuthBroadcast status.fvId status.verificationSucceeded =
        { s with
          mAttrMgr := s.mAttrMgr.updateEvent .kVerifySuccess status.fvId
            (s.mAttrMgr.getEvent .kVerifyReq status.fvId)
          mFvRxCandidates := s.mFvRxCandidates.erase status.fvId } := by
    unfold updateVerificationStatusAuthBroadcast
    split
    · exact Or.inl rfl
    · exact Or.inr rfl
  unfold verificationStatusCallout
  split
  · exact Or.inl rfl
  · unfold updateVerificationStatusChallenge
    split
    · exact Or.inr (Or.inl rfl)
    · exact Or.inl rfl
  · exact hbroadcast.imp_right Or.inr
  · exact hbroadcast.imp_right Or.inr
  · exact Or.inl rfl

theorem worksOn_verificationStatusCallout {status : SecOCVerificationStatusType} :
    WorksOn s (s.verificationStatusCallout status) status.fvId := by
  rcases verificationStatusCallout_effect (s := s) status with heq | heq | heq
  · rw [heq]
    exact WorksOn.refl s _
  · rw [heq]
    exact ⟨⟨rfl, rfl, rfl, rfl, rfl, rfl⟩, fun _ _ => ⟨rfl, rfl⟩,
      fun a ha => ⟨a, ha, Evolves.refl _ a⟩⟩
  · rw [heq]
    let verified := s.mAttrMgr.updateEvent .kVerifySuccess status.fvId
      (s.mAttrMgr.getEvent .kVerifyReq status.fvId)
    have hevent : WorksOn s { s with mAttrMgr := verified } status.fvId :=
      worksOn_updateEvent (by decide) _
    refine ⟨⟨rfl, rfl, rfl, rfl, rfl, rfl⟩, ?_, hevent.evolves⟩
    intro id' hne
    exact ⟨AList.lookup_erase_ne hne, (hevent.others id' hne).attributes⟩

/-- A failed verification changes nothing. -/
theorem verificationStatusCallout_of_failed {fvId : SokFreshnessValueId} :
    s.verificationStatusCallout ⟨fvId, false⟩ = s := by
  unfold verificationStatusCallout
  split
  · rfl
  · rfl
  · rfl
  · rfl
  · rfl

/-- The calls of the challenge-response protocol leave every entry alone. -/
structure LeavesEntries (s s' : AFreshnessValueManagerImpl) : Prop where
  context : SameContext s s'
  entries : ∀ id, SameEntries s s' id

theorem leavesEntries_triggerCrRequest {csm : ICsmAccessor} {signals : ISignalManager} :
    LeavesEntries s (s.triggerCrRequest csm signals id).2 := by
  have hrefl : LeavesEntries s s := ⟨⟨rfl, rfl, rfl, rfl, rfl, rfl⟩, fun _ => ⟨rfl, rfl⟩⟩
  unfold triggerCrRequest
  split
  · exact hrefl
  · split
    · exact hrefl
    · split
      · exact hrefl
      · split
        · exact hrefl
        · exact ⟨⟨rfl, rfl, rfl, rfl, rfl, rfl⟩, fun _ => ⟨rfl, rfl⟩⟩

theorem leavesEntries_offerCrRequest {cb : ChallengeReceivedIndicationCb} :
    LeavesEntries s (s.offerCrRequest id cb).2 := by
  unfold offerCrRequest
  split
  · exact ⟨⟨rfl, rfl, rfl, rfl, rfl, rfl⟩, fun _ => ⟨rfl, rfl⟩⟩
  · exact ⟨⟨rfl, rfl, rfl, rfl, rfl, rfl⟩, fun _ => ⟨rfl, rfl⟩⟩

theorem leavesEntries_incomingChallengeSignalCb {signal : String} {challenge : ByteVector} :
    LeavesEntries s (s.incomingChallengeSignalCb signal challenge).2 := by
  have hrefl : LeavesEntries s s := ⟨⟨rfl, rfl, rfl, rfl, rfl, rfl⟩, fun _ => ⟨rfl, rfl⟩⟩
  unfold incomingChallengeSignalCb
  split
  · exact hrefl
  · split
    · exact hrefl
    · split
      · exact hrefl
      · split
        · exact hrefl
        · exact ⟨⟨rfl, rfl, rfl, rfl, rfl, rfl⟩, fun _ => ⟨rfl, rfl⟩⟩

end Sok.Fvm.AFreshnessValueManagerImpl
