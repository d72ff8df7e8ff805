import SokFvm.Fvm.SessionCounter

/-!
# Receptions that are rejected

`getRxFv` has five ways to fail, and it changes the state in three steps.  Two of the
failures come after the first of these steps, the increment of the session counter,
and before the other two.

* `rejection_leaves_no_trace_iff` says which rejections change the state.  It is those
  of a message whose counter is the next one, of a freshness value that does not let
  the reception be judged: the message is refused and its counter is used up.
* `valid_fv_usable_iff` says when a valid freshness value is refused.  The test
  compares it with the time of the first use of the identifier, which is counted in
  milliseconds since `Init` and not in increments of a freshness value.
-/

namespace Sok.Fvm

open Sok.Common StateMachine AFreshnessValueManagerImpl FvmRuntimeAttributesManager

variable {s s' s₀ : AFreshnessValueManagerImpl} {id : SokFreshnessValueId}
variable {type : SokFreshnessType} {truncated : FVContainer} {attempts : UInt16}

/-! ## The increment of a counter -/

/-- An increment changes an entry exactly when it has a counter to show. -/
theorem countUp_eq_self_iff {a : SokFmRuntimeAttributes} :
    countUp a = a ↔ counterOf (countUp a) = [] := by
  unfold countUp counterOf
  by_cases hlength : a.sessionCounterLength ≠ 0
  · rw [if_pos hlength, if_pos hlength, incrementByteArray_eq_turn]
    constructor
    · intro hself
      have hturn : Odometer.turn 0 a.sessionCounterLastUsed = a.sessionCounterLastUsed :=
        congrArg SokFmRuntimeAttributes.sessionCounterLastUsed hself
      rw [hturn]
      exact (Odometer.turn_eq_self_iff 0 _).mp hturn
    · intro hshown
      have hnil : Odometer.turn 0 a.sessionCounterLastUsed = [] := hshown
      have hlengths := Odometer.length_turn 0 a.sessionCounterLastUsed
      rw [hnil] at hlengths
      have hempty := List.eq_nil_of_length_eq_zero hlengths.symm
      rw [(Odometer.turn_eq_self_iff 0 _).mpr hempty]
  · rw [if_neg hlength, if_neg hlength]
    exact iff_of_true rfl rfl

/-- The states agree. An attribute table is its entries, in whatever order it keeps
them. -/
structure Untouched (s s' : AFreshnessValueManagerImpl) : Prop where
  attributes : ∀ id, s'.attributes id = s.attributes id
  others : { s' with mAttrMgr := s.mAttrMgr } = s

theorem Untouched.refl (s : AFreshnessValueManagerImpl) : Untouched s s where
  attributes _ := rfl
  others := rfl

theorem getNextSessionCounter_of_none (hnone : s.attributes id = none) :
    s.mAttrMgr.getNextSessionCounter id = [] := by
  have hlookup : s.mAttrMgr.mAttributesMap.lookup id = none := hnone
  rw [FvmRuntimeAttributesManager.getNextSessionCounter, hlookup]

theorem getNextSessionCounter_of_some {a : SokFmRuntimeAttributes}
    (hsome : s.attributes id = some a) :
    s.mAttrMgr.getNextSessionCounter id = counterOf (countUp a) := by
  have hlookup : s.mAttrMgr.mAttributesMap.lookup id = some a := hsome
  rw [FvmRuntimeAttributesManager.getNextSessionCounter, hlookup]

/-- The increment of a session counter is a change unless there is no counter. -/
theorem untouched_consumeSessionCounter_iff :
    Untouched s (s.consumeSessionCounter id .kVwSokFreshnessValueSessionReceiver) ↔
      s.mAttrMgr.getNextSessionCounter id = [] := by
  have hself : (s.consumeSessionCounter id .kVwSokFreshnessValueSessionReceiver).attributes id =
      (s.attributes id).map countUp := attributes_consumeSessionCounter
  have hnext : s.mAttrMgr.getNextSessionCounter id = [] ↔
      (s.attributes id).map countUp = s.attributes id := by
    cases hentry : s.attributes id with
    | none => exact iff_of_true (getNextSessionCounter_of_none hentry) rfl
    | some a =>
      rw [getNextSessionCounter_of_some hentry, ← countUp_eq_self_iff, Option.map_some,
        Option.some.injEq]
  rw [hnext]
  constructor
  · intro huntouched
    rw [← hself, huntouched.attributes]
  · intro hmap
    constructor
    · intro id'
      by_cases hid : id' = id
      · rw [hid, hself, hmap]
      · exact (worksOn_consumeSessionCounter.others id' hid).attributes
    · rfl

/-! ## What a rejection leaves -/

/-- A failure of the request leaves the state as it was. -/
def LeavesNoTrace (s : AFreshnessValueManagerImpl) (id : SokFreshnessValueId)
    (truncated : FVContainer) (attempts : UInt16) : Prop :=
  ∀ failure, (s.getRxFreshness id truncated attempts).1 = .error failure →
    Untouched s (s.getRxFreshness id truncated attempts).2

/-- The first attempt at a message of a session that carries the next counter, in a
state in which the freshness value does not let it be judged. -/
structure CountedInVain (s : AFreshnessValueManagerImpl) (id : SokFreshnessValueId)
    (truncated : FVContainer) (attempts : UInt16) : Prop where
  mInitialized : s.mInitialized = true
  type : s.mFvmConfAccessor.getEntryTypeByFvId id = .ok .kVwSokFreshnessValueSessionReceiver
  uncached : s.candidates id = none
  first : attempts = 0
  counter : truncated = s.mAttrMgr.getNextSessionCounter id
  nonempty : truncated ≠ []
  unusable : ¬ FvUsable s id

/-- The two tests of the freshness value. -/
theorem not_fvUsable_iff : ¬ FvUsable s id ↔
    (!s.mIsFvValid && s.validTimeoutPassed) = true ∨ s.fvTooOld id = true := by
  have hexpired : NoFreshness s ↔ (!s.mIsFvValid && s.validTimeoutPassed) = true := by
    rw [Bool.and_eq_true, Bool.not_eq_true', validTimeoutPassed_iff]
    rfl
  unfold FvUsable
  rw [hexpired, Classical.not_and_iff_not_or_not, not_not, Bool.not_eq_false]

/-- A request without a cached list whose attempt and counter are right. -/
theorem getRxFv_of_matching (hcached : s.candidates id = none)
    (hcounter : ¬ (type = .kVwSokFreshnessValueSessionReceiver ∧
      truncated ≠ s.mAttrMgr.getNextSessionCounter id)) :
    (FvUsable s id ∧ s.getRxFv id type truncated 0 =
        (.ok (serializeCandidate (s.rxCandidateList id) 0 truncated),
          s.acceptReception id type)) ∨
      (¬ FvUsable s id ∧ ∃ failure, s.getRxFv id type truncated 0 =
        (.error failure, s.consumeSessionCounter id type)) := by
  rw [getRxFv_of_uncached hcached, if_neg (not_not_intro rfl), if_neg hcounter]
  by_cases husable : FvUsable s id
  · have htests := mt not_fvUsable_iff.mpr (not_not_intro husable)
    rw [not_or] at htests
    left
    rw [if_neg htests.1, if_neg htests.2]
    exact ⟨husable, rfl⟩
  · right
    refine ⟨husable, ?_⟩
    split_ifs with hexpired hold
    · exact ⟨_, rfl⟩
    · exact ⟨_, rfl⟩
    · rcases not_fvUsable_iff.mp husable with hyes | hyes
      · exact absurd hyes hexpired
      · exact absurd hyes hold

/-- A request without a cached list whose attempt or counter is wrong. -/
theorem getRxFv_of_mismatching (hcached : s.candidates id = none)
    (hmismatch : attempts ≠ 0 ∨ type = .kVwSokFreshnessValueSessionReceiver ∧
      truncated ≠ s.mAttrMgr.getNextSessionCounter id) :
    ∃ failure, s.getRxFv id type truncated attempts = (.error failure, s) := by
  rw [getRxFv_of_uncached hcached]
  by_cases hattempts : attempts ≠ 0
  · rw [if_pos hattempts]
    exact ⟨_, rfl⟩
  · rw [if_neg hattempts, if_pos (hmismatch.resolve_left hattempts)]
    exact ⟨_, rfl⟩

/-- A rejected request of the freshness path changes the state only by the increment
of a counter that matched. -/
theorem getRxFv_of_rejected {failure : FreshnessFailure}
    (hrejected : (s.getRxFv id type truncated attempts).1 = .error failure) :
    (s.getRxFv id type truncated attempts).2 = s ∨
      s.candidates id = none ∧ attempts = 0 ∧ ¬ FvUsable s id ∧
        ¬ (type = .kVwSokFreshnessValueSessionReceiver ∧
          truncated ≠ s.mAttrMgr.getNextSessionCounter id) ∧
        (s.getRxFv id type truncated attempts).2 = s.consumeSessionCounter id type := by
  cases hcached : s.candidates id with
  | some rxCandList =>
    left
    rw [getRxFv_of_cached hcached]
    split
    · rfl
    · rfl
  | none =>
    by_cases hmismatch : attempts ≠ 0 ∨ type = .kVwSokFreshnessValueSessionReceiver ∧
        truncated ≠ s.mAttrMgr.getNextSessionCounter id
    · left
      obtain ⟨failure', heq⟩ := getRxFv_of_mismatching hcached hmismatch
      rw [heq]
    · right
      rw [not_or, not_not] at hmismatch
      obtain ⟨hattempts, hcounter⟩ := hmismatch
      subst hattempts
      rcases getRxFv_of_matching hcached hcounter with ⟨-, heq⟩ | ⟨hunusable, failure', heq⟩
      · rw [heq] at hrejected
        cases hrejected
      · refine ⟨rfl, rfl, hunusable, hcounter, ?_⟩
        rw [heq]

/-- A request that does not reach the freshness path changes nothing. -/
theorem getRxFreshness_off_path (hoff : ¬ ∃ type, s.mInitialized = true ∧
    s.mFvmConfAccessor.getEntryTypeByFvId id = .ok type ∧ IsRxFvType type) :
    (s.getRxFreshness id truncated attempts).2 = s := by
  rcases s.getRxFreshness_cases id truncated attempts with
    hsame | ⟨type, hinit, htype, hrx, -⟩
  · exact hsame
  · exact absurd ⟨type, hinit, htype, hrx⟩ hoff

/-- **Which rejections leave a trace.**  A request that fails leaves the state as it
was, unless it is the first attempt at a message of a session that carries the next
counter, and the freshness value does not let it be judged. -/
theorem rejection_leaves_no_trace_iff :
    LeavesNoTrace s id truncated attempts ↔ ¬ CountedInVain s id truncated attempts := by
  constructor
  · intro hleaves hvain
    obtain ⟨hinit, htype, hcached, hfirst, hcounter, hnonempty, hunusable⟩ := hvain
    subst hfirst
    have hpath : s.getRxFreshness id truncated 0 =
        s.getRxFv id .kVwSokFreshnessValueSessionReceiver truncated 0 :=
      getRxFreshness_eq hinit htype (Or.inr rfl)
    rcases getRxFv_of_matching hcached (fun hne => hne.2 hcounter) with
      ⟨husable, -⟩ | ⟨-, failure, heq⟩
    · exact hunusable husable
    · rw [heq] at hpath
      have huntouched := hleaves failure (congrArg Prod.fst hpath)
      rw [hpath, untouched_consumeSessionCounter_iff, ← hcounter] at huntouched
      exact hnonempty huntouched
  · intro hnot failure hrejected
    by_cases hon : ∃ type, s.mInitialized = true ∧
        s.mFvmConfAccessor.getEntryTypeByFvId id = .ok type ∧ IsRxFvType type
    · obtain ⟨type, hinit, htype, hrx⟩ := hon
      rw [getRxFreshness_eq hinit htype hrx] at hrejected ⊢
      rcases getRxFv_of_rejected hrejected with
        hsame | ⟨hcached, hattempts, hunusable, hcounter, hconsumed⟩
      · rw [hsame]
        exact .refl s
      · rw [hconsumed]
        rcases hrx with hplain | hsession
        · rw [hplain]
          exact .refl s
        · subst hsession
          rw [untouched_consumeSessionCounter_iff]
          by_contra hnonempty
          have hmatches : truncated = s.mAttrMgr.getNextSessionCounter id := by
            by_contra hne
            exact hcounter ⟨rfl, hne⟩
          rw [← hmatches] at hnonempty
          exact hnot ⟨hinit, htype, hcached, hattempts, hmatches, hnonempty, hunusable⟩
    · rw [getRxFreshness_off_path hon]
      exact .refl s

/-- A session message that arrives 505 ms after `Init`, while there is still no
freshness value, is refused and moves the counter on. -/
theorem rejection_uses_up_the_counter :
    ¬ ∀ (s₀ s : AFreshnessValueManagerImpl) (h : List ManagerEvent) (id : SokFreshnessValueId)
      (truncated : FVContainer) (attempts : UInt16), FreshlyInitialised s₀ →
      Run managerStep Anything s₀ [] s h → LeavesNoTrace s id truncated attempts := by
  intro hall
  obtain ⟨s, h, hrun, hrejected, hbefore, hafter⟩ : ∃ s h,
      Run managerStep Anything (initialisedManager oneSessionReceiverId) [] s h ∧
        (s.getRxFreshness 0 [1] 0).1 = .error .noAuthFvAvailable ∧
        s.mAttrMgr.getSessionCounter 0 = [0] ∧
        (s.getRxFreshness 0 [1] 0).2.mAttrMgr.getSessionCounter 0 = [1] :=
    Run.exists_of_exec (List.replicate 101 .incTimers) (by decide +kernel)
  have huntouched := hall _ s h 0 [1] 0 (freshlyInitialised_initialisedManager rfl) hrun _
    hrejected
  have hsame : (s.getRxFreshness 0 [1] 0).2.mAttrMgr.getSessionCounter 0 =
      s.mAttrMgr.getSessionCounter 0 := by
    have hentry : (s.getRxFreshness 0 [1] 0).2.mAttrMgr.mAttributesMap.lookup 0 =
        s.mAttrMgr.mAttributesMap.lookup 0 := huntouched.attributes 0
    unfold FvmRuntimeAttributesManager.getSessionCounter
    rw [hentry]
  rw [hbefore, hafter] at hsame
  cases hsame

/-! ## When a valid freshness value is refused -/

/-- A valid freshness value is too old for an identifier that was first used later
than at that many milliseconds. -/
theorem fvTooOld_iff (hvalid : s.mIsFvValid = true) :
    s.fvTooOld id = true ↔
      ∃ a, s.attributes id = some a ∧ a.valueIsActive = true ∧ s.mFV < a.firstUsed := by
  unfold fvTooOld
  rw [hvalid, Bool.true_and, Bool.and_eq_true, decide_eq_true_iff, isActive_eq,
    getEvent_kFirstActivity_eq]
  show ((s.attributes id).map (·.valueIsActive)).getD false = true ∧
    s.mFV < ((s.attributes id).map (·.firstUsed)).getD 0 ↔ _
  cases s.attributes id with
  | none => simp
  | some a => simp

/-- **When a valid freshness value is usable.**  A first reception of an identifier is
accepted exactly when the identifier was not used yet, or the freshness value is at
least the number of milliseconds after which it was used for the first time. -/
theorem valid_fv_usable_iff (hinit : s.mInitialized = true) (hvalid : s.mIsFvValid = true)
    (htype : s.mFvmConfAccessor.getEntryTypeByFvId id = .ok .kVwSokFreshnessValue)
    (hcached : s.candidates id = none) :
    (∃ fv, (s.getRxFreshness id truncated 0).1 = .ok fv) ↔
      ∀ a, s.attributes id = some a → a.valueIsActive = true → a.firstUsed ≤ s.mFV := by
  have husable : FvUsable s id ↔
      ∀ a, s.attributes id = some a → a.valueIsActive = true → a.firstUsed ≤ s.mFV := by
    have hnoFreshness : ¬ NoFreshness s := by
      rintro ⟨hinvalid, -⟩
      rw [hvalid] at hinvalid
      cases hinvalid
    unfold FvUsable
    rw [← Bool.not_eq_true, fvTooOld_iff hvalid]
    constructor
    · rintro ⟨-, hold⟩ a ha hactive
      rw [← UInt64.not_lt]
      intro hlt
      exact hold ⟨a, ha, hactive, hlt⟩
    · intro hall
      refine ⟨hnoFreshness, ?_⟩
      rintro ⟨a, ha, hactive, hlt⟩
      exact UInt64.not_lt.mpr (hall a ha hactive) hlt
  have hpath : s.getRxFreshness id truncated 0 = s.getRxFv id .kVwSokFreshnessValue truncated 0 :=
    getRxFreshness_eq hinit htype (Or.inl rfl)
  have hnoCounter :
      ¬ (SokFreshnessType.kVwSokFreshnessValue = .kVwSokFreshnessValueSessionReceiver ∧
        truncated ≠ s.mAttrMgr.getNextSessionCounter id) := by
    intro hcounter
    cases hcounter.1
  rw [← husable, hpath]
  rcases getRxFv_of_matching hcached hnoCounter with ⟨hyes, heq⟩ | ⟨hno, failure, heq⟩
  · rw [heq]
    exact iff_of_true ⟨_, rfl⟩ hyes
  · rw [heq]
    refine iff_of_false ?_ hno
    rintro ⟨fv, hfv⟩
    cases hfv

/-- A manager that starts with the valid freshness value `fv`, as that of a server does. -/
def startingWith (fv : UInt64) : AFreshnessValueManagerImpl :=
  (initialisedManager oneFreshnessValueId).adoptFv fv

theorem freshlyInitialised_startingWith (fv : UInt64) : FreshlyInitialised (startingWith fv) :=
  ⟨rfl, rfl, rfl, rfl, rfl⟩

/-- The identifier is in use since five milliseconds after `Init`, and the freshness value
has just come to `5`. -/
theorem valid_fv_usable_in_use :
    ∃ s h, Run managerStep Anything (startingWith 3) [] s h ∧
      (s.attributes 0).map (fun a => (a.valueIsActive, a.firstUsed)) = some (true, 5) ∧
      s.mFV = 5 ∧ ∃ fv, (s.getRxFreshness 0 [] 0).1 = .ok fv := by
  obtain ⟨s, h, hrun, hactive, hfv, hinit, hvalid, htype, hcached⟩ : ∃ s h,
      Run managerStep Anything (startingWith 3) [] s h ∧
        (s.attributes 0).map (fun a => (a.valueIsActive, a.firstUsed)) = some (true, 5) ∧
        s.mFV = 5 ∧ s.mInitialized = true ∧ s.mIsFvValid = true ∧
        s.mFvmConfAccessor.getEntryTypeByFvId 0 = .ok .kVwSokFreshnessValue ∧
        s.candidates 0 = none :=
    Run.exists_of_exec
      ([.incTimers, .getRxFreshness 0 [] 0, .verificationStatusCallout ⟨0, true⟩] ++
        List.replicate 39 .incTimers) (by decide +kernel)
  refine ⟨s, h, hrun, hactive, hfv, (valid_fv_usable_iff hinit hvalid htype hcached).mpr ?_⟩
  intro a ha _
  rw [ha, Option.map_some, Option.some.injEq, Prod.mk.injEq] at hactive
  rw [hactive.2, hfv]
  exact UInt64.le_refl 5

/-- The identifier is used for the first time five milliseconds after `Init`, and the
freshness value is `3`: the next reception is refused. -/
theorem valid_fv_refused :
    ¬ ∀ (s₀ s : AFreshnessValueManagerImpl) (h : List ManagerEvent) (id : SokFreshnessValueId)
      (truncated : FVContainer), FreshlyInitialised s₀ →
      Run managerStep Anything s₀ [] s h → s.mIsFvValid = true →
      s.mFvmConfAccessor.getEntryTypeByFvId id = .ok .kVwSokFreshnessValue →
      s.candidates id = none → ∃ fv, (s.getRxFreshness id truncated 0).1 = .ok fv := by
  intro hall
  obtain ⟨s, h, hrun, hvalid, htype, hcached, hrejected⟩ : ∃ s h,
      Run managerStep Anything (startingWith 3) [] s h ∧ s.mIsFvValid = true ∧
        s.mFvmConfAccessor.getEntryTypeByFvId 0 = .ok .kVwSokFreshnessValue ∧
        s.candidates 0 = none ∧ (s.getRxFreshness 0 [] 0).1 = .error .fvBeforeFirstActivity :=
    Run.exists_of_exec
      [.incTimers, .getRxFreshness 0 [] 0, .verificationStatusCallout ⟨0, true⟩]
      (by decide +kernel)
  obtain ⟨fv, hfv⟩ := hall _ s h 0 [] (freshlyInitialised_startingWith 3) hrun hvalid htype hcached
  rw [hrejected] at hfv
  cases hfv

end Sok.Fvm
