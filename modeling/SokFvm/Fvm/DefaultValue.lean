import SokFvm.Fvm.Reception

/-!
# The default freshness value

Before the first authentic freshness value arrives, both ends of a protected
communication use the constant `sokUpstartTime`.  A message that is protected
with it can be replayed without limit, so an identifier may use it only within
`sokFmTimeValidTimeoutMs` of its first use.

`DefaultIsDead` is the property that neither freshness interface gives the
default value out for an identifier.  After the window the transmit path always
has it: `getTxFreshness_ne_default`.  The receive path answers from the cached
list when there is one, whatever the time, so it has the property exactly when
no default value is left in that list: `default_dead_iff`.

What carries the proof is that an identifier in use stays active with the time
of its first use, `active_of_run`, and that only an identifier in use has a
cached list, `CachedIsActive`.
-/

namespace Sok.Fvm

open Sok.Common StateMachine AFreshnessValueManagerImpl FvmRuntimeAttributesManager

variable {s s' s₀ s₁ s₂ : AFreshnessValueManagerImpl} {id : SokFreshnessValueId}
variable {h h' h₀ h₁ h₂ : List ManagerEvent} {op : ManagerOp} {es : List ManagerEvent}
variable {type : SokFreshnessType} {truncated : FVContainer} {attempts : UInt16}
variable {P : Guard AFreshnessValueManagerImpl ManagerOp ManagerEvent}

/-- The types of the authentic broadcast. -/
def IsAuthBroadcastType (type : SokFreshnessType) : Prop :=
  IsRxFvType type ∨ type = .kVwSokFreshnessValueSessionSender

/-- The attribute entry of an identifier that has been used, not after `time`. -/
def UsedBy (time : UInt64) (id : SokFreshnessValueId) (s : AFreshnessValueManagerImpl) : Prop :=
  ∃ a, s.attributes id = some a ∧ a.valueIsActive = true ∧ a.firstUsed ≤ time

/-- Once in use, an identifier stays in use with the same first use. -/
theorem active_of_run {time : UInt64} (hused : UsedBy time id s)
    (hrun : Run managerStep P s h s' h') : UsedBy time id s' := by
  apply hrun.stateInvariant (UsedBy time id) hused
  rintro t g op t' es ⟨a, ha, hactive, hle⟩ _ hstep
  obtain ⟨b, hb, hevolves⟩ := (managerStep_effect hstep).evolves id a ha
  obtain ⟨hactive', hfirst⟩ := hevolves.active hactive
  refine ⟨b, hb, hactive', ?_⟩
  rw [hfirst]
  exact hle

/-! ## A cached list belongs to an identifier in use -/

/-- A cached list belongs to an identifier in use. -/
def CachedIsActive (id : SokFreshnessValueId) (s : AFreshnessValueManagerImpl) : Prop :=
  (s.candidates id).isSome → ∀ a, s.attributes id = some a → a.valueIsActive = true

theorem valueIsActive_activate (time : UInt64) (a : SokFmRuntimeAttributes) :
    (activate time a).valueIsActive = true := by
  unfold activate
  split
  · rfl
  · rename_i hused
    exact Bool.eq_true_of_not_eq_false hused

/-- An accepted reception leaves the identifier active. -/
theorem active_acceptReception {a : SokFmRuntimeAttributes}
    (ha : (s.acceptReception id type).attributes id = some a) : a.valueIsActive = true := by
  rw [attributes_acceptReception] at ha
  obtain ⟨b, -, rfl⟩ := Option.map_eq_some_iff.mp ha
  exact valueIsActive_activate _ _

theorem cachedIsActive_getRxFv (hcached : CachedIsActive id s) :
    CachedIsActive id (s.getRxFv id type truncated attempts).2 := by
  cases hlist : s.candidates id with
  | some rxCandList =>
    rw [getRxFv_of_cached hlist]
    split
    · exact hcached
    · exact hcached
  | none =>
    have hconsumed : (s.consumeSessionCounter id type).candidates id = none := by
      rw [consumeSessionCounter_eq]
      exact hlist
    rw [getRxFv_of_uncached hlist]
    split_ifs
    · exact hcached
    · exact hcached
    · intro hsome
      rw [hconsumed] at hsome
      cases hsome
    · intro hsome
      rw [hconsumed] at hsome
      cases hsome
    · intro _ a ha
      exact active_acceptReception ha

theorem cachedIsActive_getRxFreshness (hcached : CachedIsActive id s) :
    CachedIsActive id (s.getRxFreshness id truncated attempts).2 := by
  rcases s.getRxFreshness_cases id truncated attempts with hsame | ⟨type, -, -, -, hpath⟩
  · rw [hsame]
    exact hcached
  · rw [hpath]
    exact cachedIsActive_getRxFv hcached

theorem CachedIsActive.step (hcached : CachedIsActive id s) (hentry : (s.attributes id).isSome)
    (hstep : managerStep s op = .ok (s', es)) : CachedIsActive id s' := by
  have hnext : (managerNext s op).1 = s' := congrArg Prod.fst (Except.ok.inj hstep)
  by_cases hget : ∃ truncated attempts, op = .getRxFreshness id truncated attempts
  · obtain ⟨truncated, attempts, rfl⟩ := hget
    rw [← hnext]
    exact cachedIsActive_getRxFreshness hcached
  · intro hsome a' ha'
    rw [← hnext] at hsome
    have hbefore : (s.candidates id).isSome :=
      candidates_isSome_of_step
        (fun truncated attempts heq => hget ⟨truncated, attempts, heq⟩) hsome
    obtain ⟨a, ha⟩ := Option.isSome_iff_exists.mp hentry
    obtain ⟨b, hb, hevolves⟩ := (managerStep_effect hstep).evolves id a ha
    have hba : b = a' := Option.some.inj (hb.symm.trans ha')
    rw [← hba]
    exact (hevolves.active (hcached hbefore a ha)).1

/-- Run lemma: a cached list belongs to an identifier in use. -/
theorem cachedIsActive_of_run (hinit : FreshlyInitialised s₀)
    (hentry : (s₀.attributes id).isSome) (hrun : Run managerStep P s₀ h₀ s h) :
    CachedIsActive id s := by
  have hboth : Tracked s₀ id s ∧ CachedIsActive id s := by
    refine hrun.stateInvariant (fun s => Tracked s₀ id s ∧ CachedIsActive id s)
      ⟨hinit.tracked hentry, ?_⟩ ?_
    · intro hsome
      rw [hinit.candidates id] at hsome
      cases hsome
    · intro s h op s' es hinv _ hstep
      obtain ⟨a, ha, -⟩ := hinv.1.entry
      refine ⟨hinv.1.step hstep, hinv.2.step ?_ hstep⟩
      rw [ha]
      rfl
  exact hboth.2

/-! ## The first activity -/

/-- A successful freshness request for an identifier. -/
def IsActivity (s : AFreshnessValueManagerImpl) (id : SokFreshnessValueId) (op : ManagerOp) :
    Prop :=
  (op = .getTxFreshness id ∧ ∃ fv, (s.getTxFreshness id).1 = .ok fv) ∨
    ∃ truncated attempts, op = .getRxFreshness id truncated attempts ∧
      ∃ fv, (s.getRxFreshness id truncated attempts).1 = .ok fv

theorem active_chooseTxFv {a : SokFmRuntimeAttributes}
    (ha : (s.chooseTxFv id).2.attributes id = some a) : a.valueIsActive = true := by
  unfold chooseTxFv at ha
  split at ha
  · obtain ⟨b, -, rfl⟩ := Option.map_eq_some_iff.mp ((entry_setActive_self _).symm.trans ha)
    exact valueIsActive_activate _ _
  · rename_i hactive
    have hbefore : ∀ b, s.attributes id = some b → b.valueIsActive = true := by
      intro b hb
      have hb' : s.mAttrMgr.entry id = some b := hb
      rw [isActive_eq, hb'] at hactive
      simpa using hactive
    split at ha
    · split at ha
      · exact hbefore a ha
      · exact hbefore a ha
    · obtain ⟨b, hb, rfl⟩ :=
        Option.map_eq_some_iff.mp ((entry_updateEvent_self _ _).symm.trans ha)
      exact hbefore b hb

theorem active_getTxFv {a : SokFmRuntimeAttributes}
    (ha : (s.getTxFv id type).2.attributes id = some a) : a.valueIsActive = true := by
  by_cases htype : type = .kVwSokFreshnessValueSessionSender
  · rw [getTxFv, if_pos htype] at ha
    obtain ⟨b, hb, rfl⟩ := Option.map_eq_some_iff.mp (entry_incSessionCounter_self.symm.trans ha)
    have hactive := active_chooseTxFv hb
    unfold countUp
    split
    · exact hactive
    · exact hactive
  · rw [getTxFv, if_neg htype] at ha
    exact active_chooseTxFv ha

theorem active_getRxFv (hcached : CachedIsActive id s) {fv : FVContainer}
    (hok : (s.getRxFv id type truncated attempts).1 = .ok fv) {a : SokFmRuntimeAttributes}
    (ha : (s.getRxFv id type truncated attempts).2.attributes id = some a) :
    a.valueIsActive = true := by
  cases hlist : s.candidates id with
  | some rxCandList =>
    have hbefore : ∀ b, s.attributes id = some b → b.valueIsActive = true :=
      hcached (by rw [hlist]; rfl)
    rw [getRxFv_of_cached hlist] at ha
    split at ha
    · exact hbefore a ha
    · exact hbefore a ha
  | none =>
    rw [getRxFv_of_uncached hlist] at hok ha
    split_ifs at hok ha
    exact active_acceptReception ha

/-- A successful request leaves the identifier in use since now or earlier. -/
theorem usedBy_of_activity (hinit : s.mInitialized = true)
    (htype : s.mFvmConfAccessor.getEntryTypeByFvId id = .ok type)
    (hbroadcast : IsAuthBroadcastType type) (hentry : (s.attributes id).isSome)
    (hpast : FirstUseInPast id s) (hcached : CachedIsActive id s)
    (hactivity : IsActivity s id op) : UsedBy s.mTimeSinceInit id (managerNext s op).1 := by
  obtain ⟨a, ha⟩ := Option.isSome_iff_exists.mp hentry
  obtain ⟨a', ha', hevolves⟩ := (managerNext_effect (s := s) op).evolves id a ha
  have hactive' : a'.valueIsActive = true := by
    rcases hactivity with ⟨rfl, fv, hok⟩ | ⟨truncated, attempts, rfl, fv, hok⟩
    · replace ha' : (s.getTxFreshness id).2.attributes id = some a' := ha'
      rcases hbroadcast with (rfl | rfl) | rfl
      · rw [getTxFreshness_eq hinit htype (Or.inl rfl)] at ha'
        exact active_getTxFv ha'
      · rw [getTxFreshness_of_receiver hinit htype] at hok
        cases hok
      · rw [getTxFreshness_eq hinit htype (Or.inr rfl)] at ha'
        exact active_getTxFv ha'
    · replace ha' : (s.getRxFreshness id truncated attempts).2.attributes id = some a' := ha'
      rcases hbroadcast with hrx | rfl
      · rw [getRxFreshness_eq hinit htype hrx] at hok ha'
        exact active_getRxFv hcached hok ha'
      · rw [getRxFreshness_of_sender hinit htype] at hok
        cases hok
  refine ⟨a', ha', hactive', ?_⟩
  cases hactive : a.valueIsActive with
  | false =>
    rw [hevolves.activated hactive hactive']
    exact UInt64.le_refl _
  | true =>
    rw [(hevolves.active hactive).2]
    exact hpast a ha hactive

/-! ## After the window -/

/-- Neither interface gives out the default value for the identifier, the receive
path not at this attempt. -/
structure DefaultIsDead (s : AFreshnessValueManagerImpl) (id : SokFreshnessValueId)
    (attempts : UInt16) : Prop where
  tx : ∀ fv, (s.getTxFreshness id).1 = .ok fv → fv.take 8 ≠ uintToByteVector sokUpstartTime
  rx : ∀ truncated fv, (s.getRxFreshness id truncated attempts).1 = .ok fv →
    fv.take 8 ≠ uintToByteVector sokUpstartTime

/-- The window of an identifier in use has passed. -/
def WindowPassed (s : AFreshnessValueManagerImpl) (id : SokFreshnessValueId) : Prop :=
  ∃ a, s.attributes id = some a ∧ a.valueIsActive = true ∧
    a.firstUsed.toNat + sokFmTimeValidTimeoutMs.toNat < s.mTimeSinceInit.toNat

/-- After the window the transmit path does not use the default value. -/
theorem getTxFv_ne_default (hpassed : WindowPassed s id) (hfv : sokUpstartTime ∉ s.neighbours) :
    ((s.getTxFv id type).1).take 8 ≠ uintToByteVector sokUpstartTime := by
  obtain ⟨a, ha, hactive, hlate⟩ := hpassed
  have ha' : s.mAttrMgr.entry id = some a := ha
  have hused : s.mAttrMgr.isActive id = true := by
    rw [isActive_eq, ha']
    exact hactive
  have htimeout : s.validTimeoutPassed = true := validTimeoutPassed_iff.mpr (by omega)
  rw [take_getTxFv, chooseTxFv, hused, htimeout]
  intro hdefault
  cases hvalid : s.mIsFvValid with
  | false =>
    rw [hvalid] at hdefault
    exact absurd (uintToByteVector_inj.mp hdefault) (by decide)
  | true =>
    rw [hvalid] at hdefault
    have hmFV : s.mFV = sokUpstartTime := uintToByteVector_inj.mp hdefault
    apply hfv
    rw [← hmFV]
    exact List.mem_cons_self

theorem not_inDefaultWindow (hpassed : WindowPassed s id) : inDefaultWindow s id = false := by
  obtain ⟨a, ha, hactive, hlate⟩ := hpassed
  unfold inDefaultWindow
  rw [ha]
  simp only [hactive, Bool.not_true, Bool.false_or, decide_eq_false_iff_not]
  omega

/-- After the window the candidates of a new reception are around the freshness
value. -/
theorem mem_neighbours_of_accepted (hpassed : WindowPassed s id) (hpast : FirstUseInPast id s)
    (hfresh : ¬ NoFreshness s) {x : UInt64} (hx : x ∈ s.rxCandidateList id) :
    x ∈ s.neighbours := by
  have hsome : (s.attributes id).isSome := by
    obtain ⟨a, ha, -⟩ := hpassed
    rw [ha]
    rfl
  rw [rxCandidateList_eq_current hsome hpast hfresh, currentCandidates,
    not_inDefaultWindow hpassed] at hx
  cases hvalid : s.mIsFvValid with
  | false =>
    rw [hvalid] at hx
    cases hx
  | true =>
    rw [hvalid] at hx
    exact hx

/-- After the window the receive path gives the default value out exactly when it
stands in the cached list. -/
theorem rx_default_dead_iff (hinit : s.mInitialized = true)
    (htype : s.mFvmConfAccessor.getEntryTypeByFvId id = .ok type) (hrx : IsRxFvType type)
    (hpassed : WindowPassed s id) (hpast : FirstUseInPast id s)
    (hfv : sokUpstartTime ∉ s.neighbours) (attempts : UInt16) :
    (∀ truncated fv, (s.getRxFreshness id truncated attempts).1 = .ok fv →
        fv.take 8 ≠ uintToByteVector sokUpstartTime) ↔
      ∀ rxCandList, s.candidates id = some rxCandList →
        rxCandList[attempts.toNat]? ≠ some sokUpstartTime := by
  cases hlist : s.candidates id with
  | some rxCandList =>
    have hanswer := getRxFreshness_of_cached hinit htype hrx hlist
    constructor
    · intro hdead rxCandList' heq hdefault
      obtain rfl : rxCandList = rxCandList' := Option.some.inj heq
      have hok := hanswer [] attempts
      rw [hdefault] at hok
      exact hdead [] _ hok (take_uintToByteVector_append _ _)
    · intro hcandidates truncated fv hok hdefault
      rw [hanswer truncated attempts] at hok
      cases hx : rxCandList[attempts.toNat]? with
      | none =>
        rw [hx] at hok
        cases hok
      | some x =>
        rw [hx] at hok
        cases hok
        rw [take_uintToByteVector_append, uintToByteVector_inj] at hdefault
        rw [hdefault] at hx
        exact hcandidates rxCandList rfl hx
  | none =>
    constructor
    · intro _ rxCandList heq
      cases heq
    · intro _ truncated fv hok hdefault
      by_cases hattempts : attempts = 0
      · subst hattempts
        rcases getRxFreshness_of_uncached hinit htype hrx hlist truncated with
          ⟨failure, hfailed⟩ | ⟨hfresh, x, hx, haccepted⟩
        · rw [hfailed] at hok
          cases hok
        · rw [haccepted] at hok
          cases hok
          rw [take_uintToByteVector_append, uintToByteVector_inj] at hdefault
          apply hfv
          rw [← hdefault]
          exact mem_neighbours_of_accepted hpassed hpast hfresh (List.mem_of_getElem? hx)
      · rw [getRxFreshness_eq hinit htype hrx, getRxFv_of_uncached hlist, if_pos hattempts] at hok
        cases hok

/-- A sender's identifier never has a cached list. -/
theorem candidates_of_sender (hinit : FreshlyInitialised s₀)
    (htype : s₀.mFvmConfAccessor.getEntryTypeByFvId id =
      .ok .kVwSokFreshnessValueSessionSender)
    (hrun : Run managerStep P s₀ h₀ s h) : s.candidates id = none := by
  have hall : s.mInitialized = true ∧ s.mFvmConfAccessor = s₀.mFvmConfAccessor ∧
      s.candidates id = none := by
    refine hrun.stateInvariant (fun s => s.mInitialized = true ∧
      s.mFvmConfAccessor = s₀.mFvmConfAccessor ∧ s.candidates id = none)
      ⟨hinit.mInitialized, rfl, hinit.candidates id⟩ ?_
    rintro s g op s' es ⟨hinit', haccessor, hnone⟩ _ hstep
    have heffect := managerStep_effect hstep
    have hnext : (managerNext s op).1 = s' := congrArg Prod.fst (Except.ok.inj hstep)
    refine ⟨heffect.mInitialized.trans hinit', heffect.mFvmConfAccessor.trans haccessor, ?_⟩
    rw [← hnext]
    by_cases hget : ∃ truncated attempts, op = .getRxFreshness id truncated attempts
    · obtain ⟨truncated, attempts, rfl⟩ := hget
      show (s.getRxFreshness id truncated attempts).2.candidates id = none
      rw [getRxFreshness_of_sender hinit' (by rw [haccessor, htype])]
      exact hnone
    · rw [← Option.not_isSome_iff_eq_none]
      intro hsome
      have hbefore := candidates_isSome_of_step
        (fun truncated attempts heq => hget ⟨truncated, attempts, heq⟩) hsome
      rw [hnone] at hbefore
      cases hbefore
  exact hall.2.2

theorem clockHolds_of_activity (hactivity : IsActivity s id op) : ClockHolds s h op := by
  intro hop
  rcases hactivity with ⟨heq, -⟩ | ⟨truncated, attempts, heq, -⟩
  · rw [hop] at heq
    cases heq
  · rw [hop] at heq
    cases heq

/-- More than the timeout after an activity of an identifier, in a state whose
freshness value is not itself the default: the default value is dead exactly when
it does not stand in the cached list. -/
theorem default_dead_iff (hinit : FreshlyInitialised s₀)
    (htype : s₀.mFvmConfAccessor.getEntryTypeByFvId id = .ok type)
    (hbroadcast : IsAuthBroadcastType type) (hentry : (s₀.attributes id).isSome)
    (hrun₁ : Run managerStep ClockHolds s₀ [] s₁ h₁) (hactivity : IsActivity s₁ id op)
    (hrun₂ : Run managerStep ClockHolds (managerNext s₁ op).1 ((managerNext s₁ op).2 ++ h₁)
      s₂ h₂)
    (helapsed : s₁.mTimeSinceInit.toNat + sokFmTimeValidTimeoutMs.toNat <
      s₂.mTimeSinceInit.toNat)
    (hfv : sokUpstartTime ∉ s₂.neighbours) :
    DefaultIsDead s₂ id attempts ↔ ∀ rxCandList, s₂.candidates id = some rxCandList →
      rxCandList[attempts.toNat]? ≠ some sokUpstartTime := by
  have hclock : ∀ s h op, ClockHolds s h op → ClockHolds s h op := fun _ _ _ hmeets => hmeets
  have hactive : Run managerStep ClockHolds s₀ [] (managerNext s₁ op).1
      ((managerNext s₁ op).2 ++ h₁) := hrun₁.step (clockHolds_of_activity hactivity) rfl
  have hrun : Run managerStep ClockHolds s₀ [] s₂ h₂ := hactive.trans hrun₂
  have htracked₁ : Tracked s₀ id s₁ := tracked_of_run hinit hentry hrun₁
  have htracked₂ : Tracked s₀ id s₂ := tracked_of_run hinit hentry hrun
  have hpast₂ : FirstUseInPast id s₂ := firstUseInPast_of_run hinit hentry hclock hrun
  have htype₁ : s₁.mFvmConfAccessor.getEntryTypeByFvId id = .ok type := by
    rw [htracked₁.mFvmConfAccessor, htype]
  have htype₂ : s₂.mFvmConfAccessor.getEntryTypeByFvId id = .ok type := by
    rw [htracked₂.mFvmConfAccessor, htype]
  -- the activity puts the identifier into use, and the window then passes
  have hused : UsedBy s₁.mTimeSinceInit id s₂ := by
    obtain ⟨a, ha, -⟩ := htracked₁.entry
    refine active_of_run (usedBy_of_activity htracked₁.mInitialized htype₁ hbroadcast ?_
      (firstUseInPast_of_run hinit hentry hclock hrun₁) (cachedIsActive_of_run hinit hentry hrun₁)
      hactivity) hrun₂
    rw [ha]
    rfl
  have hpassed : WindowPassed s₂ id := by
    obtain ⟨a, ha, hactive, hle⟩ := hused
    have hle' := UInt64.le_iff_toNat_le.mp hle
    exact ⟨a, ha, hactive, by omega⟩
  have htx : ∀ fv, (s₂.getTxFreshness id).1 = .ok fv →
      fv.take 8 ≠ uintToByteVector sokUpstartTime := by
    intro fv hok
    rcases hbroadcast with (rfl | rfl) | rfl
    · rw [getTxFreshness_eq htracked₂.mInitialized htype₂ (Or.inl rfl)] at hok
      cases hok
      exact getTxFv_ne_default hpassed hfv
    · rw [getTxFreshness_of_receiver htracked₂.mInitialized htype₂] at hok
      cases hok
    · rw [getTxFreshness_eq htracked₂.mInitialized htype₂ (Or.inr rfl)] at hok
      cases hok
      exact getTxFv_ne_default hpassed hfv
  rcases hbroadcast with hrx | rfl
  · have hiff := rx_default_dead_iff htracked₂.mInitialized htype₂ hrx hpassed hpast₂ hfv
      attempts
    exact ⟨fun hdead => hiff.mp hdead.rx, fun hcandidates => ⟨htx, hiff.mpr hcandidates⟩⟩
  · have hnone := candidates_of_sender hinit htype hrun
    constructor
    · intro _ rxCandList hcached
      rw [hnone] at hcached
      cases hcached
    · intro _
      refine ⟨htx, ?_⟩
      intro truncated fv hok
      rw [getRxFreshness_of_sender htracked₂.mInitialized htype₂] at hok
      cases hok

/-- The theorem at an identifier that was used for one message 505 ms before. -/
theorem default_dead_after_first_message :
    DefaultIsDead (incTimers^[101]
      (managerNext (initialisedManager oneFreshnessValueId) (.getTxFreshness 0)).1) 0 0 := by
  let s₁ := initialisedManager oneFreshnessValueId
  have hinit : FreshlyInitialised s₁ := freshlyInitialised_initialisedManager rfl
  have hactivity : IsActivity s₁ 0 (.getTxFreshness 0) := Or.inl ⟨rfl, _, rfl⟩
  have hticks := run_incTimers (s := (managerNext s₁ (.getTxFreshness 0)).1)
    (h := (managerNext s₁ (.getTxFreshness 0)).2 ++ []) rfl 101 (by decide +kernel)
  refine (default_dead_iff hinit rfl (Or.inl (Or.inl rfl)) rfl .refl hactivity hticks.1
    (by decide +kernel) (by decide +kernel)).mpr ?_
  intro rxCandList hcached
  have hnone : (incTimers^[101] (managerNext s₁ (.getTxFreshness 0)).1).candidates 0 = none := by
    decide +kernel
  rw [hnone] at hcached
  cases hcached

/-- The list of a reception that never succeeded still answers with the default
value 505 ms after the first use of the identifier. -/
theorem default_outlives_window :
    FreshlyInitialised (initialisedManager oneFreshnessValueId) ∧
    oneFreshnessValueId.getEntryTypeByFvId 0 = .ok .kVwSokFreshnessValue ∧
    ((initialisedManager oneFreshnessValueId).attributes 0).isSome ∧
    IsActivity (initialisedManager oneFreshnessValueId) 0 (.getRxFreshness 0 [] 0) ∧
    ∃ s h, Run managerStep ClockHolds
        (managerNext (initialisedManager oneFreshnessValueId) (.getRxFreshness 0 [] 0)).1
        (managerNext (initialisedManager oneFreshnessValueId) (.getRxFreshness 0 [] 0)).2 s h ∧
      (initialisedManager oneFreshnessValueId).mTimeSinceInit.toNat +
        sokFmTimeValidTimeoutMs.toNat < s.mTimeSinceInit.toNat ∧
      sokUpstartTime ∉ s.neighbours ∧ ¬ DefaultIsDead s 0 0 := by
  let s₁ := (managerNext (initialisedManager oneFreshnessValueId) (.getRxFreshness 0 [] 0)).1
  have hticks := run_incTimers (s := s₁) (h := (managerNext (initialisedManager
    oneFreshnessValueId) (.getRxFreshness 0 [] 0)).2) rfl 101 (by decide +kernel)
  refine ⟨freshlyInitialised_initialisedManager rfl, rfl, rfl, Or.inr ⟨[], 0, rfl, _, rfl⟩,
    incTimers^[101] s₁, _, hticks.1, by decide +kernel, by decide +kernel, ?_⟩
  intro hdead
  have haccepted : ((incTimers^[101] s₁).getRxFreshness 0 [] 0).1 =
      .ok (uintToByteVector sokUpstartTime) := by decide +kernel
  exact hdead.rx [] _ haccepted rfl

end Sok.Fvm
