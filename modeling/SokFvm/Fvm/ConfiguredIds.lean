import SokFvm.Fvm.DefaultValue

/-!
# Which identifiers work

Configuration, accessor, attribute table and transmit path have to agree on the
identifiers.  The accessor lists the numbers below the number of entries instead
of the identifiers of the entries, the attribute table gets its entries from that
list, and an identifier without an entry looks unused to every operation.  Such
an identifier is at its first use for ever, and every message on it is protected
with the default value.

`FreshnessWorks` is the agreement, from the list of identifiers to what is sent,
and `freshness_works_iff` says for which configurations it holds: those whose
identifiers happen to be the numbers below the number of entries.  It is stated
for every value of the configuration type; the parser produces fewer, and of the
broadcast entries only ones with a type of the authentic broadcast.
-/

namespace Sok.Fvm

open Sok.Common StateMachine AFreshnessValueManagerImpl FvmRuntimeAttributesManager
open FreshnessValueManagerConfigAccessor

variable {acc : FreshnessValueManagerConfigAccessor} {id : SokFreshnessValueId}
variable {s s' s₀ s₁ s₂ : AFreshnessValueManagerImpl} {h h₀ h₁ h₂ : List ManagerEvent}
variable {conf : SokFvConfigInstance} {type : SokFreshnessType}
variable {P : Guard AFreshnessValueManagerImpl ManagerOp ManagerEvent}

/-- The configured identifiers are served as configured. -/
structure FreshnessWorks (acc : FreshnessValueManagerConfigAccessor) : Prop where
  /-- The accessor lists the configured identifiers. -/
  listed : ∀ id, id ∈ acc.getAllFreshnessValueIds ↔ acc.Configured id
  /-- `Init` gives every broadcast identifier an entry with its counter length. -/
  entries : ∀ id conf, acc.mConfig.mAuthBroadcastConfig.lookup id = some conf →
    ∃ a, (init acc ⟨∅⟩).entry id = some a ∧ a.sessionCounterLength = conf.sessionCounterLength ∧
      a.sessionCounterLastUsed.length = conf.sessionCounterLength.toNat
  /-- After its first message a broadcast identifier is protected with the current
  freshness value whenever there is a valid one. -/
  transmits : ∀ id conf, acc.mConfig.mAuthBroadcastConfig.lookup id = some conf →
    IsAuthBroadcastType conf.type → ∀ s₀, FreshlyInitialised s₀ → s₀.mFvmConfAccessor = acc →
    ∀ s₁ h₁, Run managerStep Anything s₀ [] s₁ h₁ →
    ∀ fv₁, (s₁.getTxFreshness id).1 = .ok fv₁ →
    ∀ s₂ h₂, Run managerStep Anything (s₁.getTxFreshness id).2
      (.tx id (s₁.getTxFreshness id).1 :: h₁) s₂ h₂ → s₂.mIsFvValid = true →
    ∃ fv₂, (s₂.getTxFreshness id).1 = .ok fv₂ ∧ fv₂.take 8 = uintToByteVector s₂.mFV ∧
      (s₂.mFV ≠ sokUpstartTime → fv₂.take 8 ≠ uintToByteVector sokUpstartTime)

/-- The type of a broadcast entry is the one that is configured. -/
theorem getEntryTypeByFvId_of_broadcast (hinit : acc.mInitialized = true)
    (hconf : acc.mConfig.mAuthBroadcastConfig.lookup id = some conf) :
    acc.getEntryTypeByFvId id = .ok conf.type := by
  rw [getEntryTypeByFvId, hinit, hconf]
  rfl

/-- A listed broadcast identifier gets an entry with its counter length. -/
theorem entry_of_listed (hinit : acc.mInitialized = true)
    (hconf : acc.mConfig.mAuthBroadcastConfig.lookup id = some conf)
    (hlisted : id ∈ acc.getAllFreshnessValueIds) :
    ∃ a, (init acc ⟨∅⟩).entry id = some a ∧ a.sessionCounterLength = conf.sessionCounterLength ∧
      a.sessionCounterLastUsed.length = conf.sessionCounterLength.toNat := by
  have hfound : acc.getSokFvConfigInstanceByFvId id = .ok conf := by
    rw [getSokFvConfigInstanceByFvId, hinit, hconf]
    rfl
  refine ⟨freshAttributes acc id, ?_, ?_, ?_⟩
  · rw [entry_init, if_pos hlisted]
  · rw [freshAttributes, hfound]
  · rw [freshAttributes, hfound]
    exact List.length_replicate

/-- An identifier in use is protected with a valid freshness value. -/
theorem take_getTxFv_of_active {a : SokFmRuntimeAttributes} (ha : s.attributes id = some a)
    (hactive : a.valueIsActive = true) (hvalid : s.mIsFvValid = true) :
    ((s.getTxFv id type).1).take 8 = uintToByteVector s.mFV := by
  have ha' : s.mAttrMgr.entry id = some a := ha
  have hused : s.mAttrMgr.isActive id = true := by
    rw [isActive_eq, ha']
    exact hactive
  rw [take_getTxFv, chooseTxFv, hused, hvalid]
  rfl

/-- A successful request for sending is one of a type for sending. -/
theorem isTxFvType_of_ok {fv : FVContainer} (hinit : s.mInitialized = true)
    (htype : s.mFvmConfAccessor.getEntryTypeByFvId id = .ok type)
    (hbroadcast : IsAuthBroadcastType type) (hok : (s.getTxFreshness id).1 = .ok fv) :
    IsTxFvType type := by
  rcases hbroadcast with (rfl | rfl) | rfl
  · exact Or.inl rfl
  · rw [getTxFreshness_of_receiver hinit htype] at hok
    cases hok
  · exact Or.inr rfl

/-- What is sent on an identifier that has an entry, after its first message. -/
theorem transmits_of_entry (hinit : FreshlyInitialised s₀)
    (htype : s₀.mFvmConfAccessor.getEntryTypeByFvId id = .ok type)
    (hbroadcast : IsAuthBroadcastType type) (hentry : (s₀.attributes id).isSome)
    (hrun₁ : Run managerStep Anything s₀ [] s₁ h₁) {fv₁ : FVContainer}
    (hok₁ : (s₁.getTxFreshness id).1 = .ok fv₁)
    (hrun₂ : Run managerStep Anything (s₁.getTxFreshness id).2
      (.tx id (s₁.getTxFreshness id).1 :: h₁) s₂ h₂)
    (hvalid : s₂.mIsFvValid = true) :
    ∃ fv₂, (s₂.getTxFreshness id).1 = .ok fv₂ ∧ fv₂.take 8 = uintToByteVector s₂.mFV := by
  have htracked₁ : Tracked s₀ id s₁ := tracked_of_run hinit hentry hrun₁
  have hstep : managerStep s₁ (.getTxFreshness id) =
      .ok ((s₁.getTxFreshness id).2, [.tx id (s₁.getTxFreshness id).1]) := rfl
  have hsend := hrun₁.step trivial hstep
  have htracked₂ : Tracked s₀ id s₂ := tracked_of_run hinit hentry (hsend.trans hrun₂)
  have htype₁ : s₁.mFvmConfAccessor.getEntryTypeByFvId id = .ok type := by
    rw [htracked₁.mFvmConfAccessor, htype]
  have htype₂ : s₂.mFvmConfAccessor.getEntryTypeByFvId id = .ok type := by
    rw [htracked₂.mFvmConfAccessor, htype]
  have htx : IsTxFvType type := isTxFvType_of_ok htracked₁.mInitialized htype₁ hbroadcast hok₁
  -- the first message puts the identifier into use, and there it stays
  obtain ⟨a, ha, -⟩ := (tracked_of_run hinit hentry hsend).entry
  have hactive : a.valueIsActive = true := by
    rw [getTxFreshness_eq htracked₁.mInitialized htype₁ htx] at ha
    exact active_getTxFv ha
  obtain ⟨a₂, ha₂, hactive₂, -⟩ :=
    active_of_run ⟨a, ha, hactive, UInt64.le_refl a.firstUsed⟩ hrun₂
  refine ⟨(s₂.getTxFv id type).1, ?_, take_getTxFv_of_active ha₂ hactive₂ hvalid⟩
  rw [getTxFreshness_eq htracked₂.mInitialized htype₂ htx]

/-- Every configured identifier works exactly when the configured identifiers are
the numbers below the number of configured entries. -/
theorem freshness_works_iff (config : SokFmConfig) :
    FreshnessWorks ⟨config, true⟩ ↔
      ∀ id : SokFreshnessValueId, id.toNat < entryCount ⟨config, true⟩ ↔
        Configured ⟨config, true⟩ id := by
  constructor
  · intro hworks id
    rw [← mem_getAllFreshnessValueIds rfl]
    exact hworks.listed id
  · intro hids
    have hlisted : ∀ id, id ∈ getAllFreshnessValueIds ⟨config, true⟩ ↔
        Configured ⟨config, true⟩ id := by
      intro id
      rw [mem_getAllFreshnessValueIds rfl]
      exact hids id
    have hbroadcastListed : ∀ id conf, config.mAuthBroadcastConfig.lookup id = some conf →
        id ∈ getAllFreshnessValueIds ⟨config, true⟩ := by
      intro id conf hconf
      rw [hlisted]
      exact Or.inl (AList.lookup_isSome.mp (by rw [hconf]; rfl))
    refine ⟨hlisted, ?_, ?_⟩
    · intro id conf hconf
      exact entry_of_listed rfl hconf (hbroadcastListed id conf hconf)
    · intro id conf hconf hbroadcast s₀ hinit haccessor s₁ h₁ hrun₁ fv₁ hok₁ s₂ h₂ hrun₂ hvalid
      have htype : s₀.mFvmConfAccessor.getEntryTypeByFvId id = .ok conf.type := by
        rw [haccessor]
        exact getEntryTypeByFvId_of_broadcast rfl hconf
      have hentry : (s₀.attributes id).isSome := by
        obtain ⟨a, ha, -⟩ := entry_of_listed rfl hconf (hbroadcastListed id conf hconf)
        show (s₀.mAttrMgr.entry id).isSome
        rw [hinit.mAttrMgr, haccessor, ha]
        rfl
      obtain ⟨fv₂, hok₂, htake⟩ :=
        transmits_of_entry hinit htype hbroadcast hentry hrun₁ hok₁ hrun₂ hvalid
      refine ⟨fv₂, hok₂, htake, ?_⟩
      intro hne hdefault
      rw [htake, uintToByteVector_inj] at hdefault
      exact hne hdefault

/-- A broadcast entry whose identifier is not below the number of entries. -/
def identifierFive : FreshnessValueManagerConfigAccessor :=
  .ofEntries [(5, ⟨.kVwSokFreshnessValue, 0, 0⟩)] [(6, ⟨.kVwSokFreshnessCrChallenge, default⟩)]

/-- The identifier is configured and not listed, and its messages are protected
with the default value although there is a valid freshness value. -/
theorem identifier_five_does_not_work :
    ¬ FreshnessWorks identifierFive ∧ identifierFive.Configured 5 ∧
    ∃ s h, Run managerStep Anything (initialisedManager identifierFive) [] s h ∧
      s.mIsFvValid = true ∧ s.mFV = 1000 ∧
      (s.getTxFreshness 5).1 = .ok (uintToByteVector sokUpstartTime) := by
  refine ⟨?_, by decide, ?_⟩
  · intro hworks
    have hlisted : (5 : SokFreshnessValueId) ∈ identifierFive.getAllFreshnessValueIds :=
      (hworks.listed 5).mpr (by decide)
    exact absurd hlisted (by decide)
  · exact Run.exists_of_exec [.getTxFreshness 5, .adoptFv 1000] (by decide +kernel)

end Sok.Fvm
