import SokFvm.Fvm.ChallengeLink
import SokFvm.Fvm.ConfigParser

/-!
# From the configuration to the challenge of an identifier

`registerToSignals` subscribes to the signal of every producer entry and routes it
to the identifier of the entry.  It does not visit the keys of the map but counts on
from the key that the iteration begins with, once for each entry.  So it runs through
the entries exactly if these numbers are the keys: `registerToSignals_ok_iff`.  The
order of a hash map decides on that.

A subscription that fails is passed over, and `Init` is successful without it.  Then
the challenges of the entry do not arrive.

`ResponsesServed` is the way of a challenge from its signal to `GetTxFreshness`, in
every state after the first `Init`, and `responses_served_iff` says for which
configurations and which answers of `Subscribe` every producer entry has it.
-/

namespace Sok.Fvm

open Sok.Common StateMachine AFreshnessValueManagerImpl FreshnessValueManagerConfigAccessor

variable {config : SokFmConfig} {signals : ISignalManager} {services : InitServices}
variable {self self' s s' s₀ : AFreshnessValueManagerImpl} {h : List ManagerEvent}
variable {id id' : SokFreshnessValueId} {ids : List SokFreshnessValueId} {name : String}
variable {conf : ChallengeConfigInstance} {challenge : ByteVector}

/-! ## What is registered -/

/-- The signal that an iteration of `registerToSignals` registers a handler for. -/
def handledSignal (signals : ISignalManager) (config : SokFmConfig) (id : SokFreshnessValueId) :
    Option String :=
  match config.mChallengesConfig.lookup id with
  | none => none
  | some conf =>
    if conf.type = .kVwSokFreshnessCrResponse ∧
        signals.subscribe conf.challengeSignalConfig = .kSuccess then
      some conf.challengeSignalConfig.name
    else none

/-- The identifiers that `registerToSignals` visits have entries: the map is not
empty, and its first key and the numbers after it, as many as there are entries, are
keys of it. -/
def VisitsEntries (config : SokFmConfig) : Prop :=
  ∃ first, config.mChallengesConfig.beginFirst = .ok first ∧
    ∀ id ∈ iota config.mChallengesConfig.size first, id ∈ config.mChallengesConfig

/-- An iteration for an identifier with an entry. -/
theorem registerToSignal_of_mem (haccessor : self.mFvmConfAccessor = ⟨config, true⟩)
    (hlookup : config.mChallengesConfig.lookup id = some conf) :
    registerToSignal signals self id = .ok (match handledSignal signals config id with
      | none => self
      | some name => { self with
          mChallengeSignalToFvId := self.mChallengeSignalToFvId.insert name id }) := by
  have hfound : self.mFvmConfAccessor.getChallengeConfigInstanceByFvId id = .ok conf := by
    rw [haccessor, getChallengeConfigInstanceByFvId, hlookup]
    rfl
  unfold registerToSignal handledSignal
  rw [hfound, hlookup]
  dsimp only
  by_cases htype : conf.type = .kVwSokFreshnessCrResponse
  · by_cases hsubscribed : signals.subscribe conf.challengeSignalConfig = .kSuccess
    · simp [htype, hsubscribed]
    · simp [htype, hsubscribed]
  · simp [htype]

/-- An iteration for an identifier without an entry. -/
theorem registerToSignal_of_notMem (haccessor : self.mFvmConfAccessor = ⟨config, true⟩)
    (hlookup : config.mChallengesConfig.lookup id = none) :
    registerToSignal signals self id = .error .derefEnd := by
  unfold registerToSignal
  rw [haccessor, getChallengeConfigInstanceByFvId, hlookup]
  rfl

/-- The loop runs to its end if and only if every identifier has an entry. -/
theorem registerToSignalsLoop_ok_iff (haccessor : self.mFvmConfAccessor = ⟨config, true⟩) :
    (∃ self', registerToSignalsLoop signals self ids = .ok self') ↔
      ∀ id ∈ ids, id ∈ config.mChallengesConfig := by
  induction ids generalizing self with
  | nil => simp [registerToSignalsLoop]
  | cons id ids ih =>
    rw [registerToSignalsLoop, List.forall_mem_cons]
    cases hlookup : config.mChallengesConfig.lookup id with
    | none =>
      rw [registerToSignal_of_notMem haccessor hlookup]
      have habsent : id ∉ config.mChallengesConfig := AList.lookup_eq_none.mp hlookup
      simp [habsent]
    | some conf =>
      have hnext : registerToSignal signals self id = .ok _ :=
        registerToSignal_of_mem haccessor hlookup
      have hmem : id ∈ config.mChallengesConfig :=
        AList.lookup_isSome.mp (Option.isSome_of_eq_some hlookup)
      rw [hnext]
      dsimp only
      rw [ih]
      · simp [hmem]
      · rw [registerToSignal_eq hnext]
        exact haccessor

/-- What the loop adds to the routes. -/
structure Routes (signals : ISignalManager) (config : SokFmConfig)
    (ids : List SokFreshnessValueId) (before after : UnorderedMap String SokFreshnessValueId) :
    Prop where
  origin : ∀ name id, after.lookup name = some id →
    before.lookup name = some id ∨ id ∈ ids ∧ handledSignal signals config id = some name
  kept : ∀ name, (before.lookup name).isSome → (after.lookup name).isSome
  added : ∀ name, ∀ id ∈ ids, handledSignal signals config id = some name →
    (after.lookup name).isSome

/-- An iteration that enters nothing. -/
theorem Routes.skip {before after : UnorderedMap String SokFreshnessValueId}
    (hroutes : Routes signals config ids before after)
    (hhandled : handledSignal signals config id = none) :
    Routes signals config (id :: ids) before after := by
  refine ⟨?_, hroutes.kept, ?_⟩
  · intro name id' hafter
    rcases hroutes.origin name id' hafter with hbefore | ⟨hmem, hname⟩
    · exact Or.inl hbefore
    · exact Or.inr ⟨List.mem_cons_of_mem _ hmem, hname⟩
  · intro name id' hmem hname
    rcases List.mem_cons.mp hmem with rfl | hmem
    · rw [hhandled] at hname
      cases hname
    · exact hroutes.added name id' hmem hname

/-- An iteration that enters its identifier for a signal. -/
theorem Routes.enter {before after : UnorderedMap String SokFreshnessValueId} {signal : String}
    (hroutes : Routes signals config ids (before.insert signal id) after)
    (hhandled : handledSignal signals config id = some signal) :
    Routes signals config (id :: ids) before after := by
  have hsignal : (after.lookup signal).isSome := by
    apply hroutes.kept
    simp
  refine ⟨?_, ?_, ?_⟩
  · intro name id' hafter
    rcases hroutes.origin name id' hafter with hbefore | ⟨hmem, hname⟩
    · by_cases hsame : name = signal
      · subst hsame
        rw [AList.lookup_insert, Option.some.injEq] at hbefore
        subst hbefore
        exact Or.inr ⟨List.mem_cons_self, hhandled⟩
      · rw [AList.lookup_insert_ne hsame] at hbefore
        exact Or.inl hbefore
    · exact Or.inr ⟨List.mem_cons_of_mem _ hmem, hname⟩
  · intro name hbefore
    by_cases hsame : name = signal
    · subst hsame
      exact hsignal
    · apply hroutes.kept
      rw [AList.lookup_insert_ne hsame]
      exact hbefore
  · intro name id' hmem hname
    rcases List.mem_cons.mp hmem with rfl | hmem
    · rw [hhandled, Option.some.injEq] at hname
      subst hname
      exact hsignal
    · exact hroutes.added name id' hmem hname

theorem routes_of_loop (haccessor : self.mFvmConfAccessor = ⟨config, true⟩)
    (hloop : registerToSignalsLoop signals self ids = .ok self') :
    Routes signals config ids self.mChallengeSignalToFvId self'.mChallengeSignalToFvId := by
  induction ids generalizing self with
  | nil =>
    cases hloop
    exact ⟨fun _ _ hafter => Or.inl hafter, fun _ hbefore => hbefore, by simp⟩
  | cons id ids ih =>
    rw [registerToSignalsLoop] at hloop
    cases hlookup : config.mChallengesConfig.lookup id with
    | none =>
      rw [registerToSignal_of_notMem haccessor hlookup] at hloop
      cases hloop
    | some conf =>
      rw [registerToSignal_of_mem haccessor hlookup] at hloop
      dsimp only at hloop
      cases hhandled : handledSignal signals config id with
      | none =>
        rw [hhandled] at hloop
        exact (ih haccessor hloop).skip hhandled
      | some signal =>
        rw [hhandled] at hloop
        have hroutes : Routes signals config ids (self.mChallengeSignalToFvId.insert signal id)
            self'.mChallengeSignalToFvId := ih (by exact haccessor) hloop
        exact hroutes.enter hhandled

/-! ## The identifiers that are visited -/

theorem length_iota (size : Nat) (first : SokFreshnessValueId) :
    (iota size first).length = size := by
  simp [iota]

/-- As long as the numbers do not wrap around, they are different. -/
theorem nodup_iota {size : Nat} (hsize : size ≤ 2 ^ 32) (first : SokFreshnessValueId) :
    (iota size first).Nodup := by
  unfold iota
  apply List.Nodup.map_on _ List.nodup_range
  intro j hj k hk heq
  rw [List.mem_range] at hj hk
  have hnat := congrArg UInt32.toNat ((UInt32.add_right_inj first).mp heq)
  simp only [UInt32.toNat_ofNat'] at hnat
  omega

/-- There are no more keys than identifiers. -/
theorem size_le {α : Type} (map : UnorderedMap SokFreshnessValueId α) :
    map.size ≤ 2 ^ 32 := by
  have hnodup : (map.keys.map UInt32.toNat).Nodup :=
    List.Nodup.map (fun _ _ heq => UInt32.toNat_inj.mp heq) (AList.keys_nodup map)
  have hsub : map.keys.map UInt32.toNat ⊆ List.range (2 ^ 32) := by
    intro n hn
    obtain ⟨id, -, rfl⟩ := List.mem_map.mp hn
    exact List.mem_range.mpr id.toNat_lt
  have hle := (List.subperm_of_subset hnodup hsub).length_le
  rw [List.length_map, List.length_range] at hle
  have hkeys : map.keys.length = map.size := List.length_map _
  omega

/-- If all that are visited have entries, all entries are visited. -/
theorem mem_iota_of_mem {first : SokFreshnessValueId}
    (hvisits : ∀ id ∈ iota config.mChallengesConfig.size first, id ∈ config.mChallengesConfig)
    (hmem : id ∈ config.mChallengesConfig) : id ∈ iota config.mChallengesConfig.size first := by
  have hsub : iota config.mChallengesConfig.size first ⊆ config.mChallengesConfig.keys :=
    fun id' hid' => AList.mem_keys.mp (hvisits id' hid')
  have hkeys : config.mChallengesConfig.keys.length = config.mChallengesConfig.size :=
    List.length_map _
  have hperm := (List.subperm_of_subset (nodup_iota (size_le _) first) hsub).perm_of_length_le
    (by rw [length_iota, hkeys])
  exact hperm.mem_iff.mpr (AList.mem_keys.mp hmem)

/-- `registerToSignals` faults unless the identifiers that it visits have entries. -/
theorem registerToSignals_ok_iff (haccessor : self.mFvmConfAccessor = ⟨config, true⟩) :
    (∃ self', self.registerToSignals signals = .ok self') ↔ VisitsEntries config := by
  have hids : self.mFvmConfAccessor.getAllChallengeFreshnessValueIds =
      (config.mChallengesConfig.beginFirst).map (iota config.mChallengesConfig.size) := by
    rw [haccessor]
    rfl
  unfold registerToSignals VisitsEntries
  rw [hids]
  cases config.mChallengesConfig.beginFirst with
  | error fault => simp [Except.map]
  | ok first =>
    have hloop : (∃ self', registerToSignalsLoop signals self
        (iota config.mChallengesConfig.size first) = .ok self') ↔ _ :=
      registerToSignalsLoop_ok_iff haccessor
    simpa [Except.map] using hloop

/-! ## What `Init` registers -/

/-- The first `Init` of a participant or a server in this environment was
successful, and this is the base class after it. -/
def InitialisedWith (services : InitServices) (s : AFreshnessValueManagerImpl) : Prop :=
  (∃ p, FreshnessValueManagerImplParticipant.derivedClass.init services (.construct .construct) =
      .ok (.kSuccess, p) ∧ p.toAFreshnessValueManagerImpl = s) ∨
    ∃ p, FreshnessValueManagerImplServer.derivedClass.init services (.construct .construct) =
      .ok (.kSuccess, p) ∧ p.toAFreshnessValueManagerImpl = s

theorem InitialisedWith.firstInit (hinit : InitialisedWith services s) : s.FirstInit := by
  rcases hinit with ⟨p, hp, hs⟩ | ⟨p, hp, hs⟩
  · exact Or.inl ⟨p, ⟨services, hp⟩, hs⟩
  · exact Or.inr ⟨p, ⟨services, hp⟩, hs⟩

/-- The override of the server keeps the routes. -/
theorem mChallengeSignalToFvId_serverOrParticipantInit (server : FreshnessValueManagerImplServer)
    (csm : ICsmAccessor) (signals : ISignalManager)
    (order : UnorderedMap.VisitOrder (Σ _ : String, SokFvClientConfigArrayInstance)) :
    (server.serverOrParticipantInit csm signals order).2.mChallengeSignalToFvId =
      server.mChallengeSignalToFvId := by
  unfold FreshnessValueManagerImplServer.serverOrParticipantInit
  split
  · rfl
  · dsimp only
    rw [FreshnessValueManagerImplServer.base_subscribeClients]

/-- What the first `Init` registers is what `registerToSignals` registers. -/
theorem InitialisedWith.registered (hinit : InitialisedWith services s)
    (hparse : services.parse default = (true, config)) :
    s.mFvmConfAccessor = ⟨config, true⟩ ∧
      ∃ self self' : AFreshnessValueManagerImpl,
        self.mFvmConfAccessor = ⟨config, true⟩ ∧ self.mChallengeSignalToFvId = ∅ ∧
        self.registerToSignals services.mSignalManager = .ok self' ∧
        s.mChallengeSignalToFvId = self'.mChallengeSignalToFvId := by
  have haccessor : (construct.mFvmConfAccessor.init services.parse).2 = ⟨config, true⟩ := by
    unfold FreshnessValueManagerConfigAccessor.init construct
    rw [if_neg Bool.false_ne_true, hparse]
  rcases hinit with ⟨p, hp, rfl⟩ | ⟨p, hp, rfl⟩
  · obtain ⟨-, -, base, ret, hregister, hret, rfl⟩ := DerivedClass.init_eq_success hp
    have hbase : ret.toAFreshnessValueManagerImpl = base := by
      have hcalled := FreshnessValueManagerImplParticipant.base_serverOrParticipantInit
        (.construct base) services.mCsmAccessor services.mSignalManager
      have hret' : (FreshnessValueManagerImplParticipant.construct base).serverOrParticipantInit
          services.mCsmAccessor services.mSignalManager = (true, ret) := hret
      rw [hret'] at hcalled
      exact hcalled
    refine ⟨?_, _, base, haccessor, rfl, hregister, ?_⟩
    · show ret.toAFreshnessValueManagerImpl.mFvmConfAccessor = _
      rw [hbase, registerToSignals_eq hregister]
      exact haccessor
    · show ret.toAFreshnessValueManagerImpl.mChallengeSignalToFvId = _
      rw [hbase]
  · obtain ⟨-, -, base, ret, hregister, hret, rfl⟩ := DerivedClass.init_eq_success hp
    have hret' : (FreshnessValueManagerImplServer.construct base).serverOrParticipantInit
        services.mCsmAccessor services.mSignalManager services.order = (true, ret) := hret
    have hroutes := mChallengeSignalToFvId_serverOrParticipantInit (.construct base)
      services.mCsmAccessor services.mSignalManager services.order
    have hsetup := FreshnessValueManagerImplServer.derivedClass.sameSetup services
      (.construct base)
    rw [hret'] at hroutes
    have hsame : ret.toAFreshnessValueManagerImpl.mFvmConfAccessor = base.mFvmConfAccessor := by
      have hcalled : (FreshnessValueManagerImplServer.derivedClass.serverOrParticipantInit
        services (.construct base)).2 = ret := congrArg Prod.snd hret'
      rw [hcalled] at hsetup
      exact hsetup.mFvmConfAccessor
    refine ⟨?_, _, base, haccessor, rfl, hregister, hroutes⟩
    show ret.toAFreshnessValueManagerImpl.mFvmConfAccessor = _
    rw [hsame, registerToSignals_eq hregister]
    exact haccessor

/-- An entry of a producer. -/
def ResponseEntry (config : SokFmConfig) (id : SokFreshnessValueId)
    (conf : ChallengeConfigInstance) : Prop :=
  config.mChallengesConfig.lookup id = some conf ∧ conf.type = .kVwSokFreshnessCrResponse

/-- The challenge entries have signals of different names. -/
def DistinctSignals (config : SokFmConfig) : Prop :=
  ∀ id conf id' conf', config.mChallengesConfig.lookup id = some conf →
    config.mChallengesConfig.lookup id' = some conf' →
    conf.challengeSignalConfig.name = conf'.challengeSignalConfig.name → id = id'

/-- The signals with a handler after `registerToSignals`. -/
def handledSignals (signals : ISignalManager) (config : SokFmConfig) : List String :=
  match config.mChallengesConfig.beginFirst with
  | .error _ => []
  | .ok first =>
    (iota config.mChallengesConfig.size first).filterMap (handledSignal signals config)

theorem handledSignal_eq_some_iff :
    handledSignal signals config id = some name ↔
      ∃ conf, ResponseEntry config id conf ∧
        signals.subscribe conf.challengeSignalConfig = .kSuccess ∧
        conf.challengeSignalConfig.name = name := by
  unfold handledSignal ResponseEntry
  constructor
  · intro hhandled
    split at hhandled
    · cases hhandled
    · rename_i conf hlookup
      split at hhandled
      · rename_i hgood
        exact ⟨conf, ⟨hlookup, hgood.1⟩, hgood.2, Option.some.inj hhandled⟩
      · cases hhandled
  · rintro ⟨conf, ⟨hlookup, htype⟩, hsubscribed, rfl⟩
    rw [hlookup]
    exact if_pos ⟨htype, hsubscribed⟩

/-- With different names, the signal of an entry is routed to the entry. -/
theorem InitialisedWith.routed (hinit : InitialisedWith services s)
    (hparse : services.parse default = (true, config)) (hdistinct : DistinctSignals config)
    (hentry : ResponseEntry config id conf)
    (hsubscribed : services.mSignalManager.subscribe conf.challengeSignalConfig = .kSuccess) :
    s.mChallengeSignalToFvId.lookup conf.challengeSignalConfig.name = some id ∧
      conf.challengeSignalConfig.name ∈ handledSignals services.mSignalManager config := by
  obtain ⟨-, self, self', haccessor, hempty, hregister, hroutes⟩ := hinit.registered hparse
  obtain ⟨first, hfirst, hvisits⟩ := (registerToSignals_ok_iff haccessor).mp ⟨_, hregister⟩
  have hmem : id ∈ iota config.mChallengesConfig.size first :=
    mem_iota_of_mem hvisits (AList.lookup_isSome.mp (Option.isSome_of_eq_some hentry.1))
  have hhandled : handledSignal services.mSignalManager config id =
      some conf.challengeSignalConfig.name :=
    handledSignal_eq_some_iff.mpr ⟨conf, hentry, hsubscribed, rfl⟩
  have hloop : registerToSignalsLoop services.mSignalManager self
      (iota config.mChallengesConfig.size first) = .ok self' := by
    unfold registerToSignals getAllChallengeFreshnessValueIds at hregister
    rw [haccessor] at hregister
    dsimp only at hregister
    rw [hfirst] at hregister
    exact hregister
  have hadded := routes_of_loop haccessor hloop
  constructor
  · obtain ⟨id', hid'⟩ := Option.isSome_iff_exists.mp (hadded.added _ id hmem hhandled)
    rcases hadded.origin _ _ hid' with hbefore | ⟨-, hother⟩
    · rw [hempty] at hbefore
      cases hbefore
    · obtain ⟨conf', hentry', -, hname⟩ := handledSignal_eq_some_iff.mp hother
      rw [hroutes, hid', hdistinct _ _ _ _ hentry'.1 hentry.1 hname]
  · unfold handledSignals
    rw [hfirst]
    exact List.mem_filterMap.mpr ⟨id, hmem, hhandled⟩

/-! ## The way of a challenge -/

/-- `OfferCrRequest` was successful for the identifier. -/
def Offered (s : AFreshnessValueManagerImpl) (id : SokFreshnessValueId) : Prop :=
  (s.mFvIdToNotificationCallback.lookup id).isSome

/-- A signal arrives: the handlers that are registered for it are called. -/
def deliver (handled : List String) (s : AFreshnessValueManagerImpl) (signal : String)
    (value : ByteVector) : AFreshnessValueManagerImpl :=
  if signal ∈ handled then (s.incomingChallengeSignalCb signal value).2 else s

/-- A challenge that arrives is stored for the identifier, and for no other one, and
the next `GetTxFreshness` gives it out. -/
structure ServesChallenge (handled : List String) (s : AFreshnessValueManagerImpl)
    (id : SokFreshnessValueId) (signal : String) (challenge : ByteVector) : Prop where
  stored : (deliver handled s signal challenge).mActiveIncomingChallenges =
    s.mActiveIncomingChallenges.insert id (s.mTimeSinceInit, challenge)
  returned : ((deliver handled s signal challenge).getTxFreshness id).1 = .ok challenge

/-- Every producer entry is served, in an environment and with a configuration. -/
structure ResponsesServed (services : InitServices) (config : SokFmConfig) : Prop where
  noFault : ∀ self : AFreshnessValueManagerImpl, self.mFvmConfAccessor = ⟨config, true⟩ →
    ∀ fault, self.registerToSignals services.mSignalManager ≠ .error fault
  served : ∀ s₀, InitialisedWith services s₀ → DistinctSignals config →
    ∀ s h, Run managerStep Anything s₀ [] s h →
    ∀ id conf, ResponseEntry config id conf → Offered s id →
    s.challengeUndergoing s.mActiveIncomingChallenges id = false →
    ∀ challenge : ByteVector, challenge.length = challengeLengthBytes.toNat →
      ServesChallenge (handledSignals services.mSignalManager config) s id
        conf.challengeSignalConfig.name challenge

/-- The identifiers that are visited have entries, and no subscription for a producer
entry fails whose identifier is not one of the authentic broadcast too. -/
structure Serviceable (services : InitServices) (config : SokFmConfig) : Prop where
  visits : VisitsEntries config
  subscribed : (∃ s₀, InitialisedWith services s₀) → DistinctSignals config →
    ∀ id conf, ResponseEntry config id conf → id ∉ config.mAuthBroadcastConfig →
      services.mSignalManager.subscribe conf.challengeSignalConfig = .kSuccess

/-- What a run keeps of what `Init` registered. -/
structure KeepsRoutes (s₀ s : AFreshnessValueManagerImpl) : Prop where
  setup : SameSetup s₀ s
  routes : s.mChallengeSignalToFvId = s₀.mChallengeSignalToFvId
  offered : ∀ id, Offered s id →
    s.mFvmConfAccessor.getEntryTypeByFvId id = .ok .kVwSokFreshnessCrResponse

theorem KeepsRoutes.step (hkeeps : KeepsRoutes s₀ s) (hinit : s₀.mInitialized = true)
    (op : ManagerOp) : KeepsRoutes s₀ (managerNext s op).1 := by
  have heffect := managerNext_effect (s := s) op
  have hinit' : s.mInitialized = true := hkeeps.setup.mInitialized.trans hinit
  obtain ⟨hroutes, hcallbacks⟩ := managerNext_registrations hinit' op
  refine ⟨hkeeps.setup.trans ⟨heffect.mInitialized, heffect.mFvmConfAccessor⟩,
    hroutes.trans hkeeps.routes, ?_⟩
  intro id hoffered
  unfold Offered at hoffered
  rw [heffect.mFvmConfAccessor]
  rcases hcallbacks with hsame | ⟨id', cb, htype, hinserted⟩
  · rw [hsame] at hoffered
    exact hkeeps.offered id hoffered
  · rw [hinserted] at hoffered
    by_cases hid : id = id'
    · rw [hid]
      exact htype
    · rw [AList.lookup_insert_ne hid] at hoffered
      exact hkeeps.offered id hoffered

theorem keepsRoutes_of_run (hfirst : FirstInitialised s₀)
    (hrun : Run managerStep Anything s₀ [] s h) : KeepsRoutes s₀ s := by
  refine hrun.stateInvariant (KeepsRoutes s₀) ⟨⟨rfl, rfl⟩, rfl, ?_⟩ ?_
  · intro id hoffered
    unfold Offered at hoffered
    rw [hfirst.mFvIdToNotificationCallback] at hoffered
    cases hoffered
  · intro s h op s' es hkeeps _ hstep
    have hnext : managerNext s op = (s', es) := Except.ok.inj hstep
    have hstepped := hkeeps.step hfirst.mInitialized op
    rw [hnext] at hstepped
    exact hstepped

/-- A producer that receives from the signal stores the challenge. -/
theorem Receives.stores (hreceives : Receives id name s)
    (hlength : challenge.length = challengeLengthBytes.toNat)
    (hidle : s.challengeUndergoing s.mActiveIncomingChallenges id = false) :
    (s.incomingChallengeSignalCb name challenge).2 = { s with
      mActiveIncomingChallenges :=
        s.mActiveIncomingChallenges.insert id (s.mTimeSinceInit, challenge) } := by
  obtain ⟨cb, hoffered⟩ := Option.isSome_iff_exists.mp hreceives.offered
  unfold incomingChallengeSignalCb
  rw [if_neg (not_not_intro hlength), hreceives.registered]
  dsimp only
  rw [hoffered]
  dsimp only
  rw [hidle]
  rfl

/-- With a handler for the signal, the challenge is served. -/
theorem Receives.serves {handled : List String} (hreceives : Receives id name s)
    (hhandled : name ∈ handled) (hinit : s.mInitialized = true)
    (htype : s.mFvmConfAccessor.getEntryTypeByFvId id = .ok .kVwSokFreshnessCrResponse)
    (hlength : challenge.length = challengeLengthBytes.toNat)
    (hidle : s.challengeUndergoing s.mActiveIncomingChallenges id = false) :
    ServesChallenge handled s id name challenge := by
  have hdelivered : deliver handled s name challenge = _ :=
    (if_pos hhandled).trans (hreceives.stores hlength hidle)
  constructor
  · rw [hdelivered]
  · rw [hdelivered]
    refine (getTxFreshness_response_iff ?_ ?_).mpr ⟨s.mTimeSinceInit, AList.lookup_insert _⟩
    · exact hinit
    · exact htype

/-- A producer's identifier is none of the authentic broadcast. -/
theorem notMem_of_response (htyped : FvmConfigParser.WellTyped config)
    (haccessor : s.mFvmConfAccessor = ⟨config, true⟩)
    (htype : s.mFvmConfAccessor.getEntryTypeByFvId id = .ok .kVwSokFreshnessCrResponse) :
    id ∉ config.mAuthBroadcastConfig := by
  intro hmem
  obtain ⟨conf, hlookup⟩ := Option.isSome_iff_exists.mp (AList.lookup_isSome.mpr hmem)
  have hbroadcast := htyped.broadcast id conf hlookup
  have hentry : s.mFvmConfAccessor.getEntryTypeByFvId id = .ok conf.type := by
    rw [haccessor, getEntryTypeByFvId, hlookup]
    rfl
  rw [hentry, Except.ok.injEq] at htype
  rw [htype] at hbroadcast
  rcases hbroadcast with h | h | h
  · cases h
  · cases h
  · cases h

/-- An entry that is offered right after `Init` is served only if its subscription
was successful. -/
theorem subscribed_of_served (hserved : ResponsesServed services config)
    (hparse : services.parse default = (true, config)) (hinit : InitialisedWith services s₀)
    (hdistinct : DistinctSignals config) (hentry : ResponseEntry config id conf)
    (habsent : id ∉ config.mAuthBroadcastConfig) :
    services.mSignalManager.subscribe conf.challengeSignalConfig = .kSuccess := by
  have hfirst := hinit.firstInit.spec
  have haccessor := (hinit.registered hparse).1
  have htype : s₀.mFvmConfAccessor.getEntryTypeByFvId id = .ok .kVwSokFreshnessCrResponse := by
    rw [haccessor, getEntryTypeByFvId, AList.lookup_eq_none.mpr habsent, hentry.1]
    exact congrArg Except.ok hentry.2
  -- the application offers the identifier, and then a challenge arrives
  have hstep : managerStep s₀ (.offerCrRequest id 0) = .ok ({ s₀ with
      mFvIdToNotificationCallback := s₀.mFvIdToNotificationCallback.insert id 0 }, []) := by
    show Except.ok ((s₀.offerCrRequest id 0).2, _) = _
    rw [offerCrRequest, if_pos htype]
  have hidle : s₀.challengeUndergoing s₀.mActiveIncomingChallenges id = false := by
    rw [hfirst.mActiveIncomingChallenges]
    rfl
  have hserves := hserved.served s₀ hinit hdistinct _ _ (.single trivial hstep) id conf hentry
    (by simp [Offered]) hidle (.replicate 8 0) rfl
  have hstored := hserves.stored
  unfold deliver at hstored
  split at hstored
  · rename_i hhandled
    unfold handledSignals at hhandled
    split at hhandled
    · cases hhandled
    · obtain ⟨id', -, hid'⟩ := List.mem_filterMap.mp hhandled
      obtain ⟨conf', hentry', hsubscribed, hname⟩ := handledSignal_eq_some_iff.mp hid'
      have hsame : id' = id := hdistinct _ _ _ _ hentry'.1 hentry.1 hname
      rw [hsame, ResponseEntry, hentry.1] at hentry'
      rw [Option.some.inj hentry'.1]
      exact hsubscribed
  · -- the challenge was not delivered
    dsimp only at hstored
    rw [hfirst.mActiveIncomingChallenges] at hstored
    have hlookup := congrArg (AList.lookup id) hstored
    rw [AList.lookup_insert] at hlookup
    cases hlookup

/-- **Which configurations serve every producer entry.**  For what `Parse` accepts, in
any order of the entries, and for any answers of `Subscribe`: `registerToSignals` runs
to its end and a challenge for an entry arrives, is stored for the entry and is given
out, if and only if the identifiers that are visited have entries and no subscription
for a producer entry fails. -/
theorem responses_served_iff {document : String → Option Json} {parser parser' : FvmConfigParser}
    {json : String} {parsed : SokFmConfig}
    (hparsed : parser.parse document json default = .ok (true, parser', parsed))
    (hsame : FvmConfigParser.Reordered parsed config)
    (hparse : services.parse default = (true, config)) :
    ResponsesServed services config ↔ Serviceable services config := by
  obtain ⟨-, -, -, doc, -, hdoc⟩ := FvmConfigParser.parse_eq_true hparsed
  have htyped : FvmConfigParser.WellTyped config :=
    (hdoc.wellTyped FvmConfigParser.wellTyped_default).of_reordered hsame
  constructor
  · intro hserved
    refine ⟨?_, ?_⟩
    · have haccessor : (initialisedManager ⟨config, true⟩).mFvmConfAccessor = ⟨config, true⟩ :=
        rfl
      have hruns : ∃ self', (initialisedManager ⟨config, true⟩).registerToSignals
          services.mSignalManager = .ok self' := by
        cases hregister : (initialisedManager ⟨config, true⟩).registerToSignals
            services.mSignalManager with
        | ok self' => exact ⟨self', rfl⟩
        | error fault => exact absurd hregister (hserved.noFault _ haccessor fault)
      exact (registerToSignals_ok_iff haccessor).mp hruns
    · rintro ⟨s₀, hinit⟩ hdistinct id conf hentry habsent
      exact subscribed_of_served hserved hparse hinit hdistinct hentry habsent
  · intro hserviceable
    refine ⟨?_, ?_⟩
    · intro self haccessor fault hfault
      obtain ⟨self', hregister⟩ := (registerToSignals_ok_iff haccessor).mpr hserviceable.visits
      rw [hfault] at hregister
      cases hregister
    · intro s₀ hinit hdistinct s h hrun id conf hentry hoffered hidle challenge hlength
      have hfirst := hinit.firstInit.spec
      have hkeeps := keepsRoutes_of_run hfirst hrun
      have htype := hkeeps.offered id hoffered
      have haccessor : s.mFvmConfAccessor = ⟨config, true⟩ :=
        hkeeps.setup.mFvmConfAccessor.trans (hinit.registered hparse).1
      have hsubscribed := hserviceable.subscribed ⟨s₀, hinit⟩ hdistinct id conf hentry
        (notMem_of_response htyped haccessor htype)
      obtain ⟨hrouted, hhandled⟩ := hinit.routed hparse hdistinct hentry hsubscribed
      have hreceives : Receives id conf.challengeSignalConfig.name s :=
        ⟨by rw [hkeeps.routes, hrouted], hoffered⟩
      exact hreceives.serves hhandled (hkeeps.setup.mInitialized.trans hfirst.mInitialized) htype
        hlength hidle

/-- One producer entry, with the identifier that the broadcast entries leave. -/
def producerDocument : Json :=
  FvmConfigParser.documentOf [FvmConfigParser.broadcastElement 0 "FV" 0]
    [FvmConfigParser.challengeElement 1 "RESPONSE" "CR"]

/-- What `Parse` makes of it. -/
def producerEntryConfig : SokFmConfig := FvmConfigParser.configurationOf producerDocument

/-- It is served when its subscription is successful. -/
theorem responses_served_one :
    ResponsesServed (reliableInit producerEntryConfig) producerEntryConfig := by
  have hparsed : FvmConfigParser.parse (fun _ => some producerDocument) .construct "document"
      default = .ok (true, { mSchema := true }, producerEntryConfig) :=
    FvmConfigParser.parse_eq_configurationOf (by decide +kernel)
  have hvisited : iota producerEntryConfig.mChallengesConfig.size 1 = [1] := by decide +kernel
  refine (responses_served_iff hparsed (.refl _) rfl).mpr ⟨⟨1, ?_, ?_⟩, ?_⟩
  · decide +kernel
  · intro id hid
    rw [hvisited, List.mem_singleton] at hid
    rw [hid]
    decide +kernel
  · intro _ _ _ _ _ _
    rfl

/-- A configuration without challenge entries. -/
def noChallengeDocument : Json :=
  FvmConfigParser.documentOf [FvmConfigParser.broadcastElement 0 "FV" 0] []

/-- It is accepted, and `registerToSignals` dereferences the begin of an empty map. -/
theorem no_entries_fault :
    let config := FvmConfigParser.configurationOf noChallengeDocument
    FvmConfigParser.parse (fun _ => some noChallengeDocument) .construct "document" default =
        .ok (true, { mSchema := true }, config) ∧
      ¬ ResponsesServed (reliableInit config) config := by
  intro config
  refine ⟨FvmConfigParser.parse_eq_configurationOf (by decide +kernel), ?_⟩
  intro hserved
  have hfaults : ((initialisedManager ⟨config, true⟩).registerToSignals reliableSignals).map
      (fun _ => ()) = .error .derefEnd := by
    decide +kernel
  cases hregister : (initialisedManager ⟨config, true⟩).registerToSignals reliableSignals with
  | ok self' =>
    rw [hregister] at hfaults
    cases hfaults
  | error fault => exact hserved.noFault _ rfl fault hregister

end Sok.Fvm
