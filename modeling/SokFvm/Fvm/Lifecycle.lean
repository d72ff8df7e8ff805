import SokFvm.Fvm.ParticipantRun
import SokFvm.Fvm.ServerRun

/-!
# `Init` and `Deinit`

`Init` reads the configuration, checks the keys, sets up the attribute table,
registers for the challenge signals and then calls `serverOrParticipantInit`,
which server and participant override.  `Deinit` is not virtual.  Both are
functions of a `DerivedClass`: the part of a derived object that the base class
sees, and the override.

Reading the configuration is one function of the environment, `parse`: it opens,
reads and parses the file into the configuration that the accessor holds.  The
accessor is a single object for the whole process, and nothing takes its
initialisation back.

There are three groups.

* What a successful `Init` leaves behind, `init_eq_success`, and from it the
  states after the first `Init` of a fresh object: `FirstInit`.
* What `Deinit` leaves behind.  It does not touch the challenge maps, the
  registered call-backs or the members of the derived classes.
* Runs of an object that is initialised and deinitialised any number of times,
  `lifecycleStep`.  An object that is initialised has an accessor that is
  initialised, and then `Init` fails after `Deinit`: `reinit_fails`.
-/

namespace Sok.Fvm

open Sok.Common StateMachine

/-- What one call of `Init` meets. -/
structure InitServices where
  mCsmAccessor : ICsmAccessor
  mSignalManager : ISignalManager
  /-- Open, read and parse the configuration file. -/
  parse : SokFmConfig → Bool × SokFmConfig
  order : UnorderedMap.VisitOrder (Σ _ : String, SokFvClientConfigArrayInstance)

/-- `FreshnessValueManagerConfigAccessor::Init`. -/
def FreshnessValueManagerConfigAccessor.init (acc : FreshnessValueManagerConfigAccessor)
    (parse : SokFmConfig → Bool × SokFmConfig) : Bool × FreshnessValueManagerConfigAccessor :=
  if acc.mInitialized then (false, acc)
  else
    let parsed := parse acc.mConfig
    (parsed.1, { mConfig := parsed.2, mInitialized := parsed.1 })

namespace AFreshnessValueManagerImpl

/-- The constructor. The accessor has not been initialised by anyone yet. -/
def construct : AFreshnessValueManagerImpl :=
  { mInitialized := false
    mIsFvValid := false
    mTimeSinceInit := 0
    mClockCount := 0
    mFV := 0
    mActiveOutgoingChallenges := ∅
    mActiveIncomingChallenges := ∅
    mChallengeSignalToFvId := ∅
    mFvIdToNotificationCallback := ∅
    mFvRxCandidates := ∅
    mAttrMgr := ⟨∅⟩
    mFvmConfAccessor := { mConfig := default, mInitialized := false } }

variable (self : AFreshnessValueManagerImpl)

/-- The test of `Init` that every configured key exists. -/
def allKeysExist (mCsmAccessor : ICsmAccessor) : Bool :=
  self.mFvmConfAccessor.getSokKeyConfig.entries.all fun keyId =>
    mCsmAccessor.isKeyExists keyId.2 = .kSuccess

/-- One iteration of `registerToSignals`.  A failed result holds no object that
`getObject` could give. -/
def registerToSignal (mSignalManager : ISignalManager) (self : AFreshnessValueManagerImpl)
    (id : SokFreshnessValueId) : Except Fault AFreshnessValueManagerImpl :=
  match self.mFvmConfAccessor.getChallengeConfigInstanceByFvId id with
  | .error _ => .error .derefEnd
  | .ok conf =>
    if conf.type ≠ .kVwSokFreshnessCrResponse then .ok self
    else if mSignalManager.subscribe conf.challengeSignalConfig ≠ .kSuccess then .ok self
    else .ok { self with
      mChallengeSignalToFvId :=
        self.mChallengeSignalToFvId.insert conf.challengeSignalConfig.name id }

/-- The loop of `registerToSignals`. -/
def registerToSignalsLoop (mSignalManager : ISignalManager) (self : AFreshnessValueManagerImpl) :
    List SokFreshnessValueId → Except Fault AFreshnessValueManagerImpl
  | [] => .ok self
  | id :: ids =>
    match registerToSignal mSignalManager self id with
    | .error fault => .error fault
    | .ok self => registerToSignalsLoop mSignalManager self ids

/-- `registerToSignals`. It always returns `true`. -/
def registerToSignals (mSignalManager : ISignalManager) :
    Except Fault AFreshnessValueManagerImpl :=
  match self.mFvmConfAccessor.getAllChallengeFreshnessValueIds with
  | .error fault => .error fault
  | .ok ids => registerToSignalsLoop mSignalManager self ids

/-- `Deinit`. -/
def deinit : FvmErrorCode × AFreshnessValueManagerImpl :=
  if !self.mInitialized then (.kSuccess, self)
  else
    (.kSuccess, { self with
      mInitialized := false
      mAttrMgr := .reset
      mIsFvValid := false
      mTimeSinceInit := 0
      mClockCount := 0
      mFV := 0
      mChallengeSignalToFvId := ∅
      mFvRxCandidates := ∅ })

end AFreshnessValueManagerImpl

/-- The members of the base class that no override of `serverOrParticipantInit`
writes. -/
structure SameSetup (s s' : AFreshnessValueManagerImpl) : Prop where
  mInitialized : s'.mInitialized = s.mInitialized
  mFvmConfAccessor : s'.mFvmConfAccessor = s.mFvmConfAccessor

theorem SameSetup.trans {s₁ s₂ s₃ : AFreshnessValueManagerImpl} (first : SameSetup s₁ s₂)
    (second : SameSetup s₂ s₃) : SameSetup s₁ s₃ :=
  ⟨second.mInitialized.trans first.mInitialized,
    second.mFvmConfAccessor.trans first.mFvmConfAccessor⟩

/-- A class that derives from `AFreshnessValueManagerImpl`: the base class
subobject, and the override of `serverOrParticipantInit`. -/
structure DerivedClass (σ : Type) where
  base : σ → AFreshnessValueManagerImpl
  withBase : σ → AFreshnessValueManagerImpl → σ
  serverOrParticipantInit : InitServices → σ → Bool × σ
  base_withBase : ∀ s b, base (withBase s b) = b
  withBase_base : ∀ s, withBase s (base s) = s
  sameSetup : ∀ services s, SameSetup (base s) (base (serverOrParticipantInit services s).2)

namespace DerivedClass

variable {σ : Type} (cls : DerivedClass σ)

/-- `Init`. -/
def init (services : InitServices) (self : σ) : Except Fault (FvmErrorCode × σ) :=
  if (cls.base self).mInitialized then .ok (.kAlreadyInitialized, self)
  else
    let accessor := (cls.base self).mFvmConfAccessor.init services.parse
    let base := { cls.base self with mFvmConfAccessor := accessor.2 }
    if !accessor.1 then .ok (.kGeneralError, cls.withBase self base)
    else if !base.allKeysExist services.mCsmAccessor then
      .ok (.kKeyNotFound, cls.withBase self base)
    else
      let base := { base with
        mAttrMgr := FvmRuntimeAttributesManager.init base.mFvmConfAccessor base.mAttrMgr }
      match base.registerToSignals services.mSignalManager with
      | .error fault => .error fault
      | .ok base =>
        let ret := cls.serverOrParticipantInit services (cls.withBase self base)
        if !ret.1 then .ok (.kGeneralError, ret.2)
        else .ok (.kSuccess, cls.withBase ret.2 { cls.base ret.2 with mInitialized := true })

/-- `Deinit`. -/
def deinit (self : σ) : FvmErrorCode × σ :=
  let ret := (cls.base self).deinit
  (ret.1, cls.withBase self ret.2)

end DerivedClass

namespace FreshnessValueManagerImplParticipant

theorem base_serverOrParticipantInit (self : FreshnessValueManagerImplParticipant)
    (csm : ICsmAccessor) (signals : ISignalManager) :
    (self.serverOrParticipantInit csm signals).2.toAFreshnessValueManagerImpl =
      self.toAFreshnessValueManagerImpl := by
  unfold serverOrParticipantInit
  dsimp only
  split
  · rfl
  · rfl

def derivedClass : DerivedClass FreshnessValueManagerImplParticipant where
  base := (·.toAFreshnessValueManagerImpl)
  withBase s base := { s with toAFreshnessValueManagerImpl := base }
  serverOrParticipantInit services s :=
    s.serverOrParticipantInit services.mCsmAccessor services.mSignalManager
  base_withBase _ _ := rfl
  withBase_base _ := rfl
  sameSetup services s := by
    rw [base_serverOrParticipantInit]
    exact ⟨rfl, rfl⟩

/-- The participant after the first `Init` of a fresh object. -/
def FirstInit (s : FreshnessValueManagerImplParticipant) : Prop :=
  ∃ services, derivedClass.init services (construct .construct) = .ok (.kSuccess, s)

end FreshnessValueManagerImplParticipant

namespace FreshnessValueManagerImplServer

theorem base_subscribeClients {csm : ICsmAccessor} {signals : ISignalManager}
    (self : FreshnessValueManagerImplServer)
    (clients : List (Σ _ : String, SokFvClientConfigArrayInstance)) :
    (subscribeClients csm signals self clients).2 =
      { self with
        mClientNameToKeyId :=
          (subscribeClients csm signals self clients).2.mClientNameToKeyId } := by
  induction clients generalizing self with
  | nil => rfl
  | cons client clients ih =>
    rw [subscribeClients]
    split
    · rfl
    · split
      · rfl
      · rw [ih]

def derivedClass : DerivedClass FreshnessValueManagerImplServer where
  base := (·.toAFreshnessValueManagerImpl)
  withBase s base := { s with toAFreshnessValueManagerImpl := base }
  serverOrParticipantInit services s :=
    s.serverOrParticipantInit services.mCsmAccessor services.mSignalManager services.order
  base_withBase _ _ := rfl
  withBase_base _ := rfl
  sameSetup services s := by
    unfold serverOrParticipantInit
    split
    · exact ⟨rfl, rfl⟩
    · dsimp only
      rw [base_subscribeClients]
      exact ⟨rfl, rfl⟩

/-- The server after the first `Init` of a fresh object. -/
def FirstInit (s : FreshnessValueManagerImplServer) : Prop :=
  ∃ services, derivedClass.init services (construct .construct) = .ok (.kSuccess, s)

end FreshnessValueManagerImplServer

/-! ## What `Init` leaves behind -/

namespace AFreshnessValueManagerImpl

/-- The base class after the first `Init` of a fresh participant or server. -/
def FirstInit (s : AFreshnessValueManagerImpl) : Prop :=
  (∃ p : FreshnessValueManagerImplParticipant, p.FirstInit ∧ p.toAFreshnessValueManagerImpl = s) ∨
    ∃ p : FreshnessValueManagerImplServer, p.FirstInit ∧ p.toAFreshnessValueManagerImpl = s

variable {self self' : AFreshnessValueManagerImpl} {signals : ISignalManager}

theorem registerToSignal_eq {id : SokFreshnessValueId}
    (hregister : registerToSignal signals self id = .ok self') :
    self' = { self with mChallengeSignalToFvId := self'.mChallengeSignalToFvId } := by
  unfold registerToSignal at hregister
  split at hregister
  · cases hregister
  · split at hregister
    · cases hregister
      rfl
    · split at hregister
      · cases hregister
        rfl
      · cases hregister
        rfl

theorem registerToSignalsLoop_eq {ids : List SokFreshnessValueId}
    (hregister : registerToSignalsLoop signals self ids = .ok self') :
    self' = { self with mChallengeSignalToFvId := self'.mChallengeSignalToFvId } := by
  induction ids generalizing self with
  | nil =>
    cases hregister
    rfl
  | cons id ids ih =>
    rw [registerToSignalsLoop] at hregister
    split at hregister
    · cases hregister
    · rename_i next hnext
      rw [ih hregister, registerToSignal_eq hnext]

/-- Registering changes the map of the signals only. -/
theorem registerToSignals_eq (hregister : self.registerToSignals signals = .ok self') :
    self' = { self with mChallengeSignalToFvId := self'.mChallengeSignalToFvId } := by
  unfold registerToSignals at hregister
  split at hregister
  · cases hregister
  · exact registerToSignalsLoop_eq hregister

end AFreshnessValueManagerImpl

/-- `Deinit` does not know the challenges. -/
theorem AFreshnessValueManagerImpl.challenges_deinit (self : AFreshnessValueManagerImpl) :
    self.deinit.2.mActiveOutgoingChallenges = self.mActiveOutgoingChallenges ∧
      self.deinit.2.mActiveIncomingChallenges = self.mActiveIncomingChallenges := by
  unfold deinit
  split
  · exact ⟨rfl, rfl⟩
  · exact ⟨rfl, rfl⟩

/-- The accessor that `Init` initialises: it was not initialised before. -/
theorem FreshnessValueManagerConfigAccessor.init_eq_true
    {acc : FreshnessValueManagerConfigAccessor} {parse : SokFmConfig → Bool × SokFmConfig}
    (hret : (acc.init parse).1 = true) :
    acc.mInitialized = false ∧ (acc.init parse).2.mInitialized = true := by
  unfold init at hret ⊢
  split at hret
  · cases hret
  · rename_i hfresh
    rw [if_neg hfresh]
    exact ⟨Bool.eq_false_of_not_eq_true hfresh, hret⟩

namespace DerivedClass

variable {σ : Type} {cls : DerivedClass σ} {services : InitServices} {self self' : σ}

/-- The base class when the loop of `registerToSignals` begins. -/
def readyToRegister (cls : DerivedClass σ) (services : InitServices) (self : σ) :
    AFreshnessValueManagerImpl :=
  let accessor := ((cls.base self).mFvmConfAccessor.init services.parse).2
  { cls.base self with
    mFvmConfAccessor := accessor
    mAttrMgr := FvmRuntimeAttributesManager.init accessor (cls.base self).mAttrMgr }

/-- What a successful `Init` did. -/
theorem init_eq_success (hinit : cls.init services self = .ok (.kSuccess, self')) :
    (cls.base self).mInitialized = false ∧
      ((cls.base self).mFvmConfAccessor.init services.parse).1 = true ∧
      ∃ base ret, (cls.readyToRegister services self).registerToSignals services.mSignalManager =
          .ok base ∧
        cls.serverOrParticipantInit services (cls.withBase self base) = (true, ret) ∧
        self' = cls.withBase ret { cls.base ret with mInitialized := true } := by
  unfold init at hinit
  dsimp only at hinit
  split at hinit
  · cases hinit
  · rename_i hfresh
    split at hinit
    · cases hinit
    · rename_i haccessor
      split at hinit
      · cases hinit
      · split at hinit
        · cases hinit
        · rename_i base hregister
          split at hinit
          · cases hinit
          · rename_i hret
            cases hinit
            refine ⟨Bool.eq_false_of_not_eq_true hfresh, by simpa using haccessor, base, _,
              hregister, ?_, rfl⟩
            exact Prod.ext (by simpa using hret) rfl

end DerivedClass

/-- The base class after the first `Init`, whatever the derived class is: nothing
is pending, nothing is registered, and the clock stands at zero. -/
structure FirstInitialised (s : AFreshnessValueManagerImpl) : Prop extends
    FreshlyInitialised s where
  mClockCount : s.mClockCount = 0
  mActiveOutgoingChallenges : s.mActiveOutgoingChallenges = ∅
  mActiveIncomingChallenges : s.mActiveIncomingChallenges = ∅
  mFvIdToNotificationCallback : s.mFvIdToNotificationCallback = ∅

/-- A base class that a successful `Init` registered, and whose freshness value
the override may have set. -/
theorem firstInitialised_of_registered {base : AFreshnessValueManagerImpl}
    {services : InitServices} {accessor : FreshnessValueManagerConfigAccessor}
    (haccessor : accessor.mInitialized = true)
    (hregister : ({ AFreshnessValueManagerImpl.construct with
        mFvmConfAccessor := accessor
        mAttrMgr := FvmRuntimeAttributesManager.init accessor ⟨∅⟩ } :
          AFreshnessValueManagerImpl).registerToSignals services.mSignalManager = .ok base)
    (fv : UInt64) (valid : Bool) :
    FirstInitialised { base with mInitialized := true, mFV := fv, mIsFvValid := valid } := by
  rw [AFreshnessValueManagerImpl.registerToSignals_eq hregister]
  exact ⟨⟨rfl, haccessor, rfl, rfl, rfl⟩, rfl, rfl, rfl, rfl⟩

namespace FreshnessValueManagerImplParticipant

variable {s : FreshnessValueManagerImplParticipant}

/-- The override does not read `mInitialized`. -/
theorem serverOrParticipantInit_construct (base : AFreshnessValueManagerImpl)
    (csm : ICsmAccessor) (signals : ISignalManager) :
    (construct { base with mInitialized := true }).serverOrParticipantInit csm signals =
      (((construct base).serverOrParticipantInit csm signals).1,
        { ((construct base).serverOrParticipantInit csm signals).2 with
          mInitialized := true }) := by
  unfold serverOrParticipantInit
  dsimp only
  split
  · rename_i hkey
    rw [if_pos (by exact hkey)]
    rfl
  · rename_i hkey
    rw [if_neg (by exact hkey)]
    rfl

/-- The participant after the first `Init`. -/
theorem FirstInit.spec (hfirst : s.FirstInit) :
    InitialisedParticipant s ∧ s.mIsFvValid = false ∧
      FirstInitialised s.toAFreshnessValueManagerImpl := by
  obtain ⟨services, hinit⟩ := hfirst
  obtain ⟨-, haccessor, base, ret, hregister, hret, rfl⟩ := DerivedClass.init_eq_success hinit
  have hinitialised := (FreshnessValueManagerConfigAccessor.init_eq_true haccessor).2
  have hcalled : (construct base).serverOrParticipantInit services.mCsmAccessor
      services.mSignalManager = (true, ret) := hret
  have hbase := base_serverOrParticipantInit (construct base) services.mCsmAccessor
    services.mSignalManager
  have hparticipant : InitialisedParticipant
      ((construct { base with mInitialized := true }).serverOrParticipantInit
        services.mCsmAccessor services.mSignalManager).2 :=
    initialisedParticipant_of_init rfl (by rw [serverOrParticipantInit_construct, hcalled])
  rw [serverOrParticipantInit_construct, hcalled] at hparticipant
  rw [hcalled] at hbase
  have hfirst := firstInitialised_of_registered hinitialised hregister base.mFV base.mIsFvValid
  refine ⟨hparticipant, ?_, ?_⟩
  · show ret.mIsFvValid = false
    rw [hbase]
    show base.mIsFvValid = false
    rw [AFreshnessValueManagerImpl.registerToSignals_eq hregister]
    rfl
  · show FirstInitialised { ret.toAFreshnessValueManagerImpl with mInitialized := true }
    rw [hbase]
    exact hfirst

end FreshnessValueManagerImplParticipant

namespace FreshnessValueManagerImplServer

variable {s : FreshnessValueManagerImplServer}

/-- The server after the first `Init`: its freshness value is valid and fits into
seven bytes, and it is about to broadcast. -/
theorem FirstInit.spec (hfirst : s.FirstInit) :
    FirstInitialised s.toAFreshnessValueManagerImpl ∧ s.mIsFvValid = true ∧
      s.mFV.toNat < 2 ^ 56 ∧ s.mNeedToSendAuthFvResponses = false ∧
      s.mNeedToBroadcastFv = true ∧ s.mResponsePendingChallenges = ∅ := by
  obtain ⟨services, hinit⟩ := hfirst
  obtain ⟨-, haccessor, base, ret, hregister, hret, rfl⟩ := DerivedClass.init_eq_success hinit
  have hinitialised := (FreshnessValueManagerConfigAccessor.init_eq_true haccessor).2
  have hcalled : (construct base).serverOrParticipantInit services.mCsmAccessor
      services.mSignalManager services.order = (true, ret) := hret
  have hlt := mFV_lt_of_init (congrArg Prod.fst hcalled)
  rw [hcalled] at hlt
  unfold serverOrParticipantInit at hcalled
  split at hcalled
  · cases hcalled
  · rename_i randomBytes hrandom
    dsimp only at hcalled
    have hsnd := congrArg Prod.snd hcalled
    rw [base_subscribeClients] at hsnd
    have hfirst := firstInitialised_of_registered hinitialised hregister
      (byteVectorToUint (0 :: randomBytes)) true
    dsimp only at hsnd
    subst hsnd
    exact ⟨hfirst, rfl, hlt, rfl, rfl, rfl⟩

end FreshnessValueManagerImplServer

theorem AFreshnessValueManagerImpl.FirstInit.spec {s : AFreshnessValueManagerImpl}
    (hfirst : s.FirstInit) : FirstInitialised s := by
  rcases hfirst with ⟨p, hp, rfl⟩ | ⟨p, hp, rfl⟩
  · exact hp.spec.2.2
  · exact hp.spec.1

/-! ## Initialised, deinitialised and initialised again -/

/-- The inputs of an object over its whole life. -/
inductive LifecycleOp (ι : Type)
  | init (services : InitServices)
  | deinit
  | op (i : ι)

/-- An object over its whole life. Between `Init` and `Deinit` it is the machine
`m`. -/
def lifecycleStep {σ ι ε : Type} (cls : DerivedClass σ) (m : Machine σ ι ε Fault) :
    Machine σ (LifecycleOp ι) ε Fault := fun s op =>
  match op with
  | .init services => (cls.init services s).map fun ret => (ret.2, [])
  | .deinit => .ok ((cls.deinit s).2, [])
  | .op i => m s i

/-- In the manager, only `Init` and `Deinit` write what an initialisation is
about. -/
theorem sameSetup_of_managerRun {s s' : AFreshnessValueManagerImpl} {g g' : List ManagerEvent}
    {P : Guard AFreshnessValueManagerImpl ManagerOp ManagerEvent}
    (hrun : Run managerStep P s g s' g') : SameSetup s s' := by
  refine hrun.stateInvariant (SameSetup s) ⟨rfl, rfl⟩ ?_
  intro t h op t' es hsame _ hstep
  have heffect := managerStep_effect hstep
  exact hsame.trans ⟨heffect.mInitialized, heffect.mFvmConfAccessor⟩

theorem sameSetup_of_participantStep {s s' : FreshnessValueManagerImplParticipant}
    {op : ParticipantOp} {es : List ParticipantEvent}
    (hstep : participantStep s op = .ok (s', es)) :
    SameSetup s.toAFreshnessValueManagerImpl s'.toAFreshnessValueManagerImpl := by
  have hrun : Run participantStep Anything s [] s' (es ++ []) := .single trivial hstep
  obtain ⟨g, hmanager⟩ := managerRun_of_participantRun hrun []
  exact sameSetup_of_managerRun hmanager

theorem sameSetup_of_serverStep {s s' : FreshnessValueManagerImplServer} {op : ServerOp}
    {es : List ServerEvent} (hstep : serverStep s op = .ok (s', es)) :
    SameSetup s.toAFreshnessValueManagerImpl s'.toAFreshnessValueManagerImpl := by
  have hrun : Run serverStep Anything s [] s' (es ++ []) := .single trivial hstep
  obtain ⟨g, hmanager⟩ := managerRun_of_serverRun hrun []
  exact sameSetup_of_managerRun hmanager

section Reinitialisation

variable {σ ι ε : Type} {cls : DerivedClass σ} {m : Machine σ ι ε Fault}
variable {s s' s₀ : σ} {services : InitServices} {h h₀ : List ε}

/-- An object that is initialised has a configuration. -/
def HasConfiguration (s : AFreshnessValueManagerImpl) : Prop :=
  s.mInitialized = true → s.mFvmConfAccessor.mInitialized = true

theorem hasConfiguration_init {code : FvmErrorCode}
    (hconfigured : HasConfiguration (cls.base s))
    (hinit : cls.init services s = .ok (code, s')) : HasConfiguration (cls.base s') := by
  intro hinitialised
  unfold DerivedClass.init at hinit
  split at hinit
  · cases hinit
    exact hconfigured hinitialised
  · rename_i hfresh
    dsimp only at hinit
    split at hinit
    · cases hinit
      rw [cls.base_withBase] at hinitialised
      exact absurd hinitialised hfresh
    · rename_i haccessor
      have haccessor' := (FreshnessValueManagerConfigAccessor.init_eq_true
        (by simpa using haccessor)).2
      split at hinit
      · cases hinit
        rw [cls.base_withBase]
        exact haccessor'
      · split at hinit
        · cases hinit
        · rename_i base hregister
          have hsetup := cls.sameSetup services (cls.withBase s base)
          have hbase : base.mFvmConfAccessor.mInitialized = true := by
            rw [AFreshnessValueManagerImpl.registerToSignals_eq hregister]
            exact haccessor'
          rw [← cls.base_withBase s base, ← hsetup.mFvmConfAccessor] at hbase
          split at hinit
          · cases hinit
            exact hbase
          · cases hinit
            rw [cls.base_withBase]
            exact hbase

theorem hasConfiguration_deinit :
    HasConfiguration (cls.base (cls.deinit s).2) ∨ (cls.deinit s).2 = s := by
  unfold DerivedClass.deinit AFreshnessValueManagerImpl.deinit
  split
  · right
    exact cls.withBase_base s
  · left
    rw [cls.base_withBase]
    intro hinitialised
    cases hinitialised

/-- Run lemma: an object that is initialised has a configuration. -/
theorem hasConfiguration_of_run
    (hkeeps : ∀ s i s' es, m s i = .ok (s', es) → SameSetup (cls.base s) (cls.base s'))
    (hfresh : (cls.base s₀).mInitialized = false)
    (hrun : Run (lifecycleStep cls m) Anything s₀ h₀ s h) : HasConfiguration (cls.base s) := by
  refine hrun.stateInvariant (fun s => HasConfiguration (cls.base s)) ?_ ?_
  · intro hinitialised
    rw [hfresh] at hinitialised
    cases hinitialised
  · intro s h op s' es hconfigured _ hstep
    cases op with
    | init services =>
      have hmap : (cls.init services s).map (fun ret => (ret.2, [])) = .ok (s', es) := hstep
      cases hinit : cls.init services s with
      | error fault =>
        rw [hinit] at hmap
        cases hmap
      | ok ret =>
        rw [hinit] at hmap
        cases hmap
        exact hasConfiguration_init hconfigured hinit
    | deinit =>
      cases Except.ok.inj hstep
      have hcases : HasConfiguration (cls.base (cls.deinit s).2) ∨ (cls.deinit s).2 = s :=
        hasConfiguration_deinit
      rcases hcases with hdeinit | hdeinit
      · exact hdeinit
      · rw [hdeinit]
        exact hconfigured
    | op i =>
      have hsetup := hkeeps _ _ _ _ hstep
      intro hinitialised
      rw [hsetup.mFvmConfAccessor]
      apply hconfigured
      rw [← hsetup.mInitialized]
      exact hinitialised

/-- After `Deinit`, `Init` stops at the accessor, which is initialised still. -/
theorem init_deinit (hinitialised : (cls.base s).mInitialized = true)
    (hconfigured : HasConfiguration (cls.base s)) :
    cls.init services (cls.deinit s).2 = .ok (.kGeneralError, (cls.deinit s).2) := by
  have hbase : cls.base (cls.deinit s).2 = (cls.base s).deinit.2 := cls.base_withBase _ _
  have hdeinit : (cls.base s).deinit.2.mInitialized = false ∧
      (cls.base s).deinit.2.mFvmConfAccessor = (cls.base s).mFvmConfAccessor := by
    unfold AFreshnessValueManagerImpl.deinit
    rw [hinitialised]
    exact ⟨rfl, rfl⟩
  have haccessor : (cls.base s).mFvmConfAccessor.init services.parse =
      (false, (cls.base s).mFvmConfAccessor) := by
    unfold FreshnessValueManagerConfigAccessor.init
    rw [if_pos (hconfigured hinitialised)]
  unfold DerivedClass.init
  rw [hbase, hdeinit.1, hdeinit.2, haccessor]
  dsimp only
  have hsame : ({ (cls.base s).deinit.2 with
      mFvmConfAccessor := (cls.base s).mFvmConfAccessor } : AFreshnessValueManagerImpl) =
      cls.base (cls.deinit s).2 := by
    rw [hbase, ← hdeinit.2]
  rw [hsame, cls.withBase_base]
  rfl

end Reinitialisation

/-- **An object cannot be initialised again.**  Whatever a server or a participant
went through since it was constructed, after `Deinit` its `Init` fails, in every
environment, and leaves it as `Deinit` left it: with the challenges that were
active, and with the members of the derived class that `Deinit` does not know. -/
theorem reinit_fails (services : InitServices) :
    (∀ s h, Run (lifecycleStep FreshnessValueManagerImplServer.derivedClass serverStep) Anything
        (.construct .construct) [] s h → s.mInitialized = true →
      let deinited := (FreshnessValueManagerImplServer.derivedClass.deinit s).2
      FreshnessValueManagerImplServer.derivedClass.init services deinited =
          .ok (.kGeneralError, deinited) ∧
        deinited.mActiveOutgoingChallenges = s.mActiveOutgoingChallenges ∧
        deinited.mActiveIncomingChallenges = s.mActiveIncomingChallenges ∧
        deinited.mResponsePendingChallenges = s.mResponsePendingChallenges) ∧
    ∀ s h, Run (lifecycleStep FreshnessValueManagerImplParticipant.derivedClass participantStep)
        Anything (.construct .construct) [] s h → s.mInitialized = true →
      let deinited := (FreshnessValueManagerImplParticipant.derivedClass.deinit s).2
      FreshnessValueManagerImplParticipant.derivedClass.init services deinited =
          .ok (.kGeneralError, deinited) ∧
        deinited.mActiveOutgoingChallenges = s.mActiveOutgoingChallenges ∧
        deinited.mActiveIncomingChallenges = s.mActiveIncomingChallenges ∧
        deinited.requestCycle = s.requestCycle := by
  constructor
  · intro s h hrun hinitialised
    have hconfigured : HasConfiguration s.toAFreshnessValueManagerImpl :=
      hasConfiguration_of_run (fun _ _ _ _ hstep => sameSetup_of_serverStep hstep) rfl hrun
    obtain ⟨houtgoing, hincoming⟩ := s.toAFreshnessValueManagerImpl.challenges_deinit
    exact ⟨init_deinit hinitialised hconfigured, houtgoing, hincoming, rfl⟩
  · intro s h hrun hinitialised
    have hconfigured : HasConfiguration s.toAFreshnessValueManagerImpl :=
      hasConfiguration_of_run (fun _ _ _ _ hstep => sameSetup_of_participantStep hstep) rfl hrun
    obtain ⟨houtgoing, hincoming⟩ := s.toAFreshnessValueManagerImpl.challenges_deinit
    exact ⟨init_deinit hinitialised hconfigured, houtgoing, hincoming, rfl⟩

/-! ## Objects on concrete inputs -/

/-- The object that a successful `Init` makes of `self`. -/
def DerivedClass.initialised {σ : Type} (cls : DerivedClass σ) (services : InitServices)
    (self : σ) : σ :=
  match cls.init services self with
  | .ok ret => ret.2
  | .error _ => self

theorem DerivedClass.init_eq_initialised {σ : Type} {cls : DerivedClass σ}
    {services : InitServices} {self : σ}
    (hcode : (cls.init services self).map Prod.fst = .ok .kSuccess) :
    cls.init services self = .ok (.kSuccess, cls.initialised services self) := by
  unfold initialised
  split
  · rename_i ret hret
    rw [hret] at hcode ⊢
    rw [← Except.ok.inj hcode]
  · rename_i fault hfault
    rw [hfault] at hcode
    cases hcode

/-- A call of `Init` that meets the configuration `config` and no failure. -/
def reliableInit (config : SokFmConfig) : InitServices :=
  { mCsmAccessor := zeroDigestCsm
    mSignalManager := reliableSignals
    parse := fun _ => (true, config)
    order := .asListed }

/-- A configuration with one entry, for challenge-response. -/
def challengeConfig (type : SokFreshnessType) : SokFmConfig :=
  (FreshnessValueManagerConfigAccessor.ofEntries []
    [(0, { type := type
           challengeSignalConfig := { (default : SignalConfig) with name := "CR" } })]).mConfig

/-- The configuration of a participant of the freshness value distribution, with
one entry for challenge-response. -/
def participantConfig : SokFmConfig :=
  { (FreshnessValueManagerConfigAccessor.ofDistribution "SINK" 123).mConfig with
    mChallengesConfig := (challengeConfig .kVwSokFreshnessCrChallenge).mChallengesConfig }

/-- A participant after its first `Init`, for runs on concrete inputs. -/
def firstParticipant : FreshnessValueManagerImplParticipant :=
  FreshnessValueManagerImplParticipant.derivedClass.initialised (reliableInit participantConfig)
    (.construct .construct)

theorem firstInit_firstParticipant : firstParticipant.FirstInit :=
  ⟨reliableInit participantConfig, DerivedClass.init_eq_initialised (by decide +kernel)⟩

/-- A consumer that has sent a challenge. -/
def consumerLife : List (LifecycleOp ParticipantOp) :=
  [.init (reliableInit (challengeConfig .kVwSokFreshnessCrChallenge)),
    .op (.call ⟨.triggerCrRequest zeroDigestCsm reliableSignals 0, rfl⟩)]

theorem reinit_fails_after_challenge :
    ∃ s h, Run (lifecycleStep FreshnessValueManagerImplParticipant.derivedClass participantStep)
        Anything (.construct .construct) [] s h ∧
      FreshnessValueManagerImplParticipant.derivedClass.init
          (reliableInit (challengeConfig .kVwSokFreshnessCrChallenge))
          (FreshnessValueManagerImplParticipant.derivedClass.deinit s).2 =
        .ok (.kGeneralError, (FreshnessValueManagerImplParticipant.derivedClass.deinit s).2) := by
  obtain ⟨s, h, hrun, hinitialised⟩ :
      ∃ s h, Run (lifecycleStep FreshnessValueManagerImplParticipant.derivedClass participantStep)
        Anything (.construct .construct) [] s h ∧ s.mInitialized = true :=
    Run.exists_of_exec consumerLife (by decide +kernel)
  exact ⟨s, h, hrun, ((reinit_fails _).2 s h hrun hinitialised).1⟩

/-- The first `Init` succeeds and the one after `Deinit` does not, in the same
environment, and a challenge of the first session is there still. -/
theorem challenge_survives_deinit :
    let config := challengeConfig .kVwSokFreshnessCrChallenge
    let cls := FreshnessValueManagerImplParticipant.derivedClass
    (cls.init (reliableInit config) (.construct .construct)).map Prod.fst = .ok .kSuccess ∧
      ∃ s h, Run (lifecycleStep cls participantStep) Anything (.construct .construct) [] s h ∧
        s.mInitialized = true ∧
        (cls.init (reliableInit config) (cls.deinit s).2).map Prod.fst = .ok .kGeneralError ∧
        (cls.deinit s).2.mActiveOutgoingChallenges.lookup 0 = some (0, .replicate 8 7) :=
  ⟨by decide +kernel, Run.exists_of_exec consumerLife (by decide +kernel)⟩

end Sok.Fvm
