import SokFvm.Fvm.Definitions

/-!
# `FreshnessValueManagerConfigAccessor`

The read side of the parsed configuration.  Every getter answers with an error
or with a default value until the accessor is initialised.

The three getters that list identifiers do not read the keys of the maps: they
count on from a first identifier with `std::iota`.  `getAllFreshnessValueIds`
starts at `0`, and `mem_getAllFreshnessValueIds` is what that amounts to.
-/

namespace Sok.Fvm

open Sok.Common

/-- `std::iota` over a vector of `size` identifiers. -/
def iota (size : Nat) (first : SokFreshnessValueId) : List SokFreshnessValueId :=
  (List.range size).map fun k => first + UInt32.ofNat k

/-- The state of the accessor: what was parsed, and whether it was. -/
structure FreshnessValueManagerConfigAccessor where
  mConfig : SokFmConfig
  mInitialized : Bool

namespace FreshnessValueManagerConfigAccessor

variable (acc : FreshnessValueManagerConfigAccessor)

/-- The accessor of a configuration in which only the identifiers are set. -/
def ofEntries (broadcast : List (SokFreshnessValueId × SokFvConfigInstance))
    (challenges : List (SokFreshnessValueId × ChallengeConfigInstance)) :
    FreshnessValueManagerConfigAccessor :=
  { mConfig :=
      { (default : SokFmConfig) with
        mAuthBroadcastConfig := broadcast.foldl (fun map entry => map.insert entry.1 entry.2) ∅
        mChallengesConfig := challenges.foldl (fun map entry => map.insert entry.1 entry.2) ∅ }
    mInitialized := true }

/-- The accessor of a configuration in which only the signals and the key of the
freshness value distribution to a participant are set. -/
def ofDistribution (client : String) (keyId : UInt16) : FreshnessValueManagerConfigAccessor :=
  { mConfig :=
      { (default : SokFmConfig) with
        mKeyIdForAuthFvDistribution := keyId
        mAuthFvChallengeSignal :=
          { (default : SignalConfig) with name := "SOK_Zeit_" ++ client ++ "_Challenge" }
        mAuthFvValueSignal :=
          { (default : SignalConfig) with name := "SOK_Zeit_" ++ client ++ "_Zeit" }
        mAuthFvSignatureSignal :=
          { (default : SignalConfig) with name := "SOK_Zeit_" ++ client ++ "_Signatur" } }
    mInitialized := true }

/-- The accessor of a server configuration with one client. -/
def ofClient (client : String) (keyId : UInt16) : FreshnessValueManagerConfigAccessor :=
  { mConfig :=
      { (default : SokFmConfig) with
        mFmServerClientsConfig := AList.insert client
          { (default : SokFvClientConfigArrayInstance) with keyId := keyId } ∅ }
    mInitialized := true }

/-- `GetSokFvConfigInstanceByFvId`. -/
def getSokFvConfigInstanceByFvId (id : SokFreshnessValueId) : FvmResult SokFvConfigInstance :=
  if !acc.mInitialized then .error .kNotInitialized
  else match acc.mConfig.mAuthBroadcastConfig.lookup id with
    | none => .error .kFVNotAvailable
    | some conf => .ok conf

/-- `GetChallengeConfigInstanceByFvId`. -/
def getChallengeConfigInstanceByFvId (id : SokFreshnessValueId) :
    FvmResult ChallengeConfigInstance :=
  if !acc.mInitialized then .error .kNotInitialized
  else match acc.mConfig.mChallengesConfig.lookup id with
    | none => .error .kFVNotAvailable
    | some conf => .ok conf

/-- `GetEntryTypeByFvId`: the authentic broadcast entries come first. -/
def getEntryTypeByFvId (id : SokFreshnessValueId) : FvmResult SokFreshnessType :=
  if !acc.mInitialized then .error .kNotInitialized
  else match acc.mConfig.mAuthBroadcastConfig.lookup id with
    | some conf => .ok conf.type
    | none =>
      match acc.mConfig.mChallengesConfig.lookup id with
      | some conf => .ok conf.type
      | none => .error .kFVNotAvailable

/-- `GetAllFreshnessValueIds`. -/
def getAllFreshnessValueIds : List SokFreshnessValueId :=
  if !acc.mInitialized then []
  else iota (acc.mConfig.mAuthBroadcastConfig.size + acc.mConfig.mChallengesConfig.size) 0

/-- `GetAllChallengeFreshnessValueIds`. -/
def getAllChallengeFreshnessValueIds : Except Fault (List SokFreshnessValueId) :=
  if !acc.mInitialized then .ok []
  else (acc.mConfig.mChallengesConfig.beginFirst).map (iota acc.mConfig.mChallengesConfig.size)

/-- `GetClientsConfigMap`. -/
def getClientsConfigMap : FmServerClientsConfigMap :=
  if !acc.mInitialized then ∅ else acc.mConfig.mFmServerClientsConfig

/-- `GetUnauthenticatedFvSignalConfig`. -/
def getUnauthenticatedFvSignalConfig : SignalConfig :=
  if !acc.mInitialized then default else acc.mConfig.mUnAuthFvDistributionSignal

/-- `GetAuthenticatedFvValueSignalConfig`. -/
def getAuthenticatedFvValueSignalConfig : SignalConfig :=
  if !acc.mInitialized then default else acc.mConfig.mAuthFvValueSignal

/-- `GetAuthenticatedFvSignatureSignalConfig`. -/
def getAuthenticatedFvSignatureSignalConfig : SignalConfig :=
  if !acc.mInitialized then default else acc.mConfig.mAuthFvSignatureSignal

/-- `GetAuthenticatedFvChallengeSignalConfig`. -/
def getAuthenticatedFvChallengeSignalConfig : SignalConfig :=
  if !acc.mInitialized then default else acc.mConfig.mAuthFvChallengeSignal

/-- `GetSokKeyConfig`. -/
def getSokKeyConfig : SokKeyConfig :=
  if !acc.mInitialized then ∅ else acc.mConfig.mKeyConfig

/-- `GetEcuKeyIdForFvDistribution`. -/
def getEcuKeyIdForFvDistribution : UInt16 :=
  if !acc.mInitialized then 0 else acc.mConfig.mKeyIdForAuthFvDistribution

/-! ## The identifiers that are listed -/

/-- The number of entries in the two maps that hold identifiers. -/
def entryCount : Nat :=
  acc.mConfig.mAuthBroadcastConfig.size + acc.mConfig.mChallengesConfig.size

/-- An identifier that one of the two maps has an entry for. -/
def Configured (id : SokFreshnessValueId) : Prop :=
  id ∈ acc.mConfig.mAuthBroadcastConfig ∨ id ∈ acc.mConfig.mChallengesConfig

instance (id : SokFreshnessValueId) : Decidable (acc.Configured id) :=
  inferInstanceAs (Decidable (_ ∨ _))

theorem mem_iota_zero {size : Nat} {id : SokFreshnessValueId} :
    id ∈ iota size 0 ↔ id.toNat < size := by
  simp only [iota, List.mem_map, List.mem_range, UInt32.zero_add]
  constructor
  · rintro ⟨k, hk, rfl⟩
    rw [UInt32.toNat_ofNat']
    exact Nat.lt_of_le_of_lt (Nat.mod_le _ _) hk
  · intro hlt
    exact ⟨id.toNat, hlt, UInt32.ofNat_toNat⟩

/-- The listed identifiers are the numbers below the number of entries, whatever
the configured identifiers are. -/
theorem mem_getAllFreshnessValueIds {acc : FreshnessValueManagerConfigAccessor}
    (hinit : acc.mInitialized = true) {id : SokFreshnessValueId} :
    id ∈ acc.getAllFreshnessValueIds ↔ id.toNat < acc.entryCount := by
  rw [getAllFreshnessValueIds, hinit]
  exact mem_iota_zero

end FreshnessValueManagerConfigAccessor

end Sok.Fvm
