import SokFvm.Common.Cpp

/-!
# Types and constants of the freshness value manager

`FreshnessValueManagerDefinitions.hpp`, `FreshnessValueManagerError.hpp`,
`FreshnessValueManagerConstants.hpp` and the interface `ISignalManager`.  The
integer types are the source's own, so every sum, difference and comparison of
the model wraps and promotes where the source does.
-/

namespace Sok.Fvm

open Sok.Common

/-! ## Results -/

/-- `FvmErrorCode`. -/
inductive FvmErrorCode
  | kSuccess | kFVNotAvailable | kFVInitializeFailed | kFvIdNotFound | kNotInitialized
  | kAlreadyInitialized | kGeneralError | kRngError | kKeyNotFound | kEndEnum
  deriving DecidableEq, Repr

/-- `FvmResult<T>`. -/
abbrev FvmResult (α : Type) := Except FvmErrorCode α

/-! ## Identifiers and freshness types -/

abbrev SokFreshnessValueId := UInt32

abbrev PduId := UInt32

/-- `FVContainer`. -/
abbrev FVContainer := ByteVector

/-- `SokFreshnessType`. -/
inductive SokFreshnessType
  | kVwSokFreshnessValue | kVwSokFreshnessValueSessionSender
  | kVwSokFreshnessValueSessionReceiver | kVwSokFreshnessCrChallenge
  | kVwSokFreshnessCrResponse | kEndEnum
  deriving DecidableEq, Repr

/-- `SecOC_VerificationStatusType`. -/
structure SecOCVerificationStatusType where
  fvId : SokFreshnessValueId
  verificationSucceeded : Bool
  deriving DecidableEq, Repr

/-! ## Configuration -/

structure FrameConfig where
  name : String
  maxPayloadSizeBytes : UInt16
  sourceIp : String
  destinationIp : String
  sourcePort : UInt16
  destinationPort : UInt16
  deriving DecidableEq, Repr, Inhabited

structure PduConfig where
  frameConfig : FrameConfig
  name : String
  id : PduId
  lengthBytes : UInt32
  deriving DecidableEq, Repr, Inhabited

structure SignalConfig where
  pduConfig : PduConfig
  name : String
  startByte : UInt32
  lengthInBits : UInt32
  deriving DecidableEq, Repr, Inhabited

structure ChallengeConfigInstance where
  type : SokFreshnessType
  challengeSignalConfig : SignalConfig
  deriving DecidableEq, Repr

structure SokFvConfigInstance where
  type : SokFreshnessType
  pduId : PduId
  sessionCounterLength : UInt8
  deriving DecidableEq, Repr

structure SokFvClientConfigArrayInstance where
  clientChallengeSignal : SignalConfig
  clientResponseValueSignal : SignalConfig
  clientResponseSignatureSignal : SignalConfig
  keyId : UInt16
  deriving DecidableEq, Repr, Inhabited

abbrev SokFvConfig := UnorderedMap SokFreshnessValueId SokFvConfigInstance

abbrev ChallengeConfig := UnorderedMap SokFreshnessValueId ChallengeConfigInstance

abbrev FmServerClientsConfigMap := UnorderedMap String SokFvClientConfigArrayInstance

abbrev SokKeyConfig := UnorderedMap SokFreshnessValueId UInt16

structure SokFmConfig where
  mNetworkInterface : String
  mEcuName : String
  mKeyIdForAuthFvDistribution : UInt16
  mAuthBroadcastConfig : SokFvConfig
  mChallengesConfig : ChallengeConfig
  mKeyConfig : SokKeyConfig
  mFmServerClientsConfig : FmServerClientsConfigMap
  mUnAuthFvDistributionSignal : SignalConfig
  mAuthFvChallengeSignal : SignalConfig
  mAuthFvValueSignal : SignalConfig
  mAuthFvSignatureSignal : SignalConfig
  deriving DecidableEq, Inhabited

/-! ## Runtime attributes -/

structure SokFmRuntimeAttributes where
  valueIsActive : Bool
  sessionCounterLength : UInt8
  firstUsed : UInt64
  latestVerifiedTime : UInt64
  lastRequestedForVerification : UInt64
  latestSignedTime : UInt64
  lastRequestedForSigning : UInt64
  sessionCounterLastUsed : ByteVector
  deriving DecidableEq, Repr

/-! ## Constants -/

/-- `SOK_UPSTART_TIME`: the default freshness value at start-up. -/
def sokUpstartTime : UInt64 := 0xFFFFFFFFFFFFFF

/-- `SOK_INVALID_TIME`. -/
def sokInvalidTime : UInt64 := 0xF00000000000

/-- `SOK_FM_MAIN_FUNCTION_PERIOD_MS`. -/
def sokFmMainFunctionPeriodMs : UInt8 := 5

/-- `SOK_FM_TIME_INCREMENT_PERIOD_MS`. -/
def sokFmTimeIncrementPeriodMs : UInt8 := 100

/-- `SOK_FM_TIME_VALID_TIMEOUT_MS`: how long the default value may be used. -/
def sokFmTimeValidTimeoutMs : UInt16 := 500

/-- `SOK_FM_TIME_JITTER_MAX_MS`. -/
def sokFmTimeJitterMaxMs : UInt8 := 30

/-- `SOK_FM_TIME_REQUEST_TIMEOUT_MS`: the maximum time that a participant waits
for an answer of the server. -/
def sokFmTimeRequestTimeoutMs : UInt8 := 250

/-- `SOK_FM_CHALLENGE_TIMEOUT_MS`. -/
def sokFmChallengeTimeoutMs : UInt8 := 250

/-- `SOK_FM_TIME_SEND_MS`: the period of the unauthenticated broadcast. -/
def sokFmTimeSendMs : UInt16 := 1000

/-- `AUTH_FV_SIGNATURE_SIZE_BYTES`: the number of allowed MAC bytes. -/
def authFvSignatureSizeBytes : Int8 := 8

/-- `CHALLENGE_LENGTH_BYTES`. -/
def challengeLengthBytes : UInt8 := 8

/-- `FVM_SERVER_NUM_OF_BYTES_INITIAL_FV`. -/
def fvmServerNumOfBytesInitialFv : UInt8 := 7

/-! ## The signal manager -/

/-- The interface `ISignalManager`, as it answers during one call of the
manager. -/
structure ISignalManager where
  subscribe : SignalConfig → FvmErrorCode
  publish : SignalConfig → ByteVector → FvmErrorCode

end Sok.Fvm
