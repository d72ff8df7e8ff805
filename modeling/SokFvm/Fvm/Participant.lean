import SokFvm.Fvm.Manager
import SokFvm.Fvm.StateManager

/-!
# `FreshnessValueManagerImplParticipant`

The participant asks the server for an authentic freshness value: it publishes a
random challenge, waits for the two halves of the response, a value and a
signature, and verifies them together.  Once it has a value it compares it with
the unauthentic values that the server broadcasts and asks again when they drift
apart.

The actions of the five states are registered with the state manager as closures
over `this`.  Here the table holds their names, `StateAction`, and `enter` runs
the member function that the name stands for.

Two actions can leave the defined part of C++.  `processAnAuthenticFv` copies
the received value from its second byte on, which is no valid range when the
value is empty (`mainFunction` says what comes of it), and hands the signature to
the crypto accessor, which may read past its digest.  `processAnUnauthenticFv`
takes the absolute value of a difference that may be the least `int64_t`.  Both
answer with a `Fault` then.

Besides its result and the state, a member function gives the events of the call
that the properties of runs refer to: the challenge that was published, the half
of a response that was stored, the freshness value that was adopted.
-/

namespace Sok.Fvm

open Sok.Common

/-- The closures that `serverOrParticipantInit` registers. -/
inductive StateAction
  | requestAnAuthenticFv | waitForAnAuthenticFv | processAnAuthenticFv
  | processAnUnauthenticFv | idleAction
  deriving DecidableEq, Repr

/-- The closure of each state. -/
def StateAction.ofState : FreshnessValueState → StateAction
  | .requestFV => .requestAnAuthenticFv
  | .fvInProgress => .waitForAnAuthenticFv
  | .processFV => .processAnAuthenticFv
  | .processAnauthFV => .processAnUnauthenticFv
  | .idle => .idleAction

/-- What a call to the participant does, apart from its result. -/
inductive ParticipantEvent
  /-- A challenge was published successfully. -/
  | published (challenge : ByteVector)
  /-- The value half of a response was stored. -/
  | valueReceived (value : ByteVector)
  /-- The signature half of a response was stored. -/
  | signatureReceived (signature : ByteVector)
  /-- A verified freshness value was assigned to `mFV`. -/
  | adopted (fv : UInt64)
  /-- A response failed its verification. -/
  | rejected
  /-- `MainFunction` returned. -/
  | mainFunctionCompleted
  deriving DecidableEq, Repr

structure FreshnessValueManagerImplParticipant extends AFreshnessValueManagerImpl where
  mFvStateManager : FreshnessValueStateManager StateAction
  mTimeSinceAuthFvReq : UInt32
  mActiveFvChallenge : FVContainer
  mUnAuthFv : FVContainer
  mCrAuthFvAndMac : ByteVector × ByteVector
  mEcuKeyIdForFvDistribution : UInt16

namespace FreshnessValueManagerImplParticipant

/-- The result of an action, the state after it and its events. -/
abbrev ActionResult :=
  FvmErrorCode × FreshnessValueManagerImplParticipant × List ParticipantEvent

/-- The members of the participant as its constructor sets them, around the
state `base` of the base class. -/
def construct (base : AFreshnessValueManagerImpl) : FreshnessValueManagerImplParticipant :=
  { base with
    mFvStateManager := .empty
    mTimeSinceAuthFvReq := 65535
    mActiveFvChallenge := []
    mUnAuthFv := []
    mCrAuthFvAndMac := ([], [])
    mEcuKeyIdForFvDistribution := 0 }

variable (self : FreshnessValueManagerImplParticipant)

/-- `mFvStateManager->transiteTo(state)`. -/
def transiteTo (state : FreshnessValueState) : FreshnessValueManagerImplParticipant :=
  { self with mFvStateManager := self.mFvStateManager.transiteTo state }

/-- `serverOrParticipantInit`. -/
def serverOrParticipantInit (mCsmAccessor : ICsmAccessor) (mSignalManager : ISignalManager) :
    Bool × FreshnessValueManagerImplParticipant :=
  let self := { self with
    mEcuKeyIdForFvDistribution := self.mFvmConfAccessor.getEcuKeyIdForFvDistribution }
  if mCsmAccessor.isKeyExists self.mEcuKeyIdForFvDistribution ≠ .kSuccess then (false, self)
  else
    let self := { self with
      mFvStateManager := self.mFvStateManager
        |>.registerState .fvInProgress (some .waitForAnAuthenticFv)
        |>.registerState .requestFV (some .requestAnAuthenticFv)
        |>.registerState .processFV (some .processAnAuthenticFv)
        |>.registerState .processAnauthFV (some .processAnUnauthenticFv)
        |>.registerState .idle (some .idleAction) }
    let self := self.transiteTo .requestFV
    let ret1 := mSignalManager.subscribe
      self.mFvmConfAccessor.getAuthenticatedFvValueSignalConfig
    let ret2 := mSignalManager.subscribe
      self.mFvmConfAccessor.getAuthenticatedFvSignatureSignalConfig
    let ret3 := mSignalManager.subscribe self.mFvmConfAccessor.getUnauthenticatedFvSignalConfig
    (ret1 = .kSuccess ∧ ret2 = .kSuccess ∧ ret3 = .kSuccess, self)

/-! ## Incoming signals -/

/-- The part of `incomingAuthFvSignalsCb` that stores the received half. The name
of the value signal is tested first. -/
def storeAuthFvSignal (signal : String) (value : ByteVector) :
    FreshnessValueManagerImplParticipant × List ParticipantEvent :=
  if self.mFvmConfAccessor.getAuthenticatedFvValueSignalConfig.name = signal then
    ({ self with mCrAuthFvAndMac := (value, self.mCrAuthFvAndMac.2) }, [.valueReceived value])
  else if self.mFvmConfAccessor.getAuthenticatedFvSignatureSignalConfig.name = signal then
    ({ self with mCrAuthFvAndMac := (self.mCrAuthFvAndMac.1, value) }, [.signatureReceived value])
  else (self, [])

/-- `incomingAuthFvSignalsCb`. The state manager is told about a complete pair
also by a signal with a wrong name. -/
def incomingAuthFvSignalsCb (signal : String) (value : ByteVector) :
    FreshnessValueManagerImplParticipant × List ParticipantEvent :=
  let stored := self.storeAuthFvSignal signal value
  if stored.1.mCrAuthFvAndMac.1 ≠ [] ∧ stored.1.mCrAuthFvAndMac.2 ≠ [] then
    ({ stored.1 with mFvStateManager := stored.1.mFvStateManager.reactToFVRes }, stored.2)
  else stored

/-- `incomingUnAuthFvSignalsCb`. -/
def incomingUnAuthFvSignalsCb (signal : String) (value : ByteVector) :
    FreshnessValueManagerImplParticipant :=
  if self.mFvmConfAccessor.getUnauthenticatedFvSignalConfig.name = signal ∧ value.length = 8 then
    { self with
      mUnAuthFv := value
      mFvStateManager := self.mFvStateManager.reactToUnauthenticFVRes }
  else self

/-! ## The actions of the states -/

/-- `requestAnAuthenticFv`. -/
def requestAnAuthenticFv (mCsmAccessor : ICsmAccessor) (mSignalManager : ISignalManager) :
    ActionResult :=
  match mCsmAccessor.generateRandomBytes challengeLengthBytes with
  | .error _ => (.kRngError, self, [])
  | .ok challenge =>
    let publishRes := mSignalManager.publish
      self.mFvmConfAccessor.getAuthenticatedFvChallengeSignalConfig challenge
    if publishRes = .kSuccess then
      let self := { self with mActiveFvChallenge := challenge, mTimeSinceAuthFvReq := 0 }
      (publishRes, self.transiteTo .fvInProgress, [.published challenge])
    else (publishRes, self, [])

/-- `waitForAnAuthenticFv`. -/
def waitForAnAuthenticFv : ActionResult :=
  let self := { self with
    mTimeSinceAuthFvReq := self.mTimeSinceAuthFvReq + sokFmMainFunctionPeriodMs.toUInt32 }
  if sokFmTimeRequestTimeoutMs.toUInt32 < self.mTimeSinceAuthFvReq then
    (.kSuccess, self.transiteTo .requestFV, [])
  else (.kSuccess, self, [])

/-- The assignments after a successful verification. -/
def adoptAuthenticFv : FreshnessValueManagerImplParticipant :=
  { self with
    mFV := byteVectorToUint self.mCrAuthFvAndMac.1
    mIsFvValid := true
    mClockCount := 0 }

/-- The two calls of `clear()` on the received pair. -/
def clearCrAuthFvAndMac : FreshnessValueManagerImplParticipant :=
  { self with mCrAuthFvAndMac := ([], []) }

/-- The payload for the verification: the active challenge and the received value
without its first byte. -/
def payloadForVerification : ByteVector :=
  self.mActiveFvChallenge ++ self.mCrAuthFvAndMac.1.tail

/-- The call of `MacVerify`. -/
def verifyRes (mCsmAccessor : ICsmAccessor) : Except Fault CsmErrorCode :=
  mCsmAccessor.macVerify self.mEcuKeyIdForFvDistribution self.payloadForVerification
    self.mCrAuthFvAndMac.2 .kAes128Cmac

/-- `processAnAuthenticFv`. -/
def processAnAuthenticFv (mCsmAccessor : ICsmAccessor) : Except Fault ActionResult :=
  -- the range of an empty value starts behind its end
  if self.mCrAuthFvAndMac.1 = [] then .error .invalidRange
  else
    match self.verifyRes mCsmAccessor with
    | .error fault => .error fault
    | .ok verifyRes =>
      if verifyRes = .kSuccess then
        let self := self.adoptAuthenticFv
        .ok (.kSuccess, (self.transiteTo .idle).clearCrAuthFvAndMac, [.adopted self.mFV])
      else .ok (.kSuccess, (self.transiteTo .fvInProgress).clearCrAuthFvAndMac, [.rejected])

/-- The jitter of `processAnUnauthenticFv`, in `int64_t`. -/
def jitterOf (unauthFv : UInt64) : Except Fault Int64 :=
  let jitter := ((self.mFV - unauthFv) * sokFmTimeIncrementPeriodMs.toUInt64).toInt64
  if jitter = 0 then .ok jitter
  else match stdAbs jitter with
    | .error fault => .error fault
    | .ok absJitter =>
      if sokFmTimeJitterMaxMs.toUInt64.toInt64 < absJitter then
        .ok (absJitter - (self.mClockCount + sokFmMainFunctionPeriodMs.toUInt32).toUInt64.toInt64)
      else .ok jitter

/-- `processAnUnauthenticFv`. -/
def processAnUnauthenticFv : Except Fault ActionResult :=
  match self.jitterOf (byteVectorToUint self.mUnAuthFv) with
  | .error fault => .error fault
  | .ok jitter =>
    match stdAbs jitter with
    | .error fault => .error fault
    | .ok absJitter =>
      if sokFmTimeJitterMaxMs.toUInt64.toInt64 < absJitter then
        let self := { self with mIsFvValid := false, mUnAuthFv := [] }
        .ok (.kSuccess, self.transiteTo .requestFV, [])
      else .ok (.kSuccess, self.transiteTo .idle, [])

/-! ## The main function -/

/-- The member function that a registered closure calls. -/
def stateAction (mCsmAccessor : ICsmAccessor) (mSignalManager : ISignalManager) :
    StateAction → Except Fault ActionResult
  | .requestAnAuthenticFv => .ok (self.requestAnAuthenticFv mCsmAccessor mSignalManager)
  | .waitForAnAuthenticFv => .ok self.waitForAnAuthenticFv
  | .processAnAuthenticFv => self.processAnAuthenticFv mCsmAccessor
  | .processAnUnauthenticFv => self.processAnUnauthenticFv
  | .idleAction => .ok (.kSuccess, self, [])

/-- `mFvStateManager->enter()`. -/
def enter (mCsmAccessor : ICsmAccessor) (mSignalManager : ISignalManager) :
    Except Fault ActionResult :=
  match self.mFvStateManager.enter with
  | none => .ok (.kGeneralError, self, [])
  | some action => self.stateAction mCsmAccessor mSignalManager action

/-- `incTimers`, inherited. -/
def incTimers : FreshnessValueManagerImplParticipant :=
  { self with toAFreshnessValueManagerImpl := self.toAFreshnessValueManagerImpl.incTimers }

/-- `MainFunction`.  The fault of an empty value ends a run here.  In the real function it
is the exception of `insert`, which is caught: the call returns `kGeneralError` and leaves
the state and the timers as they are.  This matters for bounds on numbers of calls, as that
on the age of a request and those on the calls without a freshness value; their conditions
keep an empty value out of `ProcessFV`. -/
def mainFunction (mCsmAccessor : ICsmAccessor) (mSignalManager : ISignalManager) :
    Except Fault ActionResult :=
  if !self.mInitialized then .ok (.kNotInitialized, self, [.mainFunctionCompleted])
  else match self.enter mCsmAccessor mSignalManager with
    | .error fault => .error fault
    | .ok (retValue, self, events) =>
      .ok (retValue, self.incTimers, .mainFunctionCompleted :: events)

end FreshnessValueManagerImplParticipant

end Sok.Fvm
