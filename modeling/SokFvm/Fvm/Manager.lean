import SokFvm.Common.Csm
import SokFvm.Fvm.RuntimeAttributes

/-!
# `AFreshnessValueManagerImpl`

The part of the freshness value manager that server and participant share: the
clock, the freshness value, the two freshness interfaces towards SecOC with their
call-backs, and the challenge-response protocol.

A member function is a function of the state that gives its result and the state
afterwards.  The crypto service and the signal manager are arguments of the
functions that call them.  The locks are not modelled here: a call is one step.

`FreshnessFailure` keeps the reasons apart that the source tells apart in its
log only; `FreshnessFailure.code` is the `FvmErrorCode` that the caller sees.
-/

namespace Sok.Fvm

open Sok.Common

/-- A registered `ChallengeReceivedIndicationCb`. -/
abbrev ChallengeReceivedIndicationCb := Nat

/-- Why a freshness request fails. -/
inductive FreshnessFailure
  | notInitialized
  | configEntryNotFound
  | notSupported
  | noActiveChallenge
  | invalidAttempts
  | sessionCounterMismatch
  | noAuthFvAvailable
  /-- `mFV < firstActivity`; the source returns without a log entry. -/
  | fvBeforeFirstActivity
  deriving DecidableEq, Repr

/-- The error code that is returned. -/
def FreshnessFailure.code : FreshnessFailure → FvmErrorCode
  | .notInitialized => .kNotInitialized
  | .configEntryNotFound => .kFvIdNotFound
  | .noAuthFvAvailable => .kFVNotAvailable
  | _ => .kGeneralError

abbrev FreshnessResult := Except FreshnessFailure FVContainer

structure AFreshnessValueManagerImpl where
  mInitialized : Bool
  mIsFvValid : Bool
  mTimeSinceInit : UInt64
  mClockCount : UInt32
  mFV : UInt64
  mActiveOutgoingChallenges : UnorderedMap SokFreshnessValueId (UInt64 × ByteVector)
  mActiveIncomingChallenges : UnorderedMap SokFreshnessValueId (UInt64 × ByteVector)
  mChallengeSignalToFvId : UnorderedMap String SokFreshnessValueId
  mFvIdToNotificationCallback : UnorderedMap SokFreshnessValueId ChallengeReceivedIndicationCb
  mFvRxCandidates : UnorderedMap SokFreshnessValueId (List UInt64)
  mAttrMgr : FvmRuntimeAttributesManager
  mFvmConfAccessor : FreshnessValueManagerConfigAccessor

namespace AFreshnessValueManagerImpl

variable (self : AFreshnessValueManagerImpl)

/-! ## Challenges -/

/-- `getChallengeForIncomingResponse`. -/
def getChallengeForIncomingResponse (id : SokFreshnessValueId) : FreshnessResult :=
  match self.mActiveOutgoingChallenges.lookup id with
  | none => .error .noActiveChallenge
  | some activeCh => .ok activeCh.2

/-- `getChallengeForOutgoingResponse`: the challenge is discarded. -/
def getChallengeForOutgoingResponse (id : SokFreshnessValueId) :
    FreshnessResult × AFreshnessValueManagerImpl :=
  match self.mActiveIncomingChallenges.lookup id with
  | none => (.error .noActiveChallenge, self)
  | some activeCh =>
    (.ok activeCh.2,
      { self with mActiveIncomingChallenges := self.mActiveIncomingChallenges.erase id })

/-! ## Freshness of outgoing messages -/

/-- The window in which the default value may be used has passed, on the clock
that counts from `Init`. -/
def validTimeoutPassed : Bool :=
  decide (sokFmTimeValidTimeoutMs.toUInt64 < self.mTimeSinceInit)

/-- The call of `SetActive` with the current time. -/
def setActive (id : SokFreshnessValueId) : AFreshnessValueManagerImpl :=
  { self with mAttrMgr := self.mAttrMgr.setActive id self.mTimeSinceInit }

/-- The first part of `getTxFv`, which chooses the freshness value. -/
def chooseTxFv (id : SokFreshnessValueId) : FVContainer × AFreshnessValueManagerImpl :=
  if !self.mAttrMgr.isActive id then
    -- this is the first occurrence for this ID
    (uintToByteVector sokUpstartTime, self.setActive id)
  else if !self.mIsFvValid then
    if !self.validTimeoutPassed then (uintToByteVector sokUpstartTime, self)
    else (uintToByteVector sokInvalidTime, self)
  else
    (uintToByteVector self.mFV,
      { self with mAttrMgr := self.mAttrMgr.updateEvent .kSignReq id self.mFV })

/-- `getTxFv`. It never fails. -/
def getTxFv (id : SokFreshnessValueId) (type : SokFreshnessType) :
    FVContainer × AFreshnessValueManagerImpl :=
  let chosen := self.chooseTxFv id
  if type = .kVwSokFreshnessValueSessionSender then
    let incremented := chosen.2.mAttrMgr.incSessionCounter id
    (chosen.1 ++ incremented.1, { chosen.2 with mAttrMgr := incremented.2 })
  else chosen

/-- `GetTxFreshness`. -/
def getTxFreshness (id : SokFreshnessValueId) : FreshnessResult × AFreshnessValueManagerImpl :=
  if !self.mInitialized then (.error .notInitialized, self)
  else match self.mFvmConfAccessor.getEntryTypeByFvId id with
    | .error _ => (.error .configEntryNotFound, self)
    | .ok .kVwSokFreshnessCrResponse => self.getChallengeForOutgoingResponse id
    | .ok .kVwSokFreshnessValueSessionSender =>
      let ret := self.getTxFv id .kVwSokFreshnessValueSessionSender
      (.ok ret.1, ret.2)
    | .ok .kVwSokFreshnessValue =>
      let ret := self.getTxFv id .kVwSokFreshnessValue
      (.ok ret.1, ret.2)
    | .ok _ => (.error .notSupported, self)

/-! ## Freshness of incoming messages -/

/-- Answer with entry `attempts` of a candidate list, followed by the truncated
freshness value. -/
def serializeCandidate (rxCandList : List UInt64) (attempts : UInt16)
    (truncated : FVContainer) : FVContainer :=
  uintToByteVector (rxCandList.getD attempts.toNat 0) ++ truncated

/-- The step of `getRxFv` that increments a session counter which was found to
match. -/
def consumeSessionCounter (id : SokFreshnessValueId) (type : SokFreshnessType) :
    AFreshnessValueManagerImpl :=
  if type = .kVwSokFreshnessValueSessionReceiver then
    { self with mAttrMgr := (self.mAttrMgr.incSessionCounter id).2 }
  else self

/-- The assignment `mFvRxCandidates[id] = list`. -/
def setRxCandidates (id : SokFreshnessValueId) (rxCandList : List UInt64) :
    AFreshnessValueManagerImpl :=
  { self with mFvRxCandidates := self.mFvRxCandidates.insert id rxCandList }

/-- The candidates around the freshness value. -/
def neighbours : List UInt64 := [self.mFV, self.mFV - 1, self.mFV + 1]

/-- The part of `getRxFv` under "build FV candidate list". -/
def buildRxCandidates (id : SokFreshnessValueId) :
    Except FreshnessFailure AFreshnessValueManagerImpl :=
  let firstOccurrence := !self.mAttrMgr.isActive id
  let self := if firstOccurrence then self.setActive id else self
  -- if we don't have valid FV and we are within the valid timeout return default FV
  if !self.mIsFvValid && !self.validTimeoutPassed then
    .ok (self.setRxCandidates id [sokUpstartTime])
  else if self.mIsFvValid then
    if firstOccurrence then
      .ok (self.setRxCandidates id (sokUpstartTime :: self.neighbours))
    else
      let firstActivity := self.mAttrMgr.getEvent .kFirstActivity id
      if self.mFV < firstActivity then .error .fvBeforeFirstActivity
      else if self.mTimeSinceInit - firstActivity ≤ sokFmTimeValidTimeoutMs.toUInt64 then
        .ok (self.setRxCandidates id (sokUpstartTime :: self.neighbours))
      else .ok (self.setRxCandidates id self.neighbours)
  else .ok self

/-- `getRxFv`. -/
def getRxFv (id : SokFreshnessValueId) (type : SokFreshnessType) (truncated : FVContainer)
    (attempts : UInt16) : FreshnessResult × AFreshnessValueManagerImpl :=
  match self.mFvRxCandidates.lookup id with
  | some rxCandList =>
    if rxCandList.length ≤ attempts.toNat then (.error .invalidAttempts, self)
    else (.ok (serializeCandidate rxCandList attempts truncated), self)
  | none =>
    -- if there is no candidate list this must be the first attempt
    if attempts ≠ 0 then (.error .invalidAttempts, self)
    else if type = .kVwSokFreshnessValueSessionReceiver ∧
        truncated ≠ self.mAttrMgr.getNextSessionCounter id then
      (.error .sessionCounterMismatch, self)
    else
      let self := self.consumeSessionCounter id type
      if !self.mIsFvValid && self.validTimeoutPassed then (.error .noAuthFvAvailable, self)
      else match self.buildRxCandidates id with
        | .error failure => (.error failure, self)
        | .ok self =>
          let self := { self with
            mAttrMgr := self.mAttrMgr.updateEvent .kVerifyReq id self.mFV }
          (.ok (serializeCandidate (self.mFvRxCandidates.getD id []) attempts truncated), self)

/-- `GetRxFreshness`. -/
def getRxFreshness (id : SokFreshnessValueId) (truncated : FVContainer) (attempts : UInt16) :
    FreshnessResult × AFreshnessValueManagerImpl :=
  if !self.mInitialized then (.error .notInitialized, self)
  else match self.mFvmConfAccessor.getEntryTypeByFvId id with
    | .error _ => (.error .configEntryNotFound, self)
    | .ok .kVwSokFreshnessCrChallenge =>
      if attempts ≠ 0 then (.error .invalidAttempts, self)
      else (self.getChallengeForIncomingResponse id, self)
    | .ok .kVwSokFreshnessValueSessionReceiver =>
      self.getRxFv id .kVwSokFreshnessValueSessionReceiver truncated attempts
    | .ok .kVwSokFreshnessValue => self.getRxFv id .kVwSokFreshnessValue truncated attempts
    | .ok _ => (.error .notSupported, self)

/-! ## Call-backs of SecOC -/

/-- `updateVerificationStatusChallenge`. -/
def updateVerificationStatusChallenge (id : SokFreshnessValueId)
    (verificationSucceeded : Bool) : AFreshnessValueManagerImpl :=
  if verificationSucceeded then
    { self with mActiveOutgoingChallenges := self.mActiveOutgoingChallenges.erase id }
  else self

/-- `updateVerificationStatusAuthBroadcast`. -/
def updateVerificationStatusAuthBroadcast (id : SokFreshnessValueId)
    (verificationSucceeded : Bool) : AFreshnessValueManagerImpl :=
  if !verificationSucceeded then self
  else
    let lastVerifyReq := self.mAttrMgr.getEvent .kVerifyReq id
    { self with
      mAttrMgr := self.mAttrMgr.updateEvent .kVerifySuccess id lastVerifyReq
      mFvRxCandidates := self.mFvRxCandidates.erase id }

/-- `VerificationStatusCallout`. -/
def verificationStatusCallout (verificationStatus : SecOCVerificationStatusType) :
    AFreshnessValueManagerImpl :=
  match self.mFvmConfAccessor.getEntryTypeByFvId verificationStatus.fvId with
  | .error _ => self
  | .ok .kVwSokFreshnessCrChallenge =>
    self.updateVerificationStatusChallenge verificationStatus.fvId
      verificationStatus.verificationSucceeded
  | .ok .kVwSokFreshnessValueSessionReceiver | .ok .kVwSokFreshnessValue =>
    self.updateVerificationStatusAuthBroadcast verificationStatus.fvId
      verificationStatus.verificationSucceeded
  | .ok _ => self

/-- `SPduTxConfirmation`. -/
def sPduTxConfirmation (id : SokFreshnessValueId) : AFreshnessValueManagerImpl :=
  let lastSignReq := self.mAttrMgr.getEvent .kSignReq id
  { self with mAttrMgr := self.mAttrMgr.updateEvent .kSignSuccess id lastSignReq }

/-! ## The challenge-response protocol -/

/-- The active challenge of an identifier, if it has one, is not yet as old as
the timeout. -/
def challengeUndergoing (activeChallenges : UnorderedMap SokFreshnessValueId (UInt64 × ByteVector))
    (id : SokFreshnessValueId) : Bool :=
  match activeChallenges.lookup id with
  | none => false
  | some activeCh =>
    decide (self.mTimeSinceInit - activeCh.1 < sokFmChallengeTimeoutMs.toUInt64)

/-- `TriggerCrRequest`. -/
def triggerCrRequest (mCsmAccessor : ICsmAccessor) (mSignalManager : ISignalManager)
    (id : SokFreshnessValueId) : FvmErrorCode × AFreshnessValueManagerImpl :=
  if self.challengeUndergoing self.mActiveOutgoingChallenges id then (.kGeneralError, self)
  else match self.mFvmConfAccessor.getChallengeConfigInstanceByFvId id with
    | .error _ => (.kFvIdNotFound, self)
    | .ok chEntry =>
      match mCsmAccessor.generateRandomBytes challengeLengthBytes with
      | .error _ => (.kRngError, self)
      | .ok challenge =>
        if mSignalManager.publish chEntry.challengeSignalConfig challenge ≠ .kSuccess then
          (.kGeneralError, self)
        else (.kSuccess, { self with
          mActiveOutgoingChallenges :=
            self.mActiveOutgoingChallenges.insert id (self.mTimeSinceInit, challenge) })

/-- `OfferCrRequest`. -/
def offerCrRequest (id : SokFreshnessValueId) (cb : ChallengeReceivedIndicationCb) :
    FvmErrorCode × AFreshnessValueManagerImpl :=
  if self.mFvmConfAccessor.getEntryTypeByFvId id = .ok .kVwSokFreshnessCrResponse then
    (.kSuccess, { self with
      mFvIdToNotificationCallback := self.mFvIdToNotificationCallback.insert id cb })
  else (.kFvIdNotFound, self)

/-- `incomingChallengeSignalCb`.  The result is the callback to run and its
argument.  Running it is the last thing the function does, so calls that the
callback makes come after this one. -/
def incomingChallengeSignalCb (signal : String) (challenge : ByteVector) :
    Option (ChallengeReceivedIndicationCb × SokFreshnessValueId) × AFreshnessValueManagerImpl :=
  if challenge.length ≠ challengeLengthBytes.toNat then (none, self)
  else match self.mChallengeSignalToFvId.lookup signal with
    | none => (none, self)
    | some fvId =>
      match self.mFvIdToNotificationCallback.lookup fvId with
      | none => (none, self)
      | some cb =>
        if self.challengeUndergoing self.mActiveIncomingChallenges fvId then (none, self)
        else (some (cb, fvId), { self with
          mActiveIncomingChallenges :=
            self.mActiveIncomingChallenges.insert fvId (self.mTimeSinceInit, challenge) })

/-! ## The clock -/

/-- `incTimers`. -/
def incTimers : AFreshnessValueManagerImpl :=
  if !self.mInitialized then self
  else
    let mTimeSinceInit := self.mTimeSinceInit + sokFmMainFunctionPeriodMs.toUInt64
    let mClockCount := self.mClockCount + sokFmMainFunctionPeriodMs.toUInt32
    if self.mIsFvValid && sokFmTimeIncrementPeriodMs.toUInt32 == mClockCount then
      { self with mTimeSinceInit := mTimeSinceInit, mClockCount := 0, mFV := self.mFV + 1 }
    else { self with mTimeSinceInit := mTimeSinceInit, mClockCount := mClockCount }

end AFreshnessValueManagerImpl

end Sok.Fvm
