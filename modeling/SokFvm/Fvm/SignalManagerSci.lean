import SokFvm.Fvm.Definitions
import SokFvm.Library.Run

/-!
# `SignalManagerSci`

The implementation of `ISignalManager` over SCI, the signal library of the
platform.  A signal belongs to a PDU and a PDU to a frame; each of the three is
created once and then found by its name.  `Publish` hands a vector of at most eight
bytes to SCI as an unsigned number and a longer one as it is.
`SokSignalEventHandler::onEvent` is the other end: it turns the number back into
eight bytes before it calls the manager.

SCI itself is not part of the repository.  How its client answers is
`ISignalClient`.  What a receiver sees of a value that a sender has set is a
parameter of the results below, with the assumption `IntegersArrive`.

`Carried` is the whole way of a vector, from `Publish` to the call-back, and
`Carried.eq_padded` says what it does to a short vector: it fills it up with zeros
on the left.  `signal_codec_padded` is the way of every vector.
-/

namespace Sok.Fvm

open Sok.Common StateMachine

/-! ## SCI -/

inductive Direction
  | kReceived | kTransmitted
  deriving DecidableEq, Repr

/-- What `TransmittedSignal::setValue` is called with. -/
inductive SciValue
  | rawBuffer (bytes : ByteVector)
  | rawValue (value : UInt64)
  deriving DecidableEq, Repr

/-- The client of SCI, as it answers. -/
structure ISignalClient where
  createFrame : Direction → FrameConfig → Bool
  createPdu : Direction → FrameConfig → PduConfig → Bool
  activate : Direction → PduConfig → Bool
  createSignal : Direction → PduConfig → SignalConfig → Bool
  registerEventHandler : SignalConfig → Bool
  setValue : SignalConfig → SciValue → Bool

/-- A client of SCI that never fails. -/
def reliableClient : ISignalClient :=
  { createFrame := fun _ _ => true
    createPdu := fun _ _ _ => true
    activate := fun _ _ => true
    createSignal := fun _ _ _ => true
    registerEventHandler := fun _ => true
    setValue := fun _ _ => true }

/-- The events of a signal. The manager asks for one of them only. -/
inductive Sci.EventType
  | kOnChange | other
  deriving DecidableEq, Repr

/-- `ReceivedSignal`. -/
structure ReceivedSignal where
  name : String
  getRawBuffer : Option ByteVector
  getRawValue : Option UInt64
  deriving DecidableEq, Repr

/-- `SokSignalEventHandler::onEvent`: the arguments of the call-back, if it is
called. A buffer goes before a number. -/
def onEvent (event : Sci.EventType) (signal : ReceivedSignal) : Option (String × ByteVector) :=
  if event = .kOnChange then
    match signal.getRawBuffer with
    | some buffer => some (signal.name, buffer)
    | none =>
      match signal.getRawValue with
      | some value => some (signal.name, (uintToByteVectorLE value).reverse)
      | none => none
  else none

/-! ## The manager -/

/-- The frames and the PDUs of one direction, by their names. -/
structure SciCaches where
  mFramesCache : UnorderedMap String FrameConfig
  mPdusCache : UnorderedMap String PduConfig

namespace SciCaches

variable (client : ISignalClient) (direction : Direction) (caches : SciCaches)

/-- Create the PDU of a signal in a frame, and then the signal. -/
def createPduAndSignal (frame : FrameConfig) (signalConfig : SignalConfig) :
    Option SignalConfig × SciCaches :=
  let pduConfig := signalConfig.pduConfig
  if !client.createPdu direction frame pduConfig then (none, caches)
  else if !client.activate direction pduConfig then (none, caches)
  else
    let caches := { caches with mPdusCache := caches.mPdusCache.insert pduConfig.name pduConfig }
    if client.createSignal direction pduConfig signalConfig then (some signalConfig, caches)
    else (none, caches)

/-- `createIncomingSignal` and `createOutgoingSignal`. The PDUs are looked up only
if the frame is there. -/
def createSignal (signalConfig : SignalConfig) : Option SignalConfig × SciCaches :=
  let frameConfig := signalConfig.pduConfig.frameConfig
  match caches.mFramesCache.lookup frameConfig.name with
  | some frame =>
    match caches.mPdusCache.lookup signalConfig.pduConfig.name with
    | some pduConfig =>
      if client.createSignal direction pduConfig signalConfig then (some signalConfig, caches)
      else (none, caches)
    | none => caches.createPduAndSignal client direction frame signalConfig
  | none =>
    if !client.createFrame direction frameConfig then (none, caches)
    else
      let caches := { caches with
        mFramesCache := caches.mFramesCache.insert frameConfig.name frameConfig }
      caches.createPduAndSignal client direction frameConfig signalConfig

variable {client direction caches} {frame : FrameConfig} {signalConfig signal : SignalConfig}

/-- A signal that is created is the one that was asked for. -/
theorem eq_of_createPduAndSignal
    (hcreated : (caches.createPduAndSignal client direction frame signalConfig).1 = some signal) :
    signal = signalConfig := by
  unfold createPduAndSignal at hcreated
  dsimp only at hcreated
  split at hcreated
  · cases hcreated
  · split at hcreated
    · cases hcreated
    · split at hcreated
      · exact (Option.some.inj hcreated).symm
      · cases hcreated

theorem eq_of_createSignal
    (hcreated : (caches.createSignal client direction signalConfig).1 = some signal) :
    signal = signalConfig := by
  unfold createSignal at hcreated
  dsimp only at hcreated
  split at hcreated
  · split at hcreated
    · split at hcreated
      · exact (Option.some.inj hcreated).symm
      · cases hcreated
    · exact eq_of_createPduAndSignal hcreated
  · split at hcreated
    · cases hcreated
    · exact eq_of_createPduAndSignal hcreated

end SciCaches

structure SignalManagerSci where
  mInitialized : Bool
  mOutSignals : UnorderedMap String SignalConfig
  mInSignals : UnorderedMap String SignalConfig
  /-- The signals whose event handlers are kept. -/
  mSignalEventHandlers : List SignalConfig
  mIncoming : SciCaches
  mOutgoing : SciCaches

namespace SignalManagerSci

/-- The members as the constructor leaves them when it finds SCI. -/
def construct : SignalManagerSci :=
  { mInitialized := true
    mOutSignals := ∅
    mInSignals := ∅
    mSignalEventHandlers := []
    mIncoming := ⟨∅, ∅⟩
    mOutgoing := ⟨∅, ∅⟩ }

/-- The manager as the constructor leaves it, with or without SCI. -/
def constructed (sciFound : Bool) : SignalManagerSci := { construct with mInitialized := sciFound }

variable (client : ISignalClient) (self : SignalManagerSci)

/-- `Subscribe`. Nothing is ever entered into `mInSignals`. -/
def subscribe (signalConfig : SignalConfig) : FvmErrorCode × SignalManagerSci :=
  if !self.mInitialized then (.kNotInitialized, self)
  else if signalConfig.name ∈ self.mInSignals then (.kAlreadyInitialized, self)
  else
    let created := self.mIncoming.createSignal client .kReceived signalConfig
    let self := { self with mIncoming := created.2 }
    match created.1 with
    | none => (.kGeneralError, self)
    | some signal =>
      if !client.registerEventHandler signal then (.kGeneralError, self)
      else
        (.kSuccess, { self with
          mSignalEventHandlers := self.mSignalEventHandlers ++ [signal] })

/-- The signal that `Publish` sets: the one of this name, or a new one. -/
def outgoingSignal (signalConfig : SignalConfig) : Option SignalConfig × SignalManagerSci :=
  match self.mOutSignals.lookup signalConfig.name with
  | some signal => (some signal, self)
  | none =>
    let created := self.mOutgoing.createSignal client .kTransmitted signalConfig
    let self := { self with mOutgoing := created.2 }
    match created.1 with
    | none => (none, self)
    | some signal => (some signal, { self with
        mOutSignals := self.mOutSignals.insert signalConfig.name signal })

/-- How `Publish` hands a vector to `setValue`. -/
def sciValue (value : ByteVector) : SciValue :=
  if value.length > 8 then .rawBuffer value else .rawValue (byteVectorToUint value)

/-- `Publish`: the code, the state, and what SCI accepted. -/
def publish (signalConfig : SignalConfig) (value : ByteVector) :
    FvmErrorCode × SignalManagerSci × Option SciValue :=
  if !self.mInitialized then (.kNotInitialized, self, none)
  else
    let out := self.outgoingSignal client signalConfig
    match out.1 with
    | none => (.kGeneralError, out.2, none)
    | some signal =>
      if !client.setValue signal (sciValue value) then (.kGeneralError, out.2, none)
      else (.kSuccess, out.2, some (sciValue value))

variable {client self} {signalConfig : SignalConfig} {value : ByteVector}

/-- What SCI accepted is the vector that was published. -/
theorem eq_sciValue_of_publish {sent : SciValue}
    (hsent : (self.publish client signalConfig value).2.2 = some sent) :
    sent = sciValue value := by
  unfold publish at hsent
  dsimp only at hsent
  split at hsent
  · cases hsent
  · split at hsent
    · cases hsent
    · split at hsent
      · cases hsent
      · exact (Option.some.inj hsent).symm

/-! ### Subscribing twice -/

theorem mInSignals_subscribe : (self.subscribe client signalConfig).2.mInSignals =
    self.mInSignals := by
  unfold subscribe
  dsimp only
  split
  · rfl
  · split
    · rfl
    · split
      · rfl
      · split
        · rfl
        · rfl

theorem mInSignals_publish : (self.publish client signalConfig value).2.1.mInSignals =
    self.mInSignals := by
  have hout : (self.outgoingSignal client signalConfig).2.mInSignals = self.mInSignals := by
    unfold outgoingSignal
    split
    · rfl
    · dsimp only
      split
      · rfl
      · rfl
  unfold publish
  dsimp only
  split
  · rfl
  · split
    · exact hout
    · split
      · exact hout
      · exact hout

/-- The calls to the manager. -/
inductive SciCall
  | subscribe (client : ISignalClient) (signalConfig : SignalConfig)
  | publish (client : ISignalClient) (signalConfig : SignalConfig) (value : ByteVector)

/-- The manager as a machine. An event is the code of a call. -/
def sciStep : Machine SignalManagerSci SciCall FvmErrorCode Fault := fun self call =>
  match call with
  | .subscribe client signalConfig =>
    let ret := self.subscribe client signalConfig
    .ok (ret.2, [ret.1])
  | .publish client signalConfig value =>
    let ret := self.publish client signalConfig value
    .ok (ret.2.1, [ret.1])

/-- Run lemma: the map of the signals that were subscribed to stays empty. -/
theorem mInSignals_of_run {h₀ h : List FvmErrorCode}
    (hrun : Run sciStep Anything construct h₀ self h) : self.mInSignals = ∅ := by
  refine hrun.stateInvariant (fun self => self.mInSignals = ∅) rfl ?_
  intro self h call self' es hempty _ hstep
  cases call with
  | subscribe client signalConfig =>
    cases Except.ok.inj hstep
    exact mInSignals_subscribe.trans hempty
  | publish client signalConfig value =>
    cases Except.ok.inj hstep
    exact mInSignals_publish.trans hempty

/-- While the map is empty, `Subscribe` does not turn a signal down because there was one
of the same name. -/
theorem subscribe_ne_of_mInSignals (hempty : self.mInSignals = ∅) :
    (self.subscribe client signalConfig).1 ≠ .kAlreadyInitialized := by
  have hnew : signalConfig.name ∉ self.mInSignals := by
    rw [hempty]
    exact AList.notMem_empty _
  unfold subscribe
  rw [if_neg hnew]
  dsimp only
  split
  · simp
  · split
    · simp
    · split
      · simp
      · simp

/-- A subscription is never turned down because there was one for a signal of the
same name. -/
theorem subscribe_ne_kAlreadyInitialized {h₀ h : List FvmErrorCode}
    (hrun : Run sciStep Anything construct h₀ self h) :
    (self.subscribe client signalConfig).1 ≠ .kAlreadyInitialized :=
  subscribe_ne_of_mInSignals (mInSignals_of_run hrun)

end SignalManagerSci

/-! ## The way of a vector -/

/-- SCI hands a number to the receiver as it was set. -/
def IntegersArrive (receive : String → SciValue → ReceivedSignal) : Prop :=
  ∀ name value, receive name (.rawValue value) =
    { name := name, getRawBuffer := none, getRawValue := some value }

/-- `value` was published, and the receiver of the signal `name` is called with
`received`. -/
def Carried (receive : String → SciValue → ReceivedSignal) (name : String)
    (value received : ByteVector) : Prop :=
  ∃ (self : SignalManagerSci) (client : ISignalClient) (signalConfig : SignalConfig)
    (sent : SciValue), (self.publish client signalConfig value).2.2 = some sent ∧
      onEvent .kOnChange (receive name sent) = some (name, received)

/-- A vector of at most eight bytes arrives with eight. -/
theorem Carried.eq_padded {receive : String → SciValue → ReceivedSignal} {name : String}
    {value received : ByteVector} (hcarried : Carried receive name value received)
    (hsci : IntegersArrive receive) (hlength : value.length ≤ 8) :
    received = List.replicate (8 - value.length) 0 ++ value := by
  obtain ⟨self, client, signalConfig, sent, hsent, hreceived⟩ := hcarried
  have hraw : sent = .rawValue (byteVectorToUint value) := by
    rw [SignalManagerSci.eq_sciValue_of_publish hsent, SignalManagerSci.sciValue,
      if_neg (by omega)]
  rw [hraw, hsci] at hreceived
  have hbytes : uintToByteVector (byteVectorToUint value) = received :=
    congrArg Prod.snd (Option.some.inj hreceived)
  rw [← hbytes, uintToByteVector_byteVectorToUint hlength]

/-- SCI hands a buffer of more than eight bytes to the receiver as it was set. -/
def BuffersArrive (receive : String → SciValue → ReceivedSignal) : Prop :=
  ∀ name bytes, 8 < bytes.length → (receive name (.rawBuffer bytes)).name = name ∧
    (receive name (.rawBuffer bytes)).getRawBuffer = some bytes

/-- SCI without the network. -/
def directSci (name : String) : SciValue → ReceivedSignal
  | .rawBuffer bytes => { name := name, getRawBuffer := some bytes, getRawValue := none }
  | .rawValue value => { name := name, getRawBuffer := none, getRawValue := some value }

theorem integersArrive_directSci : IntegersArrive directSci := fun _ _ => rfl

theorem buffersArrive_directSci : BuffersArrive directSci := fun _ _ _ => ⟨rfl, rfl⟩

/-- A vector with zeros on its left, up to eight bytes. A longer one as it is. -/
def padded (value : ByteVector) : ByteVector :=
  if value.length ≤ 8 then List.replicate (8 - value.length) 0 ++ value else value

theorem padded_ne_nil (value : ByteVector) : padded value ≠ [] := by
  have hlength : 8 ≤ (padded value).length := by
    unfold padded
    split
    · rw [List.length_append, List.length_replicate]
      omega
    · omega
  intro hempty
  rw [hempty] at hlength
  contradiction

namespace SignalManagerSci

variable {client : ISignalClient} {self : SignalManagerSci} {signalConfig : SignalConfig}
variable {value : ByteVector}

/-- A successful `Publish` has set the vector. -/
theorem eq_some_sciValue_of_publish
    (hsuccess : (self.publish client signalConfig value).1 = .kSuccess) :
    (self.publish client signalConfig value).2.2 = some (sciValue value) := by
  unfold publish at hsuccess ⊢
  dsimp only at hsuccess ⊢
  split at hsuccess
  · cases hsuccess
  · rename_i hinitialized
    rw [if_neg hinitialized]
    split at hsuccess
    · cases hsuccess
    · split at hsuccess
      · cases hsuccess
      · rename_i signal hsignal haccepted
        rw [if_neg haccepted]

end SignalManagerSci

/-- What the receiver is called with. Both ends branch on the size of the vector: the
sender when it sets the value, and the receiver on what SCI hands it. -/
theorem onEvent_sciValue {receive : String → SciValue → ReceivedSignal}
    (hintegers : IntegersArrive receive) (hbuffers : BuffersArrive receive) (name : String)
    (value : ByteVector) :
    onEvent .kOnChange (receive name (SignalManagerSci.sciValue value)) =
      some (name, padded value) := by
  by_cases hlength : value.length ≤ 8
  · rw [SignalManagerSci.sciValue, if_neg (by omega), padded, if_pos hlength, hintegers]
    show some (name, uintToByteVector (byteVectorToUint value)) = _
    rw [uintToByteVector_byteVectorToUint hlength]
  · obtain ⟨hname, hbuffer⟩ := hbuffers name value (by omega)
    rw [SignalManagerSci.sciValue, if_pos (by omega), padded, if_neg hlength, onEvent,
      if_pos rfl, hbuffer, hname]

/-- The codec of the signals. A vector arrives with zeros on its left, up to eight bytes,
and a longer one as it is. Below it are the round trips of the serialisation. -/
theorem signal_codec_padded {receive : String → SciValue → ReceivedSignal}
    (hintegers : IntegersArrive receive) (hbuffers : BuffersArrive receive) :
    (∀ (self : SignalManagerSci) (client : ISignalClient) (signalConfig : SignalConfig)
        (value : ByteVector) (name : String),
      (self.publish client signalConfig value).1 = .kSuccess →
      ∃ sent, (self.publish client signalConfig value).2.2 = some sent ∧
        onEvent .kOnChange (receive name sent) = some (name, padded value)) ∧
    (∀ num, byteVectorToUint (uintToByteVector num) = num) ∧
    (∀ num, (uintToByteVectorLE num).reverse = uintToByteVector num) ∧
    ∀ num n, n ≤ 8 →
      (byteVectorToUint (uintToByteVectorTrim num n)).toNat = num.toNat % 256 ^ n := by
  refine ⟨?_, byteVectorToUint_uintToByteVector, fun _ => rfl, ?_⟩
  · intro self client signalConfig value name hsuccess
    exact ⟨_, SignalManagerSci.eq_some_sciValue_of_publish hsuccess,
      onEvent_sciValue hintegers hbuffers name value⟩
  · intro num n hn
    exact toNat_byteVectorToUint_uintToByteVectorTrim num hn

/-- The theorem for two bytes and for nine, without the network. -/
theorem signal_codec_padded_direct :
    (∃ sent, (SignalManagerSci.construct.publish reliableClient default [1, 2]).2.2 =
        some sent ∧
      onEvent .kOnChange (directSci "signal" sent) =
        some ("signal", [0, 0, 0, 0, 0, 0, 1, 2])) ∧
    ∃ sent, (SignalManagerSci.construct.publish reliableClient default (.replicate 9 7)).2.2 =
        some sent ∧
      onEvent .kOnChange (directSci "signal" sent) = some ("signal", .replicate 9 7) := by
  have hcodec := (signal_codec_padded integersArrive_directSci buffersArrive_directSci).1
  exact ⟨hcodec .construct reliableClient default [1, 2] "signal" (by decide +kernel),
    hcodec .construct reliableClient default (.replicate 9 7) "signal" (by decide +kernel)⟩

end Sok.Fvm
