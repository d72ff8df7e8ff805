import SokFvm.Fvm.SignalManagerSci

/-!
# The objects that `SignalManagerSci` creates

A signal is created on a PDU object, and a PDU on a frame object.  The manager looks both
up by their names before it creates them: the frame among the frames, and only if the
frame is there, the PDU among the PDUs.  The names of the PDUs of all frames share one
table, so that the PDU that is found need not be one of the frame that was found.

`SignalManagerSci` represents an object by the configuration it was created with.  Here
an object also knows what it was created on, and the objects of a direction are numbered
as they are created.  `represents_of_run` says that the two models make the same calls.

* `createSciSignal_cases` is the spec of a creation: it reuses the PDU that was found, or
  it makes what would be made without the tables.
* `SideInv` is the invariant of one direction in every run in which the name of a frame
  determines the frame.
* `caching_transparent_iff` is the condition under which the tables cannot be noticed.
-/

namespace Sok.Fvm

open Sok.Common StateMachine

/-! ## Objects -/

/-- `ReceivedFrame` and `TransmittedFrame`. -/
structure SciFrame where
  number : Nat
  config : FrameConfig
  deriving DecidableEq, Repr

/-- `ReceivedPdu` and `TransmittedPdu`. -/
structure SciPdu where
  number : Nat
  frame : SciFrame
  config : PduConfig
  activated : Bool
  deriving DecidableEq, Repr

/-- `ReceivedSignal` and `TransmittedSignal`, as they are created. -/
structure SciSignal where
  number : Nat
  pdu : SciPdu
  config : SignalConfig
  deriving DecidableEq, Repr

/-- What an object was created from, without the numbers. -/
def SciSignal.origin (signal : SciSignal) : SignalConfig × PduConfig × Bool × FrameConfig :=
  (signal.config, signal.pdu.config, signal.pdu.activated, signal.pdu.frame.config)

/-- The tables of one direction, and how many objects SCI has created in it. -/
structure SciSide where
  mFramesCache : UnorderedMap String SciFrame
  mPdusCache : UnorderedMap String SciPdu
  created : Nat

namespace SciSide

variable (client : ISignalClient) (direction : Direction) (side : SciSide)

/-- Nothing is cached. -/
def empty : SciSide := { mFramesCache := ∅, mPdusCache := ∅, created := 0 }

/-- `createSignal`, of `createIncomingSignal` and `createOutgoingSignal`. -/
def createSignal (pdu : SciPdu) (signalConfig : SignalConfig) : Option SciSignal × SciSide :=
  if client.createSignal direction pdu.config signalConfig then
    (some { number := side.created, pdu := pdu, config := signalConfig },
      { side with created := side.created + 1 })
  else (none, side)

/-- `createPdu`. The PDU is entered into the table when it is activated. -/
def createPdu (frame : SciFrame) (pduConfig : PduConfig) : Option SciPdu × SciSide :=
  if !client.createPdu direction frame.config pduConfig then (none, side)
  else
    let pdu : SciPdu :=
      { number := side.created, frame := frame, config := pduConfig, activated := false }
    let side := { side with created := side.created + 1 }
    if !client.activate direction pduConfig then (none, side)
    else
      let pdu := { pdu with activated := true }
      (some pdu, { side with mPdusCache := side.mPdusCache.insert pduConfig.name pdu })

/-- Create the PDU of a signal on a frame, and then the signal. -/
def createPduAndSignal (frame : SciFrame) (signalConfig : SignalConfig) :
    Option SciSignal × SciSide :=
  let ret := side.createPdu client direction frame signalConfig.pduConfig
  match ret.1 with
  | none => (none, ret.2)
  | some pdu => ret.2.createSignal client direction pdu signalConfig

/-- `createIncomingSignal` and `createOutgoingSignal`. -/
def createSciSignal (signalConfig : SignalConfig) : Option SciSignal × SciSide :=
  let frameConfig := signalConfig.pduConfig.frameConfig
  match side.mFramesCache.lookup frameConfig.name with
  | some frame =>
    match side.mPdusCache.lookup signalConfig.pduConfig.name with
    | some pdu => side.createSignal client direction pdu signalConfig
    | none => side.createPduAndSignal client direction frame signalConfig
  | none =>
    if !client.createFrame direction frameConfig then (none, side)
    else
      let frame : SciFrame := { number := side.created, config := frameConfig }
      let side := { side with
        mFramesCache := side.mFramesCache.insert frameConfig.name frame
        created := side.created + 1 }
      side.createPduAndSignal client direction frame signalConfig

/-- The PDU that is found for a signal. -/
def foundPdu (signalConfig : SignalConfig) : Option SciPdu :=
  match side.mFramesCache.lookup signalConfig.pduConfig.frameConfig.name with
  | some _ => side.mPdusCache.lookup signalConfig.pduConfig.name
  | none => none

end SciSide

/-! ## The manager with its objects -/

/-- A signal that was created, and for which configuration. -/
structure Created where
  direction : Direction
  requested : SignalConfig
  signal : SciSignal
  deriving DecidableEq, Repr

structure ObjectManager where
  mInitialized : Bool
  mOutSignals : UnorderedMap String SciSignal
  mInSignals : UnorderedMap String SciSignal
  /-- The signals whose event handlers are kept. -/
  mSignalEventHandlers : List SciSignal
  mIncoming : SciSide
  mOutgoing : SciSide

namespace ObjectManager

/-- The manager as the constructor leaves it, with or without SCI. -/
def constructed (sciFound : Bool) : ObjectManager :=
  { mInitialized := sciFound
    mOutSignals := ∅
    mInSignals := ∅
    mSignalEventHandlers := []
    mIncoming := .empty
    mOutgoing := .empty }

variable (client : ISignalClient) (self : ObjectManager)

/-- The signal that was created, if one was. -/
def createdFor (direction : Direction) (signalConfig : SignalConfig) :
    Option SciSignal → List Created
  | none => []
  | some signal =>
    [{ direction := direction, requested := signalConfig, signal := signal }]

/-- `Subscribe`. -/
def subscribe (signalConfig : SignalConfig) : FvmErrorCode × ObjectManager × List Created :=
  if !self.mInitialized then (.kNotInitialized, self, [])
  else if signalConfig.name ∈ self.mInSignals then (.kAlreadyInitialized, self, [])
  else
    let ret := self.mIncoming.createSciSignal client .kReceived signalConfig
    let self := { self with mIncoming := ret.2 }
    let events := createdFor .kReceived signalConfig ret.1
    match ret.1 with
    | none => (.kGeneralError, self, events)
    | some signal =>
      if !client.registerEventHandler signal.config then (.kGeneralError, self, events)
      else
        (.kSuccess, { self with
          mSignalEventHandlers := self.mSignalEventHandlers ++ [signal] }, events)

/-- The signal that `Publish` sets: the one of this name, or a new one. -/
def outgoingSignal (signalConfig : SignalConfig) :
    Option SciSignal × ObjectManager × List Created :=
  match self.mOutSignals.lookup signalConfig.name with
  | some signal => (some signal, self, [])
  | none =>
    let ret := self.mOutgoing.createSciSignal client .kTransmitted signalConfig
    let self := { self with mOutgoing := ret.2 }
    let events := createdFor .kTransmitted signalConfig ret.1
    match ret.1 with
    | none => (none, self, events)
    | some signal => (some signal, { self with
        mOutSignals := self.mOutSignals.insert signalConfig.name signal }, events)

/-- `Publish`: the code, the state, and the signals that were created. -/
def publish (signalConfig : SignalConfig) (value : ByteVector) :
    FvmErrorCode × ObjectManager × List Created :=
  if !self.mInitialized then (.kNotInitialized, self, [])
  else
    let out := self.outgoingSignal client signalConfig
    match out.1 with
    | none => (.kGeneralError, out.2)
    | some signal =>
      if !client.setValue signal.config (SignalManagerSci.sciValue value) then
        (.kGeneralError, out.2)
      else (.kSuccess, out.2)

/-- The manager under its calls. An event is a signal that is created. -/
def objectStep : Machine ObjectManager SignalManagerSci.SciCall Created Fault :=
  fun self call =>
    match call with
    | .subscribe client signalConfig => .ok (self.subscribe client signalConfig).2
    | .publish client signalConfig value => .ok (self.publish client signalConfig value).2

/-- The tables of a direction. -/
def side : Direction → SciSide
  | .kReceived => self.mIncoming
  | .kTransmitted => self.mOutgoing

end ObjectManager

namespace SignalManagerSci.SciCall

def client : SciCall → ISignalClient
  | .subscribe client _ | .publish client _ _ => client

def signalConfig : SciCall → SignalConfig
  | .subscribe _ signalConfig | .publish _ signalConfig _ => signalConfig

def direction : SciCall → Direction
  | .subscribe _ _ => .kReceived
  | .publish _ _ _ => .kTransmitted

end SignalManagerSci.SciCall

/-! ## Transparency -/

open ObjectManager

/-- The signal is on an activated PDU of the frame object that the manager has for the
frame of the signal's configuration. -/
structure OnOwnFrame (frames : UnorderedMap String SciFrame) (e : Created) : Prop where
  activated : e.signal.pdu.activated = true
  frame : frames.lookup e.requested.pduConfig.frameConfig.name = some e.signal.pdu.frame

/-- The signal also comes from what it would come from without the tables. -/
structure AsUncached (frames : UnorderedMap String SciFrame) (e : Created) : Prop extends
    OnOwnFrame frames e where
  origin : (SciSide.empty.createSciSignal reliableClient e.direction e.requested).1.map
    SciSignal.origin = some e.signal.origin

/-- A property of every signal that was created, and of the frames of its direction. -/
def EachCreated (Q : UnorderedMap String SciFrame → Created → Prop) (self : ObjectManager)
    (h : List Created) : Prop :=
  ∀ e ∈ h, Q (self.side e.direction).mFramesCache e

/-- A frame name always comes with the same frame. -/
def SameFrames (frameOf : String → FrameConfig) :
    Guard ObjectManager SignalManagerSci.SciCall Created :=
  fun _ _ call => call.signalConfig.pduConfig.frameConfig =
    frameOf call.signalConfig.pduConfig.frameConfig.name

instance (frameOf : String → FrameConfig) (self : ObjectManager) (h : List Created) :
    DecidablePred (SameFrames frameOf self h) := fun _ => inferInstanceAs (Decidable (_ = _))

/-- The call has no signal to use and creates one. -/
def ObjectManager.Creates (self : ObjectManager) : SignalManagerSci.SciCall → Prop
  | .subscribe _ signalConfig =>
    self.mInitialized = true ∧ signalConfig.name ∉ self.mInSignals
  | .publish _ signalConfig _ =>
    self.mInitialized = true ∧ signalConfig.name ∉ self.mOutSignals

instance (self : ObjectManager) : DecidablePred self.Creates
  | .subscribe _ _ | .publish _ _ _ => inferInstanceAs (Decidable (_ ∧ _))

/-- A signal is created on a PDU that was found only if that PDU was created from what
`fits` the PDU of the signal. -/
def FoundPduFits (fits : PduConfig → PduConfig → Prop) :
    Guard ObjectManager SignalManagerSci.SciCall Created :=
  fun self _ call => self.Creates call → ∀ pdu,
    (self.side call.direction).foundPdu call.signalConfig = some pdu →
    call.client.createSignal call.direction pdu.config call.signalConfig = true →
      fits pdu.config call.signalConfig.pduConfig

instance (fits : PduConfig → PduConfig → Prop) [DecidableRel fits] (self : ObjectManager)
    (h : List Created) : DecidablePred (FoundPduFits fits self h) := fun call =>
  inferInstanceAs (Decidable (self.Creates call →
    ∀ pdu ∈ (self.side call.direction).foundPdu call.signalConfig,
      call.client.createSignal call.direction pdu.config call.signalConfig = true →
        fits pdu.config call.signalConfig.pduConfig))

/-- The PDU that is found is one of the frame of the signal. -/
def FrameOwnsFoundPdu : Guard ObjectManager SignalManagerSci.SciCall Created :=
  FoundPduFits fun found own => found.frameConfig = own.frameConfig

/-- The PDU that is found is the PDU of the signal. -/
def SignalOwnsFoundPdu : Guard ObjectManager SignalManagerSci.SciCall Created :=
  FoundPduFits fun found own => found = own

instance (self : ObjectManager) (h : List Created) :
    DecidablePred (SignalOwnsFoundPdu self h) :=
  inferInstanceAs (DecidablePred (FoundPduFits Eq self h))

/-- What a signal comes from without the tables. -/
theorem origin_uncached (direction : Direction) (signalConfig : SignalConfig) :
    (SciSide.empty.createSciSignal reliableClient direction signalConfig).1.map
        SciSignal.origin =
      some (signalConfig, signalConfig.pduConfig, true, signalConfig.pduConfig.frameConfig) :=
  rfl

/-! ## A creation -/

namespace SciSide

variable {client : ISignalClient} {direction : Direction} {side side' : SciSide}
variable {frame : SciFrame} {signalConfig : SignalConfig} {frameOf : String → FrameConfig}

/-- The frame of a signal is there, after it was found or created. -/
inductive FrameReady (side : SciSide) (frameConfig : FrameConfig) : SciFrame → SciSide → Prop
  | found (frame : SciFrame) (hfound : side.mFramesCache.lookup frameConfig.name = some frame) :
      FrameReady side frameConfig frame side
  | made (hnone : side.mFramesCache.lookup frameConfig.name = none) :
      FrameReady side frameConfig { number := side.created, config := frameConfig }
        { side with
          mFramesCache := side.mFramesCache.insert frameConfig.name
            { number := side.created, config := frameConfig }
          created := side.created + 1 }

/-- A creation reuses the PDU that is found. If none is, it makes the PDU and the signal
on the frame, unless the frame cannot be created. -/
theorem createSciSignal_cases (client : ISignalClient) (direction : Direction) (side : SciSide)
    (signalConfig : SignalConfig) :
    (∃ pdu, side.foundPdu signalConfig = some pdu ∧
      side.createSciSignal client direction signalConfig =
        side.createSignal client direction pdu signalConfig) ∨
    (side.foundPdu signalConfig = none ∧
      (side.createSciSignal client direction signalConfig = (none, side) ∨
        ∃ frame side', FrameReady side signalConfig.pduConfig.frameConfig frame side' ∧
          side.createSciSignal client direction signalConfig =
            side'.createPduAndSignal client direction frame signalConfig)) := by
  unfold createSciSignal foundPdu
  dsimp only
  split
  · rename_i frame hframe
    split
    · rename_i pdu hpdu
      left
      exact ⟨pdu, hpdu, rfl⟩
    · rename_i hpdu
      right
      refine ⟨hpdu, Or.inr ⟨frame, side, .found frame hframe, rfl⟩⟩
  · rename_i hframe
    right
    refine ⟨rfl, ?_⟩
    split
    · left
      rfl
    · right
      exact ⟨_, _, .made hframe, rfl⟩

/-- No frame is lost or replaced. -/
def Grows (side side' : SciSide) : Prop :=
  ∀ name frame, side.mFramesCache.lookup name = some frame →
    side'.mFramesCache.lookup name = some frame

theorem grows_of_frames (hframes : side'.mFramesCache = side.mFramesCache) :
    side.Grows side' := by
  intro name frame hframe
  rw [hframes]
  exact hframe

theorem Grows.trans {side'' : SciSide} (first : side.Grows side') (second : side'.Grows side'') :
    side.Grows side'' := fun name frame hframe =>
  second name frame (first name frame hframe)

/-- A PDU is activated, and it is on the frame that is held under the name of its own. -/
structure PduInv (frameOf : String → FrameConfig) (side : SciSide) (pdu : SciPdu) : Prop where
  activated : pdu.activated = true
  same : pdu.config.frameConfig = frameOf pdu.config.frameConfig.name
  held : side.mFramesCache.lookup pdu.config.frameConfig.name = some pdu.frame

/-- What stands in the tables of a direction. -/
structure SideInv (frameOf : String → FrameConfig) (side : SciSide) : Prop where
  frames : ∀ name frame, side.mFramesCache.lookup name = some frame →
    frame.config = frameOf name
  pdus : ∀ name pdu, side.mPdusCache.lookup name = some pdu → PduInv frameOf side pdu

theorem sideInv_empty : SideInv frameOf .empty := by
  constructor
  · intro name frame hframe
    cases hframe
  · intro name pdu hpdu
    cases hpdu

theorem PduInv.grows {pdu : SciPdu} (hpdu : PduInv frameOf side pdu)
    (hgrows : side.Grows side') : PduInv frameOf side' pdu :=
  ⟨hpdu.activated, hpdu.same, hgrows _ _ hpdu.held⟩

/-- Objects that are not entered are counted, and nothing else. -/
theorem SideInv.counted (hinv : SideInv frameOf side) (created : Nat) :
    SideInv frameOf { side with created := created } :=
  ⟨hinv.frames, fun name pdu hpdu => (hinv.pdus name pdu hpdu).grows (grows_of_frames rfl)⟩

/-- A PDU is entered. It may replace one of the same name, of whatever frame. -/
theorem SideInv.entered {pdu : SciPdu} (hinv : SideInv frameOf side)
    (hpdu : PduInv frameOf side pdu) (pduName : String) (created : Nat) :
    SideInv frameOf { side with
      mPdusCache := side.mPdusCache.insert pduName pdu
      created := created } := by
  refine ⟨hinv.frames, ?_⟩
  intro name other hother
  by_cases hname : name = pduName
  · rw [hname, AList.lookup_insert] at hother
    rw [← Option.some.inj hother]
    exact hpdu.grows (grows_of_frames rfl)
  · rw [AList.lookup_insert_ne hname] at hother
    exact (hinv.pdus name other hother).grows (grows_of_frames rfl)

theorem SideInv.foundPdu {pdu : SciPdu} (hinv : SideInv frameOf side)
    (hfound : side.foundPdu signalConfig = some pdu) : PduInv frameOf side pdu := by
  unfold SciSide.foundPdu at hfound
  split at hfound
  · exact hinv.pdus _ _ hfound
  · cases hfound

theorem FrameReady.grows {frameConfig : FrameConfig}
    (hready : FrameReady side frameConfig frame side') : side.Grows side' := by
  cases hready with
  | found frame hfound => exact grows_of_frames rfl
  | made hnone =>
    intro name frame hframe
    have hne : name ≠ frameConfig.name := by
      intro hname
      rw [hname, hnone] at hframe
      cases hframe
    exact (AList.lookup_insert_ne hne).trans hframe

theorem FrameReady.lookup_eq {frameConfig : FrameConfig}
    (hready : FrameReady side frameConfig frame side') :
    side'.mFramesCache.lookup frameConfig.name = some frame := by
  cases hready with
  | found frame hfound => exact hfound
  | made hnone => exact AList.lookup_insert _

theorem FrameReady.sideInv {frameConfig : FrameConfig}
    (hready : FrameReady side frameConfig frame side') (hinv : SideInv frameOf side)
    (hsame : frameConfig = frameOf frameConfig.name) : SideInv frameOf side' := by
  have hgrows := hready.grows
  cases hready with
  | found frame hfound => exact hinv
  | made hnone =>
    refine ⟨?_, ?_⟩
    · intro name frame hframe
      by_cases hname : name = frameConfig.name
      · rw [hname, AList.lookup_insert] at hframe
        rw [← Option.some.inj hframe, hname]
        exact hsame
      · rw [AList.lookup_insert_ne hname] at hframe
        exact hinv.frames name frame hframe
    · intro name pdu hpdu
      exact (hinv.pdus name pdu hpdu).grows hgrows

/-- A PDU is created on the frame, or there is none. -/
theorem createPdu_cases (client : ISignalClient) (direction : Direction) (side : SciSide)
    (frame : SciFrame) (pduConfig : PduConfig) :
    ((side.createPdu client direction frame pduConfig).1 = none ∧
      ∃ created, (side.createPdu client direction frame pduConfig).2 =
        { side with created := created }) ∨
    ∃ pdu, (side.createPdu client direction frame pduConfig).1 = some pdu ∧
      pdu.frame = frame ∧ pdu.config = pduConfig ∧ pdu.activated = true ∧
      (side.createPdu client direction frame pduConfig).2 = { side with
        mPdusCache := side.mPdusCache.insert pduConfig.name pdu
        created := side.created + 1 } := by
  unfold createPdu
  dsimp only
  split
  · left
    exact ⟨rfl, side.created, rfl⟩
  · split
    · left
      exact ⟨rfl, side.created + 1, rfl⟩
    · right
      exact ⟨_, rfl, rfl, rfl, rfl, rfl⟩

/-- A signal is created on the PDU it is asked for on. -/
theorem createSignal_spec (client : ISignalClient) (direction : Direction) (side : SciSide)
    (pdu : SciPdu) (signalConfig : SignalConfig) :
    (∃ created, (side.createSignal client direction pdu signalConfig).2 =
      { side with created := created }) ∧
    ∀ signal, (side.createSignal client direction pdu signalConfig).1 = some signal →
      signal.pdu = pdu ∧ signal.config = signalConfig ∧
        client.createSignal direction pdu.config signalConfig = true := by
  unfold createSignal
  split
  · rename_i hcreated
    refine ⟨⟨side.created + 1, rfl⟩, ?_⟩
    intro signal hsignal
    cases hsignal
    exact ⟨rfl, rfl, hcreated⟩
  · refine ⟨⟨side.created, rfl⟩, ?_⟩
    intro signal hsignal
    cases hsignal

/-- The PDU and the signal that are made on a frame which is held under its name. -/
theorem SideInv.createPduAndSignal (client : ISignalClient) (direction : Direction)
    (hinv : SideInv frameOf side)
    (hsame : signalConfig.pduConfig.frameConfig =
      frameOf signalConfig.pduConfig.frameConfig.name)
    (hheld : side.mFramesCache.lookup signalConfig.pduConfig.frameConfig.name = some frame) :
    SideInv frameOf (side.createPduAndSignal client direction frame signalConfig).2 ∧
    side.Grows (side.createPduAndSignal client direction frame signalConfig).2 ∧
    ∀ signal, (side.createPduAndSignal client direction frame signalConfig).1 = some signal →
      signal.config = signalConfig ∧
      PduInv frameOf (side.createPduAndSignal client direction frame signalConfig).2
        signal.pdu ∧
      signal.pdu.config = signalConfig.pduConfig := by
  unfold SciSide.createPduAndSignal
  dsimp only
  rcases createPdu_cases client direction side frame signalConfig.pduConfig with
    ⟨hnone, created, hside⟩ | ⟨pdu, hsome, hframe, hconfig, hactivated, hside⟩
  · rw [hnone, hside]
    refine ⟨hinv.counted created, grows_of_frames rfl, ?_⟩
    intro signal hsignal
    cases hsignal
  · rw [hsome, hside]
    dsimp only
    have hpdu : PduInv frameOf side pdu := by
      refine ⟨hactivated, ?_, ?_⟩
      · rw [hconfig]
        exact hsame
      · rw [hconfig, hframe]
        exact hheld
    have hentered := hinv.entered hpdu signalConfig.pduConfig.name (side.created + 1)
    obtain ⟨⟨created, hcounted⟩, hspec⟩ := createSignal_spec client direction
      { side with
        mPdusCache := side.mPdusCache.insert signalConfig.pduConfig.name pdu
        created := side.created + 1 } pdu signalConfig
    rw [hcounted]
    refine ⟨hentered.counted created, grows_of_frames rfl, ?_⟩
    intro signal hsignal
    obtain ⟨hon, hown, -⟩ := hspec signal hsignal
    rw [hon]
    exact ⟨hown, hpdu.grows (grows_of_frames rfl), hconfig⟩

/-- What a creation leaves: the tables keep their invariant, no frame is lost, and the
signal is on the PDU that was found, or else on one made for its configuration. -/
theorem SideInv.createSciSignal (client : ISignalClient) (direction : Direction)
    (hinv : SideInv frameOf side)
    (hsame : signalConfig.pduConfig.frameConfig =
      frameOf signalConfig.pduConfig.frameConfig.name) :
    SideInv frameOf (side.createSciSignal client direction signalConfig).2 ∧
    side.Grows (side.createSciSignal client direction signalConfig).2 ∧
    ∀ signal, (side.createSciSignal client direction signalConfig).1 = some signal →
      signal.config = signalConfig ∧
      PduInv frameOf (side.createSciSignal client direction signalConfig).2 signal.pdu ∧
      (side.foundPdu signalConfig = some signal.pdu ∧
          client.createSignal direction signal.pdu.config signalConfig = true ∨
        side.foundPdu signalConfig = none ∧ signal.pdu.config = signalConfig.pduConfig) := by
  rcases createSciSignal_cases client direction side signalConfig with
    ⟨pdu, hfound, heq⟩ | ⟨hfound, heq | ⟨frame, side', hready, heq⟩⟩
  · rw [heq]
    obtain ⟨⟨created, hside⟩, hspec⟩ :=
      createSignal_spec client direction side pdu signalConfig
    rw [hside]
    refine ⟨hinv.counted created, grows_of_frames rfl, ?_⟩
    intro signal hsignal
    obtain ⟨hpdu, hconfig, haccepted⟩ := hspec signal hsignal
    rw [hpdu]
    exact ⟨hconfig, (hinv.foundPdu hfound).grows (grows_of_frames rfl),
      .inl ⟨hfound, haccepted⟩⟩
  · rw [heq]
    refine ⟨hinv, grows_of_frames rfl, ?_⟩
    intro signal hsignal
    cases hsignal
  · rw [heq]
    obtain ⟨hside, hgrows, hspec⟩ :=
      (hready.sideInv hinv hsame).createPduAndSignal client direction hsame hready.lookup_eq
    refine ⟨hside, hready.grows.trans hgrows, ?_⟩
    intro signal hsignal
    obtain ⟨hconfig, hpdu, hown⟩ := hspec signal hsignal
    exact ⟨hconfig, hpdu, .inr ⟨hfound, hown⟩⟩

/-- A signal that SCI accepts on the PDU that was found is created. -/
theorem exists_of_foundPdu {pdu : SciPdu} (hfound : side.foundPdu signalConfig = some pdu)
    (haccepted : client.createSignal direction pdu.config signalConfig = true) :
    ∃ signal, (side.createSciSignal client direction signalConfig).1 = some signal ∧
      signal.pdu = pdu := by
  rcases createSciSignal_cases client direction side signalConfig with
    ⟨other, hother, heq⟩ | ⟨hnone, -⟩
  · have hpdu : other = pdu := Option.some.inj (hother.symm.trans hfound)
    rw [heq, hpdu, SciSide.createSignal, if_pos haccepted]
    exact ⟨_, rfl, rfl⟩
  · rw [hfound] at hnone
    cases hnone

end SciSide

/-! ## A call -/

section

open SignalManagerSci (SciCall)

variable {self self' : ObjectManager} {call : SciCall} {es h : List Created}
variable {frameOf : String → FrameConfig} {client : ISignalClient}
variable {signalConfig : SignalConfig} {value : ByteVector}

namespace ObjectManager

/-- The creation that a call makes, if it makes one. -/
def creation (self : ObjectManager) (call : SciCall) : Option SciSignal × SciSide :=
  (self.side call.direction).createSciSignal call.client call.direction call.signalConfig

theorem subscribe_of_creates (hcreates : self.Creates (.subscribe client signalConfig)) :
    (self.subscribe client signalConfig).2.2 =
        createdFor .kReceived signalConfig
          (self.creation (.subscribe client signalConfig)).1 ∧
      (self.subscribe client signalConfig).2.1.mIncoming =
        (self.creation (.subscribe client signalConfig)).2 ∧
      (self.subscribe client signalConfig).2.1.mOutgoing = self.mOutgoing := by
  have hret : self.creation (.subscribe client signalConfig) =
      self.mIncoming.createSciSignal client .kReceived signalConfig := rfl
  unfold subscribe
  rw [if_neg (by rw [hcreates.1]; decide), if_neg hcreates.2, hret]
  dsimp only
  split
  · exact ⟨rfl, rfl, rfl⟩
  · split
    · exact ⟨rfl, rfl, rfl⟩
    · exact ⟨rfl, rfl, rfl⟩

theorem subscribe_of_not_creates
    (hcreates : ¬self.Creates (.subscribe client signalConfig)) :
    (self.subscribe client signalConfig).2 = (self, []) := by
  unfold subscribe
  split
  · rfl
  · rename_i hinitialized
    split
    · rfl
    · rename_i hnew
      exact absurd ⟨by simpa using hinitialized, hnew⟩ hcreates

/-- What `Publish` creates and keeps is what it does to find its signal. -/
theorem publish_snd (hinitialized : self.mInitialized = true) :
    (self.publish client signalConfig value).2 =
      (self.outgoingSignal client signalConfig).2 := by
  unfold publish
  rw [if_neg (by rw [hinitialized]; decide)]
  dsimp only
  split
  · rfl
  · split
    · rfl
    · rfl

theorem outgoingSignal_of_creates (client : ISignalClient)
    (hnew : signalConfig.name ∉ self.mOutSignals) :
    (self.outgoingSignal client signalConfig).2.2 =
        createdFor .kTransmitted signalConfig
          (self.mOutgoing.createSciSignal client .kTransmitted signalConfig).1 ∧
      (self.outgoingSignal client signalConfig).2.1.mOutgoing =
        (self.mOutgoing.createSciSignal client .kTransmitted signalConfig).2 ∧
      (self.outgoingSignal client signalConfig).2.1.mIncoming = self.mIncoming := by
  unfold outgoingSignal
  rw [AList.lookup_eq_none.mpr hnew]
  dsimp only
  split
  · exact ⟨rfl, rfl, rfl⟩
  · exact ⟨rfl, rfl, rfl⟩

theorem publish_of_not_creates
    (hcreates : ¬self.Creates (.publish client signalConfig value)) :
    (self.publish client signalConfig value).2 = (self, []) := by
  by_cases hinitialized : self.mInitialized = true
  · rw [publish_snd hinitialized]
    have hknown : signalConfig.name ∈ self.mOutSignals := by
      by_contra hnew
      exact hcreates ⟨hinitialized, hnew⟩
    obtain ⟨signal, hsignal⟩ := Option.isSome_iff_exists.mp (AList.lookup_isSome.mpr hknown)
    unfold outgoingSignal
    rw [hsignal]
  · unfold publish
    rw [if_pos (by simpa using hinitialized)]

/-- A call that creates a signal reports it, and changes the tables of its direction as
the creation does. -/
theorem objectStep_of_creates (hcreates : self.Creates call)
    (hstep : objectStep self call = .ok (self', es)) :
    es = createdFor call.direction call.signalConfig (self.creation call).1 ∧
      self'.side call.direction = (self.creation call).2 ∧
      ∀ direction, direction ≠ call.direction → self'.side direction = self.side direction := by
  cases call with
  | subscribe client signalConfig =>
    have hret := Except.ok.inj hstep
    obtain ⟨hevents, hincoming, houtgoing⟩ := subscribe_of_creates hcreates
    rw [hret] at hevents hincoming houtgoing
    refine ⟨hevents, hincoming, ?_⟩
    intro direction hother
    cases direction with
    | kReceived => exact absurd rfl hother
    | kTransmitted => exact houtgoing
  | publish client signalConfig value =>
    have hret := Except.ok.inj hstep
    rw [publish_snd hcreates.1] at hret
    obtain ⟨hevents, houtgoing, hincoming⟩ :=
      outgoingSignal_of_creates client hcreates.2
    rw [hret] at hevents houtgoing hincoming
    refine ⟨hevents, houtgoing, ?_⟩
    intro direction hother
    cases direction with
    | kReceived => exact hincoming
    | kTransmitted => exact absurd rfl hother

/-- Any other call changes nothing. -/
theorem objectStep_of_not_creates (hcreates : ¬self.Creates call)
    (hstep : objectStep self call = .ok (self', es)) : self' = self ∧ es = [] := by
  cases call with
  | subscribe client signalConfig =>
    have hret := Except.ok.inj hstep
    rw [subscribe_of_not_creates hcreates] at hret
    exact ⟨(congrArg Prod.fst hret).symm, (congrArg Prod.snd hret).symm⟩
  | publish client signalConfig value =>
    have hret := Except.ok.inj hstep
    rw [publish_of_not_creates hcreates] at hret
    exact ⟨(congrArg Prod.fst hret).symm, (congrArg Prod.snd hret).symm⟩

end ObjectManager

/-! ## Every run -/

/-- A signal stands for its configuration, on a PDU that is as the tables have it. -/
structure CreatedInv (frameOf : String → FrameConfig) (side : SciSide) (e : Created) :
    Prop where
  pdu : SciSide.PduInv frameOf side e.signal.pdu
  config : e.signal.config = e.requested
  same : e.requested.pduConfig.frameConfig = frameOf e.requested.pduConfig.frameConfig.name

/-- What holds while a frame name always comes with the same frame. -/
structure ObjectInv (frameOf : String → FrameConfig) (manager : ObjectManager)
    (h : List Created) : Prop where
  sides : ∀ direction, SciSide.SideInv frameOf (manager.side direction)
  signals : ∀ e ∈ h, CreatedInv frameOf (manager.side e.direction) e

theorem mem_createdFor {direction : Direction} {created : Option SciSignal} {e : Created} :
    e ∈ createdFor direction signalConfig created ↔
      ∃ signal, created = some signal ∧ e = ⟨direction, signalConfig, signal⟩ := by
  cases created with
  | none => simp [createdFor]
  | some signal => simp [createdFor]

theorem objectInv_constructed (sciFound : Bool) :
    ObjectInv frameOf (constructed sciFound) [] := by
  refine ⟨?_, fun e he => absurd he List.not_mem_nil⟩
  intro direction
  cases direction with
  | kReceived => exact SciSide.sideInv_empty
  | kTransmitted => exact SciSide.sideInv_empty

/-- Step lemma: the tables keep their invariant, and so does every signal that was
created on what they held. -/
theorem ObjectInv.step (hinv : ObjectInv frameOf self h) (hsame : SameFrames frameOf self h call)
    (hstep : objectStep self call = .ok (self', es)) : ObjectInv frameOf self' (es ++ h) := by
  by_cases hcreates : self.Creates call
  · obtain ⟨hevents, hside, hothers⟩ := objectStep_of_creates hcreates hstep
    obtain ⟨hkept, hgrows, hspec⟩ :=
      (hinv.sides call.direction).createSciSignal call.client call.direction hsame
    have hsides : ∀ direction, SciSide.SideInv frameOf (self'.side direction) ∧
        (self.side direction).Grows (self'.side direction) := by
      intro direction
      by_cases hdirection : direction = call.direction
      · rw [hdirection, hside]
        exact ⟨hkept, hgrows⟩
      · rw [hothers direction hdirection]
        exact ⟨hinv.sides direction, SciSide.grows_of_frames rfl⟩
    refine ⟨fun direction => (hsides direction).1, ?_⟩
    intro e he
    rcases List.mem_append.mp he with hnew | hold
    · rw [hevents] at hnew
      obtain ⟨signal, hsignal, rfl⟩ := mem_createdFor.mp hnew
      obtain ⟨hconfig, hpdu, -⟩ := hspec signal hsignal
      refine ⟨?_, hconfig, hsame⟩
      show SciSide.PduInv frameOf (self'.side call.direction) signal.pdu
      rw [hside]
      exact hpdu
    · have hbefore := hinv.signals e hold
      exact ⟨hbefore.pdu.grows (hsides e.direction).2, hbefore.config, hbefore.same⟩
  · obtain ⟨rfl, rfl⟩ := objectStep_of_not_creates hcreates hstep
    exact hinv

/-- Run lemma. -/
theorem objectInv_of_run {guard : Guard ObjectManager SciCall Created} {sciFound : Bool}
    (hrun : Run objectStep (fun self h call =>
      SameFrames frameOf self h call ∧ guard self h call) (constructed sciFound) [] self h) :
    ObjectInv frameOf self h := by
  refine hrun.invariant (ObjectInv frameOf) (objectInv_constructed sciFound) ?_
  intro self h call self' es hinv hguard hstep
  exact hinv.step hguard.1 hstep

/-- A new signal is on the PDU that was found, or on one made for it. -/
theorem ObjectInv.fits_of_step {fits : PduConfig → PduConfig → Prop}
    (hrefl : ∀ pduConfig, fits pduConfig pduConfig) (hinv : ObjectInv frameOf self h)
    (hsame : SameFrames frameOf self h call) (hfits : FoundPduFits fits self h call)
    (hstep : objectStep self call = .ok (self', es)) :
    ∀ e ∈ es, fits e.signal.pdu.config e.requested.pduConfig := by
  intro e he
  by_cases hcreates : self.Creates call
  · obtain ⟨hevents, -, -⟩ := objectStep_of_creates hcreates hstep
    obtain ⟨-, -, hspec⟩ :=
      (hinv.sides call.direction).createSciSignal call.client call.direction hsame
    rw [hevents] at he
    obtain ⟨signal, hsignal, rfl⟩ := mem_createdFor.mp he
    obtain ⟨-, -, ⟨hfound, haccepted⟩ | ⟨-, hown⟩⟩ := hspec signal hsignal
    · exact hfits hcreates signal.pdu hfound haccepted
    · show fits signal.pdu.config call.signalConfig.pduConfig
      rw [hown]
      exact hrefl _
  · obtain ⟨-, rfl⟩ := objectStep_of_not_creates hcreates hstep
    cases he

/-- A signal on a PDU that does not fit is created when the condition fails. -/
theorem exists_not_fits_of_step {fits : PduConfig → PduConfig → Prop}
    (hfits : ¬FoundPduFits fits self h call)
    (hstep : objectStep self call = .ok (self', es)) :
    ∃ e ∈ es, ¬fits e.signal.pdu.config e.requested.pduConfig := by
  simp only [FoundPduFits, not_forall, exists_prop] at hfits
  obtain ⟨hcreates, pdu, hfound, haccepted, hnot⟩ := hfits
  obtain ⟨hevents, -, -⟩ := objectStep_of_creates hcreates hstep
  obtain ⟨signal, hsignal, hon⟩ := SciSide.exists_of_foundPdu hfound haccepted
  refine ⟨⟨call.direction, call.signalConfig, signal⟩, ?_, ?_⟩
  · rw [hevents]
    exact mem_createdFor.mpr ⟨signal, hsignal, rfl⟩
  · show ¬fits signal.pdu.config call.signalConfig.pduConfig
    rw [hon]
    exact hnot

/-- A signal is on its own frame if the PDU it is on was created for that frame. -/
theorem CreatedInv.onOwnFrame_iff {side : SciSide} {e : Created}
    (he : CreatedInv frameOf side e) (hside : SciSide.SideInv frameOf side) :
    OnOwnFrame side.mFramesCache e ↔
      e.signal.pdu.config.frameConfig = e.requested.pduConfig.frameConfig := by
  constructor
  · intro hon
    have hown := hside.frames _ _ hon.frame
    have hpdu := hside.frames _ _ he.pdu.held
    rw [he.pdu.same, he.same, ← hown, ← hpdu]
  · intro hframe
    refine ⟨he.pdu.activated, ?_⟩
    rw [← hframe]
    exact he.pdu.held

/-- A signal is as it is without the tables if the PDU it is on was created from the
configuration of its own. -/
theorem CreatedInv.asUncached_iff {side : SciSide} {e : Created}
    (he : CreatedInv frameOf side e) (hside : SciSide.SideInv frameOf side) :
    AsUncached side.mFramesCache e ↔ e.signal.pdu.config = e.requested.pduConfig := by
  have hpdu := hside.frames _ _ he.pdu.held
  have horigin : e.signal.origin = (e.requested, e.signal.pdu.config, true,
      e.signal.pdu.config.frameConfig) := by
    unfold SciSignal.origin
    rw [he.config, he.pdu.activated, hpdu, ← he.pdu.same]
  constructor
  · intro has
    have heq := has.origin
    rw [origin_uncached, horigin] at heq
    exact (congrArg (fun origin => origin.2.1) (Option.some.inj heq)).symm
  · intro hown
    refine ⟨(he.onOwnFrame_iff hside).mpr (by rw [hown]), ?_⟩
    rw [origin_uncached, horigin, hown]

/-- What a condition on the PDUs that are found is good for, in every run and at its
first failure. -/
theorem eachCreated_of_fits {fits : PduConfig → PduConfig → Prop}
    {Q : UnorderedMap String SciFrame → Created → Prop} {sciFound : Bool}
    (hrefl : ∀ pduConfig, fits pduConfig pduConfig)
    (hQ : ∀ side e, CreatedInv frameOf side e → SciSide.SideInv frameOf side →
      (Q side.mFramesCache e ↔ fits e.signal.pdu.config e.requested.pduConfig))
    (hrun : Run objectStep (fun self h call =>
      SameFrames frameOf self h call ∧ FoundPduFits fits self h call)
      (constructed sciFound) [] self h) :
    EachCreated Q self h ∧
    ∀ call self' es, SameFrames frameOf self h call → ¬FoundPduFits fits self h call →
      objectStep self call = .ok (self', es) → ¬EachCreated Q self' (es ++ h) := by
  have hinv := objectInv_of_run hrun
  constructor
  · have hfits : ∀ e ∈ h, fits e.signal.pdu.config e.requested.pduConfig := by
      refine (hrun.invariant (fun self h => ObjectInv frameOf self h ∧
        ∀ e ∈ h, fits e.signal.pdu.config e.requested.pduConfig)
        ⟨objectInv_constructed sciFound, fun e he => absurd he List.not_mem_nil⟩ ?_).2
      intro self h call self' es hboth hguard hstep
      refine ⟨hboth.1.step hguard.1 hstep, ?_⟩
      intro e he
      rcases List.mem_append.mp he with hnew | hold
      · exact hboth.1.fits_of_step hrefl hguard.1 hguard.2 hstep e hnew
      · exact hboth.2 e hold
    intro e he
    exact (hQ _ e (hinv.signals e he) (hinv.sides e.direction)).mpr (hfits e he)
  · intro call self' es hsame hnot hstep heach
    have hinv' := hinv.step hsame hstep
    obtain ⟨e, he, hfits⟩ := exists_not_fits_of_step hnot hstep
    have hmem := List.mem_append_left h he
    exact hfits ((hQ _ e (hinv'.signals e hmem) (hinv'.sides e.direction)).mp (heach e hmem))

/-- When the tables cannot be noticed. While every PDU that is found is one of the
signal's own frame, every signal is on an activated PDU of its own frame, and while it is
the signal's own PDU, every signal is as it is without the tables. The first call that
does not meet the condition ends this. -/
theorem caching_transparent_iff (sciFound : Bool) (frameOf : String → FrameConfig)
    (self : ObjectManager) (h : List Created) :
    (Run objectStep (fun self h call =>
        SameFrames frameOf self h call ∧ FrameOwnsFoundPdu self h call)
        (constructed sciFound) [] self h →
      EachCreated OnOwnFrame self h ∧
      ∀ call self' es, SameFrames frameOf self h call → ¬FrameOwnsFoundPdu self h call →
        objectStep self call = .ok (self', es) → ¬EachCreated OnOwnFrame self' (es ++ h)) ∧
    (Run objectStep (fun self h call =>
        SameFrames frameOf self h call ∧ SignalOwnsFoundPdu self h call)
        (constructed sciFound) [] self h →
      EachCreated AsUncached self h ∧
      ∀ call self' es, SameFrames frameOf self h call → ¬SignalOwnsFoundPdu self h call →
        objectStep self call = .ok (self', es) →
          ¬EachCreated AsUncached self' (es ++ h)) := by
  constructor
  · intro hrun
    refine eachCreated_of_fits (fun _ => rfl) ?_ hrun
    intro side e he hside
    exact he.onOwnFrame_iff hside
  · intro hrun
    refine eachCreated_of_fits (fun _ => rfl) ?_ hrun
    intro side e he hside
    exact he.asUncached_iff hside

/-- A frame that is known by its name alone. -/
def namedFrame (name : String) : FrameConfig := { (default : FrameConfig) with name := name }

/-- Three signals of one frame, two of them of one PDU. -/
def oneFrameCalls : List SciCall :=
  [("pdu", "a"), ("other pdu", "b"), ("pdu", "c")].map fun names =>
    .subscribe reliableClient
      { (default : SignalConfig) with
        name := names.2
        pduConfig := { (default : PduConfig) with
          name := names.1
          frameConfig := namedFrame "frame" } }

/-- The third signal is created on the PDU of the first, and every signal is as it is
without the tables. -/
theorem cached_pdu_reused :
    ∃ self h, Run objectStep (fun self h call =>
        SameFrames namedFrame self h call ∧ SignalOwnsFoundPdu self h call)
        (constructed true) [] self h ∧
      h.map (fun e => (e.requested.name, e.signal.number, e.signal.pdu.number)) =
        [("c", 5, 1), ("b", 4, 3), ("a", 2, 1)] ∧
      EachCreated AsUncached self h := by
  obtain ⟨self, h, hrun, hreused⟩ : ∃ self h, Run objectStep (fun self h call =>
        SameFrames namedFrame self h call ∧ SignalOwnsFoundPdu self h call)
        (constructed true) [] self h ∧
      h.map (fun e => (e.requested.name, e.signal.number, e.signal.pdu.number)) =
        [("c", 5, 1), ("b", 4, 3), ("a", 2, 1)] :=
    Run.exists_of_exec_of_meets oneFrameCalls (by decide +kernel) (by decide +kernel)
  exact ⟨self, h, hrun, hreused, ((caching_transparent_iff true namedFrame self h).2 hrun).1⟩

/-- Two frames have a PDU of one name. -/
def twoFramesCalls : List SciCall :=
  [("first frame", "a"), ("second frame", "b"), ("first frame", "c")].map fun names =>
    .subscribe reliableClient
      { (default : SignalConfig) with
        name := names.2
        pduConfig := { (default : PduConfig) with
          name := "pdu"
          frameConfig := namedFrame names.1 } }

/-- The second PDU of the name takes the place of the first. A third signal, of the
frame of the first, is then created on it. -/
theorem created_on_other_frame :
    ¬∀ sciFound frameOf self h,
      Run objectStep (SameFrames frameOf) (constructed sciFound) [] self h →
        EachCreated OnOwnFrame self h := by
  intro hall
  obtain ⟨self, h, hrun, e, he, hframe⟩ :=
    Run.exists_of_exec_of_forall (m := objectStep) (P := SameFrames namedFrame)
      (s := constructed true) (h := [])
      (p := fun self h => ∃ e ∈ h,
        (self.side e.direction).mFramesCache.lookup e.requested.pduConfig.frameConfig.name ≠
          some e.signal.pdu.frame)
      twoFramesCalls
      (by
        intro call hcall self h
        obtain ⟨names, -, rfl⟩ := List.mem_map.mp hcall
        rfl)
      (by decide +kernel)
  exact hframe (hall true namedFrame self h hrun e he).frame

end

/-! ## Objects and their configurations -/

/-- The one table has the configuration of what the other has, name by name. -/
def Configures {α β : Type} (config : α → β) (objects : UnorderedMap String α)
    (configs : UnorderedMap String β) : Prop :=
  ∀ name, configs.lookup name = (objects.lookup name).map config

theorem Configures.insert {α β : Type} {config : α → β} {objects : UnorderedMap String α}
    {configs : UnorderedMap String β} (hconfigures : Configures config objects configs)
    (name : String) (object : α) :
    Configures config (objects.insert name object) (configs.insert name (config object)) := by
  intro other
  by_cases hother : other = name
  · rw [hother, AList.lookup_insert, AList.lookup_insert]
    rfl
  · rw [AList.lookup_insert_ne hother, AList.lookup_insert_ne hother]
    exact hconfigures other

/-- The tables of a direction and their representation. -/
structure SideRepresents (side : SciSide) (caches : SciCaches) : Prop where
  frames : Configures SciFrame.config side.mFramesCache caches.mFramesCache
  pdus : Configures SciPdu.config side.mPdusCache caches.mPdusCache

/-- The manager with its objects and its representation. -/
structure Represents (manager : ObjectManager) (configs : SignalManagerSci) : Prop where
  mInitialized : configs.mInitialized = manager.mInitialized
  mOutSignals : Configures SciSignal.config manager.mOutSignals configs.mOutSignals
  mInSignals : Configures SciSignal.config manager.mInSignals configs.mInSignals
  mSignalEventHandlers :
    configs.mSignalEventHandlers = manager.mSignalEventHandlers.map SciSignal.config
  mIncoming : SideRepresents manager.mIncoming configs.mIncoming
  mOutgoing : SideRepresents manager.mOutgoing configs.mOutgoing

section

variable {side : SciSide} {caches : SciCaches} {manager : ObjectManager}
variable {self : SignalManagerSci}

theorem SideRepresents.createPduAndSignal (client : ISignalClient) (direction : Direction)
    (hside : SideRepresents side caches) (frame : SciFrame) (signalConfig : SignalConfig) :
    (caches.createPduAndSignal client direction frame.config signalConfig).1 =
        (side.createPduAndSignal client direction frame signalConfig).1.map SciSignal.config ∧
      SideRepresents (side.createPduAndSignal client direction frame signalConfig).2
        (caches.createPduAndSignal client direction frame.config signalConfig).2 := by
  unfold SciCaches.createPduAndSignal SciSide.createPduAndSignal SciSide.createPdu
  dsimp only
  cases client.createPdu direction frame.config signalConfig.pduConfig with
  | false => exact ⟨rfl, hside⟩
  | true =>
    cases client.activate direction signalConfig.pduConfig with
    | false => exact ⟨rfl, hside.frames, hside.pdus⟩
    | true =>
      have hpdus := hside.pdus.insert signalConfig.pduConfig.name
        { number := side.created, frame := frame, config := signalConfig.pduConfig,
          activated := true }
      simp only [Bool.not_true, Bool.false_eq_true, if_false, SciSide.createSignal]
      cases client.createSignal direction signalConfig.pduConfig signalConfig with
      | false => exact ⟨rfl, hside.frames, hpdus⟩
      | true => exact ⟨rfl, hside.frames, hpdus⟩

theorem SideRepresents.createSciSignal (client : ISignalClient) (direction : Direction)
    (hside : SideRepresents side caches) (signalConfig : SignalConfig) :
    (caches.createSignal client direction signalConfig).1 =
        (side.createSciSignal client direction signalConfig).1.map SciSignal.config ∧
      SideRepresents (side.createSciSignal client direction signalConfig).2
        (caches.createSignal client direction signalConfig).2 := by
  unfold SciCaches.createSignal SciSide.createSciSignal
  dsimp only
  rw [hside.frames]
  cases side.mFramesCache.lookup signalConfig.pduConfig.frameConfig.name with
  | some frame =>
    dsimp only [Option.map_some]
    rw [hside.pdus]
    cases side.mPdusCache.lookup signalConfig.pduConfig.name with
    | none => exact hside.createPduAndSignal client direction frame signalConfig
    | some pdu =>
      dsimp only [Option.map_some]
      unfold SciSide.createSignal
      cases client.createSignal direction pdu.config signalConfig with
      | false => exact ⟨rfl, hside⟩
      | true => exact ⟨rfl, hside.frames, hside.pdus⟩
  | none =>
    dsimp only [Option.map_none]
    cases client.createFrame direction signalConfig.pduConfig.frameConfig with
    | false => exact ⟨rfl, hside⟩
    | true =>
      have hmade : SideRepresents
          { side with
            mFramesCache := side.mFramesCache.insert signalConfig.pduConfig.frameConfig.name
              { number := side.created, config := signalConfig.pduConfig.frameConfig }
            created := side.created + 1 }
          { caches with
            mFramesCache := caches.mFramesCache.insert
              signalConfig.pduConfig.frameConfig.name signalConfig.pduConfig.frameConfig } :=
        ⟨hside.frames.insert _ _, hside.pdus⟩
      exact hmade.createPduAndSignal client direction
        { number := side.created, config := signalConfig.pduConfig.frameConfig } signalConfig

theorem Configures.mem_iff {α β : Type} {config : α → β} {objects : UnorderedMap String α}
    {configs : UnorderedMap String β} (hconfigures : Configures config objects configs)
    {name : String} : name ∈ configs ↔ name ∈ objects := by
  rw [← AList.lookup_isSome, ← AList.lookup_isSome, hconfigures name, Option.isSome_map]

/-- `Subscribe` answers alike on both, and keeps the one a representation of the other. -/
theorem Represents.subscribe (hrep : Represents manager self) (client : ISignalClient)
    (signalConfig : SignalConfig) :
    (self.subscribe client signalConfig).1 = (manager.subscribe client signalConfig).1 ∧
      Represents (manager.subscribe client signalConfig).2.1
        (self.subscribe client signalConfig).2 := by
  obtain ⟨hcreated, hside⟩ :=
    hrep.mIncoming.createSciSignal client .kReceived signalConfig
  have hincoming : Represents
      { manager with
        mIncoming := (manager.mIncoming.createSciSignal client .kReceived signalConfig).2 }
      { self with mIncoming := (self.mIncoming.createSignal client .kReceived signalConfig).2 } :=
    { hrep with mIncoming := hside }
  unfold SignalManagerSci.subscribe ObjectManager.subscribe
  dsimp only
  by_cases hinitialized : (!manager.mInitialized) = true
  · rw [if_pos hinitialized, if_pos (by rw [hrep.mInitialized]; exact hinitialized)]
    exact ⟨rfl, hrep⟩
  · rw [if_neg hinitialized, if_neg (by rw [hrep.mInitialized]; exact hinitialized)]
    by_cases hknown : signalConfig.name ∈ manager.mInSignals
    · rw [if_pos hknown, if_pos (hrep.mInSignals.mem_iff.mpr hknown)]
      exact ⟨rfl, hrep⟩
    · rw [if_neg hknown, if_neg fun hmem => hknown (hrep.mInSignals.mem_iff.mp hmem), hcreated]
      cases (manager.mIncoming.createSciSignal client .kReceived signalConfig).1 with
      | none => exact ⟨rfl, hincoming⟩
      | some signal =>
        dsimp only [Option.map_some]
        cases client.registerEventHandler signal.config with
        | false => exact ⟨rfl, hincoming⟩
        | true =>
          refine ⟨rfl, { hincoming with mSignalEventHandlers := ?_ }⟩
          show self.mSignalEventHandlers ++ [signal.config] =
            (manager.mSignalEventHandlers ++ [signal]).map SciSignal.config
          rw [hrep.mSignalEventHandlers, List.map_append]
          rfl

theorem Represents.outgoingSignal (hrep : Represents manager self) (client : ISignalClient)
    (signalConfig : SignalConfig) :
    (self.outgoingSignal client signalConfig).1 =
        (manager.outgoingSignal client signalConfig).1.map SciSignal.config ∧
      Represents (manager.outgoingSignal client signalConfig).2.1
        (self.outgoingSignal client signalConfig).2 := by
  obtain ⟨hcreated, hside⟩ :=
    hrep.mOutgoing.createSciSignal client .kTransmitted signalConfig
  have houtgoing : Represents
      { manager with
        mOutgoing := (manager.mOutgoing.createSciSignal client .kTransmitted signalConfig).2 }
      { self with
        mOutgoing := (self.mOutgoing.createSignal client .kTransmitted signalConfig).2 } :=
    { hrep with mOutgoing := hside }
  unfold SignalManagerSci.outgoingSignal ObjectManager.outgoingSignal
  dsimp only
  rw [hrep.mOutSignals, hcreated]
  cases manager.mOutSignals.lookup signalConfig.name with
  | some signal => exact ⟨rfl, hrep⟩
  | none =>
    dsimp only [Option.map_none]
    cases (manager.mOutgoing.createSciSignal client .kTransmitted signalConfig).1 with
    | none => exact ⟨rfl, houtgoing⟩
    | some signal =>
      exact ⟨rfl, { houtgoing with mOutSignals := hrep.mOutSignals.insert _ signal }⟩

/-- `Publish` does so too. -/
theorem Represents.publish (hrep : Represents manager self) (client : ISignalClient)
    (signalConfig : SignalConfig) (value : ByteVector) :
    (self.publish client signalConfig value).1 =
        (manager.publish client signalConfig value).1 ∧
      Represents (manager.publish client signalConfig value).2.1
        (self.publish client signalConfig value).2.1 := by
  obtain ⟨hsignal, hout⟩ := hrep.outgoingSignal client signalConfig
  unfold SignalManagerSci.publish ObjectManager.publish
  dsimp only
  by_cases hinitialized : (!manager.mInitialized) = true
  · rw [if_pos hinitialized, if_pos (by rw [hrep.mInitialized]; exact hinitialized)]
    exact ⟨rfl, hrep⟩
  · rw [if_neg hinitialized, if_neg (by rw [hrep.mInitialized]; exact hinitialized), hsignal]
    cases (manager.outgoingSignal client signalConfig).1 with
    | none => exact ⟨rfl, hout⟩
    | some signal =>
      dsimp only [Option.map_some]
      cases client.setValue signal.config (SignalManagerSci.sciValue value) with
      | false => exact ⟨rfl, hout⟩
      | true => exact ⟨rfl, hout⟩

/-- Every run of the manager with its objects is a run of the manager without them. -/
theorem represents_of_run {guard : Guard ObjectManager SignalManagerSci.SciCall Created}
    {sciFound : Bool} {h : List Created}
    (hrun : Run objectStep guard (constructed sciFound) [] manager h) :
    ∃ self g, Run SignalManagerSci.sciStep Anything
      (SignalManagerSci.constructed sciFound) [] self g ∧ Represents manager self := by
  induction hrun with
  | refl =>
    refine ⟨_, [], .refl, ?_⟩
    exact ⟨rfl, fun _ => rfl, fun _ => rfl, rfl, ⟨fun _ => rfl, fun _ => rfl⟩,
      ⟨fun _ => rfl, fun _ => rfl⟩⟩
  | @step manager h call manager' es before meets steps ih =>
    obtain ⟨self, g, hrun, hrep⟩ := ih
    cases call with
    | subscribe client signalConfig =>
      obtain ⟨-, hkept⟩ := hrep.subscribe client signalConfig
      rw [show (manager.subscribe client signalConfig).2 = (manager', es) from
        Except.ok.inj steps] at hkept
      exact ⟨_, _, .step (i := .subscribe client signalConfig) hrun trivial rfl, hkept⟩
    | publish client signalConfig value =>
      obtain ⟨-, hkept⟩ := hrep.publish client signalConfig value
      rw [show (manager.publish client signalConfig value).2 = (manager', es) from
        Except.ok.inj steps] at hkept
      exact ⟨_, _, .step (i := .publish client signalConfig value) hrun trivial rfl, hkept⟩

end

end Sok.Fvm
