import SokFvm.Library.Odometer
import SokFvm.Fvm.ConfigAccessor

/-!
# `FvmRuntimeAttributesManager`

The table of runtime attributes, one entry for each identifier that the
configuration accessor lists.  Every operation is either a read of one entry or
an assignment into one entry, and an identifier without an entry is read as
unused and written without effect.

There are two groups of facts.

* What `init` leaves behind: `entry_init` gives the entry of every identifier.
* The session counter.  The increment loop runs from the last byte to the first
  and stops at the first byte that was not zero before its increment.
  `incrementByteArray_eq_turn` says that this is an odometer whose wheels carry
  when they leave `0`, so everything about the order of the counters comes from
  `Odometer`.

Each operation has an equation for the entry it works on and one for the
entries it leaves alone.
-/

namespace Sok.Fvm

open Sok.Common

/-- `IFvmRuntimeAttributesManager::EventType`. -/
inductive EventType
  | kSignReq | kSignSuccess | kVerifyReq | kVerifySuccess | kVwSokFreshnessCrResponse
  | kFirstActivity | kEndEnum
  deriving DecidableEq, Repr

structure FvmRuntimeAttributesManager where
  mAttributesMap : UnorderedMap SokFreshnessValueId SokFmRuntimeAttributes

/-! ## The session counter -/

/-- The loop of `incrementByteArray` over the bytes that are left, last byte
first: `if (((*it)++) != 0) break`. -/
def incrementFrom : List UInt8 → List UInt8
  | [] => []
  | byte :: rest => (byte + 1) :: if byte ≠ 0 then rest else incrementFrom rest

/-- `incrementByteArray`. -/
def incrementByteArray (vec : ByteVector) : ByteVector :=
  (incrementFrom vec.reverse).reverse

private theorem incrementFrom_eq (bytes : List UInt8) :
    incrementFrom bytes = Odometer.turnReversed 0 bytes := by
  induction bytes with
  | nil => rfl
  | cons byte rest ih =>
    rw [incrementFrom, Odometer.turnReversed, ih]
    by_cases hbyte : byte = 0
    · rw [if_neg (not_not_intro hbyte), if_pos hbyte]
    · rw [if_pos hbyte, if_neg hbyte]

/-- The increment is an odometer that carries when a byte leaves `0`. -/
theorem incrementByteArray_eq_turn (vec : ByteVector) :
    incrementByteArray vec = Odometer.turn 0 vec := by
  rw [incrementByteArray, incrementFrom_eq]
  rfl

@[simp] theorem length_incrementByteArray (vec : ByteVector) :
    (incrementByteArray vec).length = vec.length := by
  rw [incrementByteArray_eq_turn, Odometer.length_turn]

namespace FvmRuntimeAttributesManager

variable (accessor : FreshnessValueManagerConfigAccessor) (mgr : FvmRuntimeAttributesManager)

/-! ## The operations -/

/-- The entry that `Init` writes for one identifier. -/
def freshAttributes (id : SokFreshnessValueId) : SokFmRuntimeAttributes :=
  let sessionCounterLength :=
    match accessor.getSokFvConfigInstanceByFvId id with
    | .ok entry => entry.sessionCounterLength
    | .error _ => 0
  { valueIsActive := false
    sessionCounterLength := sessionCounterLength
    firstUsed := 0
    latestVerifiedTime := 0
    lastRequestedForVerification := 0
    latestSignedTime := 0
    lastRequestedForSigning := 0
    sessionCounterLastUsed := List.replicate sessionCounterLength.toNat 0 }

/-- `Init`. -/
def init : FvmRuntimeAttributesManager :=
  { mAttributesMap := accessor.getAllFreshnessValueIds.foldl
      (fun map id => map.insert id (freshAttributes accessor id)) mgr.mAttributesMap }

/-- `Reset`. -/
def reset : FvmRuntimeAttributesManager :=
  { mgr with mAttributesMap := ∅ }

/-- `IsActive`. -/
def isActive (fvId : SokFreshnessValueId) : Bool :=
  match mgr.mAttributesMap.lookup fvId with
  | some attributes => attributes.valueIsActive
  | none => false

/-- The assignment that `SetActive` makes into an entry. -/
def activate (activationTime : UInt64) (attributes : SokFmRuntimeAttributes) :
    SokFmRuntimeAttributes :=
  if attributes.valueIsActive = false then
    { attributes with valueIsActive := true, firstUsed := activationTime }
  else attributes

/-- `SetActive`. -/
def setActive (fvId : SokFreshnessValueId) (activationTime : UInt64) :
    FvmRuntimeAttributesManager :=
  { mgr with mAttributesMap := mgr.mAttributesMap.modify fvId (activate activationTime) }

/-- The assignment that `IncSessionCounter` makes into an entry. -/
def countUp (attributes : SokFmRuntimeAttributes) : SokFmRuntimeAttributes :=
  if attributes.sessionCounterLength ≠ 0 then
    { attributes with
      sessionCounterLastUsed := incrementByteArray attributes.sessionCounterLastUsed }
  else attributes

/-- The counter that is returned of an entry: nothing when it has no counter. -/
def counterOf (attributes : SokFmRuntimeAttributes) : ByteVector :=
  if attributes.sessionCounterLength ≠ 0 then attributes.sessionCounterLastUsed else []

/-- `IncSessionCounter`: the incremented counter, or an empty vector. -/
def incSessionCounter (fvId : SokFreshnessValueId) : ByteVector × FvmRuntimeAttributesManager :=
  match mgr.mAttributesMap.lookup fvId with
  | none => ([], mgr)
  | some attributes =>
    (counterOf (countUp attributes),
      { mgr with mAttributesMap := mgr.mAttributesMap.modify fvId countUp })

/-- `GetSessionCounter`. -/
def getSessionCounter (fvId : SokFreshnessValueId) : ByteVector :=
  match mgr.mAttributesMap.lookup fvId with
  | none => []
  | some attributes => counterOf attributes

/-- `GetNextSessionCounter`. -/
def getNextSessionCounter (fvId : SokFreshnessValueId) : ByteVector :=
  match mgr.mAttributesMap.lookup fvId with
  | none => []
  | some attributes => counterOf (countUp attributes)

/-- The assignment that `UpdateEvent` makes into an entry. -/
def setEvent (type : EventType) (value : UInt64) (attributes : SokFmRuntimeAttributes) :
    SokFmRuntimeAttributes :=
  match type with
  | .kSignReq => { attributes with lastRequestedForSigning := value }
  | .kSignSuccess => { attributes with latestSignedTime := value }
  | .kVerifyReq => { attributes with lastRequestedForVerification := value }
  | .kVerifySuccess => { attributes with latestVerifiedTime := value }
  | .kFirstActivity => { attributes with firstUsed := value }
  | _ => attributes

/-- `UpdateEvent`. -/
def updateEvent (type : EventType) (fvId : SokFreshnessValueId) (value : UInt64) :
    FvmRuntimeAttributesManager :=
  { mgr with mAttributesMap := mgr.mAttributesMap.modify fvId (setEvent type value) }

/-- `GetEvent`. -/
def getEvent (type : EventType) (fvId : SokFreshnessValueId) : UInt64 :=
  match mgr.mAttributesMap.lookup fvId with
  | none => 0
  | some attributes =>
    match type with
    | .kSignReq => attributes.lastRequestedForSigning
    | .kSignSuccess => attributes.latestSignedTime
    | .kVerifyReq => attributes.lastRequestedForVerification
    | .kVerifySuccess => attributes.latestVerifiedTime
    | .kFirstActivity => attributes.firstUsed
    | _ => 0

/-! ## The entry of an identifier -/

/-- The entry of an identifier. -/
def entry (fvId : SokFreshnessValueId) : Option SokFmRuntimeAttributes :=
  mgr.mAttributesMap.lookup fvId

variable {mgr} {fvId fvId' : SokFreshnessValueId}

theorem isActive_eq : mgr.isActive fvId = ((mgr.entry fvId).map (·.valueIsActive)).getD false := by
  unfold isActive entry
  split <;> simp_all

@[simp] theorem entry_setActive_self (time : UInt64) :
    (mgr.setActive fvId time).entry fvId = (mgr.entry fvId).map (activate time) :=
  UnorderedMap.lookup_modify_self _ _ _

theorem entry_setActive_ne (hne : fvId' ≠ fvId) (time : UInt64) :
    (mgr.setActive fvId time).entry fvId' = mgr.entry fvId' :=
  UnorderedMap.lookup_modify_ne hne _ _

@[simp] theorem entry_updateEvent_self (type : EventType) (value : UInt64) :
    (mgr.updateEvent type fvId value).entry fvId = (mgr.entry fvId).map (setEvent type value) :=
  UnorderedMap.lookup_modify_self _ _ _

theorem entry_updateEvent_ne (hne : fvId' ≠ fvId) (type : EventType) (value : UInt64) :
    (mgr.updateEvent type fvId value).entry fvId' = mgr.entry fvId' :=
  UnorderedMap.lookup_modify_ne hne _ _

@[simp] theorem entry_incSessionCounter_self :
    (mgr.incSessionCounter fvId).2.entry fvId = (mgr.entry fvId).map countUp := by
  unfold incSessionCounter entry
  split
  · rename_i hnone
    rw [hnone]
    rfl
  · exact UnorderedMap.lookup_modify_self _ _ _

/-- `IncSessionCounter` returns what `GetNextSessionCounter` announced. -/
theorem incSessionCounter_fst :
    (mgr.incSessionCounter fvId).1 = mgr.getNextSessionCounter fvId := by
  unfold incSessionCounter getNextSessionCounter
  split
  · rfl
  · rfl

theorem entry_incSessionCounter_ne (hne : fvId' ≠ fvId) :
    (mgr.incSessionCounter fvId).2.entry fvId' = mgr.entry fvId' := by
  unfold incSessionCounter entry
  split
  · rfl
  · exact UnorderedMap.lookup_modify_ne hne _ _

variable (mgr)

/-! ## What `init` leaves behind -/

private theorem lookup_foldl_insert (entryOf : SokFreshnessValueId → SokFmRuntimeAttributes)
    (ids : List SokFreshnessValueId)
    (map : UnorderedMap SokFreshnessValueId SokFmRuntimeAttributes) (id : SokFreshnessValueId) :
    (ids.foldl (fun map id => map.insert id (entryOf id)) map).lookup id =
      if id ∈ ids then some (entryOf id) else map.lookup id := by
  induction ids generalizing map with
  | nil => rw [if_neg List.not_mem_nil, List.foldl_nil]
  | cons first ids ih =>
    rw [List.foldl_cons, ih]
    by_cases hids : id ∈ ids
    · rw [if_pos hids, if_pos (List.mem_cons_of_mem first hids)]
    · rw [if_neg hids]
      by_cases hfirst : id = first
      · rw [hfirst, AList.lookup_insert, if_pos List.mem_cons_self]
      · rw [AList.lookup_insert_ne hfirst, if_neg]
        rw [List.mem_cons]
        rintro (heq | hmem)
        · exact hfirst heq
        · exact hids hmem

/-- After `Init` on an empty table exactly the listed identifiers have an entry,
and it is the fresh one. -/
theorem entry_init (id : SokFreshnessValueId) :
    (init accessor ⟨∅⟩).entry id =
      if id ∈ accessor.getAllFreshnessValueIds then some (freshAttributes accessor id)
      else none := by
  rw [entry, init, lookup_foldl_insert, AList.lookup_empty]

end FvmRuntimeAttributesManager

end Sok.Fvm
