import SokFvm.Fvm.Reception

/-!
# `ara::com::secoc::FVM`

The adapter between the interface of the platform and the freshness value manager.  The
container of the platform is a buffer of a fixed capacity with a length in bits; that of
the manager is a vector of bytes.

The adapter copies with `std::copy_n`, and takes the number of bits for the number of
elements.  On the way in the destination is a vector for which memory is reserved and
which has no elements.  `copyN` answers with a fault when it would leave its source or
its destination, and `copyN_eq_ok_iff` is its whole behaviour.

`adapter_faithful_iff` says when what goes in and what comes out is right: it is when
nothing is copied.
-/

namespace Sok.Fvm

open Sok.Common AFreshnessValueManagerImpl

/-! ## The containers -/

/-- `ara::com::secoc::FVContainer`, of which the adapter uses that its buffer has a fixed
capacity and that its length is a number of bits, of an unsigned type. -/
structure AraFVContainer (capacity width : Nat) where
  length : BitVec width
  value : ByteVector
  length_value : value.length = capacity

/-- `ara::com::secoc::SecOcFvmErrc`. -/
inductive SecOcFvmErrc
  | kFVNotAvailable | kFVInitializeFailed
  deriving DecidableEq, Repr

variable {capacity width : Nat}

/-- The bytes that a container stands for. -/
def AraFVContainer.bytes (container : AraFVContainer capacity width) : ByteVector :=
  container.value.take ((container.length.toNat + 7) / 8)

/-- How a `std::copy_n` leaves its ranges. -/
inductive CopyFault
  | readPastSource
  | writePastDestination
  deriving DecidableEq, Repr

/-- `std::copy_n(first, count, result)`, element by element. -/
def copyN : Nat → ByteVector → ByteVector → Except CopyFault ByteVector
  | 0, _, result => .ok result
  | _ + 1, [], _ => .error .readPastSource
  | _ + 1, _ :: _, [] => .error .writePastDestination
  | count + 1, x :: first, _ :: result => (copyN count first result).map (x :: ·)

/-- The copy is defined exactly when both ranges have that many elements. -/
theorem copyN_eq_ok_iff {count : Nat} {first result copied : ByteVector} :
    copyN count first result = .ok copied ↔
      count ≤ first.length ∧ count ≤ result.length ∧
        copied = first.take count ++ result.drop count := by
  induction count generalizing first result copied with
  | zero =>
    simp only [copyN, Except.ok.injEq, Nat.zero_le, List.take_zero, List.drop_zero,
      List.nil_append, true_and]
    exact eq_comm
  | succ count ih =>
    cases first with
    | nil => simp [copyN]
    | cons x first =>
      cases result with
      | nil => simp [copyN]
      | cons y result =>
        rw [copyN, List.length_cons, List.length_cons, List.take_succ_cons, List.drop_succ_cons,
          List.cons_append, Nat.add_le_add_iff_right, Nat.add_le_add_iff_right]
        cases hrest : copyN count first result with
        | error fault =>
          refine iff_of_false nofun ?_
          rintro ⟨hfirst, hresult, -⟩
          rw [ih.mpr ⟨hfirst, hresult, rfl⟩] at hrest
          cases hrest
        | ok rest =>
          obtain ⟨hfirst, hresult, hrest⟩ := ih.mp hrest
          rw [← hrest]
          show Except.ok (x :: rest) = Except.ok copied ↔ _
          rw [Except.ok.injEq]
          exact ⟨fun heq => ⟨hfirst, hresult, heq.symm⟩, fun hall => hall.2.2.symm⟩

/-- A copy does not change the length of its destination. -/
theorem length_copyN {count : Nat} {first result copied : ByteVector}
    (hcopy : copyN count first result = .ok copied) : copied.length = result.length := by
  obtain ⟨hfirst, hresult, rfl⟩ := copyN_eq_ok_iff.mp hcopy
  rw [List.length_append, List.length_take, List.length_drop]
  omega

/-! ## The adapter -/

/-- The two functions of the manager that the adapter calls. -/
structure IFreshnessValueManager where
  getRxFreshness : SokFreshnessValueId → FVContainer → UInt16 → FvmResult FVContainer
  getTxFreshness : SokFreshnessValueId → FvmResult FVContainer

/-- The manager in a state. -/
def IFreshnessValueManager.ofManager (s : AFreshnessValueManagerImpl) :
    IFreshnessValueManager where
  getRxFreshness id truncated attempts :=
    (s.getRxFreshness id truncated attempts).1.mapError FreshnessFailure.code
  getTxFreshness id := (s.getTxFreshness id).1.mapError FreshnessFailure.code

namespace FVM

/-- `std::vector<uint8_t>::max_size()`. -/
def maxSize : Nat := 2 ^ 63 - 1

/-- `CHAR_BIT`. -/
def charBit : Nat := 8

/-- The part of `GetRxFreshness` that fills `fvCont`. `reserve` gives it no elements, and
throws for more than the largest size. -/
def fillFvCont (container : AraFVContainer capacity width) :
    Except CopyFault (Option FVContainer) :=
  if maxSize < container.length.toNat then .ok none
  else (copyN container.length.toNat container.value []).map some

/-- The part of both functions that fills `retFv`, from what it holds when it is declared. -/
def fillRetFv (retFv : AraFVContainer capacity width) (fv : FVContainer) :
    Except CopyFault (AraFVContainer capacity width) :=
  let length : BitVec width := BitVec.ofNat width (fv.length * charBit)
  match hcopy : copyN length.toNat fv retFv.value with
  | .error fault => .error fault
  | .ok value => .ok
      { length := length
        value := value
        length_value := (length_copyN hcopy).trans retFv.length_value }

/-- The part of both functions that turns `result` into what they return. -/
def returnResult (retFv : AraFVContainer capacity width) :
    FvmResult FVContainer →
      Except CopyFault (Except SecOcFvmErrc (AraFVContainer capacity width))
  | .error _ => .ok (.error .kFVNotAvailable)
  | .ok fv => (fillRetFv retFv fv).map .ok

variable (fvm : IFreshnessValueManager) (retFv : AraFVContainer capacity width)

/-- `GetRxFreshness`. -/
def getRxFreshness (id : UInt16) (truncated : AraFVContainer capacity width)
    (attempts : UInt16) :
    Except CopyFault (Except SecOcFvmErrc (AraFVContainer capacity width)) :=
  match fillFvCont truncated with
  | .error fault => .error fault
  | .ok none => .ok (.error .kFVNotAvailable)
  | .ok (some fvCont) => returnResult retFv (fvm.getRxFreshness id.toUInt32 fvCont attempts)

/-- `GetTxFreshness`. -/
def getTxFreshness (id : UInt16) :
    Except CopyFault (Except SecOcFvmErrc (AraFVContainer capacity width)) :=
  returnResult retFv (fvm.getTxFreshness id.toUInt32)

end FVM

/-! ## What is copied -/

/-- What comes out stands for what the manager returned. -/
def Conveys : Except SecOcFvmErrc (AraFVContainer capacity width) → FvmResult FVContainer → Prop
  | .ok container, .ok fv => container.bytes = fv
  | .error code, .error _ => code = .kFVNotAvailable
  | _, _ => False

/-- The vector that is handed on is the right one only if the length is zero. -/
theorem fillFvCont_eq_bytes_iff {container : AraFVContainer capacity width} :
    FVM.fillFvCont container = .ok (some container.bytes) ↔ container.length = 0 := by
  unfold FVM.fillFvCont
  constructor
  · intro hfill
    split at hfill
    · cases hfill
    · cases hcopy : copyN container.length.toNat container.value [] with
      | error fault =>
        rw [hcopy] at hfill
        cases hfill
      | ok copied =>
        obtain ⟨-, hdestination, -⟩ := copyN_eq_ok_iff.mp hcopy
        apply BitVec.eq_of_toNat_eq
        show container.length.toNat = (BitVec.ofNat width 0).toNat
        rw [BitVec.toNat_zero]
        exact Nat.le_zero.mp hdestination
  · intro hlength
    have hzero : container.length.toNat = 0 := by
      rw [hlength]
      exact BitVec.toNat_zero
    unfold AraFVContainer.bytes
    rw [hzero, if_neg (by decide)]
    rfl

/-- Eight, in any number of bits, is not one. -/
theorem eight_mod_two_pow_ne_one (width : Nat) : 8 % 2 ^ width ≠ 1 := by
  by_cases hsmall : width ≤ 3
  · -- a power up to eight divides eight
    have hdvd : 2 ^ width ∣ 2 ^ 3 := Nat.pow_dvd_pow 2 hsmall
    rw [show (8 : Nat) = 2 ^ 3 from rfl, Nat.mod_eq_zero_of_dvd hdvd]
    decide
  · have hlarge : 2 ^ 4 ≤ 2 ^ width := Nat.pow_le_pow_right (by decide) (by omega)
    rw [Nat.mod_eq_of_lt (by omega)]
    decide

/-- The container that is returned is the right one only if there is nothing to return. -/
theorem fillRetFv_conveys_iff {retFv : AraFVContainer capacity width} {fv : FVContainer} :
    (∃ container, FVM.fillRetFv retFv fv = .ok container ∧ container.bytes = fv) ↔ fv = [] := by
  unfold FVM.fillRetFv
  dsimp only
  constructor
  · rintro ⟨container, hfill, hbytes⟩
    split at hfill
    · cases hfill
    · rename_i value hcopy
      cases hfill
      obtain ⟨hsource, -, -⟩ := copyN_eq_ok_iff.mp hcopy
      have hlength : (value.take (((BitVec.ofNat width (fv.length * 8)).toNat + 7) / 8)).length
          = fv.length := congrArg List.length hbytes
      change (BitVec.ofNat width (fv.length * 8)).toNat ≤ fv.length at hsource
      rw [List.length_take] at hlength
      rw [BitVec.toNat_ofNat] at hsource hlength
      -- `8 * n` bits need `n` bytes, and at most `n` elements were copied
      have hshort : fv.length ≤ 1 := by omega
      have hone : fv.length ≠ 1 := by
        intro hone
        rw [hone, Nat.one_mul] at hsource hlength
        have hnever := eight_mod_two_pow_ne_one width
        omega
      exact List.eq_nil_of_length_eq_zero (by omega)
  · intro hnil
    subst hnil
    have hzero : (BitVec.ofNat width (([] : FVContainer).length * FVM.charBit)).toNat = 0 := by
      simp
    split
    · rename_i fault hcopy
      rw [hzero] at hcopy
      cases hcopy
    · rename_i value hcopy
      refine ⟨_, rfl, ?_⟩
      show value.take (((BitVec.ofNat width (([] : FVContainer).length * FVM.charBit)).toNat + 7)
        / 8) = []
      rw [hzero]
      rfl

/-- What the manager answered is conveyed only if it is a failure or has no bytes. -/
theorem returnResult_conveys_iff {retFv : AraFVContainer capacity width}
    {result : FvmResult FVContainer} :
    (∃ returned, FVM.returnResult retFv result = .ok returned ∧ Conveys returned result) ↔
      ∀ fv, result = .ok fv → fv = [] := by
  cases result with
  | error code => exact iff_of_true ⟨.error .kFVNotAvailable, rfl, rfl⟩ nofun
  | ok fv =>
    show (∃ returned, (FVM.fillRetFv retFv fv).map .ok = .ok returned ∧
      Conveys returned (.ok fv)) ↔ _
    have hnil : (∀ other, (.ok fv : FvmResult FVContainer) = .ok other → other = []) ↔ fv = [] :=
      ⟨fun hall => hall fv rfl, fun hnil other hother => by cases hother; exact hnil⟩
    rw [hnil, ← @fillRetFv_conveys_iff _ _ retFv]
    cases FVM.fillRetFv retFv fv with
    | error fault =>
      refine iff_of_false ?_ ?_
      · intro hconveys
        obtain ⟨returned, hreturned, -⟩ := hconveys
        cases hreturned
      · intro hfill
        obtain ⟨container, hfill, -⟩ := hfill
        cases hfill
    | ok container =>
      constructor
      · intro hconveys
        obtain ⟨returned, hreturned, hconveys⟩ := hconveys
        cases hreturned
        exact ⟨container, rfl, hconveys⟩
      · intro hfill
        obtain ⟨other, hfill, hbytes⟩ := hfill
        cases hfill
        exact ⟨.ok container, rfl, hbytes⟩

/-! ## A faithful call -/

/-- A call of `GetRxFreshness` hands on the bytes that the container stands for, makes no copy
outside its ranges, and returns what the manager returned. -/
def FaithfulRx (fvm : IFreshnessValueManager) (retFv : AraFVContainer capacity width)
    (id : UInt16) (truncated : AraFVContainer capacity width) (attempts : UInt16) : Prop :=
  FVM.fillFvCont truncated = .ok (some truncated.bytes) ∧
    ∃ returned, FVM.getRxFreshness fvm retFv id truncated attempts = .ok returned ∧
      Conveys returned (fvm.getRxFreshness id.toUInt32 truncated.bytes attempts)

/-- A call of `GetTxFreshness` makes no copy outside its ranges, and returns what the manager
returned. -/
def FaithfulTx (fvm : IFreshnessValueManager) (retFv : AraFVContainer capacity width)
    (id : UInt16) : Prop :=
  ∃ returned, FVM.getTxFreshness fvm retFv id = .ok returned ∧
    Conveys returned (fvm.getTxFreshness id.toUInt32)

/-- **When the adapter is right**: on the way in, when the container is empty; on the way out,
when the manager fails or answers with no bytes. -/
theorem adapter_faithful_iff (fvm : IFreshnessValueManager)
    (retFv : AraFVContainer capacity width) (id : UInt16)
    (truncated : AraFVContainer capacity width) (attempts : UInt16) :
    (FaithfulRx fvm retFv id truncated attempts ↔
      truncated.length = 0 ∧
        ∀ fv, fvm.getRxFreshness id.toUInt32 [] attempts = .ok fv → fv = []) ∧
    (FaithfulTx fvm retFv id ↔ ∀ fv, fvm.getTxFreshness id.toUInt32 = .ok fv → fv = []) := by
  refine ⟨?_, returnResult_conveys_iff⟩
  unfold FaithfulRx
  rw [fillFvCont_eq_bytes_iff]
  refine and_congr_right fun hlength => ?_
  have hfill := fillFvCont_eq_bytes_iff.mpr hlength
  have hbytes : truncated.bytes = [] := by
    unfold AraFVContainer.bytes
    rw [hlength]
    show truncated.value.take (((BitVec.ofNat width 0).toNat + 7) / 8) = []
    rw [BitVec.toNat_zero]
    rfl
  unfold FVM.getRxFreshness
  rw [hfill, hbytes]
  exact returnResult_conveys_iff

/-- A container with room for eight bytes. -/
def eightByteContainer : AraFVContainer 8 32 where
  length := 0
  value := List.replicate 8 0
  length_value := rfl

/-- A manager that holds one freshness value answers with eight bytes, and the adapter reads
sixty-four. -/
theorem adapter_reads_past_the_value :
    ¬ ∀ (capacity width : Nat) (fvm : IFreshnessValueManager)
      (retFv : AraFVContainer capacity width) (id : UInt16)
      (truncated : AraFVContainer capacity width) (attempts : UInt16),
      FaithfulRx fvm retFv id truncated attempts ∧ FaithfulTx fvm retFv id := by
  intro hfaithful
  obtain ⟨-, returned, hreturned, -⟩ := hfaithful 8 32
    (.ofManager (initialisedManager oneFreshnessValueId)) eightByteContainer 0
    eightByteContainer 0
  have hfault : FVM.getTxFreshness (.ofManager (initialisedManager oneFreshnessValueId))
      eightByteContainer 0 = .error .readPastSource := by rfl
  rw [hfault] at hreturned
  cases hreturned

end Sok.Fvm
