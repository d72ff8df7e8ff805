import Mathlib.Data.List.AList
import SokFvm.Common.SokUtilities

/-!
# The C++ standard library, as far as the model needs it

Three kinds of thing stand here.

* `Fault` names the preconditions of the standard library that the source can
  break.  A function whose behaviour is undefined on an input answers with a
  fault there, and nothing is claimed about what happens afterwards.
* `UnorderedMap` is `std::unordered_map`.  It is Mathlib's association list,
  which carries the proof that no key occurs twice.  The order of its entries is
  not part of the C++ type; no function of the model depends on it.
* `stdEqual` and `stdAbs` are `std::equal` with three iterators and `std::abs`
  on `int64_t`, with their faults.
-/

namespace Sok

open Sok.Common

/-- Undefined behaviour of a standard library call. -/
inductive Fault
  /-- An iterator range whose end lies before its begin. -/
  | invalidRange
  /-- An iterator that is read past the end of its vector. -/
  | readPastEnd
  /-- The end of a container that is dereferenced. -/
  | derefEnd
  /-- `std::abs` of the least value of its type. -/
  | absOverflow
  deriving DecidableEq, Repr

/-- `std::unordered_map`. -/
abbrev UnorderedMap (κ α : Type) := AList fun _ : κ => α

namespace UnorderedMap

variable {κ α : Type} [DecidableEq κ]

/-- `emplace`: an entry that is already there stays. -/
def emplace (key : κ) (value : α) (map : UnorderedMap κ α) : UnorderedMap κ α :=
  if key ∈ map then map else map.insert key value

/-- `operator[]`, read. An absent entry reads as the default value. -/
def getD (key : κ) (default : α) (map : UnorderedMap κ α) : α :=
  (map.lookup key).getD default

/-- Assignment through the iterator that `find` gave. Nothing happens when it is
the end. -/
def modify (key : κ) (f : α → α) (map : UnorderedMap κ α) : UnorderedMap κ α :=
  match map.lookup key with
  | none => map
  | some value => map.insert key (f value)

/-- `size()`. -/
def size (map : UnorderedMap κ α) : Nat := map.entries.length

/-- `begin()->first`. -/
def beginFirst (map : UnorderedMap κ α) : Except Fault κ :=
  match map.entries with
  | [] => .error .derefEnd
  | entry :: _ => .ok entry.1

/-- An order in which the elements of a container are visited. That of a hash map
is not specified. -/
structure VisitOrder (β : Type) where
  arrange : List β → List β
  perm : ∀ elements, (arrange elements).Perm elements

/-- The order of the list itself. -/
def VisitOrder.asListed {β : Type} : VisitOrder β :=
  { arrange := fun elements => elements, perm := fun _ => .refl _ }

theorem lookup_modify_self (key : κ) (f : α → α) (map : UnorderedMap κ α) :
    (modify key f map).lookup key = (map.lookup key).map f := by
  rw [modify]
  split
  · rename_i hnone
    rw [hnone]
    rfl
  · rename_i value hsome
    rw [AList.lookup_insert, hsome]
    rfl

theorem lookup_modify_ne {key key' : κ} (hne : key' ≠ key) (f : α → α)
    (map : UnorderedMap κ α) : (modify key f map).lookup key' = map.lookup key' := by
  rw [modify]
  split
  · rfl
  · exact AList.lookup_insert_ne hne

end UnorderedMap

/-- `std::equal(first1, last1, first2)`: compare the vector `xs` with as many elements
from the begin of `ys`.  The call has no end for its second range, which is as long as
`xs`: when `ys` is shorter it reads past the end, whatever the elements are. -/
def stdEqual (xs ys : ByteVector) : Except Fault Bool :=
  if xs.length ≤ ys.length then .ok (xs.isPrefixOf ys) else .error .readPastEnd

/-- The comparison succeeds exactly on the prefixes of the second vector. -/
theorem stdEqual_eq_ok_true_iff {xs ys : ByteVector} :
    stdEqual xs ys = .ok true ↔ xs <+: ys := by
  unfold stdEqual
  split
  · rw [Except.ok.injEq, List.isPrefixOf_iff_prefix]
  · rename_i hlonger
    exact iff_of_false nofun fun hprefix => hlonger hprefix.length_le

/-- The comparison reads past the end exactly when the first vector is longer. -/
theorem stdEqual_eq_error_iff {xs ys : ByteVector} {fault : Fault} :
    stdEqual xs ys = .error fault ↔ fault = .readPastEnd ∧ ys.length < xs.length := by
  unfold stdEqual
  split
  · rename_i hle
    exact iff_of_false nofun fun hlonger => Nat.not_lt_of_le hle hlonger.2
  · rename_i hlonger
    rw [Except.error.injEq, and_iff_left (Nat.lt_of_not_le hlonger)]
    exact eq_comm

/-- `std::abs` on `int64_t`. The least value has no absolute value in the type. -/
def stdAbs (x : Int64) : Except Fault Int64 :=
  if x = Int64.minValue then .error .absOverflow else .ok x.abs

theorem toInt_stdAbs {x : Int64} (hx : x ≠ Int64.minValue) :
    ∃ y, stdAbs x = .ok y ∧ y.toInt = x.toInt.natAbs := by
  have hne : x.toBitVec ≠ BitVec.intMin 64 := fun heq => hx (Int64.toBitVec_inj.mp heq)
  refine ⟨x.abs, if_neg hx, ?_⟩
  show x.toBitVec.abs.toInt = _
  rw [BitVec.toInt_abs_eq_natAbs, if_neg hne]
  rfl

/-! ## Unsigned numbers read as signed ones -/

theorem toInt_toInt64 (x : UInt64) : x.toInt64.toInt = (x.toNat : Int).bmod (2 ^ 64) := by
  show x.toBitVec.toInt = _
  rw [BitVec.toInt_eq_toNat_bmod]
  rfl

/-- A scaled difference of unsigned numbers, read as a signed number, is the exact
one up to a multiple of the range. -/
theorem toInt_sub_mul_eq_bmod (x y c : UInt64) :
    ((x - y) * c).toInt64.toInt =
      (((x.toNat : Int) - y.toNat) * c.toNat).bmod (2 ^ 64) := by
  have hy := y.toNat_lt
  have hsum : (((2 ^ 64 - y.toNat + x.toNat) * c.toNat : Nat) : Int) =
      ((x.toNat : Int) - y.toNat) * c.toNat + (2 ^ 64 : Nat) * c.toNat := by
    rw [Nat.cast_mul, Nat.cast_add, Nat.cast_sub (Nat.le_of_lt hy)]
    ring
  rw [toInt_toInt64, UInt64.toNat_mul, UInt64.toNat_sub, Nat.mod_mul_mod, Int.natCast_emod,
    Int.emod_bmod, hsum, Int.add_mul_bmod_self_left]

end Sok
