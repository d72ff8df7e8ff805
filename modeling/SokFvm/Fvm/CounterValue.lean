import SokFvm.Fvm.SessionCounter

/-!
# The number that a session counter stands for

The documentation calls the counter of `GetNextSessionCounter` "the counter + 1".
`incrementByteArray` carries when a byte was zero before its increment, where the
big-endian successor carries when it is zero after it.  A counter of one byte has nothing
to carry into, and there the two agree.

* `incrementByteArray_eq_succ_iff`: on which vectors the increment adds one.
* `attributesStep` is the runtime attributes manager under its calls, and
  `counts_of_run` ties every counter to the number of calls of `IncSessionCounter`.
* `session_counter_counts_iff` says after how many calls the counter is that number.
-/

namespace Sok.Fvm

open Sok.Common StateMachine FvmRuntimeAttributesManager

/-! ## One increment -/

/-- The increment adds one to a vector of one byte, and to one whose last byte is neither
`0x00` nor `0xFF`. -/
theorem incrementByteArray_eq_succ_iff {vec : ByteVector} (hvec : vec ≠ []) :
    incrementByteArray vec =
        BigEndian.encode vec.length ((BigEndian.value vec + 1) % 256 ^ vec.length) ↔
      vec.length = 1 ∨ vec.getLast? ≠ some 0 ∧ vec.getLast? ≠ some 255 := by
  obtain ⟨row, byte, rfl⟩ : ∃ row byte, vec = row ++ [byte] :=
    ⟨vec.dropLast, vec.getLast hvec, (List.dropLast_append_getLast hvec).symm⟩
  have hone : (row ++ [byte]).length = 1 ↔ row = [] := by
    rw [List.length_append, List.length_singleton, ← List.length_eq_zero_iff]
    omega
  rw [incrementByteArray_eq_turn, ← Odometer.turn_255_eq,
    Odometer.turn_eq_turn_iff (by decide), hone, List.getLast?_concat]
  simp only [ne_eq, Option.some.injEq]

/-! ## The manager under its calls -/

/-- The calls that change a runtime attribute. -/
inductive AttributesOp
  | setActive (fvId : SokFreshnessValueId) (activationTime : UInt64)
  | incSessionCounter (fvId : SokFreshnessValueId)
  | updateEvent (type : EventType) (fvId : SokFreshnessValueId) (value : UInt64)

/-- An event is a call of `IncSessionCounter`. -/
def attributesStep :
    Machine FvmRuntimeAttributesManager AttributesOp SokFreshnessValueId Fault := fun mgr op =>
  match op with
  | .setActive fvId activationTime => .ok (mgr.setActive fvId activationTime, [])
  | .incSessionCounter fvId => .ok ((mgr.incSessionCounter fvId).2, [fvId])
  | .updateEvent type fvId value => .ok (mgr.updateEvent type fvId value, [])

variable {mgr mgr' : FvmRuntimeAttributesManager} {fvId : SokFreshnessValueId}
variable {op : AttributesOp} {es h : List SokFreshnessValueId} {length : UInt8}
variable {accessor : FreshnessValueManagerConfigAccessor}

/-- The identifier has a counter of `length` bytes, which was counted up from zero with
every call. -/
def Counts (fvId : SokFreshnessValueId) (length : UInt8) (mgr : FvmRuntimeAttributesManager)
    (h : List SokFreshnessValueId) : Prop :=
  ∃ a, mgr.entry fvId = some a ∧ a.sessionCounterLength = length ∧
    a.sessionCounterLastUsed =
      (Odometer.turn 0)^[h.count fvId] (List.replicate length.toNat 0)

/-- What an assignment into an entry does to the counter. -/
theorem Counts.of_entry (hcounts : Counts fvId length mgr h)
    (assign : SokFmRuntimeAttributes → SokFmRuntimeAttributes)
    (hassign : ∀ a, (assign a).sessionCounterLength = a.sessionCounterLength ∧
      (assign a).sessionCounterLastUsed = a.sessionCounterLastUsed)
    (hentry : mgr'.entry fvId = (mgr.entry fvId).map assign) : Counts fvId length mgr' h := by
  obtain ⟨a, ha, hlength, hlast⟩ := hcounts
  refine ⟨assign a, ?_, (hassign a).1.trans hlength, (hassign a).2.trans hlast⟩
  rw [hentry, ha]
  rfl

/-- A call for the identifier turns its counter. -/
theorem Counts.incSessionCounter (hcounts : Counts fvId length mgr h) :
    Counts fvId length (mgr.incSessionCounter fvId).2 (fvId :: h) := by
  obtain ⟨a, ha, hlength, hlast⟩ := hcounts
  refine ⟨countUp a, ?_, ?_, ?_⟩
  · rw [entry_incSessionCounter_self, ha]
    rfl
  · unfold countUp
    split
    · exact hlength
    · exact hlength
  · rw [List.count_cons_self, Function.iterate_succ_apply', ← hlast]
    unfold countUp
    split
    · exact incrementByteArray_eq_turn _
    · rename_i hzero
      -- without bytes there is nothing to turn
      have hempty : a.sessionCounterLastUsed = [] := by
        rw [hlast, ← List.length_eq_zero_iff, Odometer.length_turn_iterate,
          List.length_replicate, ← hlength, not_not.mp hzero]
        rfl
      rw [hempty]
      rfl

/-- Step lemma. -/
theorem Counts.step (hcounts : Counts fvId length mgr h)
    (hstep : attributesStep mgr op = .ok (mgr', es)) : Counts fvId length mgr' (es ++ h) := by
  cases op with
  | setActive fvId' activationTime =>
    cases Except.ok.inj hstep
    by_cases hid : fvId = fvId'
    · subst hid
      exact hcounts.of_entry _ (fun _ => counterOf_activate) (entry_setActive_self activationTime)
    · refine hcounts.of_entry id (fun _ => ⟨rfl, rfl⟩) ?_
      rw [entry_setActive_ne hid, Option.map_id, id]
  | incSessionCounter fvId' =>
    cases Except.ok.inj hstep
    by_cases hid : fvId = fvId'
    · subst hid
      exact hcounts.incSessionCounter
    · obtain ⟨a, ha, hlength, hlast⟩ := hcounts
      refine ⟨a, (entry_incSessionCounter_ne hid).trans ha, hlength, ?_⟩
      rw [List.singleton_append, List.count_cons_of_ne (Ne.symm hid), hlast]
  | updateEvent type fvId' value =>
    cases Except.ok.inj hstep
    by_cases hid : fvId = fvId'
    · subst hid
      exact hcounts.of_entry _ (fun _ => counterOf_setEvent) (entry_updateEvent_self type value)
    · refine hcounts.of_entry id (fun _ => ⟨rfl, rfl⟩) ?_
      rw [entry_updateEvent_ne hid, Option.map_id, id]

/-- Run lemma: from `Init` on, the counter of a listed identifier turns with every call of
`IncSessionCounter` for it. -/
theorem counts_of_run (hlisted : fvId ∈ accessor.getAllFreshnessValueIds)
    (hrun : Run attributesStep Anything (init accessor ⟨∅⟩) [] mgr h) :
    Counts fvId (freshAttributes accessor fvId).sessionCounterLength mgr h := by
  refine hrun.invariant
    (Counts fvId (freshAttributes accessor fvId).sessionCounterLength) ?_ ?_
  · refine ⟨freshAttributes accessor fvId, ?_, rfl, rfl⟩
    rw [entry_init, if_pos hlisted]
  · intro mgr h op mgr' es hcounts _ hstep
    exact hcounts.step hstep

theorem Counts.getSessionCounter (hcounts : Counts fvId length mgr h) :
    mgr.getSessionCounter fvId =
      (Odometer.turn 0)^[h.count fvId] (List.replicate length.toNat 0) := by
  obtain ⟨a, ha, hlength, hlast⟩ := hcounts
  have ha' : mgr.mAttributesMap.lookup fvId = some a := ha
  rw [FvmRuntimeAttributesManager.getSessionCounter, ha', ← hlast]
  dsimp only
  unfold counterOf
  split
  · rfl
  · rename_i hzero
    symm
    rw [hlast, ← List.length_eq_zero_iff, Odometer.length_turn_iterate,
      List.length_replicate, ← hlength, not_not.mp hzero]
    rfl

/-- When the session counter counts. The increment adds one to a vector of one byte, and
to one whose last byte is neither `0x00` nor `0xFF`. In every run from `Init` on, the
counter of a listed identifier is the number of its increments if that is a multiple of
`256 ^ (n - 1)`, where the counter has `n` bytes. -/
theorem session_counter_counts_iff (vec : ByteVector)
    (accessor : FreshnessValueManagerConfigAccessor) (fvId : SokFreshnessValueId) :
    (vec ≠ [] →
      (incrementByteArray vec =
          BigEndian.encode vec.length ((BigEndian.value vec + 1) % 256 ^ vec.length) ↔
        vec.length = 1 ∨ vec.getLast? ≠ some 0 ∧ vec.getLast? ≠ some 255)) ∧
    (fvId ∈ accessor.getAllFreshnessValueIds → ∀ mgr h,
      Run attributesStep Anything (init accessor ⟨∅⟩) [] mgr h →
      (mgr.getSessionCounter fvId =
          BigEndian.encode (freshAttributes accessor fvId).sessionCounterLength.toNat
            (h.count fvId %
              256 ^ (freshAttributes accessor fvId).sessionCounterLength.toNat) ↔
        256 ^ ((freshAttributes accessor fvId).sessionCounterLength.toNat - 1) ∣
          h.count fvId)) := by
  constructor
  · intro hvec
    exact incrementByteArray_eq_succ_iff hvec
  · intro hlisted mgr h hrun
    rw [(counts_of_run hlisted hrun).getSessionCounter, BigEndian.encode_mod]
    exact Odometer.turn_zero_iterate_eq_iff _ _

/-- One identifier of a session receiver, with a counter of two bytes, beside a
challenge. -/
def twoBytesReceiverId : FreshnessValueManagerConfigAccessor :=
  .ofEntries [(0, ⟨.kVwSokFreshnessValueSessionReceiver, 0, 2⟩)]
    [(1, ⟨.kVwSokFreshnessCrChallenge, default⟩)]

/-- After one increment a counter of two bytes is `0x0101`. -/
theorem two_bytes_do_not_count :
    incrementByteArray [0, 0] ≠ BigEndian.encode 2 ((BigEndian.value [0, 0] + 1) % 256 ^ 2) ∧
    (0 ∈ twoBytesReceiverId.getAllFreshnessValueIds ∧
      (freshAttributes twoBytesReceiverId 0).sessionCounterLength = 2 ∧
      ∃ mgr h, Run attributesStep Anything (init twoBytesReceiverId ⟨∅⟩) [] mgr h ∧
        h.count 0 = 1 ∧ mgr.getSessionCounter 0 = [1, 1] ∧
        mgr.getSessionCounter 0 ≠ BigEndian.encode 2 (1 % 256 ^ 2)) := by
  refine ⟨by decide, by decide, rfl, ?_⟩
  exact Run.exists_of_exec [.incSessionCounter 0] (by decide +kernel)

end Sok.Fvm
