import SokFvm.Fvm.SessionPair

/-!
# The session counter of a sender

A message of a session is the freshness value followed by the sender's counter.
The counter moves on with each message and with nothing else, so the counters that
go out are the rows that an odometer visits: `TransmitTrace`.  They do not repeat
before the odometer has gone full circle, `transmit_counters_distinct`.
-/

namespace Sok.Fvm

open Sok.Common StateMachine AFreshnessValueManagerImpl FvmRuntimeAttributesManager

variable {s s' s₀ : AFreshnessValueManagerImpl} {id : SokFreshnessValueId} {length : UInt8}
variable {h : List ManagerEvent} {op : ManagerOp} {counter : ByteVector}

/-- The answer of a successful `GetTxFreshness` for the identifier. -/
def transmissionOf (id : SokFreshnessValueId) : ManagerEvent → Option FVContainer
  | .tx id' (.ok fv) => if id' = id then some fv else none
  | _ => none

/-- What the successful calls of `GetTxFreshness` answered, the newest first. -/
def transmissions (id : SokFreshnessValueId) (h : List ManagerEvent) : List FVContainer :=
  h.filterMap (transmissionOf id)

/-- A message is a freshness value of eight bytes and a counter. -/
structure Message (length : UInt8) (fv : FVContainer) : Prop where
  value : ∃ value : UInt64, fv.take 8 = uintToByteVector value
  counter : (fv.drop 8).length = length.toNat

/-- The counter stands where the messages have taken it, and the counters of the
messages are the rows on the way. -/
structure TransmitTrace (id : SokFreshnessValueId) (length : UInt8)
    (s : AFreshnessValueManagerImpl) (h : List ManagerEvent) : Prop where
  serves : Serves s id .kVwSokFreshnessValueSessionSender
  trace : ∃ k, CounterAt s id length ((Odometer.turn 0)^[k] (List.replicate length.toNat 0)) ∧
    (transmissions id h).map (·.drop 8) =
      Odometer.visited 0 (List.replicate length.toNat 0) k
  messages : ∀ fv ∈ transmissions id h, Message length fv

/-- Another call is not a message of the identifier. -/
theorem transmissions_of_ne (hop : concernsTransmission id op = false) :
    transmissions id ((managerNext s op).2 ++ h) = transmissions id h := by
  cases op with
  | getTxFreshness id' =>
    have hne : id' ≠ id := by simpa [concernsTransmission] using hop
    show transmissions id (.tx id' _ :: h) = transmissions id h
    cases (s.getTxFreshness id').1 with
    | ok fv => exact List.filterMap_cons_none (if_neg hne)
    | error failure => rfl
  | _ => rfl

/-- The first eight bytes of a message are a freshness value. -/
theorem take_getTxFreshness (hserves : Serves s id .kVwSokFreshnessValueSessionSender)
    {fv : FVContainer} (hok : (s.getTxFreshness id).1 = .ok fv) :
    ∃ value, fv.take 8 = uintToByteVector value := by
  rw [getTxFreshness_eq hserves.mInitialized hserves.entryType (Or.inr rfl)] at hok
  rw [← Except.ok.inj hok, take_getTxFv]
  unfold AFreshnessValueManagerImpl.chooseTxFv
  split_ifs
  · exact ⟨_, rfl⟩
  · exact ⟨_, rfl⟩
  · exact ⟨_, rfl⟩
  · exact ⟨_, rfl⟩

/-- What a message of the identifier does. -/
theorem TransmitTrace.transmit (htrace : TransmitTrace id length s h) :
    TransmitTrace id length (s.getTxFreshness id).2
      (.tx id (s.getTxFreshness id).1 :: h) := by
  obtain ⟨hserves, ⟨k, hcounter, hcounters⟩, hmessages⟩ := htrace
  obtain ⟨fv, hok, hbytes, hmoved⟩ := getTxFreshness_sender hserves hcounter
  rw [← Function.iterate_succ_apply' (Odometer.turn 0) k] at hbytes hmoved
  have hnewest : transmissions id (.tx id (s.getTxFreshness id).1 :: h) =
      fv :: transmissions id h := by
    rw [hok]
    exact List.filterMap_cons_some (if_pos rfl)
  refine ⟨hserves.next (.getTxFreshness id), ⟨k + 1, hmoved, ?_⟩, ?_⟩
  · rw [hnewest, List.map_cons, hcounters, hbytes, Odometer.visited_succ]
  · intro fv' hmem
    rw [hnewest, List.mem_cons] at hmem
    rcases hmem with rfl | hmem
    · refine ⟨take_getTxFreshness hserves hok, ?_⟩
      rw [hbytes, Odometer.length_turn_iterate, List.length_replicate]
    · exact hmessages fv' hmem

theorem TransmitTrace.step (htrace : TransmitTrace id length s h) (op : ManagerOp) :
    TransmitTrace id length (managerNext s op).1 ((managerNext s op).2 ++ h) := by
  cases hop : concernsTransmission id op with
  | true =>
    obtain rfl : op = .getTxFreshness id := by
      cases op <;> simp_all [concernsTransmission]
    exact htrace.transmit
  | false =>
    obtain ⟨hserves, ⟨k, hcounter, hcounters⟩, hmessages⟩ := htrace
    refine ⟨hserves.next op, ⟨k, counterAt_sender_of_ne hserves hcounter hop, ?_⟩, ?_⟩
    · rw [transmissions_of_ne hop, hcounters]
    · rw [transmissions_of_ne hop]
      exact hmessages

/-- Run lemma: the messages so far are the rows that the odometer visited. -/
theorem transmitTrace_of_run (hinit : FreshlyInitialised s₀)
    (htype : s₀.mFvmConfAccessor.getEntryTypeByFvId id = .ok .kVwSokFreshnessValueSessionSender)
    (hentry : (s₀.attributes id).isSome) (hlength : counterLength s₀ id ≠ 0)
    (hrun : Run managerStep Anything s₀ [] s h) :
    TransmitTrace id (counterLength s₀ id) s h := by
  refine hrun.invariant (TransmitTrace id (counterLength s₀ id)) ?_ ?_
  · refine ⟨⟨hinit.mInitialized, htype⟩, ⟨0, counterAt_start hinit hentry hlength, rfl⟩, ?_⟩
    intro fv hmem
    cases hmem
  · intro s h op s' es htrace _ hstep
    have hnext : managerNext s op = (s', es) := Except.ok.inj hstep
    have hstepped := htrace.step op
    rw [hnext] at hstepped
    exact hstepped

/-- Every message of a session is a freshness value of eight bytes followed by a
counter of the configured length, and among any `256 ^ length` messages in a row no
counter occurs twice. -/
theorem transmit_counters_distinct (hinit : FreshlyInitialised s₀)
    (htype : s₀.mFvmConfAccessor.getEntryTypeByFvId id = .ok .kVwSokFreshnessValueSessionSender)
    (hentry : (s₀.attributes id).isSome) (hlength : counterLength s₀ id ≠ 0)
    (hrun : Run managerStep Anything s₀ [] s h) :
    (∀ fv ∈ transmissions id h, Message (counterLength s₀ id) fv) ∧
    ∀ i j fv fv', i < j → j < i + 256 ^ (counterLength s₀ id).toNat →
      (transmissions id h)[i]? = some fv → (transmissions id h)[j]? = some fv' →
      fv.drop 8 ≠ fv'.drop 8 := by
  obtain ⟨-, ⟨k, -, hcounters⟩, hmessages⟩ :=
    transmitTrace_of_run hinit htype hentry hlength hrun
  refine ⟨hmessages, ?_⟩
  intro i j fv fv' hij hnear hi hj hsame
  have hat : ∀ n : Nat, (Odometer.visited 0
      (List.replicate (counterLength s₀ id).toNat 0) k)[n]? =
        ((transmissions id h)[n]?).map (List.drop 8) := by
    intro n
    rw [← hcounters, List.getElem?_map]
  have hearlier := hat i
  have hlater := hat j
  rw [hi] at hearlier
  rw [hj] at hlater
  refine Odometer.visited_distinct hij ?_ hearlier ?_
  · rw [List.length_replicate]
    exact hnear
  · rw [hlater, hsame]
    rfl

/-- Two messages of a session with a counter of one byte. -/
theorem transmit_counters_distinct_twice :
    ∃ s h, Run managerStep Anything (initialisedManager oneSessionSenderId) [] s h ∧
      (transmissions 0 h).map (·.drop 8) = [[2], [1]] ∧
      ∀ i j fv fv', i < j → j < i + 256 →
        (transmissions 0 h)[i]? = some fv → (transmissions 0 h)[j]? = some fv' →
        fv.drop 8 ≠ fv'.drop 8 := by
  obtain ⟨s, h, hrun, hcounters⟩ : ∃ s h,
      Run managerStep Anything (initialisedManager oneSessionSenderId) [] s h ∧
        (transmissions 0 h).map (·.drop 8) = [[2], [1]] :=
    Run.exists_of_exec [.getTxFreshness 0, .incTimers, .getTxFreshness 0] (by decide +kernel)
  have hinit : FreshlyInitialised (initialisedManager oneSessionSenderId) :=
    freshlyInitialised_initialisedManager rfl
  refine ⟨s, h, hrun, hcounters, ?_⟩
  have hlength : counterLength (initialisedManager oneSessionSenderId) 0 ≠ 0 := by decide
  exact (transmit_counters_distinct hinit rfl rfl hlength hrun).2

end Sok.Fvm
