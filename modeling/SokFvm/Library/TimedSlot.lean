import SokFvm.Library.Run

/-!
# Slots with a time stamp

A slot holds at most one value, and the time at which the value was stored.  The
time comes from a clock that counts `period` for each tick and wraps around at the
end of its type.  A slot is known by its history, a list of events with the newest
first: `Kind` is what an event does to the slot, and `content` is what the slot
holds after a history.

A value is protected for some time after it was stored: it can be discarded, but
another value can take its place only when the clock says that the time `timeout`
has passed.  `Guarded` is that rule for one event, and `stored_apart` is what it
means for a history: two stored values with no discarding between them are at least
`timeout` apart, also when there were others between them, and also when the clock
has wrapped around.

An implementation keeps the content and the time in variables of its own.  `Follows`
is the invariant that ties them to the history, with one lemma for each kind of
event.
-/

namespace TimedSlot

open StateMachine

/-- What an event does to a slot. -/
inductive Kind (α : Type*)
  | stores (time : UInt64) (a : α)
  | discards
  | ticks
  | other

/-- The event changes the content. -/
def Kind.writes {α : Type*} : Kind α → Bool
  | .stores _ _ | .discards => true
  | .ticks | .other => false

theorem Kind.writes_eq_false_iff {α : Type*} {k : Kind α} :
    k.writes = false ↔ (∀ time a, k ≠ .stores time a) ∧ k ≠ .discards := by
  cases k <;> simp [Kind.writes]

/-- The event stores a value. -/
def Kind.isStore {α : Type*} : Kind α → Bool
  | .stores _ _ => true
  | .discards | .ticks | .other => false

/-- The event is a tick of the clock. -/
def Kind.isTick {α : Type*} : Kind α → Bool
  | .ticks => true
  | .stores _ _ | .discards | .other => false

variable {ε α : Type*} (kind : ε → Kind α) (period : Nat) (timeout : UInt64)

/-- What the slot holds. -/
def content : List ε → Option (UInt64 × α)
  | [] => none
  | e :: h =>
    match kind e with
    | .stores time a => some (time, a)
    | .discards => none
    | .ticks | .other => content h

/-- The ticks of a history. -/
def ticks (h : List ε) : Nat :=
  h.countP fun e => (kind e).isTick

/-- The clock, which started at zero. -/
def clock (h : List ε) : UInt64 :=
  UInt64.ofNat (period * ticks kind h)

/-- What is stored bears the present time, and the value that it replaces, if there
is one, is as old as the timeout. -/
def Guarded (e : ε) (past : List ε) : Prop :=
  ∀ time a, kind e = .stores time a → time = clock kind period past ∧
    ∀ time' a', content kind past = some (time', a') → ¬ time - time' < timeout

variable {kind period timeout} {e e₁ e₂ : ε} {h newer older between : List ε}
variable {time time₁ time₂ : UInt64} {a a₁ a₂ : α}

theorem ticks_append : ticks kind (newer ++ older) = ticks kind newer + ticks kind older :=
  List.countP_append

theorem ticks_cons_of_not_tick (hkind : (kind e).isTick = false) :
    ticks kind (e :: h) = ticks kind h := by
  unfold ticks
  rw [List.countP_cons_of_neg]
  rw [hkind]
  decide

theorem ticks_cons_of_tick (hkind : (kind e).isTick = true) :
    ticks kind (e :: h) = ticks kind h + 1 := by
  unfold ticks
  rw [List.countP_cons_of_pos]
  exact hkind

theorem content_cons_of_store (hkind : kind e = .stores time a) :
    content kind (e :: h) = some (time, a) := by
  rw [content, hkind]

theorem content_cons_of_discard (hkind : kind e = .discards) : content kind (e :: h) = none := by
  rw [content, hkind]

theorem content_cons_of_not_write (hkind : (kind e).writes = false) :
    content kind (e :: h) = content kind h := by
  rw [content]
  cases hk : kind e with
  | stores time a => simp [hk, Kind.writes] at hkind
  | discards => simp [hk, Kind.writes] at hkind
  | ticks => rfl
  | other => rfl

theorem content_append_of_not_writes (hnewer : ∀ e ∈ newer, (kind e).writes = false) :
    content kind (newer ++ h) = content kind h := by
  induction newer with
  | nil => rfl
  | cons e newer ih =>
    rw [List.cons_append, content_cons_of_not_write (hnewer e List.mem_cons_self)]
    apply ih
    intro x hmem
    exact hnewer x (List.mem_cons_of_mem _ hmem)

/-- The content is what was stored last, unless it was discarded. -/
theorem content_eq_some_iff :
    content kind h = some (time, a) ↔
      ∃ newer e older, h = newer ++ e :: older ∧ kind e = .stores time a ∧
        ∀ x ∈ newer, (kind x).writes = false := by
  constructor
  · intro hcontent
    induction h with
    | nil => cases hcontent
    | cons x h ih =>
      cases hkind : kind x with
      | stores time' a' =>
        rw [content_cons_of_store hkind] at hcontent
        cases hcontent
        exact ⟨[], x, h, rfl, hkind, by simp⟩
      | discards =>
        rw [content_cons_of_discard hkind] at hcontent
        cases hcontent
      | ticks | other =>
        have hquiet : (kind x).writes = false := by
          rw [hkind]
          rfl
        rw [content_cons_of_not_write hquiet] at hcontent
        obtain ⟨newer, e, older, rfl, he, hnewer⟩ := ih hcontent
        refine ⟨x :: newer, e, older, rfl, he, ?_⟩
        intro y hmem
        rcases List.mem_cons.mp hmem with rfl | hmem
        · exact hquiet
        · exact hnewer y hmem
  · rintro ⟨newer, e, older, rfl, he, hnewer⟩
    rw [content_append_of_not_writes hnewer, content_cons_of_store he]

/-! ## An implementation of a slot -/

/-- A slot and a clock that follow the events. -/
structure Follows (kind : ε → Kind α) (period : Nat) (timeout : UInt64)
    (slot : Option (UInt64 × α)) (now : UInt64) (h : List ε) : Prop where
  slot_eq : slot = content kind h
  now_eq : now = clock kind period h
  guarded : EachEvent (Guarded kind period timeout) h

section Follows

variable {slot : Option (UInt64 × α)} {now : UInt64}

theorem follows_nil : Follows kind period timeout none 0 [] :=
  ⟨rfl, rfl, eachEvent_nil⟩

theorem clock_cons_of_not_tick (hkind : (kind e).isTick = false) :
    clock kind period (e :: h) = clock kind period h := by
  unfold clock
  rw [ticks_cons_of_not_tick hkind]

theorem guarded_of_not_store (hkind : (kind e).isStore = false) :
    Guarded kind period timeout e h := by
  intro time a hstores
  rw [hstores] at hkind
  cases hkind

theorem Follows.stores (hfollows : Follows kind period timeout slot now h)
    (hkind : kind e = .stores now a)
    (hold : ∀ time' a', slot = some (time', a') → ¬ now - time' < timeout) :
    Follows kind period timeout (some (now, a)) now (e :: h) := by
  refine ⟨(content_cons_of_store hkind).symm, ?_, ?_, hfollows.guarded⟩
  · rw [clock_cons_of_not_tick (by rw [hkind]; rfl)]
    exact hfollows.now_eq
  · intro time a' hstores
    cases hkind.symm.trans hstores
    rw [← hfollows.slot_eq]
    exact ⟨hfollows.now_eq, hold⟩

theorem Follows.discards (hfollows : Follows kind period timeout slot now h)
    (hkind : kind e = .discards) : Follows kind period timeout none now (e :: h) := by
  refine ⟨(content_cons_of_discard hkind).symm, ?_, ?_, hfollows.guarded⟩
  · rw [clock_cons_of_not_tick (by rw [hkind]; rfl)]
    exact hfollows.now_eq
  · apply guarded_of_not_store
    rw [hkind]
    rfl

theorem Follows.ticks (hfollows : Follows kind period timeout slot now h)
    (hkind : kind e = .ticks) :
    Follows kind period timeout slot (now + UInt64.ofNat period) (e :: h) := by
  refine ⟨?_, ?_, ?_, hfollows.guarded⟩
  · rw [content_cons_of_not_write (by rw [hkind]; rfl)]
    exact hfollows.slot_eq
  · unfold clock
    rw [ticks_cons_of_tick (by rw [hkind]; rfl), Nat.mul_add, Nat.mul_one, UInt64.ofNat_add,
      hfollows.now_eq]
    rfl
  · apply guarded_of_not_store
    rw [hkind]
    rfl

theorem Follows.other (hfollows : Follows kind period timeout slot now h)
    (hkind : kind e = .other) : Follows kind period timeout slot now (e :: h) := by
  refine ⟨?_, ?_, ?_, hfollows.guarded⟩
  · rw [content_cons_of_not_write (by rw [hkind]; rfl)]
    exact hfollows.slot_eq
  · rw [clock_cons_of_not_tick (by rw [hkind]; rfl)]
    exact hfollows.now_eq
  · apply guarded_of_not_store
    rw [hkind]
    rfl

end Follows

/-! ## Two stored values -/

/-- Without a discarding the slot is not empty, and what it holds was stored since,
or it is the value itself. -/
theorem content_of_kept (heach : EachEvent (Guarded kind period timeout) (between ++ e :: older))
    (hstores : kind e = .stores time a) (hkept : ∀ x ∈ between, kind x ≠ .discards) :
    ∃ stored age a', content kind (between ++ e :: older) =
        some (UInt64.ofNat (period * stored), a') ∧
      ticks kind (between ++ e :: older) = stored + age ∧ age ≤ ticks kind between := by
  induction between with
  | nil =>
    refine ⟨ticks kind older, 0, a, ?_, ?_, Nat.le_refl 0⟩
    · rw [List.nil_append, content_cons_of_store hstores, (heach.1 time a hstores).1]
      rfl
    · apply ticks_cons_of_not_tick
      rw [hstores]
      rfl
  | cons x between ih =>
    obtain ⟨stored, age, a', hcontent, hticks, hage⟩ :=
      ih heach.2 fun y hmem => hkept y (List.mem_cons_of_mem _ hmem)
    rw [List.cons_append]
    cases hkind : kind x with
    | stores time' a'' =>
      refine ⟨ticks kind (between ++ e :: older), 0, a'', ?_, ?_, Nat.zero_le _⟩
      · rw [content_cons_of_store hkind, (heach.1 time' a'' hkind).1]
        rfl
      · apply ticks_cons_of_not_tick
        rw [hkind]
        rfl
    | discards => exact absurd hkind (hkept x List.mem_cons_self)
    | ticks =>
      have htick : (kind x).isTick = true := by rw [hkind]; rfl
      have hquiet : (kind x).writes = false := by rw [hkind]; rfl
      refine ⟨stored, age + 1, a', ?_, ?_, ?_⟩
      · rw [content_cons_of_not_write hquiet, hcontent]
      · rw [ticks_cons_of_tick htick, hticks, Nat.add_assoc]
      · rw [ticks_cons_of_tick htick]
        omega
    | other =>
      have hnotick : (kind x).isTick = false := by rw [hkind]; rfl
      have hquiet : (kind x).writes = false := by rw [hkind]; rfl
      refine ⟨stored, age, a', ?_, ?_, ?_⟩
      · rw [content_cons_of_not_write hquiet, hcontent]
      · rw [ticks_cons_of_not_tick hnotick, hticks]
      · rw [ticks_cons_of_not_tick hnotick]
        exact hage

/-- The time of an event that stores something. -/
theorem clock_of_stores
    (heach : EachEvent (Guarded kind period timeout) (newer ++ e :: older))
    (he : kind e = .stores time a) :
    clock kind period (newer ++ e :: older) =
      time + UInt64.ofNat (period * ticks kind newer) := by
  obtain ⟨htime, -⟩ := heach.past time a he
  have hticks : ticks kind (newer ++ e :: older) = ticks kind older + ticks kind newer := by
    rw [ticks_append, ticks_cons_of_not_tick, Nat.add_comm]
    rw [he]
    rfl
  rw [htime, clock, clock, ← UInt64.ofNat_add, ← Nat.mul_add, ← hticks]

/-- The clock counts the time, up to its type. -/
theorem timeout_le_of_not_lt {n m : Nat}
    (hguard : ¬ UInt64.ofNat (period * (n + m)) - UInt64.ofNat (period * n) < timeout) :
    timeout.toNat ≤ period * m := by
  rw [Nat.mul_add, UInt64.ofNat_add, UInt64.add_comm, UInt64.add_sub_cancel] at hguard
  apply Nat.le_of_not_lt
  intro hlt
  apply hguard
  rw [UInt64.lt_iff_toNat_lt, UInt64.toNat_ofNat']
  exact Nat.lt_of_le_of_lt (Nat.mod_le _ _) hlt

/-- Two stored values with no discarding between them are apart by the ticks
between them, and that is at least the timeout. -/
theorem stored_apart
    (heach : EachEvent (Guarded kind period timeout) (newer ++ e₂ :: between ++ e₁ :: older))
    (h₁ : kind e₁ = .stores time₁ a₁) (h₂ : kind e₂ = .stores time₂ a₂)
    (hkept : ∀ x ∈ between, kind x ≠ .discards) :
    time₂ = time₁ + UInt64.ofNat (period * ticks kind between) ∧
      timeout.toNat ≤ period * ticks kind between := by
  rw [List.append_assoc] at heach
  obtain ⟨hnow, hpast⟩ := heach.of_append
  obtain ⟨htime₂, hguard⟩ := hnow time₂ a₂ h₂
  refine ⟨htime₂.trans (clock_of_stores hpast h₁), ?_⟩
  obtain ⟨stored, age, a', hcontent, hsum, hage⟩ := content_of_kept hpast h₁ hkept
  have hold := hguard _ _ hcontent
  have hsum' : time₂ = UInt64.ofNat (period * (stored + age)) := by
    rw [htime₂, ← hsum]
    rfl
  rw [hsum'] at hold
  exact Nat.le_trans (timeout_le_of_not_lt hold) (Nat.mul_le_mul_left period hage)

/-! ## The age of the content -/

/-- The slot has held what it holds for at least so many ticks. -/
def Lingers (kind : ε → Kind α) (limit : Nat) (h : List ε) : Prop :=
  ∃ newer e older time a, h = newer ++ e :: older ∧ kind e = .stores time a ∧
    (∀ x ∈ newer, (kind x).writes = false) ∧ limit ≤ ticks kind newer

/-- An event that stores something is not newer than the one that wrote the slot
last. -/
theorem ticks_le_of_stores {newer' older' : List ε} (he : kind e₁ = .stores time₁ a₁)
    (hquiet : ∀ x ∈ newer, (kind x).writes = false)
    (heq : newer ++ e :: older = newer' ++ e₁ :: older') :
    ticks kind newer ≤ ticks kind newer' := by
  rcases List.append_eq_append_iff.mp heq with ⟨between, rfl, -⟩ | ⟨between, rfl, hcons⟩
  · rw [ticks_append]
    omega
  · cases between with
    | nil => simp
    | cons x between =>
      obtain ⟨rfl, -⟩ := List.cons.inj hcons
      have hnone := hquiet e₁ (List.mem_append_right _ List.mem_cons_self)
      rw [he] at hnone
      cases hnone

/-- What the slot holds was stored within the limit exactly if it does not
linger. -/
theorem stored_within_iff (limit : Nat) :
    (∀ time a, content kind h = some (time, a) → ∃ newer e older time',
        h = newer ++ e :: older ∧ kind e = .stores time' a ∧ ticks kind newer < limit) ↔
      ¬ Lingers kind limit h := by
  constructor
  · rintro hwithin ⟨newer, e, older, time, a, rfl, he, hquiet, hle⟩
    have hcontent := content_eq_some_iff.mpr ⟨newer, e, older, rfl, he, hquiet⟩
    obtain ⟨newer', e', older', time', heq, he', hlt⟩ := hwithin time a hcontent
    have hticks := ticks_le_of_stores he' hquiet heq
    omega
  · intro hnot time a hcontent
    obtain ⟨newer, e, older, rfl, he, hquiet⟩ := content_eq_some_iff.mp hcontent
    refine ⟨newer, e, older, time, rfl, he, ?_⟩
    apply Nat.lt_of_not_le
    intro hle
    exact hnot ⟨newer, e, older, time, a, rfl, he, hquiet, hle⟩

end TimedSlot
