import Mathlib.Tactic.TypeStar

/-!
# Runs of a step function with a history

A program that is driven from outside, one call at a time, is a step function:
it takes the state and the next input, and it either faults or answers with the
next state and the events of the step.  `Run` is the relation between two
points of such a program: the first is taken to the second by finitely many
inputs, each of which meets a guard at the point where it arrives.

A guard sees the state, the events so far and the input.  "Every run whose
inputs meet the condition `P`" is `Run m P`, and "every run" is
`Run m Anything`.

The history is a list of events, the newest first.  It is the record against
which a property of the past is stated: what was sent before, how many calls
ago, in which order.  `since` is the part of it that is newer than the newest
event of a kind, and `EachEvent` holds every event against its own past.

Every induction over runs in this development is one of the rules below:

* `Run.invariant` carries a predicate of state and history along a run;
* `Run.stateInvariant` is the same for a predicate of the state alone;
* `Run.trans` composes runs, and `Run.older` gives a run an older history;
* `Run.exists_between` finds the point where a count that grows by at most one in a
  step has a given value;
* `Run.simulate` maps the runs of one machine onto the runs of another, and
  `Run.project` the runs of a system onto the runs of a component.
-/

namespace StateMachine

variable {σ ι ε φ : Type*}

/-- A step function.  A step faults, or gives the next state and the events of
the step, newest first. -/
abbrev Machine (σ ι ε φ : Type*) := σ → ι → Except φ (σ × List ε)

/-- A condition on an input, in the state and after the history it meets. -/
abbrev Guard (σ ι ε : Type*) := σ → List ε → ι → Prop

/-- A mapped computation that succeeds is a computation that succeeds. -/
theorem exists_of_map_ok {α β : Type*} {x : Except φ α} {f : α → β} {b : β}
    (hmap : x.map f = .ok b) : ∃ a, x = .ok a ∧ f a = b := by
  cases x with
  | error fault => cases hmap
  | ok a => exact ⟨a, rfl, Except.ok.inj hmap⟩

/-- A function that also has a result is a step without it. -/
theorem exists_of_map_snd {α β : Type*} {x : Except φ (α × β)} {b : β}
    (hmap : x.map Prod.snd = .ok b) : ∃ a, x = .ok (a, b) := by
  obtain ⟨pair, rfl, rfl⟩ := exists_of_map_ok hmap
  exact ⟨pair.1, rfl⟩

/-- The guard that every input meets. -/
def Anything : Guard σ ι ε := fun _ _ _ => True

/-- `Run m P s₀ h₀ s h`: finitely many inputs, all of which meet `P`, take `m`
from the state `s₀` with history `h₀` to the state `s` with history `h`. -/
inductive Run (m : Machine σ ι ε φ) (P : Guard σ ι ε) (s₀ : σ) (h₀ : List ε) :
    σ → List ε → Prop
  | refl : Run m P s₀ h₀ s₀ h₀
  | step {s : σ} {h : List ε} {i : ι} {s' : σ} {es : List ε}
      (before : Run m P s₀ h₀ s h) (meets : P s h i)
      (steps : m s i = .ok (s', es)) : Run m P s₀ h₀ s' (es ++ h)

variable {m : Machine σ ι ε φ} {P : Guard σ ι ε} {s₀ s s' : σ}
variable {h₀ h h' : List ε}

/-- One step is a run. -/
theorem Run.single {i : ι} {es : List ε} (meets : P s h i)
    (steps : m s i = .ok (s', es)) : Run m P s h s' (es ++ h) :=
  .step .refl meets steps

/-- A run can be continued by a run. -/
theorem Run.trans (first : Run m P s₀ h₀ s h) (second : Run m P s h s' h') :
    Run m P s₀ h₀ s' h' := by
  induction second with
  | refl => exact first
  | step _ meets steps ih => exact .step ih meets steps

/-- The invariant rule.  What holds at the start and survives every step that
meets the guard holds at the end of every run. -/
theorem Run.invariant (run : Run m P s₀ h₀ s h) (Inv : σ → List ε → Prop)
    (start : Inv s₀ h₀)
    (preserved : ∀ s h i s' es, Inv s h → P s h i → m s i = .ok (s', es) →
      Inv s' (es ++ h)) : Inv s h := by
  induction run with
  | refl => exact start
  | step _ meets steps ih => exact preserved _ _ _ _ _ ih meets steps

/-- The invariant rule for a predicate of the state alone. -/
theorem Run.stateInvariant (run : Run m P s₀ h₀ s h) (Inv : σ → Prop) (start : Inv s₀)
    (preserved : ∀ s h i s' es, Inv s → P s h i → m s i = .ok (s', es) → Inv s') : Inv s :=
  run.invariant (fun s _ => Inv s) start preserved

/-- A count of the history that grows by at most one in a step takes every value on the
way. -/
theorem Run.exists_between (run : Run m P s₀ h₀ s h) (count : List ε → Nat)
    (slow : ∀ s h i s' es, Run m P s₀ h₀ s h → m s i = .ok (s', es) →
      count (es ++ h) ≤ count h + 1) {n : Nat} (low : count h₀ ≤ n) (high : n ≤ count h) :
    ∃ s' h', Run m P s₀ h₀ s' h' ∧ Run m P s' h' s h ∧ count h' = n := by
  induction run with
  | refl => exact ⟨s₀, h₀, .refl, .refl, Nat.le_antisymm low high⟩
  | @step t g i t' es before meets steps ih =>
    by_cases hearlier : n ≤ count g
    · obtain ⟨s', h', hfirst, hsecond, hcount⟩ := ih hearlier
      exact ⟨s', h', hfirst, .step hsecond meets steps, hcount⟩
    · have hnext := slow _ _ _ _ _ before steps
      exact ⟨t', es ++ g, .step before meets steps, .refl, by omega⟩

/-- A count of the history that does not fall in a step does not fall in a run. -/
theorem Run.count_le (run : Run m P s₀ h₀ s h) (count : List ε → Nat)
    (grows : ∀ es h, count h ≤ count (es ++ h)) : count h₀ ≤ count h :=
  run.invariant (fun _ h => count h₀ ≤ count h) (Nat.le_refl _)
    fun _ h _ _ es hle _ _ => Nat.le_trans hle (grows es h)

/-- A run can have an older history. -/
theorem Run.older (run : Run m Anything s₀ h₀ s h) (g : List ε) :
    Run m Anything s₀ (h₀ ++ g) s (h ++ g) := by
  induction run with
  | refl => exact .refl
  | step _ _ steps ih =>
    rw [List.append_assoc]
    exact .step ih trivial steps

section Emits

/-- The step on the input `i` does not fault and has the event `e`. -/
def Emits (m : Machine σ ι ε φ) (s : σ) (i : ι) (e : ε) : Prop :=
  ∃ s' es, m s i = .ok (s', es) ∧ e ∈ es

instance [DecidableEq ε] (s : σ) (i : ι) (e : ε) : Decidable (Emits m s i e) :=
  match hstep : m s i with
  | .ok (s', es) =>
    decidable_of_iff (e ∈ es)
      ⟨fun hmem => ⟨s', es, hstep, hmem⟩, fun ⟨_, _, hstep', hmem⟩ => by
        cases hstep.symm.trans hstep'
        exact hmem⟩
  | .error _ => .isFalse fun ⟨_, _, hstep', _⟩ => by cases hstep.symm.trans hstep'

end Emits

section Since

/-- The events that are newer than the newest one with a mark. -/
def since (mark : ε → Bool) (h : List ε) : List ε :=
  h.takeWhile fun e => !mark e

variable {mark : ε → Bool} {e : ε}

theorem since_cons_of_mark (hmark : mark e = true) : since mark (e :: h) = [] := by
  simp [since, hmark]

theorem since_cons_of_not_mark (hmark : mark e = false) :
    since mark (e :: h) = e :: since mark h := by
  simp [since, hmark]

theorem since_append_of_not_mark (hmark : ∀ e ∈ h', mark e = false) :
    since mark (h' ++ h) = h' ++ since mark h := by
  apply List.takeWhile_append_of_pos
  intro e hmem
  rw [hmark e hmem]
  rfl

theorem since_append_cons_of_mark {newer older : List ε} (hmark : mark e = true) :
    since mark (newer ++ e :: older) = since mark newer := by
  induction newer with
  | nil => rw [List.nil_append, since_cons_of_mark hmark, since, List.takeWhile_nil]
  | cons x newer ih =>
    rw [List.cons_append]
    cases hx : mark x with
    | true => rw [since_cons_of_mark hx, since_cons_of_mark hx]
    | false => rw [since_cons_of_not_mark hx, since_cons_of_not_mark hx, ih]

theorem mark_of_mem_since (hmem : e ∈ since mark h) : mark e = false := by
  have hall := List.all_eq_true.mp (List.all_takeWhile (p := fun e => !mark e) (l := h)) e hmem
  simpa using hall

/-- A marked event hides what is older. -/
theorem since_append_of_mark (hmem : ∃ e ∈ h', mark e = true) :
    since mark (h' ++ h) = since mark h' := by
  obtain ⟨e, he, hmark⟩ := hmem
  obtain ⟨newer, older, rfl⟩ := List.append_of_mem he
  rw [List.append_assoc, List.cons_append, since_append_cons_of_mark hmark,
    since_append_cons_of_mark hmark]

/-- What is newer than the newest event of a kind is newer than any of them. -/
theorem mem_of_mem_since {x : ε} {newer older : List ε} (hmark : mark e = true)
    (hmem : x ∈ since mark (newer ++ e :: older)) : x ∈ newer := by
  rw [since_append_cons_of_mark hmark] at hmem
  exact (List.takeWhile_sublist _).subset hmem

end Since

section EachEvent

/-- Every event of the history stands in the relation `Q` to what was there before
it. -/
def EachEvent (Q : ε → List ε → Prop) : List ε → Prop
  | [] => True
  | e :: h => Q e h ∧ EachEvent Q h

variable {Q : ε → List ε → Prop} {e : ε}

@[simp] theorem eachEvent_nil : EachEvent Q [] := trivial

@[simp] theorem eachEvent_cons : EachEvent Q (e :: h) ↔ Q e h ∧ EachEvent Q h := Iff.rfl

/-- What holds of every event holds of the older ones. -/
theorem EachEvent.of_append (heach : EachEvent Q (h' ++ h)) : EachEvent Q h := by
  induction h' with
  | nil => exact heach
  | cons x h' ih => exact ih heach.2

/-- An event of a history to which a step has added is one of the step or was there
before. -/
theorem split_of_append {newer older : List ε} (hsplit : h' ++ h = newer ++ e :: older) :
    (∃ newer', newer = h' ++ newer' ∧ h = newer' ++ e :: older) ∨
      ∃ rest, h' = newer ++ e :: rest ∧ older = rest ++ h := by
  rcases List.append_eq_append_iff.mp hsplit with ⟨rest, hnewer, hh⟩ | ⟨rest, hh', hcons⟩
  · left
    exact ⟨rest, hnewer, hh⟩
  · cases rest with
    | nil =>
      left
      exact ⟨[], by simpa using hh'.symm, hcons.symm⟩
    | cons x rest =>
      right
      obtain ⟨hx, holder⟩ := List.cons.inj hcons
      rw [← hx] at hh'
      exact ⟨rest, hh', holder⟩

/-- An event of the history and its past. -/
theorem EachEvent.past {newer older : List ε} (heach : EachEvent Q (newer ++ e :: older)) :
    Q e older :=
  heach.of_append.1

end EachEvent

section Simulation

variable {τ κ ε' φ' : Type*} {n : Machine τ κ ε' φ'} {R : Guard τ κ ε'}

/-- The simulation rule.  If every step of `m` that meets the guard is matched
by a run of `n` between the abstractions of its two states, from whatever
history `n` has by then, then every run of `m` is matched by a run of `n`. -/
theorem Run.simulate (run : Run m P s₀ h₀ s h) (abs : σ → τ)
    (matched : ∀ s h i s' es g, P s h i → m s i = .ok (s', es) →
      ∃ g', Run n R (abs s) g (abs s') g') (g₀ : List ε') :
    ∃ g, Run n R (abs s₀) g₀ (abs s) g := by
  induction run with
  | refl => exact ⟨g₀, .refl⟩
  | step _ meets steps ih =>
    obtain ⟨g, hrun⟩ := ih
    obtain ⟨g', hstep⟩ := matched _ _ _ _ _ g meets steps
    exact ⟨g', hrun.trans hstep⟩

/-- The projection rule.  A component of a system takes its part in a run of the
system: `abs` is the component's part of the state and `view` its part of the
history. -/
theorem Run.project (run : Run m P s₀ h₀ s h) (abs : σ → τ) (view : List ε → List ε')
    (matched : ∀ s h i s' es, P s h i → m s i = .ok (s', es) →
      Run n R (abs s) (view h) (abs s') (view (es ++ h))) :
    Run n R (abs s₀) (view h₀) (abs s) (view h) := by
  induction run with
  | refl => exact .refl
  | step _ meets steps ih => exact ih.trans (matched _ _ _ _ _ meets steps)

end Simulation

section Execution

/-- Feed a list of inputs to the machine.  This is the executable counterpart of
`Run`: a concrete run is evaluated with it. -/
def exec (m : Machine σ ι ε φ) (s : σ) (h : List ε) : List ι → Except φ (σ × List ε)
  | [] => .ok (s, h)
  | i :: is =>
    match m s i with
    | .ok (s', es) => exec m s' (es ++ h) is
    | .error f => .error f

/-- Every input of the list meets the guard at the point where it arrives. -/
def execMeets (m : Machine σ ι ε φ) (P : Guard σ ι ε) [∀ s h i, Decidable (P s h i)] (s : σ)
    (h : List ε) : List ι → Bool
  | [] => true
  | i :: is =>
    decide (P s h i) &&
      match m s i with
      | .ok (s', es) => execMeets m P s' (es ++ h) is
      | .error _ => true

/-- An execution that does not fault is a run under every guard that its inputs
meet. -/
theorem Run.of_exec_of_meets [∀ s h i, Decidable (P s h i)] {is : List ι}
    (hmeets : execMeets m P s h is = true) (hexec : exec m s h is = .ok (s', h')) :
    Run m P s h s' h' := by
  induction is generalizing s h with
  | nil =>
    cases hexec
    exact .refl
  | cons i is ih =>
    rw [execMeets, Bool.and_eq_true, decide_eq_true_eq] at hmeets
    obtain ⟨hguard, hrest⟩ := hmeets
    rw [exec] at hexec
    split at hexec
    · rename_i steps
      rw [steps] at hrest
      exact (Run.single hguard steps).trans (ih hrest hexec)
    · cases hexec

instance (s : σ) (h : List ε) (i : ι) : Decidable (Anything s h i) := .isTrue trivial

theorem execMeets_anything (is : List ι) : execMeets m Anything s h is = true := by
  induction is generalizing s h with
  | nil => rfl
  | cons i is ih =>
    rw [execMeets, Bool.and_eq_true]
    refine ⟨rfl, ?_⟩
    split
    · exact ih
    · rfl

/-- The list of inputs is executed without a fault, and its end has a property. -/
def execEnds (m : Machine σ ι ε φ) (p : σ → List ε → Prop) [∀ s h, Decidable (p s h)] (s : σ)
    (h : List ε) (is : List ι) : Bool :=
  match exec m s h is with
  | .ok (s', h') => decide (p s' h')
  | .error _ => false

/-- A run whose inputs meet the guard and whose end has a property, by evaluation. -/
theorem Run.exists_of_exec_of_meets [∀ s h i, Decidable (P s h i)] {p : σ → List ε → Prop}
    [∀ s h, Decidable (p s h)] (is : List ι) (hmeets : execMeets m P s h is = true)
    (hend : execEnds m p s h is = true) : ∃ s' h', Run m P s h s' h' ∧ p s' h' := by
  unfold execEnds at hend
  split at hend
  · rename_i s' h' hexec
    exact ⟨s', h', .of_exec_of_meets hmeets hexec, of_decide_eq_true hend⟩
  · cases hend

/-- A run whose end has a property that evaluation decides. -/
theorem Run.exists_of_exec {p : σ → List ε → Prop} [∀ s h, Decidable (p s h)] (is : List ι)
    (hend : execEnds m p s h is = true) : ∃ s' h', Run m Anything s h s' h' ∧ p s' h' :=
  Run.exists_of_exec_of_meets is (execMeets_anything is) hend

/-- Where an execution ends, if it does not fault. -/
def execState (m : Machine σ ι ε φ) (s : σ) (h : List ε) (is : List ι) : σ × List ε :=
  match exec m s h is with
  | .ok ret => ret
  | .error _ => (s, h)

/-- A run to the end of an execution. -/
theorem Run.of_execState [∀ s h i, Decidable (P s h i)] (is : List ι)
    (hmeets : execMeets m P s h is = true) (hok : (exec m s h is).isOk = true) :
    Run m P s h (execState m s h is).1 (execState m s h is).2 := by
  unfold execState
  split
  · rename_i ret hexec
    exact .of_exec_of_meets hmeets hexec
  · rename_i fault hexec
    rw [hexec] at hok
    cases hok

/-- An execution is a run under `P` when its inputs meet a guard that says the same
about them. -/
theorem Run.of_exec_of_imp {Q : Guard σ ι ε} [∀ s h i, Decidable (Q s h i)] {is : List ι}
    (himp : ∀ i ∈ is, ∀ s h, Q s h i → P s h i) (hmeets : execMeets m Q s h is = true)
    (hexec : exec m s h is = .ok (s', h')) : Run m P s h s' h' := by
  induction is generalizing s h with
  | nil =>
    cases hexec
    exact .refl
  | cons i is ih =>
    rw [execMeets, Bool.and_eq_true, decide_eq_true_eq] at hmeets
    obtain ⟨hguard, hrest⟩ := hmeets
    rw [exec] at hexec
    split at hexec
    · rename_i steps
      rw [steps] at hrest
      have hfirst := Run.single (himp i List.mem_cons_self s h hguard) steps
      exact hfirst.trans (ih (fun i hmem => himp i (List.mem_cons_of_mem _ hmem)) hrest hexec)
    · cases hexec

/-- A run whose inputs meet the guard wherever they arrive, and whose end has a
property. -/
theorem Run.exists_of_exec_of_forall {p : σ → List ε → Prop} [∀ s h, Decidable (p s h)]
    (is : List ι) (hmeets : ∀ i ∈ is, ∀ s h, P s h i) (hend : execEnds m p s h is = true) :
    ∃ s' h', Run m P s h s' h' ∧ p s' h' := by
  induction is generalizing s h with
  | nil => exact ⟨s, h, .refl, of_decide_eq_true hend⟩
  | cons i is ih =>
    unfold execEnds exec at hend
    split at hend
    · rename_i s' h' hexec
      split at hexec
      · rename_i s₁ es hstep
        have hrest : execEnds m p s₁ (es ++ h) is = true := by
          unfold execEnds
          rw [hexec]
          exact hend
        obtain ⟨s₂, h₂, hrun, hp⟩ :=
          ih (fun i hmem => hmeets i (List.mem_cons_of_mem _ hmem)) hrest
        exact ⟨s₂, h₂, (Run.single (hmeets i List.mem_cons_self s h) hstep).trans hrun, hp⟩
      · cases hexec
    · cases hend

end Execution

end StateMachine
