import SokFvm.Library.Run

/-!
# Isolation

Part of a machine is isolated from the rest when nobody who sees that part alone
can tell what goes on in the rest.  The statement is about two executions.  The
two machines agree about the part at the start, and their inputs are the same up
to inputs that are hidden, because they are about the rest.  Then the machines
agree at the end, and the visible events of the two executions are the same.

What has to be shown of a machine is `Unwinding`, which is about single steps: a
hidden input leaves the part alone and has no visible event, and on the same input
two machines that agree make the same visible events and agree afterwards.
`SameInputs.unwind` is the induction over the two lists.

The two executions need not have the same length, and the relation of the inputs
need not be equality: an input may itself carry things that are about the rest.
-/

namespace StateMachine

variable {σ ι ε φ : Type*}

/-- Two lists of inputs that are the same up to inputs that are hidden. -/
inductive SameInputs (hidden : ι → Prop) (same : ι → ι → Prop) : List ι → List ι → Prop
  | nil : SameInputs hidden same [] []
  | left {i : ι} {is js : List ι} (hides : hidden i) (rest : SameInputs hidden same is js) :
      SameInputs hidden same (i :: is) js
  | right {j : ι} {is js : List ι} (hides : hidden j) (rest : SameInputs hidden same is js) :
      SameInputs hidden same is (j :: js)
  | both {i j : ι} {is js : List ι} (meets : same i j) (rest : SameInputs hidden same is js) :
      SameInputs hidden same (i :: is) (j :: js)

variable {hidden : ι → Prop} {same : ι → ι → Prop} {is js : List ι}

/-- Inputs are hidden when they do not meet a predicate, and the others are equal. -/
theorem SameInputs.of_filter_eq {p : ι → Prop} [DecidablePred p]
    (hsame : is.filter p = js.filter p) :
    SameInputs (fun i => ¬ p i) (fun i j => i = j ∧ p i) is js := by
  induction is generalizing js with
  | nil =>
    induction js with
    | nil => exact .nil
    | cons j js ih =>
      have hnone := List.filter_eq_nil_iff.mp hsame.symm
      have hhidden : ¬ p j := by simpa using hnone j List.mem_cons_self
      refine .right hhidden (ih ?_)
      rw [hsame, List.filter_cons_of_neg (by simpa using hhidden)]
  | cons i is ih =>
    by_cases hvisible : p i
    · rw [List.filter_cons_of_pos (by simpa using hvisible)] at hsame
      induction js with
      | nil => cases hsame
      | cons j js ihj =>
        by_cases hvisible' : p j
        · rw [List.filter_cons_of_pos (by simpa using hvisible')] at hsame
          obtain ⟨heq, hrest⟩ := List.cons.inj hsame
          exact .both ⟨heq, hvisible⟩ (ih hrest)
        · rw [List.filter_cons_of_neg (by simpa using hvisible')] at hsame
          exact .right hvisible' (ihj hsame)
    · rw [List.filter_cons_of_neg (by simpa using hvisible)] at hsame
      exact .left hvisible (ih hsame)

theorem SameInputs.replicate {i j : ι} (meets : same i j) (n : Nat) :
    SameInputs hidden same (List.replicate n i) (List.replicate n j) := by
  induction n with
  | zero => exact .nil
  | succ n ih => exact .both meets ih

/-- What single steps have to do for the part about which machines agree. -/
structure Unwinding (m : Machine σ ι ε φ) (agree : σ → σ → Prop) (hidden : ι → Prop)
    (same : ι → ι → Prop) (visible : ε → Bool) : Prop where
  symm : ∀ {s t : σ}, agree s t → agree t s
  /-- A hidden input leaves the part alone. -/
  silent : ∀ {s t : σ} {i : ι} {s' : σ} {es : List ε}, agree s t → hidden i →
    m s i = .ok (s', es) → agree s' t ∧ es.filter visible = []
  /-- The same input does the same to the part. -/
  consistent : ∀ {s t : σ} {i j : ι} {s' t' : σ} {es fs : List ε}, agree s t → same i j →
    m s i = .ok (s', es) → m t j = .ok (t', fs) →
    agree s' t' ∧ es.filter visible = fs.filter visible

variable {m : Machine σ ι ε φ} {agree : σ → σ → Prop} {visible : ε → Bool}

/-- The first step of an execution that does not fault. -/
theorem exec_cons {s s' : σ} {h h' : List ε} {i : ι} (hexec : exec m s h (i :: is) = .ok (s', h')) :
    ∃ s₁ es, m s i = .ok (s₁, es) ∧ exec m s₁ (es ++ h) is = .ok (s', h') := by
  rw [exec] at hexec
  split at hexec
  · rename_i s₁ es hstep
    exact ⟨s₁, es, hstep, hexec⟩
  · cases hexec

/-- The isolation rule. -/
theorem SameInputs.unwind {s s' t t' : σ} {h h' g g' : List ε}
    (hinputs : SameInputs hidden same is js) (hunwinding : Unwinding m agree hidden same visible)
    (hagree : agree s t) (hview : h.filter visible = g.filter visible)
    (hs : exec m s h is = .ok (s', h')) (ht : exec m t g js = .ok (t', g')) :
    agree s' t' ∧ h'.filter visible = g'.filter visible := by
  induction hinputs generalizing s t h g with
  | nil =>
    cases hs
    cases ht
    exact ⟨hagree, hview⟩
  | left hides _ ih =>
    obtain ⟨s₁, es, hstep, hrest⟩ := exec_cons hs
    obtain ⟨hagree', hnone⟩ := hunwinding.silent hagree hides hstep
    refine ih hagree' ?_ hrest ht
    rw [List.filter_append, hnone, List.nil_append]
    exact hview
  | right hides _ ih =>
    obtain ⟨t₁, es, hstep, hrest⟩ := exec_cons ht
    obtain ⟨hagree', hnone⟩ := hunwinding.silent (hunwinding.symm hagree) hides hstep
    refine ih (hunwinding.symm hagree') ?_ hs hrest
    rw [List.filter_append, hnone, List.nil_append]
    exact hview
  | both meets _ ih =>
    obtain ⟨s₁, es, hstep, hrest⟩ := exec_cons hs
    obtain ⟨t₁, fs, hstep', hrest'⟩ := exec_cons ht
    obtain ⟨hagree', hsame⟩ := hunwinding.consistent hagree meets hstep hstep'
    refine ih hagree' ?_ hrest hrest'
    rw [List.filter_append, List.filter_append, hsame, hview]

/-- An execution whose end has a property that evaluation decides. -/
theorem exists_of_execEnds {p : σ → List ε → Prop} [∀ s h, Decidable (p s h)] {s : σ}
    {h : List ε} (hend : execEnds m p s h is = true) :
    ∃ s' h', exec m s h is = .ok (s', h') ∧ p s' h' := by
  unfold execEnds at hend
  split at hend
  · rename_i s' h' hexec
    exact ⟨s', h', hexec, of_decide_eq_true hend⟩
  · cases hend

end StateMachine
