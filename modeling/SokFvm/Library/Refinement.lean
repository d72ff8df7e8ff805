import SokFvm.Library.Run

/-!
# Refinement

`Run.simulate` matches the runs of two machines through a function on states.  Where
the machines do not move in step, as when one of them does in many steps what the
other does in one, the states and the histories of the two have to be related, and
the relation says how far the first machine is with what the second has done already
or has still to do.

`Run.refine` is the rule for such a relation.
-/

namespace StateMachine

variable {σ τ ι κ ε ε' φ φ' : Type*} {m : Machine σ ι ε φ} {n : Machine τ κ ε' φ'}
variable {P : Guard σ ι ε} {Q : Guard τ κ ε'} {s s₀ : σ} {h h₀ : List ε}
variable {t t₀ : τ} {g g₀ : List ε'}

/-- The refinement rule.  If a relation holds at the start, and every step of `m` that
meets the guard is matched by a run of `n` to a state in which the relation holds
again, then every run of `m` is matched by a run of `n`. -/
theorem Run.refine (run : Run m P s₀ h₀ s h) (R : σ → List ε → τ → List ε' → Prop)
    (start : R s₀ h₀ t₀ g₀)
    (matched : ∀ s h t g i s' es, R s h t g → P s h i → m s i = .ok (s', es) →
      ∃ t' g', Run n Q t g t' g' ∧ R s' (es ++ h) t' g') :
    ∃ t g, Run n Q t₀ g₀ t g ∧ R s h t g := by
  induction run with
  | refl => exact ⟨t₀, g₀, .refl, start⟩
  | step _ meets steps ih =>
    obtain ⟨t, g, hrun, hrelated⟩ := ih
    obtain ⟨t', g', hrun', hrelated'⟩ := matched _ _ _ _ _ _ _ hrelated meets steps
    exact ⟨t', g', hrun.trans hrun', hrelated'⟩

end StateMachine
