import SokFvm.Library.Run

/-!
# Countdowns

A machine has ticks, and a tick ends in a good state or in a bad one.  `outage` counts
the bad ticks since the last good one.  To bound it one finds a rank: how many ticks
it can still take, at the most, until a tick is good, with zero for the states that
are good.  A bad tick has to lower the rank, or to start from a good state and leave
a rank below the bound, and nothing else may raise it.

These are conditions on single steps, `CountsDown`.  `Run.outage_le` is the result for
runs.  No fairness comes into it, because time is counted in ticks: what has to happen
between two ticks is the business of the guard of the run.

`Run.countP_add_le` is the same idea for the bad ticks of the whole run: there the rank
is a budget that a good tick does not fill up again.  `Run.settles` is the same idea for
what holds from some tick on.
-/

namespace StateMachine

variable {σ ι ε φ : Type*} {m : Machine σ ι ε φ} {P : Guard σ ι ε}
variable {tick : ε → Option Bool} {s s₀ : σ} {h : List ε}

/-- The bad ticks since the last good one. -/
def outage (tick : ε → Option Bool) (h : List ε) : Nat :=
  (since (fun e => tick e == some true) h).countP fun e => tick e == some false

/-- What a step does to the rank. `rank s h b` says that in `s`, after `h`, a tick is
good after `b` ticks at the most. -/
structure CountsDown (m : Machine σ ι ε φ) (P : Guard σ ι ε) (tick : ε → Option Bool)
    (rank : σ → List ε → Nat → Prop) (fresh : Nat) : Prop where
  step : ∀ {s h i s' es b}, rank s h b → P s h i → m s i = .ok (s', es) →
    (∃ b', rank s' (es ++ h) b' ∧ b' ≤ b ∧ (b' = 0 → b = 0) ∧ ∀ e ∈ es, tick e = none) ∨
      (∃ e, es = [e] ∧ tick e = some true ∧ rank s' (es ++ h) 0) ∨
      ∃ e b', es = [e] ∧ tick e = some false ∧ rank s' (es ++ h) b' ∧ 0 < b' ∧
        (b' < b ∨ b = 0 ∧ b' < fresh)

variable {es : List ε} {e : ε}

theorem outage_append_of_quiet (hquiet : ∀ e ∈ es, tick e = none) :
    outage tick (es ++ h) = outage tick h := by
  have hmark : ∀ e ∈ es, (tick e == some true) = false := by
    intro e hmem
    rw [hquiet e hmem]
    rfl
  unfold outage
  rw [since_append_of_not_mark hmark, List.countP_append, List.countP_eq_zero.mpr, Nat.zero_add]
  intro e hmem
  rw [hquiet e hmem]
  simp

theorem outage_cons_of_good (hgood : tick e = some true) : outage tick (e :: h) = 0 := by
  unfold outage
  rw [since_cons_of_mark (by rw [hgood]; rfl)]
  rfl

theorem outage_cons_of_bad (hbad : tick e = some false) :
    outage tick (e :: h) = outage tick h + 1 := by
  unfold outage
  rw [since_cons_of_not_mark (by rw [hbad]; rfl), List.countP_cons_of_pos (by rw [hbad]; rfl)]

/-- What the countdown keeps: the bad ticks and the ticks that are left, together. -/
structure Counted (tick : ε → Option Bool) (bound fresh b : Nat) (h : List ε) : Prop where
  outage_eq_zero : b = 0 → outage tick h = 0
  le : outage tick h + b ≤ max bound fresh
  le_fresh : (∃ e ∈ h, tick e = some true) → outage tick h + b ≤ fresh

variable {bound fresh b b' : Nat}

theorem Counted.quiet (hcounted : Counted tick bound fresh b h) (hle : b' ≤ b)
    (hzero : b' = 0 → b = 0) (hquiet : ∀ e ∈ es, tick e = none) :
    Counted tick bound fresh b' (es ++ h) := by
  refine ⟨?_, ?_, ?_⟩
  · intro hb'
    rw [outage_append_of_quiet hquiet]
    exact hcounted.outage_eq_zero (hzero hb')
  · have hsum := hcounted.le
    rw [outage_append_of_quiet hquiet]
    omega
  · rintro ⟨e, hmem, hgood⟩
    rw [outage_append_of_quiet hquiet]
    rcases List.mem_append.mp hmem with hnew | hold
    · rw [hquiet e hnew] at hgood
      cases hgood
    · have hsum := hcounted.le_fresh ⟨e, hold, hgood⟩
      omega

theorem Counted.good (hgood : tick e = some true) : Counted tick bound fresh 0 (e :: h) := by
  have hnone : outage tick (e :: h) = 0 := outage_cons_of_good hgood
  exact ⟨fun _ => hnone, by omega, fun _ => by omega⟩

theorem Counted.bad (hcounted : Counted tick bound fresh b h) (hbad : tick e = some false)
    (hpos : 0 < b') (hdown : b' < b ∨ b = 0 ∧ b' < fresh) :
    Counted tick bound fresh b' (e :: h) := by
  have hone : outage tick (e :: h) = outage tick h + 1 := outage_cons_of_bad hbad
  refine ⟨fun hb' => by omega, ?_, ?_⟩
  · have hsum := hcounted.le
    rcases hdown with hlower | ⟨hb, hfresh⟩
    · omega
    · have hnone := hcounted.outage_eq_zero hb
      omega
  · rintro ⟨e', hmem, hgood⟩
    rcases hdown with hlower | ⟨hb, hfresh⟩
    · rcases List.mem_cons.mp hmem with rfl | hold
      · rw [hbad] at hgood
        cases hgood
      · have hsum := hcounted.le_fresh ⟨e', hold, hgood⟩
        omega
    · have hnone := hcounted.outage_eq_zero hb
      omega

/-- The countdown rule: the bad ticks in a row and those that are left are bounded by
the rank at the start, and by that of a fresh outage once a tick was good. -/
theorem Run.outage_le {rank : σ → List ε → Nat → Prop} {b₀ : Nat} (run : Run m P s₀ [] s h)
    (counts : CountsDown m P tick rank fresh) (start : rank s₀ [] b₀) :
    ∃ b, rank s h b ∧ (b = 0 → outage tick h = 0) ∧ outage tick h + b ≤ max b₀ fresh ∧
      ((∃ e ∈ h, tick e = some true) → outage tick h + b ≤ fresh) := by
  have hcounted : ∃ b, rank s h b ∧ Counted tick b₀ fresh b h := by
    refine run.invariant (fun s h => ∃ b, rank s h b ∧ Counted tick b₀ fresh b h) ?_ ?_
    · refine ⟨b₀, start, fun _ => rfl, ?_, nofun⟩
      show 0 + b₀ ≤ max b₀ fresh
      omega
    · intro s h i s' es hinv hmeets hstep
      obtain ⟨b, hrank, hcounted⟩ := hinv
      rcases counts.step hrank hmeets hstep with ⟨b', hrank', hle, hzero, hquiet⟩ |
        ⟨e, hes, hgood, hrank'⟩ | ⟨e, b', hes, hbad, hrank', hpos, hdown⟩
      · exact ⟨b', hrank', hcounted.quiet hle hzero hquiet⟩
      · subst hes
        exact ⟨0, hrank', .good hgood⟩
      · subst hes
        exact ⟨b', hrank', hcounted.bad hbad hpos hdown⟩
  obtain ⟨b, hrank, hcounted⟩ := hcounted
  exact ⟨b, hrank, hcounted.outage_eq_zero, hcounted.le, hcounted.le_fresh⟩

/-! ## Budgets -/

/-- What a run counts comes out of the budget at the start, when every step pays for
what it counts and nothing raises the budget. -/
theorem Run.countP_add_le {budget : σ → List ε → Nat → Prop} {t₀ : Nat} {p : ε → Bool}
    (run : Run m P s₀ [] s h) (start : budget s₀ [] t₀)
    (pays : ∀ {s h i s' es t}, budget s h t → P s h i → m s i = .ok (s', es) →
      ∃ t', budget s' (es ++ h) t' ∧ es.countP p + t' ≤ t) :
    ∃ t, budget s h t ∧ h.countP p + t ≤ t₀ := by
  refine run.invariant (fun s h => ∃ t, budget s h t ∧ h.countP p + t ≤ t₀)
    ⟨t₀, start, by simp⟩ ?_
  intro s h i s' es ⟨t, hbudget, hle⟩ hmeets hstep
  obtain ⟨t', hbudget', hpaid⟩ := pays hbudget hmeets hstep
  refine ⟨t', hbudget', ?_⟩
  rw [List.countP_append]
  omega

/-! ## Settling -/

/-- A run has settled after as many ticks as the rank has at the start, when a tick lowers
the rank and nothing raises it. -/
theorem Run.settles {rank : σ → List ε → Nat → Prop} {b₀ : Nat} {p : ε → Bool}
    (run : Run m P s₀ [] s h) (start : rank s₀ [] b₀)
    (lowers : ∀ {s h i s' es b}, rank s h b → P s h i → m s i = .ok (s', es) →
      ∃ b', rank s' (es ++ h) b' ∧ (b' = 0 ∨ es.countP p + b' ≤ b)) (long : b₀ ≤ h.countP p) :
    rank s h 0 := by
  have hinv : ∃ b, rank s h b ∧ (b = 0 ∨ h.countP p + b ≤ b₀) := by
    refine run.invariant (fun s h => ∃ b, rank s h b ∧ (b = 0 ∨ h.countP p + b ≤ b₀))
      ⟨b₀, start, Or.inr (by simp)⟩ ?_
    intro s h i s' es ⟨b, hrank, hle⟩ hmeets hstep
    obtain ⟨b', hrank', hlower⟩ := lowers hrank hmeets hstep
    refine ⟨b', hrank', ?_⟩
    rw [List.countP_append]
    omega
  obtain ⟨b, hrank, hle⟩ := hinv
  have hzero : b = 0 := by omega
  rw [hzero] at hrank
  exact hrank

end StateMachine
