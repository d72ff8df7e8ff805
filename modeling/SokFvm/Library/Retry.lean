import Mathlib.Data.List.Basic

/-!
# Retries

Something becomes due at certain ticks of a clock, `opens`, and from then on it is
attempted at every tick until an attempt succeeds.  `results` lists how the ticks went,
the oldest first.  It *waits* at a tick when it has become due and nothing has succeeded
since, `Waits`; it is *done* at a tick that succeeds while it waits, `Done`.

The lemmas say how both move on with one more tick, and that it is done only once for
each time that it becomes due.
-/

namespace Retry

/-- It has become due at the `n`-th tick or before, and nothing has succeeded since. -/
def Waits (opens : Nat → Prop) (results : List Bool) (n : Nat) : Prop :=
  ∃ m ≤ n, opens m ∧ ∀ j, m ≤ j → j < n → results[j]? = some false

/-- The `n`-th tick succeeds while it waits. -/
def Done (opens : Nat → Prop) (results : List Bool) (n : Nat) : Prop :=
  results[n]? = some true ∧ Waits opens results n

variable {opens : Nat → Prop} {results : List Bool} {result : Bool} {n n' : Nat}

theorem waits_zero : Waits opens [] 0 ↔ opens 0 := by
  constructor
  · rintro ⟨m, hle, hopens, -⟩
    rw [Nat.le_zero.mp hle] at hopens
    exact hopens
  · intro hopens
    exact ⟨0, Nat.le_refl 0, hopens, fun j _ hlt => absurd hlt (Nat.not_lt_zero j)⟩

/-- One more tick does not change what came before. -/
theorem waits_concat_of_le (hle : n ≤ results.length) :
    Waits opens (results ++ [result]) n ↔ Waits opens results n := by
  unfold Waits
  refine exists_congr fun m => and_congr_right fun _ => and_congr_right fun _ => ?_
  refine forall_congr' fun j => forall_congr' fun _ => forall_congr' fun hlt => ?_
  rw [List.getElem?_append_left (Nat.lt_of_lt_of_le hlt hle)]

/-- After a tick it waits because it becomes due, or because it was waiting and the tick
failed. -/
theorem waits_concat_succ : Waits opens (results ++ [result]) (results.length + 1) ↔
    opens (results.length + 1) ∨ Waits opens results results.length ∧ result = false := by
  have hlast : (results ++ [result])[results.length]? = some result := by simp
  constructor
  · rintro ⟨m, hle, hopens, hfailed⟩
    rcases Nat.lt_or_eq_of_le hle with hbefore | hnow
    · have hm : m ≤ results.length := Nat.le_of_lt_succ hbefore
      have hresult := hfailed results.length hm (Nat.lt_succ_self _)
      rw [hlast, Option.some_inj] at hresult
      refine Or.inr ⟨⟨m, hm, hopens, ?_⟩, hresult⟩
      intro j hj hlt
      rw [← hfailed j hj (Nat.lt_succ_of_lt hlt), List.getElem?_append_left hlt]
    · rw [hnow] at hopens
      exact Or.inl hopens
  · rintro (hopens | ⟨⟨m, hm, hopens, hfailed⟩, hresult⟩)
    · exact ⟨_, Nat.le_refl _, hopens, fun j hj hlt => absurd hlt (Nat.not_lt_of_le hj)⟩
    · refine ⟨m, Nat.le_succ_of_le hm, hopens, ?_⟩
      intro j hj hlt
      rcases Nat.lt_or_eq_of_le (Nat.le_of_lt_succ hlt) with hbefore | hnow
      · rw [List.getElem?_append_left hbefore]
        exact hfailed j hj hbefore
      · rw [hnow, hlast, hresult]

/-- When only what waits fails, the next tick may fail if it waits then. -/
theorem waits_concat_of_failed
    (hfailed : ∀ n, results[n]? = some false → Waits opens results n)
    (hlast : result = false → Waits opens results results.length)
    (hn : (results ++ [result])[n]? = some false) : Waits opens (results ++ [result]) n := by
  rcases Nat.lt_trichotomy n results.length with hbefore | hnow | hafter
  · rw [List.getElem?_append_left hbefore] at hn
    rw [waits_concat_of_le (Nat.le_of_lt hbefore)]
    exact hfailed n hn
  · subst hnow
    rw [waits_concat_of_le (Nat.le_refl _)]
    apply hlast
    simpa using hn
  · have hlength : (results ++ [result]).length ≤ n := by simp; omega
    rw [List.getElem?_eq_none hlength] at hn
    cases hn

theorem Done.lt_length (hdone : Done opens results n) : n < results.length := by
  obtain ⟨hlt, -⟩ := List.getElem?_eq_some_iff.mp hdone.1
  exact hlt

theorem done_concat_of_lt (hlt : n < results.length) :
    Done opens (results ++ [result]) n ↔ Done opens results n := by
  unfold Done
  rw [List.getElem?_append_left hlt, waits_concat_of_le (Nat.le_of_lt hlt)]

theorem done_concat_length : Done opens (results ++ [result]) results.length ↔
    result = true ∧ Waits opens results results.length := by
  unfold Done
  rw [waits_concat_of_le (Nat.le_refl _)]
  simp

/-- What is done at a tick later than `results` is done at the next one. -/
theorem done_concat_iff : Done opens (results ++ [result]) n ↔
    Done opens results n ∨
      n = results.length ∧ result = true ∧ Waits opens results results.length := by
  constructor
  · intro hdone
    have hlt := hdone.lt_length
    rw [List.length_append, List.length_singleton] at hlt
    rcases Nat.lt_or_eq_of_le (Nat.le_of_lt_succ hlt) with hbefore | hnow
    · exact Or.inl ((done_concat_of_lt hbefore).mp hdone)
    · rw [hnow] at hdone
      exact Or.inr ⟨hnow, done_concat_length.mp hdone⟩
  · rintro (hdone | ⟨rfl, hnow⟩)
    · exact (done_concat_of_lt hdone.lt_length).mpr hdone
    · exact done_concat_length.mpr hnow

/-- Between two ticks at which it is done it becomes due again. -/
theorem Done.opens_between (hdone : Done opens results n) (hdone' : Done opens results n')
    (hlt : n < n') : ∃ k, n < k ∧ k ≤ n' ∧ opens k := by
  obtain ⟨m, hle, hopens, hfailed⟩ := hdone'.2
  refine ⟨m, ?_, hle, hopens⟩
  by_contra hbefore
  have hfalse := hfailed n (Nat.le_of_not_lt hbefore) hlt
  rw [hdone.1] at hfalse
  cases hfalse

end Retry
