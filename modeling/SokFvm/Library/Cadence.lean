import Mathlib.Tactic.TypeStar

/-!
# Counters with a common cadence

A counter that is driven by ticks moves on once in `period` ticks.  Its reading
is the count and the ticks since the count last moved, the phase.

Two such counters that start together at phase zero show counts that are apart by
at most the number of periods between the ticks they have seen.  `count_le_succ`
is the case of one period: the two may have been started up to a period apart, and
one may be ahead of the other within a tick, and still neither is more than one
ahead.
-/

namespace Cadence

/-- What a counter shows. -/
structure Reading where
  count : Nat
  phase : Nat

/-- One tick. -/
def tick (period : Nat) (r : Reading) : Reading :=
  if r.phase + 1 = period then ⟨r.count + 1, 0⟩ else ⟨r.count, r.phase + 1⟩

/-- The reading `n` ticks after a counter showed zero at phase zero. -/
def after (period n : Nat) : Reading :=
  ⟨n / period, n % period⟩

variable {period n m : Nat}

theorem after_zero : after period 0 = ⟨0, 0⟩ := by
  simp [after]

theorem phase_after_lt (hperiod : 0 < period) : (after period n).phase < period :=
  Nat.mod_lt n hperiod

/-- The quotient and the remainder advance as the counter does. -/
theorem tick_after (hperiod : 0 < period) :
    tick period (after period n) = after period (n + 1) := by
  have hlt := Nat.mod_lt n hperiod
  unfold tick after
  dsimp only
  split
  · rename_i hlast
    have hsum : n + 1 = (n / period + 1) * period := by
      have hn := Nat.div_add_mod n period
      rw [Nat.add_mul, Nat.mul_comm (n / period)]
      omega
    rw [hsum, Nat.mul_div_cancel _ hperiod, Nat.mul_mod_left]
  · rename_i hinside
    have hsum : n + 1 = (n % period + 1) + period * (n / period) := by
      have hn := Nat.div_add_mod n period
      omega
    have hsmall : n % period + 1 < period := by omega
    rw [hsum, Nat.add_mul_div_left _ _ hperiod, Nat.add_mul_mod_self_left,
      Nat.div_eq_of_lt hsmall, Nat.mod_eq_of_lt hsmall, Nat.zero_add]

/-- A counter that has seen at most one period more is at most one ahead. -/
theorem count_le_succ (hperiod : 0 < period) (hle : n ≤ m + period) :
    (after period n).count ≤ (after period m).count + 1 := by
  have hdiv : (m + period) / period = m / period + 1 := Nat.add_div_right m hperiod
  show n / period ≤ m / period + 1
  rw [← hdiv]
  exact Nat.div_le_div_right hle

/-- The first `n` ticks see the phase zero once in each period that they begin. -/
theorem filter_range_phase (hperiod : 0 < period) (n : Nat) :
    (List.range n).filter (fun k => (after period k).phase = 0) =
      (List.range ((n + (period - 1)) / period)).map (period * ·) := by
  induction n with
  | zero =>
    have hnone : (0 + (period - 1)) / period = 0 := Nat.div_eq_of_lt (by omega)
    rw [hnone]
    rfl
  | succ n ih =>
    have hn := Nat.div_add_mod n period
    have hlt := Nat.mod_lt n hperiod
    rw [List.range_succ, List.filter_append, ih]
    by_cases hphase : n % period = 0
    · have hbegun : (n + (period - 1)) / period = n / period := by
        have hsum : n + (period - 1) = (period - 1) + period * (n / period) := by omega
        have hsmall : period - 1 < period := by omega
        rw [hsum, Nat.add_mul_div_left _ _ hperiod, Nat.div_eq_of_lt hsmall, Nat.zero_add]
      have hnext : (n + 1 + (period - 1)) / period = n / period + 1 := by
        have hsum : n + 1 + (period - 1) = n + period := by omega
        rw [hsum, Nat.add_div_right n hperiod]
      have hvalue : n = period * (n / period) := by omega
      have hfilter : [n].filter (fun k => (after period k).phase = 0) = [n] := by
        simp [after, hphase]
      rw [hfilter, hbegun, hnext, List.range_succ, List.map_append, List.map_singleton, ← hvalue]
    · have hbegun : (n + (period - 1)) / period = n / period + 1 := by
        have hsum : n + (period - 1) = (n % period - 1) + period * (n / period + 1) := by
          rw [Nat.mul_add]
          omega
        have hsmall : n % period - 1 < period := by omega
        rw [hsum, Nat.add_mul_div_left _ _ hperiod, Nat.div_eq_of_lt hsmall, Nat.zero_add]
      have hnext : (n + 1 + (period - 1)) / period = n / period + 1 := by
        have hsum : n + 1 + (period - 1) = n + period := by omega
        rw [hsum, Nat.add_div_right n hperiod]
      have hfilter : [n].filter (fun k => (after period k).phase = 0) = [] := by
        simp [after, hphase]
      rw [hfilter, List.append_nil, hbegun, hnext]

end Cadence
