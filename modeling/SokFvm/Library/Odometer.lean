import SokFvm.Library.BigEndian

/-!
# A byte odometer

An odometer is a row of byte wheels.  A turn moves the last wheel by one, and a
wheel takes its left neighbour along when it leaves the byte `t`.  With
`t = 255` this is the big-endian successor.  A program that tests the old byte
against another `t` walks through the byte lists in another order, and this
module shows that nothing else changes: up to a shift of every wheel by `t + 1`,
a turn is the big-endian successor whatever `t` is.

`rank` is the position of a row in that order.  `rank_turn` says that a turn
adds one to it, modulo `256 ^ n` for a row of `n` wheels.  This gives the full
period, `turn_iterate_inj`: fewer than `256 ^ n` turns never lead back to the same
row.
`visited` lists the rows that turns lead through, and `visited_distinct` is the
full period for that list.

Whether an odometer also counts is another matter.  `turn_eq_turn_iff` says on which rows
two odometers make the same turn, and `turn_zero_iterate_eq_iff` after how many turns the
one that carries at `0` shows the number of its turns.
-/

namespace Odometer

/-- Turn a row that is listed from its last wheel to its first: move the first
entry by one and carry on when it leaves `t`. -/
def turnReversed (t : UInt8) : List UInt8 → List UInt8
  | [] => []
  | b :: bs => (b + 1) :: if b = t then turnReversed t bs else bs

/-- Turn a row of wheels by one. -/
def turn (t : UInt8) (row : List UInt8) : List UInt8 :=
  (turnReversed t row.reverse).reverse

/-- The position of a row in the order in which turns visit the rows. -/
def rank (t : UInt8) (row : List UInt8) : Nat :=
  BigEndian.value (row.map (· - (t + 1)))

theorem length_turnReversed (t : UInt8) (wheels : List UInt8) :
    (turnReversed t wheels).length = wheels.length := by
  induction wheels with
  | nil => rfl
  | cons b bs ih =>
    simp only [turnReversed, List.length_cons]
    split
    · rw [ih]
    · rfl

@[simp] theorem length_turn (t : UInt8) (row : List UInt8) :
    (turn t row).length = row.length := by
  rw [turn, List.length_reverse, length_turnReversed, List.length_reverse]

theorem rank_lt (t : UInt8) (row : List UInt8) : rank t row < 256 ^ row.length := by
  have h := BigEndian.value_lt (row.map (· - (t + 1)))
  rw [List.length_map] at h
  exact h

theorem rank_concat (t : UInt8) (row : List UInt8) (b : UInt8) :
    rank t (row ++ [b]) = 256 * rank t row + (b - (t + 1)).toNat := by
  rw [rank, List.map_append, List.map_singleton, BigEndian.value_concat]
  rfl

/-- The shifted wheel that leaves `t` is the shifted wheel that leaves `255`. -/
private theorem shifted_eq_255_iff (t b : UInt8) : (b - (t + 1)).toNat = 255 ↔ b = t := by
  rw [← UInt8.toNat_inj]
  have ht := UInt8.toNat_lt t
  have hb := UInt8.toNat_lt b
  simp only [UInt8.toNat_sub, UInt8.toNat_add, UInt8.reduceToNat]
  omega

private theorem shifted_succ (t b : UInt8) :
    (b + 1 - (t + 1)).toNat = ((b - (t + 1)).toNat + 1) % 256 := by
  have ht := UInt8.toNat_lt t
  have hb := UInt8.toNat_lt b
  simp only [UInt8.toNat_sub, UInt8.toNat_add, UInt8.reduceToNat]
  omega

private theorem rank_turnReversed (t : UInt8) (wheels : List UInt8) :
    rank t (turnReversed t wheels).reverse =
      (rank t wheels.reverse + 1) % 256 ^ wheels.length := by
  induction wheels with
  | nil => exact (Nat.mod_one _).symm
  | cons b bs ih =>
    have hlt := rank_lt t bs.reverse
    rw [List.length_reverse] at hlt
    have hbyte := UInt8.toNat_lt (b - (t + 1))
    simp only [turnReversed, List.reverse_cons, rank_concat, List.length_cons, Nat.pow_succ]
    rw [shifted_succ]
    by_cases hb : b = t
    · -- the wheel leaves `t`: its shifted byte wraps and the rest of the row turns
      rw [if_pos hb, ih, (shifted_eq_255_iff t b).mpr hb]
      rw [show 256 * rank t bs.reverse + 255 + 1 = 256 * (rank t bs.reverse + 1) by ring,
        Nat.mul_comm (256 ^ bs.length) 256, Nat.mul_mod_mul_left]
      rfl
    · rw [if_neg hb]
      have hne : (b - (t + 1)).toNat ≠ 255 := fun h => hb ((shifted_eq_255_iff t b).mp h)
      have hsmall : (b - (t + 1)).toNat + 1 < 256 := by omega
      rw [Nat.mod_eq_of_lt hsmall, Nat.mod_eq_of_lt (by omega), Nat.add_assoc]

/-- A turn moves a row one position on. -/
theorem rank_turn (t : UInt8) (row : List UInt8) :
    rank t (turn t row) = (rank t row + 1) % 256 ^ row.length := by
  have h := rank_turnReversed t row.reverse
  rw [List.reverse_reverse, List.length_reverse] at h
  exact h

/-- A turn leaves no row as it is, except the one without wheels. -/
theorem turn_eq_self_iff (t : UInt8) (row : List UInt8) : turn t row = row ↔ row = [] := by
  constructor
  · intro hself
    have hrank := rank_turn t row
    have hlt := rank_lt t row
    rw [hself] at hrank
    have hone : 256 ^ row.length = 1 := by
      by_cases hlast : rank t row + 1 < 256 ^ row.length
      · rw [Nat.mod_eq_of_lt hlast] at hrank
        omega
      · have hfull : rank t row + 1 = 256 ^ row.length := by omega
        rw [hfull, Nat.mod_self] at hrank
        omega
    have hlength : row.length = 0 := by
      by_contra hwheels
      have hbig := Nat.one_lt_pow (a := 256) hwheels (by decide)
      omega
    exact List.eq_nil_of_length_eq_zero hlength
  · intro hnil
    rw [hnil]
    rfl

@[simp] theorem length_turn_iterate (t : UInt8) (row : List UInt8) (k : Nat) :
    ((turn t)^[k] row).length = row.length := by
  induction k with
  | zero => rfl
  | succ k ih => rw [Function.iterate_succ_apply', length_turn, ih]

/-- After `k` turns a row is `k` positions on. -/
theorem rank_turn_iterate (t : UInt8) (row : List UInt8) (k : Nat) :
    rank t ((turn t)^[k] row) = (rank t row + k) % 256 ^ row.length := by
  induction k with
  | zero => exact (Nat.mod_eq_of_lt (rank_lt t row)).symm
  | succ k ih =>
    rw [Function.iterate_succ_apply', rank_turn, length_turn_iterate, ih, Nat.mod_add_mod,
      Nat.add_assoc]

/-- Full period: two numbers of turns that lead to one row differ by a multiple
of `256 ^ n`. -/
theorem turn_iterate_inj {t : UInt8} {row : List UInt8} {j k : Nat} (hjk : j ≤ k)
    (hnear : k < j + 256 ^ row.length) (heq : (turn t)^[j] row = (turn t)^[k] row) :
    j = k := by
  have h := congrArg (rank t) heq
  rw [rank_turn_iterate, rank_turn_iterate] at h
  have hmod : (rank t row + k - (rank t row + j)) % 256 ^ row.length = 0 :=
    Nat.sub_mod_eq_zero_of_mod_eq h.symm
  rw [Nat.mod_eq_of_lt (by omega)] at hmod
  omega

/-! ## The rows that turns visit -/

/-- The rows after each of `k` turns, the newest first. -/
def visited (t : UInt8) (row : List UInt8) (k : Nat) : List (List UInt8) :=
  (List.range k).reverse.map fun i => (turn t)^[i + 1] row

theorem visited_succ (t : UInt8) (row : List UInt8) (k : Nat) :
    visited t row (k + 1) = (turn t)^[k + 1] row :: visited t row k := by
  simp [visited, List.range_succ]

@[simp] theorem length_visited (t : UInt8) (row : List UInt8) (k : Nat) :
    (visited t row k).length = k := by
  simp [visited]

theorem getElem?_visited {t : UInt8} {row : List UInt8} {k i : Nat} (hi : i < k) :
    (visited t row k)[i]? = some ((turn t)^[k - i] row) := by
  have hlt : i < ((List.range k).reverse).length := by simpa using hi
  rw [visited, List.getElem?_map, List.getElem?_eq_getElem hlt, List.getElem_reverse,
    List.getElem_range, List.length_range, Option.map_some]
  congr 2
  omega

/-- Among any `256 ^ n` consecutive visits no row occurs twice. -/
theorem visited_distinct {t : UInt8} {row xs : List UInt8} {k i j : Nat} (hij : i < j)
    (hnear : j < i + 256 ^ row.length) (hi : (visited t row k)[i]? = some xs) :
    (visited t row k)[j]? ≠ some xs := by
  intro hj
  obtain ⟨hjk, -⟩ := List.getElem?_eq_some_iff.mp hj
  rw [length_visited] at hjk
  rw [getElem?_visited (by omega)] at hi
  rw [getElem?_visited hjk] at hj
  have heq : (turn t)^[k - j] row = (turn t)^[k - i] row :=
    Option.some.inj (hj.trans hi.symm)
  have hsame := turn_iterate_inj (by omega) (by omega) heq
  omega

/-- The rows of a list follow each other, one turn apart, from the row before it
to the row at its end. -/
def Consecutive (t : UInt8) : List UInt8 → List (List UInt8) → List UInt8 → Prop
  | row, [], last => row = last
  | row, next :: rows, last => next = turn t row ∧ Consecutive t next rows last

/-- Consecutive rows are continued by a turn of the last one. -/
theorem Consecutive.concat {t : UInt8} {rows : List (List UInt8)} {row last : List UInt8}
    (hrows : Consecutive t row rows last) :
    Consecutive t row (rows ++ [turn t last]) (turn t last) := by
  induction rows generalizing row with
  | nil =>
    obtain rfl : row = last := hrows
    exact ⟨rfl, rfl⟩
  | cons next rows ih => exact ⟨hrows.1, ih hrows.2⟩

/-! ## Two odometers on one row -/

/-- The last wheel turns, and takes the others along when it leaves `t`. -/
theorem turn_concat (t : UInt8) (row : List UInt8) (b : UInt8) :
    turn t (row ++ [b]) = (if b = t then turn t row else row) ++ [b + 1] := by
  rw [turn, List.reverse_append, List.reverse_singleton, List.singleton_append, turnReversed,
    List.reverse_cons]
  split
  · rfl
  · rw [List.reverse_reverse]

/-- Odometers that carry at different bytes agree on a row of one wheel, and where neither
of them carries. -/
theorem turn_eq_turn_iff {t u : UInt8} (hne : t ≠ u) (row : List UInt8) (b : UInt8) :
    turn t (row ++ [b]) = turn u (row ++ [b]) ↔ row = [] ∨ (b ≠ t ∧ b ≠ u) := by
  rw [turn_concat, turn_concat, List.append_left_inj]
  by_cases ht : b = t
  · have hu : b ≠ u := fun hbu => hne (ht.symm.trans hbu)
    rw [if_pos ht, if_neg hu, turn_eq_self_iff]
    constructor
    · intro hnil
      exact Or.inl hnil
    · rintro (hnil | hneither)
      · exact hnil
      · exact absurd ht hneither.1
  · rw [if_neg ht]
    by_cases hu : b = u
    · rw [if_pos hu, eq_comm, turn_eq_self_iff]
      constructor
      · intro hnil
        exact Or.inl hnil
      · rintro (hnil | hneither)
        · exact hnil
        · exact absurd hu hneither.2
    · rw [if_neg hu]
      exact ⟨fun _ => Or.inr ⟨ht, hu⟩, fun _ => rfl⟩

/-! ## The row at a position -/

/-- A row is read off its position. -/
theorem eq_encode_rank (t : UInt8) (row : List UInt8) :
    row = (BigEndian.encode row.length (rank t row)).map (· + (t + 1)) := by
  have hshifted : BigEndian.encode row.length (rank t row) = row.map (· - (t + 1)) := by
    have hencode := BigEndian.encode_value
      (show (row.map (· - (t + 1))).length ≤ row.length by rw [List.length_map])
    rw [List.length_map, Nat.sub_self] at hencode
    exact hencode
  rw [hshifted, List.map_map]
  symm
  apply List.map_id''
  intro b
  exact UInt8.sub_add_cancel b (t + 1)

/-- The row after `k` turns. -/
theorem turn_iterate_eq (t : UInt8) (row : List UInt8) (k : Nat) :
    (turn t)^[k] row =
      (BigEndian.encode row.length (rank t row + k)).map (· + (t + 1)) := by
  have hrow := eq_encode_rank t ((turn t)^[k] row)
  rw [length_turn_iterate, rank_turn_iterate, BigEndian.encode_mod] at hrow
  exact hrow

/-- Carrying at `255` is counting. -/
theorem turn_255_eq (row : List UInt8) :
    turn 255 row =
      BigEndian.encode row.length ((BigEndian.value row + 1) % 256 ^ row.length) := by
  have hback : ∀ bytes : List UInt8, bytes.map (· - (255 + 1)) = bytes := fun bytes =>
    List.map_id'' (fun b => UInt8.sub_zero b) bytes
  have hforth : ∀ bytes : List UInt8, bytes.map (· + (255 + 1)) = bytes := fun bytes =>
    List.map_id'' (fun b => UInt8.add_zero b) bytes
  have hrank : rank 255 row = BigEndian.value row := by rw [rank, hback]
  have hrow := turn_iterate_eq 255 row 1
  rw [hrank, hforth] at hrow
  rw [BigEndian.encode_mod]
  exact hrow

/-- The row of wheels that all carry next is the last one. -/
theorem rank_replicate (t : UInt8) (n : Nat) : rank t (List.replicate n t) = 256 ^ n - 1 := by
  induction n with
  | zero => rfl
  | succ n ih =>
    have hlast : (t - (t + 1)).toNat = 255 := (shifted_eq_255_iff t t).mpr rfl
    have hpos : 0 < 256 ^ n := Nat.pow_pos (by decide)
    rw [List.replicate_succ', rank_concat, ih, hlast, Nat.pow_succ]
    omega

/-! ## Carrying at zero -/

/-- No row is left as it is when every wheel is moved. -/
theorem map_succ_eq_self_iff (row : List UInt8) : row.map (· + 1) = row ↔ row = [] := by
  cases row with
  | nil => simp
  | cons b bs =>
    constructor
    · intro hself
      have hb : b + 1 = b := (List.cons.inj hself).1
      simp at hb
    · intro hnil
      cases hnil

/-- The bytes of the number before `k`, each moved by one, are the bytes of `k` if all
bytes of `k` but the first are zero. -/
theorem map_succ_encode_iff (n k : Nat) :
    (BigEndian.encode n (k + 256 ^ n - 1)).map (· + 1) = BigEndian.encode n k ↔
      256 ^ (n - 1) ∣ k := by
  induction n generalizing k with
  | zero => exact ⟨fun _ => Nat.one_dvd k, fun _ => rfl⟩
  | succ n ih =>
    have hpos : 0 < 256 ^ n := Nat.pow_pos (by decide)
    have hpow : 256 ^ (n + 1) = 256 * 256 ^ n := Nat.pow_succ'
    have hlast : UInt8.ofNat (k + 256 ^ (n + 1) - 1) + 1 = UInt8.ofNat k := by
      rw [← UInt8.toNat_inj, UInt8.toNat_add, UInt8.toNat_ofNat', UInt8.toNat_ofNat']
      show ((k + 256 ^ (n + 1) - 1) % 256 + 1) % 256 = k % 256
      omega
    rw [BigEndian.encode_concat, BigEndian.encode_concat, List.map_append, List.map_singleton,
      hlast, List.append_left_inj, Nat.add_sub_cancel]
    by_cases hzero : k % 256 = 0
    · -- the last wheel has carried, and the others are one behind
      have hdiv : (k + 256 ^ (n + 1) - 1) / 256 = k / 256 + 256 ^ n - 1 := by omega
      rw [hdiv, ih]
      cases n with
      | zero => exact ⟨fun _ => Nat.one_dvd k, fun _ => Nat.one_dvd _⟩
      | succ n =>
        rw [Nat.dvd_div_iff_mul_dvd (Nat.dvd_of_mod_eq_zero hzero), Nat.add_sub_cancel,
          Nat.pow_succ']
    · have hdiv : (k + 256 ^ (n + 1) - 1) / 256 = k / 256 + 256 ^ n := by omega
      rw [hdiv, ← BigEndian.encode_mod n (k / 256 + 256 ^ n), Nat.add_mod_right,
        BigEndian.encode_mod, map_succ_eq_self_iff, ← List.length_eq_zero_iff,
        BigEndian.length_encode]
      constructor
      · intro hn
        rw [hn]
        exact Nat.one_dvd k
      · intro hdvd
        by_contra hn
        have hbyte : 256 ∣ 256 ^ n := dvd_pow_self 256 hn
        exact hzero (Nat.mod_eq_zero_of_dvd (hbyte.trans hdvd))

/-- From zero on, an odometer that carries at zero shows the number of its turns after
every `256 ^ (n - 1)` turns only. -/
theorem turn_zero_iterate_eq_iff (n k : Nat) :
    (turn 0)^[k] (List.replicate n 0) = BigEndian.encode n k ↔ 256 ^ (n - 1) ∣ k := by
  have hpos : 0 < 256 ^ n := Nat.pow_pos (by decide)
  have hbehind : 256 ^ n - 1 + k = k + 256 ^ n - 1 := by omega
  rw [turn_iterate_eq, List.length_replicate, rank_replicate, hbehind]
  exact map_succ_encode_iff n k

end Odometer
