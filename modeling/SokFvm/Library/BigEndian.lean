import Mathlib.Data.Nat.Digits.Defs

/-!
# Byte lists as big-endian numbers

`value` reads a byte list as a big-endian number and `encode n` writes the low
`n` bytes of a number, the most significant first.  Mathlib's `Nat.ofDigits` is
the little-endian reading of a digit list, so `value` is `Nat.ofDigits 256` of
the reversed list and inherits its bounds and its injectivity.

A program walks such a list from either end, and there is one equation for
each: `value_cons` peels the most significant byte, `value_concat` the least
significant one.  `value_encode` and `encode_value` are the two round trips; the
second fills the list up with zeros when the width is larger than its length.
-/

namespace BigEndian

/-- The number that a byte list stands for, most significant byte first. -/
def value (bytes : List UInt8) : Nat :=
  Nat.ofDigits 256 (bytes.reverse.map UInt8.toNat)

@[simp] theorem value_nil : value [] = 0 := rfl

/-- One more byte on the right is one more digit. -/
theorem value_concat (bytes : List UInt8) (b : UInt8) :
    value (bytes ++ [b]) = 256 * value bytes + b.toNat := by
  simp only [value, List.reverse_append, List.reverse_singleton, List.singleton_append,
    List.map_cons, Nat.ofDigits_cons]
  exact Nat.add_comm _ _

/-- The first byte is the most significant one. -/
theorem value_cons (b : UInt8) (bytes : List UInt8) :
    value (b :: bytes) = b.toNat * 256 ^ bytes.length + value bytes := by
  simp only [value, List.reverse_cons, List.map_append, List.map_cons, List.map_nil,
    Nat.ofDigits_append, Nat.ofDigits_singleton, List.length_map, List.length_reverse]
  rw [Nat.mul_comm, Nat.add_comm]

theorem value_lt (bytes : List UInt8) : value bytes < 256 ^ bytes.length := by
  have h := Nat.ofDigits_lt_base_pow_length (b := 256)
    (l := bytes.reverse.map UInt8.toNat) (by decide) (by
      intro d hd
      obtain ⟨b, -, rfl⟩ := List.mem_map.mp hd
      exact UInt8.toNat_lt b)
  rw [List.length_map, List.length_reverse] at h
  exact h

/-- Two byte lists of one length that stand for one number are equal. -/
theorem value_inj {xs ys : List UInt8} (hlength : xs.length = ys.length)
    (hvalue : value xs = value ys) : xs = ys := by
  induction xs generalizing ys with
  | nil => exact (List.length_eq_zero_iff.mp hlength.symm).symm
  | cons x xs ih =>
    obtain ⟨y, ys, rfl⟩ : ∃ y ys', ys = y :: ys' := by
      cases ys with
      | nil => cases hlength
      | cons y ys => exact ⟨y, ys, rfl⟩
    have hlen : xs.length = ys.length := Nat.succ.inj hlength
    have hxs := value_lt xs
    have hys := value_lt ys
    rw [value_cons, value_cons, ← hlen, Nat.mul_comm, Nat.mul_comm y.toNat] at hvalue
    rw [← hlen] at hys
    have hhead : x.toNat = y.toNat := by
      have h := congrArg (· / 256 ^ xs.length) hvalue
      simp only [Nat.mul_add_div (Nat.pow_pos (by decide : 0 < 256)),
        Nat.div_eq_of_lt hxs, Nat.div_eq_of_lt hys, Nat.add_zero] at h
      exact h
    rw [hhead] at hvalue
    have htail : value xs = value ys := Nat.add_left_cancel hvalue
    rw [UInt8.toNat_inj.mp hhead, ih hlen htail]

/-- The low `n` bytes of a number, most significant first. -/
def encode (n x : Nat) : List UInt8 :=
  (List.range n).reverse.map fun i => UInt8.ofNat (x / 256 ^ i)

@[simp] theorem length_encode (n x : Nat) : (encode n x).length = n := by
  simp [encode]

theorem encode_succ (n x : Nat) :
    encode (n + 1) x = UInt8.ofNat (x / 256 ^ n) :: encode n x := by
  simp [encode, List.range_succ]

/-- Reading an encoding gives the number back, up to the width. -/
theorem value_encode (n x : Nat) : value (encode n x) = x % 256 ^ n := by
  induction n with
  | zero => simp [encode, Nat.mod_one]
  | succ n ih =>
    have hbyte : (UInt8.ofNat (x / 256 ^ n)).toNat = x / 256 ^ n % 256 := UInt8.toNat_ofNat'
    rw [encode_succ, value_cons, length_encode, ih, hbyte, Nat.mod_pow_succ, Nat.mul_comm,
      Nat.add_comm]

/-- Leading zeros do not count. -/
@[simp] theorem value_replicate_zero_append (k : Nat) (bytes : List UInt8) :
    value (List.replicate k 0 ++ bytes) = value bytes := by
  induction k with
  | zero => rfl
  | succ k ih =>
    rw [List.replicate_succ, List.cons_append, value_cons, ih]
    simp

/-- Encoding what a byte list stands for gives the list back, behind the zeros that
the width asks for. -/
theorem encode_value {n : Nat} {bytes : List UInt8} (hlength : bytes.length ≤ n) :
    encode n (value bytes) = List.replicate (n - bytes.length) 0 ++ bytes := by
  have hlt : value bytes < 256 ^ n :=
    Nat.lt_of_lt_of_le (value_lt bytes) (Nat.pow_le_pow_right (by decide) hlength)
  apply value_inj
  · simp
    omega
  · rw [value_encode, value_replicate_zero_append, Nat.mod_eq_of_lt hlt]

/-- The width cuts a number off. -/
theorem encode_mod (n x : Nat) : encode n (x % 256 ^ n) = encode n x := by
  apply value_inj
  · rw [length_encode, length_encode]
  · rw [value_encode, value_encode, Nat.mod_mod]

/-- One more byte of width is one more byte on the right. -/
theorem encode_concat (n x : Nat) :
    encode (n + 1) x = encode n (x / 256) ++ [UInt8.ofNat x] := by
  induction n with
  | zero => simp [encode]
  | succ n ih =>
    rw [encode_succ, ih, encode_succ n (x / 256), Nat.div_div_eq_div_mul, Nat.pow_succ,
      Nat.mul_comm 256, List.cons_append]

end BigEndian
