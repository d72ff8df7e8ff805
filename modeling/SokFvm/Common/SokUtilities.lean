import SokFvm.Library.BigEndian

/-!
# `sok/common/SokUtilities.hpp`

The serialisation templates, at the one type they are used with, `uint64_t`.
The encoders write the bytes of a number from the least significant one, each at
its place in a vector of the right length; the decoder shifts the bytes in from
the left and answers `0` for a vector that is too long.

All three encoders are `BigEndian.encode` at some width, up to a reversal, and
the decoder is `BigEndian.value` on vectors of at most eight bytes.  The round
trips below follow from the round trips of that library.
-/

namespace Sok.Common

/-- `std::vector<uint8_t>`. -/
abbrev ByteVector := List UInt8

/-- `static_cast<uint8_t>(num >> (i * 8))`, the byte that iteration `i` of each
encoder writes. -/
def byteAt (num : UInt64) (i : Nat) : UInt8 :=
  (num >>> UInt64.ofNat (i * 8)).toUInt8

/-- `UintToByteVector`: iteration `i` fills the entry `sizeof(T) - 1 - i`. -/
def uintToByteVector (num : UInt64) : ByteVector :=
  ((List.range 8).map (byteAt num)).reverse

/-- `UintToByteVectorLE`: iteration `i` fills the entry `i`. -/
def uintToByteVectorLE (num : UInt64) : ByteVector :=
  (List.range 8).map (byteAt num)

/-- `UintToByteVectorTrim`: the low `numBytes` bytes, and no byte at all when the
type has fewer. -/
def uintToByteVectorTrim (num : UInt64) (numBytes : Nat) : ByteVector :=
  if numBytes > 8 then [] else ((List.range numBytes).map (byteAt num)).reverse

/-- One iteration of `ByteVectorToUint`. -/
def shiftIn (result : UInt64) (byte : UInt8) : UInt64 :=
  (result <<< 8) + byte.toUInt64

/-- `ByteVectorToUint`: a vector longer than the type decodes to `0`. -/
def byteVectorToUint (bytes : ByteVector) : UInt64 :=
  if bytes.length > 8 then 0 else bytes.foldl shiftIn 0

/-! ## The encoders -/

theorem byteAt_eq (num : UInt64) {i : Nat} (hi : i < 8) :
    byteAt num i = UInt8.ofNat (num.toNat / 256 ^ i) := by
  have hshift : (UInt64.ofNat (i * 8)).toNat % 64 = 8 * i := by
    rw [UInt64.toNat_ofNat', Nat.mod_eq_of_lt (by omega), Nat.mod_eq_of_lt (by omega),
      Nat.mul_comm]
  rw [byteAt, ← UInt8.toNat_inj, UInt64.toNat_toUInt8, UInt64.toNat_shiftRight, hshift,
    Nat.shiftRight_eq_div_pow, Nat.pow_mul, UInt8.toNat_ofNat']

private theorem reverse_map_byteAt (num : UInt64) {n : Nat} (hn : n ≤ 8) :
    ((List.range n).map (byteAt num)).reverse = BigEndian.encode n num.toNat := by
  rw [BigEndian.encode, List.map_reverse]
  congr 1
  refine List.map_congr_left fun i hi => byteAt_eq num ?_
  have := List.mem_range.mp hi
  omega

theorem uintToByteVector_eq (num : UInt64) :
    uintToByteVector num = BigEndian.encode 8 num.toNat :=
  reverse_map_byteAt num (Nat.le_refl 8)

theorem uintToByteVectorTrim_eq (num : UInt64) {n : Nat} (hn : n ≤ 8) :
    uintToByteVectorTrim num n = BigEndian.encode n num.toNat := by
  rw [uintToByteVectorTrim, if_neg (by omega), reverse_map_byteAt num hn]

@[simp] theorem length_uintToByteVector (num : UInt64) : (uintToByteVector num).length = 8 := by
  rw [uintToByteVector_eq, BigEndian.length_encode]

theorem length_uintToByteVectorTrim (num : UInt64) {n : Nat} (hn : n ≤ 8) :
    (uintToByteVectorTrim num n).length = n := by
  rw [uintToByteVectorTrim_eq num hn, BigEndian.length_encode]

/-- What follows an encoded number does not change its first eight bytes. -/
@[simp] theorem take_uintToByteVector_append (num : UInt64) (suffix : ByteVector) :
    (uintToByteVector num ++ suffix).take 8 = uintToByteVector num :=
  List.take_left' (length_uintToByteVector num)

@[simp] theorem drop_uintToByteVector_append (num : UInt64) (suffix : ByteVector) :
    (uintToByteVector num ++ suffix).drop 8 = suffix :=
  List.drop_left' (length_uintToByteVector num)

/-! ## The decoder -/

private theorem toNat_shiftIn (result : UInt64) (byte : UInt8) :
    (shiftIn result byte).toNat = (result.toNat * 256 + byte.toNat) % 2 ^ 64 := by
  have hbyte := UInt8.toNat_lt byte
  rw [shiftIn, UInt64.toNat_add, UInt64.toNat_shiftLeft, UInt8.toNat_toUInt64,
    show (8 : UInt64).toNat % 64 = 8 from rfl, Nat.shiftLeft_eq, Nat.mod_add_mod]

private theorem toNat_foldl_shiftIn (bytes : ByteVector) (result : UInt64) :
    (bytes.foldl shiftIn result).toNat =
      (result.toNat * 256 ^ bytes.length + BigEndian.value bytes) % 2 ^ 64 := by
  induction bytes generalizing result with
  | nil =>
    have := UInt64.toNat_lt result
    simp [Nat.mod_eq_of_lt this]
  | cons b bs ih =>
    rw [List.foldl_cons, ih, toNat_shiftIn, BigEndian.value_cons, List.length_cons]
    have hmod : ((result.toNat * 256 + b.toNat) % 2 ^ 64 * 256 ^ bs.length) % 2 ^ 64 =
        ((result.toNat * 256 + b.toNat) * 256 ^ bs.length) % 2 ^ 64 :=
      Nat.mod_mul_mod _ _ _
    rw [Nat.add_mod, hmod, ← Nat.add_mod]
    congr 1
    rw [Nat.pow_succ']
    ring

/-- On at most eight bytes the decoder reads the big-endian number. -/
theorem toNat_byteVectorToUint {bytes : ByteVector} (hlength : bytes.length ≤ 8) :
    (byteVectorToUint bytes).toNat = BigEndian.value bytes := by
  have hlt : BigEndian.value bytes < 2 ^ 64 :=
    Nat.lt_of_lt_of_le (BigEndian.value_lt bytes)
      (Nat.pow_le_pow_right (n := 256) (by decide) hlength)
  rw [byteVectorToUint, if_neg (by omega), toNat_foldl_shiftIn,
    show (0 : UInt64).toNat = 0 from rfl, Nat.zero_mul, Nat.zero_add, Nat.mod_eq_of_lt hlt]

/-! ## Round trips -/

@[simp] theorem byteVectorToUint_uintToByteVector (num : UInt64) :
    byteVectorToUint (uintToByteVector num) = num := by
  have hlt : num.toNat < 256 ^ 8 := UInt64.toNat_lt num
  rw [← UInt64.toNat_inj, toNat_byteVectorToUint (by simp), uintToByteVector_eq,
    BigEndian.value_encode, Nat.mod_eq_of_lt hlt]

/-- The other way round a vector of at most eight bytes is filled up with zeros on
the left. -/
theorem uintToByteVector_byteVectorToUint {bytes : ByteVector} (hlength : bytes.length ≤ 8) :
    uintToByteVector (byteVectorToUint bytes) =
      List.replicate (8 - bytes.length) 0 ++ bytes := by
  rw [uintToByteVector_eq, toNat_byteVectorToUint hlength, BigEndian.encode_value hlength]

/-- A trimmed encoding keeps the low bytes of the number. -/
theorem toNat_byteVectorToUint_uintToByteVectorTrim (num : UInt64) {n : Nat} (hn : n ≤ 8) :
    (byteVectorToUint (uintToByteVectorTrim num n)).toNat = num.toNat % 256 ^ n := by
  rw [toNat_byteVectorToUint (by rw [length_uintToByteVectorTrim num hn]; exact hn),
    uintToByteVectorTrim_eq num hn, BigEndian.value_encode]

/-- Two numbers with the same eight bytes are equal. -/
theorem uintToByteVector_inj {x y : UInt64} :
    uintToByteVector x = uintToByteVector y ↔ x = y := by
  constructor
  · intro h
    rw [← byteVectorToUint_uintToByteVector x, h, byteVectorToUint_uintToByteVector]
  · rintro rfl
    rfl

/-- A byte in front of a seven-byte encoding fills the top byte of the number:
the decoder gives `256 ^ 7` times that byte plus the low seven bytes. -/
theorem toNat_byteVectorToUint_cons_trim (b : UInt8) (num : UInt64) :
    (byteVectorToUint (b :: uintToByteVectorTrim num 7)).toNat =
      b.toNat * 256 ^ 7 + num.toNat % 256 ^ 7 := by
  have hlength := length_uintToByteVectorTrim num (n := 7) (by decide)
  rw [toNat_byteVectorToUint (by rw [List.length_cons, hlength]), BigEndian.value_cons, hlength,
    uintToByteVectorTrim_eq num (by decide), BigEndian.value_encode]

/-- A number of seven bytes comes back behind a zero byte. -/
theorem byteVectorToUint_zero_cons_trim {num : UInt64} (hlt : num.toNat < 2 ^ 56) :
    byteVectorToUint (0 :: uintToByteVectorTrim num 7) = num := by
  have hmod : num.toNat % 256 ^ 7 = num.toNat := Nat.mod_eq_of_lt hlt
  rw [← UInt64.toNat_inj, toNat_byteVectorToUint_cons_trim, hmod]
  simp

end Sok.Common
