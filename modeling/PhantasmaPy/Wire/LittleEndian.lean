import Mathlib.Data.List.Basic
import Mathlib.Data.List.DropRight
import Mathlib.Tactic.Ring
import Mathlib.Tactic.Linarith

/-! # Little-endian integers

Fixed-width little-endian integers over lists of bytes, unsigned and two's complement, with the
round trips in both directions.  Nothing here refers to a particular format.
-/

namespace PhantasmaPy.Wire

abbrev Bytes := List UInt8

/-! ## Unsigned integers -/

/-- The `width` low bytes of `n`, least significant first. -/
def natToLE : Nat → Nat → Bytes
  | 0, _ => []
  | width + 1, n => UInt8.ofNat n :: natToLE width (n / 256)

/-- The number that a little-endian byte string denotes. -/
def natOfLE : Bytes → Nat
  | [] => 0
  | b :: bs => b.toNat + 256 * natOfLE bs

@[simp] theorem natToLE_zero (n : Nat) : natToLE 0 n = [] := rfl

@[simp] theorem natOfLE_nil : natOfLE [] = 0 := rfl

@[simp] theorem length_natToLE (width n : Nat) : (natToLE width n).length = width := by
  induction width generalizing n with
  | zero => rfl
  | succ width ih => simp [natToLE, ih]

theorem natOfLE_lt (bs : Bytes) : natOfLE bs < 256 ^ bs.length := by
  induction bs with
  | nil => simp
  | cons b bs ih =>
    have byte := b.toNat_lt
    simp only [natOfLE, List.length_cons, Nat.pow_succ]
    omega

theorem natOfLE_natToLE_mod (width n : Nat) : natOfLE (natToLE width n) = n % 256 ^ width := by
  induction width generalizing n with
  | zero => simp [Nat.mod_one]
  | succ width ih =>
    have byte : (UInt8.ofNat n).toNat = n % 256 := by simp
    rw [natToLE, natOfLE, ih, byte, Nat.pow_succ, Nat.mul_comm (256 ^ width) 256, Nat.mod_mul]

theorem natOfLE_natToLE {width n : Nat} (bound : n < 256 ^ width) :
    natOfLE (natToLE width n) = n := by
  rw [natOfLE_natToLE_mod, Nat.mod_eq_of_lt bound]

theorem natToLE_natOfLE (bs : Bytes) : natToLE bs.length (natOfLE bs) = bs := by
  induction bs with
  | nil => rfl
  | cons b bs ih =>
    have byte := b.toNat_lt
    have quotient : (b.toNat + 256 * natOfLE bs) / 256 = natOfLE bs := by omega
    have remainder : UInt8.ofNat (b.toNat + 256 * natOfLE bs) = b := by
      apply UInt8.toNat_inj.mp
      simp only [UInt8.toNat_ofNat']
      omega
    simp only [List.length_cons, natToLE, natOfLE, quotient, remainder, ih]

theorem natOfLE_append (low high : Bytes) :
    natOfLE (low ++ high) = natOfLE low + 256 ^ low.length * natOfLE high := by
  induction low with
  | nil => simp
  | cons b low ih =>
    simp only [List.cons_append, natOfLE, ih, List.length_cons, Nat.pow_succ]
    ring

theorem natOfLE_replicate_zero (count : Nat) : natOfLE (List.replicate count 0) = 0 := by
  induction count with
  | zero => rfl
  | succ count ih => simp [List.replicate_succ, natOfLE, ih]

theorem natOfLE_replicate_255 (count : Nat) :
    natOfLE (List.replicate count 255) + 1 = 256 ^ count := by
  induction count with
  | zero => rfl
  | succ count ih =>
    simp only [List.replicate_succ, natOfLE, Nat.pow_succ]
    have byte : (255 : UInt8).toNat = 255 := rfl
    omega

/-! ## Two's complement -/

/-- The two's complement form of `v` in `width` bytes. -/
def intToLE (width : Nat) (v : Int) : Bytes := natToLE width (v % 256 ^ width).toNat

/-- The signed reading of a little-endian byte string. -/
def intOfLE (bs : Bytes) : Int :=
  if 2 * natOfLE bs < 256 ^ bs.length then natOfLE bs else natOfLE bs - 256 ^ bs.length

@[simp] theorem length_intToLE (width : Nat) (v : Int) : (intToLE width v).length = width :=
  length_natToLE _ _

theorem natOfLE_intToLE (width : Nat) (v : Int) :
    (natOfLE (intToLE width v) : Int) = v % 256 ^ width := by
  have positive : (0 : Int) < 256 ^ width := by positivity
  have nonneg := Int.emod_nonneg v positive.ne'
  have small := Int.emod_lt_of_pos v positive
  rw [intToLE, natOfLE_natToLE, Int.toNat_of_nonneg nonneg]
  zify
  rwa [Int.toNat_of_nonneg nonneg]

/-- The signed range of a `width`-byte integer. -/
def FitsSigned (width : Nat) (v : Int) : Prop := -256 ^ width ≤ 2 * v ∧ 2 * v < 256 ^ width

theorem intOfLE_intToLE {width : Nat} {v : Int} (fits : FitsSigned width v) :
    intOfLE (intToLE width v) = v := by
  obtain ⟨low, high⟩ := fits
  have value := natOfLE_intToLE width v
  have positive : (0 : Int) < 256 ^ width := by positivity
  rw [intOfLE, length_intToLE]
  rcases lt_or_ge v 0 with negative | nonneg
  · have wrapped : v % 256 ^ width = v + 256 ^ width := by
      rw [← Int.add_emod_right, Int.emod_eq_of_lt] <;> omega
    rw [if_neg]
    · omega
    · zify
      omega
  · have same : v % 256 ^ width = v := Int.emod_eq_of_lt nonneg (by omega)
    rw [if_pos]
    · omega
    · zify
      omega

theorem fitsSigned_intOfLE (bs : Bytes) : FitsSigned bs.length (intOfLE bs) := by
  have bound := natOfLE_lt bs
  zify at bound
  unfold FitsSigned intOfLE
  split
  next small => zify at small; omega
  next large => zify at large; omega

theorem intToLE_intOfLE (bs : Bytes) : intToLE bs.length (intOfLE bs) = bs := by
  have bound := natOfLE_lt bs
  have residue : (intOfLE bs % 256 ^ bs.length).toNat = natOfLE bs := by
    unfold intOfLE
    split
    · rw [Int.emod_eq_of_lt (by omega) (by exact_mod_cast bound)]
      simp
    · rw [Int.sub_emod_right, Int.emod_eq_of_lt (by omega) (by exact_mod_cast bound)]
      simp
  rw [intToLE, residue, natToLE_natOfLE]

/-- Little-endian byte strings of one length are determined by their signed reading. -/
theorem intOfLE_injective {xs ys : Bytes} (length : xs.length = ys.length)
    (value : intOfLE xs = intOfLE ys) : xs = ys := by
  rw [← intToLE_intOfLE xs, ← intToLE_intOfLE ys, length, value]

/-! ## Sign extension -/

/-- The byte that extends a two's complement form without changing its value. -/
def signFill (negative : Bool) : UInt8 := if negative then 0xFF else 0x00

/-- A property of bytes follows from its 256 instances. -/
theorem byte_cases {motive : UInt8 → Prop} (instances : ∀ n : Fin 256, motive (UInt8.ofNat n))
    (b : UInt8) : motive b := by
  have found := instances ⟨b.toNat, b.toNat_lt⟩
  rwa [UInt8.ofNat_toNat] at found

theorem byte_sign_iff (b : UInt8) : b &&& 0x80 ≠ 0 ↔ 128 ≤ b.toNat :=
  byte_cases (motive := fun b => b &&& 0x80 ≠ 0 ↔ 128 ≤ b.toNat) (by decide +kernel) b

/-- The sign is the top bit of the last byte. -/
theorem intOfLE_concat_neg {low : Bytes} {b : UInt8} : intOfLE (low ++ [b]) < 0 ↔ 128 ≤ b.toNat := by
  have bound := natOfLE_lt low
  have whole := natOfLE_lt (low ++ [b])
  have value : natOfLE (low ++ [b]) = natOfLE low + 256 ^ low.length * b.toNat := by
    rw [natOfLE_append]
    simp [natOfLE]
  unfold intOfLE
  simp only [List.length_append, List.length_singleton, pow_succ] at whole ⊢
  rw [value] at whole ⊢
  constructor
  · intro negative
    split at negative
    next => omega
    next large =>
      by_contra small
      have product : 256 ^ low.length * b.toNat ≤ 256 ^ low.length * 127 :=
        Nat.mul_le_mul_left _ (by omega)
      omega
  · intro large
    have product : 256 ^ low.length * 128 ≤ 256 ^ low.length * b.toNat :=
      Nat.mul_le_mul_left _ large
    rw [if_neg (by omega)]
    zify at whole
    push_cast
    omega

/-- Extending with fill bytes gives the unsigned reading, less the modulus when negative. -/
theorem intOfLE_append_fill (raw : Bytes) (negative : Bool) (count : Nat) :
    intOfLE (raw ++ List.replicate (count + 1) (signFill negative)) =
      natOfLE raw - if negative then 256 ^ raw.length else 0 := by
  have bound := natOfLE_lt raw
  have step : (256 : Nat) ^ raw.length ≤ 256 ^ raw.length * 256 ^ count :=
    Nat.le_mul_of_pos_right _ (by positivity)
  have modulus : (256 : Nat) ^ (raw.length + (count + 1)) = 256 ^ raw.length * 256 ^ count * 256 := by
    ring
  unfold intOfLE
  rw [natOfLE_append, List.length_append, List.length_replicate]
  -- zeros leave the unsigned value as it is, and bytes of ones take one modulus from it
  cases negative with
  | false =>
    simp only [signFill, Bool.false_eq_true, if_false, natOfLE_replicate_zero, Nat.mul_zero,
      Nat.add_zero, modulus]
    rw [if_pos (by omega)]
    simp
  | true =>
    have product : 256 ^ raw.length * natOfLE (List.replicate (count + 1) 255) + 256 ^ raw.length =
        256 ^ raw.length * 256 ^ count * 256 := by
      rw [← modulus, pow_add, ← natOfLE_replicate_255 (count + 1)]
      ring
    simp only [signFill, if_true]
    rw [if_neg (by omega)]
    zify at product modulus
    push_cast
    omega

theorem intOfLE_extend {raw : Bytes} {negative : Bool} (sign : negative = decide (intOfLE raw < 0))
    (count : Nat) : intOfLE (raw ++ List.replicate count (signFill negative)) = intOfLE raw := by
  cases count with
  | zero => simp
  | succ count =>
    rw [intOfLE_append_fill]
    have bound := natOfLE_lt raw
    zify at bound
    subst sign
    unfold intOfLE
    split
    next small => simp
    next large => simp [bound]

/-- The wider form of a value that fits fewer bytes is its sign extension. -/
theorem intToLE_extend {width : Nat} {v : Int} (fits : FitsSigned width v) (count : Nat) :
    intToLE (width + count) v =
      intToLE width v ++ List.replicate count (signFill (decide (v < 0))) := by
  have wider : FitsSigned (width + count) v := by
    have step : (256 : Int) ^ width ≤ 256 ^ width * 256 ^ count :=
      le_mul_of_one_le_right (by positivity) (one_le_pow₀ (by norm_num))
    unfold FitsSigned at fits ⊢
    rw [pow_add]
    omega
  apply intOfLE_injective
  · simp
  · rw [intOfLE_intToLE wider, intOfLE_extend, intOfLE_intToLE fits]
    rw [intOfLE_intToLE fits]

end PhantasmaPy.Wire
