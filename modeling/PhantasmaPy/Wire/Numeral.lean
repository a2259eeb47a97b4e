import Mathlib.Data.Nat.Digits.Lemmas
import Mathlib.Data.List.TakeWhile
import Mathlib.Tactic.Ring

/-! # Positional numerals

Digits with the most significant one first, in any base: the value of a digit sequence, the sequence without
leading zeros of a number, and that the two are inverse.
-/

namespace PhantasmaPy.Wire

/-- The test may differ where no element is. -/
theorem dropWhile_map {α β : Type} {f : α → β} {p : β → Bool} {q : α → Bool} {xs : List α}
    (same : ∀ x ∈ xs, p (f x) = q x) : (xs.map f).dropWhile p = (xs.dropWhile q).map f := by
  induction xs with
  | nil => rfl
  | cons x xs ih =>
    obtain ⟨head, tail⟩ := List.forall_mem_cons.mp same
    rw [List.map_cons, List.dropWhile_cons, List.dropWhile_cons, head]
    split
    next => exact ih tail
    next => rfl

namespace Numeral

/-- The value of a sequence of digits, as a loop from the left computes it. -/
def value (base : Nat) (digits : List Nat) : Nat := digits.foldl (fun n digit => base * n + digit) 0

/-- The digits of a number, without leading zeros; zero has none. -/
def ofNat (base n : Nat) : List Nat := (Nat.digits base n).reverse

variable {base : Nat} {digits : List Nat}

theorem value_eq_ofDigits (base : Nat) (digits : List Nat) :
    value base digits = Nat.ofDigits base digits.reverse := by
  unfold value
  induction digits using List.reverseRecOn with
  | nil => rfl
  | append_singleton digits digit ih =>
    rw [List.foldl_append, ih, List.reverse_append, List.reverse_singleton, List.singleton_append,
      Nat.ofDigits_cons]
    simp [add_comm]

@[simp] theorem value_ofNat (base n : Nat) : value base (ofNat base n) = n := by
  rw [value_eq_ofDigits, ofNat, List.reverse_reverse, Nat.ofDigits_digits]

/-- A sequence that does not start with a zero is the numeral of its value. -/
theorem ofNat_value (two : 1 < base) (small : ∀ digit ∈ digits, digit < base)
    (leading : digits.head? ≠ some 0) : ofNat base (value base digits) = digits := by
  have reversed : Nat.digits base (Nat.ofDigits base digits.reverse) = digits.reverse := by
    refine Nat.digits_ofDigits base two _ (fun digit member => small digit (List.mem_reverse.mp member)) ?_
    intro some last
    rw [List.getLast_reverse] at last
    exact leading (last ▸ List.head?_eq_some_head _)
  rw [value_eq_ofDigits, ofNat, reversed, List.reverse_reverse]

theorem value_leadingZeros (base count : Nat) (digits : List Nat) :
    value base (List.replicate count 0 ++ digits) = value base digits := by
  rw [value_eq_ofDigits, value_eq_ofDigits, List.reverse_append, List.reverse_replicate,
    Nat.ofDigits_append_replicate_zero]

theorem value_append (base : Nat) (front back : List Nat) :
    value base (front ++ back) = value base front * base ^ back.length + value base back := by
  rw [value_eq_ofDigits, value_eq_ofDigits, value_eq_ofDigits, List.reverse_append, Nat.ofDigits_append,
    List.length_reverse]
  ring

theorem value_zeros (base count : Nat) : value base (List.replicate count 0) = 0 := by
  have none := value_leadingZeros base count []
  rwa [List.append_nil] at none

/-- Zeros at the low end are powers of the base. -/
theorem value_trailingZeros (base count : Nat) (digits : List Nat) :
    value base (digits ++ List.replicate count 0) = value base digits * base ^ count := by
  rw [value_append, value_zeros, List.length_replicate, add_zero]

theorem ofNat_lt (two : 1 < base) {n digit : Nat} (member : digit ∈ ofNat base n) : digit < base :=
  Nat.digits_lt_base two (List.mem_reverse.mp member)

@[simp] theorem ofNat_zero (base : Nat) : ofNat base 0 = [] := by rw [ofNat, Nat.digits_zero]; rfl

theorem ofNat_ne_nil {n : Nat} (nonzero : n ≠ 0) : ofNat base n ≠ [] := by
  rw [ofNat, Ne, List.reverse_eq_nil_iff]
  exact Nat.digits_ne_nil_iff_ne_zero.mpr nonzero

theorem head?_ofNat (base n : Nat) : (ofNat base n).head? ≠ some 0 := by
  by_cases zero : n = 0
  · simp [zero]
  · rw [ofNat, List.head?_reverse, List.getLast?_eq_some_getLast (Nat.digits_ne_nil_iff_ne_zero.mpr zero)]
    exact fun same => Nat.getLast_digit_ne_zero base zero (Option.some.inj same)

/-- One more digit at the low end. -/
theorem ofNat_step (two : 1 < base) {n : Nat} (nonzero : n ≠ 0) :
    ofNat base n = ofNat base (n / base) ++ [n % base] := by
  rw [ofNat, ofNat, Nat.digits_eq_cons_digits_div two nonzero, List.reverse_cons]

/-- The numerals of a base are shorter than `width` exactly below its power. -/
theorem length_ofNat_le (two : 1 < base) {n width : Nat} :
    (ofNat base n).length ≤ width ↔ n < base ^ width := by
  rw [ofNat, List.length_reverse, Nat.digits_length_le_iff two]

/-! ## Printed numerals -/

/-- The digits of a number, at least one. -/
def printed (base n : Nat) : List Nat := if n = 0 then [0] else ofNat base n

theorem printed_lt (two : 1 < base) (n : Nat) : ∀ digit ∈ printed base n, digit < base := by
  unfold printed
  split
  next => simpa using lt_trans one_pos two
  next => exact fun digit member => ofNat_lt two member

theorem printed_ne_nil (base n : Nat) : printed base n ≠ [] := by
  unfold printed
  split
  next => simp
  next nonzero => exact ofNat_ne_nil nonzero

theorem length_printed_le (two : 1 < base) {n width : Nat} (positive : 0 < width) :
    (printed base n).length ≤ width ↔ n < base ^ width := by
  unfold printed
  split
  next zero => exact iff_of_true positive (zero ▸ Nat.pow_pos (by omega))
  next => exact length_ofNat_le two

@[simp] theorem value_printed (base n : Nat) : value base (printed base n) = n := by
  unfold printed
  split
  next zero => exact zero.symm
  next => exact value_ofNat base n

/-- Only zero starts with a zero. -/
theorem printed_leading {n : Nat} (zero : (printed base n).head? = some 0) : printed base n = [0] := by
  unfold printed at zero ⊢
  split at zero
  next none => rw [if_pos none]
  next => exact absurd zero (head?_ofNat base n)

/-! ## Conversion between bases -/

def leadingZeros (digits : List Nat) : Nat := digits.length - (digits.dropWhile (· = 0)).length

/-- Write a sequence of digits in another base, and keep the number of zeros in front. -/
def convert (base base' : Nat) (digits : List Nat) : List Nat :=
  List.replicate (leadingZeros digits) 0 ++ ofNat base' (value base digits)

theorem leadingZeros_eq (digits : List Nat) : leadingZeros digits = (digits.takeWhile (· = 0)).length := by
  have parts := congrArg List.length (@List.takeWhile_append_dropWhile _ (· = 0) digits)
  rw [List.length_append] at parts
  unfold leadingZeros
  omega

/-- The zeros in front and the rest. -/
theorem replicate_leadingZeros (digits : List Nat) :
    List.replicate (leadingZeros digits) 0 ++ digits.dropWhile (· = 0) = digits := by
  have zeros : digits.takeWhile (· = 0) = List.replicate (leadingZeros digits) 0 := by
    refine List.eq_replicate_iff.mpr ⟨(leadingZeros_eq digits).symm, fun digit member => ?_⟩
    have zero := List.mem_takeWhile_imp member
    exact of_decide_eq_true zero
  rw [← zeros, List.takeWhile_append_dropWhile]

theorem leadingZeros_replicate {digits : List Nat} (count : Nat) (leading : digits.head? ≠ some 0) :
    leadingZeros (List.replicate count 0 ++ digits) = count := by
  have none : digits.takeWhile (· = 0) = [] := by
    cases digits with
    | nil => rfl
    | cons digit digits => exact List.takeWhile_cons_of_neg fun zero => leading (congrArg some (of_decide_eq_true zero))
  rw [leadingZeros_eq, List.takeWhile_append_of_pos (fun digit member => by simp [List.eq_of_mem_replicate member]),
    none, List.append_nil, List.length_replicate]

/-- Conversion to another base and back changes nothing. -/
theorem convert_convert {base base' : Nat} (two : 1 < base) {digits : List Nat}
    (small : ∀ digit ∈ digits, digit < base) : convert base' base (convert base base' digits) = digits := by
  have zeros : leadingZeros (convert base base' digits) = leadingZeros digits :=
    leadingZeros_replicate _ (head?_ofNat _ _)
  have kept : value base' (convert base base' digits) = value base digits := by
    rw [convert, value_leadingZeros, value_ofNat]
  have split := replicate_leadingZeros digits
  have rest : ofNat base (value base digits) = digits.dropWhile (· = 0) := by
    conv_lhs => rw [← split]
    rw [value_leadingZeros]
    exact ofNat_value two (fun digit member => small digit ((List.dropWhile_sublist _).mem member))
      fun zero => by simpa [zero] using digits.head?_dropWhile_not (· = 0)
  rw [convert, zeros, kept, rest, split]

theorem convert_lt {base base' : Nat} (two : 1 < base') (digits : List Nat) :
    ∀ digit ∈ convert base base' digits, digit < base' := by
  intro digit member
  rcases List.mem_append.mp member with zero | later
  · rw [List.eq_of_mem_replicate zero]
    omega
  · exact ofNat_lt two later

theorem convert_nil (base base' : Nat) : convert base base' [] = [] := by
  rw [convert, leadingZeros, value]
  exact ofNat_zero base'

/-- No digit is lost altogether. -/
theorem convert_ne_nil {base base' : Nat} (two : 1 < base) {digits : List Nat} (small : ∀ digit ∈ digits, digit < base)
    (some : digits ≠ []) : convert base base' digits ≠ [] := by
  intro empty
  have back := @convert_convert base base' two digits small
  rw [empty, convert_nil] at back
  exact some back.symm

end Numeral

end PhantasmaPy.Wire
