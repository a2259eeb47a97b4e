import PhantasmaPy.Wire.Numeral
import PhantasmaPy.Wire.Text
import Mathlib.Data.List.DropRight
import Mathlib.Data.Rat.Defs
import Mathlib.Algebra.Order.Field.Basic
import Mathlib.Tactic.FieldSimp
import Mathlib.Tactic.Ring

/-! # Decimal numerals

Numerals with a sign and a fraction: the number that one denotes, its text, and the numeral of a whole number of the
smallest parts.  A numeral has no zero that says nothing.
-/

namespace PhantasmaPy.Wire

/-- The character of a decimal digit. -/
def digitChar (digit : Nat) : CodePoint := Fin.ofNat _ (48 + digit)

theorem digitChar_injective : ∀ a < 10, ∀ b < 10, digitChar a = digitChar b → a = b := by decide

structure DecimalNumeral where
  negative : Bool
  integer : List Nat
  fraction : List Nat
  small : ∀ digit ∈ integer ++ fraction, digit < 10
  nonempty : integer ≠ []
  /-- A zero in front is the only digit of the integer part. -/
  leading : integer.head? = some 0 → integer = [0]
  /-- No zero ends the fraction. -/
  trailing : fraction.getLast? ≠ some 0
  /-- There is no negative zero. -/
  signed : negative = true → Numeral.value 10 (integer ++ fraction) ≠ 0

namespace DecimalNumeral

/-- The number that a numeral denotes. -/
def value (self : DecimalNumeral) : ℚ :=
  (if self.negative then -1 else 1) * Numeral.value 10 (self.integer ++ self.fraction) / 10 ^ self.fraction.length

/-- The digits of a fraction behind a mark, and nothing of an empty fraction. -/
def fractionText (mark : CodePoint) (fraction : List Nat) : Str :=
  if fraction = [] then [] else mark :: fraction.map digitChar

def text (mark : CodePoint) (self : DecimalNumeral) : Str :=
  let digits := self.integer.map digitChar ++ fractionText mark self.fraction
  if self.negative then 45 :: digits else digits

/-! ## The text determines the numeral -/

theorem map_digitChar_injective {digits digits' : List Nat} (small : ∀ digit ∈ digits, digit < 10)
    (small' : ∀ digit ∈ digits', digit < 10) (same : digits.map digitChar = digits'.map digitChar) :
    digits = digits' := by
  induction digits generalizing digits' with
  | nil => exact (List.map_eq_nil_iff.mp same.symm).symm
  | cons digit digits ih =>
    cases digits' with
    | nil => cases same
    | cons digit' digits' =>
      obtain ⟨first, rest⟩ := List.cons.inj same
      obtain ⟨lt, lts⟩ := List.forall_mem_cons.mp small
      obtain ⟨lt', lts'⟩ := List.forall_mem_cons.mp small'
      rw [digitChar_injective digit lt digit' lt' first, ih lts lts' rest]

/-- What is in front of the first mark, and the rest. -/
theorem split_at_mark {mark : CodePoint} {front front' back back' : Str} (clean : mark ∉ front)
    (clean' : mark ∉ front') (marked : back = [] ∨ back.head? = some mark)
    (marked' : back' = [] ∨ back'.head? = some mark) (same : front ++ back = front' ++ back') :
    front = front' ∧ back = back' := by
  have take (front back : Str) (clean : mark ∉ front) (marked : back = [] ∨ back.head? = some mark) :
      (front ++ back).takeWhile (· ≠ mark) = front := by
    rw [List.takeWhile_append_of_pos fun c member => by simpa using fun same : c = mark => clean (same ▸ member)]
    cases back with
    | nil => simp
    | cons c back =>
      obtain rfl : c = mark := by simpa using marked
      simp
  have fronts : front = front' := by
    rw [← take front back clean marked, same, take front' back' clean' marked']
  subst fronts
  exact ⟨rfl, List.append_cancel_left same⟩

theorem mark_notMem_digits {mark : CodePoint} (other : ∀ digit < 10, digitChar digit ≠ mark) {digits : List Nat}
    (small : ∀ digit ∈ digits, digit < 10) : mark ∉ digits.map digitChar := by
  intro member
  obtain ⟨digit, listed, same⟩ := List.mem_map.mp member
  exact other digit (small digit listed) same

theorem fractionText_marked (mark : CodePoint) (fraction : List Nat) :
    fractionText mark fraction = [] ∨ (fractionText mark fraction).head? = some mark := by
  unfold fractionText
  split
  next => exact .inl rfl
  next => exact .inr rfl

theorem fractionText_injective {mark : CodePoint} {fraction fraction' : List Nat} (small : ∀ digit ∈ fraction, digit < 10)
    (small' : ∀ digit ∈ fraction', digit < 10) (same : fractionText mark fraction = fractionText mark fraction') :
    fraction = fraction' := by
  unfold fractionText at same
  by_cases empty : fraction = [] <;> by_cases empty' : fraction' = []
  · rw [empty, empty']
  · simp [empty, empty'] at same
  · simp [empty, empty'] at same
  · rw [if_neg empty, if_neg empty'] at same
    exact map_digitChar_injective small small' (List.cons.inj same).2

/-- The text after the sign determines the two sequences of digits. -/
theorem digits_eq {mark : CodePoint} (other : ∀ digit < 10, digitChar digit ≠ mark)
    {integer integer' fraction fraction' : List Nat} (small : ∀ digit ∈ integer ++ fraction, digit < 10)
    (small' : ∀ digit ∈ integer' ++ fraction', digit < 10)
    (same : integer.map digitChar ++ fractionText mark fraction =
      integer'.map digitChar ++ fractionText mark fraction') : integer = integer' ∧ fraction = fraction' := by
  obtain ⟨smallInteger, smallFraction⟩ := List.forall_mem_append.mp small
  obtain ⟨smallInteger', smallFraction'⟩ := List.forall_mem_append.mp small'
  obtain ⟨integers, fractions⟩ := split_at_mark (mark_notMem_digits other smallInteger)
    (mark_notMem_digits other smallInteger') (fractionText_marked mark fraction) (fractionText_marked mark fraction') same
  exact ⟨map_digitChar_injective smallInteger smallInteger' integers,
    fractionText_injective smallFraction smallFraction' fractions⟩

theorem head?_digits_ne {mark : CodePoint} {integer : List Nat} (nonempty : integer ≠ [])
    (small : ∀ digit ∈ integer, digit < 10) (rest : Str) (other : ∀ digit < 10, digitChar digit ≠ mark) : (integer.map digitChar ++ rest).head? ≠ some mark := by
  cases integer with
  | nil => contradiction
  | cons digit integer =>
    intro same
    exact other digit (small digit List.mem_cons_self) (Option.some.inj same)

/-- No digit is the sign. -/
theorem digitChar_ne_minus : ∀ digit < 10, digitChar digit ≠ 45 := by decide

theorem text_injective {mark : CodePoint} (other : ∀ digit < 10, digitChar digit ≠ mark) :
    Function.Injective (text mark) := by
  rintro ⟨negative, integer, fraction, small, nonempty, _, _, _⟩
    ⟨negative', integer', fraction', small', nonempty', _, _, _⟩ same
  have unsigned := head?_digits_ne nonempty (List.forall_mem_append.mp small).1
    (fractionText mark fraction) digitChar_ne_minus
  have unsigned' := head?_digits_ne nonempty' (List.forall_mem_append.mp small').1
    (fractionText mark fraction') digitChar_ne_minus
  unfold text at same
  dsimp only at same
  -- One text with a sign and one without differ in the first character.
  cases negative <;> cases negative'
  · obtain ⟨rfl, rfl⟩ := digits_eq other small small' same
    rfl
  · exact absurd (congrArg List.head? same) unsigned
  · exact absurd (congrArg List.head? same.symm) unsigned'
  · obtain ⟨rfl, rfl⟩ := digits_eq other small small' (List.cons.inj same).2
    rfl

/-! ## A whole number of the smallest parts -/

/-- The digits of a number with zeros in front, up to at least one digit more than the parts have. -/
def padded (n decimals : Nat) : List Nat :=
  List.replicate (decimals + 1 - (Numeral.printed 10 n).length) 0 ++ Numeral.printed 10 n

def integerDigits (n decimals : Nat) : List Nat := (padded n decimals).take ((padded n decimals).length - decimals)

def fractionDigits (n decimals : Nat) : List Nat :=
  ((padded n decimals).drop ((padded n decimals).length - decimals)).rdropWhile (· = 0)

variable (n decimals : Nat)

theorem padded_lt : ∀ digit ∈ padded n decimals, digit < 10 := by
  intro digit member
  rcases List.mem_append.mp member with zero | given
  · rw [List.eq_of_mem_replicate zero]
    decide
  · exact Numeral.printed_lt (by decide) n digit given

theorem length_padded : (padded n decimals).length = max (decimals + 1) (Numeral.printed 10 n).length := by
  rw [padded, List.length_append, List.length_replicate]
  omega

theorem lt_length_padded : decimals < (padded n decimals).length := by
  rw [length_padded]
  omega

/-- The digits that the fraction loses are zeros. -/
theorem digits_padded : ∃ count, (fractionDigits n decimals).length + count = decimals ∧
    integerDigits n decimals ++ fractionDigits n decimals ++ List.replicate count 0 = padded n decimals := by
  have enough := lt_length_padded n decimals
  have lengths : ((padded n decimals).drop ((padded n decimals).length - decimals)).length = decimals := by
    rw [List.length_drop]
    omega
  unfold integerDigits fractionDigits
  generalize (padded n decimals).length - decimals = place at lengths ⊢
  generalize fractions : (padded n decimals).drop place = fraction at lengths
  have parts := @List.rdropWhile_append_rtakeWhile _ (fun digit : Nat => decide (digit = 0)) fraction
  have zeros : fraction.rtakeWhile (· = 0) = List.replicate (fraction.rtakeWhile (· = 0)).length 0 :=
    List.eq_replicate_of_mem fun digit member => by simpa using List.mem_rtakeWhile_imp member
  refine ⟨(fraction.rtakeWhile (· = 0)).length, ?_, ?_⟩
  · rw [← List.length_append, parts, lengths]
  · rw [← zeros, List.append_assoc, parts, ← fractions, List.take_append_drop]

theorem integerDigits_ne_nil : integerDigits n decimals ≠ [] := by
  have enough := lt_length_padded n decimals
  rw [integerDigits, ← List.length_pos_iff, List.length_take]
  omega

/-- If the padded number starts with a zero, there is only one digit before the fraction. -/
theorem integerDigits_leading (zero : (integerDigits n decimals).head? = some 0) : integerDigits n decimals = [0] := by
  have enough := lt_length_padded n decimals
  have first : (padded n decimals).head? = some 0 := by
    rwa [integerDigits, List.head?_take, if_neg (by omega)] at zero
  unfold integerDigits
  by_cases long : decimals < (Numeral.printed 10 n).length
  · -- Nothing is filled in, so the zero is that of the number zero.
    have whole : padded n decimals = Numeral.printed 10 n := by
      rw [padded, show decimals + 1 - (Numeral.printed 10 n).length = 0 by omega, List.replicate_zero, List.nil_append]
    rw [whole] at first ⊢
    have only := Numeral.printed_leading first
    rw [only] at long ⊢
    obtain rfl : decimals = 0 := by simpa using long
    rfl
  · -- The zeros filled in leave one place in front of the fraction.
    have count : (padded n decimals).length - decimals = 1 := by
      rw [length_padded]
      omega
    rw [count]
    cases digits : padded n decimals with
    | nil => simp [digits] at first
    | cons digit rest =>
      rw [digits] at first
      obtain rfl : digit = 0 := Option.some.inj first
      rfl

theorem fractionDigits_trailing : (fractionDigits n decimals).getLast? ≠ some 0 := by
  unfold fractionDigits
  generalize (padded n decimals).drop _ = fraction
  intro last
  have kept : fraction.rdropWhile (fun digit => decide (digit = 0)) ≠ [] := by
    intro none
    rw [none] at last
    cases last
  have nonzero := List.rdropWhile_last_not _ fraction kept
  rw [List.getLast?_eq_some_getLast kept] at last
  exact nonzero (decide_eq_true (Option.some.inj last))

theorem digits_lt : ∀ digit ∈ integerDigits n decimals ++ fractionDigits n decimals, digit < 10 := by
  obtain ⟨count, -, parts⟩ := digits_padded n decimals
  intro digit member
  exact padded_lt n decimals digit (parts ▸ List.mem_append_left _ member)

theorem value_digits : ∃ count, (fractionDigits n decimals).length + count = decimals ∧
    Numeral.value 10 (integerDigits n decimals ++ fractionDigits n decimals) * 10 ^ count = n := by
  obtain ⟨count, length, parts⟩ := digits_padded n decimals
  refine ⟨count, length, ?_⟩
  rw [← Numeral.value_trailingZeros, parts, padded, Numeral.value_leadingZeros, Numeral.value_printed]

/-- The numeral of a whole number of parts, of which a power of ten makes one. -/
def ofParts (n : Int) (decimals : Nat) : DecimalNumeral where
  negative := n < 0
  integer := integerDigits n.natAbs decimals
  fraction := fractionDigits n.natAbs decimals
  small := digits_lt n.natAbs decimals
  nonempty := integerDigits_ne_nil n.natAbs decimals
  leading := integerDigits_leading n.natAbs decimals
  trailing := fractionDigits_trailing n.natAbs decimals
  signed negative zero := by
    obtain ⟨count, -, whole⟩ := value_digits n.natAbs decimals
    rw [zero, zero_mul] at whole
    have below : n < 0 := of_decide_eq_true negative
    omega

/-- It denotes the number of parts, divided by the power of ten. -/
theorem value_ofParts (n : Int) (decimals : Nat) : (ofParts n decimals).value = (n : ℚ) / 10 ^ decimals := by
  obtain ⟨count, length, whole⟩ := value_digits n.natAbs decimals
  have power : (10 : ℚ) ^ decimals = 10 ^ (fractionDigits n.natAbs decimals).length * 10 ^ count := by
    rw [← pow_add, length]
  have sign : (n : ℚ) = (if n < 0 then -1 else 1) * (n.natAbs : ℚ) := by
    rw [Nat.cast_natAbs]
    split
    next negative =>
      rw [abs_of_neg negative]
      push_cast
      ring
    next nonneg => rw [abs_of_nonneg (not_lt.mp nonneg), one_mul]
  have digits : (n.natAbs : ℚ) =
      Numeral.value 10 (integerDigits n.natAbs decimals ++ fractionDigits n.natAbs decimals) * 10 ^ count := by
    exact_mod_cast whole.symm
  rw [sign, digits, power]
  simp only [value, ofParts, decide_eq_true_eq]
  field_simp

end DecimalNumeral

end PhantasmaPy.Wire
