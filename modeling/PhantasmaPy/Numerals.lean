import PhantasmaPy.Encoding
import PhantasmaPy.Wire.Numeral
import Mathlib.Data.Set.List

/-! # Numbers as text

`str.isdigit`, `int(text)` and `str(number)`, over the character tables of the interpreter.
-/

namespace PhantasmaPy

open Wire

/-- What depends on the interpreter: the digits among the characters beyond ASCII, the values of those
    that are decimal, how a text is quoted in a message, and the limit on the digits of a conversion,
    where zero means none. -/
structure Interpreter where
  isDigit : CodePoint → Bool
  decimal : CodePoint → Option (Fin 10)
  repr : Str → Str
  maxStrDigits : Nat
  decimal_isDigit : ∀ c d, decimal c = some d → isDigit c = true
  isDigit_notSpace : ∀ c, isDigit c = true → isSpace c = false

/-- The character tables for Latin-1, whose superscript digits have no decimal value. -/
def latin1 : Interpreter where
  isDigit c := c.val = 0xB2 || c.val = 0xB3 || c.val = 0xB9
  decimal _ := none
  repr text := [39] ++ text ++ [39]
  maxStrDigits := 4300
  decimal_isDigit := by simp
  isDigit_notSpace c digit := by
    simp only [Bool.or_eq_true, decide_eq_true_eq] at digit
    simp only [isSpace, Bool.or_eq_false_iff, Bool.and_eq_false_iff, decide_eq_false_iff_not]
    omega

namespace Interpreter

/-- The same interpreter without a limit on the digits of a conversion. -/
def unlimited (self : Interpreter) : Interpreter := { self with maxStrDigits := 0 }

/-- The decimal value of a character. -/
def digitValue (self : Interpreter) (c : CodePoint) : Option (Fin 10) :=
  if c.val < 128 then
    if digit : 48 ≤ c.val ∧ c.val ≤ 57 then some ⟨c.val - 48, by omega⟩ else none
  else self.decimal c

/-- Python's `str.isdigit`, which holds of digits without a decimal value too. -/
def isdigit (self : Interpreter) (text : Str) : Bool :=
  text ≠ [] && text.all fun c => if c.val < 128 then 48 ≤ c.val && c.val ≤ 57 else self.isDigit c

/-- What `int` sees at a character. -/
inductive Symbol where
  | space
  | plus
  | minus
  | underscore
  | digit (value : Fin 10)
  | other
  deriving DecidableEq

def symbol (self : Interpreter) (c : CodePoint) : Symbol :=
  match self.digitValue c with
  | some value => .digit value
  | none =>
    if c.val = 43 then .plus
    else if c.val = 45 then .minus
    else if c.val = 95 then .underscore
    else if 9 ≤ c.val ∧ c.val ≤ 13 ∨ c.val = 32 ∨ 128 ≤ c.val ∧ isSpace c then .space
    else .other

/-- Digits with single underscores between them. -/
def grouped : List Symbol → Option (List (Fin 10))
  | [.digit value] => some [value]
  | .digit value :: .underscore :: symbols => (grouped symbols).map fun digits => value :: digits
  | .digit value :: symbols => (grouped symbols).map fun digits => value :: digits
  | _ => none

def Symbol.numeric : Symbol → Bool
  | digit _ => true
  | underscore => true
  | _ => false

/-- Grouped digits, with nothing but spaces after them. -/
def unsigned (symbols : List Symbol) : Option (List (Fin 10)) :=
  if (symbols.dropWhile Symbol.numeric).all (· = .space) then grouped (symbols.takeWhile Symbol.numeric)
  else none

/-- The sign and the digits; whether the number is negative comes first. -/
def signed : List Symbol → Option (Bool × List (Fin 10))
  | .plus :: symbols => (unsigned symbols).map fun digits => (false, digits)
  | .minus :: symbols => (unsigned symbols).map fun digits => (true, digits)
  | symbols => (unsigned symbols).map fun digits => (false, digits)

/-- A conversion of that many digits is refused. -/
def TooLong (self : Interpreter) (count : Nat) : Prop := self.maxStrDigits ≠ 0 ∧ self.maxStrDigits < count

instance (self : Interpreter) (count : Nat) : Decidable (self.TooLong count) :=
  inferInstanceAs (Decidable (_ ∧ _))

def digitsValue (digits : List (Fin 10)) : Nat := Numeral.value 10 (digits.map Fin.val)

/-- Python's `int(text)`. -/
def int (self : Interpreter) (text : Str) : Except PyError Int :=
  match signed ((text.map self.symbol).dropWhile (· = .space)) with
  | none => .error .valueError
  | some (negative, digits) =>
    if self.TooLong digits.length then .error .valueError
    else .ok (if negative then -digitsValue digits else digitsValue digits)

/-- The characters of a number's digits. -/
def decimalText (n : Nat) : Str :=
  (if n = 0 then [0] else Numeral.ofNat 10 n).map fun digit => Fin.ofNat _ (48 + digit)

/-- Python's `str(number)`. -/
def str (self : Interpreter) (number : Int) : Except PyError Str :=
  if self.TooLong (decimalText number.natAbs).length then .error .valueError
  else .ok (if number < 0 then 45 :: decimalText number.natAbs else decimalText number.natAbs)

/-! ## Texts of digits -/

/-- The number that a text of decimal digits denotes. -/
def Denotes (self : Interpreter) (text : Str) (n : Nat) : Prop :=
  ∃ digits : List (Fin 10), digits ≠ [] ∧ text.map self.digitValue = digits.map some ∧ n = digitsValue digits

/-- Every character is a decimal digit, and there are not too many. -/
def Convertible (self : Interpreter) (text : Str) : Prop :=
  (∀ c ∈ text, self.digitValue c ≠ none) ∧ ¬ self.TooLong text.length

theorem Denotes.unique {self : Interpreter} {text : Str} {n m : Nat} (left : self.Denotes text n)
    (right : self.Denotes text m) : n = m := by
  obtain ⟨digits, -, same, rfl⟩ := left
  obtain ⟨digits', -, same', rfl⟩ := right
  rw [(List.map_injective_iff.mpr (Option.some_injective _)) (same.symm.trans same')]

theorem grouped_digits {digits : List (Fin 10)} (some : digits ≠ []) :
    grouped (digits.map .digit) = .some digits := by
  induction digits with
  | nil => contradiction
  | cons digit digits ih =>
    cases digits with
    | nil => rfl
    | cons next digits =>
      rw [List.map_cons, List.map_cons, grouped, ← List.map_cons, ih (List.cons_ne_nil _ _)]
      · rfl
      · simp
      · simp

theorem unsigned_digits {digits : List (Fin 10)} (some : digits ≠ []) :
    unsigned (digits.map .digit) = .some digits := by
  have numeric : ∀ symbol ∈ digits.map Symbol.digit, symbol.numeric = true := by
    intro symbol member
    obtain ⟨digit, -, rfl⟩ := List.mem_map.mp member
    rfl
  unfold unsigned
  rw [List.dropWhile_eq_nil_iff.mpr numeric, List.takeWhile_eq_self_iff.mpr numeric, grouped_digits some]
  rfl

theorem signed_digits {digits : List (Fin 10)} (some : digits ≠ []) :
    signed (digits.map .digit) = .some (false, digits) := by
  cases digits with
  | nil => contradiction
  | cons digit digits =>
    change (unsigned (.digit digit :: digits.map .digit)).map _ = _
    rw [← List.map_cons, unsigned_digits some]
    rfl

/-- What is neither part of a number nor a space spoils the whole text. -/
theorem unsigned_other {symbols : List Symbol} (spoiled : .other ∈ symbols) : unsigned symbols = none := by
  unfold unsigned
  rw [if_neg]
  intro spaces
  rw [← @List.takeWhile_append_dropWhile _ Symbol.numeric symbols, List.mem_append] at spoiled
  rcases spoiled with early | late
  · cases List.mem_takeWhile_imp early
  · cases of_decide_eq_true (List.all_eq_true.mp spaces _ late)

theorem signed_other {symbols : List Symbol} (plain : ∀ symbol ∈ symbols, symbol = .other ∨ ∃ digit, symbol = .digit digit)
    (spoiled : .other ∈ symbols) : signed symbols = none := by
  have none : unsigned symbols = none := unsigned_other spoiled
  cases symbols with
  | nil => contradiction
  | cons symbol symbols =>
    rcases plain symbol List.mem_cons_self with rfl | ⟨digit, rfl⟩
    · simp only [signed, none, Option.map_none]
    · simp only [signed, none, Option.map_none]

section Conversions

variable {self : Interpreter} {text : Str}

theorem symbol_eq_digit {c : CodePoint} {digit : Fin 10} (value : self.digitValue c = some digit) :
    self.symbol c = .digit digit := by
  unfold symbol
  rw [value]

/-- A digit without a decimal value is nothing that `int` knows. -/
theorem symbol_eq_other {c : CodePoint} (isDigit : self.isdigit [c]) (none : self.digitValue c = none) :
    self.symbol c = .other := by
  unfold isdigit at isDigit
  unfold digitValue at none
  unfold symbol digitValue
  by_cases ascii : c.val < 128
  · rw [if_pos ascii] at none
    simp only [ne_eq, List.cons_ne_nil, not_false_eq_true, decide_true, Bool.true_and, List.all_cons,
      if_pos ascii, List.all_nil, Bool.and_true, Bool.and_eq_true, decide_eq_true_eq] at isDigit
    rw [dif_pos isDigit] at none
    contradiction
  · have space : isSpace c = false := self.isDigit_notSpace c (by simpa [ascii] using isDigit)
    rw [if_neg ascii] at none ⊢
    rw [none]
    dsimp only
    rw [if_neg (by omega), if_neg (by omega), if_neg (by omega), if_neg]
    rintro (range | blank | ⟨-, blank⟩)
    · omega
    · omega
    · rw [space] at blank
      contradiction

theorem isdigit_cons {c : CodePoint} : self.isdigit (c :: text) = true ↔
    self.isdigit [c] = true ∧ ∀ d ∈ text, self.isdigit [d] = true := by
  simp [isdigit, List.all_eq_true]

theorem isdigit_mem (digits : self.isdigit text = true) {c : CodePoint} (member : c ∈ text) :
    self.isdigit [c] = true := by
  cases text with
  | nil => contradiction
  | cons first text =>
    obtain ⟨head, tail⟩ := isdigit_cons.mp digits
    rcases List.mem_cons.mp member with rfl | later
    · exact head
    · exact tail c later

theorem symbols_digits {digits : List (Fin 10)}
    (values : text.map self.digitValue = digits.map some) : text.map self.symbol = digits.map .digit := by
  induction text generalizing digits with
  | nil =>
    cases digits with
    | nil => rfl
    | cons => contradiction
  | cons c text ih =>
    cases digits with
    | nil => contradiction
    | cons digit digits =>
      obtain ⟨first, rest⟩ := List.cons.inj values
      rw [List.map_cons, List.map_cons, symbol_eq_digit first, ih rest]

/-- `int` on a text that consists of the digits of a number. -/
theorem int_digits {digits : List (Fin 10)} (some : digits ≠ [])
    (values : text.map self.digitValue = digits.map Option.some) :
    self.int text = if self.TooLong digits.length then .error .valueError else .ok (digitsValue digits) := by
  have unspaced : (digits.map Symbol.digit).dropWhile (fun symbol => decide (symbol = .space)) =
      digits.map .digit := by
    cases digits with
    | nil => rfl
    | cons digit digits => rfl
  unfold int
  rw [symbols_digits values, unspaced, signed_digits some]
  rfl

/-- `int` on a sign and a text that consists of the digits of a number. -/
theorem int_negative {digits : List (Fin 10)} (some : digits ≠ [])
    (values : text.map self.digitValue = digits.map Option.some) :
    self.int (45 :: text) = if self.TooLong digits.length then .error .valueError else .ok (-digitsValue digits) := by
  have minus : self.symbol 45 = .minus := rfl
  have read : signed ((.minus :: digits.map .digit).dropWhile fun symbol => decide (symbol = .space)) =
      .some (true, digits) := by
    change (unsigned (digits.map .digit)).map (fun digits => (true, digits)) = _
    rw [unsigned_digits some, Option.map_some]
  unfold int
  rw [List.map_cons, minus, symbols_digits values, read]
  rfl

theorem Denotes.length {n : Nat} (denotes : self.Denotes text n) : ∃ digits : List (Fin 10), digits ≠ [] ∧
    text.map self.digitValue = digits.map some ∧ digits.length = text.length ∧ n = digitsValue digits := by
  obtain ⟨digits, some, values, rfl⟩ := denotes
  have lengths := congrArg List.length values
  rw [List.length_map, List.length_map] at lengths
  exact ⟨digits, some, values, lengths.symm, rfl⟩

/-- The values of a text of decimal digits. -/
theorem decimal_values (digits : self.isdigit text) (decimal : ∀ c ∈ text, self.digitValue c ≠ none) :
    ∃ values : List (Fin 10), values ≠ [] ∧ text.map self.digitValue = values.map some ∧
      values.length = text.length := by
  have range : text.map self.digitValue ∈ Set.range (List.map some) := by
    rw [Set.range_list_map]
    intro value member
    obtain ⟨c, inside, rfl⟩ := List.mem_map.mp member
    obtain ⟨digit, found⟩ := Option.ne_none_iff_exists.mp (decimal c inside)
    exact ⟨digit, found⟩
  obtain ⟨values, same⟩ := range
  have lengths := congrArg List.length same
  rw [List.length_map, List.length_map] at lengths
  refine ⟨values, ?_, same.symm, lengths⟩
  rintro rfl
  rw [List.length_eq_zero_iff.mp lengths.symm] at digits
  contradiction

/-- A text of decimal digits denotes a number, and `int` returns it if there are not too many digits. -/
theorem int_convertible (digits : self.isdigit text) (convertible : self.Convertible text) :
    ∃ n, self.Denotes text n ∧ self.int text = .ok n := by
  obtain ⟨decimal, short⟩ := convertible
  obtain ⟨values, some, same, length⟩ := decimal_values digits decimal
  refine ⟨digitsValue values, ⟨values, some, same, rfl⟩, ?_⟩
  rw [int_digits some same, if_neg (length ▸ short)]

/-- `int` refuses the other texts of digits. -/
theorem int_unconvertible (digits : self.isdigit text) (odd : ¬ self.Convertible text) :
    self.int text = .error .valueError := by
  by_cases decimal : ∀ c ∈ text, self.digitValue c ≠ none
  · have long : self.TooLong text.length := by
      by_contra short
      exact odd ⟨decimal, short⟩
    obtain ⟨values, some, same, length⟩ := decimal_values digits decimal
    rw [int_digits some same, if_pos (length ▸ long)]
  · obtain ⟨c, member, none⟩ := not_forall₂.mp decimal
    have plain : ∀ symbol ∈ text.map self.symbol, symbol = .other ∨ ∃ digit, symbol = .digit digit := by
      intro symbol listed
      obtain ⟨d, inside, rfl⟩ := List.mem_map.mp listed
      cases value : self.digitValue d with
      | none => exact .inl (symbol_eq_other (isdigit_mem digits inside) value)
      | some digit => exact .inr ⟨digit, symbol_eq_digit value⟩
    -- a digit without a decimal value, such as a superscript, is what `int` does not take
    have spoiled : .other ∈ text.map self.symbol :=
      List.mem_map.mpr ⟨c, member, symbol_eq_other (isdigit_mem digits member) (not_not.mp none)⟩
    have unspaced : (text.map self.symbol).dropWhile (fun symbol => decide (symbol = .space)) =
        text.map self.symbol := by
      rw [List.dropWhile_eq_self_iff]
      intro positive space
      rcases plain _ (List.getElem_mem positive) with other | ⟨digit, same⟩
      · rw [other] at space
        contradiction
      · rw [same] at space
        contradiction
    unfold int
    rw [unspaced, signed_other plain spoiled]

end Conversions

/-! ## Printed numbers -/

theorem digitValue_printed (self : Interpreter) (digit : Fin 10) :
    self.digitValue (Fin.ofNat _ (48 + digit.val)) = some digit := by
  have small : (48 + digit.val) % 0x110000 = 48 + digit.val := Nat.mod_eq_of_lt (by omega)
  unfold digitValue
  simp only [Fin.val_ofNat, small]
  rw [if_pos (by omega), dif_pos (by omega)]
  exact congrArg some (Fin.ext (by dsimp only; omega))

theorem decimalText_eq (n : Nat) :
    decimalText n = (Numeral.printed 10 n).map fun digit => Fin.ofNat _ (48 + digit) := rfl

/-- The text of a number is made of digits that have its value. -/
theorem decimalText_values (self : Interpreter) (n : Nat) :
    ∃ digits : List (Fin 10), digits ≠ [] ∧ (decimalText n).map self.digitValue = digits.map some ∧
      digits.length = (decimalText n).length ∧ digitsValue digits = n := by
  have small := @Numeral.printed_lt 10 (by decide) n
  have value := Numeral.value_printed 10 n
  have some := Numeral.printed_ne_nil 10 n
  rw [decimalText_eq]
  generalize Numeral.printed 10 n = digits at small value some
  lift digits to List (Fin 10) using small
  refine ⟨digits, by simpa using some, ?_, by simp, value⟩
  rw [List.map_map, List.map_map]
  exact List.map_congr_left fun digit _ => self.digitValue_printed digit

/-- `int` reads back what `str` prints. -/
theorem int_str {self : Interpreter} {number : Int} {text : Str} (printed : self.str number = .ok text) :
    self.int text = .ok number := by
  obtain ⟨digits, some, values, length, value⟩ := self.decimalText_values number.natAbs
  unfold str at printed
  split at printed
  next => contradiction
  next short =>
    obtain rfl := Except.ok.inj printed
    rw [← length] at short
    split
    next negative =>
      rw [int_negative some values, if_neg short, value]
      exact congrArg Except.ok (by omega)
    next nonneg =>
      rw [int_digits some values, if_neg short, value, Int.natAbs_of_nonneg (not_lt.mp nonneg)]

/-- Without a limit every number is printed. -/
theorem str_unlimited {self : Interpreter} (unlimited : self.maxStrDigits = 0) (number : Int) :
    ∃ text, self.str number = .ok text := by
  have short : ¬ self.TooLong (decimalText number.natAbs).length := fun long => long.1 unlimited
  unfold str
  rw [if_neg short]
  exact ⟨_, rfl⟩

end Interpreter

end PhantasmaPy
