import PhantasmaPy.Numerals
import PhantasmaPy.Wire.Decimal

/-! # Displayed amounts

`convert_decimals` of `rpc.py`, and the methods of the responses that call it.  The text of an amount is the numeral of
the amount.
-/

namespace PhantasmaPy

open Wire Interpreter

/-! ## Built-ins on text -/

/-- Python's `str.zfill`, which fills behind a sign. -/
def zfill (width : Int) (text : Str) : Str :=
  let zeros := List.replicate (width - text.length).toNat 48
  match text with
  | [] => zeros
  | c :: rest => if c = 43 ∨ c = 45 then c :: (zeros ++ rest) else zeros ++ c :: rest

/-- The place that an index of a slice means, from the end if it is negative. -/
def slicePlace (length : Nat) (index : Int) : Nat := (if index < 0 then index + length else index).toNat

/-- Python's `text[:stop]`. -/
def sliceTo (text : Str) (stop : Int) : Str := text.take (slicePlace text.length stop)

/-- Python's `text[start:]`. -/
def sliceFrom (text : Str) (start : Int) : Str := text.drop (slicePlace text.length start)

/-! ## Conversion -/

/-- An amount, as a text or as a number. -/
inductive RawAmount where
  | str (text : Str)
  | int (n : Int)

/-- What `convert_decimals` makes of the text behind the sign. -/
def displayUnsigned (value : Str) (decimals : Int) (separator : Str) : Str :=
  let value := zfill (decimals + 1) value
  let integer := if decimals ≠ 0 then sliceTo value (-decimals) else value
  let fraction := if decimals ≠ 0 then sliceFrom value (-decimals) else []
  let fraction := fraction.rdropWhile (· = 48)
  if fraction = [] then integer else integer ++ separator ++ fraction

/-- `convert_decimals` after the conversion of the amount to a text. -/
def displayDecimals (value : Str) (decimals : Int) (separator : Str) : Str :=
  if value.head? = some 45 then 45 :: displayUnsigned (value.drop 1) decimals separator
  else displayUnsigned value decimals separator

def convertDecimals (interp : Interpreter) (raw : RawAmount) (decimals : Int) (separator : Str) :
    Except PyError Str := do
  let value ←
    match raw with
    | .str text => .ok text
    | .int n => interp.str n
  return displayDecimals value decimals separator

/-- The separator that `convert_decimals` takes by default. -/
def defaultSeparator : Str := [46]

/-- The fields of the response that `decimal_amount` reads. -/
structure BalanceResult where
  amount : Str
  decimals : Int

def BalanceResult.decimalAmount (interp : Interpreter) (self : BalanceResult) : Except PyError Str :=
  convertDecimals interp (.str self.amount) self.decimals defaultSeparator

/-- The field of the response that `decimal_amount` reads. -/
structure StakeResult where
  amount : Str

def StakeResult.decimalAmount (interp : Interpreter) (self : StakeResult) : Except PyError Str :=
  convertDecimals interp (.str self.amount) 8 defaultSeparator

example : displayDecimals (Str.ofString "123456789") 8 defaultSeparator = Str.ofString "1.23456789" := by decide +kernel

/-! ## Digits -/

open DecimalNumeral

theorem decimalText_digits (n : Nat) : decimalText n = (Numeral.printed 10 n).map digitChar := decimalText_eq n

theorem zfill_digits {digits : List Nat} (some : digits ≠ []) (small : ∀ digit ∈ digits, digit < 10) (width : Nat) :
    zfill width (digits.map digitChar) = (List.replicate (width - digits.length) 0 ++ digits).map digitChar := by
  have signs : ∀ digit < 10, ¬ (digitChar digit = 43 ∨ digitChar digit = 45) := by decide
  have zero : digitChar 0 = 48 := rfl
  cases digits with
  | nil => contradiction
  | cons digit digits =>
    have unsigned := signs digit (small digit List.mem_cons_self)
    rw [List.map_append, List.map_replicate, zero, List.map_cons, zfill]
    simp only [if_neg unsigned, List.length_cons, List.length_map]
    congr 2
    omega

theorem slicePlace_neg {length decimals : Nat} (positive : decimals ≠ 0) (enough : decimals ≤ length) :
    slicePlace length (-decimals) = length - decimals := by
  unfold slicePlace
  rw [if_pos (by omega)]
  omega

theorem rdropWhile_digits {digits : List Nat} (small : ∀ digit ∈ digits, digit < 10) :
    (digits.map digitChar).rdropWhile (· = 48) = (digits.rdropWhile (· = 0)).map digitChar := by
  have zero : ∀ digit < 10, digitChar digit = 48 ↔ digit = 0 := by decide
  have stripped : (digits.reverse.map digitChar).dropWhile (· = 48) = (digits.reverse.dropWhile (· = 0)).map digitChar :=
    dropWhile_map fun digit member => decide_eq_decide.mpr (zero digit (small digit (List.mem_reverse.mp member)))
  unfold List.rdropWhile
  rw [← List.map_reverse, stripped, List.map_reverse]

/-- The text behind the sign is shown as the digits of its parts. -/
theorem displayUnsigned_digits (n decimals : Nat) (separator : Str) :
    displayUnsigned (decimalText n) decimals separator =
      (integerDigits n decimals).map digitChar ++
        if fractionDigits n decimals = [] then [] else separator ++ (fractionDigits n decimals).map digitChar := by
  -- Every step of the code on characters is the step of the same name on digits.
  have filled : zfill (decimals + 1) (decimalText n) = (padded n decimals).map digitChar :=
    zfill_digits (Numeral.printed_ne_nil 10 n) (Numeral.printed_lt (by decide) n) (decimals + 1)
  have small : ∀ digit ∈ (padded n decimals).drop ((padded n decimals).length - decimals), digit < 10 :=
    fun digit member => padded_lt n decimals digit (List.mem_of_mem_drop member)
  have enough := lt_length_padded n decimals
  have integer : (if (decimals : Int) ≠ 0 then sliceTo ((padded n decimals).map digitChar) (-decimals)
      else (padded n decimals).map digitChar) = (integerDigits n decimals).map digitChar := by
    unfold integerDigits
    by_cases zero : decimals = 0
    · simp [zero]
    · rw [if_pos (by simpa using zero), sliceTo, List.length_map, slicePlace_neg zero enough.le, List.map_take]
  have fraction : (if (decimals : Int) ≠ 0 then sliceFrom ((padded n decimals).map digitChar) (-decimals)
      else []).rdropWhile (· = 48) = (fractionDigits n decimals).map digitChar := by
    unfold fractionDigits
    rw [← rdropWhile_digits small]
    by_cases zero : decimals = 0
    · simp [zero]
    · rw [if_pos (by simpa using zero), sliceFrom, List.length_map, slicePlace_neg zero enough.le, List.map_drop]
  unfold displayUnsigned
  dsimp only
  rw [filled, integer, fraction]
  by_cases empty : fractionDigits n decimals = []
  · simp [empty]
  · simp [empty]

/-! ## Amounts -/

/-- The canonical text of a number. -/
def canonicalText (n : Int) : Str := if n < 0 then 45 :: decimalText n.natAbs else decimalText n.natAbs

/-- The amount is the number, or its canonical text. -/
def RawAmount.Gives (n : Int) : RawAmount → Prop
  | .str text => text = canonicalText n
  | .int m => m = n

/-- A number has no more digits than the interpreter converts. -/
def RawAmount.Printable (interp : Interpreter) : RawAmount → Prop
  | .str _ => True
  | .int n => ¬ interp.TooLong (decimalText n.natAbs).length

theorem head?_decimalText (n : Nat) : (decimalText n).head? ≠ some 45 := by
  have first := head?_digits_ne (Numeral.printed_ne_nil 10 n) (Numeral.printed_lt (by decide) n) [] digitChar_ne_minus
  rwa [List.append_nil, ← decimalText_digits] at first

/-- The text of a number is shown as the numeral of that many parts. -/
theorem displayDecimals_canonical (n : Int) (decimals : Nat) :
    displayDecimals (canonicalText n) decimals defaultSeparator = (ofParts n decimals).text 46 := by
  have unsigned := displayUnsigned_digits n.natAbs decimals defaultSeparator
  unfold displayDecimals canonicalText
  by_cases negative : n < 0
  · rw [if_pos negative, List.head?_cons, if_pos rfl, List.drop_one, List.tail_cons, unsigned]
    simp [text, fractionText, ofParts, negative, defaultSeparator]
  · rw [if_neg negative, if_neg (head?_decimalText n.natAbs), unsigned]
    simp [text, fractionText, ofParts, negative, defaultSeparator]

theorem convertDecimals_gives {interp : Interpreter} {raw : RawAmount} {n : Int} (gives : raw.Gives n) (decimals : Nat) :
    convertDecimals interp raw decimals defaultSeparator = .ok ((ofParts n decimals).text 46) ∧ raw.Printable interp ∨
      convertDecimals interp raw decimals defaultSeparator = .error .valueError ∧ ¬ raw.Printable interp := by
  cases raw with
  | str text =>
    obtain rfl : text = canonicalText n := gives
    exact .inl ⟨congrArg Except.ok (displayDecimals_canonical n decimals), trivial⟩
  | int m =>
    obtain rfl : m = n := gives
    by_cases long : interp.TooLong (decimalText m.natAbs).length
    · refine .inr ⟨?_, not_not.mpr long⟩
      simp only [convertDecimals, Interpreter.str, if_pos long]
      rfl
    · refine .inl ⟨?_, long⟩
      simp only [convertDecimals, Interpreter.str, if_neg long]
      exact congrArg Except.ok (displayDecimals_canonical m decimals)

/-- The mark is no digit. -/
theorem digitChar_ne_mark : ∀ digit < 10, digitChar digit ≠ 46 := by decide

/-- Displayed amounts are exact: an amount in canonical text, or as a number that the interpreter converts, is shown as a
    numeral of the amount divided by the power of ten, so that different amounts are shown differently.  A number with
    too many digits raises the interpreter's error. -/
theorem convertDecimals_exact (interp : Interpreter) (decimals : Nat) :
    (∀ (raw : RawAmount) (n : Int), raw.Gives n → raw.Printable interp → ∃ numeral : DecimalNumeral,
      convertDecimals interp raw decimals defaultSeparator = .ok (numeral.text 46) ∧
        numeral.value = (n : ℚ) / 10 ^ decimals) ∧
    (∀ (raw raw' : RawAmount) (n n' : Int) (shown : Str), raw.Gives n → raw'.Gives n' →
      convertDecimals interp raw decimals defaultSeparator = .ok shown →
      convertDecimals interp raw' decimals defaultSeparator = .ok shown → n = n') ∧
    ∀ (raw : RawAmount) (n : Int), raw.Gives n → ¬ raw.Printable interp →
      convertDecimals interp raw decimals defaultSeparator = .error .valueError := by
  refine ⟨?_, ?_, ?_⟩
  · intro raw n gives printable
    rcases convertDecimals_gives gives decimals with ⟨shown, -⟩ | ⟨-, long⟩
    · exact ⟨ofParts n decimals, shown, value_ofParts n decimals⟩
    · contradiction
  · intro raw raw' n n' shown gives gives' first second
    rcases convertDecimals_gives gives decimals with ⟨text, -⟩ | ⟨failed, -⟩
    · rcases convertDecimals_gives gives' decimals with ⟨text', -⟩ | ⟨failed, -⟩
      -- equal texts are equal numerals, and these have the values of the amounts
      · have texts := (Except.ok.inj (text.symm.trans first)).trans (Except.ok.inj (text'.symm.trans second)).symm
        have values := congrArg value (text_injective digitChar_ne_mark texts)
        rw [value_ofParts, value_ofParts, div_left_inj' (by positivity)] at values
        exact_mod_cast values
      · cases failed.symm.trans second
    · cases failed.symm.trans first
  · intro raw n gives long
    rcases convertDecimals_gives gives decimals with ⟨-, printable⟩ | ⟨failed, -⟩
    · contradiction
    · exact failed

/-- Whatever the limit, there are numbers beyond it. -/
theorem power_unprintable {interp : Interpreter} (limited : interp.maxStrDigits ≠ 0) :
    ¬ RawAmount.Printable interp (.int (10 ^ interp.maxStrDigits)) := by
  refine not_not.mpr ⟨limited, ?_⟩
  have nonzero : Int.natAbs 10 ^ interp.maxStrDigits ≠ 0 := pow_ne_zero _ (by decide)
  rw [Int.natAbs_pow, decimalText_digits, List.length_map, Numeral.printed, if_neg nonzero, ← not_le,
    Numeral.length_ofNat_le (by decide)]
  exact lt_irrefl _

/-- A number of one digit more than the interpreter converts is not shown. -/
theorem longAmount_refused :
    latin1.maxStrDigits = 4300 ∧
    convertDecimals latin1 (.int (10 ^ latin1.maxStrDigits)) 8 defaultSeparator = .error .valueError ∧
      ¬ ∃ numeral : DecimalNumeral,
        convertDecimals latin1 (.int (10 ^ latin1.maxStrDigits)) 8 defaultSeparator = .ok (numeral.text 46) := by
  have long := @power_unprintable latin1 (by decide)
  have gives : RawAmount.Gives (10 ^ latin1.maxStrDigits) (.int (10 ^ latin1.maxStrDigits)) := rfl
  rcases @convertDecimals_gives latin1 _ _ gives 8 with ⟨-, printable⟩ | ⟨failed, -⟩
  · contradiction
  · refine ⟨rfl, failed, ?_⟩
    rintro ⟨numeral, shown⟩
    cases failed.symm.trans shown

/-- The methods of the responses show the canonical texts of amounts exactly. -/
theorem decimalAmount_exact (interp : Interpreter) (n : Int) :
    (∀ decimals : Nat, BalanceResult.decimalAmount interp ⟨canonicalText n, decimals⟩ =
      .ok ((ofParts n decimals).text 46)) ∧
    StakeResult.decimalAmount interp ⟨canonicalText n⟩ = .ok ((ofParts n 8).text 46) :=
  ⟨fun decimals => congrArg Except.ok (displayDecimals_canonical n decimals),
    congrArg Except.ok (displayDecimals_canonical n 8)⟩

end PhantasmaPy
