import PhantasmaPy.Wire.Numeral
import PhantasmaPy.Wire.Text

/-! # Exceptions and built-ins

The SDK's own exception classes, with their messages, the built-in exceptions that can escape from
the modelled functions, and the built-in operations that both wire formats use.
-/

namespace PhantasmaPy

open Wire

inductive PyError where
  | encodingError (message : Str)
  | serializationError (message : Str)
  | cryptoError (message : Str)
  | builderError (message : Str)
  | rpcError (message : Str)
  | valueError
  | unicodeEncodeError
  | unicodeDecodeError
  | overflowError
  | typeError
  | attributeError
  | recursionError
  deriving DecidableEq

/-- A `SerializationError` with a literal message. -/
def serializationError (message : String) : PyError := .serializationError (Str.ofString message)

/-- A `BuilderError` with a literal message. -/
def builderError (message : String) : PyError := .builderError (Str.ofString message)

/-- An `RPCError` with a literal message. -/
def rpcError (message : String) : PyError := .rpcError (Str.ofString message)

/-- A `CryptoError` with a literal message. -/
def cryptoError (message : String) : PyError := .cryptoError (Str.ofString message)

/-- A chain of fallible steps succeeds when each of them does. -/
theorem except_bind_eq_ok {ε α β : Type} {result : Except ε α} {f : α → Except ε β} {b : β} :
    (result >>= f) = .ok b ↔ ∃ a, result = .ok a ∧ f a = .ok b := by
  cases result with
  | error e => simp [bind, Except.bind]
  | ok a => simp [bind, Except.bind]

theorem map_eq_ok {ε α β : Type} {result : Except ε α} {f : α → β} {value : β} :
    result.map f = .ok value ↔ ∃ inner, result = .ok inner ∧ f inner = value := by
  cases result <;> simp [Except.map]

theorem mapError_eq_ok {ε ε' α : Type} {result : Except ε α} {f : ε → ε'} {value : α} :
    result.mapError f = .ok value ↔ result = .ok value := by
  cases result <;> simp [Except.mapError]

theorem toOption_eq_some {α : Type} {result : Except PyError α} {a : α} :
    result.toOption = some a ↔ result = .ok a := by
  cases result <;> simp [Except.toOption]

/-- Python's `str.encode("utf-8")`. -/
def encodeText (text : Str) : Except PyError Bytes :=
  match text.encodeUtf8 with
  | some raw => .ok raw
  | none => .error .unicodeEncodeError

/-- Python's `bytes.decode("utf-8")`. -/
def decodeText (raw : Bytes) : Except PyError Str :=
  match Str.decodeUtf8 raw with
  | some text => .ok text
  | none => .error .unicodeDecodeError

theorem encodeText_eq_ok {text : Str} {raw : Bytes} :
    encodeText text = .ok raw ↔ text.encodeUtf8 = some raw := by
  unfold encodeText
  cases text.encodeUtf8 <;> simp

theorem decodeText_eq_ok {text : Str} {raw : Bytes} :
    decodeText raw = .ok text ↔ Str.decodeUtf8 raw = some text := by
  unfold decodeText
  cases Str.decodeUtf8 raw <;> simp

theorem decodeText_iff_encodeText {text : Str} {raw : Bytes} :
    decodeText raw = .ok text ↔ encodeText text = .ok raw := by
  rw [decodeText_eq_ok, encodeText_eq_ok, Str.encodeUtf8_iff_decodeUtf8]

/-- Python's `int.bit_length`. -/
def bitLength (value : Int) : Nat := if value = 0 then 0 else value.natAbs.log2 + 1

theorem bitLength_le {value : Int} {bits : Nat} : bitLength value ≤ bits ↔ value.natAbs < 2 ^ bits := by
  unfold bitLength
  split
  next zero => simp [zero]
  next nonzero => rw [Nat.succ_le_iff, Nat.log2_lt (by omega)]

theorem bitLength_natCast_le {n bits : Nat} : bitLength n ≤ bits ↔ n < 2 ^ bits := bitLength_le

/-- The low bits of a number do not matter to its length. -/
theorem bitLength_add_mul {low bits high : Nat} (small : low < 2 ^ bits) (nonzero : high ≠ 0) :
    bitLength (low + 2 ^ bits * high : Nat) = bits + bitLength high := by
  refine eq_of_forall_ge_iff fun bound => ?_
  rw [bitLength_natCast_le]
  have positive : 1 ≤ high := Nat.one_le_iff_ne_zero.mpr nonzero
  rcases le_or_gt bits bound with enough | short
  · obtain ⟨rest, rfl⟩ := Nat.exists_eq_add_of_le enough
    rw [Nat.add_le_add_iff_left, bitLength_natCast_le, pow_add]
    constructor
    · intro bounded
      exact Nat.lt_of_mul_lt_mul_left (lt_of_le_of_lt (Nat.le_add_left _ _) bounded)
    · intro bounded
      calc low + 2 ^ bits * high < 2 ^ bits + 2 ^ bits * high := by omega
        _ = 2 ^ bits * (high + 1) := by ring
        _ ≤ 2 ^ bits * 2 ^ rest := Nat.mul_le_mul_left _ bounded
  · have power : 2 ^ bound < 2 ^ bits := Nat.pow_lt_pow_right (by decide) short
    have large : 2 ^ bits * 1 ≤ 2 ^ bits * high := Nat.mul_le_mul_left _ positive
    omega

/-! ## Integers in messages -/

/-- The default of the interpreter's limit on the digits of an integer that is converted to text. -/
def intMaxStrDigits : Nat := 4300

/-- The conversion of an integer in an f-string. -/
def formatInt (value : Int) : Except PyError String :=
  if intMaxStrDigits < (Numeral.printed 10 value.natAbs).length then .error .valueError else .ok (toString value)

/-- The integer has no more digits than the limit. -/
def Printable (value : Int) : Prop := value.natAbs < 10 ^ intMaxStrDigits

/-- Raise an exception with the integer in its message. -/
def raiseWith {α : Type} (value : Int) (error : String → PyError) : Except PyError α := do
  let text ← formatInt value
  .error (error text)

theorem formatInt_printable {value : Int} (printable : Printable value) : formatInt value = .ok (toString value) :=
  if_neg (not_lt.mpr ((Numeral.length_printed_le (by decide) (by decide)).mpr printable))

theorem formatInt_unprintable {value : Int} (long : ¬ Printable value) : formatInt value = .error .valueError :=
  if_pos (not_le.mp (mt (Numeral.length_printed_le (by decide) (by decide)).mp long))

theorem raiseWith_printable {α : Type} {value : Int} {error : String → PyError} (printable : Printable value) :
    (raiseWith value error : Except PyError α) = .error (error (toString value)) := by
  rw [raiseWith, formatInt_printable printable]
  rfl

theorem raiseWith_unprintable {α : Type} {value : Int} {error : String → PyError} (long : ¬ Printable value) :
    (raiseWith value error : Except PyError α) = .error .valueError := by
  rw [raiseWith, formatInt_unprintable long]
  rfl

/-- Either way an exception is raised. -/
theorem raiseWith_raises {α : Type} (value : Int) (error : String → PyError) :
    ∃ e, (raiseWith value error : Except PyError α) = .error e := by
  by_cases printable : Printable value
  · exact ⟨_, raiseWith_printable printable⟩
  · exact ⟨_, raiseWith_unprintable printable⟩

theorem raiseWith_ne_ok {α : Type} {value : Int} {error : String → PyError} {a : α} :
    raiseWith value error ≠ .ok a := by
  obtain ⟨e, raised⟩ := @raiseWith_raises α value error
  rw [raised]
  intro same
  cases same

/-- A `SerializationError` with an integer in its message is raised for the integers that can be printed. -/
theorem raiseWith_serialization {α : Type} {value : Int} {message : String → String} {e : PyError}
    (raised : (raiseWith value fun text => serializationError (message text) : Except PyError α) = .error e) :
    (∃ message, e = .serializationError message) ↔ Printable value := by
  by_cases printable : Printable value
  · rw [raiseWith_printable printable] at raised
    cases raised
    exact iff_of_true ⟨_, rfl⟩ printable
  · rw [raiseWith_unprintable printable] at raised
    cases raised
    exact iff_of_false (by rintro ⟨message, same⟩; cases same) printable

/-! ## Integer ranges -/

/-- The value fits an unsigned integer of `bits` bits. -/
def Unsigned (bits : Nat) (value : Int) : Prop := 0 ≤ value ∧ value < 2 ^ bits

/-- The value fits a signed integer of `bits` bits. -/
def Signed (bits : Nat) (value : Int) : Prop := -2 ^ (bits - 1) ≤ value ∧ value < 2 ^ (bits - 1)

instance (bits : Nat) (value : Int) : Decidable (Unsigned bits value) :=
  inferInstanceAs (Decidable (_ ∧ _))

instance (bits : Nat) (value : Int) : Decidable (Signed bits value) :=
  inferInstanceAs (Decidable (_ ∧ _))

/-- `_check_unsigned` of `binary.py` and `carbon.py`. -/
def checkUnsigned (value : Int) (bits : Nat) : Except PyError Int :=
  if value < 0 ∨ value ≥ 2 ^ bits then
    raiseWith value fun text => serializationError s!"u{bits} out of range: {text}"
  else .ok value

/-- `_check_signed` of `binary.py` and `carbon.py`. -/
def checkSigned (value : Int) (bits : Nat) : Except PyError Int :=
  if value < -2 ^ (bits - 1) ∨ value > 2 ^ (bits - 1) - 1 then
    raiseWith value fun text => serializationError s!"i{bits} out of range: {text}"
  else .ok value

theorem checkUnsigned_eq_ok {value checked : Int} {bits : Nat} :
    checkUnsigned value bits = .ok checked ↔ Unsigned bits value ∧ checked = value := by
  unfold checkUnsigned Unsigned
  split
  next outside =>
    simp only [raiseWith_ne_ok, false_iff]
    omega
  next inside =>
    simp only [Except.ok.injEq, eq_comm (a := value)]
    omega

theorem checkSigned_eq_ok {value checked : Int} {bits : Nat} :
    checkSigned value bits = .ok checked ↔ Signed bits value ∧ checked = value := by
  unfold checkSigned Signed
  split
  next outside =>
    simp only [raiseWith_ne_ok, false_iff]
    omega
  next inside =>
    simp only [Except.ok.injEq, eq_comm (a := value)]
    omega

theorem checkUnsigned_eq_error {value : Int} {bits : Nat} {e : PyError} (refused : checkUnsigned value bits = .error e) :
    ¬ Unsigned bits value ∧ ((∃ message, e = .serializationError message) ↔ Printable value) := by
  unfold checkUnsigned at refused
  split at refused
  next outside => exact ⟨by unfold Unsigned; omega, raiseWith_serialization refused⟩
  next => cases refused

theorem checkSigned_eq_error {value : Int} {bits : Nat} {e : PyError} (refused : checkSigned value bits = .error e) :
    ¬ Signed bits value ∧ ((∃ message, e = .serializationError message) ↔ Printable value) := by
  unfold checkSigned at refused
  split at refused
  next outside => exact ⟨by unfold Signed; omega, raiseWith_serialization refused⟩
  next => cases refused

theorem Unsigned.toNat_lt {width : Nat} {value : Int} (unsigned : Unsigned (8 * width) value) :
    value.toNat < 256 ^ width := by
  obtain ⟨nonneg, small⟩ := unsigned
  zify
  rwa [Int.toNat_of_nonneg nonneg, show (256 : Int) = 2 ^ 8 by norm_num, ← pow_mul]

theorem Signed.fitsSigned (width : Nat) {value : Int} (positive : 0 < width)
    (signed : Signed (8 * width) value) : FitsSigned width value := by
  have power : (256 : Int) ^ width = 2 * 2 ^ (8 * width - 1) := by
    rw [← pow_succ', show 8 * width - 1 + 1 = 8 * width by omega, pow_mul]
    norm_num
  unfold Signed at signed
  unfold FitsSigned
  omega

theorem Signed.of_fitsSigned (width : Nat) {value : Int} (positive : 0 < width)
    (fits : FitsSigned width value) : Signed (8 * width) value := by
  have power : (256 : Int) ^ width = 2 * 2 ^ (8 * width - 1) := by
    rw [← pow_succ', show 8 * width - 1 + 1 = 8 * width by omega, pow_mul]
    norm_num
  unfold FitsSigned at fits
  unfold Signed
  omega

/-- Python's `int.to_bytes(width, "little")`. -/
def intToBytes (width : Nat) (value : Int) : Except PyError Bytes :=
  if Unsigned (8 * width) value then .ok (natToLE width value.toNat) else .error .overflowError

theorem intToBytes_natCast_eq_ok {width n : Nat} {bytes : Bytes} :
    intToBytes width n = .ok bytes ↔ n < 256 ^ width ∧ bytes = natToLE width n := by
  have unsigned : Unsigned (8 * width) n ↔ n < 256 ^ width := by
    have power : (2 : Int) ^ (8 * width) = (256 ^ width : Nat) := by
      rw [pow_mul]
      norm_num
    unfold Unsigned
    rw [power]
    omega
  unfold intToBytes
  split
  next fits => simp only [Int.toNat_natCast, Except.ok.injEq, eq_comm, unsigned.mp fits, true_and]
  next outside => simp only [reduceCtorEq, mt unsigned.mpr outside, false_and]

theorem intToBytes_natCast {width n : Nat} (small : n < 256 ^ width) : intToBytes width n = .ok (natToLE width n) :=
  intToBytes_natCast_eq_ok.mpr ⟨small, rfl⟩

end PhantasmaPy
