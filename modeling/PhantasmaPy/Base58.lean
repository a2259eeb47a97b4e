import PhantasmaPy.Numerals
import PhantasmaPy.Wire.Loop
import PhantasmaPy.Wire.Outcome

/-! # Base58 text

`encode_base58` and `decode_base58` of `encoding.py`.  Both are the conversion of digits between the bases 256 and
58 that keeps the zeros in front, so each undoes the other.
-/

namespace PhantasmaPy

open Wire

def BASE58_ALPHABET : Str := Str.ofString "123456789ABCDEFGHJKLMNPQRSTUVWXYZabcdefghijkmnopqrstuvwxyz"

/-! ## Encoding -/

/-- The test of the loop of `encode_base58`, and its body. -/
def encodeDigit : Nat × Str → (Nat × Str) ⊕ Str
  | (value, encoded) =>
    if value = 0 then .inr encoded
    else .inl (value / 58, BASE58_ALPHABET.getD (value % 58) 0 :: encoded)

theorem encodeDigit_next {value value' : Nat} {encoded encoded' : Str}
    (next : encodeDigit (value, encoded) = .inl (value', encoded')) :
    value ≠ 0 ∧ value' = value / 58 ∧ encoded' = BASE58_ALPHABET.getD (value % 58) 0 :: encoded := by
  by_cases zero : value = 0
  · rw [encodeDigit, if_pos zero] at next
    cases next
  · rw [encodeDigit, if_neg zero] at next
    cases next
    exact ⟨zero, rfl, rfl⟩

def encodeLoop : Loop (Nat × Str) Str where
  step := encodeDigit
  measure state := state.1
  decreases := by
    rintro ⟨value, encoded⟩ ⟨value', encoded'⟩ next
    obtain ⟨nonzero, rfl, -⟩ := encodeDigit_next next
    exact Nat.div_lt_self (Nat.pos_of_ne_zero nonzero) (by decide)

def encodeBase58 (data : Bytes) : Str :=
  let value := natOfLE data.reverse
  let encoded := encodeLoop.run (value, [])
  let leadingZeroes := data.length - (data.dropWhile (· = 0)).length
  List.replicate leadingZeroes 49 ++ encoded

/-! ## Decoding -/

/-- One round of the loop of `decode_base58`. -/
def decodeDigit (interp : Interpreter) (value : Nat) (char : CodePoint) : Except PyError Nat :=
  match BASE58_ALPHABET.idxOf? char with
  | some digit => .ok (value * 58 + digit)
  -- The `KeyError` of the index.
  | none => .error (.encodingError (Str.ofString "invalid base58 character: " ++ interp.repr [char]))

def decodeBase58 (interp : Interpreter) (text : Str) : Except PyError Bytes :=
  if text = [] then .error (encodingError "base58 text is empty")
  else do
    let value ← text.foldlM (decodeDigit interp) 0
    let raw := if value ≠ 0 then (natToLE ((bitLength value + 7) / 8) value).reverse else []
    let leadingZeroes := text.length - (text.dropWhile (· = 49)).length
    return List.replicate leadingZeroes 0 ++ raw

/-! ## Digits -/

def base58Char (digit : Nat) : CodePoint := BASE58_ALPHABET.getD digit 0

theorem idxOf?_base58Char : ∀ digit < 58, BASE58_ALPHABET.idxOf? (base58Char digit) = some digit := by
  decide +kernel

theorem base58Char_eq_one : ∀ digit < 58, base58Char digit = 49 ↔ digit = 0 := by
  decide +kernel

/-- The digits of a text over the alphabet. -/
theorem base58_digits {text : Str} (alphabet : ∀ c ∈ text, c ∈ BASE58_ALPHABET) :
    ∃ digits : List Nat, (∀ digit ∈ digits, digit < 58) ∧ text = digits.map base58Char := by
  induction text with
  | nil => exact ⟨[], nofun, rfl⟩
  | cons c text ih =>
    obtain ⟨head, tail⟩ := List.forall_mem_cons.mp alphabet
    obtain ⟨digits, small, same⟩ := ih tail
    obtain ⟨digit, bound, found⟩ := List.mem_iff_getElem.mp head
    refine ⟨digit :: digits, List.forall_mem_cons.mpr ⟨bound, small⟩, ?_⟩
    rw [List.map_cons, ← same, base58Char, List.getD_eq_getElem?_getD, List.getElem?_eq_getElem bound,
      Option.getD_some, found]

theorem natOfLE_reverse (data : Bytes) : natOfLE data.reverse = Numeral.value 256 (data.map UInt8.toNat) := by
  have digits (bs : Bytes) : natOfLE bs = Nat.ofDigits 256 (bs.map UInt8.toNat) := by
    induction bs with
    | nil => rfl
    | cons b bs ih =>
      rw [natOfLE, ih, List.map_cons, Nat.ofDigits_cons]
  rw [digits, Numeral.value_eq_ofDigits, List.map_reverse]

/-- The width in bytes that the bit length gives is the number of digits. -/
theorem byteWidth_eq (n : Nat) : (bitLength n + 7) / 8 = (Numeral.ofNat 256 n).length := by
  refine eq_of_forall_ge_iff fun width => ?_
  rw [Numeral.length_ofNat_le (by decide), show (256 : Nat) = 2 ^ 8 by rfl, ← pow_mul, ← bitLength_natCast_le]
  omega

theorem natToLE_digits (n : Nat) :
    natToLE (Nat.digits 256 n).length n = (Nat.digits 256 n).map UInt8.ofNat := by
  induction n using Nat.strongRecOn with
  | _ n ih =>
    by_cases zero : n = 0
    · subst zero
      rfl
    · have low : UInt8.ofNat n = UInt8.ofNat (n % 256) := by
        apply UInt8.toNat_inj.mp
        simp
      have smaller : n / 256 < n := Nat.div_lt_self (Nat.pos_of_ne_zero zero) (by decide)
      rw [Nat.digits_eq_cons_digits_div (by decide) zero, List.length_cons, natToLE, ih _ smaller, List.map_cons, low]

/-! ## The conversions -/

theorem encodeDigit_done {value : Nat} {encoded text : Str} (done : encodeDigit (value, encoded) = .inr text) :
    value = 0 ∧ text = encoded := by
  by_cases zero : value = 0
  · rw [encodeDigit, if_pos zero] at done
    cases done
    exact ⟨zero, rfl⟩
  · rw [encodeDigit, if_neg zero] at done
    cases done

/-- The digits of the value that is left, and those that are there, are the digits of the number. -/
def DigitsLeft (number : Nat) (state : Nat × Str) : Prop :=
  (Numeral.ofNat 58 state.1).map base58Char ++ state.2 = (Numeral.ofNat 58 number).map base58Char

theorem encodeLoop_run (number : Nat) :
    encodeLoop.run (number, []) = (Numeral.ofNat 58 number).map base58Char := by
  have start : DigitsLeft number (number, []) := List.append_nil _
  let done (text : Str) : Prop := text = (Numeral.ofNat 58 number).map base58Char
  refine @Loop.run_ensures _ _ encodeLoop (number, []) (DigitsLeft number) done ?_ ?_ start
  · rintro ⟨value, encoded⟩ ⟨value', encoded'⟩ before next
    obtain ⟨nonzero, rfl, rfl⟩ := encodeDigit_next next
    -- The lowest digit moves from the value to the text.
    unfold DigitsLeft at before
    rw [Numeral.ofNat_step (by decide) nonzero, List.map_append, List.append_assoc] at before
    exact before
  · rintro ⟨value, encoded⟩ text before done
    obtain ⟨rfl, rfl⟩ := encodeDigit_done done
    unfold DigitsLeft at before
    rwa [Numeral.ofNat_zero, List.map_nil, List.nil_append] at before

theorem encodeBase58_eq (data : Bytes) :
    encodeBase58 data = (Numeral.convert 256 58 (data.map UInt8.toNat)).map base58Char := by
  have stripped : (data.map UInt8.toNat).dropWhile (· = 0) = (data.dropWhile (· = 0)).map UInt8.toNat :=
    dropWhile_map fun byte _ => by simp [← UInt8.toNat_inj]
  have one : base58Char 0 = 49 := by decide
  unfold encodeBase58 Numeral.convert Numeral.leadingZeros
  dsimp only
  rw [encodeLoop_run, natOfLE_reverse, List.map_append, List.map_replicate, one, stripped, List.length_map,
    List.length_map]

/-- A loop from the left computes the value of the digits. -/
theorem decodeDigits (interp : Interpreter) {digits : List Nat} (small : ∀ digit ∈ digits, digit < 58) (value : Nat) :
    (digits.map base58Char).foldlM (decodeDigit interp) value =
      .ok (digits.foldl (fun value digit => 58 * value + digit) value) := by
  induction digits generalizing value with
  | nil => rfl
  | cons digit digits ih =>
    obtain ⟨head, tail⟩ := List.forall_mem_cons.mp small
    have round : decodeDigit interp value (base58Char digit) = .ok (58 * value + digit) := by
      unfold decodeDigit
      rw [idxOf?_base58Char digit head, mul_comm]
    rw [List.map_cons, List.foldlM_cons, round]
    exact ih tail _

theorem decodeBase58_eq (interp : Interpreter) {digits : List Nat} (some : digits ≠ [])
    (small : ∀ digit ∈ digits, digit < 58) :
    decodeBase58 interp (digits.map base58Char) = .ok ((Numeral.convert 58 256 digits).map UInt8.ofNat) := by
  have stripped : (digits.map base58Char).dropWhile (· = 49) = (digits.dropWhile (· = 0)).map base58Char :=
    dropWhile_map fun digit member => decide_eq_decide.mpr (base58Char_eq_one digit (small digit member))
  have raw (value : Nat) : (if value ≠ 0 then (natToLE ((bitLength value + 7) / 8) value).reverse else []) =
      (Numeral.ofNat 256 value).map UInt8.ofNat := by
    split
    next => rw [byteWidth_eq, Numeral.ofNat, List.length_reverse, natToLE_digits, List.map_reverse]
    next zero => rw [not_not.mp zero, Numeral.ofNat_zero, List.map_nil]
  unfold decodeBase58
  rw [if_neg (by simpa using some), decodeDigits interp small]
  change Except.ok _ = _
  rw [raw, stripped, List.length_map, List.length_map, Numeral.convert, List.map_append, List.map_replicate]
  rfl

/-! ## Round trips -/

theorem map_toNat_ofNat {digits : List Nat} (small : ∀ digit ∈ digits, digit < 256) :
    (digits.map UInt8.ofNat).map UInt8.toNat = digits := by
  rw [List.map_map, List.map_congr_left (fun digit member => ?_), List.map_id]
  exact UInt8.toNat_ofNat_of_lt' (small digit member)

theorem forall_toNat_lt (data : Bytes) : ∀ digit ∈ data.map UInt8.toNat, digit < 256 := by
  intro digit member
  obtain ⟨byte, -, rfl⟩ := List.mem_map.mp member
  exact byte.toNat_lt

theorem decodeBase58_encodeBase58 (interp : Interpreter) {data : Bytes} (some : data ≠ []) :
    decodeBase58 interp (encodeBase58 data) = .ok data := by
  have small := forall_toNat_lt data
  have nonempty : Numeral.convert 256 58 (data.map UInt8.toNat) ≠ [] :=
    Numeral.convert_ne_nil (by decide) small (by simpa using some)
  rw [encodeBase58_eq, decodeBase58_eq interp nonempty (Numeral.convert_lt (by decide) _),
    Numeral.convert_convert (by decide) small, List.map_map]
  exact congrArg Except.ok (List.map_id'' (fun byte => UInt8.ofNat_toNat) data)

theorem encodeBase58_ne_nil {data : Bytes} (some : data ≠ []) : encodeBase58 data ≠ [] := by
  have nonempty : Numeral.convert 256 58 (data.map UInt8.toNat) ≠ [] :=
    Numeral.convert_ne_nil (by decide) (forall_toNat_lt data) (by simpa using some)
  simpa [encodeBase58_eq] using nonempty

theorem encodeBase58_decodeBase58 (interp : Interpreter) {text : Str} (some : text ≠ [])
    (alphabet : ∀ c ∈ text, c ∈ BASE58_ALPHABET) :
    ∃ data, decodeBase58 interp text = .ok data ∧ encodeBase58 data = text := by
  obtain ⟨digits, small, rfl⟩ := base58_digits alphabet
  have nonempty : digits ≠ [] := by
    rintro rfl
    contradiction
  refine ⟨_, decodeBase58_eq interp nonempty small, ?_⟩
  rw [encodeBase58_eq, map_toNat_ofNat (Numeral.convert_lt (by decide) _), Numeral.convert_convert (by decide) small]

/-- A character outside the alphabet stops the loop, wherever it stands. -/
theorem decodeDigits_outside (interp : Interpreter) {text : Str} {c : CodePoint} (member : c ∈ text)
    (outside : c ∉ BASE58_ALPHABET) (value : Nat) :
    ∃ message, text.foldlM (decodeDigit interp) value = .error (.encodingError message) := by
  induction text generalizing value with
  | nil => contradiction
  | cons first text ih =>
    rw [List.foldlM_cons]
    cases found : BASE58_ALPHABET.idxOf? first with
    | none =>
      unfold decodeDigit
      rw [found]
      exact ⟨_, rfl⟩
    | some digit =>
      have known : first ∈ BASE58_ALPHABET := by
        rw [← List.isSome_idxOf?, found]
        rfl
      -- the first character is in the alphabet, so that the stray one comes later
      have later : c ∈ text := by
        rcases List.mem_cons.mp member with rfl | later
        · contradiction
        · exact later
      obtain ⟨message, failed⟩ := ih later (value * 58 + digit)
      unfold decodeDigit
      rw [found]
      exact ⟨message, failed⟩

theorem decodeBase58_outside (interp : Interpreter) {text : Str}
    (outside : text = [] ∨ ∃ c ∈ text, c ∉ BASE58_ALPHABET) :
    ∃ message, decodeBase58 interp text = .error (.encodingError message) := by
  unfold decodeBase58
  rcases outside with empty | ⟨c, member, outside⟩
  · rw [if_pos empty]
    exact ⟨_, rfl⟩
  · obtain ⟨message, failed⟩ := decodeDigits_outside interp member outside 0
    rw [if_neg (List.ne_nil_of_mem member), failed]
    exact ⟨message, rfl⟩

/-- The texts that decode are the texts of the byte strings with a byte. -/
theorem decodeBase58_eq_ok (interp : Interpreter) {text : Str} {data : Bytes} :
    decodeBase58 interp text = .ok data ↔ data ≠ [] ∧ encodeBase58 data = text := by
  constructor
  · intro decoded
    have some : text ≠ [] := by
      rintro rfl
      cases decoded
    have alphabet : ∀ c ∈ text, c ∈ BASE58_ALPHABET := by
      by_contra other
      simp only [not_forall] at other
      obtain ⟨c, member, outside⟩ := other
      obtain ⟨message, failed⟩ := decodeBase58_outside interp (.inr ⟨c, member, outside⟩)
      cases failed.symm.trans decoded
    obtain ⟨back, found, same⟩ := encodeBase58_decodeBase58 interp some alphabet
    obtain rfl := Except.ok.inj (found.symm.trans decoded)
    refine ⟨?_, same⟩
    rintro rfl
    exact some (same.symm.trans (by rw [encodeBase58_eq, List.map_nil, Numeral.convert_nil, List.map_nil]))
  · rintro ⟨some, rfl⟩
    exact decodeBase58_encodeBase58 interp some

/-- Decoding fails with an `EncodingError` only. -/
theorem decodeBase58_outcome (interp : Interpreter) (text : Str) :
    Outcome (fun _ => True) (fun e => ∃ message, e = .encodingError message) (decodeBase58 interp text) := by
  by_cases alphabet : text ≠ [] ∧ ∀ c ∈ text, c ∈ BASE58_ALPHABET
  · obtain ⟨data, decoded, -⟩ := encodeBase58_decodeBase58 interp alphabet.1 alphabet.2
    rw [decoded]
    trivial
  · have outside : text = [] ∨ ∃ c ∈ text, c ∉ BASE58_ALPHABET := by
      simp only [not_and_or, not_not, not_forall] at alphabet
      simpa using alphabet
    obtain ⟨message, failed⟩ := decodeBase58_outside interp outside
    rw [failed]
    exact ⟨message, rfl⟩

/-- A text is of the letters and digits of the alphabet. -/
theorem encodeBase58_ascii (data : Bytes) : ∀ c ∈ encodeBase58 data, c.val < 128 := by
  have ascii : ∀ digit < 58, (base58Char digit).val < 128 := by decide +kernel
  rw [encodeBase58_eq]
  intro c member
  obtain ⟨digit, listed, rfl⟩ := List.mem_map.mp member
  exact ascii digit (Numeral.convert_lt (by decide) _ digit listed)

/-- Base58 is a bijection between the byte strings with a byte and the texts with a character, all of them of the
    alphabet; every other text is refused. -/
theorem base58_bijective (interp : Interpreter) :
    (∀ data, data ≠ [] → decodeBase58 interp (encodeBase58 data) = .ok data) ∧
      (∀ text : Str, text ≠ [] → (∀ c ∈ text, c ∈ BASE58_ALPHABET) →
        ∃ data, decodeBase58 interp text = .ok data ∧ encodeBase58 data = text) ∧
      ∀ text : Str, ¬ (text ≠ [] ∧ ∀ c ∈ text, c ∈ BASE58_ALPHABET) →
        ∃ message, decodeBase58 interp text = .error (.encodingError message) := by
  refine ⟨fun data => decodeBase58_encodeBase58 interp, fun text => encodeBase58_decodeBase58 interp, ?_⟩
  intro text other
  refine decodeBase58_outside interp ?_
  by_cases empty : text = []
  · exact .inl empty
  · obtain ⟨c, member, outside⟩ := not_forall₂.mp fun alphabet => other ⟨empty, alphabet⟩
    exact .inr ⟨c, member, outside⟩

end PhantasmaPy
