import PhantasmaPy.Python

/-! # Base64

`b64encode` and `b64decode` of Python's `base64`, and that the one reads what the other writes.
-/

namespace PhantasmaPy

open Wire

/-- The character of six bits. -/
def base64Char (bits : Nat) : CodePoint :=
  if bits < 26 then Fin.ofNat _ (65 + bits)
  else if bits < 52 then Fin.ofNat _ (97 + (bits - 26))
  else if bits < 62 then Fin.ofNat _ (48 + (bits - 52))
  else if bits = 62 then 43
  else 47

/-- The six bits of a character of the alphabet. -/
def base64Bits? (c : CodePoint) : Option Nat :=
  if 65 ≤ c.val ∧ c.val ≤ 90 then some (c.val - 65)
  else if 97 ≤ c.val ∧ c.val ≤ 122 then some (c.val - 97 + 26)
  else if 48 ≤ c.val ∧ c.val ≤ 57 then some (c.val - 48 + 52)
  else if c.val = 43 then some 62
  else if c.val = 47 then some 63
  else none

/-- Python's `base64.b64encode`, as text. -/
def b64encode : Bytes → Str
  | [] => []
  | [a] => [base64Char (a.toNat / 4), base64Char (a.toNat % 4 * 16), 61, 61]
  | [a, b] =>
    [base64Char (a.toNat / 4), base64Char (a.toNat % 4 * 16 + b.toNat / 16), base64Char (b.toNat % 16 * 4), 61]
  | a :: b :: c :: data =>
    base64Char (a.toNat / 4) :: base64Char (a.toNat % 4 * 16 + b.toNat / 16) ::
      base64Char (b.toNat % 16 * 4 + c.toNat / 64) :: base64Char (c.toNat % 64) :: b64encode data

/-- Python's `base64.b64decode` with `validate=True`: groups of four characters, of which only the last may be padded.
The bits that padding leaves over are not looked at. -/
def b64decode : Str → Option Bytes
  | [] => some []
  | c :: d :: e :: f :: text => do
    let first ← base64Bits? c
    let second ← base64Bits? d
    let head := UInt8.ofNat (first * 4 + second / 16)
    if e = 61 ∧ f = 61 ∧ text = [] then return [head]
    let third ← base64Bits? e
    let middle := UInt8.ofNat (second % 16 * 16 + third / 4)
    if f = 61 ∧ text = [] then return [head, middle]
    let fourth ← base64Bits? f
    let data ← b64decode text
    return head :: middle :: UInt8.ofNat (third % 4 * 64 + fourth) :: data
  | _ => none

/-- `base64.b64decode(text, validate=True)` returns. -/
def isBase64 (text : Str) : Bool := (b64decode text).isSome

theorem base64Bits?_char {bits : Nat} (small : bits < 64) : base64Bits? (base64Char bits) = some bits := by
  revert bits
  decide +kernel

/-- No character of the alphabet is the padding. -/
theorem base64Char_ne_padding {bits : Nat} (small : bits < 64) : base64Char bits ≠ 61 := by
  intro same
  have bits := base64Bits?_char small
  rw [same] at bits
  cases bits

theorem ofNat_of_eq {n : Nat} {byte : UInt8} (same : n = byte.toNat) : UInt8.ofNat n = byte := by
  rw [same, UInt8.ofNat_toNat]

theorem b64decode_b64encode (data : Bytes) : b64decode (b64encode data) = some data := by
  induction data using b64encode.induct with
  | case1 => rfl
  | case2 a =>
    have byte := a.toNat_lt
    rw [b64encode, b64decode, base64Bits?_char (by omega), base64Bits?_char (by omega)]
    have head : UInt8.ofNat (a.toNat / 4 * 4 + a.toNat % 4 * 16 / 16) = a := ofNat_of_eq (by omega)
    simp only [Option.bind_eq_bind, Option.bind_some, head]
    rfl
  | case3 a b =>
    have byte := a.toNat_lt
    have byte' := b.toNat_lt
    have solid : base64Char (b.toNat % 16 * 4) ≠ 61 := base64Char_ne_padding (by omega)
    rw [b64encode, b64decode, base64Bits?_char (by omega), base64Bits?_char (by omega), base64Bits?_char (by omega)]
    have head : UInt8.ofNat (a.toNat / 4 * 4 + (a.toNat % 4 * 16 + b.toNat / 16) / 16) = a :=
      ofNat_of_eq (by omega)
    have middle : UInt8.ofNat ((a.toNat % 4 * 16 + b.toNat / 16) % 16 * 16 + b.toNat % 16 * 4 / 4) = b :=
      ofNat_of_eq (by omega)
    simp only [Option.bind_eq_bind, Option.bind_some, head, middle, solid, false_and, if_false]
    rfl
  | case4 a b c data ih =>
    have byte := a.toNat_lt
    have byte' := b.toNat_lt
    have byte'' := c.toNat_lt
    -- no padding in this group, so that the decoder goes on behind it
    have third : base64Char (b.toNat % 16 * 4 + c.toNat / 64) ≠ 61 := base64Char_ne_padding (by omega)
    have fourth : base64Char (c.toNat % 64) ≠ 61 := base64Char_ne_padding (by omega)
    rw [b64encode, b64decode, base64Bits?_char (by omega), base64Bits?_char (by omega), base64Bits?_char (by omega),
      base64Bits?_char (by omega), ih]
    have head : UInt8.ofNat (a.toNat / 4 * 4 + (a.toNat % 4 * 16 + b.toNat / 16) / 16) = a :=
      ofNat_of_eq (by omega)
    have middle : UInt8.ofNat ((a.toNat % 4 * 16 + b.toNat / 16) % 16 * 16 +
        (b.toNat % 16 * 4 + c.toNat / 64) / 4) = b := ofNat_of_eq (by omega)
    have last : UInt8.ofNat ((b.toNat % 16 * 4 + c.toNat / 64) % 4 * 64 + c.toNat % 64) = c :=
      ofNat_of_eq (by omega)
    simp only [Option.bind_eq_bind, Option.bind_some, head, middle, last, third, fourth, false_and, if_false]
    rfl

theorem isBase64_b64encode (data : Bytes) : isBase64 (b64encode data) = true := by
  unfold isBase64
  rw [b64decode_b64encode]
  rfl

end PhantasmaPy
