import PhantasmaPy.Python

/-! # Hex text

`decode_hex` of `encoding.py`, over the built-ins `str.strip` and `bytes.fromhex`.
-/

namespace PhantasmaPy

open Wire

/-- An `EncodingError` with a literal message. -/
def encodingError (message : String) : PyError := .encodingError (Str.ofString message)

/-- Python's `str.isspace` of one character. -/
def isSpace (c : CodePoint) : Bool :=
  (9 ≤ c.val && c.val ≤ 13) || (28 ≤ c.val && c.val ≤ 32) || c.val = 0x85 || c.val = 0xA0 ||
    c.val = 0x1680 || (0x2000 ≤ c.val && c.val ≤ 0x200A) || c.val = 0x2028 || c.val = 0x2029 ||
    c.val = 0x202F || c.val = 0x205F || c.val = 0x3000

/-- The characters that `bytes.fromhex` skips between two bytes. -/
def isHexSpace (c : CodePoint) : Bool := (9 ≤ c.val && c.val ≤ 13) || c.val = 32

/-- The value of a hex digit of either case. -/
def hexDigit? (c : CodePoint) : Option Nat :=
  if 48 ≤ c.val ∧ c.val ≤ 57 then some (c.val - 48)
  else if 65 ≤ c.val ∧ c.val ≤ 70 then some (c.val - 55)
  else if 97 ≤ c.val ∧ c.val ≤ 102 then some (c.val - 87)
  else none

/-- Python's `str.strip`. -/
def strip (text : Str) : Str :=
  ((text.dropWhile isSpace).reverse.dropWhile isSpace).reverse

/-- Python's `str.removeprefix`. -/
def removePrefix (start text : Str) : Str :=
  if start.isPrefixOf text then text.drop start.length else text

/-- Python's `bytes.fromhex`. -/
def fromHex : Str → Except PyError Bytes
  | [] => .ok []
  | [c] => if isHexSpace c then .ok [] else .error .valueError
  | c :: d :: text =>
    if isHexSpace c then fromHex (d :: text)
    else
      match hexDigit? c, hexDigit? d with
      | some high, some low => do
        let raw ← fromHex text
        return UInt8.ofNat (16 * high + low) :: raw
      | _, _ => .error .valueError

/-- `decode_hex`. -/
def decodeHex (value : Str) : Except PyError Bytes := do
  let text := strip value
  let text :=
    if (Str.ofString "0x").isPrefixOf text || (Str.ofString "0X").isPrefixOf text then text.drop 2
    else text
  if text.length % 2 ≠ 0 then
    throw (encodingError "hex value must contain an even number of digits")
  match fromHex text with
  | .ok raw => return raw
  | .error _ => throw (encodingError "invalid hex value")

example : decodeHex (Str.ofString " 0x0aFf ") = .ok [10, 255] := by decide +kernel

end PhantasmaPy
