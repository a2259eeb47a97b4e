import PhantasmaPy.Primitives

/-! # Carbon primitives

`CarbonWriter`, `CarbonReader` and the value classes built directly on them.
-/

namespace PhantasmaPy.Carbon

open Wire

abbrev CarbonWriter := Writer

abbrev CarbonReader := Reader

/-! ## Fixed-width byte values -/

/-- `FixedBytes`: a byte string of the class's `SIZE`. -/
structure FixedBytes (size : Nat) where
  raw : Bytes
  length_eq : raw.length = size
  deriving DecidableEq

abbrev Bytes16 := FixedBytes 16
abbrev Bytes32 := FixedBytes 32
abbrev Bytes64 := FixedBytes 64

namespace FixedBytes

def zero (size : Nat) : FixedBytes size := ⟨List.replicate size 0, List.length_replicate⟩

/-- The constructor on bytes; no bytes stand for the zero value. -/
def new (size : Nat) (value : Bytes) : Except PyError (FixedBytes size) :=
  if value.length = 0 ∧ size ≠ 0 then .ok (zero size)
  else if length : value.length = size then .ok ⟨value, length⟩
  else .error (serializationError s!"Bytes{size} length must be {size}, got {value.length}")

end FixedBytes

def EMPTY_BYTES16 : Bytes16 := .zero 16
def EMPTY_BYTES32 : Bytes32 := .zero 32
def EMPTY_BYTES64 : Bytes64 := .zero 64

/-! ## Writer -/

namespace CarbonWriter

def write2 (value : Int) : CarbonWriter Unit := writeSigned 2 value
def write4 (value : Int) : CarbonWriter Unit := writeSigned 4 value
def write4u (value : Int) : CarbonWriter Unit := writeUnsigned 4 value
def write8 (value : Int) : CarbonWriter Unit := writeSigned 8 value
def write8u (value : Int) : CarbonWriter Unit := writeUnsigned 8 value

def write16 (value : Bytes16) : CarbonWriter Unit := write value.raw
def write32 (value : Bytes32) : CarbonWriter Unit := write value.raw
def write64 (value : Bytes64) : CarbonWriter Unit := write value.raw

/-- `_big_int_word`. -/
def bigIntWord (value : Int) : Except PyError Bytes :=
  if bitLength value > 256 then .error (serializationError "BigInt overflow")
  else .ok (intToLE 32 value)

def writeBigInt (value : Int) : CarbonWriter Unit := do
  if value = 0 then
    write1 0
  else
    let word ← Put.check (bigIntWord value)
    let fill : UInt8 := if word.getD 31 0 &&& 0x80 ≠ 0 then 0xFF else 0x00
    let body := word.rdropWhile (· = fill)
    let header := (body.length &&& 0x3F) ||| (if fill = 0xFF then 0x80 else 0)
    write1 header
    write body

/-- `write4` of a length, which has never so many digits that its message could not be formed. -/
def writeCount (count : Nat) : CarbonWriter Unit :=
  if count < 2 ^ 31 then write4 count
  else throw (serializationError s!"i32 out of range: {count}")

/-- The count and elements of an array. -/
def writeArray {α : Type} (item : α → CarbonWriter Unit) (values : List α) : CarbonWriter Unit := do
  writeCount values.length
  Put.each item values

def writeBigIntArray (values : List Int) : CarbonWriter Unit := writeArray writeBigInt values

def writeStringZ (value : Str) : CarbonWriter Unit := do
  if 0 ∈ value then
    throw (serializationError "zero-terminated string contains a zero byte")
  else
    let raw ← Put.check (encodeText value)
    write raw
    write1 0

def writeByteArray (data : Bytes) : CarbonWriter Unit := do
  writeCount data.length
  write data

def writeByteArrays (values : List Bytes) : CarbonWriter Unit := writeArray writeByteArray values

/-- One element of `write_int_array`; width 1 keeps the low byte whatever the value. -/
def writeIntElement (width : Nat) (signed : Bool) (value : Int) : CarbonWriter Unit :=
  match width with
  | 1 => write1 (value % 256)
  | 2 => write2 value
  | 4 => write4 value
  | 8 => if signed then write8 value else write8u value
  | _ => throw (serializationError s!"unsupported integer width: {width}")

def writeIntArray (values : List Int) (width : Nat) (signed : Bool) : CarbonWriter Unit :=
  writeArray (writeIntElement width signed) values

end CarbonWriter

/-! ## Reader -/

namespace CarbonReader

/-- `read1`, whose result is a number. -/
def readByte : CarbonReader Int := do
  let byte ← read1
  return byte.toNat

def read2 : CarbonReader Int := readSigned 2
def read4 : CarbonReader Int := readSigned 4
def read4u : CarbonReader Int := readUnsigned 4
def read8 : CarbonReader Int := readSigned 8
def read8u : CarbonReader Int := readUnsigned 8

def readLength : CarbonReader Nat := do
  let length ← read4
  if length < 0 then
    throw (serializationError "negative array length")
  else
    let left ← remaining
    if length > left then
      throw (serializationError s!"array length {length} exceeds remaining bytes {left}")
    else
      return length.toNat

def readFixed (size : Nat) : CarbonReader (FixedBytes size) := do
  let raw ← read size
  Get.check (FixedBytes.new size raw)

def read16 : CarbonReader Bytes16 := readFixed 16
def read32 : CarbonReader Bytes32 := readFixed 32
def read64 : CarbonReader Bytes64 := readFixed 64

/-- `_int_from_word`. -/
def intFromWord (word : Bytes) : Except PyError Int :=
  if word.length ≠ 32 then .error (serializationError "BigInt word must be 32 bytes")
  else .ok (if word.getD 31 0 &&& 0x80 ≠ 0 then natOfLE word - 2 ^ 256 else natOfLE word)

/-- The part of `read_big_int_with_header` after the header byte is known. -/
def readBigIntBody (header : UInt8) : CarbonReader Int := do
  let length := (header &&& 0x3F).toNat
  if header = 0 then
    return 0
  else if header &&& 0x40 ≠ 0 ∨ length > 32 then
    throw (serializationError "BigInt too big")
  else
    let fill : UInt8 := if header &&& 0x80 ≠ 0 then 0xFF else 0x00
    let raw ← read length
    let word := raw ++ List.replicate (32 - length) fill
    if word.getD 31 0 &&& 0x80 ≠ header &&& 0x80 then
      throw (serializationError "non-standard BigInt header")
    else
      Get.check (intFromWord word)

def readBigIntWithHeader (header : Option UInt8) : CarbonReader Int :=
  match header with
  | some header => readBigIntBody header
  | none => do
    let header ← read1
    readBigIntBody header

def readBigInt : CarbonReader Int := readBigIntWithHeader none

/-- The elements of an array after its count. -/
def readArray {α : Type} (item : CarbonReader α) : CarbonReader (List α) := do
  let count ← readLength
  Get.times item count

def readBigIntArray : CarbonReader (List Int) := readArray readBigInt

/-- The bytes before the first zero byte and those after it. -/
def splitAtZero : Bytes → Option (Bytes × Bytes)
  | [] => none
  | b :: bs =>
    if b = 0 then some ([], bs)
    else (splitAtZero bs).map fun (raw, rest) => (b :: raw, rest)

/-- The loop of `read_string_z`, which stops after the first zero byte. -/
def readZeroTerminated : CarbonReader Bytes := do
  let input ← get
  match splitAtZero input with
  | none => throw endOfStream
  | some (raw, rest) =>
    set rest
    return raw

def readStringZ : CarbonReader Str := do
  let raw ← readZeroTerminated
  Get.check (decodeText raw)

def readStringZArray : CarbonReader (List Str) := readArray readStringZ

def readByteArray : CarbonReader Bytes := do
  let length ← readLength
  read length

def readByteArrays : CarbonReader (List Bytes) := readArray readByteArray

/-- One element of `read_int_array`. -/
def readIntElement (width : Nat) (signed : Bool) : CarbonReader Int :=
  match width with
  | 1 => do
    let value ← read1
    return if signed ∧ value.toNat ≥ 0x80 then value.toNat - 0x100 else value.toNat
  | 2 => read2
  | 4 => read4
  | 8 => if signed then read8 else read8u
  | _ => throw (serializationError s!"unsupported integer width: {width}")

def readIntArray (width : Nat) (signed : Bool) : CarbonReader (List Int) :=
  readArray (readIntElement width signed)

end CarbonReader

open CarbonWriter CarbonReader

/-! ## Short strings -/

/-- `SmallString`: a text of at most 255 UTF-8 bytes. -/
structure SmallString where
  value : Str
  fits : ∃ raw, encodeText value = .ok raw ∧ raw.length ≤ 255
  deriving DecidableEq

namespace SmallString

/-- The default value. -/
def empty : SmallString := ⟨[], [], rfl, by decide⟩

/-- The constructor with its `__post_init__` check. -/
def new (value : Str) : Except PyError SmallString :=
  match encoded : encodeText value with
  | .error e => .error e
  | .ok raw =>
    if short : raw.length ≤ 255 then .ok ⟨value, raw, encoded, short⟩
    else .error (serializationError "SmallString exceeds 255 UTF-8 bytes")

def writeCarbon (self : SmallString) : CarbonWriter Unit := do
  let raw ← Put.check (encodeText self.value)
  write1 raw.length
  write raw

def readCarbon : CarbonReader SmallString := do
  let length ← read1
  let raw ← read length.toNat
  let value ← Get.check (decodeText raw)
  Get.check (new value)

end SmallString

/-! ## Variable-width integers -/

/-- `IntX`. -/
structure IntX where
  value : Int
  deriving DecidableEq

namespace IntX

def is8ByteSafe (self : IntX) : Bool := -2 ^ 63 ≤ self.value ∧ self.value ≤ 2 ^ 63 - 1

def writeCarbon (self : IntX) : CarbonWriter Unit := do
  if self.is8ByteSafe then
    write1 (if self.value < 0 then 0x88 else 0x08)
    write8 self.value
  else
    writeBigInt self.value

/-- The reader after the header byte.  A header of length 8 is not checked for the bit `0x40`. -/
def readBody (header : UInt8) : CarbonReader IntX := do
  let length := header &&& 0x3F
  if length < 8 then
    throw (serializationError "invalid IntX packing")
  else if length = 8 then
    let raw ← read 8
    let value := intOfLE raw
    let headerNegative := decide (header &&& 0x80 ≠ 0)
    if headerNegative = decide (value < 0) then
      return ⟨value⟩
    else
      let fill : UInt8 := if headerNegative then 0xFF else 0x00
      let word := raw ++ List.replicate 24 fill
      let value ← Get.check (intFromWord word)
      return ⟨value⟩
  else
    let value ← readBigIntWithHeader (some header)
    return ⟨value⟩

def readCarbon : CarbonReader IntX := do
  let header ← read1
  readBody header

end IntX

/-! ## Whole images -/

/-- `serialize`: what the writer of the value appends to an empty buffer. -/
def serialize (writer : CarbonWriter Unit) : Except PyError Bytes := writer.bytes

/-- `deserialize`: the value read from all of the data. -/
def deserialize {α : Type} (reader : CarbonReader α) (data : Bytes) : Except PyError α :=
  readAll reader data

end PhantasmaPy.Carbon
