import PhantasmaPy.Primitives

/-! # VM wire primitives

`BinaryWriter` and `BinaryReader`: variable-length counts, byte strings under them, and the two
encodings of integers.
-/

namespace PhantasmaPy.VM

open Wire

def MAX_ARRAY_SIZE : Nat := 0x1000000

/-! ## Integers as bytes -/

/-- `_big_int_to_csharp_bytes`: the shortest two's complement form. -/
def bigIntToCsharpBytes (value : Int) : Bytes :=
  if value = 0 then [0x00]
  else
    let bitCount := if value > 0 then bitLength value + 1 else bitLength (-value - 1) + 1
    let width := max 1 ((bitCount + 7) / 8)
    intToLE width value

/-- `big_int_to_vm_bytes`: the shortest form with padding. -/
def bigIntToVmBytes (value : Int) : Bytes :=
  let raw := bigIntToCsharpBytes value
  if value < 0 then
    if raw.length = 1 then raw ++ [0xFF, 0xFF]
    else if raw.getLastD 0 = 0xFF then raw ++ [0xFF]
    else raw
  else if raw.getLastD 0 ≠ 0x00 then raw ++ [0x00]
  else raw

/-- `vm_bytes_to_big_int`. -/
def vmBytesToBigInt (data : Bytes) : Int := if data.length = 0 then 0 else intOfLE data

/-! ## Writer -/

def writeU8 (value : Int) : Writer Unit := write1 value
def writeU16LE (value : Int) : Writer Unit := writeUnsigned 2 value
def writeU32LE (value : Int) : Writer Unit := writeUnsigned 4 value
def writeU64LE (value : Int) : Writer Unit := writeUnsigned 8 value

def writeBool (value : Bool) : Writer Unit := writeU8 (if value then 1 else 0)

def writeVarUint (value : Int) : Writer Unit := do
  if value < 0 then
    throw (serializationError "varuint cannot be negative")
  else if value < 0xFD then
    writeU8 value
  else if value ≤ 0xFFFF then
    writeU8 0xFD
    writeU16LE value
  else if value ≤ 0xFFFFFFFF then
    writeU8 0xFE
    writeU32LE value
  else
    writeU8 0xFF
    writeU64LE value

def writeVarBytes (data : Bytes) : Writer Unit := do
  writeVarUint data.length
  write data

def writeString (value : Str) : Writer Unit := do
  let raw ← Put.check (encodeText value)
  writeVarBytes raw

def writeBigInteger (value : Int) : Writer Unit := writeVarBytes (bigIntToVmBytes value)

/-! ## Reader -/

def readU8 : Reader UInt8 := read1
def readU16LE : Reader Int := readUnsigned 2
def readU32LE : Reader Int := readUnsigned 4
def readU64LE : Reader Int := readUnsigned 8

def readBool : Reader Bool := do
  let byte ← readU8
  return byte ≠ 0

def readVarUint : Reader Int := do
  let first ← readU8
  if first = 0xFD then
    readU16LE
  else if first = 0xFE then
    readU32LE
  else if first = 0xFF then
    readU64LE
  else
    return first.toNat

def readVarBytes : Reader Bytes := do
  let size ← readVarUint
  if size > MAX_ARRAY_SIZE then
    throw (serializationError s!"byte array too large: {size}")
  else
    read size

def readString : Reader Str := do
  let raw ← readVarBytes
  Get.check (decodeText raw)

def readBigInteger : Reader Int := do
  let raw ← readVarBytes
  return vmBytesToBigInt raw

/-! ## Laws -/

/-- A magnitude of `bits` bits fits in bytes with room for the sign. -/
theorem fitsSigned_of_bits {value : Int} {bits : Nat} (low : -2 ^ bits ≤ value)
    (high : value < 2 ^ bits) : FitsSigned (max 1 ((bits + 1 + 7) / 8)) value := by
  have room : bits + 1 ≤ 8 * max 1 ((bits + 1 + 7) / 8) := by omega
  have power : (2 : Int) * 2 ^ bits ≤ 256 ^ max 1 ((bits + 1 + 7) / 8) := by
    rw [← pow_succ', show (256 : Int) = 2 ^ 8 by norm_num, ← pow_mul]
    exact pow_le_pow_right₀ (by norm_num) room
  unfold FitsSigned
  omega

/-- The shortest form holds the value, so `int.to_bytes` does not overflow. -/
theorem csharpWidth_fits (value : Int) :
    FitsSigned (max 1 (((if value > 0 then bitLength value + 1 else bitLength (-value - 1) + 1) + 7) / 8))
      value := by
  split
  next positive =>
    have bound := bitLength_le.mp (Nat.le_refl (bitLength value))
    zify at bound
    obtain ⟨low, high⟩ := abs_lt.mp bound
    exact fitsSigned_of_bits (by omega) (by omega)
  next =>
    have bound := bitLength_le.mp (Nat.le_refl (bitLength (-value - 1)))
    zify at bound
    obtain ⟨low, high⟩ := abs_lt.mp bound
    exact fitsSigned_of_bits (by omega) (by omega)

theorem intOfLE_bigIntToCsharpBytes (value : Int) : intOfLE (bigIntToCsharpBytes value) = value := by
  unfold bigIntToCsharpBytes
  split
  next zero =>
    subst zero
    decide
  next => exact intOfLE_intToLE (csharpWidth_fits value)

theorem vmBytesToBigInt_eq (data : Bytes) : vmBytesToBigInt data = intOfLE data := by
  unfold vmBytesToBigInt
  split
  next empty =>
    rw [List.length_eq_zero_iff.mp empty]
    rfl
  next => rfl

/-- The padded form differs from the shortest by two sign bytes at most. -/
theorem bigIntToVmBytes_eq (value : Int) : ∃ count ≤ 2, bigIntToVmBytes value =
    bigIntToCsharpBytes value ++ List.replicate count (signFill (decide (value < 0))) := by
  unfold bigIntToVmBytes
  dsimp only
  split
  next negative =>
    rw [decide_eq_true negative]
    split
    · exact ⟨2, by decide, rfl⟩
    · split
      · exact ⟨1, by decide, rfl⟩
      · exact ⟨0, by decide, by simp⟩
  next nonneg =>
    rw [decide_eq_false nonneg]
    split
    · exact ⟨1, by decide, rfl⟩
    · exact ⟨0, by decide, by simp⟩

theorem vmBytesToBigInt_bigIntToVmBytes (value : Int) :
    vmBytesToBigInt (bigIntToVmBytes value) = value := by
  obtain ⟨count, -, padded⟩ := bigIntToVmBytes_eq value
  have short := intOfLE_bigIntToCsharpBytes value
  rw [vmBytesToBigInt_eq, padded, intOfLE_extend, short]
  rw [short]

/-- A marker byte and the field of the width that it selects. -/
theorem markedField {marker : UInt8} {width : Nat} {value : Int}
    (selects : (if marker = 0xFD then readU16LE else if marker = 0xFE then readU32LE
      else if marker = 0xFF then readU64LE else return (marker.toNat : Int)) = readUnsigned width)
    (range : Unsigned (8 * width) value) :
    ∃ out, (do writeU8 marker.toNat; writeUnsigned width value : Writer Unit).Emits () out ∧
      readVarUint.Parses out value := by
  obtain ⟨out, emits, parses⟩ := unsigned_roundTrips width value range
  refine ⟨[marker] ++ out, Put.Emits.bind (emits_write1.mpr ⟨?_, ?_⟩) emits,
    (read1_parses marker).bind ?_⟩
  · have bound := marker.toNat_lt
    exact ⟨by positivity, by exact_mod_cast bound⟩
  · rw [Int.toNat_natCast, UInt8.ofNat_toNat]
  · rw [selects]
    exact parses

theorem varUint_roundTrips : RoundTrips (Unsigned 64) writeVarUint readVarUint := by
  rintro value ⟨nonneg, small⟩
  unfold writeVarUint
  rw [if_neg (not_lt.mpr nonneg)]
  split
  next byte =>
    have value_eq : ((UInt8.ofNat value.toNat).toNat : Int) = value := by
      rw [UInt8.toNat_ofNat', Nat.mod_eq_of_lt (by omega), Int.toNat_of_nonneg nonneg]
    -- a value below 0xFD is no marker
    have unmarked (marker : UInt8) (large : 0xFD ≤ marker.toNat) :
        UInt8.ofNat value.toNat ≠ marker := by
      rintro rfl
      omega
    refine ⟨[UInt8.ofNat value.toNat], emits_write1.mpr ⟨⟨nonneg, by omega⟩, rfl⟩,
      (read1_parses _).bind_nil ?_⟩
    rw [if_neg (unmarked _ (by decide)), if_neg (unmarked _ (by decide)),
      if_neg (unmarked _ (by decide)), value_eq]
    exact Get.Parses.pure value
  next =>
    split
    next => exact @markedField 0xFD 2 _ rfl ⟨nonneg, by omega⟩
    next =>
      split
      next => exact @markedField 0xFE 4 _ rfl ⟨nonneg, by omega⟩
      next => exact @markedField 0xFF 8 _ rfl ⟨nonneg, small⟩

theorem readVarUint_local : readVarUint.Local :=
  read1_local.bind fun _ => Get.Local.ite (readUnsigned_local 2) (Get.Local.ite (readUnsigned_local 4)
    (Get.Local.ite (readUnsigned_local 8) (Get.Local.pure _)))

/-- A byte string that the reader does not find too large. -/
def Storable (data : Bytes) : Prop := data.length ≤ MAX_ARRAY_SIZE

theorem varBytes_roundTrips : RoundTrips Storable writeVarBytes readVarBytes := by
  intro data storable
  unfold Storable MAX_ARRAY_SIZE at storable
  obtain ⟨out, emits, parses⟩ := varUint_roundTrips data.length ⟨by positivity, by omega⟩
  refine ⟨out ++ data, emits.bind (emits_write.mpr rfl), parses.bind ?_⟩
  rw [if_neg (by unfold MAX_ARRAY_SIZE; omega)]
  exact read_parses rfl

theorem readVarBytes_local : readVarBytes.Local :=
  readVarUint_local.bind fun _ => Get.Local.ite (Get.Local.throw _) (read_local _)

/-- A text whose UTF-8 form exists and is not too large. -/
def StorableText (text : Str) : Prop := ∃ raw, encodeText text = .ok raw ∧ Storable raw

theorem string_roundTrips : RoundTrips StorableText writeString readString := by
  rintro text ⟨raw, encoded, storable⟩
  obtain ⟨out, emits, parses⟩ := varBytes_roundTrips raw storable
  refine ⟨out, ?_, parses.bind_nil (Get.Parses.check (decodeText_iff_encodeText.mpr encoded))⟩
  exact Put.emits_check_bind.mpr ⟨raw, encoded, emits⟩

theorem bigInteger_roundTrips :
    RoundTrips (fun value => Storable (bigIntToVmBytes value)) writeBigInteger readBigInteger := by
  intro value storable
  obtain ⟨out, emits, parses⟩ := varBytes_roundTrips _ storable
  refine ⟨out, emits, ?_⟩
  have parses := parses.map vmBytesToBigInt
  rwa [vmBytesToBigInt_bigIntToVmBytes] at parses

end PhantasmaPy.VM
