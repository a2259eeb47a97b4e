import PhantasmaPy.Python
import PhantasmaPy.Wire.Codec

/-! # Byte streams

The operations that the writers and readers of both wire formats have in common, and their laws.
A reader's state is the part of the input after its offset.
-/

namespace PhantasmaPy

open Wire

abbrev Writer := Put PyError

abbrev Reader := Get PyError

/-! ## Operations -/

def write (data : Bytes) : Writer Unit := Put.tell data

/-- `write1` and `write_u8`. -/
def write1 (value : Int) : Writer Unit :=
  if value < 0 ∨ value > 0xFF then
    Put.check (raiseWith value fun text => serializationError s!"u8 out of range: {text}")
  else Put.tell [UInt8.ofNat value.toNat]

/-- `struct.pack` of a checked signed integer. -/
def writeSigned (width : Nat) (value : Int) : Writer Unit := do
  let value ← Put.check (checkSigned value (8 * width))
  write (intToLE width value)

/-- `struct.pack` of a checked unsigned integer. -/
def writeUnsigned (width : Nat) (value : Int) : Writer Unit := do
  let value ← Put.check (checkUnsigned value (8 * width))
  write (natToLE width value.toNat)

def endOfStream : PyError := serializationError "end of stream reached"

def remaining : Reader Nat := Get.remaining

def assertEof : Reader Unit := do
  let left ← remaining
  if left ≠ 0 then
    throw (serializationError s!"unexpected trailing bytes: {left}")
  else
    return ()

def read (count : Int) : Reader Bytes :=
  if count < 0 then throw endOfStream else Get.take endOfStream count.toNat

/-- `read1` and `read_u8`. -/
def read1 : Reader UInt8 := do
  let raw ← read 1
  return raw.getD 0 0

/-- `struct.unpack` of a signed integer. -/
def readSigned (width : Nat) : Reader Int := do
  let raw ← read width
  return intOfLE raw

/-- `struct.unpack` of an unsigned integer. -/
def readUnsigned (width : Nat) : Reader Int := do
  let raw ← read width
  return natOfLE raw

/-- Read a value from all of the data, as `deserialize` and `VMObject.from_bytes` do. -/
def readAll {α : Type} (reader : Reader α) (data : Bytes) : Except PyError α := do
  let (value, rest) ← reader.run data
  let _ ← assertEof.run rest
  return value

/-! ## Laws -/

theorem yields_read {count : Int} {bs out rest : Bytes} :
    (read count).Yields bs out rest ↔
      0 ≤ count ∧ count.toNat ≤ bs.length ∧ out = bs.take count.toNat ∧
        rest = bs.drop count.toNat := by
  unfold read
  split
  next negative => simp [negative]
  next nonneg => simp [not_lt.mp nonneg]

theorem read_local (count : Int) : (read count).Local :=
  Get.Local.ite (Get.Local.throw _) (Get.Local.take _ _)

theorem read_parses {bs : Bytes} {count : Int} (length : count = bs.length) :
    (read count).Parses bs bs := by
  intro rest
  rw [yields_read]
  subst length
  simp

theorem yields_readExact {count : Int} {bs out rest : Bytes}
    (yields : (read count).Yields bs out rest) : (out.length : Int) = count ∧ bs = out ++ rest := by
  obtain ⟨nonneg, enough, rfl, rfl⟩ := yields_read.mp yields
  refine ⟨?_, (List.take_append_drop _ bs).symm⟩
  rw [List.length_take, Nat.min_eq_left enough, Int.toNat_of_nonneg nonneg]

theorem read_consumes {count : Int} (positive : 0 < count) : (read count).Consumes := by
  intro bs out rest yields
  obtain ⟨length, rfl⟩ := yields_readExact yields
  rw [List.length_append]
  omega

theorem read1_local : read1.Local := (read_local 1).bind fun _ => Get.Local.pure _

theorem read1_parses (b : UInt8) : read1.Parses [b] b :=
  (@read_parses [b] 1 rfl).map fun raw => raw.getD 0 0

theorem read1_consumes : read1.Consumes :=
  (read_consumes (by decide)).bind fun _ => (Get.Local.pure _).steady

theorem yields_read1 {bs rest : Bytes} {b : UInt8} (yields : read1.Yields bs b rest) :
    bs = b :: rest := by
  obtain ⟨raw, mid, head, tail⟩ := Get.yields_bind.mp yields
  obtain ⟨rfl, rfl⟩ := Get.yields_pure.mp tail
  obtain ⟨length, rfl⟩ := yields_readExact head
  match raw, length with
  | [b], _ => rfl

theorem readSigned_local (width : Nat) : (readSigned width).Local :=
  (read_local _).bind fun _ => Get.Local.pure _

theorem readUnsigned_local (width : Nat) : (readUnsigned width).Local :=
  (read_local _).bind fun _ => Get.Local.pure _

theorem readSigned_consumes {width : Nat} (positive : 0 < width) : (readSigned width).Consumes :=
  (read_consumes (by exact_mod_cast positive)).bind fun _ => (Get.Local.pure _).steady

theorem readUnsigned_consumes {width : Nat} (positive : 0 < width) :
    (readUnsigned width).Consumes :=
  (read_consumes (by exact_mod_cast positive)).bind fun _ => (Get.Local.pure _).steady

theorem emits_write1 {value : Int} {out : Bytes} :
    (write1 value).Emits () out ↔ Unsigned 8 value ∧ out = [UInt8.ofNat value.toNat] := by
  unfold write1 Unsigned
  split
  next outside =>
    simp only [Put.emits_check, raiseWith_ne_ok, false_and, false_iff]
    omega
  next inside =>
    simp only [Put.emits_tell, iff_and_self]
    omega

theorem emits_writeSigned {width : Nat} {value : Int} {out : Bytes} :
    (writeSigned width value).Emits () out ↔
      Signed (8 * width) value ∧ out = intToLE width value := by
  unfold writeSigned write
  simp only [Put.emits_check_bind, checkSigned_eq_ok, Put.emits_tell]
  constructor
  · rintro ⟨_, ⟨signed, rfl⟩, rfl⟩
    exact ⟨signed, rfl⟩
  · rintro ⟨signed, rfl⟩
    exact ⟨value, ⟨signed, rfl⟩, rfl⟩

/-- A number out of range is refused before anything is written. -/
theorem write1_refused {value : Int} (outside : ¬ Unsigned 8 value) : ∃ e, write1 value = .failed e [] := by
  obtain ⟨e, raised⟩ := @raiseWith_raises Unit value fun text => serializationError s!"u8 out of range: {text}"
  unfold Unsigned at outside
  unfold write1
  rw [if_pos (by omega), raised]
  exact ⟨e, rfl⟩

theorem writeUnsigned_refused {width : Nat} {value : Int} (outside : ¬ Unsigned (8 * width) value) :
    ∃ e, writeUnsigned width value = .failed e [] := by
  obtain ⟨e, raised⟩ := @raiseWith_raises Int value
    fun text => serializationError s!"u{8 * width} out of range: {text}"
  unfold Unsigned at outside
  unfold writeUnsigned checkUnsigned
  rw [if_pos (by omega), raised]
  exact ⟨e, rfl⟩

/-- A number out of range is refused with the codec's own error, if it can be printed. -/
theorem writeSigned_fails {width : Nat} {value : Int} {e : PyError} (fails : (writeSigned width value).Fails e) :
    ¬ Signed (8 * width) value ∧ ((∃ message, e = .serializationError message) ↔ Printable value) := by
  rcases Put.fails_bind.mp fails with refused | ⟨_, _, _, written⟩
  · rw [Put.fails_check] at refused
    exact checkSigned_eq_error refused
  · exact absurd written Put.not_fails_tell

theorem writeUnsigned_fails {width : Nat} {value : Int} {e : PyError} (fails : (writeUnsigned width value).Fails e) :
    ¬ Unsigned (8 * width) value ∧ ((∃ message, e = .serializationError message) ↔ Printable value) := by
  rcases Put.fails_bind.mp fails with refused | ⟨_, _, _, written⟩
  · rw [Put.fails_check] at refused
    exact checkUnsigned_eq_error refused
  · exact absurd written Put.not_fails_tell

theorem emits_writeUnsigned {width : Nat} {value : Int} {out : Bytes} :
    (writeUnsigned width value).Emits () out ↔
      Unsigned (8 * width) value ∧ out = natToLE width value.toNat := by
  unfold writeUnsigned write
  simp only [Put.emits_check_bind, checkUnsigned_eq_ok, Put.emits_tell]
  constructor
  · rintro ⟨_, ⟨unsigned, rfl⟩, rfl⟩
    exact ⟨unsigned, rfl⟩
  · rintro ⟨unsigned, rfl⟩
    exact ⟨value, ⟨unsigned, rfl⟩, rfl⟩

theorem signed_roundTrips {width : Nat} (positive : 0 < width) :
    RoundTrips (Signed (8 * width)) (writeSigned width) (readSigned width) := by
  intro value signed
  refine ⟨_, emits_writeSigned.mpr ⟨signed, rfl⟩, ?_⟩
  have parses := (@read_parses (intToLE width value) width (by simp)).map intOfLE
  rwa [intOfLE_intToLE (signed.fitsSigned width positive)] at parses

theorem unsigned_roundTrips (width : Nat) :
    RoundTrips (Unsigned (8 * width)) (writeUnsigned width) (readUnsigned width) := by
  intro value unsigned
  refine ⟨_, emits_writeUnsigned.mpr ⟨unsigned, rfl⟩, ?_⟩
  have parses := (@read_parses (natToLE width value.toNat) width (by simp)).map
    fun raw => (natOfLE raw : Int)
  rwa [natOfLE_natToLE unsigned.toNat_lt, Int.toNat_of_nonneg unsigned.1] at parses

theorem signed_restores {width : Nat} (positive : 0 < width) :
    Restores (writeSigned width) (readSigned width) := by
  intro bs value rest yields
  obtain ⟨raw, mid, head, tail⟩ := Get.yields_bind.mp yields
  obtain ⟨rfl, rfl⟩ := Get.yields_pure.mp tail
  obtain ⟨length, rfl⟩ := yields_readExact head
  obtain rfl : raw.length = width := by exact_mod_cast length
  exact ⟨raw, rfl, emits_writeSigned.mpr
    ⟨Signed.of_fitsSigned _ positive (fitsSigned_intOfLE raw), (intToLE_intOfLE raw).symm⟩⟩

theorem unsigned_restores (width : Nat) : Restores (writeUnsigned width) (readUnsigned width) := by
  intro bs value rest yields
  obtain ⟨raw, mid, head, tail⟩ := Get.yields_bind.mp yields
  obtain ⟨rfl, rfl⟩ := Get.yields_pure.mp tail
  obtain ⟨length, rfl⟩ := yields_readExact head
  obtain rfl : raw.length = width := by exact_mod_cast length
  refine ⟨raw, rfl, emits_writeUnsigned.mpr ⟨⟨by positivity, ?_⟩, ?_⟩⟩
  · have bound := natOfLE_lt raw
    rw [pow_mul]
    exact_mod_cast bound
  · rw [Int.toNat_natCast, natToLE_natOfLE]

theorem emits_write {data out : Bytes} : (write data).Emits () out ↔ out = data := Put.emits_tell

theorem readAll_eq_ok {α : Type} {reader : Reader α} {data : Bytes} {value : α} :
    readAll reader data = .ok value ↔ reader.Yields data value [] := by
  unfold readAll Get.Yields
  cases reader.run data with
  | error e =>
    constructor <;> (intro absurd; cases absurd)
  | ok result =>
    obtain ⟨value', rest⟩ := result
    cases rest with
    | nil =>
      constructor
      · intro same
        cases same
        rfl
      · intro same
        cases same
        rfl
    | cons b rest =>
      constructor <;> (intro absurd; cases absurd)

end PhantasmaPy
