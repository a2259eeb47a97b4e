import PhantasmaPy.Carbon.BigIntCodec
import PhantasmaPy.Carbon.MetadataKept

/-! # Overflow of 256-bit numbers

The writer checks the length of the magnitude and then reduces the number.  Above the range the two agree; below
it there is a gap of `2 ^ 255` numbers that pass the check and are written as positive ones.
-/

namespace PhantasmaPy.Carbon

open Wire CarbonWriter CarbonReader

/-! ## The writer outside the range -/

theorem bigIntWord_refused {value : Int} (wide : value ≤ -2 ^ 256 ∨ 2 ^ 256 ≤ value) :
    bigIntWord value = .error (serializationError "BigInt overflow") := by
  have long : bitLength value > 256 := by
    by_contra short
    rw [not_lt, bitLength_le] at short
    omega
  rw [bigIntWord, if_pos long]

theorem writeBigInt_refused {value : Int} (wide : value ≤ -2 ^ 256 ∨ 2 ^ 256 ≤ value) :
    (writeBigInt value).Fails (serializationError "BigInt overflow") := by
  unfold writeBigInt
  rw [if_neg (by omega)]
  apply Put.Fails.bind
  exact Put.fails_check.mpr (bigIntWord_refused wide)

/-- In the gap below the range a number has the word of a positive one. -/
theorem writeBigInt_wraps {value : Int} (low : -2 ^ 256 < value) (high : value < -2 ^ 255) :
    writeBigInt value = writeBigInt (value + 2 ^ 256) := by
  have fits : FitsSigned 32 (value + 2 ^ 256) := by
    unfold FitsSigned
    norm_num
    omega
  have short : ¬ bitLength value > 256 := by
    rw [not_lt, bitLength_le]
    omega
  have word : bigIntWord value = bigIntWord (value + 2 ^ 256) := by
    rw [bigIntWord_eq fits, bigIntWord, if_neg short, ← intToLE_sub_modulus (value + 2 ^ 256)]
    simp
  unfold writeBigInt
  rw [if_neg (by omega), if_neg (by omega), word]

/-! ## The id of a rom -/

/-- The schema has an id of the type that the builders write. -/
def DeclaresId (schema : VMStructSchema) : Prop :=
  ∃ field ∈ schema.fields, field.name.value = STANDARD_META_ID ∧ field.schema.type = .INT256

section Builders

variable {conv : Conversions} {lower : Str → Str} {schema : VMStructSchema} {id : Int} {metadata : Metadata}
  {raw : Bytes}

theorem emits_id (declares : DeclaresId schema) {idField : VMNamedDynamicVariable}
    (isId : idField.Is STANDARD_META_ID .INT256 (.int id)) {fields : List VMNamedDynamicVariable} {ok : Bool}
    (emits : (VMDynamicStruct.writeWithSchema conv ⟨idField :: fields⟩ schema).Emits ok raw) :
    ∃ out, (writeBigInt id).Emits () out := by
  obtain ⟨⟨name, type, structDef⟩, member, named, rfl⟩ := declares
  obtain ⟨_, _, loop⟩ := emits_writeWithSchema conv emits
  obtain ⟨fieldName, type, data⟩ := idField
  obtain ⟨same, value⟩ := isId
  obtain ⟨rfl, rfl⟩ := VMDynamicVariable.mk.inj value
  -- the id comes first, so that it is what the schema finds under its name
  have found : ((VMDynamicStruct.writers conv ⟨⟨fieldName, ⟨.INT256, .int id⟩⟩ :: fields⟩).find?
      fun writer => writer.name.value = name.value) =
        some (VMNamedDynamicVariable.writer conv ⟨fieldName, ⟨.INT256, .int id⟩⟩) := by
    apply List.find?_cons_of_pos
    rw [decide_eq_true_eq, writer_name]
    exact same.trans named.symm
  obtain ⟨ok, image, written⟩ := emits_writeFields conv loop member found
  change (if VMType.INT256 = VMType.INT256 then Data.writeAs conv (.int id) .INT256 structDef
    else writeDefault conv .INT256 structDef).Emits ok image at written
  rw [if_pos rfl, writeAs_leaf conv rfl] at written
  obtain ⟨first, _, leaf, -⟩ := Put.emits_seq.mp written
  rw [writeLeaf_int256] at leaf
  exact ⟨first, leaf⟩

theorem buildNftRom_writes_id (declares : DeclaresId schema)
    (run : buildNftRom conv lower schema (.int id) metadata = .ok raw) : ∃ out, (writeBigInt id).Emits () out := by
  obtain ⟨_, idField, romField, out, -, -, isId, -, -, emits⟩ := buildNftRom_eq_ok conv run
  exact emits_id declares isId emits

theorem buildTokenSeriesMetadata_writes_id (declares : DeclaresId schema)
    (run : buildTokenSeriesMetadata conv lower schema (.int id) metadata = .ok raw) :
    ∃ out, (writeBigInt id).Emits () out := by
  obtain ⟨_, idField, modeField, romField, out, -, -, isId, -, -, -, emits⟩ := buildTokenSeriesMetadata_eq_ok conv run
  exact emits_id declares isId emits

end Builders

/-! ## Reported overflow -/

/-- Overflow of the number is reported, by the writer and by all that is written with it. -/
structure OverflowReported (value : Int) : Prop where
  refused : ¬ (-2 ^ 255 ≤ value ∧ value < 2 ^ 256) →
    (writeBigInt value).bytes = .error (serializationError "BigInt overflow")
  negative : value < 0 → ∀ out read,
    (writeBigInt value).Emits () out → readBigInt.Yields out read [] → read < 0
  supply : value < -2 ^ 255 → ∀ positive > 0, ∀ out,
    ¬ ((IntX.mk value).writeCarbon.Emits () out ∧ (IntX.mk positive).writeCarbon.Emits () out)
  id : value < -2 ^ 255 → ∀ (conv : Conversions) (lower : Str → Str) (schema : VMStructSchema) (metadata : Metadata),
    DeclaresId schema → ∀ positive > 0, ∀ raw,
      ¬ (buildNftRom conv lower schema (.int value) metadata = .ok raw ∧
        buildNftRom conv lower schema (.int positive) metadata = .ok raw) ∧
      ¬ (buildTokenSeriesMetadata conv lower schema (.int value) metadata = .ok raw ∧
        buildTokenSeriesMetadata conv lower schema (.int positive) metadata = .ok raw)

/-- What the writer refuses is refused wherever it is written. -/
theorem OverflowReported.of_refused {value : Int} (wide : value ≤ -2 ^ 256 ∨ 2 ^ 256 ≤ value) :
    OverflowReported value := by
  have fails := writeBigInt_refused wide
  refine ⟨fun _ => fails.bytes, fun _ out read emits => absurd emits fails.not_emits, ?_, ?_⟩
  · intro low positive _ out both
    have notSafe : ¬ (IntX.mk value).is8ByteSafe := by
      rw [IntX.is8ByteSafe_iff]
      unfold Signed
      norm_num
      omega
    have emits := both.1
    rw [IntX.writeCarbon, if_neg notSafe] at emits
    exact fails.not_emits emits
  · intro _ conv lower schema metadata declares positive _ raw
    constructor
    · intro both
      obtain ⟨out, emits⟩ := buildNftRom_writes_id declares both.1
      exact fails.not_emits emits
    · intro both
      obtain ⟨out, emits⟩ := buildTokenSeriesMetadata_writes_id declares both.1
      exact fails.not_emits emits

/-- A negative number of the range is read back as itself. -/
theorem OverflowReported.of_inRange {value : Int} (low : -2 ^ 255 ≤ value) (high : value < 2 ^ 256) :
    OverflowReported value := by
  refine ⟨fun outside => absurd ⟨low, high⟩ outside, ?_, fun below => absurd below (not_lt.mpr low),
    fun below => absurd below (not_lt.mpr low)⟩
  intro negative out read emits yields
  have signed : Signed 256 value := ⟨low, by omega⟩
  obtain ⟨again, written, parses⟩ := bigInt_roundTrips value signed
  obtain ⟨-, rfl⟩ := emits.unique written
  obtain ⟨rfl, -⟩ := yields.unique parses.yields
  exact negative

/-- Overflow is reported but for the numbers from `-2 ^ 256 + 1` to `-2 ^ 255 - 1`. -/
theorem overflowReported_iff (value : Int) :
    OverflowReported value ↔ ¬ (-2 ^ 256 < value ∧ value < -2 ^ 255) := by
  constructor
  · rintro reported ⟨low, high⟩
    have refused := reported.refused (by omega)
    rw [writeBigInt_wraps low high] at refused
    have signed : Signed 256 (value + 2 ^ 256) := by
      unfold Signed
      norm_num
      omega
    obtain ⟨out, emits, -⟩ := bigInt_roundTrips _ signed
    rw [emits.bytes] at refused
    cases refused
  · intro outside
    by_cases wide : value ≤ -2 ^ 256 ∨ 2 ^ 256 ≤ value
    · exact .of_refused wide
    · exact .of_inRange (by omega) (by omega)

/-- The first number below the range is written with the bytes of the largest positive one. -/
theorem belowRange_wraps : ∃ out, (writeBigInt (-2 ^ 255 - 1)).bytes = .ok out ∧
    (writeBigInt (2 ^ 255 - 1)).bytes = .ok out ∧ readBigInt.run out = .ok (2 ^ 255 - 1, []) := by
  refine ⟨32 :: List.replicate 31 0xFF ++ [0x7F], ?_⟩
  decide +kernel

end PhantasmaPy.Carbon
