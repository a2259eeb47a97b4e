import PhantasmaPy.Carbon.MetadataLaws
import PhantasmaPy.Carbon.SchemaMeaning

/-! # Integers in metadata

Coercion, writer and reader treat the upper half of the unsigned range of a width in three ways: two of the widths
are coerced as they are, to be folded by the writer, and the others are folded by coercion.  All of them keep the
number modulo the width.
-/

namespace PhantasmaPy.Carbon

open Wire CarbonWriter CarbonReader

/-! ## Coercion -/

/-- The range of both readings of a width. -/
def MetadataRange (width : Nat) (value : Int) : Prop := -2 ^ (width - 1) ≤ value ∧ value ≤ 2 ^ width - 1

/-- An error of a builder. -/
def IsBuilderError (e : PyError) : Prop := ∃ message, e = .builderError message

theorem metadataRange_iff {width : Nat} (positive : 0 < width) {value : Int} :
    MetadataRange width value ↔ Signed width value ∨ Unsigned width value := by
  have power : (2 : Int) ^ width = 2 * 2 ^ (width - 1) := by
    rw [← pow_succ', Nat.sub_add_cancel positive]
  have half : (0 : Int) < 2 ^ (width - 1) := by positivity
  unfold MetadataRange Signed Unsigned
  omega

/-- The signed reading of a number of either range. -/
theorem MetadataRange.signedAt {width : Nat} (positive : 0 < width) {value : Int}
    (inRange : MetadataRange width value) : Signed width (signedAt width value) :=
  signedAt_signed positive ((metadataRange_iff positive).mp inRange)

/-- The coercion of an integer to the type of the width. -/
def coerceInteger (width : Nat) (name : Str) (value : Data) : Except PyError Int :=
  if width = 256 then coerceInt256 name value else coerceIntegerForVmType name width value

theorem checkMetadataRange_outcome (name : Str) {width : Nat} (positive : 0 < width) (value : Int) :
    Outcome (fun checked => MetadataRange width value ∧ checked = value)
      (fun e => ¬ MetadataRange width value ∧ IsBuilderError e) (checkMetadataRange name width value) := by
  unfold checkMetadataRange
  rw [metadataRange_iff positive]
  by_cases inRange : Signed width value ∨ Unsigned width value
  · rw [if_pos inRange]
    exact ⟨inRange, rfl⟩
  · rw [if_neg inRange]
    exact ⟨inRange, _, rfl⟩

section Coercion

variable {vmType : VMType} {width : Nat}

theorem intWidth_pos (isInt : vmType.intWidth = some width) : 0 < width := by
  cases vmType <;> cases isInt <;> decide

/-- What is coerced is a spelling of the signed reading. -/
theorem coerceInteger_outcome (isInt : vmType.intWidth = some width) (name : Str) (value : Int) :
    Outcome (fun coerced => MetadataRange width value ∧
        (Data.int coerced).canonical vmType = .int (signedAt width value))
      (fun e => ¬ MetadataRange width value ∧ IsBuilderError e) (coerceInteger width name (.int value)) := by
  have checked := checkMetadataRange_outcome name (intWidth_pos isInt) value
  have ensured : ensureMetadataInteger name (.int value) = .ok value := rfl
  unfold coerceInteger
  by_cases word : width = 256
  · subst word
    rw [if_pos rfl, coerceInt256, ensured]
    refine checked.mono ?_ fun e failed => failed
    rintro value ⟨inRange, rfl⟩
    refine ⟨inRange, ?_⟩
    cases vmType <;> cases isInt
    rfl
  · rw [if_neg word, coerceIntegerForVmType, ensured]
    refine checked.bind (fun e failed => failed) ?_
    rintro value ⟨inRange, rfl⟩
    by_cases byte : width = 8
    · -- one byte is left as it is
      subst byte
      rw [if_pos (.inl rfl)]
      refine ⟨inRange, ?_⟩
      cases vmType <;> cases isInt
      rfl
    · -- the other widths are folded
      rw [folded_eq byte (Int.lt_of_le_sub_one inRange.2)]
      refine ⟨inRange, ?_⟩
      cases vmType <;> cases isInt <;> first | rfl | contradiction

theorem coerceElements_outcome (isInt : vmType.intWidth = some width) (name : Str) (values : List Int) :
    Outcome (List.Forall₂ (fun value coerced => MetadataRange width value ∧
        (Data.int coerced).canonical vmType = .int (signedAt width value)) values)
      (fun e => (∃ value ∈ values, ¬ MetadataRange width value) ∧ IsBuilderError e)
      (coerceElements name (coerceInteger width) (values.map Data.int)) := by
  unfold coerceElements
  have each : ∀ entry ∈ (values.map Data.int).zipIdx, Outcome
      (fun coerced => ∃ value, entry.1 = .int value ∧ MetadataRange width value ∧
        (Data.int coerced).canonical vmType = .int (signedAt width value))
      (fun e => (∃ value ∈ values, ¬ MetadataRange width value) ∧ IsBuilderError e)
      (coerceInteger width (indexedName name entry.2) entry.1) := by
    intro entry member
    obtain ⟨value, inValues, spelled⟩ := List.mem_map.mp (List.fst_mem_of_mem_zipIdx member)
    rw [← spelled]
    refine (coerceInteger_outcome isInt _ value).mono (fun coerced kept => ⟨value, rfl, kept⟩) ?_
    rintro e ⟨outside, failed⟩
    exact ⟨⟨value, inValues, outside⟩, failed⟩
  refine (Outcome.mapM each).mono ?_ ?_
  · intro coerced all
    -- the indices are for the messages only
    have items : List.Forall₂ (fun item coerced => ∃ value, item = .int value ∧ MetadataRange width value ∧
        (Data.int coerced).canonical vmType = .int (signedAt width value)) (values.map Data.int) coerced := by
      rw [← List.zipIdx_map_fst 0 (values.map Data.int), List.forall₂_map_left_iff]
      exact all
    rw [List.forall₂_map_left_iff] at items
    refine items.imp ?_
    rintro value coerced ⟨_, spelled, kept⟩
    obtain rfl := Data.int.inj spelled
    exact kept
  · rintro e ⟨entry, -, failed⟩
    exact failed

variable (lower : Str → Str)

theorem coerceMetadataValue_int (isInt : vmType.intWidth = some width) (name : Str) (value : Int)
    (structDef : Option VMStructSchema) :
    coerceMetadataValue lower name (.int value) ⟨vmType, structDef⟩ = (do
      return Data.int (← coerceInteger width name (.int value))) := by
  rw [coerceMetadataValue]
  cases vmType <;> cases isInt <;> rfl

theorem coerceMetadataValue_ints (isInt : vmType.intWidth = some width) {arrayType : VMType}
    (array : arrayType.element = some vmType) (name : Str) (values : List Int) (structDef : Option VMStructSchema) :
    coerceMetadataValue lower name (.list (values.map Data.int)) ⟨arrayType, structDef⟩ = (do
      return Data.list ((← coerceElements name (coerceInteger width) (values.map Data.int)).map Data.int)) := by
  rw [coerceMetadataValue]
  cases arrayType <;> cases array <;> cases isInt <;> rfl

end Coercion

/-! ## The writer and the reader -/

section Written

variable (conv : Conversions) {vmType : VMType} {width : Nat}

theorem leafData_int (isInt : vmType.intWidth = some width) {value : Int} (signed : Signed width value) :
    LeafData vmType (.int value) := by
  cases vmType <;> cases isInt <;> exact ⟨value, signed, rfl⟩

theorem leafData_ints (isInt : vmType.intWidth = some width) {arrayType : VMType}
    (array : arrayType.element = some vmType) {values : List Int} (small : values.length < 2 ^ 31)
    (signed : ∀ value ∈ values, Signed width value) : LeafData arrayType (.list (values.map Data.int)) := by
  cases arrayType <;> cases array <;> cases isInt <;> exact ⟨values, ⟨small, signed⟩, rfl⟩

/-- Data that is spelled like the data of its type is written, and read back in that spelling. -/
theorem writeStatic_conveys {data spelled : Data} (same : data.canonical vmType = spelled)
    (leafData : LeafData vmType spelled) (schema : Option VMStructSchema) :
    Conveys (VMDynamicVariable.writeStatic conv ⟨vmType, data⟩ vmType schema) true
      (readStatic readInline vmType schema) spelled := by
  rw [VMDynamicVariable.writeStatic, if_pos rfl, writeAs_leaf conv leafData.isNested,
    ← writeLeaf_canonical conv leafData.isNested, same, readStatic_leaf leafData.isNested]
  exact (leaf_conveys conv leafData).returning true

/-- An integer is accepted in the range of both readings and refused by the builder elsewhere, and what is coerced
    is written and read back as its signed reading. -/
def IntegerKept (lower : Str → Str) (vmType : VMType) (width : Nat) (value : Int) : Prop :=
  ∀ (name : Str) (structDef : Option VMStructSchema), Outcome
    (fun data => MetadataRange width value ∧ ∃ again,
      Conveys (VMDynamicVariable.writeStatic conv ⟨vmType, data⟩ vmType structDef) true
        (readStatic readInline vmType structDef) (.int again) ∧
      Signed width again ∧ again % 2 ^ width = value % 2 ^ width)
    (fun e => ¬ MetadataRange width value ∧ IsBuilderError e)
    (coerceMetadataValue lower name (.int value) ⟨vmType, structDef⟩)

/-- The same of a list, which is written if its count fits. -/
def IntegersKept (lower : Str → Str) (arrayType : VMType) (width : Nat) (values : List Int) : Prop :=
  ∀ (name : Str) (structDef : Option VMStructSchema), Outcome
    (fun data => (∀ value ∈ values, MetadataRange width value) ∧
      (values.length < 2 ^ 31 → ∃ read,
        Conveys (VMDynamicVariable.writeStatic conv ⟨arrayType, data⟩ arrayType structDef) true
          (readStatic readInline arrayType structDef) (.list (read.map Data.int)) ∧
        List.Forall₂ (fun value again => Signed width again ∧ again % 2 ^ width = value % 2 ^ width) values read))
    (fun e => (∃ value ∈ values, ¬ MetadataRange width value) ∧ IsBuilderError e)
    (coerceMetadataValue lower name (.list (values.map Data.int)) ⟨arrayType, structDef⟩)

theorem integer_kept (lower : Str → Str) (isInt : vmType.intWidth = some width) (value : Int) :
    IntegerKept conv lower vmType width value := by
  intro name structDef
  rw [coerceMetadataValue_int lower isInt]
  refine (coerceInteger_outcome isInt name value).map (fun e failed => failed) ?_
  rintro coerced ⟨inRange, spelled⟩
  have signed := inRange.signedAt (intWidth_pos isInt)
  refine ⟨inRange, signedAt width value, ?_, signed, signedAt_mod width value⟩
  exact writeStatic_conveys conv spelled (leafData_int isInt signed) structDef

theorem integers_kept (lower : Str → Str) (isInt : vmType.intWidth = some width) {arrayType : VMType}
    (array : arrayType.element = some vmType) (values : List Int) :
    IntegersKept conv lower arrayType width values := by
  intro name structDef
  rw [coerceMetadataValue_ints lower isInt array]
  refine (coerceElements_outcome isInt name values).map (fun e failed => failed) ?_
  intro coerced all
  have inRange : ∀ value ∈ values, MetadataRange width value := by
    intro value member
    obtain ⟨_, -, kept, -⟩ := forall₂_exists_right all member
    exact kept
  -- the coerced integers are the signed readings of the values, which the writer then takes as they are
  refine ⟨inRange, fun small => ⟨values.map (signedAt width), ?_, ?_⟩⟩
  · have spelled : (Data.list (coerced.map Data.int)).canonical arrayType =
        .list ((values.map (signedAt width)).map Data.int) := by
      rw [canonical_list array, canonicalItems_eq, List.map_map, List.map_map]
      congr 1
      symm
      rw [← List.forall₂_eq_eq_eq, List.forall₂_map_left_iff, List.forall₂_map_right_iff]
      exact all.imp fun value coerced kept => kept.2.symm
    refine writeStatic_conveys conv spelled (leafData_ints isInt array (by rwa [List.length_map]) ?_) structDef
    intro reading member
    obtain ⟨value, inValues, rfl⟩ := List.mem_map.mp member
    exact (inRange value inValues).signedAt (intWidth_pos isInt)
  · rw [List.forall₂_map_right_iff, List.forall₂_same]
    intro value member
    exact ⟨(inRange value member).signedAt (intWidth_pos isInt), signedAt_mod width value⟩

/-- Metadata keeps integers, and lists of integers, modulo their width. -/
theorem metadataIntegers_kept (lower : Str → Str) (isInt : vmType.intWidth = some width) :
    (∀ value, IntegerKept conv lower vmType width value) ∧
      ∀ arrayType, arrayType.element = some vmType → ∀ values, IntegersKept conv lower arrayType width values :=
  ⟨integer_kept conv lower isInt, fun _ array values => integers_kept conv lower isInt array values⟩

end Written

/-- The largest unsigned byte is accepted, and read back as -1. -/
theorem metadataIntegers_kept_byte :
    IntegerKept Conversions.none asciiLower .INT8 8 255 ∧
      IntegersKept Conversions.none asciiLower .ARRAY_INT8 8 [255, -128] :=
  ⟨(metadataIntegers_kept Conversions.none asciiLower rfl).1 255,
    (metadataIntegers_kept Conversions.none asciiLower rfl).2 .ARRAY_INT8 rfl [255, -128]⟩

/-- A list with more bytes than its count has room for is accepted, and cannot be written. -/
theorem crowded_accepted (lower : Str → Str) (name : Str) {values : List Int} (crowded : 2 ^ 31 ≤ values.length)
    (inRange : ∀ value ∈ values, MetadataRange 8 value) : ∃ data,
    coerceMetadataValue lower name (.list (values.map Data.int)) ⟨.ARRAY_INT8, none⟩ = .ok data ∧
      ∀ ok out, ¬ (VMDynamicVariable.writeStatic Conversions.none ⟨.ARRAY_INT8, data⟩ .ARRAY_INT8 none).Emits ok out := by
  have isInt : VMType.INT8.intWidth = some 8 := rfl
  rw [coerceMetadataValue_ints lower isInt rfl]
  have outcome := coerceElements_outcome isInt name values
  cases coercion : coerceElements name (coerceInteger 8) (values.map Data.int) with
  | error e =>
    rw [coercion] at outcome
    obtain ⟨⟨value, member, outside⟩, -⟩ := outcome
    exact absurd (inRange value member) outside
  | ok coerced =>
    rw [coercion] at outcome
    refine ⟨_, rfl, fun ok out emits => ?_⟩
    rw [VMDynamicVariable.writeStatic, if_pos rfl, writeAs_leaf _ rfl] at emits
    obtain ⟨image, _, leaf, -⟩ := Put.emits_seq.mp emits
    have items : writeLeaf Conversions.none .ARRAY_INT8 (.list (coerced.map Data.int)) =
        writeArray (writeIntElement 1 true) coerced := writeIntItems_eq Conversions.none 1 coerced
    rw [items] at leaf
    -- the count is the first thing written, and it is a signed number of four bytes
    have small := (writeArray_written.mp ⟨image, leaf⟩).1
    have length : values.length = coerced.length := outcome.length_eq
    omega

/-- So are `2 ^ 31` zeros. -/
theorem crowdedIntegers_accepted : ∃ data,
    coerceMetadataValue asciiLower [] (.list ((List.replicate (2 ^ 31) 0).map Data.int)) ⟨.ARRAY_INT8, none⟩ = .ok data ∧
      ∀ ok out, ¬ (VMDynamicVariable.writeStatic Conversions.none ⟨.ARRAY_INT8, data⟩ .ARRAY_INT8 none).Emits ok out := by
  apply crowded_accepted
  · rw [List.length_replicate]
  · intro value member
    rw [List.eq_of_mem_replicate member]
    unfold MetadataRange
    decide

end PhantasmaPy.Carbon
