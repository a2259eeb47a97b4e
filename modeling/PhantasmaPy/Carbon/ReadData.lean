import PhantasmaPy.Carbon.Unchanged
import PhantasmaPy.Wire.Outcome

/-! # Data that is read

The readers give typed data: under an orderly schema for that schema, and under one that came from the wire for no
schema at all.
-/

namespace PhantasmaPy.Carbon

open Wire CarbonWriter CarbonReader

/-! ## Values without nested values -/

section Leaves

variable {α : Type} {domain : α → Prop} {write : α → CarbonWriter Unit} {read : CarbonReader α}

/-- A reader whose values are written back gives values that the writer takes. -/
theorem ensures_of_restores (restores : Restores write read)
    (inside : ∀ a out, (write a).Emits () out → domain a) : read.Ensures domain := by
  intro bs a rest yields
  obtain ⟨out, -, emits⟩ := restores yields
  exact inside a out emits

theorem readSigned_ensures {width : Nat} (positive : 0 < width) :
    (readSigned width).Ensures (Signed (8 * width)) :=
  ensures_of_restores (signed_restores positive) fun _ _ emits => (emits_writeSigned.mp emits).1

theorem readByteArray_ensures : readByteArray.Ensures ShortBytes :=
  ensures_of_restores byteArray_restores fun _ _ emits => (emits_writeByteArray.mp emits).1

theorem readStringZ_ensures : readStringZ.Ensures ZeroFree := by
  refine ensures_of_restores stringZ_restores fun _ _ emits => ?_
  obtain ⟨free, raw, encoded, -⟩ := emits_writeStringZ.mp emits
  exact ⟨free, raw, encoded⟩

theorem readIntElement_ensures : (readIntElement 1 true).Ensures (Signed 8) := by
  refine Get.Ensures.after fun byte => Get.Ensures.pure ?_
  have small := byte.toNat_lt
  unfold Signed
  simp only [true_and]
  split <;> omega

theorem readBigInt_ensures : readBigInt.Ensures (Signed 256) := by
  refine Get.Ensures.after fun header => ?_
  intro bs value rest yields
  obtain ⟨-, raw, -, short, -, rfl, -⟩ := yields_readBigIntBody.mp yields
  have word := fitsSigned_intOfLE (signExtend (headerNegative header) 32 raw)
  rw [length_signExtend _ short] at word
  exact Signed.of_fitsSigned 32 (by decide) word

theorem readLength_ensures : readLength.Ensures fun count => count < 2 ^ 31 := by
  intro bs count rest yields
  have signed := readSigned_ensures (by decide) (yields_readLength.mp yields).1
  unfold Signed at signed
  omega

/-- The elements of an array, and their number. -/
theorem readArray_ensures (each : read.Ensures domain) : (readArray read).Ensures (ArrayOf domain) := by
  refine readLength_ensures.bind fun count small bs xs rest yields => ?_
  obtain ⟨length, all⟩ := each.times count yields
  exact ⟨length ▸ small, all⟩

theorem scalar_ensures (ensures : read.Ensures domain) (inject : α → Data) :
    (do return inject (← read) : CarbonReader Data).Ensures (Data.IsOf inject domain) :=
  ensures.map fun a inside => ⟨a, inside, rfl⟩

theorem list_ensures (ensures : read.Ensures domain) (inject : α → Data) :
    (do return .list ((← readArray read).map inject) : CarbonReader Data).Ensures
      (Data.IsListOf inject domain) :=
  (readArray_ensures ensures).map fun xs inside => ⟨xs, inside, rfl⟩

theorem readLeaf_ensures {vmType : VMType} (leaf : vmType.isNested = false) :
    (readLeaf vmType).Ensures (LeafData vmType) := by
  cases vmType with
  | BYTES => exact scalar_ensures readByteArray_ensures _
  | INT8 => exact scalar_ensures readIntElement_ensures _
  | INT16 => exact scalar_ensures (@readSigned_ensures 2 (by decide)) _
  | INT32 => exact scalar_ensures (@readSigned_ensures 4 (by decide)) _
  | INT64 => exact scalar_ensures (@readSigned_ensures 8 (by decide)) _
  | INT256 => exact scalar_ensures readBigInt_ensures _
  | BYTES16 | BYTES32 | BYTES64 => exact scalar_ensures (fun _ _ _ _ => trivial) _
  | STRING => exact scalar_ensures readStringZ_ensures _
  | ARRAY_BYTES => exact list_ensures readByteArray_ensures _
  | ARRAY_INT8 => exact list_ensures readIntElement_ensures _
  | ARRAY_INT16 => exact list_ensures (@readSigned_ensures 2 (by decide)) _
  | ARRAY_INT32 => exact list_ensures (@readSigned_ensures 4 (by decide)) _
  | ARRAY_INT64 => exact list_ensures (@readSigned_ensures 8 (by decide)) _
  | ARRAY_INT256 => exact list_ensures readBigInt_ensures _
  | ARRAY_BYTES16 | ARRAY_BYTES32 | ARRAY_BYTES64 => exact list_ensures (fun _ _ _ _ => trivial) _
  | ARRAY_STRING => exact list_ensures readStringZ_ensures _
  | DYNAMIC | ARRAY_DYNAMIC | STRUCT | ARRAY_STRUCT => cases leaf

end Leaves

/-! ## Schemas -/

theorem VMNamedVariableSchema.readCarbon_ensures {readStruct : CarbonReader VMStructSchema}
    (structs : readStruct.Ensures VMStructSchema.Publishable) :
    (VMNamedVariableSchema.readCarbon readStruct).Ensures fun field =>
      field.schema.InRange ∧ field.schema.DefinesStructs := by
  have typed : (VMVariableSchema.readCarbon readStruct).Ensures fun schema =>
      schema.InRange ∧ schema.DefinesStructs := by
    refine Get.Ensures.after fun type => ?_
    split
    next isStruct =>
      refine structs.map fun schema ⟨inRange, defines⟩ => ⟨?_, ?_⟩
      · rw [VMVariableSchema.InRange]
        exact fun _ => inRange
      · rw [VMVariableSchema.DefinesStructs]
        exact ⟨isStruct, defines⟩
    next noStruct =>
      refine Get.Ensures.pure ⟨?_, ?_⟩
      · rw [VMVariableSchema.InRange]
        exact fun isStruct => absurd isStruct noStruct
      · rw [VMVariableSchema.DefinesStructs]
        exact ⟨by simpa using noStruct, trivial⟩
  exact Get.Ensures.after fun name => typed.map fun _ => id

theorem VMStructSchema.readCarbon_ensures : VMStructSchema.readCarbon.Ensures VMStructSchema.Publishable := by
  refine @Get.fix_ensures _ _ _ _ VMStructSchema.readBody (fun _ => VMStructSchema.Publishable)
    (fun readStruct structs _ => ?_) ()
  refine (readArray_ensures (VMNamedVariableSchema.readCarbon_ensures (structs ()))).bind ?_
  intro fields ⟨small, all⟩
  refine Get.Ensures.after fun flags => Get.Ensures.pure ⟨?_, ?_⟩
  · rw [VMStructSchema.InRange, fieldsInRange_iff]
    have range := flags.toNat_lt
    exact ⟨small, ⟨by omega, by omega⟩, fun field member => (all field member).1⟩
  · rw [VMStructSchema.DefinesStructs, fieldsDefineStructs_iff]
    exact fun field member => (all field member).2

/-! ## Data with nested values -/

/-- A field that is read for one of a schema. -/
def ReadFor (schemaField : VMNamedVariableSchema) (field : VMNamedDynamicVariable) : Prop :=
  ∃ data, field = ⟨schemaField.name, ⟨schemaField.schema.type, data⟩⟩ ∧
    Typed schemaField.schema.type schemaField.schema.structDef data

/-- A field that is read by its own type. -/
def ReadFree (field : VMNamedDynamicVariable) : Prop := Typed field.value.type none field.value.data

section Structs

variable {schema : VMStructSchema} {bound free : List VMNamedDynamicVariable}

/-- A schema with distinct names finds what was read for each of its fields. -/
theorem get_read {schemaFields : List VMNamedVariableSchema} (named : List.Forall₂ ReadFor schemaFields bound)
    (distinct : (schemaFields.map fun field => field.name.value).Nodup) (free : List VMNamedDynamicVariable)
    {field : VMNamedVariableSchema} (member : field ∈ schemaFields) :
    ∃ data, VMDynamicStruct.get ⟨bound ++ free⟩ field.name.value = some ⟨field.schema.type, data⟩ ∧
      Typed field.schema.type field.schema.structDef data := by
  unfold VMDynamicStruct.get
  induction named with
  | nil => cases member
  | cons head _ ih =>
    obtain ⟨data, rfl, typed⟩ := head
    obtain ⟨fresh, distinct⟩ := List.nodup_cons.mp distinct
    rw [List.cons_append]
    -- the first field of the name is the one that the schema binds, as its names are distinct
    cases member with
    | head =>
      refine ⟨data, ?_, typed⟩
      rw [List.find?_cons_of_pos (by simp)]
      rfl
    | tail _ member =>
      obtain ⟨data, found, typed⟩ := ih distinct member
      refine ⟨data, ?_, typed⟩
      rw [List.find?_cons_of_neg]
      · exact found
      · simp only [decide_eq_true_eq]
        intro same
        exact fresh (List.mem_map.mpr ⟨field, member, same.symm⟩)

/-- A struct that is read by a schema with distinct names. -/
theorem readStruct_typed (distinct : (schema.fields.map fun field => field.name.value).Nodup)
    (named : List.Forall₂ ReadFor schema.fields bound) (each : ∀ field ∈ free, ReadFree field) :
    Typed .STRUCT (some schema) (.struct ⟨sortFields (bound ++ free)⟩) := by
  refine .boundStruct (fun declaration declared field member same sameType => ?_) fun field member unnamed => ?_
  · rcases List.mem_append.mp ((sortFields_perm _).mem_iff.mp member) with isBound | isFree
    · obtain ⟨other, inSchema, data, rfl, typed⟩ := forall₂_exists_left named isBound
      obtain rfl := List.inj_on_of_nodup_map distinct inSchema declared same
      exact typed
    -- a free field may have the name of a bound one
    · exact sameType ▸ (each field isFree).under rfl _
  · rcases List.mem_append.mp ((sortFields_perm _).mem_iff.mp member) with isBound | isFree
    · obtain ⟨other, inSchema, data, rfl, -⟩ := forall₂_exists_left named isBound
      rw [VMStructSchema.hasField_iff.mpr ⟨other, inSchema, rfl⟩] at unnamed
      cases unnamed
    · exact each field isFree

end Structs

section Readers

/-- A reader for nested data that gives what the types call for. -/
def Sound (f : VMType → CarbonReader Data) : Prop := ∀ vmType, (f vmType).Ensures (Typed vmType none)

variable {f : VMType → CarbonReader Data}

theorem readVariable_ensures (sound : Sound f) :
    (readVariable f).Ensures fun value => Typed value.type none value.data :=
  Get.Ensures.after fun vmType => (sound vmType).map fun _ => id

theorem readNamed_ensures (sound : Sound f) : (readNamed f).Ensures ReadFree :=
  Get.Ensures.after fun _ => (readVariable_ensures sound).map fun _ => id

theorem readNamedArray_ensures (sound : Sound f) :
    (readArray (readNamed f)).Ensures fun fields => ∀ field ∈ fields, ReadFree field :=
  fun _ _ _ yields => (readArray_ensures (readNamed_ensures sound) yields).2

theorem readStruct_ensures (sound : Sound f) :
    (readStruct f).Ensures fun value => Typed .STRUCT none (.struct value) := by
  refine (readNamedArray_ensures sound).map fun fields each => .struct fun field member => ?_
  exact each field ((sortFields_perm fields).mem_iff.mp member)

mutual

theorem readWithSchema_typed (sound : Sound f) : ∀ schema : VMStructSchema, schema.Orderly →
    (readWithSchema f schema).Ensures fun value => Typed .STRUCT (some schema) (.struct value)
  | ⟨schemaFields, flags⟩, ⟨distinct, orderly⟩ => by
    rw [readWithSchema]
    refine (readFields_typed sound schemaFields orderly).bind fun bound named => ?_
    cases VMStructSchema.dynamicExtras ⟨schemaFields, flags⟩ with
    | true =>
      refine (readNamedArray_ensures sound).map fun free each => ?_
      exact @readStruct_typed ⟨schemaFields, flags⟩ _ _ distinct named each
    | false =>
      have typed := @readStruct_typed ⟨schemaFields, flags⟩ bound [] distinct named (by simp)
      rw [List.append_nil] at typed
      exact Get.Ensures.pure typed

theorem readFields_typed (sound : Sound f) : ∀ schemaFields : List VMNamedVariableSchema, fieldsOrderly schemaFields →
    (readFields f schemaFields).Ensures (List.Forall₂ ReadFor schemaFields)
  | [], _ => Get.Ensures.pure .nil
  | ⟨name, ⟨type, structDef⟩⟩ :: schemaFields, ⟨ordered, orderly⟩ => by
    rw [readFields]
    refine (readStatic_typed sound type structDef ordered).bind fun data typed => ?_
    exact (readFields_typed sound schemaFields orderly).map fun fields rest => .cons ⟨data, rfl, typed⟩ rest

theorem readStatic_typed (sound : Sound f) (vmType : VMType) : ∀ schema : Option VMStructSchema,
    defOrderly vmType schema → (readStatic f vmType schema).Ensures (Typed vmType schema)
  | none, _ => sound vmType
  | some schema, orderly => by
    cases vmType with
    | STRUCT => exact (readWithSchema_typed sound schema (orderly rfl).1).map fun _ => id
    | ARRAY_STRUCT =>
      refine (readArray_ensures (readWithSchema_typed sound schema (orderly rfl).1)).map fun structs ⟨_, each⟩ => ?_
      exact .boundArray each
    | _ => exact fun bs data rest yields => (sound _ yields).under rfl _

end

mutual

/-- The same under a schema that came from the wire, whatever names it repeats. -/
theorem readWithSchema_plain (sound : Sound f) : ∀ schema : VMStructSchema, schema.Publishable →
    (readWithSchema f schema).Ensures fun value => Typed .STRUCT none (.struct value)
  | ⟨schemaFields, flags⟩, ⟨⟨_, _, inRange⟩, defines⟩ => by
    rw [readWithSchema]
    refine (readFields_plain sound schemaFields inRange defines).bind fun bound eachBound => ?_
    split
    next =>
      refine (readNamedArray_ensures sound).map fun free each => .struct fun field member => ?_
      rcases List.mem_append.mp ((sortFields_perm _).mem_iff.mp member) with isBound | isFree
      · exact eachBound field isBound
      · exact each field isFree
    next =>
      refine Get.Ensures.pure (.struct fun field member => ?_)
      exact eachBound field ((sortFields_perm _).mem_iff.mp member)

theorem readFields_plain (sound : Sound f) : ∀ schemaFields : List VMNamedVariableSchema, fieldsInRange schemaFields →
    fieldsDefineStructs schemaFields →
    (readFields f schemaFields).Ensures fun fields => ∀ field ∈ fields, ReadFree field
  | [], _, _ => Get.Ensures.pure (by simp)
  | ⟨name, ⟨type, structDef⟩⟩ :: schemaFields, ⟨inRange, othersInRange⟩, ⟨defines, othersDefine⟩ => by
    rw [readFields]
    refine (readStatic_plain sound type structDef inRange defines).bind fun data typed => ?_
    refine (readFields_plain sound schemaFields othersInRange othersDefine).map fun fields rest => ?_
    rw [List.forall_mem_cons]
    exact ⟨typed, rest⟩

theorem readStatic_plain (sound : Sound f) (vmType : VMType) : ∀ schema : Option VMStructSchema,
    VMVariableSchema.InRange ⟨vmType, schema⟩ → VMVariableSchema.DefinesStructs ⟨vmType, schema⟩ →
    (readStatic f vmType schema).Ensures (Typed vmType none)
  | none, _, _ => sound vmType
  | some schema, inRange, ⟨isStruct, defines⟩ => by
    have publishable : schema.Publishable := ⟨inRange isStruct, defines⟩
    cases vmType with
    | STRUCT => exact (readWithSchema_plain sound schema publishable).map fun _ => id
    | ARRAY_STRUCT =>
      refine (readArray_ensures (readWithSchema_plain sound schema publishable)).map fun structs ⟨_, each⟩ => ?_
      exact .inlineArray publishable each
    | _ => cases isStruct

end

/-- A struct array that brings its schema. -/
theorem readInlineArray_ensures (sound : Sound f) :
    (readInlineBody f .ARRAY_STRUCT).Ensures (Typed .ARRAY_STRUCT none) := by
  refine Get.Ensures.after fun count => ?_
  refine VMStructSchema.readCarbon_ensures.bind fun schema publishable => ?_
  -- a schema without fields is read as no schema
  cases schema.fields.isEmpty with
  | true => exact ((readStruct_ensures sound).times count).map fun structs ⟨_, each⟩ => .inlineArray publishable each
  | false =>
    exact ((readWithSchema_plain sound schema publishable).times count).map fun structs ⟨_, each⟩ =>
      .inlineArray publishable each

end Readers

/-- The readers without a schema give data of their types. -/
theorem readInline_ensures (vmType : VMType) : (readInline vmType).Ensures (Typed vmType none) := by
  refine @Get.fix_ensures _ _ _ _ readInlineBody (fun vmType => Typed vmType none) ?_ vmType
  intro f sound vmType
  cases nested : vmType.isNested with
  | false =>
    rw [readInlineBody_leaf f nested]
    exact fun bs data rest yields => .leaf (readLeaf_ensures nested yields)
  | true =>
    cases vmType with
    | DYNAMIC => exact (readVariable_ensures sound).map fun value => .dynamic
    | STRUCT => exact (readStruct_ensures sound).map fun _ => id
    | ARRAY_DYNAMIC =>
      exact (readArray_ensures (readVariable_ensures sound)).map fun values ⟨_, each⟩ => .dynamicArray each
    | ARRAY_STRUCT => exact readInlineArray_ensures sound
    | _ => cases nested

/-- What is read for a field of the schema is of its type. -/
theorem readField_typed {schema : VMStructSchema} (orderly : schema.Orderly) {raw : Bytes}
    {struct : VMDynamicStruct} (read : (VMDynamicStruct.readWithSchema schema).run raw = .ok (struct, []))
    {field : VMNamedVariableSchema} (member : field ∈ schema.fields) :
    ∃ data, struct.get field.name.value = some ⟨field.schema.type, data⟩ ∧
      Typed field.schema.type field.schema.structDef data := by
  obtain ⟨schemaFields, flags⟩ := schema
  obtain ⟨distinct, orderly⟩ := orderly
  have found : (readWithSchema readInline ⟨schemaFields, flags⟩).Ensures fun value =>
      ∃ data, value.get field.name.value = some ⟨field.schema.type, data⟩ ∧
        Typed field.schema.type field.schema.structDef data := by
    rw [readWithSchema]
    refine (readFields_typed readInline_ensures schemaFields orderly).bind fun bound named => ?_
    -- with extras or without, the field is found among those that the schema binds
    split
    next =>
      refine Get.Ensures.after fun free => Get.Ensures.pure ?_
      rw [get_sortFields]
      exact get_read named distinct free member
    next =>
      refine Get.Ensures.pure ?_
      rw [get_sortFields, ← List.append_nil bound]
      exact get_read named distinct [] member
  exact found read

end PhantasmaPy.Carbon
