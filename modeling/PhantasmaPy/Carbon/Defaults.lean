import PhantasmaPy.Carbon.DynamicImages

/-! # Defaults

What is read back where the writer found nothing of the declared type.  A dynamic variable holds an empty array
then, and an array of structs takes the schema that is asked for.
-/

namespace PhantasmaPy.Carbon

open Wire CarbonWriter CarbonReader

mutual

/-- What is read back where a default was written. -/
def writtenDefault (vmType : VMType) : Option VMStructSchema → Data
  | some schema =>
    match vmType with
    | .STRUCT => .struct (writtenStruct schema)
    | .ARRAY_STRUCT => .structArray ⟨schema, []⟩
    | _ => writtenPlain vmType
  | none => writtenPlain vmType
where
  /-- The default without a schema; a dynamic variable holds an empty array. -/
  writtenPlain (vmType : VMType) : Data :=
    match vmType with
    | .DYNAMIC => .variable ⟨.ARRAY_DYNAMIC, .list []⟩
    | vmType => defaultVmValue vmType

def writtenStruct : VMStructSchema → VMDynamicStruct
  | ⟨fields, _⟩ => ⟨sortFields (writtenFields fields)⟩

def writtenFields : List VMNamedVariableSchema → List VMNamedDynamicVariable
  | [] => []
  | ⟨name, ⟨type, structDef⟩⟩ :: fields => ⟨name, ⟨type, writtenDefault type structDef⟩⟩ :: writtenFields fields

end

section Defaults

variable (conv : Conversions)

theorem defaultVmValue_leaf {vmType : VMType} (leaf : vmType.isNested = false) :
    LeafData vmType (defaultVmValue vmType) := by
  cases vmType with
  | BYTES => exact ⟨[], (show [].length < 2 ^ 31 by decide), rfl⟩
  | INT8 | INT16 | INT32 | INT64 | INT256 => exact ⟨0, by decide, rfl⟩
  | BYTES16 | BYTES32 | BYTES64 => exact ⟨_, trivial, rfl⟩
  | STRING => exact ⟨[], ⟨by simp, [], rfl⟩, rfl⟩
  | DYNAMIC | ARRAY_DYNAMIC | STRUCT | ARRAY_STRUCT => cases leaf
  | _ => exact ⟨[], ⟨by decide, by simp⟩, rfl⟩

/-- The defaults without a schema hold what their types call for. -/
theorem writtenPlain_holds (vmType : VMType) : Holds vmType none (writtenDefault.writtenPlain vmType) := by
  cases vmType with
  | DYNAMIC =>
    have empty : Holds .ARRAY_DYNAMIC none (.list ([].map Data.variable)) := .dynamicArray (by decide) (by simp)
    exact @Holds.dynamic none ⟨.ARRAY_DYNAMIC, .list []⟩ empty
  | ARRAY_DYNAMIC => exact @Holds.dynamicArray none [] (by decide) (by simp)
  | STRUCT => exact @Holds.struct ⟨[]⟩ (by decide) List.nodup_nil (by simp)
  | ARRAY_STRUCT =>
    exact @Holds.inlineArray .default [] (by decide) ⟨by decide, by decide, trivial⟩ trivial
      (fun some_fields => by cases some_fields) (by simp)
  | _ => exact .leaf (defaultVmValue_leaf rfl)

theorem writtenPlain_writeAs (vmType : VMType) :
    (writtenDefault.writtenPlain vmType).writeAs conv vmType none = writeDefault conv vmType none := by
  cases vmType <;> rfl

theorem writtenPlain_conveys (vmType : VMType) :
    Conveys (writeDefault conv vmType none) true (readInline vmType) (writtenDefault.writtenPlain vmType) := by
  have conveys := (writtenPlain_holds vmType).conveys conv
  have normal : (writtenDefault.writtenPlain vmType).normal = writtenDefault.writtenPlain vmType := by
    cases vmType <;> rfl
  rw [normal, writtenPlain_writeAs] at conveys
  exact conveys

mutual

theorem writeDefault_conveys (vmType : VMType) : ∀ schema : Option VMStructSchema,
    Conveys (writeDefault conv vmType schema) true (readStatic readInline vmType schema)
      (writtenDefault vmType schema)
  | none => writtenPlain_conveys conv vmType
  | some schema => by
    cases vmType with
    | STRUCT => exact (writtenStruct_conveys schema).map Data.struct
    | ARRAY_STRUCT =>
      have empty : Conveys (write4 0) () (readArray (readWithSchema readInline schema)) [] :=
        ⟨[0, 0, 0, 0], emits_writeSigned.mpr ⟨by decide, by decide⟩, emptyArray_parses _⟩
      exact (empty.returning true).map fun structs => Data.structArray ⟨schema, structs.map .struct⟩
    | _ => exact writtenPlain_conveys conv _

theorem writtenStruct_conveys : ∀ schema : VMStructSchema,
    Conveys (writeWithSchema conv [] schema) true (readWithSchema readInline schema) (writtenStruct schema)
  | ⟨schemaFields, flags⟩ => by
    rw [writeWithSchema, readWithSchema, writtenStruct]
    refine (writtenFields_conveys schemaFields true 0).bind ?_
    dsimp only
    cases hasExtras : VMStructSchema.dynamicExtras ⟨schemaFields, flags⟩ with
    | false => exact conveys_pure _ _
    | true =>
      have none : Conveys (if 0 = schemaFields.length ∧ ([] : List FieldWriter).length = schemaFields.length then do
            write4u 0
            return true
          else do
            writeNamedDynamicVariables ([].filter fun writer : FieldWriter =>
              !VMStructSchema.hasField ⟨schemaFields, flags⟩ writer.name.value)
            return true : CarbonWriter Bool) true (readArray (readNamed readInline)) [] := by
        -- the writer has a shortcut for no extras at all, with the same image
        split
        next => exact emptyCount_conveys.returning true
        next => exact (@namedArray_conveys conv [] (fun _ => .none) (by decide) (by simp)).returning true
      have sorted := none.map fun extras =>
        (⟨sortFields (writtenFields schemaFields ++ extras)⟩ : VMDynamicStruct)
      rw [List.append_nil] at sorted
      exact sorted

theorem writtenFields_conveys : ∀ (schemaFields : List VMNamedVariableSchema) (ok : Bool) (fieldsFound : Nat),
    Conveys (writeFields conv [] schemaFields ok fieldsFound) (ok, fieldsFound)
      (readFields readInline schemaFields) (writtenFields schemaFields)
  | [], ok, fieldsFound => conveys_pure _ _
  | ⟨name, ⟨type, structDef⟩⟩ :: schemaFields, ok, fieldsFound => by
    rw [writeFields, readFields, writtenFields]
    refine (writeDefault_conveys type structDef).bind ?_
    exact (writtenFields_conveys schemaFields ok fieldsFound).map fun fields =>
      (⟨name, ⟨type, writtenDefault type structDef⟩⟩ : VMNamedDynamicVariable) :: fields

end

end Defaults

end PhantasmaPy.Carbon
