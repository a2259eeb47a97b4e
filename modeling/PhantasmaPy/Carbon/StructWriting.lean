import PhantasmaPy.Carbon.MetadataKept

/-! # Structs against their schemas

The writers return whether a value matches its schema.  A value of another type is replaced by the default of the
declared type, and the replacement matches, so that no writer ever returns that something does not.
-/

namespace PhantasmaPy.Carbon

open Wire CarbonWriter CarbonReader

/-! ## Mismatches -/

mutual

/-- Somewhere in the struct, which is written under the schema, a field has another type than the declared one. -/
inductive Mismatched : VMStructSchema → VMDynamicStruct → Prop
  | type {schema struct field supplied} : field ∈ schema.fields → supplied ∈ struct.fields →
      supplied.name.value = field.name.value → supplied.value.type ≠ field.schema.type → Mismatched schema struct
  | field {schema struct field data} : field ∈ schema.fields →
      struct.get field.name.value = some ⟨field.schema.type, data⟩ →
      MismatchedData field.schema.type field.schema.structDef data → Mismatched schema struct
  | extra {schema struct field} : schema.dynamicExtras = true → field ∈ struct.fields →
      schema.hasField field.name.value = false →
      MismatchedData field.value.type none field.value.data → Mismatched schema struct

/-- The same of a value that is written at the type and under the schema. -/
inductive MismatchedData : VMType → Option VMStructSchema → Data → Prop
  | variable {schema value} : MismatchedData value.type none value.data → MismatchedData .DYNAMIC schema (.variable value)
  | boundStruct {schema struct} : Mismatched schema struct → MismatchedData .STRUCT (some schema) (.struct struct)
  | struct {struct field} : field ∈ struct.fields → MismatchedData field.value.type none field.value.data →
      MismatchedData .STRUCT none (.struct struct)
  | boundArray {schema own structs struct} : .struct struct ∈ structs → Mismatched schema struct →
      MismatchedData .ARRAY_STRUCT (some schema) (.structArray ⟨own, structs⟩)
  | ownArray {own structs struct} : .struct struct ∈ structs → own.fields ≠ [] → Mismatched own struct →
      MismatchedData .ARRAY_STRUCT none (.structArray ⟨own, structs⟩)
  | plainArray {own structs struct} : .struct struct ∈ structs → own.fields = [] →
      MismatchedData .STRUCT none (.struct struct) → MismatchedData .ARRAY_STRUCT none (.structArray ⟨own, structs⟩)
  | boundList {schema items struct} : .struct struct ∈ items → Mismatched schema struct →
      MismatchedData .ARRAY_STRUCT (some schema) (.list items)
  | plainList {items struct} : .struct struct ∈ items → MismatchedData .STRUCT none (.struct struct) →
      MismatchedData .ARRAY_STRUCT none (.list items)
  | item {schema items value} : .variable value ∈ items → MismatchedData value.type none value.data →
      MismatchedData .ARRAY_DYNAMIC schema (.list items)
  | namedItem {schema items field} : .named field ∈ items → MismatchedData field.value.type none field.value.data →
      MismatchedData .ARRAY_DYNAMIC schema (.list items)
  | structItem {schema items struct} : .struct struct ∈ items → MismatchedData .STRUCT none (.struct struct) →
      MismatchedData .ARRAY_DYNAMIC schema (.list items)

end

/-! ## What the writers return -/

section Writers

variable (conv : Conversions)

/-- The default of a type is what a variable of another type is written as. -/
theorem writeDefault_eq (vmType : VMType) (schema : Option VMStructSchema) :
    writeDefault conv vmType schema = (defaultVmValue vmType).writeAs conv vmType schema := by
  cases schema with
  | none =>
    cases vmType <;> rfl
  | some schema =>
    obtain ⟨schemaFields, flags⟩ := schema
    cases vmType <;> rfl

/-- A value of another type is written as the default of the declared one. -/
theorem writeStatic_mismatched {value : VMDynamicVariable} {declared : VMType} (different : value.type ≠ declared)
    (schema : Option VMStructSchema) :
    value.writeStatic conv declared schema =
      VMDynamicVariable.writeStatic conv ⟨declared, defaultVmValue declared⟩ declared schema := by
  obtain ⟨type, data⟩ := value
  rw [VMDynamicVariable.writeStatic, VMDynamicVariable.writeStatic, if_neg different, if_pos rfl, writeDefault_eq]

/-- The writer returns true whenever it returns. -/
abbrev Affirms (writer : CarbonWriter Bool) : Prop := writer.Ensures (· = true)

theorem affirms_seq {first : CarbonWriter Unit} : Affirms (do first; return true) :=
  Put.Ensures.after fun _ => Put.Ensures.pure rfl

/-- The fields of a struct are written by writers that return true. -/
def FieldsAffirm (fields : List FieldWriter) : Prop :=
  ∀ field ∈ fields, ∀ vmType schema, Affirms (field.writeStatic vmType schema)

/-- Only for structs the default depends on the schema. -/
theorem writeDefault_plain {vmType : VMType} (plain : vmType.isStruct = false) (schema : Option VMStructSchema) :
    writeDefault conv vmType schema = writeDefault.writeDefaultPlain conv vmType := by
  cases schema with
  | none => rfl
  | some schema =>
    obtain ⟨schemaFields, flags⟩ := schema
    cases vmType <;> first | rfl | cases plain

theorem noFields_affirm : FieldsAffirm [] := by
  unfold FieldsAffirm
  simp

theorem writeDefaultPlain_affirms (vmType : VMType) : Affirms (writeDefault.writeDefaultPlain conv vmType) := by
  cases vmType with
  | DYNAMIC | ARRAY_STRUCT => exact Put.Ensures.after fun _ => affirms_seq
  | _ => exact affirms_seq

mutual

theorem writeDefault_affirms (vmType : VMType) : ∀ schema : Option VMStructSchema,
    Affirms (writeDefault conv vmType schema)
  | none => writeDefaultPlain_affirms conv vmType
  | some schema => by
    cases vmType with
    | STRUCT => exact writeWithSchema_affirms noFields_affirm schema
    | ARRAY_STRUCT => exact affirms_seq
    | _ =>
      rw [writeDefault_plain conv rfl]
      exact writeDefaultPlain_affirms conv _

theorem writeWithSchema_affirms {fields : List FieldWriter} (affirm : FieldsAffirm fields) :
    ∀ schema : VMStructSchema, Affirms (writeWithSchema conv fields schema)
  | ⟨schemaFields, flags⟩ => by
    rw [writeWithSchema]
    refine (writeFields_affirms affirm schemaFields 0).bind fun (result, fieldsFound) ok => ?_
    -- the extras are written after the fields, and do not change what is returned
    dsimp only
    split
    next => exact Put.Ensures.pure ok
    next =>
      split
      next => exact Put.Ensures.after fun _ => Put.Ensures.pure ok
      next => exact Put.Ensures.after fun _ => Put.Ensures.pure ok

theorem writeFields_affirms {fields : List FieldWriter} (affirm : FieldsAffirm fields) :
    ∀ (schemaFields : List VMNamedVariableSchema) (fieldsFound : Nat),
      (writeFields conv fields schemaFields true fieldsFound).Ensures fun result => result.1 = true
  | [], _ => Put.Ensures.pure rfl
  | ⟨name, ⟨type, structDef⟩⟩ :: schemaFields, fieldsFound => by
    rw [writeFields]
    split
    next field found =>
      refine (affirm field (List.mem_of_find?_eq_some found) type structDef).bind fun written isTrue => ?_
      rw [isTrue, Bool.true_and]
      exact writeFields_affirms affirm schemaFields (fieldsFound + 1)
    next =>
      refine (writeDefault_affirms type structDef).bind fun written isTrue => ?_
      rw [isTrue, Bool.true_and]
      exact writeFields_affirms affirm schemaFields fieldsFound

end

/-- The branches of `write_static` return true, where the fields do. -/
theorem writeBody_affirms (value : Data) {parts : Parts} (affirm : FieldsAffirm parts.fields) (vmType : VMType)
    (schema : Option VMStructSchema) : Affirms (writeBody conv value parts vmType schema) := by
  cases vmType with
  | STRUCT =>
    cases schema with
    | none => exact affirms_seq
    | some schema => exact writeWithSchema_affirms conv affirm schema
  | ARRAY_STRUCT =>
    unfold writeBody
    dsimp only
    split
    next => exact affirms_seq
    next => exact Put.Ensures.after fun _ => affirms_seq
  | ARRAY_DYNAMIC => exact Put.Ensures.after fun _ => affirms_seq
  | _ => exact affirms_seq

mutual

theorem Data.writeAs_affirms : ∀ (value : Data) (vmType : VMType) (schema : Option VMStructSchema),
    Affirms (value.writeAs conv vmType schema)
  | .struct value, vmType, schema => by
    rw [Data.writeAs]
    exact writeBody_affirms conv _ value.writers_affirm vmType schema
  | .variable value, vmType, schema => by
    rw [Data.writeAs]
    exact writeBody_affirms conv _ noFields_affirm vmType schema
  | .list items, vmType, schema => by
    rw [Data.writeAs]
    exact writeBody_affirms conv _ noFields_affirm vmType schema
  | .structArray ⟨own, structs⟩, vmType, schema => by
    rw [Data.writeAs]
    exact writeBody_affirms conv _ noFields_affirm vmType schema
  | .none, vmType, schema | .bool _, vmType, schema | .int _, vmType, schema | .str _, vmType, schema
  | .bytes _, vmType, schema | .fixed _ _, vmType, schema | .mapping _, vmType, schema
  | .named _, vmType, schema | .other _, vmType, schema =>
    writeBody_affirms conv _ noFields_affirm vmType schema

theorem VMDynamicVariable.writeStatic_affirms : ∀ (value : VMDynamicVariable) (vmType : VMType)
    (schema : Option VMStructSchema), Affirms (value.writeStatic conv vmType schema)
  | ⟨type, data⟩, vmType, schema => by
    rw [VMDynamicVariable.writeStatic]
    split
    next => exact data.writeAs_affirms vmType schema
    next => exact writeDefault_affirms conv vmType schema

theorem VMDynamicStruct.writers_affirm : ∀ value : VMDynamicStruct, FieldsAffirm (value.writers conv)
  | ⟨fields⟩ => fieldWriters_affirm fields

theorem fieldWriters_affirm : ∀ fields : List VMNamedDynamicVariable, FieldsAffirm (fieldWriters conv fields)
  | [] => by simp [fieldWriters, FieldsAffirm]
  | ⟨name, value⟩ :: fields => by
    rw [fieldWriters, FieldsAffirm, List.forall_mem_cons]
    exact ⟨value.writeStatic_affirms, fieldWriters_affirm fields⟩

end

/-! ## Refusal -/

/-- Where the struct does not match its schema, the writer returns that it does not, and the builders refuse it. -/
def MismatchRefused (schema : VMStructSchema) (value : VMDynamicStruct) : Prop :=
  Mismatched schema value → (∃ out, (value.writeWithSchema conv schema).Emits false out) ∧
    writeDynamicStructWithSchema conv value schema = .error (builderError "metadata does not match schema")

/-- A struct that is written is reported as matching, whatever it is: no mismatch is ever refused. -/
theorem mismatchRefused_iff (schema : VMStructSchema) (value : VMDynamicStruct) :
    (∀ ok out, (value.writeWithSchema conv schema).Emits ok out → ok = true) ∧
      (MismatchRefused conv schema value ↔ ¬ Mismatched schema value) := by
  have affirms : Affirms (value.writeWithSchema conv schema) :=
    writeWithSchema_affirms conv (value.writers_affirm conv) schema
  refine ⟨fun ok out emits => affirms emits, ?_, fun regular mismatched => absurd mismatched regular⟩
  intro refused mismatched
  obtain ⟨⟨out, emits⟩, -⟩ := refused mismatched
  cases affirms emits

end Writers

def countName : SmallString := ⟨Str.ofString "count", [99, 111, 117, 110, 116], by decide +kernel, by decide⟩

/-- A text where a number is declared is reported as matching and written as the number 0. -/
theorem mismatch_written :
    let schema : VMStructSchema := ⟨[⟨countName, ⟨.INT8, none⟩⟩], 0⟩
    let value : VMDynamicStruct := ⟨[⟨countName, ⟨.STRING, .str (Str.ofString "five")⟩⟩]⟩
    Mismatched schema value ∧ (value.writeWithSchema Conversions.none schema).Emits true [0] ∧
      writeDynamicStructWithSchema Conversions.none value schema = .ok [0] := by
  refine ⟨?_, rfl, rfl⟩
  exact .type List.mem_cons_self List.mem_cons_self rfl (by decide)

end PhantasmaPy.Carbon
