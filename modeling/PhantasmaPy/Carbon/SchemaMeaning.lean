import PhantasmaPy.Carbon.DynamicRoundTrip
import PhantasmaPy.Carbon.SchemaLaws
import PhantasmaPy.Carbon.TokenSchemas
import PhantasmaPy.Wire.Outcome

/-! # The meaning of a published schema

A built schema has no definitions, and the wire form adds the empty one to each field of a struct type.  The
value writer then leaves out what it writes for a struct without a definition, so the published schema means
the same exactly where there is no such field.
-/

namespace PhantasmaPy.Carbon

open Wire CarbonWriter CarbonReader

/-- Every value has the same bytes under both schemas, and every byte string is read alike. -/
def SameMeaning (conv : Conversions) (left right : VMStructSchema) : Prop :=
  (∀ value : VMDynamicStruct, (value.writeWithSchema conv left).bytes = (value.writeWithSchema conv right).bytes) ∧
    ∀ raw : Bytes, (VMDynamicStruct.readWithSchema left).run raw = (VMDynamicStruct.readWithSchema right).run raw

/-- One of the schemas that the builders return. -/
def Produced (lower : Str → Str) (loads : Str → Except PyError Json) (schema : VMStructSchema) : Prop :=
  ∃ schemas : TokenSchemas,
    ((∃ seriesMetadata rom ram, buildTokenSchemasFromFields lower seriesMetadata rom ram = .ok schemas) ∨
      ∃ data, tokenSchemasFromJson lower loads data = .ok schemas) ∧
    (schema = schemas.seriesMetadata ∨ schema = schemas.rom ∨ schema = schemas.ram)

/-! ## Built schemas -/

/-- No field has a definition, and the flags are those of `VMStructFlags`. -/
def Bare (schema : VMStructSchema) : Prop :=
  (∀ field ∈ schema.fields, field.schema.structDef = none) ∧ (schema.flags = 0 ∨ schema.flags = 1)

theorem tokenSchemaFieldsToSchemas_bare {inputs : List SchemaFieldInput} {fields : List VMNamedVariableSchema}
    (built : tokenSchemaFieldsToSchemas inputs = .ok fields) :
    ∀ field ∈ fields, field.schema.structDef = none := by
  intro field member
  obtain ⟨input, -, made⟩ := forall₂_exists_left (mapM_eq_ok.mp built) member
  obtain ⟨declared, -, made⟩ := except_bind_eq_ok.mp made
  obtain ⟨name, -, made⟩ := except_bind_eq_ok.mp made
  obtain rfl := Except.ok.inj made
  rfl

theorem buildTokenSchemasFromFields_bare {lower : Str → Str} {seriesMetadata rom ram : List SchemaFieldInput}
    {schemas : TokenSchemas} (built : buildTokenSchemasFromFields lower seriesMetadata rom ram = .ok schemas) :
    Bare schemas.seriesMetadata ∧ Bare schemas.rom ∧ Bare schemas.ram := by
  obtain ⟨seriesFields, series, built⟩ := except_bind_eq_ok.mp built
  obtain ⟨romFields, romBuilt, built⟩ := except_bind_eq_ok.mp built
  obtain ⟨ramFields, ramBuilt, built⟩ := except_bind_eq_ok.mp built
  obtain ⟨_, -, built⟩ := except_bind_eq_ok.mp built
  obtain rfl := Except.ok.inj built
  refine ⟨⟨tokenSchemaFieldsToSchemas_bare series, .inl rfl⟩, ⟨tokenSchemaFieldsToSchemas_bare romBuilt,
    .inl rfl⟩, tokenSchemaFieldsToSchemas_bare ramBuilt, ?_⟩
  by_cases empty : ramFields.isEmpty
  · exact .inr (by simp [empty])
  · exact .inl (by simp [empty])

theorem Produced.bare {lower : Str → Str} {loads : Str → Except PyError Json} {schema : VMStructSchema}
    (produced : Produced lower loads schema) : Bare schema := by
  obtain ⟨schemas, built, one⟩ := produced
  have all : Bare schemas.seriesMetadata ∧ Bare schemas.rom ∧ Bare schemas.ram := by
    rcases built with ⟨_, _, _, built⟩ | ⟨data, parsed⟩
    · exact buildTokenSchemasFromFields_bare built
    · obtain ⟨raw, -, parsed⟩ := except_bind_eq_ok.mp parsed
      obtain ⟨json, -, built⟩ := except_bind_eq_ok.mp parsed
      exact buildTokenSchemasFromFields_bare built
  rcases one with rfl | rfl | rfl
  · exact all.1
  · exact all.2.1
  · exact all.2.2

/-! ## Publishing -/

theorem fieldsInRange_of_bare {fields : List VMNamedVariableSchema}
    (bare : ∀ field ∈ fields, field.schema.structDef = none) : fieldsInRange fields := by
  induction fields with
  | nil => trivial
  | cons field fields ih =>
    obtain ⟨head, tail⟩ := List.forall_mem_cons.mp bare
    obtain ⟨name, type, structDef⟩ := field
    obtain rfl : structDef = none := head
    exact ⟨fun _ => trivial, ih tail⟩

theorem Bare.inRange {schema : VMStructSchema} (bare : Bare schema) (small : schema.fields.length < 2 ^ 31) :
    schema.InRange := by
  obtain ⟨fields, flags⟩ := schema
  obtain ⟨noDefs, isFlag⟩ := bare
  have byte : Unsigned 8 flags := by
    rcases isFlag with rfl | rfl <;> decide
  exact ⟨small, byte, fieldsInRange_of_bare noDefs⟩

/-- What is written has room for the number of its fields. -/
theorem VMStructSchema.length_of_emits {schema : VMStructSchema} {out : Bytes}
    (emits : schema.writeCarbon.Emits () out) : schema.fields.length < 2 ^ 31 := by
  obtain ⟨fields, flags⟩ := schema
  rw [VMStructSchema.writeCarbon] at emits
  obtain ⟨count, rest, emitsCount, -, -⟩ := Put.emits_seq.mp emits
  exact (emits_count.mp emitsCount).1

/-- A schema without definitions comes back in its published form. -/
theorem Bare.publishes {schema : VMStructSchema} (bare : Bare schema) (small : schema.fields.length < 2 ^ 31) :
    ∃ raw, serialize schema.writeCarbon = .ok raw ∧
      deserialize VMStructSchema.readCarbon raw = .ok schema.published := by
  obtain ⟨raw, emits, parses⟩ := schema.conveys (bare.inRange small)
  exact ⟨raw, serialize_eq_ok.mpr emits, deserialize_eq_ok.mpr parses.yields⟩

/-- What is read back from a written schema is its published form. -/
theorem Bare.published {schema again : VMStructSchema} {raw : Bytes} (bare : Bare schema)
    (written : serialize schema.writeCarbon = .ok raw)
    (read : deserialize VMStructSchema.readCarbon raw = .ok again) : again = schema.published := by
  obtain ⟨out, printed, back⟩ :=
    bare.publishes (VMStructSchema.length_of_emits (serialize_eq_ok.mp written))
  obtain rfl := Except.ok.inj (printed.symm.trans written)
  exact Except.ok.inj (read.symm.trans back)

theorem fieldsDefineStructs_of_bare {fields : List VMNamedVariableSchema}
    (bare : ∀ field ∈ fields, field.schema.structDef = none)
    (plain : ∀ field ∈ fields, field.schema.type.isStruct = false) : fieldsDefineStructs fields := by
  induction fields with
  | nil => trivial
  | cons field fields ih =>
    obtain ⟨name, type, structDef⟩ := field
    obtain ⟨noDef, noDefs⟩ := List.forall_mem_cons.mp bare
    obtain ⟨leaf, leaves⟩ := List.forall_mem_cons.mp plain
    obtain rfl : structDef = none := noDef
    exact ⟨⟨leaf, trivial⟩, ih noDefs leaves⟩

/-- Without a field of a struct type nothing is added. -/
theorem Bare.published_eq {schema : VMStructSchema} (bare : Bare schema)
    (plain : ∀ field ∈ schema.fields, field.schema.type.isStruct = false) : schema.published = schema := by
  obtain ⟨fields, flags⟩ := schema
  apply VMStructSchema.published_eq
  exact fieldsDefineStructs_of_bare bare.1 plain

/-! ## The empty struct -/

section Defaults

variable (conv : Conversions)

/-- A missing field of a struct type takes more bytes without a definition than with the empty one. -/
theorem writeDefault_published (type : VMType) :
    ∃ out again, (writeDefault conv type none).Emits true out ∧
      (writeDefault conv type (VMVariableSchema.published ⟨type, none⟩).structDef).Emits true again ∧
      again.length ≤ out.length ∧ (type.isStruct → again.length < out.length) := by
  cases type with
  | STRUCT => exact ⟨[0, 0, 0, 0], [], rfl, rfl, by decide, by decide⟩
  | ARRAY_STRUCT => exact ⟨[0, 0, 0, 0, 0, 0, 0, 0, 0], [0, 0, 0, 0], rfl, rfl, by decide, by decide⟩
  | _ => exact ⟨_, _, rfl, rfl, by decide, by decide⟩

/-- The missing fields are written one after the other. -/
theorem writeFields_published {fields : List VMNamedVariableSchema}
    (bare : ∀ field ∈ fields, field.schema.structDef = none) :
    ∃ out again, (writeFields conv [] fields true 0).Emits (true, 0) out ∧
      (writeFields conv [] (publishedFields fields) true 0).Emits (true, 0) again ∧
      again.length ≤ out.length ∧
      ((∃ field ∈ fields, field.schema.type.isStruct) → again.length < out.length) := by
  induction fields with
  | nil => exact ⟨[], [], rfl, rfl, Nat.le_refl 0, by simp⟩
  | cons field fields ih =>
    obtain ⟨name, type, structDef⟩ := field
    obtain ⟨noDef, noDefs⟩ := List.forall_mem_cons.mp bare
    obtain rfl : structDef = none := noDef
    obtain ⟨first, firstAgain, emits, emitsAgain, le, lt⟩ := writeDefault_published conv type
    obtain ⟨rest, restAgain, later, laterAgain, restLe, restLt⟩ := ih noDefs
    refine ⟨first ++ rest, firstAgain ++ restAgain, ?_, ?_, ?_, ?_⟩
    · rw [writeFields]
      exact emits.bind later
    · rw [publishedFields, VMVariableSchema.published, writeFields]
      exact emitsAgain.bind laterAgain
    · simp only [List.length_append]
      omega
    · -- One struct field anywhere makes the whole shorter, since no other field becomes longer.
      rintro ⟨found, member, isStruct⟩
      simp only [List.length_append]
      cases member with
      | head =>
        have shorter := lt isStruct
        omega
      | tail _ member =>
        have shorter := restLt ⟨found, member, isStruct⟩
        omega

/-- Behind the fields of the schema the empty struct has no extras. -/
theorem writeWithSchema_empty {fields : List VMNamedVariableSchema} {flags : Int} (nonempty : fields ≠ [])
    {out : Bytes} (emits : (writeFields conv [] fields true 0).Emits (true, 0) out) :
    (VMDynamicStruct.writeWithSchema conv ⟨[]⟩ ⟨fields, flags⟩).Emits true
      (out ++ if flags % 2 = 1 then [0, 0, 0, 0] else []) := by
  have none : VMDynamicStruct.writers conv ⟨[]⟩ = [] := by rw [VMDynamicStruct.writers, fieldWriters]
  have positive := List.length_pos_iff.mpr nonempty
  have missing : ¬ (0 = fields.length ∧ ([] : List FieldWriter).length = fields.length) := by
    simp only [List.length_nil]
    omega
  unfold VMDynamicStruct.writeWithSchema
  rw [none, PhantasmaPy.Carbon.writeWithSchema]
  apply emits.bind
  by_cases extras : flags % 2 = 1
  · simp only [VMStructSchema.dynamicExtras, extras, if_neg missing, if_true, decide_true, Bool.not_true,
      Bool.false_eq_true, if_false, List.filter_nil]
    have count : (writeNamedDynamicVariables []).Emits () [0, 0, 0, 0] :=
      (emits_count.mpr ⟨by decide, rfl⟩).bind (Put.emits_each_nil.mpr rfl)
    exact count.bind (Put.emits_pure.mpr ⟨rfl, rfl⟩)
  · simp [VMStructSchema.dynamicExtras, extras]

/-- The empty struct has fewer bytes under the published schema if a field is of a struct type. -/
theorem writeWithSchema_published {schema : VMStructSchema}
    (bare : ∀ field ∈ schema.fields, field.schema.structDef = none)
    (hasStruct : ∃ field ∈ schema.fields, field.schema.type.isStruct) :
    (VMDynamicStruct.writeWithSchema conv ⟨[]⟩ schema).bytes ≠
      (VMDynamicStruct.writeWithSchema conv ⟨[]⟩ schema.published).bytes := by
  obtain ⟨fields, flags⟩ := schema
  obtain ⟨out, again, emits, emitsAgain, -, shorter⟩ := writeFields_published conv bare
  have nonempty : fields ≠ [] := by
    rintro rfl
    obtain ⟨field, member, -⟩ := hasStruct
    cases member
  have nonemptyAgain : publishedFields fields ≠ [] := by
    rw [← List.length_pos_iff, length_publishedFields]
    exact List.length_pos_iff.mpr nonempty
  rw [(writeWithSchema_empty conv nonempty emits).bytes, VMStructSchema.published,
    (writeWithSchema_empty conv nonemptyAgain emitsAgain).bytes]
  intro same
  have lengths := congrArg List.length (Except.ok.inj same)
  simp only [List.length_append] at lengths
  have less := shorter hasStruct
  omega

end Defaults

/-! ## The condition -/

/-- A produced schema keeps its meaning exactly if none of its fields is of a struct type. -/
theorem sameMeaning_iff (conv : Conversions) {lower : Str → Str} {loads : Str → Except PyError Json}
    {schema again : VMStructSchema} {raw : Bytes} (produced : Produced lower loads schema)
    (written : serialize schema.writeCarbon = .ok raw)
    (read : deserialize VMStructSchema.readCarbon raw = .ok again) :
    SameMeaning conv schema again ↔ ∀ field ∈ schema.fields, field.schema.type.isStruct = false := by
  have bare := produced.bare
  obtain rfl := bare.published written read
  constructor
  · intro same
    by_contra some
    simp only [not_forall, Bool.not_eq_false] at some
    obtain ⟨field, member, isStruct⟩ := some
    exact writeWithSchema_published conv bare.1 ⟨field, member, isStruct⟩ (same.1 ⟨[]⟩)
  · intro plain
    rw [bare.published_eq plain]
    exact ⟨fun _ => rfl, fun _ => rfl⟩

/-- `str.lower` on ASCII text. -/
def asciiLower (text : Str) : Str :=
  text.map fun c => if 65 ≤ c.val ∧ c.val ≤ 90 then c + 32 else c

/-- The schemas of a token with the standard fields and one field of the type. -/
def builtWith (type : VMType) : Except PyError TokenSchemas :=
  buildTokenSchemasFromFields asciiLower [] (standardMetadataFields.map .field)
    [.pair (.str (Str.ofString "extra")) (.type type)]

/-- The field is the only one of the third schema. -/
theorem builtWith_ram {type : VMType} {schemas : TokenSchemas} (built : builtWith type = .ok schemas) :
    ∃ name, schemas.ram.fields = [⟨name, ⟨type, none⟩⟩] := by
  obtain ⟨_, -, built⟩ := except_bind_eq_ok.mp built
  obtain ⟨_, -, built⟩ := except_bind_eq_ok.mp built
  obtain ⟨ramFields, ram, built⟩ := except_bind_eq_ok.mp built
  obtain ⟨_, -, built⟩ := except_bind_eq_ok.mp built
  obtain rfl := Except.ok.inj built
  obtain ⟨field, rest, made, none, rfl⟩ := List.forall₂_cons_left_iff.mp (mapM_eq_ok.mp ram)
  obtain rfl := List.forall₂_nil_left_iff.mp none
  obtain ⟨declared, coerced, made⟩ := except_bind_eq_ok.mp made
  obtain rfl := Except.ok.inj coerced
  obtain ⟨name, -, made⟩ := except_bind_eq_ok.mp made
  obtain rfl := Except.ok.inj made
  exact ⟨name, rfl⟩

/-- If the declarations are accepted, the third schema is produced and comes back from the wire. -/
theorem builtWith_publishes {type : VMType} (accepted : (builtWith type).isOk) :
    ∃ schemas raw again, builtWith type = .ok schemas ∧ Bare schemas.ram ∧
      serialize schemas.ram.writeCarbon = .ok raw ∧
      deserialize VMStructSchema.readCarbon raw = .ok again ∧ again = schemas.ram.published := by
  cases built : builtWith type with
  | error e => simp [built, Except.isOk, Except.toBool] at accepted
  | ok schemas =>
    have bare := (buildTokenSchemasFromFields_bare built).2.2
    obtain ⟨name, fields⟩ := builtWith_ram built
    obtain ⟨raw, written, read⟩ := bare.publishes (by rw [fields, List.length_singleton]; decide)
    exact ⟨schemas, raw, _, rfl, bare, written, read, rfl⟩

/-- A built schema with a field of a struct type, and a struct that is written in two ways. -/
theorem structField_changes_meaning :
    ∃ schemas raw again, builtWith .STRUCT = .ok schemas ∧
      serialize schemas.ram.writeCarbon = .ok raw ∧ deserialize VMStructSchema.readCarbon raw = .ok again ∧
      (VMDynamicStruct.writeWithSchema Conversions.none ⟨[]⟩ schemas.ram).bytes ≠
        (VMDynamicStruct.writeWithSchema Conversions.none ⟨[]⟩ again).bytes := by
  obtain ⟨schemas, raw, again, built, bare, written, read, rfl⟩ :=
    @builtWith_publishes .STRUCT (by decide +kernel)
  obtain ⟨name, fields⟩ := builtWith_ram built
  refine ⟨schemas, raw, _, built, written, read, writeWithSchema_published _ bare.1 ?_⟩
  rw [fields]
  exact ⟨_, List.mem_singleton.mpr rfl, rfl⟩

theorem sameMeaning_iff_string :
    ∃ schemas raw again, builtWith .STRING = .ok schemas ∧
      serialize schemas.ram.writeCarbon = .ok raw ∧ deserialize VMStructSchema.readCarbon raw = .ok again ∧
      SameMeaning Conversions.none schemas.ram again := by
  obtain ⟨schemas, raw, again, built, -, written, read, -⟩ :=
    @builtWith_publishes .STRING (by decide +kernel)
  obtain ⟨name, fields⟩ := builtWith_ram built
  have produced : Produced asciiLower (fun _ => .error .valueError) schemas.ram :=
    ⟨schemas, .inl ⟨_, _, _, built⟩, .inr (.inr rfl)⟩
  refine ⟨schemas, raw, again, built, written, read, ?_⟩
  apply (sameMeaning_iff Conversions.none produced written read).mpr
  rw [fields]
  simp [VMType.isStruct]

end PhantasmaPy.Carbon
