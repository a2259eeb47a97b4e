import PhantasmaPy.Carbon.Conformance

/-! # Images of dynamic values

The derivations of `Written` follow the nesting of a value.  Along them the reader gives back what the writer
was given, in normal form.
-/

namespace PhantasmaPy.Carbon

open Wire CarbonWriter CarbonReader

/-! ## Structs of at least one byte -/

theorem readLeaf_consumes {vmType : VMType} (leaf : vmType.isNested = false) :
    (readLeaf vmType).Consumes := by
  have wrapped {α : Type} {reader : CarbonReader α} (consumes : reader.Consumes) (f : α → Data) :
      (do let a ← reader; return f a : CarbonReader Data).Consumes :=
    consumes.bind fun _ => (Get.Local.pure _).steady
  cases vmType with
  | BYTES => exact wrapped readByteArray_consumes _
  | INT8 => exact wrapped int8_consumes _
  | INT16 => exact wrapped (readSigned_consumes (by decide)) _
  | INT32 => exact wrapped (readSigned_consumes (by decide)) _
  | INT64 => exact wrapped (readSigned_consumes (by decide)) _
  | INT256 => exact wrapped readBigInt_consumes _
  | BYTES16 => exact wrapped (readFixed_consumes (by decide)) _
  | BYTES32 => exact wrapped (readFixed_consumes (by decide)) _
  | BYTES64 => exact wrapped (readFixed_consumes (by decide)) _
  | STRING => exact wrapped readStringZ_consumes _
  | ARRAY_BYTES => exact wrapped (array_consumes readByteArray_local.steady) _
  | ARRAY_INT8 => exact wrapped (array_consumes (readIntElement_local 1 true).steady) _
  | ARRAY_INT16 => exact wrapped (array_consumes (readIntElement_local 2 true).steady) _
  | ARRAY_INT32 => exact wrapped (array_consumes (readIntElement_local 4 true).steady) _
  | ARRAY_INT64 => exact wrapped (array_consumes (readIntElement_local 8 true).steady) _
  | ARRAY_INT256 => exact wrapped (array_consumes readBigInt_local.steady) _
  | ARRAY_BYTES16 => exact wrapped (array_consumes (readFixed_local 16).steady) _
  | ARRAY_BYTES32 => exact wrapped (array_consumes (readFixed_local 32).steady) _
  | ARRAY_BYTES64 => exact wrapped (array_consumes (readFixed_local 64).steady) _
  | ARRAY_STRING => exact wrapped (array_consumes readStringZ_local.steady) _
  | _ => cases leaf

theorem readInline_consumes (vmType : VMType) : (readInline vmType).Consumes := by
  rw [readInline_eq]
  cases vmType with
  | DYNAMIC =>
    exact (readVariable_consumes readInline_shrinks).bind_shrinks fun _ => (Get.Local.pure _).shrinks
  | STRUCT =>
    exact (readStruct_consumes readInline_shrinks).bind_shrinks fun _ => (Get.Local.pure _).shrinks
  | ARRAY_DYNAMIC =>
    exact (readArray_consumes (readVariable_consumes readInline_shrinks).shrinks).bind_shrinks fun _ =>
      (Get.Local.pure _).shrinks
  | ARRAY_STRUCT =>
    exact readLength_consumes.bind_shrinks fun count =>
      VMStructSchema.readCarbon_shrinks.bind fun schema =>
        inlineElements_shrinks readInline_shrinks count schema
  | _ =>
    rw [readInlineBody_leaf readInline rfl]
    exact readLeaf_consumes rfl

mutual

theorem readWithSchema_consumes : ∀ schema : VMStructSchema, schema.occupies = true →
    (readWithSchema readInline schema).Consumes
  | ⟨schemaFields, flags⟩, occupies => by
    rw [VMStructSchema.occupies, Bool.or_eq_true] at occupies
    rw [readWithSchema]
    have extrasConsume (fields : List VMNamedDynamicVariable) :
        (do
          let extras ← readArray (readNamed readInline)
          return ⟨sortFields (fields ++ extras)⟩ : CarbonReader VMDynamicStruct).Consumes :=
      (readNamedArray_consumes readInline_shrinks).bind_shrinks fun _ => (Get.Local.pure _).shrinks
    rcases occupies with extras | fieldsOccupy
    · refine (readFields_shrinks readInline_shrinks schemaFields).bind_consumes fun fields => ?_
      rw [if_pos extras]
      exact extrasConsume fields
    · refine (readFields_consumes schemaFields fieldsOccupy).bind_shrinks fun fields => ?_
      split
      · exact (extrasConsume fields).shrinks
      · exact (Get.Local.pure _).shrinks

theorem readFields_consumes : ∀ schemaFields, fieldsOccupy schemaFields = true →
    (readFields readInline schemaFields).Consumes
  | ⟨name, ⟨type, structDef⟩⟩ :: schemaFields, occupies => by
    rw [fieldsOccupy, Bool.or_eq_true] at occupies
    rw [readFields]
    rcases occupies with first | rest
    · refine (readStatic_consumes type structDef first).bind_shrinks fun _ =>
        (readFields_shrinks readInline_shrinks schemaFields).bind fun _ => (Get.Local.pure _).shrinks
    · exact (readStatic_shrinks readInline_shrinks type structDef).bind_consumes fun _ =>
        (readFields_consumes schemaFields rest).bind_shrinks fun _ => (Get.Local.pure _).shrinks

theorem readStatic_consumes (vmType : VMType) : ∀ schema : Option VMStructSchema,
    (decide (vmType ≠ .STRUCT) || defOccupies schema) = true →
      (readStatic readInline vmType schema).Consumes
  | none, _ => readInline_consumes vmType
  | some schema, occupies => by
    cases vmType with
    | STRUCT =>
      exact (readWithSchema_consumes schema occupies).bind_shrinks fun _ => (Get.Local.pure _).shrinks
    | ARRAY_STRUCT =>
      exact (readArray_consumes (readWithSchema_shrinks readInline_shrinks schema)).bind_shrinks
        fun _ => (Get.Local.pure _).shrinks
    | _ => exact readInline_consumes _

end

/-! ## Single values -/

section Values

variable (conv : Conversions)

theorem LeafData.isNested {vmType : VMType} {data : Data} (leafData : LeafData vmType data) :
    vmType.isNested = false := by
  cases vmType <;> first | rfl | exact leafData.elim

theorem Data.IsOf.normal {α : Type} {inject : α → Data} {domain : α → Prop} {data : Data}
    (isOf : data.IsOf inject domain) (same : ∀ a, (inject a).normal = inject a) :
    data.normal = data := by
  obtain ⟨a, -, rfl⟩ := isOf
  exact same a

theorem Data.IsListOf.normal {α : Type} {inject : α → Data} {domain : α → Prop} {data : Data}
    (isListOf : data.IsListOf inject domain) (same : ∀ a, (inject a).normal = inject a) :
    data.normal = data := by
  obtain ⟨xs, -, rfl⟩ := isListOf
  have items := @normalItems_map _ inject id same xs
  rw [List.map_id] at items
  rw [Data.normal, items]

theorem LeafData.normal {vmType : VMType} {data : Data} (leafData : LeafData vmType data) :
    data.normal = data := by
  cases vmType <;>
    first
      | exact Data.IsOf.normal leafData fun _ => rfl
      | exact Data.IsListOf.normal leafData fun _ => rfl
      | exact leafData.elim

theorem writeBody_leaf {vmType : VMType} (leaf : vmType.isNested = false) (value : Data)
    (parts : Parts) (schema : Option VMStructSchema) :
    writeBody conv value parts vmType schema = do writeLeaf conv vmType value; return true := by
  cases vmType <;> first | rfl | cases leaf

theorem writeAs_leaf {vmType : VMType} (leaf : vmType.isNested = false) (data : Data)
    (schema : Option VMStructSchema) :
    data.writeAs conv vmType schema = do writeLeaf conv vmType data; return true := by
  cases data with
  | structArray value =>
    obtain ⟨arraySchema, structs⟩ := value
    exact writeBody_leaf conv leaf _ _ schema
  | _ => exact writeBody_leaf conv leaf _ _ schema

theorem readStatic_leaf {vmType : VMType} (leaf : vmType.isNested = false)
    (schema : Option VMStructSchema) : readStatic readInline vmType schema = readLeaf vmType := by
  rw [← readInlineBody_leaf readInline leaf, ← readInline_eq]
  cases schema with
  | none => rfl
  | some schema => cases vmType <;> first | rfl | cases leaf

theorem leafData_conveys {vmType : VMType} {data : Data} (schema : Option VMStructSchema)
    (leafData : LeafData vmType data) :
    Conveys (data.writeAs conv vmType schema) true (readStatic readInline vmType schema) data.normal := by
  rw [writeAs_leaf conv leafData.isNested, readStatic_leaf leafData.isNested, leafData.normal]
  exact (leaf_conveys conv leafData).returning true

/-- A dynamic variable: the type byte, then the data without a schema. -/
theorem variable_conveys {value : VMDynamicVariable} {image : Data}
    (inner : Conveys (value.data.writeAs conv value.type none) true
      (readStatic readInline value.type none) image) :
    Conveys (value.writeCarbon conv) () (readVariable readInline) ⟨value.type, image⟩ := by
  obtain ⟨type, data⟩ := value
  rw [VMDynamicVariable.writeCarbon]
  refine (VMType.conveys type).seq ?_
  exact (inner.returning ()).map fun data => (⟨type, data⟩ : VMDynamicVariable)

/-- The field with other data of its type. -/
def VMNamedDynamicVariable.withData (field : VMNamedDynamicVariable) (data : Data) : VMNamedDynamicVariable :=
  ⟨field.name, ⟨field.value.type, data⟩⟩

theorem withData_normal (field : VMNamedDynamicVariable) :
    field.withData field.value.data.normal = field.normal := by
  obtain ⟨name, type, data⟩ := field
  rfl

theorem withData_injective {field : VMNamedDynamicVariable} {data other : Data}
    (same : field.withData data = field.withData other) : data = other :=
  (VMDynamicVariable.mk.inj (VMNamedDynamicVariable.mk.inj same).2).2

/-- What the writer appends for the data of the field is read as the image. -/
def FieldConveys (field : VMNamedDynamicVariable) (image : Data) : Prop :=
  Conveys (field.value.data.writeAs conv field.value.type none) true
    (readStatic readInline field.value.type none) image

theorem named_conveys {field : VMNamedDynamicVariable} {image : Data} (inner : FieldConveys conv field image) :
    Conveys (do (field.writer conv).name.writeCarbon; (field.writer conv).writeCarbon) ()
      (readNamed readInline) (field.withData image) := by
  obtain ⟨name, value⟩ := field
  exact (SmallString.roundTrips.conveys trivial).seq ((variable_conveys conv inner).map
    fun value => (⟨name, value⟩ : VMNamedDynamicVariable))

/-- The count and the named fields of a struct. -/
theorem namedArray_conveys {fields : List VMNamedDynamicVariable} {image : VMNamedDynamicVariable → Data}
    (small : fields.length < 2 ^ 31) (each : ∀ field ∈ fields, FieldConveys conv field (image field)) :
    Conveys (writeNamedDynamicVariables (fields.map (VMNamedDynamicVariable.writer conv))) ()
      (readArray (readNamed readInline)) (fields.map fun field => field.withData (image field)) := by
  have written : ConveysAll (Put.each (fun field : FieldWriter => do
        field.name.writeCarbon
        field.writeCarbon) (fields.map (VMNamedDynamicVariable.writer conv)))
      (readNamed readInline) (fields.map fun field => field.withData (image field)) := by
    rw [Put.each_map]
    exact conveysAll_each fun field member => named_conveys conv (each field member)
  exact conveys_counted written (by rw [List.length_map, List.length_map])
    (by rwa [List.length_map]) (readNamed_consumes readInline_shrinks)

/-- The writers of the fields are sorted as the fields are. -/
theorem sorted_fieldWriters (fields : List VMNamedDynamicVariable) :
    (fieldWriters conv fields).insertionSort (fun first second => first.name.value ≤ second.name.value) =
      (sortFields fields).map (VMNamedDynamicVariable.writer conv) := by
  rw [fieldWriters_eq]
  refine (List.map_insertionSort
    (fun first second : VMNamedDynamicVariable => first.name.value ≤ second.name.value)
    (fun first second : FieldWriter => first.name.value ≤ second.name.value)
    (VMNamedDynamicVariable.writer conv) fields fun first _ second _ => ?_).symm
  rw [writer_name, writer_name]

/-- A struct without a schema is written in the order of the names, and sorted again when read. -/
theorem struct_conveys {value : VMDynamicStruct} {image : VMNamedDynamicVariable → Data}
    (small : value.fields.length < 2 ^ 31)
    (each : ∀ field ∈ value.fields, FieldConveys conv field (image field)) :
    Conveys (writeStruct (value.writers conv)) () (readStruct readInline)
      ⟨sortFields (value.fields.map fun field => field.withData (image field))⟩ := by
  obtain ⟨fields⟩ := value
  have sorted : sortFields ((sortFields fields).map fun field => field.withData (image field)) =
      sortFields (fields.map fun field => field.withData (image field)) := by
    rw [@sortFields_map (fun field => field.withData (image field)) fun _ => rfl, sortFields_sorted]
  unfold writeStruct VMDynamicStruct.writers
  rw [sorted_fieldWriters, ← sorted]
  have perm := sortFields_perm fields
  have named := namedArray_conveys conv (perm.length_eq ▸ small) fun field member =>
    each field (perm.mem_iff.mp member)
  exact named.map fun fields => (⟨sortFields fields⟩ : VMDynamicStruct)

/-- The normal form puts every field in normal form and sorts them. -/
theorem normal_struct (value : VMDynamicStruct) :
    value.normal = ⟨sortFields (value.fields.map VMNamedDynamicVariable.normal)⟩ := by
  obtain ⟨fields⟩ := value
  rw [VMDynamicStruct.normal, normalFields_eq]

end Values

/-! ## Structs with a schema -/

section Bound

variable (conv : Conversions) {schema : VMStructSchema} {fields : List VMNamedDynamicVariable}

theorem VMStructSchema.hasField_iff {name : Str} :
    schema.hasField name = true ↔ ∃ field ∈ schema.fields, field.name.value = name := by
  simp [VMStructSchema.hasField]

/-- A field is the one that its name selects. -/
theorem find_writer (distinct : DistinctNames fields) {field : VMNamedDynamicVariable}
    (member : field ∈ fields) :
    ((fieldWriters conv fields).find? fun writer => writer.name.value = field.name.value) =
      some (field.writer conv) := by
  induction fields with
  | nil => exact absurd member List.not_mem_nil
  | cons first fields ih =>
    obtain ⟨fresh, distinct⟩ := List.nodup_cons.mp distinct
    rw [fieldWriters]
    rcases List.mem_cons.mp member with rfl | member
    · exact List.find?_cons_of_pos (by rw [writer_name, decide_eq_true rfl])
    · have different : first.name.value ≠ field.name.value := by
        intro same
        exact fresh (List.mem_map.mpr ⟨field, member, same.symm⟩)
      rw [List.find?_cons_of_neg (by rw [writer_name, decide_eq_false different]; decide)]
      exact ih distinct member

/-- The first field of a name is the one that its writer is taken from. -/
theorem find_writer_of_get {name : Str} {value : VMDynamicVariable}
    (found : VMDynamicStruct.get ⟨fields⟩ name = some value) :
    ∃ field, fields.find? (fun field => field.name.value = name) = some field ∧ field.value = value ∧
      ((fieldWriters conv fields).find? fun writer => writer.name.value = name) = some (field.writer conv) := by
  obtain ⟨field, first, rfl⟩ := Option.map_eq_some_iff.mp found
  refine ⟨field, first, rfl, ?_⟩
  have names : ((fun writer : FieldWriter => decide (writer.name.value = name)) ∘
      VMNamedDynamicVariable.writer conv) = fun field => decide (field.name.value = name) := by
    funext field
    rw [Function.comp_apply, writer_name]
  rw [fieldWriters_eq, List.find?_map, names]
  exact congrArg (Option.map _) first

theorem find_writer_named {name : Str} {writer : FieldWriter}
    (found : ((fieldWriters conv fields).find? fun writer => writer.name.value = name) = some writer) :
    ∃ field ∈ fields, field.name.value = name := by
  have inWriters := List.mem_of_find?_eq_some found
  rw [fieldWriters_eq] at inWriters
  obtain ⟨field, inFields, rfl⟩ := List.mem_map.mp inWriters
  have same := List.find?_some found
  rw [writer_name] at same
  exact ⟨field, inFields, of_decide_eq_true same⟩

/-- The loop over the fields of a schema that are all there. -/
theorem writeFields_conveys {writers : List FieldWriter} {schemaFields : List VMNamedVariableSchema}
    {data : VMNamedVariableSchema → Data}
    (found : ∀ field ∈ schemaFields, ∃ writer,
      (writers.find? fun writer => writer.name.value = field.name.value) = some writer ∧
      Conveys (writer.writeStatic field.schema.type field.schema.structDef) true
        (readStatic readInline field.schema.type field.schema.structDef) (data field))
    (ok : Bool) (fieldsFound : Nat) :
    Conveys (writeFields conv writers schemaFields ok fieldsFound) (ok, fieldsFound + schemaFields.length)
      (readFields readInline schemaFields)
      (schemaFields.map fun field => ⟨field.name, ⟨field.schema.type, data field⟩⟩) := by
  induction schemaFields generalizing fieldsFound with
  | nil => exact conveys_pure _ _
  | cons field schemaFields ih =>
    obtain ⟨name, type, structDef⟩ := field
    obtain ⟨writer, first, conveys⟩ := found _ List.mem_cons_self
    have rest := ih (fun field member => found field (List.mem_cons_of_mem _ member)) (fieldsFound + 1)
    rw [Nat.add_right_comm, Nat.add_assoc] at rest
    rw [writeFields, first, readFields, List.map_cons, List.length_cons]
    refine conveys.bind ?_
    rw [Bool.true_and]
    exact rest.map fun fields => ⟨name, ⟨type, data ⟨name, type, structDef⟩⟩⟩ :: fields

/-- The field that a schema field stands for. -/
def boundField (values : VMNamedVariableSchema → Data) (field : VMNamedVariableSchema) :
    VMNamedDynamicVariable := ⟨field.name, ⟨field.schema.type, values field⟩⟩

theorem SmallString.ext_value {text other : SmallString} (same : text.value = other.value) : text = other := by
  cases text
  cases other
  cases same
  rfl

/-- The only element of its name. -/
theorem filter_distinct {α : Type} {name : α → Str} {xs : List α} (distinct : (xs.map name).Nodup) {x : α}
    (member : x ∈ xs) : (xs.filter fun other => name other = name x) = [x] := by
  induction xs with
  | nil => cases member
  | cons first xs ih =>
    obtain ⟨fresh, distinct⟩ := List.nodup_cons.mp distinct
    have others (other : α) (inside : other ∈ xs) : name first ≠ name other := by
      intro same
      exact fresh (List.mem_map.mpr ⟨other, inside, same.symm⟩)
    cases member with
    | head =>
      rw [List.filter_cons_of_pos (by simp)]
      refine congrArg (x :: ·) (List.filter_eq_nil_iff.mpr fun other inside => ?_)
      simp [Ne.symm (others other inside)]
    | tail _ member =>
      rw [List.filter_cons_of_neg (by simp [others x member])]
      exact ih distinct member

/-- A name that the schema does not have belongs to extras only. -/
theorem extras_filter {name : Str} (unnamed : schema.hasField name = false) :
    ((extras schema fields).filter fun field => field.name.value = name) =
      fields.filter fun field => field.name.value = name := by
  unfold extras
  rw [List.filter_filter]
  refine List.filter_congr fun field _ => ?_
  by_cases named : field.name.value = name
  · simp [named, unnamed]
  · simp [named]

theorem extras_named {name : Str} (named : schema.hasField name = true) :
    ((extras schema fields).filter fun field => field.name.value = name) = [] := by
  apply List.filter_eq_nil_iff.mpr
  intro field member
  obtain ⟨-, unnamed⟩ := List.mem_filter.mp member
  simp only [decide_eq_true_eq]
  rintro rfl
  rw [named] at unnamed
  cases unnamed

theorem emptyArray_parses {α : Type} (item : CarbonReader α) : (readArray item).Parses [0, 0, 0, 0] [] := by
  intro rest
  exact Get.yields_bind.mpr ⟨0, rest, @readLength_yields 0 (by decide) rest (Nat.zero_le _), rfl⟩

theorem emptyCount_conveys {α : Type} {item : CarbonReader α} :
    Conveys (write4u 0) () (readArray item) [] :=
  ⟨[0, 0, 0, 0], emits_writeUnsigned.mpr ⟨by decide, by decide⟩, emptyArray_parses item⟩

/-- A struct with as many fields as its schema has no others. -/
theorem extras_eq_nil (schemaDistinct : (schema.fields.map fun field => field.name.value).Nodup)
    (named : ∀ schemaField ∈ schema.fields, ∃ field ∈ fields, field.name.value = schemaField.name.value)
    (length : fields.length = schema.fields.length) : extras schema fields = [] := by
  have subset : (schema.fields.map fun field => field.name.value) ⊆
      fields.map fun field => field.name.value := by
    intro name member
    obtain ⟨schemaField, inSchema, rfl⟩ := List.mem_map.mp member
    obtain ⟨field, inFields, same⟩ := named schemaField inSchema
    exact List.mem_map.mpr ⟨field, inFields, same⟩
  have perm := (List.subperm_of_subset schemaDistinct subset).perm_of_length_le
    (by rw [List.length_map, List.length_map, length])
  apply List.filter_eq_nil_iff.mpr
  intro field member
  obtain ⟨schemaField, inSchema, same⟩ :=
    List.mem_map.mp (perm.mem_iff.mpr (List.mem_map.mpr ⟨field, member, rfl⟩))
  simp only [Bool.not_eq_true', Bool.not_eq_false]
  exact VMStructSchema.hasField_iff.mpr ⟨schemaField, inSchema, same⟩

theorem filter_fieldWriters (schema : VMStructSchema) (fields : List VMNamedDynamicVariable) :
    ((fieldWriters conv fields).filter fun writer => !schema.hasField writer.name.value) =
      (extras schema fields).map (VMNamedDynamicVariable.writer conv) := by
  rw [fieldWriters_eq, List.filter_map]
  congr 1
  exact List.filter_congr fun field _ => by rw [Function.comp_apply, writer_name]

/-- A struct with a writer for each field of the schema: the fields are written one by one, then the
    others if the schema allows them. -/
theorem withSchema_conveys {data : VMNamedVariableSchema → Data} {image : VMNamedDynamicVariable → Data}
    (schemaDistinct : (schema.fields.map fun field => field.name.value).Nodup)
    (found : ∀ field ∈ schema.fields, ∃ writer,
      ((fieldWriters conv fields).find? fun writer => writer.name.value = field.name.value) = some writer ∧
      Conveys (writer.writeStatic field.schema.type field.schema.structDef) true
        (readStatic readInline field.schema.type field.schema.structDef) (data field))
    (extrasSmall : schema.dynamicExtras = true → (extras schema fields).length < 2 ^ 31)
    (extrasEach : schema.dynamicExtras = true → ∀ field ∈ extras schema fields,
      FieldConveys conv field (image field)) :
    Conveys (writeWithSchema conv (fieldWriters conv fields) schema) true (readWithSchema readInline schema)
      ⟨sortFields (schema.fields.map (boundField data) ++ if schema.dynamicExtras then
        (extras schema fields).map fun field => field.withData (image field) else [])⟩ := by
  have named : ∀ schemaField ∈ schema.fields, ∃ field ∈ fields,
      field.name.value = schemaField.name.value := by
    intro schemaField member
    obtain ⟨writer, isFound, -⟩ := found schemaField member
    exact find_writer_named conv isFound
  have noRoom := extras_eq_nil schemaDistinct named
  obtain ⟨schemaFields, flags⟩ := schema
  have fieldsConvey := @writeFields_conveys conv (fieldWriters conv fields) schemaFields data found true 0
  rw [writeWithSchema, readWithSchema]
  refine fieldsConvey.bind ?_
  dsimp only
  rw [Nat.zero_add]
  cases hasExtras : VMStructSchema.dynamicExtras ⟨schemaFields, flags⟩ with
  | false =>
    simp only [Bool.false_eq_true, if_false, List.append_nil]
    exact conveys_pure _ _
  | true =>
    -- the count of zero is written in advance where there is no room for extras
    have extrasConvey : Conveys (if schemaFields.length = schemaFields.length ∧
          (fieldWriters conv fields).length = schemaFields.length then do
          write4u 0
          return true
        else do
          writeNamedDynamicVariables ((fieldWriters conv fields).filter fun writer =>
            !VMStructSchema.hasField ⟨schemaFields, flags⟩ writer.name.value)
          return true : CarbonWriter Bool) true (readArray (readNamed readInline))
        ((extras ⟨schemaFields, flags⟩ fields).map fun field => field.withData (image field)) := by
      split
      next same =>
        rw [fieldWriters_eq, List.length_map] at same
        rw [noRoom same.2]
        exact emptyCount_conveys.returning true
      next =>
        rw [filter_fieldWriters]
        exact (namedArray_conveys conv (extrasSmall hasExtras) (extrasEach hasExtras)).returning true
    exact extrasConvey.map fun extras => (⟨sortFields (_ ++ extras)⟩ : VMDynamicStruct)

/-- The fields of a struct that is read under a schema, before they are sorted. -/
def boundImage (schema : VMStructSchema) (fields : List VMNamedDynamicVariable)
    (data : VMNamedVariableSchema → Data) (image : VMNamedDynamicVariable → Data) : List VMNamedDynamicVariable :=
  schema.fields.map (boundField data) ++
    if schema.dynamicExtras then (extras schema fields).map fun field => field.withData (image field) else []

/-- A struct whose first fields of the schema's names are of the schema's types. -/
theorem boundStruct_conveys {values data : VMNamedVariableSchema → Data} {image : VMNamedDynamicVariable → Data}
    (schemaDistinct : (schema.fields.map fun field => field.name.value).Nodup)
    (first : ∀ field ∈ schema.fields,
      VMDynamicStruct.get ⟨fields⟩ field.name.value = some ⟨field.schema.type, values field⟩)
    (each : ∀ field ∈ schema.fields,
      Conveys ((values field).writeAs conv field.schema.type field.schema.structDef) true
        (readStatic readInline field.schema.type field.schema.structDef) (data field))
    (extrasSmall : schema.dynamicExtras = true → (extras schema fields).length < 2 ^ 31)
    (extrasEach : schema.dynamicExtras = true → ∀ field ∈ extras schema fields,
      FieldConveys conv field (image field)) :
    Conveys (writeWithSchema conv (fieldWriters conv fields) schema) true
      (readWithSchema readInline schema) ⟨sortFields (boundImage schema fields data image)⟩ := by
  refine withSchema_conveys conv schemaDistinct (fun field member => ?_) extrasSmall extrasEach
  obtain ⟨⟨name, value⟩, -, rfl, found⟩ := find_writer_of_get conv (first field member)
  refine ⟨_, found, ?_⟩
  change Conveys (if field.schema.type = field.schema.type then _ else _) _ _ _
  rw [if_pos rfl]
  exact each field member

/-- A change that keeps the names can be made before or after the fields of a name are taken. -/
theorem filter_map_named {change : VMNamedDynamicVariable → VMNamedDynamicVariable}
    (named : ∀ field, (change field).name = field.name) (fields : List VMNamedDynamicVariable) (name : Str) :
    ((fields.map change).filter fun field => field.name.value = name) =
      (fields.filter fun field => field.name.value = name).map change := by
  rw [List.filter_map]
  congr 1
  exact List.filter_congr fun field _ => by rw [Function.comp_apply, named]

section BoundImage

variable {values data : VMNamedVariableSchema → Data} {image : VMNamedDynamicVariable → Data}

theorem boundImage_named (schemaDistinct : (schema.fields.map fun field => field.name.value).Nodup)
    {field : VMNamedVariableSchema} (member : field ∈ schema.fields) :
    ((boundImage schema fields data image).filter fun other => other.name.value = field.name.value) =
      [boundField data field] := by
  have bound : ((schema.fields.map (boundField data)).filter fun other => other.name.value = field.name.value) =
      [boundField data field] := by
    rw [List.filter_map]
    exact congrArg (List.map (boundField data)) (filter_distinct schemaDistinct member)
  have hasField : schema.hasField field.name.value = true :=
    VMStructSchema.hasField_iff.mpr ⟨field, member, rfl⟩
  unfold boundImage
  rw [List.filter_append, bound]
  split
  · rw [@filter_map_named (fun other => other.withData (image other)) fun _ => rfl, extras_named hasField]
    rfl
  · rfl

theorem boundImage_unnamed {name : Str} (unnamed : schema.hasField name = false) :
    ((boundImage schema fields data image).filter fun other => other.name.value = name) =
      if schema.dynamicExtras then
        (fields.filter fun other => other.name.value = name).map fun field => field.withData (image field)
      else [] := by
  have bound : ((schema.fields.map (boundField data)).filter fun other => other.name.value = name) = [] := by
    apply List.filter_eq_nil_iff.mpr
    intro other member
    obtain ⟨field, inSchema, rfl⟩ := List.mem_map.mp member
    simp only [decide_eq_true_eq]
    intro same
    rw [VMStructSchema.hasField_iff.mpr ⟨field, inSchema, same⟩] at unnamed
    cases unnamed
  unfold boundImage
  rw [List.filter_append, bound, List.nil_append]
  split
  · rw [@filter_map_named (fun other => other.withData (image other)) fun _ => rfl, extras_filter unnamed]
  · rfl

/-- The one field of a name is the one that the name selects. -/
theorem single_field {field : VMNamedVariableSchema} {value : Data}
    (first : VMDynamicStruct.get ⟨fields⟩ field.name.value = some ⟨field.schema.type, value⟩)
    (single : (fields.filter fun other => other.name.value = field.name.value).length = 1) :
    (fields.filter fun other => other.name.value = field.name.value) =
      [⟨field.name, ⟨field.schema.type, value⟩⟩] := by
  obtain ⟨other, only⟩ := List.length_eq_one_iff.mp single
  unfold VMDynamicStruct.get at first
  rw [← List.head?_filter, only] at first
  have inside : other ∈ fields.filter fun other => other.name.value = field.name.value := by
    rw [only]
    exact List.mem_cons_self
  have named : other.name.value = field.name.value := of_decide_eq_true (List.mem_filter.mp inside).2
  obtain ⟨name, data⟩ := other
  obtain rfl : name = field.name := SmallString.ext_value named
  obtain rfl := Option.some.inj first
  exact only

/-- A struct of which no field is passed over is read back in normal form. -/
theorem boundImage_normal (schemaDistinct : (schema.fields.map fun field => field.name.value).Nodup)
    (first : ∀ field ∈ schema.fields,
      VMDynamicStruct.get ⟨fields⟩ field.name.value = some ⟨field.schema.type, values field⟩)
    (once : ∀ field ∈ schema.fields,
      (fields.filter fun other => other.name.value = field.name.value).length = 1)
    (allowed : extras schema fields ≠ [] → schema.dynamicExtras = true) :
    sortFields (boundImage schema fields (fun field => (values field).normal) fun field => field.value.data.normal) =
      sortFields (fields.map VMNamedDynamicVariable.normal) := by
  apply sortFields_ext
  intro name
  rw [filter_map_named normal_name]
  -- the fields of one name: the one that the schema binds, or the extras of that name
  cases named : schema.hasField name with
  | true =>
    obtain ⟨field, member, rfl⟩ := VMStructSchema.hasField_iff.mp named
    rw [boundImage_named schemaDistinct member, single_field (first field member) (once field member)]
    rfl
  | false =>
    rw [boundImage_unnamed named, ← extras_filter named]
    simp only [withData_normal]
    split
    next => rfl
    next refused =>
      have noExtras : extras schema fields = [] := by
        by_contra some_extras
        exact refused (allowed some_extras)
      rw [noExtras]
      rfl

end BoundImage

end Bound

/-! ## Arrays of structs -/

section StructArrays

variable (conv : Conversions) {schema : VMStructSchema} {structs : List VMDynamicStruct}

theorem structWriters_eq (structs : List VMDynamicStruct) :
    (itemWriters conv (structs.map .struct)).map ItemWriter.fields =
      structs.map (VMDynamicStruct.writers conv) := by
  rw [itemWriters_map, List.map_map]
  rfl

theorem normalStructs_eq (structs : List VMDynamicStruct) :
    normalItems (structs.map .struct) = (structs.map VMDynamicStruct.normal).map .struct :=
  @normalItems_map _ Data.struct VMDynamicStruct.normal (fun _ => rfl) structs

/-- The elements of an array with a schema. -/
theorem boundStructs_conveys {image : VMDynamicStruct → VMDynamicStruct} (each : ∀ struct ∈ structs,
      Conveys (writeWithSchema conv (struct.writers conv) schema) true
        (readWithSchema readInline schema) (image struct)) :
    ConveysAll (Put.each (fun fields => do let _ ← writeWithSchema conv fields schema)
        (structs.map (VMDynamicStruct.writers conv)))
      (readWithSchema readInline schema) (structs.map image) := by
  rw [Put.each_map]
  exact conveysAll_each fun struct member => (each struct member).returning ()

theorem boundArray_conveys {image : VMDynamicStruct → VMDynamicStruct} (small : structs.length < 2 ^ 31)
    (occupies : schema.occupies = true)
    (each : ∀ struct ∈ structs, Conveys (writeWithSchema conv (struct.writers conv) schema) true
      (readWithSchema readInline schema) (image struct)) (arraySchema : VMStructSchema) :
    Conveys (writeStructs conv (some schema) arraySchema (structs.map (VMDynamicStruct.writers conv)))
      () (readArray (readWithSchema readInline schema)) (structs.map image) :=
  conveys_counted (boundStructs_conveys conv each) (by rw [List.length_map, List.length_map])
    (by rwa [List.length_map]) (readWithSchema_consumes schema occupies)

/-- The elements of an array whose schema travels in front of them. -/
theorem inlineArray_conveys {image : VMDynamicStruct → VMDynamicStruct} (small : structs.length < 2 ^ 31)
    (inRange : schema.InRange) (defines : schema.DefinesStructs) {write : CarbonWriter Unit}
    {item : CarbonReader VMDynamicStruct} (conveys : ConveysAll write item (structs.map image)) (consumes : item.Consumes)
    {next : Nat → VMStructSchema → CarbonReader Data}
    (next_eq : ∀ count, next count schema = do
      let structs ← Get.times item count
      return .structArray ⟨schema, structs.map .struct⟩) :
    Conveys (do writeCount structs.length; schema.writeCarbon; write) ()
      (do
        let count ← readLength
        let schema ← VMStructSchema.readCarbon
        next count schema)
      (.structArray ⟨schema, (structs.map image).map .struct⟩) := by
  obtain ⟨out, emits, segmented⟩ := conveys
  obtain ⟨schemaOut, schemaEmits, schemaParses⟩ := schema.conveys inRange
  rw [schema.published_eq defines] at schemaParses
  refine ⟨_, (emits_count.mpr ⟨small, rfl⟩).bind (schemaEmits.bind emits), ?_⟩
  refine readLength_bind_parses small ?_ (schemaParses.bind ?_)
  · -- `read_length` bounds the count by what is left, and each element takes a byte at least.
    have enough := segmented.length_le consumes.not_parses_nil
    rw [List.length_map] at enough
    rw [List.length_append]
    omega
  · have parses := segmented.times
    rw [List.length_map] at parses
    rw [next_eq]
    exact parses.map _

end StructArrays

/-! ## Round trip -/

section RoundTrip

variable (conv : Conversions)

/-- Types that never look at a schema. -/
theorem readStatic_dynamic {vmType : VMType} (noStruct : vmType.isStruct = false)
    (schema : Option VMStructSchema) :
    readStatic readInline vmType schema = readInlineBody readInline vmType := by
  rw [← readInline_eq]
  cases schema with
  | none => rfl
  | some schema => cases vmType <;> first | rfl | cases noStruct

theorem struct_injective : Function.Injective Data.struct := by
  intro first second same
  cases same
  rfl

/-- A list of dynamic variables. -/
theorem variables_conveys {values : List VMDynamicVariable} {image : VMDynamicVariable → Data}
    (small : values.length < 2 ^ 31)
    (each : ∀ value ∈ values,
      Conveys (value.data.writeAs conv value.type none) true (readStatic readInline value.type none)
        (image value)) :
    Conveys (writeArray ItemWriter.writeCarbon (itemWriters conv (values.map .variable))) ()
      (readArray (readVariable readInline)) (values.map fun value => ⟨value.type, image value⟩) := by
  have written : ConveysAll (Put.each ItemWriter.writeCarbon (itemWriters conv (values.map .variable)))
      (readVariable readInline) (values.map fun value => ⟨value.type, image value⟩) := by
    rw [itemWriters_map, Put.each_map]
    exact conveysAll_each fun value member => variable_conveys conv (each value member)
  have length : (itemWriters conv (values.map .variable)).length = values.length := by
    rw [itemWriters_map, List.length_map]
  exact conveys_counted written (by rw [length, List.length_map]) (by rwa [length])
    (readVariable_consumes readInline_shrinks)

/-- A struct that is written and read under a wrapper. -/
theorem boundElement_conveys {schema : VMStructSchema} {struct read : VMDynamicStruct}
    (conveys : Conveys ((Data.struct struct).writeAs conv .STRUCT (some schema)) true
      (readStatic readInline .STRUCT (some schema)) (.struct read)) :
    Conveys (writeWithSchema conv (struct.writers conv) schema) true
      (readWithSchema readInline schema) read :=
  Conveys.unmap struct_injective conveys

theorem plainElement_conveys {struct read : VMDynamicStruct}
    (conveys : Conveys ((Data.struct struct).writeAs conv .STRUCT none) true
      (readStatic readInline .STRUCT none) (.struct read)) :
    Conveys (writeStruct (struct.writers conv)) () (readStruct readInline) read := by
  change Conveys _ _ (readInline .STRUCT) _ at conveys
  rw [readInline_eq] at conveys
  obtain ⟨⟨⟩, conveys⟩ := Conveys.unreturning conveys
  exact Conveys.unmap struct_injective conveys

/-- A struct array is its normal form exactly if its elements are theirs. -/
theorem structArray_injective {schema : VMStructSchema} {structs others : List VMDynamicStruct}
    (same : Data.structArray ⟨schema, structs.map .struct⟩ = Data.structArray ⟨schema, others.map .struct⟩) :
    structs = others :=
  List.map_injective_iff.mpr struct_injective (VMStructArray.mk.inj (Data.structArray.inj same)).2

theorem variable_injective : Function.Injective Data.variable := by
  intro first second same
  cases same
  rfl

/-- What the writer appends for such data is read back in normal form. -/
theorem Written.conveys {vmType : VMType} {schema : Option VMStructSchema} {data : Data}
    (written : Written vmType schema data) :
    Conveys (data.writeAs conv vmType schema) true (readStatic readInline vmType schema) data.normal := by
  induction written with
  | leaf leafData => exact leafData_conveys conv _ leafData
  | @dynamic schema value _ ih =>
    obtain ⟨type, data⟩ := value
    rw [readStatic_dynamic rfl]
    exact ((variable_conveys conv ih).map Data.variable).returning true
  | @dynamicArray schema values small _ ih =>
    have items := ((variables_conveys conv small ih).map fun values =>
      Data.list (values.map .variable)).returning true
    have normal : (values.map fun value => (⟨value.type, value.data.normal⟩ : VMDynamicVariable)) =
        values.map VMDynamicVariable.normal := List.map_congr_left fun ⟨_, _⟩ _ => rfl
    rw [normal] at items
    rw [readStatic_dynamic rfl, Data.writeAs, writeBody, check_bind rfl, Data.normal,
      @normalItems_map _ Data.variable VMDynamicVariable.normal fun _ => rfl]
    exact items
  | @struct value small _ ih =>
    have image := @struct_conveys conv value (fun field => field.value.data.normal) small ih
    simp only [withData_normal] at image
    change Conveys _ _ (readInline .STRUCT) _
    rw [readInline_eq, Data.normal, normal_struct]
    exact (image.map Data.struct).returning true
  | @boundStruct schema value values schemaDistinct first once _ extrasAllowed extrasSmall _ ih extrasIh =>
    obtain ⟨fields⟩ := value
    rw [Data.normal, normal_struct, ← boundImage_normal schemaDistinct first once extrasAllowed]
    exact (boundStruct_conveys conv schemaDistinct first ih (fun _ => extrasSmall)
      fun _ => extrasIh).map Data.struct
  | @boundArray schema structs small occupies _ ih =>
    rw [Data.writeAs, writeBody, Data.normal, normalStructs_eq]
    simp only
    rw [structWriters_eq]
    exact ((boundArray_conveys conv small occupies (fun struct member => boundElement_conveys conv (ih struct member))
      schema).map fun structs => Data.structArray ⟨schema, structs.map .struct⟩).returning true
  | @inlineArray schema structs small inRange defines occupies _ ih =>
    change Conveys _ _ (readInline .ARRAY_STRUCT) _
    rw [readInline_eq, Data.writeAs, writeBody, Data.normal, normalStructs_eq]
    simp only
    rw [structWriters_eq]
    refine Conveys.returning (c := ()) ?_ true
    unfold writeStructs
    unfold VMStructSchema.used at ih
    rw [List.length_map]
    -- a schema without fields stands for none, in the writer as in the reader
    cases empty : schema.fields.isEmpty with
    | true =>
      rw [empty] at ih
      have items : ConveysAll (Put.each writeStruct (structs.map (VMDynamicStruct.writers conv)))
          (readStruct readInline) (structs.map VMDynamicStruct.normal) := by
        rw [Put.each_map]
        exact conveysAll_each fun struct member => plainElement_conveys conv (ih struct member)
      exact inlineArray_conveys small inRange defines items (readStruct_consumes readInline_shrinks)
        fun count => by rw [if_pos empty]
    | false =>
      rw [empty] at ih
      have items := boundStructs_conveys conv fun struct member =>
        boundElement_conveys conv (ih struct member)
      exact inlineArray_conveys small inRange defines items
        (readWithSchema_consumes schema (occupies empty)) fun count => by rw [empty]; rfl

/-- Conforming data is data for the writer. -/
theorem Holds.written {vmType : VMType} {schema : Option VMStructSchema} {data : Data}
    (holds : Holds vmType schema data) : Written vmType schema data := by
  induction holds with
  | leaf leafData => exact .leaf leafData
  | dynamic _ ih => exact .dynamic ih
  | dynamicArray small _ ih => exact .dynamicArray small ih
  | struct small _ _ ih => exact .struct small ih
  | @boundStruct schema value values schemaDistinct distinct present _ extrasAllowed extrasSmall _ ih extrasIh =>
    have only (field : VMNamedVariableSchema) (member : field ∈ schema.fields) :
        (value.fields.filter fun other => other.name.value = field.name.value) = [boundField values field] :=
      filter_distinct distinct (present field member)
    refine .boundStruct values schemaDistinct (fun field member => ?_) (fun field member => ?_) ih extrasAllowed
      extrasSmall extrasIh
    · unfold VMDynamicStruct.get
      rw [← List.head?_filter, only field member]
      rfl
    · rw [only field member]
      rfl
  | boundArray small occupies _ ih => exact .boundArray small occupies ih
  | inlineArray small inRange defines occupies _ ih => exact .inlineArray small inRange defines occupies ih

/-- What the writer appends for data that a type and a schema call for is read back as its normal
    form. -/
theorem Holds.conveys {vmType : VMType} {schema : Option VMStructSchema} {data : Data}
    (holds : Holds vmType schema data) :
    Conveys (data.writeAs conv vmType schema) true (readStatic readInline vmType schema)
      data.normal := holds.written.conveys conv

end RoundTrip

end PhantasmaPy.Carbon
