import PhantasmaPy.Carbon.CoercionLaws
import PhantasmaPy.Carbon.MeaningLaws

/-! # Round trip of metadata

The builders of roms and of series metadata write the fields that they bring themselves and those that they
coerce.  The reader gets back what the writer makes of each of them, and a default for a field of the builder that
the schema declares with another type.
-/

namespace PhantasmaPy.Carbon

open Wire CarbonWriter CarbonReader

/-! ## Sorted fields -/

/-- A schema with distinct names finds each of its fields first. -/
theorem get_boundFields {schemaFields : List VMNamedVariableSchema}
    (distinct : (schemaFields.map fun field => field.name.value).Nodup) (data : VMNamedVariableSchema → Data)
    (others : List VMNamedDynamicVariable) {field : VMNamedVariableSchema} (member : field ∈ schemaFields) :
    VMDynamicStruct.get ⟨sortFields (schemaFields.map (boundField data) ++ others)⟩ field.name.value =
      some ⟨field.schema.type, data field⟩ := by
  rw [get_sortFields]
  unfold VMDynamicStruct.get
  induction schemaFields with
  | nil => cases member
  | cons first schemaFields ih =>
    obtain ⟨fresh, distinct⟩ := List.nodup_cons.mp distinct
    rw [List.map_cons, List.cons_append]
    cases member with
    | head =>
      rw [List.find?_cons_of_pos (by simp [boundField])]
      rfl
    | tail _ member =>
      have different : first.name.value ≠ field.name.value := by
        intro same
        exact fresh (List.mem_map.mpr ⟨field, member, same.symm⟩)
      rw [List.find?_cons_of_neg (by simp [boundField, different])]
      exact ih distinct member

/-! ## Built structs -/

section Built

variable (conv : Conversions) (lower : Str → Str)

/-- What is written of a field without nested values is in range. -/
structure WrittenInRange (field : VMNamedDynamicVariable) : Prop where
  leaf : field.value.type.isNested = false
  inRange : ∀ out, (writeLeaf conv field.value.type field.value.data).Emits () out →
    LeafData field.value.type (field.value.data.canonical field.value.type)

/-- The fields that a builder brings itself: their names are those of its defaults, and what is written of
    them is in range. -/
structure OwnFields (own : List VMNamedDynamicVariable) (defaults : List TokenSchemaField) : Prop where
  distinct : DistinctNames own
  names : ∀ name, hasDefaultField defaults name = true ↔ ∃ field ∈ own, field.name.value = name
  written : ∀ field ∈ own, WrittenInRange conv field

variable {conv lower} {own out : List VMNamedDynamicVariable} {defaults : List TokenSchemaField}
  {metadata : Metadata} {schema : VMStructSchema}

/-- A coerced field is one of the schema's that has no default. -/
theorem coercedField_origin (built : metadataDynamicFields lower defaults metadata schema.fields = .ok out)
    {field : VMNamedDynamicVariable} (member : field ∈ out) :
    ∃ schemaField ∈ schema.fields, hasDefaultField defaults schemaField.name.value = false ∧
      field.name = schemaField.name := by
  obtain ⟨schemaField, inside, _, _, -, -, rfl⟩ :=
    forall₂_exists_left (metadataDynamicFields_eq_ok lower built) member
  obtain ⟨inSchema, noDefault⟩ := List.mem_filter.mp inside
  exact ⟨schemaField, inSchema, by simpa using noDefault, rfl⟩

/-- The fields of a builder and the coerced ones have different names. -/
theorem OwnFields.built_distinct (owns : OwnFields conv own defaults)
    (schemaDistinct : (schema.fields.map fun field => field.name.value).Nodup)
    (built : metadataDynamicFields lower defaults metadata schema.fields = .ok out) :
    DistinctNames (own ++ out) := by
  unfold DistinctNames
  rw [List.map_append]
  refine List.nodup_append'.mpr ⟨owns.distinct, ?_, ?_⟩
  · rw [coercedFields_names lower (metadataDynamicFields_eq_ok lower built)]
    exact (List.filter_sublist.map _).nodup schemaDistinct
  · intro name inOwn inOut
    obtain ⟨field, inside, rfl⟩ := List.mem_map.mp inOwn
    obtain ⟨coerced, inCoerced, same⟩ := List.mem_map.mp inOut
    obtain ⟨schemaField, -, noDefault, named⟩ := coercedField_origin built inCoerced
    rw [← named, same, (owns.names _).mpr ⟨field, inside, rfl⟩] at noDefault
    cases noDefault

/-- The data that stands for a field of the builder where the schema declares the type. -/
def ownData (field : VMNamedDynamicVariable) (vmType : VMType) (structDef : Option VMStructSchema) : Data :=
  if field.value.type = vmType then field.value.data.canonical vmType else writtenDefault vmType structDef

theorem OwnFields.leafData (owns : OwnFields conv own defaults) {field : VMNamedDynamicVariable}
    (member : field ∈ own) {schema : Option VMStructSchema} {ok : Bool} {raw : Bytes}
    (emits : ((field.value.data.canonical field.value.type).writeAs conv field.value.type schema).Emits ok raw) :
    LeafData field.value.type (field.value.data.canonical field.value.type) := by
  rw [Data.canonical_writeAs, writeAs_leaf conv (owns.written field member).leaf] at emits
  obtain ⟨_, _, _, written, -, -⟩ := Put.emits_bind.mp emits
  exact (owns.written field member).inRange _ written

/-- A field of the builder is read as it was written, or not written at all. -/
theorem OwnFields.mirrors (owns : OwnFields conv own defaults) {field : VMNamedDynamicVariable} (member : field ∈ own)
    (schema : Option VMStructSchema) :
    DataMirrors conv field.value.type schema (field.value.data.canonical field.value.type) := by
  intro ok raw emits
  have typed : Typed field.value.type schema (field.value.data.canonical field.value.type) :=
    .leaf (owns.leafData member emits)
  exact typed.mirrors schema (.inr rfl) emits

/-- The extras are fields of the builder. -/
theorem extra_own (built : metadataDynamicFields lower defaults metadata schema.fields = .ok out)
    {field : VMNamedDynamicVariable} (member : field ∈ extras schema (canonicalFields (own ++ out))) :
    ∃ mine ∈ own, field = mine.canonical := by
  obtain ⟨spelled, unnamed⟩ := List.mem_filter.mp member
  rw [canonicalFields_eq] at spelled
  obtain ⟨origin, inside, rfl⟩ := List.mem_map.mp spelled
  rcases List.mem_append.mp inside with isOwn | isCoerced
  · exact ⟨origin, isOwn, rfl⟩
  · obtain ⟨schemaField, inSchema, -, same⟩ := coercedField_origin built isCoerced
    have hasField : schema.hasField origin.canonical.name.value = true :=
      VMStructSchema.hasField_iff.mpr ⟨schemaField, inSchema, by rw [canonical_name, same]⟩
    rw [hasField] at unnamed
    cases unnamed

/-- Each field of the schema is found among those of a builder. -/
theorem OwnFields.field (owns : OwnFields conv own defaults)
    (built : metadataDynamicFields lower defaults metadata schema.fields = .ok out)
    {field : VMNamedVariableSchema} (member : field ∈ schema.fields) :
    (∃ mine ∈ own, mine.name.value = field.name.value ∧ hasDefaultField defaults field.name.value = true) ∨
      (hasDefaultField defaults field.name.value = false ∧
        ∃ coerced ∈ out, CoercedField lower metadata field coerced) := by
  cases isDefault : hasDefaultField defaults field.name.value with
  | true =>
    obtain ⟨mine, inside, same⟩ := (owns.names _).mp isDefault
    exact .inl ⟨mine, inside, same, rfl⟩
  | false =>
    have listed : field ∈ schema.fields.filter fun field => !hasDefaultField defaults field.name.value :=
      List.mem_filter.mpr ⟨member, by rw [isDefault]; rfl⟩
    exact .inr ⟨rfl, forall₂_exists_right (metadataDynamicFields_eq_ok lower built) listed⟩

/-! ## Images of built structs -/

/-- The fields that the writer is given, in their canonical spelling. -/
theorem OwnFields.get_own (owns : OwnFields conv own defaults)
    (schemaDistinct : (schema.fields.map fun field => field.name.value).Nodup)
    (built : metadataDynamicFields lower defaults metadata schema.fields = .ok out)
    {field : VMNamedDynamicVariable} (member : field ∈ own ++ out) :
    VMDynamicStruct.get ⟨canonicalFields (own ++ out)⟩ field.name.value =
      some ⟨field.value.type, field.value.data.canonical field.value.type⟩ := by
  have distinct : DistinctNames (canonicalFields (own ++ out)) := by
    unfold DistinctNames
    rw [canonicalFields_names]
    exact owns.built_distinct schemaDistinct built
  have inside : field.canonical ∈ canonicalFields (own ++ out) := by
    rw [canonicalFields_eq]
    exact List.mem_map_of_mem member
  have only := filter_distinct distinct inside
  rw [canonical_name] at only
  unfold VMDynamicStruct.get
  rw [← List.head?_filter, only]
  obtain ⟨name, type, data⟩ := field
  rfl

/-- What the writer does for each field that the schema declares. -/
theorem emits_each_declared {fields : List VMNamedDynamicVariable} {ok : Bool} {raw : Bytes}
    (emits : (writeWithSchema conv (fieldWriters conv fields) schema).Emits ok raw) {field : VMNamedVariableSchema}
    (member : field ∈ schema.fields) {data : Data}
    (found : VMDynamicStruct.get ⟨fields⟩ field.name.value = some ⟨field.schema.type, data⟩) :
    ∃ ok raw, (data.writeAs conv field.schema.type field.schema.structDef).Emits ok raw := by
  obtain ⟨_, _, declared, -, -⟩ := Put.emits_seq.mp (emits_withSchema emits)
  obtain ⟨raw, written⟩ := Put.emits_each_mem declared field member
  obtain ⟨ok, raw, _, written, -, -⟩ := Put.emits_bind.mp written
  rw [writeField_of_find found] at written
  exact ⟨ok, raw, written⟩

/-- The same for each field that is written as an extra. -/
theorem emits_each_extra {fields : List VMNamedDynamicVariable} {ok : Bool} {raw : Bytes}
    (emits : (writeWithSchema conv (fieldWriters conv fields) schema).Emits ok raw) {field : VMNamedDynamicVariable}
    (member : field ∈ writtenExtras schema fields) :
    ∃ ok raw, (field.value.data.writeAs conv field.value.type none).Emits ok raw := by
  obtain ⟨_, _, -, others, -⟩ := Put.emits_seq.mp (emits_withSchema emits)
  unfold extrasWriter at others
  split at others
  next =>
    obtain ⟨_, _, -, others, -⟩ := Put.emits_seq.mp others
    obtain ⟨raw, written⟩ := Put.emits_each_mem others field member
    obtain ⟨name, type, data⟩ := field
    obtain ⟨_, _, -, written, -⟩ := Put.emits_seq.mp written
    obtain ⟨_, _, -, written, -⟩ := Put.emits_seq.mp written
    obtain ⟨ok, raw, _, written, -, -⟩ := Put.emits_bind.mp written
    exact ⟨ok, raw, written⟩
  next refused =>
    unfold writtenExtras at member
    rw [if_neg fun both => refused both.1] at member
    cases member

/-- The image of a field of the builder. -/
theorem OwnFields.image_iff (owns : OwnFields conv own defaults)
    (schemaDistinct : (schema.fields.map fun field => field.name.value).Nodup)
    (built : metadataDynamicFields lower defaults metadata schema.fields = .ok out) {ok : Bool} {raw : Bytes}
    (emits : (writeWithSchema conv (fieldWriters conv (canonicalFields (own ++ out))) schema).Emits ok raw)
    {field : VMNamedVariableSchema} (member : field ∈ schema.fields) {mine : VMNamedDynamicVariable}
    (inside : mine ∈ own) (named : mine.name.value = field.name.value) {after : Nat} {image : Data} :
    DeclaredBecomes conv ⟨canonicalFields (own ++ out)⟩ field after image ↔
      image = ownData mine field.schema.type field.schema.structDef := by
  have found := owns.get_own schemaDistinct built (List.mem_append_left out inside)
  rw [named] at found
  unfold DeclaredBecomes ownData
  rw [found]
  by_cases same : mine.value.type = field.schema.type
  · rw [if_pos same]
    rw [same] at found ⊢
    obtain ⟨_, _, written⟩ := emits_each_declared emits member found
    have leafData := owns.leafData inside (same ▸ written)
    rw [same] at leafData
    constructor
    · rintro ⟨becomes, -⟩
      exact ((becomes_leaf leafData.isNested).mp (becomes _ rfl)).2
    · rintro rfl
      refine ⟨fun data again => ?_, fun none => absurd rfl (none _)⟩
      obtain rfl := (VMDynamicVariable.mk.inj (Option.some.inj again)).2
      exact .leaf leafData
  · rw [if_neg same]
    have none (data : Data) : some (⟨mine.value.type, mine.value.data.canonical mine.value.type⟩ : VMDynamicVariable) ≠
        some ⟨field.schema.type, data⟩ := fun again => same (VMDynamicVariable.mk.inj (Option.some.inj again)).1
    constructor
    · rintro ⟨-, replaced⟩
      exact replaced none
    · rintro rfl
      exact ⟨fun data again => absurd again (none data), fun _ => rfl⟩

/-- The image of a coerced field. -/
theorem OwnFields.coerced_image_iff (owns : OwnFields conv own defaults)
    (schemaDistinct : (schema.fields.map fun field => field.name.value).Nodup)
    (built : metadataDynamicFields lower defaults metadata schema.fields = .ok out)
    {field : VMNamedVariableSchema} {data : Data} (inside : ⟨field.name, ⟨field.schema.type, data⟩⟩ ∈ out)
    {after : Nat} {image : Data} :
    DeclaredBecomes conv ⟨canonicalFields (own ++ out)⟩ field after image ↔
      Becomes conv after field.schema.type field.schema.structDef (data.canonical field.schema.type) image := by
  have found := owns.get_own schemaDistinct built (List.mem_append_right own inside)
  unfold DeclaredBecomes
  rw [found]
  constructor
  · rintro ⟨becomes, -⟩
    exact becomes _ rfl
  · intro becomes
    refine ⟨fun other again => ?_, fun none => absurd rfl (none _)⟩
    obtain rfl := (VMDynamicVariable.mk.inj (Option.some.inj again)).2
    exact becomes

/-- The struct of a builder is read as what the writer makes of it, if what it coerces is of the classes and types that
    the writer looks for. -/
theorem OwnFields.run_iff (owns : OwnFields conv own defaults)
    (schemaDistinct : (schema.fields.map fun field => field.name.value).Nodup)
    (built : metadataDynamicFields lower defaults metadata schema.fields = .ok out) {ok : Bool} {raw : Bytes}
    (emits : (writeWithSchema conv (fieldWriters conv (canonicalFields (own ++ out))) schema).Emits ok raw)
    (typed : ∀ field ∈ schema.fields, hasDefaultField defaults field.name.value = false → ∀ supplied data,
      metadata.lookup field.name.value = some supplied →
      coerceMetadataValue lower field.name.value supplied field.schema = .ok data →
      Typed field.schema.type field.schema.structDef (data.canonical field.schema.type)) {struct : VMDynamicStruct} :
    (VMDynamicStruct.readWithSchema schema).run raw = .ok (struct, []) ↔
      Becomes conv 0 .STRUCT (some schema) (.struct ⟨canonicalFields (own ++ out)⟩) (.struct struct) := by
  have mirrors : DataMirrors conv .STRUCT (some schema) (.struct ⟨canonicalFields (own ++ out)⟩) := by
    refine boundStruct_mirrors (fun field member data found => ?_) fun field member => ?_
    · rcases owns.field built member with ⟨mine, inside, same, -⟩ |
        ⟨notDefault, _, inside, supplied, made, looked, step, rfl⟩
      · have again := owns.get_own schemaDistinct built (List.mem_append_left out inside)
        rw [same, found] at again
        obtain ⟨type, rfl⟩ := VMDynamicVariable.mk.inj (Option.some.inj again)
        rw [type]
        exact owns.mirrors inside _
      · have again := owns.get_own schemaDistinct built (List.mem_append_right own inside)
        obtain rfl := (VMDynamicVariable.mk.inj (Option.some.inj (found.symm.trans again))).2
        exact (typed field member notDefault supplied made looked step).mirrors _ (.inr rfl)
    · obtain ⟨mine, inside, rfl⟩ := extra_own built member
      obtain ⟨name, type, data⟩ := mine
      exact owns.mirrors inside none
  unfold DataMirrors at mirrors
  rw [readStatic_struct] at mirrors
  have read := (mirrors.unmap struct_injective) emits [] struct []
  rw [List.append_nil] at read
  exact read.trans (and_iff_right rfl)

/-! ## Bytes behind a field -/

/-- The bytes that stand behind a field of the schema: those of the later fields and of the extras. -/
def behind (conv : Conversions) (schema : VMStructSchema) (fields : List VMNamedDynamicVariable) (i : Nat) : Nat :=
  (Put.each (declaredWriter conv fields) (schema.fields.drop (i + 1))).size + (extrasWriter conv schema fields).size

theorem canonical_writer (conv : Conversions) (field : VMNamedDynamicVariable) :
    field.canonical.writer conv = field.writer conv := by
  have writers := canonicalFields_writers conv [field]
  exact (List.cons.inj writers).1

/-- The spelling of the fields does not change their images. -/
theorem behind_canonical (conv : Conversions) (schema : VMStructSchema) (fields : List VMNamedDynamicVariable)
    (i : Nat) : behind conv schema (canonicalFields fields) i = behind conv schema fields i := by
  have declared : declaredWriter conv (canonicalFields fields) = declaredWriter conv fields := by
    unfold declaredWriter
    rw [canonicalFields_writers]
  have named : (fun field => namedWriter conv field.canonical) = namedWriter conv := by
    funext field
    rw [namedWriter, canonical_writer, namedWriter]
  have others :
      extras schema (canonicalFields fields) = (extras schema fields).map VMNamedDynamicVariable.canonical := by
    rw [canonicalFields_eq]
    unfold extras
    rw [List.filter_map]
    congr 1
    exact List.filter_congr fun field _ => by rw [Function.comp_apply, canonical_name]
  have full : filled schema (canonicalFields fields) = filled schema fields := by
    unfold filled
    rw [canonicalFields_eq, List.length_map]
    simp only [List.any_map, Function.comp_def, canonical_name]
  have written : extrasWriter conv schema (canonicalFields fields) = extrasWriter conv schema fields := by
    unfold extrasWriter writtenExtras writeArray
    rw [full, others]
    split
    next =>
      split
      next => rw [List.length_map, Put.each_map, named]
      next => rfl
    next => rfl
  unfold behind
  rw [declared, written]

end Built

end PhantasmaPy.Carbon
