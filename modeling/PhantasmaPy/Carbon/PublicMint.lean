import PhantasmaPy.Carbon.BigIntCodec
import PhantasmaPy.Carbon.MetadataLoss
import PhantasmaPy.Carbon.StructOrder

/-! # The rom of a public mint

The chain owns the id and the nested rom of a deterministic mint, so that the caller's rom leaves them out.  It is
built from another schema and without the fields that the full builder brings, and has the same bytes for all others.
-/

namespace PhantasmaPy.Carbon

open Wire CarbonWriter

/-! ## Fields one by one -/

section Fields

variable (conv : Conversions) {writers : List FieldWriter}

/-- A loop over fields that match is written field by field. -/
theorem emits_fields {image : VMNamedVariableSchema → Bytes} {schemaFields : List VMNamedVariableSchema}
    (each : ∀ field ∈ schemaFields, (writeField conv writers field).Emits true (image field)) (fieldsFound : Nat) :
    ∃ found, (writeFields conv writers schemaFields true fieldsFound).Emits (true, found)
      (schemaFields.flatMap image) := by
  induction schemaFields generalizing fieldsFound with
  | nil => exact ⟨fieldsFound, rfl⟩
  | cons field schemaFields ih =>
    obtain ⟨head, tail⟩ := List.forall_mem_cons.mp each
    rw [writeFields_cons, List.flatMap_cons]
    obtain ⟨found, rest⟩ := ih tail _
    exact ⟨found, head.bind rest⟩

theorem writeField_affirms (affirm : FieldsAffirm writers) (field : VMNamedVariableSchema) :
    Affirms (writeField conv writers field) := by
  unfold writeField
  split
  next writer found => exact affirm writer (List.mem_of_find?_eq_some found) _ _
  next => exact writeDefault_affirms conv _ _

/-- What follows the fields of a full struct. -/
def fullTail (schema : VMStructSchema) : Bytes := if schema.dynamicExtras then [0, 0, 0, 0] else []

/-- A full struct is written field by field, in the order of the schema. -/
theorem emits_fullStruct {schema : VMStructSchema} {value : VMDynamicStruct} (full : IsFull schema value)
    {image : VMNamedVariableSchema → Bytes}
    (each : ∀ field ∈ schema.fields, (writeField conv (value.writers conv) field).Emits true (image field)) :
    (value.writeWithSchema conv schema).Emits true (schema.fields.flatMap image ++ fullTail schema) := by
  obtain ⟨found, loop⟩ := emits_fields conv each 0
  refine (emits_struct conv).mpr ⟨found, _, _, loop, ?_, rfl⟩
  unfold writeTail fullTail
  cases schema.dynamicExtras with
  | false => rfl
  | true =>
    rw [if_neg (by decide), if_pos full, if_pos rfl]
    exact emits_writeUnsigned.mpr ⟨by decide, rfl⟩

/-- The fields of a struct that is written are all written. -/
theorem struct_fields_emit {schema : VMStructSchema} {value : VMDynamicStruct} {ok : Bool} {out : Bytes}
    (emits : (value.writeWithSchema conv schema).Emits ok out) :
    ∀ field ∈ schema.fields, ∃ image, (writeField conv (value.writers conv) field).Emits true image := by
  obtain ⟨_, _, _, loop, -⟩ := (emits_struct conv).mp emits
  intro field member
  obtain ⟨written, image, head⟩ := fields_emit conv loop field member
  obtain rfl := writeField_affirms conv (value.writers_affirm conv) field head
  exact ⟨image, head⟩

end Fields

/-! ## The schemas -/

/-- A rom schema as a deterministic mint takes it: the id and the nested rom are declared, and nothing else is
    named like them in any case. -/
structure MintSchema (lower : Str → Str) (schema : VMStructSchema) : Prop where
  distinct : (schema.fields.map fun field => field.name.value).Nodup
  id : ∃ field ∈ schema.fields, field.name.value = STANDARD_META_ID ∧ field.schema.type = .INT256
  rom : ∃ field ∈ schema.fields, field.name.value = romKey ∧ field.schema.type = .BYTES
  only : ∀ field ∈ schema.fields, isPhantasmaNftReservedField lower field.name.value = true →
    field.name.value = STANDARD_META_ID ∨ field.name.value = romKey

section Schemas

variable {lower : Str → Str} {schema : VMStructSchema} {metadata : Metadata}

/-- The filter in any case and the exact list of defaults take the same fields. -/
theorem MintSchema.reserved_iff (mint : MintSchema lower schema) (lowerRom : lower romKey = romKey)
    {field : VMNamedVariableSchema} (member : field ∈ schema.fields) :
    isPhantasmaNftReservedField lower field.name.value = hasDefaultField standardNftFields field.name.value := by
  rw [Bool.eq_iff_iff, hasDefaultField_nft]
  refine ⟨mint.only field member, ?_⟩
  rintro (named | named)
  · simp [isPhantasmaNftReservedField, named]
  · rw [named, isPhantasmaNftReservedField, lowerRom]
    exact Bool.or_eq_true_iff.mpr (.inr (decide_eq_true rfl))

/-- Both loops ask for the same entries of the metadata. -/
theorem metadataDynamicFields_filter {fields : List VMNamedVariableSchema}
    (same : ∀ field ∈ fields, isPhantasmaNftReservedField lower field.name.value =
      hasDefaultField standardNftFields field.name.value) :
    metadataDynamicFields lower standardNftFields metadata fields =
      metadataDynamicFields lower [] metadata
        (fields.filter fun field => !isPhantasmaNftReservedField lower field.name.value) := by
  induction fields with
  | nil => rfl
  | cons field fields ih =>
    obtain ⟨name, schema⟩ := field
    obtain ⟨head, same⟩ := List.forall_mem_cons.mp same
    dsimp only at head
    cases isDefault : hasDefaultField standardNftFields name.value with
    | true =>
      rw [metadataDynamicFields, if_pos isDefault, List.filter_cons_of_neg (by simp [head, isDefault]), ih same]
    | false =>
      have noDefault : hasDefaultField [] name.value = false := rfl
      rw [List.filter_cons_of_pos (by simp [head, isDefault]), metadataDynamicFields, metadataDynamicFields,
        if_neg (by simp [isDefault]), if_neg (by simp [noDefault]), ih same]

/-- Metadata without a reserved name brings no bytes for the rom. -/
theorem metadataBytes_free (lowerRom : lower romKey = romKey)
    (free : ∀ entry ∈ metadata, isPhantasmaNftReservedField lower entry.1 = false) :
    metadataBytes lower metadata romKey = .ok [] := by
  -- neither the exact look-up nor the one in any case finds the name
  have notRom : ∀ entry ∈ metadata, lower entry.1 ≠ romKey := by
    intro entry member named
    have reserved : isPhantasmaNftReservedField lower entry.1 = true :=
      Bool.or_eq_true_iff.mpr (.inr (decide_eq_true named))
    rw [free entry member] at reserved
    cases reserved
  have absent : metadata.lookup romKey = none := by
    rw [List.lookup_eq_none_iff]
    intro entry member
    rw [bne_iff_ne]
    intro named
    apply notRom entry member
    rw [← named]
    exact lowerRom
  have noCase : (metadata.find? fun entry => lower entry.1 = lower romKey) = none := by
    rw [List.find?_eq_none]
    intro entry member
    rw [lowerRom, decide_eq_true_eq]
    exact notRom entry member
  unfold metadataBytes findMetadataField
  rw [absent, noCase]
  rfl

theorem refuseReserved_free (free : ∀ entry ∈ metadata, isPhantasmaNftReservedField lower entry.1 = false) :
    refuseReserved lower metadata = .ok () := by
  unfold refuseReserved
  induction metadata with
  | nil => rfl
  | cons entry metadata ih =>
    obtain ⟨head, rest⟩ := List.forall_mem_cons.mp free
    rw [List.forM_eq_forM, List.forM_cons, if_neg (by simp [head]), ← List.forM_eq_forM]
    exact ih rest

end Schemas

/-! ## The structs -/

/-- The struct of the full rom: the id, no bytes for the nested rom, and what the metadata brings. -/
def fullStruct (id : Int) (out : List VMNamedDynamicVariable) : VMDynamicStruct :=
  ⟨⟨metaIdName, ⟨.INT256, .int id⟩⟩ :: ⟨romName, ⟨.BYTES, .bytes []⟩⟩ :: out⟩

section Structs

variable (conv : Conversions) {lower : Str → Str} {schema : VMStructSchema} {id : Int}
  {out : List VMNamedDynamicVariable}

theorem fullStruct_writers (id : Int) (out : List VMNamedDynamicVariable) : (fullStruct id out).writers conv =
    VMNamedDynamicVariable.writer conv ⟨metaIdName, ⟨.INT256, .int id⟩⟩ ::
      VMNamedDynamicVariable.writer conv ⟨romName, ⟨.BYTES, .bytes []⟩⟩ :: fieldWriters conv out := rfl

/-- A field of the declared type that the name selects is written as its data. -/
theorem writeField_found {writers : List FieldWriter} {field : VMNamedVariableSchema} {name : SmallString}
    {data : Data} (found : (writers.find? fun writer => writer.name.value = field.name.value) =
      some (VMNamedDynamicVariable.writer conv ⟨name, ⟨field.schema.type, data⟩⟩))
    (leaf : field.schema.type.isNested = false) {image : Bytes}
    (written : (writeLeaf conv field.schema.type data).Emits () image) :
    (writeField conv writers field).Emits true image := by
  unfold writeField
  rw [found]
  change (if field.schema.type = field.schema.type then data.writeAs conv field.schema.type field.schema.structDef
    else writeDefault conv field.schema.type field.schema.structDef).Emits true image
  rw [if_pos rfl, writeAs_leaf conv leaf]
  exact Put.emits_seq.mpr ⟨image, [], written, rfl, (List.append_nil _).symm⟩

theorem writeField_id {field : VMNamedVariableSchema} (named : field.name.value = STANDARD_META_ID)
    (typed : field.schema.type = .INT256) {image : Bytes} (written : (writeBigInt id).Emits () image) :
    (writeField conv ((fullStruct id out).writers conv) field).Emits true image := by
  obtain ⟨name, type, structDef⟩ := field
  obtain rfl := typed
  have found : (((fullStruct id out).writers conv).find? fun writer => writer.name.value = name.value) =
      some (VMNamedDynamicVariable.writer conv ⟨metaIdName, ⟨.INT256, .int id⟩⟩) := by
    rw [fullStruct_writers]
    apply List.find?_cons_of_pos
    rw [writer_name]
    exact decide_eq_true named.symm
  rw [← writeLeaf_int256 conv] at written
  exact writeField_found conv found rfl written

theorem writeField_rom {field : VMNamedVariableSchema} (named : field.name.value = romKey)
    (typed : field.schema.type = .BYTES) {image : Bytes} (written : (writeByteArray []).Emits () image) :
    (writeField conv ((fullStruct id out).writers conv) field).Emits true image := by
  obtain ⟨name, type, structDef⟩ := field
  obtain rfl := typed
  have found : (((fullStruct id out).writers conv).find? fun writer => writer.name.value = name.value) =
      some (VMNamedDynamicVariable.writer conv ⟨romName, ⟨.BYTES, .bytes []⟩⟩) := by
    rw [fullStruct_writers, List.find?_cons_of_neg]
    · apply List.find?_cons_of_pos
      rw [writer_name]
      exact decide_eq_true named.symm
    · rw [writer_name, decide_eq_true_eq]
      exact fun same => romKey_ne_id (same.trans named).symm
  rw [← writeLeaf_bytes conv] at written
  exact writeField_found conv found rfl written

theorem writeField_other {field : VMNamedVariableSchema} (notId : field.name.value ≠ STANDARD_META_ID)
    (notRom : field.name.value ≠ romKey) :
    writeField conv ((fullStruct id out).writers conv) field =
      writeField conv (VMDynamicStruct.writers conv ⟨out⟩) field := by
  have found : (((fullStruct id out).writers conv).find? fun writer => writer.name.value = field.name.value) =
      (VMDynamicStruct.writers conv ⟨out⟩).find? fun writer => writer.name.value = field.name.value := by
    rw [fullStruct_writers, VMDynamicStruct.writers]
    refine (List.find?_cons_of_neg ?_).trans (List.find?_cons_of_neg ?_)
    · rw [writer_name, decide_eq_true_eq]
      exact fun same => notId same.symm
    · rw [writer_name, decide_eq_true_eq]
      exact fun same => notRom same.symm
  unfold writeField
  rw [found]

/-- The two fields that the chain owns. -/
theorem MintSchema.length (mint : MintSchema lower schema) (lowerRom : lower romKey = romKey) :
    schema.fields.length = (buildPhantasmaNftPublicMintSchema lower schema).fields.length + 2 := by
  let owned := schema.fields.filter fun field => isPhantasmaNftReservedField lower field.name.value
  -- both names are distinct and declared, and no other name is reserved
  have names : (owned.map fun field => field.name.value).Perm [STANDARD_META_ID, romKey] := by
    have distinct : (owned.map fun field => field.name.value).Nodup :=
      mint.distinct.sublist (List.filter_sublist.map _)
    rw [List.perm_ext_iff_of_nodup distinct (by decide +kernel)]
    intro name
    rw [List.mem_map, List.mem_cons, List.mem_singleton]
    constructor
    · rintro ⟨field, member, rfl⟩
      obtain ⟨inSchema, reserved⟩ := List.mem_filter.mp member
      exact mint.only field inSchema reserved
    · have isOwned : ∀ field ∈ schema.fields, hasDefaultField standardNftFields field.name.value = true →
          field ∈ owned := by
        intro field inSchema isDefault
        exact List.mem_filter.mpr ⟨inSchema, (mint.reserved_iff lowerRom inSchema).trans isDefault⟩
      rintro (rfl | rfl)
      · obtain ⟨field, inSchema, named, -⟩ := mint.id
        exact ⟨field, isOwned field inSchema (hasDefaultField_nft.mpr (.inl named)), named⟩
      · obtain ⟨field, inSchema, named, -⟩ := mint.rom
        exact ⟨field, isOwned field inSchema (hasDefaultField_nft.mpr (.inr named)), named⟩
  have two := names.length_eq
  rw [List.length_map] at two
  have parts := List.length_eq_length_filter_add (l := schema.fields)
    fun field => isPhantasmaNftReservedField lower field.name.value
  change _ = owned.length + (buildPhantasmaNftPublicMintSchema lower schema).fields.length at parts
  rw [parts, two]
  exact Nat.add_comm _ _

/-- The caller's struct has exactly the fields of the public schema. -/
theorem isFull_public {callerSchema : VMStructSchema}
    (names : out.map (fun field => field.name.value) = callerSchema.fields.map fun field => field.name.value) :
    IsFull callerSchema ⟨out⟩ := by
  constructor
  · intro field member
    have inOut : field.name.value ∈ out.map fun field => field.name.value :=
      names ▸ List.mem_map.mpr ⟨field, member, rfl⟩
    obtain ⟨mine, inside, same⟩ := List.mem_map.mp inOut
    rw [VMDynamicStruct.get, Option.isSome_map, List.find?_isSome]
    exact ⟨mine, inside, decide_eq_true same⟩
  · have length := congrArg List.length names
    rwa [List.length_map, List.length_map] at length

/-- The full struct has exactly the fields of the full schema. -/
theorem isFull_full (mint : MintSchema lower schema) (lowerRom : lower romKey = romKey)
    (names : out.map (fun field => field.name.value) =
      (buildPhantasmaNftPublicMintSchema lower schema).fields.map fun field => field.name.value) :
    IsFull schema (fullStruct id out) := by
  obtain ⟨found, length⟩ := isFull_public names
  constructor
  · intro field member
    rw [VMDynamicStruct.get, Option.isSome_map, List.find?_isSome]
    cases reserved : isPhantasmaNftReservedField lower field.name.value with
    | true =>
      rcases mint.only field member reserved with named | named
      · exact ⟨_, List.mem_cons_self, decide_eq_true named.symm⟩
      · exact ⟨_, List.mem_cons_of_mem _ List.mem_cons_self, decide_eq_true named.symm⟩
    | false =>
      have isFound := found field (List.mem_filter.mpr ⟨member, by rw [reserved]; rfl⟩)
      rw [VMDynamicStruct.get, Option.isSome_map, List.find?_isSome] at isFound
      obtain ⟨mine, inside, same⟩ := isFound
      exact ⟨mine, List.mem_cons_of_mem _ (List.mem_cons_of_mem _ inside), same⟩
  · rw [mint.length lowerRom, ← length]
    rfl

/-- The images of the fields of the full struct.  Those that the chain owns hold the id and no bytes. -/
structure FieldImages (schema : VMStructSchema) (id : Int) (out : List VMNamedDynamicVariable)
    (image : VMNamedVariableSchema → Bytes) : Prop where
  all : ∀ field ∈ schema.fields, (writeField conv ((fullStruct id out).writers conv) field).Emits true (image field)
  id : ∀ field ∈ schema.fields, field.name.value = STANDARD_META_ID → (writeBigInt id).Emits () (image field)
  rom : ∀ field ∈ schema.fields, field.name.value = romKey → (writeByteArray []).Emits () (image field)

theorem MintSchema.typed (mint : MintSchema lower schema) {field : VMNamedVariableSchema}
    (member : field ∈ schema.fields) : (field.name.value = STANDARD_META_ID → field.schema.type = .INT256) ∧
      (field.name.value = romKey → field.schema.type = .BYTES) := by
  constructor
  · intro named
    obtain ⟨declared, inSchema, same, typed⟩ := mint.id
    exact List.inj_on_of_nodup_map mint.distinct member inSchema (named.trans same.symm) ▸ typed
  · intro named
    obtain ⟨declared, inSchema, same, typed⟩ := mint.rom
    exact List.inj_on_of_nodup_map mint.distinct member inSchema (named.trans same.symm) ▸ typed

/-- A field of the public schema is written alike from both structs. -/
theorem callerField_same (mint : MintSchema lower schema) (lowerRom : lower romKey = romKey)
    {field : VMNamedVariableSchema} (member : field ∈ (buildPhantasmaNftPublicMintSchema lower schema).fields) :
    field ∈ schema.fields ∧ writeField conv ((fullStruct id out).writers conv) field =
      writeField conv (VMDynamicStruct.writers conv ⟨out⟩) field := by
  obtain ⟨inSchema, notReserved⟩ := List.mem_filter.mp member
  have free : hasDefaultField standardNftFields field.name.value ≠ true := by
    rw [← mint.reserved_iff lowerRom inSchema]
    simpa using notReserved
  rw [Ne, hasDefaultField_nft, not_or] at free
  exact ⟨inSchema, writeField_other conv free.1 free.2⟩

/-- Where the caller's fields are written, all fields of the full struct are. -/
theorem fullStruct_images (mint : MintSchema lower schema) (lowerRom : lower romKey = romKey) {idImage romImage : Bytes}
    (idWritten : (writeBigInt id).Emits () idImage) (romWritten : (writeByteArray []).Emits () romImage)
    (others : ∀ field ∈ (buildPhantasmaNftPublicMintSchema lower schema).fields, ∃ image,
      (writeField conv (VMDynamicStruct.writers conv ⟨out⟩) field).Emits true image) :
    ∃ image, FieldImages conv schema id out image ∧ ∀ field ∈ (buildPhantasmaNftPublicMintSchema lower schema).fields,
        (writeField conv (VMDynamicStruct.writers conv ⟨out⟩) field).Emits true (image field) := by
  have each : ∀ field, ∃ image, field ∈ schema.fields →
      (writeField conv ((fullStruct id out).writers conv) field).Emits true image := by
    intro field
    by_cases member : field ∈ schema.fields
    · cases reserved : isPhantasmaNftReservedField lower field.name.value with
      | true =>
        rcases mint.only field member reserved with named | named
        · exact ⟨idImage, fun _ => writeField_id conv named ((mint.typed member).1 named) idWritten⟩
        · exact ⟨romImage, fun _ => writeField_rom conv named ((mint.typed member).2 named) romWritten⟩
      | false =>
        have inPublic : field ∈ (buildPhantasmaNftPublicMintSchema lower schema).fields :=
          List.mem_filter.mpr ⟨member, by rw [reserved]; rfl⟩
        obtain ⟨image, written⟩ := others field inPublic
        refine ⟨image, fun _ => ?_⟩
        rw [(callerField_same conv mint lowerRom inPublic).2]
        exact written
    · exact ⟨[], fun inSchema => absurd inSchema member⟩
  choose image written using each
  -- a field has one image only, so that those of the owned fields are the given ones
  refine ⟨image, ⟨written, ?_, ?_⟩, fun field member => ?_⟩
  · intro field member named
    obtain ⟨-, equal⟩ := (written field member).unique
      (writeField_id conv named ((mint.typed member).1 named) idWritten)
    exact equal ▸ idWritten
  · intro field member named
    obtain ⟨-, equal⟩ := (written field member).unique
      (writeField_rom conv named ((mint.typed member).2 named) romWritten)
    exact equal ▸ romWritten
  · obtain ⟨inSchema, equal⟩ := callerField_same conv mint lowerRom member
    exact equal ▸ written field inSchema

/-- The caller's fields are written where those of the full struct are. -/
theorem callerFields_emit (mint : MintSchema lower schema) (lowerRom : lower romKey = romKey)
    (all : ∀ field ∈ schema.fields, ∃ image,
      (writeField conv ((fullStruct id out).writers conv) field).Emits true image) :
    ∀ field ∈ (buildPhantasmaNftPublicMintSchema lower schema).fields, ∃ image,
      (writeField conv (VMDynamicStruct.writers conv ⟨out⟩) field).Emits true image := by
  intro field member
  obtain ⟨inSchema, equal⟩ := callerField_same conv mint lowerRom member
  obtain ⟨image, written⟩ := all field inSchema
  exact ⟨image, equal ▸ written⟩

end Structs

/-! ## The builders -/

section Builders

variable (conv : Conversions) {lower : Str → Str} {schema : VMStructSchema} {id : Int} {metadata : Metadata}

theorem buildNftRom_free (lowerRom : lower romKey = romKey)
    (free : ∀ entry ∈ metadata, isPhantasmaNftReservedField lower entry.1 = false) :
    buildNftRom conv lower schema (.int id) metadata = (do
      let out ← metadataDynamicFields lower standardNftFields metadata schema.fields
      writeDynamicStructWithSchema conv (fullStruct id out) schema) := by
  have idField : VMNamedDynamicVariable.make STANDARD_META_ID .INT256 (.int id) =
      .ok ⟨metaIdName, ⟨.INT256, .int id⟩⟩ := by
    rw [VMNamedDynamicVariable.make, show SmallString.new STANDARD_META_ID = .ok metaIdName from metaIdName.new_value]
    rfl
  have romField : VMNamedDynamicVariable.make romKey .BYTES (.bytes []) = .ok ⟨romName, ⟨.BYTES, .bytes []⟩⟩ := by
    rw [VMNamedDynamicVariable.make, show SmallString.new romKey = .ok romName from romName.new_value]
    rfl
  have bytes := metadataBytes_free lowerRom free
  unfold romKey at bytes romField
  unfold buildNftRom requireRequiredInt
  simp only [bytes, idField, romField, bind, Except.bind]
  rfl

theorem buildPhantasmaNftRom_free (nonempty : metadata ≠ [])
    (free : ∀ entry ∈ metadata, isPhantasmaNftReservedField lower entry.1 = false) :
    buildPhantasmaNftRom conv lower schema metadata = (do
      let out ← metadataDynamicFields lower [] metadata (buildPhantasmaNftPublicMintSchema lower schema).fields
      writeDynamicStructWithSchema conv ⟨out⟩ (buildPhantasmaNftPublicMintSchema lower schema)) := by
  unfold buildPhantasmaNftRom
  rw [if_neg (by simpa using nonempty), refuseReserved_free free]
  rfl

/-- The images of both builders, as far as they write the same fields. -/
theorem fullStruct_emits (mint : MintSchema lower schema) (lowerRom : lower romKey = romKey) (low : -2 ^ 255 ≤ id)
    (high : id < 2 ^ 256) {out : List VMNamedDynamicVariable}
    (built : metadataDynamicFields lower [] metadata (buildPhantasmaNftPublicMintSchema lower schema).fields = .ok out)
    (written : ∀ field ∈ (buildPhantasmaNftPublicMintSchema lower schema).fields, ∃ image,
      (writeField conv (VMDynamicStruct.writers conv ⟨out⟩) field).Emits true image) :
    ∃ image, FieldImages conv schema id out image ∧
      writeDynamicStructWithSchema conv (fullStruct id out) schema =
        .ok (schema.fields.flatMap image ++ fullTail schema) ∧
      writeDynamicStructWithSchema conv ⟨out⟩ (buildPhantasmaNftPublicMintSchema lower schema) =
        .ok ((buildPhantasmaNftPublicMintSchema lower schema).fields.flatMap image ++ fullTail schema) := by
  have names := coercedFields_names lower (metadataDynamicFields_eq_ok lower built)
  rw [filter_noDefaults] at names
  obtain ⟨signed, range, -, same⟩ := writeBigInt_signed low high
  obtain ⟨idImage, idWritten, -⟩ := bigInt_roundTrips signed range
  obtain ⟨romImage, romWritten⟩ : ∃ image, (writeByteArray []).Emits () image :=
    ⟨_, emits_writeByteArray.mpr ⟨show [].length < 2 ^ 31 by decide, rfl⟩⟩
  obtain ⟨image, images, caller⟩ :=
    fullStruct_images conv mint lowerRom (same ▸ idWritten) romWritten written
  refine ⟨image, images, ?_, ?_⟩
  · exact (writeDynamicStructWithSchema_eq_ok conv).mpr (emits_fullStruct conv (isFull_full mint lowerRom names) images.all)
  · exact (writeDynamicStructWithSchema_eq_ok conv).mpr (emits_fullStruct conv (isFull_public names) caller)

/-- The rom of a public mint is the full rom without the images of the id and of the nested rom, and either is
    built where the other is. -/
theorem publicMint_cuts (lowerRom : lower romKey = romKey) (mint : MintSchema lower schema) (low : -2 ^ 255 ≤ id)
    (high : id < 2 ^ 256) (nonempty : metadata ≠ [])
    (free : ∀ entry ∈ metadata, isPhantasmaNftReservedField lower entry.1 = false) :
    ((∃ raw, buildPhantasmaNftRom conv lower schema metadata = .ok raw) ↔
      ∃ raw, buildNftRom conv lower schema (.int id) metadata = .ok raw) ∧
    ∀ raw, buildNftRom conv lower schema (.int id) metadata = .ok raw → ∃ out image,
      metadataDynamicFields lower standardNftFields metadata schema.fields = .ok out ∧
      FieldImages conv schema id out image ∧ raw = schema.fields.flatMap image ++ fullTail schema ∧
      buildPhantasmaNftRom conv lower schema metadata =
        .ok ((schema.fields.filter fun field =>
          !isPhantasmaNftReservedField lower field.name.value).flatMap image ++ fullTail schema) := by
  rw [buildNftRom_free conv lowerRom free, buildPhantasmaNftRom_free conv nonempty free,
    metadataDynamicFields_filter fun field member => mint.reserved_iff lowerRom member]
  -- the builders ask for the same fields and differ in the struct and the schema
  change ((∃ raw, (metadataDynamicFields lower [] metadata (buildPhantasmaNftPublicMintSchema lower schema).fields >>=
      fun out => writeDynamicStructWithSchema conv ⟨out⟩ (buildPhantasmaNftPublicMintSchema lower schema)) = .ok raw) ↔
    ∃ raw, (metadataDynamicFields lower [] metadata (buildPhantasmaNftPublicMintSchema lower schema).fields >>=
      fun out => writeDynamicStructWithSchema conv (fullStruct id out) schema) = .ok raw) ∧ _
  refine ⟨⟨?_, ?_⟩, ?_⟩
  · rintro ⟨raw, run⟩
    obtain ⟨out, built, run⟩ := except_bind_eq_ok.mp run
    have written := struct_fields_emit conv ((writeDynamicStructWithSchema_eq_ok conv).mp run)
    obtain ⟨image, -, full, -⟩ := fullStruct_emits conv mint lowerRom low high built written
    exact ⟨_, except_bind_eq_ok.mpr ⟨out, built, full⟩⟩
  · rintro ⟨raw, run⟩
    obtain ⟨out, built, run⟩ := except_bind_eq_ok.mp run
    have written := struct_fields_emit conv ((writeDynamicStructWithSchema_eq_ok conv).mp run)
    obtain ⟨image, -, -, caller⟩ :=
      fullStruct_emits conv mint lowerRom low high built (callerFields_emit conv mint lowerRom written)
    exact ⟨_, except_bind_eq_ok.mpr ⟨out, built, caller⟩⟩
  · intro raw run
    obtain ⟨out, built, run⟩ := except_bind_eq_ok.mp run
    have written := struct_fields_emit conv ((writeDynamicStructWithSchema_eq_ok conv).mp run)
    obtain ⟨image, images, full, caller⟩ :=
      fullStruct_emits conv mint lowerRom low high built (callerFields_emit conv mint lowerRom written)
    exact ⟨out, image, built, images, Except.ok.inj (run.symm.trans full), except_bind_eq_ok.mpr ⟨out, built, caller⟩⟩

end Builders

theorem noteSchema_mint (type : VMType) : MintSchema asciiLower (noteSchema type) where
  distinct := by
    change [metaIdName.value, noteName.value, romName.value].Nodup
    decide +kernel
  id := ⟨_, List.mem_cons_self, rfl, rfl⟩
  rom := ⟨_, List.mem_cons_of_mem _ (List.mem_cons_of_mem _ List.mem_cons_self), rfl, rfl⟩
  only := by
    have free : isPhantasmaNftReservedField asciiLower noteName.value = false := by decide +kernel
    intro field member reserved
    rw [noteSchema, List.mem_cons, List.mem_cons, List.mem_singleton] at member
    rcases member with rfl | rfl | rfl
    · exact .inl rfl
    · cases free.symm.trans reserved
    · exact .inr rfl

theorem publicMint_cuts_note : ∃ out image,
    FieldImages Conversions.none (noteSchema .INT8) 300 out image ∧
      buildPhantasmaNftRom Conversions.none asciiLower (noteSchema .INT8) [(Str.ofString "note", .int 5)] =
        .ok (((noteSchema .INT8).fields.filter fun field =>
          !isPhantasmaNftReservedField asciiLower field.name.value).flatMap image ++ fullTail (noteSchema .INT8)) := by
  have built : buildNftRom Conversions.none asciiLower (noteSchema .INT8) (.int 300)
      [(Str.ofString "note", .int 5)] = .ok [2, 44, 1, 5, 0, 0, 0, 0] := rfl
  obtain ⟨out, image, -, images, -, caller⟩ :=
    (publicMint_cuts Conversions.none (by decide +kernel) (noteSchema_mint .INT8) (by decide) (by decide)
      (List.cons_ne_nil _ _) (by decide +kernel)).2 _ built
  exact ⟨out, image, images, caller⟩

end PhantasmaPy.Carbon
