import PhantasmaPy.Carbon.Sizes
import PhantasmaPy.Carbon.TokenCreation

/-! # New series

A series of the standard schema: its metadata are always made, and who knows the schemas of the token reads them
from the transaction that creates the series.
-/

namespace PhantasmaPy.Carbon

open Wire CarbonWriter CarbonReader

/-! ## Standard schemas -/

/-- `_schema_to_public_fields` -/
def schemaToPublicFields (fields : List VMNamedVariableSchema) : List TokenSchemaField :=
  fields.map fun field => { name := field.name.value, type := field.schema.type }

/-- The standard fields are made as they are declared. -/
theorem standardSchemaFields_made {declared : List TokenSchemaField}
    (accepted : (standardSchemaFields declared).isOk = true) :
    ∃ fields, standardSchemaFields declared = .ok fields ∧ schemaToPublicFields fields = declared ∧
      ∀ field ∈ fields, field.schema.structDef = none := by
  cases made : standardSchemaFields declared with
  | error e =>
    rw [made] at accepted
    cases accepted
  | ok fields =>
    refine ⟨fields, rfl, ?_, ?_⟩
    · have each := mapM_eq_ok.mp made
      clear made accepted
      -- each field is made of its declaration, with this name and type
      induction each with
      | nil => rfl
      | cons step _ ih =>
        obtain ⟨name, small, same⟩ := except_bind_eq_ok.mp step
        obtain rfl := Except.ok.inj same
        unfold schemaToPublicFields at ih ⊢
        rw [List.map_cons, ih, SmallString.new_eq_ok small]
    · intro field member
      obtain ⟨_, -, step⟩ := forall₂_exists_left (mapM_eq_ok.mp made) member
      obtain ⟨name, -, same⟩ := except_bind_eq_ok.mp step
      obtain rfl := Except.ok.inj same
      rfl

/-- The type that the first declaration of the name gives it. -/
def declaredType (fields : List TokenSchemaField) (name : Str) : Option VMType :=
  (fields.find? fun field => field.name = name).map TokenSchemaField.type

/-- A requirement is about the public declarations of the fields that it searches. -/
theorem Requirement.met_of_declared {self : Requirement} (declared : declaredType
    (self.schemas.flatMap fun schema => schemaToPublicFields schema.fields) self.expected.name =
      some self.expected.type) : self.Met := by
  have searched : (self.schemas.flatMap fun schema => schemaToPublicFields schema.fields) =
      schemaToPublicFields self.searched := List.map_flatMap.symm
  rw [searched] at declared
  unfold declaredType schemaToPublicFields at declared
  rw [List.find?_map, Option.map_map, Option.map_eq_some_iff] at declared
  exact declared

/-- Fields without definitions and of no struct type come back from the wire as they are. -/
theorem publishable_of_declared {fields : List VMNamedVariableSchema} {declared : List TokenSchemaField} {flags : Int}
    (byte : Unsigned 8 flags) (same : schemaToPublicFields fields = declared)
    (bare : ∀ field ∈ fields, field.schema.structDef = none) (small : declared.length < 2 ^ 31)
    (plain : ∀ field ∈ declared, field.type.isStruct = false) : VMStructSchema.Publishable ⟨fields, flags⟩ := by
  subst same
  unfold schemaToPublicFields at small
  rw [List.length_map] at small
  refine ⟨⟨small, byte, fieldsInRange_of_bare bare⟩, ?_⟩
  clear small
  rw [VMStructSchema.DefinesStructs]
  induction fields with
  | nil => trivial
  | cons field fields ih =>
    obtain ⟨noDef, restBare⟩ := List.forall_mem_cons.mp bare
    obtain ⟨notStruct, restPlain⟩ := List.forall_mem_cons.mp plain
    obtain ⟨name, type, structDef⟩ := field
    obtain rfl : structDef = none := noDef
    exact ⟨⟨notStruct, trivial⟩, ih restBare restPlain⟩

theorem schemaToPublicFields_append (fields others : List VMNamedVariableSchema) :
    schemaToPublicFields (fields ++ others) = schemaToPublicFields fields ++ schemaToPublicFields others :=
  List.map_append

/-- Schemas of the standard declarations pass the check, wherever the fields of the metadata are. -/
theorem verifyTokenSchemas_standard (lower : Str → Str) {schemas : TokenSchemas} (sharedMetadata : Bool)
    (series : schemaToPublicFields schemas.seriesMetadata.fields =
      standardSeriesFields ++ if sharedMetadata then standardMetadataFields else [])
    (rom : schemaToPublicFields schemas.rom.fields =
      standardNftFields ++ if sharedMetadata then [] else standardMetadataFields) :
    verifyTokenSchemas lower schemas = .ok () := by
  rw [verifyTokenSchemas_eq, forM_eq_ok]
  unfold requirements
  simp only [List.forall_mem_append, List.forall_mem_map, Requirement.check_iff]
  refine ⟨⟨?metadata, ?series⟩, ?nft⟩
  all_goals
    intro expected member
    apply Requirement.met_of_declared
    simp only [List.flatMap_cons, List.flatMap_nil, series, rom]
    revert expected
    cases sharedMetadata <;> decide +kernel

/-- The standard schemas pass the check of the schemas, and come back from the wire as they are. -/
theorem prepareStandardTokenSchemas_standard (lower : Str → Str) (sharedMetadata : Bool) :
    ∃ schemas, prepareStandardTokenSchemas sharedMetadata = .ok schemas ∧
      verifyTokenSchemas lower schemas = .ok () ∧ schemas.InRange := by
  obtain ⟨seriesFields, series, seriesDeclared, seriesBare⟩ :=
    @standardSchemaFields_made standardSeriesFields (by decide +kernel)
  obtain ⟨metadataFields, metadata, metadataDeclared, metadataBare⟩ :=
    @standardSchemaFields_made standardMetadataFields (by decide +kernel)
  obtain ⟨nftFields, nft, nftDeclared, nftBare⟩ := @standardSchemaFields_made standardNftFields (by decide +kernel)
  unfold prepareStandardTokenSchemas
  rw [series, metadata, nft]
  have joined {fields : List VMNamedVariableSchema} {declared : List TokenSchemaField}
      (same : schemaToPublicFields fields = declared) :
      schemaToPublicFields (fields ++ metadataFields) = declared ++ standardMetadataFields := by
    rw [schemaToPublicFields_append, same, metadataDeclared]
  have bare {fields : List VMNamedVariableSchema} (bare : ∀ field ∈ fields, field.schema.structDef = none) :
      ∀ field ∈ fields ++ metadataFields, field.schema.structDef = none :=
    List.forall_mem_append.mpr ⟨bare, metadataBare⟩
  have ram : VMStructSchema.Publishable ⟨[], 1⟩ :=
    publishable_of_declared (by decide) rfl (by simp) (by decide) (List.forall_mem_nil _)
  -- the metadata fields stand behind those of the series or behind those of the instances
  cases sharedMetadata with
  | true =>
    refine ⟨_, rfl, verifyTokenSchemas_standard lower true (joined seriesDeclared) ?_, ?_, ?_, ram⟩
    · exact nftDeclared.trans (List.append_nil _).symm
    · exact publishable_of_declared (by decide) (joined seriesDeclared) (bare seriesBare) (by decide) (by decide)
    · exact publishable_of_declared (by decide) nftDeclared nftBare (by decide) (by decide)
  | false =>
    refine ⟨_, rfl, verifyTokenSchemas_standard lower false ?_ (joined nftDeclared), ?_, ?_, ram⟩
    · exact seriesDeclared.trans (List.append_nil _).symm
    · exact publishable_of_declared (by decide) seriesDeclared seriesBare (by decide) (by decide)
    · exact publishable_of_declared (by decide) (joined nftDeclared) (bare nftBare) (by decide) (by decide)

/-! ## Structs of plain data -/

section Leaves

variable {conv : Conversions} {schema : VMStructSchema} {data : VMNamedVariableSchema → Data}

theorem boundFields_distinct (distinct : (schema.fields.map fun field => field.name.value).Nodup) :
    DistinctNames (schema.fields.map (boundField data)) := by
  unfold DistinctNames
  rw [List.map_map]
  exact distinct

theorem boundField_writeStatic (field : VMNamedVariableSchema) :
    ((boundField data field).writer conv).writeStatic field.schema.type field.schema.structDef =
      (data field).writeAs conv field.schema.type field.schema.structDef := if_pos rfl

/-- The data in their signed spelling. -/
def signedData (data : VMNamedVariableSchema → Data) (field : VMNamedVariableSchema) : Data :=
  (data field).canonical field.schema.type

/-- A struct of the fields of its schema comes back with the signed spellings. -/
theorem leaves_convey (distinct : (schema.fields.map fun field => field.name.value).Nodup)
    (noExtras : schema.dynamicExtras = false)
    (leaves : ∀ field ∈ schema.fields, LeafData field.schema.type (signedData data field)) :
    Conveys (VMDynamicStruct.writeWithSchema conv ⟨schema.fields.map (boundField data)⟩ schema) true
      (VMDynamicStruct.readWithSchema schema) ⟨sortFields (schema.fields.map (boundField (signedData data)))⟩ := by
  -- the writer reduces unsigned integers to signed ones, which are what is read back
  have spelled : canonicalFields (schema.fields.map (boundField data)) =
      schema.fields.map (boundField (signedData data)) := by
    rw [canonicalFields_eq, List.map_map]
    rfl
  have found : ∀ field ∈ schema.fields, ∃ writer,
      ((fieldWriters conv (schema.fields.map (boundField (signedData data)))).find? fun writer =>
        writer.name.value = field.name.value) = some writer ∧
      Conveys (writer.writeStatic field.schema.type field.schema.structDef) true
        (readStatic readInline field.schema.type field.schema.structDef) (signedData data field) := by
    intro field member
    refine ⟨_, find_writer conv (boundFields_distinct distinct) (List.mem_map_of_mem member), ?_⟩
    have leaf := leaves field member
    have conveys := leafData_conveys conv field.schema.structDef leaf
    rw [leaf.normal] at conveys
    rw [boundField_writeStatic]
    exact conveys
  -- the schema has no extras, so that only its own fields are written
  have noRoom (allowed : schema.dynamicExtras = true) : False := by
    rw [noExtras] at allowed
    cases allowed
  have bound := @withSchema_conveys conv schema _ (signedData data) (fun _ => .none) distinct found
    (fun allowed => (noRoom allowed).elim) fun allowed => (noRoom allowed).elim
  rw [noExtras] at bound
  simp only [Bool.false_eq_true, if_false, List.append_nil] at bound
  unfold VMDynamicStruct.writeWithSchema
  rw [VMDynamicStruct.writers, ← canonicalFields_writers, spelled]
  exact bound

/-- A writer was found for the field, and writes at most `high` bytes. -/
def FoundWithin (fields : List FieldWriter) (high : Nat) (field : VMNamedVariableSchema) : Prop :=
  ∃ writer, (fields.find? fun writer => writer.name.value = field.name.value) = some writer ∧
    Put.Within 0 high (writer.writeStatic field.schema.type field.schema.structDef)

theorem writeFields_within {fields : List FieldWriter} {high : Nat} {schemaFields : List VMNamedVariableSchema}
    (found : ∀ field ∈ schemaFields, FoundWithin fields high field) (ok : Bool) (count : Nat) :
    Put.Within 0 (high * schemaFields.length) (writeFields conv fields schemaFields ok count) := by
  induction schemaFields generalizing ok count with
  | nil => exact Put.within_pure (ok, count)
  | cons field schemaFields ih =>
    obtain ⟨⟨writer, isFound, within⟩, restFound⟩ := List.forall_mem_cons.mp found
    obtain ⟨name, type, structDef⟩ := field
    rw [writeFields, isFound]
    refine (within.bind fun _ => ih restFound _ _).mono (Nat.zero_le _) ?_
    rw [List.length_cons, Nat.mul_succ]
    omega

theorem leaves_within {high : Nat} (distinct : (schema.fields.map fun field => field.name.value).Nodup)
    (noExtras : schema.dynamicExtras = false) (sized : ∀ field ∈ schema.fields,
      Put.Within 0 high ((data field).writeAs conv field.schema.type field.schema.structDef)) :
    Put.Within 0 (high * schema.fields.length)
      (VMDynamicStruct.writeWithSchema conv ⟨schema.fields.map (boundField data)⟩ schema) := by
  have found : ∀ field ∈ schema.fields,
      FoundWithin (fieldWriters conv (schema.fields.map (boundField data))) high field := by
    intro field member
    refine ⟨_, find_writer conv (boundFields_distinct distinct) (List.mem_map_of_mem member), ?_⟩
    rw [boundField_writeStatic]
    exact sized field member
  unfold VMDynamicStruct.writeWithSchema
  rw [VMDynamicStruct.writers]
  generalize fieldWriters conv (schema.fields.map (boundField data)) = fields at found
  obtain ⟨schemaFields, flags⟩ := schema
  rw [writeWithSchema]
  refine (writeFields_within found true 0).ending fun _ => ?_
  dsimp only
  rw [noExtras]
  exact Put.within_pure _

end Leaves

/-! ## Series -/

def modeName : SmallString := ⟨modeKey, [109, 111, 100, 101], by decide +kernel, by decide⟩

/-- The schema of the metadata of a series. -/
def seriesSchema : VMStructSchema :=
  ⟨[⟨metaIdName, ⟨.INT256, none⟩⟩, ⟨modeName, ⟨.INT8, none⟩⟩, ⟨romName, ⟨.BYTES, none⟩⟩], 0⟩

/-- The data of a series without a rom. -/
def seriesData (id : Int) (field : VMNamedVariableSchema) : Data :=
  match field.schema.type with
  | .INT256 => .int id
  | .INT8 => .int 0
  | _ => .bytes []

theorem prepareStandardTokenSchemas_series :
    ∃ rom ram, prepareStandardTokenSchemas false = .ok ⟨seriesSchema, rom, ram⟩ := ⟨_, _, rfl⟩

theorem make_smallString (name : SmallString) (vmType : VMType) (value : Data) :
    VMNamedDynamicVariable.make name.value vmType value = .ok ⟨name, ⟨vmType, value⟩⟩ := by
  unfold VMNamedDynamicVariable.make
  rw [SmallString.new_value]
  rfl

/-- Without metadata the builder writes its own three fields. -/
theorem buildTokenSeriesMetadata_bare {conv : Conversions} {lower : Str → Str} {id : Int} {metadata : Bytes}
    (emits : (VMDynamicStruct.writeWithSchema conv ⟨seriesSchema.fields.map (boundField (seriesData id))⟩
      seriesSchema).Emits true metadata) :
    buildTokenSeriesMetadata conv lower seriesSchema (.int id) [] = .ok metadata := by
  have rom : metadataBytes lower [] romKey = .ok [] := rfl
  have others : metadataDynamicFieldsForSchema lower seriesSchema standardSeriesFields [] = .ok [] := rfl
  refine except_bind_eq_ok.mpr ⟨id, rfl, except_bind_eq_ok.mpr ⟨[], rom, ?_⟩⟩
  refine except_bind_eq_ok.mpr ⟨_, make_smallString metaIdName .INT256 (.int id), ?_⟩
  refine except_bind_eq_ok.mpr ⟨_, make_smallString modeName .INT8 (.int 0), ?_⟩
  refine except_bind_eq_ok.mpr ⟨_, make_smallString romName .BYTES (.bytes []), ?_⟩
  exact except_bind_eq_ok.mpr ⟨[], others, (writeDynamicStructWithSchema_eq_ok conv).mpr emits⟩

/-- What is read of the metadata of a series without a rom. -/
def ReadsSeries (struct : VMDynamicStruct) (id : Int) : Prop :=
  struct.get STANDARD_META_ID = some ⟨.INT256, .int (signedAt 256 id)⟩ ∧
    struct.get modeKey = some ⟨.INT8, .int 0⟩ ∧ struct.get romKey = some ⟨.BYTES, .bytes []⟩

theorem seriesMetadata_made (conv : Conversions) (lower : Str → Str) {id : Int}
    (range : Signed 256 id ∨ Unsigned 256 id) : ∃ metadata struct,
      buildTokenSeriesMetadata conv lower seriesSchema (.int id) [] = .ok metadata ∧ metadata.length ≤ 99 ∧
        deserialize (VMDynamicStruct.readWithSchema seriesSchema) metadata = .ok struct ∧ ReadsSeries struct id := by
  have distinct : (seriesSchema.fields.map fun field => field.name.value).Nodup := by decide +kernel
  have plain : ∀ field ∈ seriesSchema.fields, field.schema.type.isNested = false := by decide
  have leaves : ∀ field ∈ seriesSchema.fields, LeafData field.schema.type (signedData (seriesData id) field) := by
    unfold seriesSchema
    simp only [List.forall_mem_cons]
    exact ⟨⟨_, signedAt_signed (by decide) range, rfl⟩, ⟨0, by decide, rfl⟩, ⟨[], shortBytes_nil, rfl⟩, by simp⟩
  -- 33 bytes are the largest image of an integer of 256 bits, and more than the other fields take
  have sized : ∀ field ∈ seriesSchema.fields, Put.Within 0 33
      ((seriesData id field).writeAs conv field.schema.type field.schema.structDef) := by
    intro field member
    rw [writeAs_leaf conv (plain field member)]
    refine Put.Within.ending ?_ fun _ => Put.within_pure true
    revert field
    unfold seriesSchema
    simp only [List.forall_mem_cons]
    refine ⟨?id, ?mode, ?rom, by simp⟩
    case id =>
      change Put.Within 0 33 (writeLeaf conv .INT256 (.int id))
      rw [writeLeaf_int256]
      exact (within_writeBigInt id).mono (by decide) le_rfl
    case mode => exact (within_write1 0).mono (by decide) (by decide)
    case rom => exact (within_writeByteArray []).mono (by decide) (by decide)
  obtain ⟨metadata, emits, parses⟩ := @leaves_convey conv seriesSchema (seriesData id) distinct rfl leaves
  have reads (field : VMNamedVariableSchema) (member : field ∈ seriesSchema.fields) :=
    get_boundFields distinct (signedData (seriesData id)) [] member
  simp only [List.append_nil] at reads
  have short := (leaves_within distinct rfl sized emits).2
  refine ⟨metadata, _, buildTokenSeriesMetadata_bare emits, short, deserialize_eq_ok.mpr parses.yields, ?_, ?_, ?_⟩
  · exact reads ⟨metaIdName, ⟨.INT256, none⟩⟩ (.head _)
  · exact reads ⟨modeName, ⟨.INT8, none⟩⟩ (.tail _ (.head _))
  · exact reads ⟨romName, ⟨.BYTES, none⟩⟩ (.tail _ (.tail _ (.head _)))

/-- The image of a description without schemas of its own. -/
theorem SeriesInfo.within (maxMint maxSupply : Int) (owner : Bytes32) (metadata : Bytes) :
    Put.Within 0 (54 + metadata.length) (SeriesInfo.writeCarbon { maxMint, maxSupply, owner, metadata }) := by
  have schema : Put.Within 0 5 VMStructSchema.default.writeCarbon :=
    Put.Within.mono ((within_write4 0).seq ((Put.within_pure ()).seq (within_write1 0))) (by decide) le_rfl
  have fields : Put.Within _ _ (SeriesInfo.writeCarbon { maxMint, maxSupply, owner, metadata }) :=
    (within_write4u maxMint).seq ((within_write4u maxSupply).seq ((within_write32 owner).seq
      ((within_writeByteArray metadata).seq (schema.seq schema))))
  exact fields.mono (Nat.zero_le _) (by omega)

theorem seriesArgs_inRange {tokenId maxMint maxSupply : Int} {owner : Bytes32} {metadata : Bytes}
    (short : metadata.length ≤ 99) (token : Unsigned 64 tokenId) (mint : Unsigned 32 maxMint)
    (supply : Unsigned 32 maxSupply) :
    CreateTokenSeriesArgs.InRange { tokenId, info := { maxMint, maxSupply, owner, metadata } } := by
  have empty : VMStructSchema.default.Publishable := ⟨⟨by decide, by decide, trivial⟩, trivial⟩
  exact ⟨token, mint, supply, lt_of_le_of_lt short (by decide), empty, empty⟩

theorem createTokenSeries_fits {tokenId maxMint maxSupply : Int} {owner : Bytes32} {metadata : Bytes}
    (short : metadata.length ≤ 99) (fees : CreateSeriesFeeOptions) :
    ((TokenOperation.createTokenSeries tokenId { maxMint, maxSupply, owner, metadata } fees).Fits ∧
      (TokenOperation.createTokenSeries tokenId { maxMint, maxSupply, owner, metadata } fees).Short) ↔
      Unsigned 64 tokenId ∧ Unsigned 32 maxMint ∧ Unsigned 32 maxSupply := by
  constructor
  · rintro ⟨⟨token, mint, supply, -⟩, -⟩
    exact ⟨token, mint, supply⟩
  · rintro ⟨token, mint, supply⟩
    have empty : VMStructSchema.default.InRange := ⟨by decide, by decide, trivial⟩
    refine ⟨⟨token, mint, supply, lt_of_le_of_lt short (by decide), empty, empty⟩, fun args emits => ?_⟩
    have sized := ((within_write8u tokenId).seq (SeriesInfo.within maxMint maxSupply owner metadata)) emits
    unfold ShortBytes
    omega

/-- The transaction creates a series of the token. -/
def CreatesSeries (scheme : Ed25519) (signer : PhantasmaKeys) (raw : Bytes) (tokenId : Int) (created : SeriesInfo) :
    Prop :=
  ∃ args, Calls scheme signer raw 6 args ∧
    deserialize CreateTokenSeriesArgs.readCarbon args = .ok { tokenId, info := created }

theorem createsSeries {now : Int} {scheme : Ed25519} (correct : scheme.Correct) {tokenId : Int} {info : SeriesInfo}
    {fees : CreateSeriesFeeOptions} (inRange : CreateTokenSeriesArgs.InRange { tokenId, info })
    {signer : PhantasmaKeys} {maxData expiry : Int} {raw : Bytes}
    (sent : buildCreateTokenSeriesTxAndSign now scheme tokenId info signer fees maxData expiry = .ok raw) :
    CreatesSeries scheme signer raw tokenId info := by
  obtain ⟨msg, signed, carried, sender, -⟩ := @TokenOperation.signed_carried now scheme correct
    (.createTokenSeries tokenId info fees) inRange signer maxData expiry raw sent
  generalize payload : msg.msg = held at carried
  cases carried with
  | createTokenSeries read => exact ⟨_, ⟨msg, signed, sender, payload⟩, read⟩

/-- The description of a series is made for every id of 256 bits, and the transaction for it exactly if its numbers
have room on the wire; who reads the schemas of the token from their image then reads the id from the transaction. -/
theorem series_created (now : Int) (scheme : Ed25519) (correct : scheme.Correct) (conv : Conversions)
    (lower : Str → Str) (id : Int) (range : Signed 256 id ∨ Unsigned 256 id) (maxMint maxSupply : Int)
    (owner : Bytes32) (tokenId : Int) (signer : PhantasmaKeys) (fees : CreateSeriesFeeOptions)
    (maxData expiry : Int) :
    ∃ info schemas wire, buildSeriesInfo conv lower (.int id) maxMint maxSupply owner = .ok info ∧
      buildAndSerializeTokenSchemas none = .ok wire ∧ deserialize TokenSchemas.readCarbon wire = .ok schemas ∧
      verifyTokenSchemas lower schemas = .ok () ∧
      ((∃ raw, buildCreateTokenSeriesTxAndSign now scheme tokenId info signer fees maxData expiry = .ok raw) ↔
        (Unsigned 64 tokenId ∧ Unsigned 32 maxMint ∧ Unsigned 32 maxSupply) ∧
          (∃ gas, fees.calculateMaxGas 1 = .ok gas ∧ Unsigned 64 gas) ∧ Unsigned 64 maxData ∧
          Signed 64 (expiryOr now expiry)) ∧
      ∀ raw, buildCreateTokenSeriesTxAndSign now scheme tokenId info signer fees maxData expiry = .ok raw →
        ∃ created struct, CreatesSeries scheme signer raw tokenId created ∧ created.maxMint = maxMint ∧
          created.maxSupply = maxSupply ∧ created.owner = owner ∧
          deserialize (VMDynamicStruct.readWithSchema schemas.seriesMetadata) created.metadata = .ok struct ∧
          ReadsSeries struct id := by
  obtain ⟨metadata, struct, made, short, read, reads⟩ := seriesMetadata_made conv lower range
  obtain ⟨schemas, prepared, verified, inRange⟩ := prepareStandardTokenSchemas_standard lower false
  obtain ⟨rom, ram, spelled⟩ := prepareStandardTokenSchemas_series
  -- the prepared schemas are those that were spelled out, so that the metadata are read under them
  obtain rfl := Except.ok.inj (prepared.symm.trans spelled)
  obtain ⟨wire, emits, parses⟩ := TokenSchemas.conveys inRange
  have fits := @createTokenSeries_fits tokenId maxMint maxSupply owner metadata short fees
  have accepted := @TokenOperation.buildAndSign_iff now scheme
    (.createTokenSeries tokenId { maxMint, maxSupply, owner, metadata } fees) signer maxData expiry
  refine ⟨{ maxMint, maxSupply, owner, metadata }, _, wire, ?_, ?_, deserialize_eq_ok.mpr parses.yields, verified,
    ?_, ?_⟩
  · refine except_bind_eq_ok.mpr ⟨id, rfl, except_bind_eq_ok.mpr ⟨_, prepared, ?_⟩⟩
    exact except_bind_eq_ok.mpr ⟨metadata, made, rfl⟩
  · unfold buildAndSerializeTokenSchemas
    rw [prepared]
    exact serialize_eq_ok.mpr emits
  · rw [fits] at accepted
    exact accepted
  · intro raw sent
    obtain ⟨token, mint, supply⟩ := fits.mp (accepted.mp ⟨raw, sent⟩).1
    have created := createsSeries correct (seriesArgs_inRange short token mint supply) sent
    exact ⟨_, struct, created, rfl, rfl, rfl, read, reads⟩

/-- The image of the creation of a fifth series by the key of zeros. -/
def seriesImage : Bytes :=
  [0, 1, 0, 0, 0, 0, 0, 0, 0, 0, 113, 20, 202, 188, 22, 0, 0, 0, 225, 245, 5, 0, 0, 0, 0] ++ zeroPublicKey.raw ++
    [0, 1, 0, 0, 0, 6, 0, 0, 0, 69, 0, 0, 0, 1, 0, 0, 0, 0, 0, 0, 0, 10, 0, 0, 0, 10, 0, 0, 0] ++
    List.replicate 32 0 ++ [7, 0, 0, 0, 1, 5] ++ List.replicate 15 0

/-- The signature of that image by the key of zeros. -/
def seriesSignature : Bytes64 where
  raw := [166, 167, 108, 156, 17, 130, 246, 252, 247, 151, 170, 146, 167, 192, 3, 180, 107, 117, 133, 211, 164, 31, 32,
    186, 248, 101, 19, 246, 234, 191, 127, 192, 220, 185, 14, 193, 26, 142, 208, 50, 137, 115, 53, 11, 97, 98, 117, 7,
    200, 88, 157, 248, 82, 246, 144, 224, 212, 67, 18, 24, 86, 213, 166, 0]
  length_eq := rfl

def seriesScheme : Ed25519 := zeroKeyScheme seriesImage seriesSignature

/-- The fifth series of a token, with the default fees, signed by the key of zeros. -/
def seriesTransaction : Except PyError Bytes := do
  let info ← buildSeriesInfo .none id (.int 5) 10 10 EMPTY_BYTES32
  buildCreateTokenSeriesTxAndSign 0 seriesScheme 1 info zeroKeys {} defaultMaxData 1

theorem seriesTransaction_eq : seriesTransaction =
    .ok (seriesImage ++ [1, 0, 0, 0] ++ zeroPublicKey.raw ++ seriesSignature.raw) :=
  toOption_eq_some.mp (by decide +kernel)

theorem series_created_five : ∃ schemas created struct,
    CreatesSeries seriesScheme zeroKeys (seriesImage ++ [1, 0, 0, 0] ++ zeroPublicKey.raw ++ seriesSignature.raw) 1
        created ∧
      deserialize (VMDynamicStruct.readWithSchema schemas) created.metadata = .ok struct ∧ ReadsSeries struct 5 := by
  obtain ⟨info, schemas, wire, made, -, -, -, -, carries⟩ := series_created 0 seriesScheme (zeroKeyScheme_correct _ _)
    .none id 5 (.inl (by decide)) 10 10 EMPTY_BYTES32 1 zeroKeys {} defaultMaxData 1
  obtain ⟨info', made', sent⟩ := except_bind_eq_ok.mp seriesTransaction_eq
  obtain rfl := Except.ok.inj (made.symm.trans made')
  obtain ⟨created, struct, creates, -, -, -, read, reads⟩ := carries _ sent
  exact ⟨_, created, struct, creates, read, reads⟩

end PhantasmaPy.Carbon
