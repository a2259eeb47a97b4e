import PhantasmaPy.Carbon.Tokens
import PhantasmaPy.Encoding
import PhantasmaPy.Json

/-! # Token schemas

The builders of token schemas from field declarations and from JSON, with the check of the standard fields.
-/

namespace PhantasmaPy.Carbon

open Wire

/-! ## Field declarations -/

structure TokenSchemaField where
  name : Str
  type : VMType

/-- The name or the type of a declaration, by the classes that the code tells apart. -/
inductive DeclaredPart where
  | str (text : Str)
  | type (vmType : VMType)
  | other

/-- A declaration: a field, a tuple of two, a mapping with what it has under `name` and `type`, or a value
    that is none of these. -/
inductive SchemaFieldInput where
  | field (value : TokenSchemaField)
  | pair (name type : DeclaredPart)
  | mapping (name type : DeclaredPart)
  | other

def VM_TYPE_NAME_MAP : List (Str × VMType) :=
  [("Dynamic", .DYNAMIC), ("Array", .ARRAY_DYNAMIC), ("Bytes", .BYTES), ("Struct", .STRUCT),
    ("Int8", .INT8), ("Int16", .INT16), ("Int32", .INT32), ("Int64", .INT64), ("Int256", .INT256),
    ("Bytes16", .BYTES16), ("Bytes32", .BYTES32), ("Bytes64", .BYTES64), ("String", .STRING),
    ("Array_Dynamic", .ARRAY_DYNAMIC), ("Array_Bytes", .ARRAY_BYTES), ("Array_Struct", .ARRAY_STRUCT),
    ("Array_Int8", .ARRAY_INT8), ("Array_Int16", .ARRAY_INT16), ("Array_Int32", .ARRAY_INT32),
    ("Array_Int64", .ARRAY_INT64), ("Array_Int256", .ARRAY_INT256), ("Array_Bytes16", .ARRAY_BYTES16),
    ("Array_Bytes32", .ARRAY_BYTES32), ("Array_Bytes64", .ARRAY_BYTES64), ("Array_String", .ARRAY_STRING),
    ("ArrayDynamic", .ARRAY_DYNAMIC), ("ArrayBytes", .ARRAY_BYTES), ("ArrayStruct", .ARRAY_STRUCT),
    ("ArrayInt8", .ARRAY_INT8), ("ArrayInt16", .ARRAY_INT16), ("ArrayInt32", .ARRAY_INT32),
    ("ArrayInt64", .ARRAY_INT64), ("ArrayInt256", .ARRAY_INT256), ("ArrayBytes16", .ARRAY_BYTES16),
    ("ArrayBytes32", .ARRAY_BYTES32), ("ArrayBytes64", .ARRAY_BYTES64),
    ("ArrayString", .ARRAY_STRING)].map fun entry => (Str.ofString entry.1, entry.2)

def vmTypeFromString (value : Str) : Except PyError VMType :=
  match VM_TYPE_NAME_MAP.lookup (strip value) with
  | some vmType => .ok vmType
  | none => .error (.builderError (Str.ofString "unknown VM type: " ++ value))

/-- The checks on the name and then on the type of a declaration. -/
def coerceDeclaration : DeclaredPart → DeclaredPart → Except PyError TokenSchemaField
  | .str name, .type type => .ok { name, type }
  | .str name, .str text => do
    let type ← vmTypeFromString text
    return { name, type }
  | .str _, .other => .error (builderError "field type must be string")
  | _, _ => .error (builderError "field name must be string")

/-- `_coerce_token_schema_field` -/
def coerceTokenSchemaField : SchemaFieldInput → Except PyError TokenSchemaField
  | .field value => .ok value
  | .pair name type => coerceDeclaration name type
  | .mapping name type => coerceDeclaration name type
  | .other => .error (builderError "field declaration must be a TokenSchemaField, tuple, or mapping")

/-- `VMNamedVariableSchema.make` without a definition -/
def VMNamedVariableSchema.make (name : Str) (vmType : VMType) : Except PyError VMNamedVariableSchema := do
  let name ← SmallString.new name
  return ⟨name, ⟨vmType, none⟩⟩

/-- `_token_schema_fields_to_schemas` -/
def tokenSchemaFieldsToSchemas (fields : List SchemaFieldInput) :
    Except PyError (List VMNamedVariableSchema) :=
  fields.mapM fun item => do
    let field ← coerceTokenSchemaField item
    VMNamedVariableSchema.make field.name field.type

/-! ## Standard fields -/

/-- The fields that are given by name and type, as public declarations. -/
def standardFields (fields : List (String × VMType)) : List TokenSchemaField :=
  fields.map fun entry => { name := Str.ofString entry.1, type := entry.2 }

def standardSeriesFields : List TokenSchemaField :=
  standardFields [("_i", .INT256), ("mode", .INT8), ("rom", .BYTES)]

def standardNftFields : List TokenSchemaField :=
  standardFields [("_i", .INT256), ("rom", .BYTES)]

def standardMetadataFields : List TokenSchemaField :=
  standardFields [("name", .STRING), ("description", .STRING), ("imageURL", .STRING), ("infoURL", .STRING),
    ("royalties", .INT32)]

/-! ## Verification -/

section Verification

/-! `lower` is `str.lower`. -/

variable (lower : Str → Str)

/-- The inner loop: `none` where the field is found, else whether a name in another case was met. -/
def searchFields (expected : TokenSchemaField) :
    List VMNamedVariableSchema → Bool → Except PyError (Option Bool)
  | [], caseMismatch => return some caseMismatch
  | ⟨name, schema⟩ :: fields, caseMismatch =>
    if name.value = expected.name then
      if schema.type ≠ expected.type then
        throw (.builderError (Str.ofString "type mismatch for " ++ expected.name ++ Str.ofString " field"))
      else
        return none
    else
      searchFields expected fields (caseMismatch || lower name.value = lower expected.name)

/-- The loop over the schemas, with its `else` branch at the end. -/
def searchSchemas (expected : TokenSchemaField) : List VMStructSchema → Bool → Except PyError Unit
  | [], caseMismatch =>
    if caseMismatch then
      throw (.builderError (Str.ofString "case mismatch for " ++ expected.name ++ Str.ofString " field"))
    else
      throw (.builderError (Str.ofString "mandatory metadata field not found: " ++ expected.name))
  | schema :: schemas, caseMismatch => do
    match ← searchFields lower expected schema.fields caseMismatch with
    | none => return ()
    | some caseMismatch => searchSchemas expected schemas caseMismatch

/-- `_assert_metadata_fields` -/
def assertMetadataFields (schemas : List VMStructSchema) (fields : List TokenSchemaField) :
    Except PyError Unit :=
  fields.forM fun expected => searchSchemas lower expected schemas false

def verifyTokenSchemas (schemas : TokenSchemas) : Except PyError Unit := do
  assertMetadataFields lower [schemas.seriesMetadata, schemas.rom] standardMetadataFields
  assertMetadataFields lower [schemas.seriesMetadata] standardSeriesFields
  assertMetadataFields lower [schemas.rom] standardNftFields

/-! ## Builders -/

def buildTokenSchemasFromFields (seriesMetadata rom ram : List SchemaFieldInput) :
    Except PyError TokenSchemas := do
  let seriesFields ←
    tokenSchemaFieldsToSchemas (standardSeriesFields.map .field ++ seriesMetadata)
  let romFields ← tokenSchemaFieldsToSchemas (standardNftFields.map .field ++ rom)
  let ramFields ← tokenSchemaFieldsToSchemas ram
  let schemas : TokenSchemas := {
    seriesMetadata := ⟨seriesFields, 0⟩
    rom := ⟨romFields, 0⟩
    ram := ⟨ramFields, if ramFields.isEmpty then 1 else 0⟩ }
  verifyTokenSchemas lower schemas
  return schemas

structure TokenSchemasJSON where
  seriesMetadata : List TokenSchemaField
  rom : List TokenSchemaField
  ram : List TokenSchemaField

/-- One turn of the loop over the declarations of an array. -/
def parseTokenSchemaField (key : String) (index : Nat) : Json → Except PyError TokenSchemaField
  | .obj item =>
    match Json.get item (Str.ofString "name") with
    | .str name =>
      match Json.get item (Str.ofString "type") with
      | .str rawType => do
        let type ← vmTypeFromString rawType
        return { name, type }
      | _ => throw (builderError s!"{key} field type must be string")
    | _ => throw (builderError s!"{key} field name must be string")
  | _ => throw (builderError s!"{key} field {index} invalid")

/-- `_parse_token_schema_field_array` -/
def parseTokenSchemaFieldArray (raw : List (Str × Json)) (key : String) :
    Except PyError (List TokenSchemaField) :=
  match Json.get raw (Str.ofString key) with
  | .arr items => items.zipIdx.mapM fun entry => parseTokenSchemaField key entry.2 entry.1
  | _ => throw (builderError s!"{key} must be an array")

/-- `parse_token_schemas_json` of the value that `json.loads` gives -/
def parseTokenSchemasJson : Json → Except PyError TokenSchemasJSON
  | .obj raw => do
    let seriesMetadata ← parseTokenSchemaFieldArray raw "seriesMetadata"
    let rom ← parseTokenSchemaFieldArray raw "rom"
    let ram ← parseTokenSchemaFieldArray raw "ram"
    return { seriesMetadata, rom, ram }
  | _ => throw (builderError "token schemas JSON must be an object")

/-- `token_schemas_from_json`, for a function in place of `json.loads` -/
def tokenSchemasFromJson (loads : Str → Except PyError Json) (data : Str) : Except PyError TokenSchemas := do
  let parsed ← parseTokenSchemasJson (← loads data)
  buildTokenSchemasFromFields lower (parsed.seriesMetadata.map .field) (parsed.rom.map .field)
    (parsed.ram.map .field)

end Verification

end PhantasmaPy.Carbon
