import PhantasmaPy.Carbon.Dynamic
import PhantasmaPy.Carbon.TokenSchemas

/-! # Metadata

The builders of NFT roms and of series metadata, with the coercion of supplied values to the types of a schema.
A list stands for every sequence but texts and bytes, and the classes of fixed size are classes of bytes.
-/

namespace PhantasmaPy.Carbon

open Wire

/-- The entries of a metadata list, in its order. -/
abbrev Metadata := List (Str × Data)

/-- The message about one field. -/
def fieldError (name message : Str) : PyError :=
  .builderError (Str.ofString "metadata field \"" ++ name ++ Str.ofString "\" " ++ message)

def metadataError (name : Str) (message : String) : PyError := fieldError name (Str.ofString message)

/-- The text between quotes. -/
def quoted (text : Str) : Str := Str.ofString "\"" ++ text ++ Str.ofString "\""

/-- The name of an element in a message. -/
def indexedName (name : Str) (index : Nat) : Str := name ++ Str.ofString s!"[{index}]"

def STANDARD_META_ID : Str := Str.ofString "_i"

/-! ## Single values -/

/-- `_decode_flexible_hex` -/
def decodeFlexibleHex (value : Str) : Except PyError Bytes :=
  let text := removePrefix (Str.ofString "0X") (removePrefix (Str.ofString "0x") (strip value))
  let text := if text.length % 2 ≠ 0 then Str.ofString "0" ++ text else text
  match fromHex text with
  | .ok raw => .ok raw
  | .error _ => .error (builderError "invalid hex byte")

/-- `_ensure_metadata_bytes` -/
def ensureMetadataBytes (name : Str) : Data → Except PyError Bytes
  | .bytes value => .ok value
  | .fixed _ value => .ok value.raw
  | .str value =>
    let text := strip value
    if text.isEmpty then .error (metadataError name "must be a byte array or hex string")
    else
      match decodeFlexibleHex text with
      | .ok raw => .ok raw
      | .error _ => .error (metadataError name "must be a byte array or hex string")
  | _ => .error (metadataError name "must be a byte array or hex string")

/-- `_ensure_fixed_metadata_bytes` for the class of the size -/
def ensureFixedMetadataBytes (name : Str) (size : Nat) (value : Data) : Except PyError (FixedBytes size) := do
  let data ← ensureMetadataBytes name value
  if data.length ≠ size then
    throw (metadataError name s!"must be exactly {size} bytes")
  else
    FixedBytes.new size data

/-- `_ensure_metadata_string` -/
def ensureMetadataString (name : Str) : Data → Except PyError Str
  | .str value =>
    if (strip value).isEmpty then .error (metadataError name "is mandatory") else .ok value
  | _ => .error (metadataError name "must be a string")

/-- `_ensure_metadata_integer` -/
def ensureMetadataInteger (name : Str) : Data → Except PyError Int
  | .int value => .ok value
  | _ => .error (metadataError name "must be an integer")

/-- The integer lies in the signed or in the unsigned range of the width. -/
def checkMetadataRange (name : Str) (width : Nat) (value : Int) : Except PyError Int :=
  if Signed width value ∨ Unsigned width value then .ok value
  else
    let low : Int := -2 ^ (width - 1)
    let high : Int := 2 ^ (width - 1) - 1
    let top : Int := 2 ^ width - 1
    .error (metadataError name s!"must be between {low} and {high} or between 0 and {top}")

/-- `_coerce_integer_for_vm_type` for the type of the width -/
def coerceIntegerForVmType (name : Str) (width : Nat) (value : Data) : Except PyError Int := do
  let integer ← ensureMetadataInteger name value
  let integer ← checkMetadataRange name width integer
  if width = 8 ∨ integer ≤ 2 ^ (width - 1) - 1 then
    return integer
  else
    return integer - 2 ^ width

/-- `_coerce_int256` -/
def coerceInt256 (name : Str) (value : Data) : Except PyError Int := do
  let integer ← ensureMetadataInteger name value
  checkMetadataRange name 256 integer

/-- `_require_required_int` -/
def requireRequiredInt (name : String) : Data → Except PyError Int
  | .int value => .ok value
  | _ => .error (builderError s!"{name} is required")

/-- `_ensure_metadata_sequence` -/
def ensureMetadataSequence (name : Str) : Data → Except PyError (List Data)
  | .list items => .ok items
  | _ => .error (metadataError name "must be provided as an array")

/-- The elements of a sequence, each coerced under its own name. -/
def coerceElements {α : Type} (name : Str) (coerce : Str → Data → Except PyError α) (items : List Data) :
    Except PyError (List α) :=
  items.zipIdx.mapM fun entry => coerce (indexedName name entry.2) entry.1

/-- The branches for arrays without nested values. -/
def coerceArray {α : Type} (name : Str) (coerce : Str → Data → Except PyError α) (inject : α → Data)
    (value : Data) : Except PyError Data := do
  let items ← ensureMetadataSequence name value
  let values ← coerceElements name coerce items
  return .list (values.map inject)

/-! ## Struct input -/

/-- `_ensure_metadata_key` -/
def ensureMetadataKey (parentName : Str) : Data → Except PyError Str
  | .str key => .ok key
  | _ => .error (metadataError parentName "must use string property names")

/-- One item of a list of fields. -/
def metadataFieldItem (name : Str) : Data → Except PyError (Str × Data)
  | .named ⟨fieldName, ⟨_, data⟩⟩ => .ok (fieldName.value, data)
  | .list [key, itemValue] => do
    let key ← ensureMetadataKey name key
    return (key, itemValue)
  | _ => .error (metadataError name "must be provided as an object or array of fields")

/-- `_metadata_struct_input_to_fields` -/
def metadataStructInputToFields (name : Str) : Data → Except PyError Metadata
  | .mapping entries => entries.mapM fun entry => do
    let key ← ensureMetadataKey name ((entry.1.map Data.str).getD (.other true))
    return (key, entry.2)
  | .list items => items.mapM (metadataFieldItem name)
  | _ => .error (metadataError name "must be provided as an object or array of fields")

/-! ## Coercion to a schema -/

section Coercion

/-! `lower` is `str.lower`. -/

variable (lower : Str → Str)

/-- `_find_metadata_field`: the value of the first entry under the name, or none. -/
def findMetadataField (metadata : Metadata) (name : Str) : Except PyError (Option Data) :=
  match metadata.lookup name with
  | some value => .ok (some value)
  | none =>
    match metadata.find? fun entry => lower entry.1 = lower name with
    | some (key, _) => .error (fieldError name (Str.ofString "provided in incorrect case as " ++ quoted key))
    | none => .ok none

/-- `_metadata_bytes` -/
def metadataBytes (metadata : Metadata) (name : Str) : Except PyError Bytes := do
  match ← findMetadataField lower metadata name with
  | none => return []
  | some value => ensureMetadataBytes name value

/-- `_has_default_field` -/
def hasDefaultField (defaults : List TokenSchemaField) (name : Str) : Bool :=
  defaults.any fun item => item.name = name

/-- The loop over the names of a struct input that the schema has to know in some case. -/
def refuseUnknown (name : Str) (schema : VMStructSchema) (fields : Metadata) : Except PyError Unit :=
  fields.forM fun field =>
    if (schema.fields.map fun field => lower field.name.value).contains (lower field.1) then .ok ()
    else .error (fieldError name (Str.ofString "received unknown property " ++ quoted field.1))

/-- A value that is missing or `None`. -/
def requireMetadataValue (name : Str) : Option Data → Except PyError Data
  | none | some .none => .error (metadataError name "is mandatory")
  | some value => .ok value

mutual

/-- `_coerce_metadata_value` -/
def coerceMetadataValue (name : Str) (value : Data) : VMVariableSchema → Except PyError Data
  | ⟨vmType, structDef⟩ => do
    let value ← requireMetadataValue name (some value)
    match vmType with
    | .BYTES => return .bytes (← ensureMetadataBytes name value)
    | .STRING => return .str (← ensureMetadataString name value)
    | .INT8 => return .int (← coerceIntegerForVmType name 8 value)
    | .INT16 => return .int (← coerceIntegerForVmType name 16 value)
    | .INT32 => return .int (← coerceIntegerForVmType name 32 value)
    | .INT64 => return .int (← coerceIntegerForVmType name 64 value)
    | .INT256 => return .int (← coerceInt256 name value)
    | .BYTES16 => return .fixed 16 (← ensureFixedMetadataBytes name 16 value)
    | .BYTES32 => return .fixed 32 (← ensureFixedMetadataBytes name 32 value)
    | .BYTES64 => return .fixed 64 (← ensureFixedMetadataBytes name 64 value)
    | .STRUCT => return .struct (← coerceMetadataStruct name value structDef)
    | .ARRAY_STRUCT => return .structArray (← coerceMetadataStructArray name value structDef)
    | .ARRAY_DYNAMIC => do
      let values ← ensureMetadataSequence name value
      if values.all fun item => item matches .variable _ then
        return .list values
      else
        throw (metadataError name "must contain dynamic VM variables")
    | .ARRAY_BYTES => coerceArray name ensureMetadataBytes .bytes value
    | .ARRAY_STRING => coerceArray name ensureMetadataString .str value
    | .ARRAY_INT8 => coerceArray name (coerceIntegerForVmType · 8) .int value
    | .ARRAY_INT16 => coerceArray name (coerceIntegerForVmType · 16) .int value
    | .ARRAY_INT32 => coerceArray name (coerceIntegerForVmType · 32) .int value
    | .ARRAY_INT64 => coerceArray name (coerceIntegerForVmType · 64) .int value
    | .ARRAY_INT256 => coerceArray name coerceInt256 .int value
    | .ARRAY_BYTES16 => coerceArray name (ensureFixedMetadataBytes · 16) (.fixed 16) value
    | .ARRAY_BYTES32 => coerceArray name (ensureFixedMetadataBytes · 32) (.fixed 32) value
    | .ARRAY_BYTES64 => coerceArray name (ensureFixedMetadataBytes · 64) (.fixed 64) value
    | .DYNAMIC => return value

/-- `_coerce_metadata_struct` -/
def coerceMetadataStruct (name : Str) (value : Data) : Option VMStructSchema → Except PyError VMDynamicStruct
  | none =>
    match value with
    | .struct value => return value
    | _ => throw (metadataError name "is missing struct schema")
  | some schema => coerceDefinedStruct name value schema

/-- `_coerce_metadata_struct` with a definition. -/
def coerceDefinedStruct (name : Str) (value : Data) : VMStructSchema → Except PyError VMDynamicStruct
  | ⟨schemaFields, flags⟩ =>
    match value with
    | .struct value => return value
    | value => do
      let fields ← metadataStructInputToFields name value
      let out ← metadataDynamicFields [] fields schemaFields
      refuseUnknown lower name ⟨schemaFields, flags⟩ fields
      return ⟨out⟩

/-- `_coerce_metadata_struct_array` -/
def coerceMetadataStructArray (name : Str) (value : Data) : Option VMStructSchema → Except PyError VMStructArray
  | none =>
    match value with
    | .structArray value => return value
    | value => do
      let _ ← ensureMetadataSequence name value
      throw (metadataError name "is missing a struct schema")
  | some schema =>
    match value with
    | .structArray value => return value
    | value => do
      let values ← ensureMetadataSequence name value
      let structs ← coerceElements name (fun name item => coerceDefinedStruct name item schema) values
      return ⟨schema, structs.map .struct⟩

/-- The loop of `_metadata_dynamic_fields_for_schema`. -/
def metadataDynamicFields (defaults : List TokenSchemaField) (metadata : Metadata) :
    List VMNamedVariableSchema → Except PyError (List VMNamedDynamicVariable)
  | [] => return []
  | ⟨name, schema⟩ :: fields =>
    if hasDefaultField defaults name.value then
      metadataDynamicFields defaults metadata fields
    else do
      let value ← requireMetadataValue name.value (← findMetadataField lower metadata name.value)
      let data ← coerceMetadataValue name.value value schema
      let out ← metadataDynamicFields defaults metadata fields
      return ⟨name, ⟨schema.type, data⟩⟩ :: out

end

/-- `_metadata_dynamic_fields_for_schema` -/
def metadataDynamicFieldsForSchema (schema : VMStructSchema) (defaults : List TokenSchemaField)
    (metadata : Metadata) : Except PyError (List VMNamedDynamicVariable) :=
  metadataDynamicFields lower defaults metadata schema.fields

end Coercion

/-! ## Builders -/

def VMNamedDynamicVariable.make (name : Str) (vmType : VMType) (value : Data) :
    Except PyError VMNamedDynamicVariable := do
  let name ← SmallString.new name
  return ⟨name, ⟨vmType, value⟩⟩

section Builders

variable (conv : Conversions) (lower : Str → Str)

/-- `_write_dynamic_struct_with_schema` -/
def writeDynamicStructWithSchema (value : VMDynamicStruct) (schema : VMStructSchema) :
    Except PyError Bytes :=
  match value.writeWithSchema conv schema with
  | .wrote true out => .ok out
  | .wrote false _ => .error (builderError "metadata does not match schema")
  | .failed e _ => .error e

def buildTokenSeriesMetadata (schema : VMStructSchema) (phantasmaSeriesId : Data) (metadata : Metadata) :
    Except PyError Bytes := do
  let phantasmaSeriesId ← requireRequiredInt "phantasma_series_id" phantasmaSeriesId
  let rom ← metadataBytes lower metadata (Str.ofString "rom")
  let id ← VMNamedDynamicVariable.make STANDARD_META_ID .INT256 (.int phantasmaSeriesId)
  let mode ← VMNamedDynamicVariable.make (Str.ofString "mode") .INT8 (.int (if rom.isEmpty then 0 else 1))
  let rom ← VMNamedDynamicVariable.make (Str.ofString "rom") .BYTES (.bytes rom)
  let fields ← metadataDynamicFieldsForSchema lower schema standardSeriesFields metadata
  writeDynamicStructWithSchema conv ⟨[id, mode, rom] ++ fields⟩ schema

def buildNftRom (schema : VMStructSchema) (phantasmaNftId : Data) (metadata : Metadata) :
    Except PyError Bytes := do
  let phantasmaNftId ← requireRequiredInt "phantasma_nft_id" phantasmaNftId
  let rom ← metadataBytes lower metadata (Str.ofString "rom")
  let id ← VMNamedDynamicVariable.make STANDARD_META_ID .INT256 (.int phantasmaNftId)
  let rom ← VMNamedDynamicVariable.make (Str.ofString "rom") .BYTES (.bytes rom)
  let fields ← metadataDynamicFieldsForSchema lower schema standardNftFields metadata
  writeDynamicStructWithSchema conv ⟨[id, rom] ++ fields⟩ schema

/-- `_is_phantasma_nft_reserved_field` -/
def isPhantasmaNftReservedField (name : Str) : Bool :=
  lower name = lower STANDARD_META_ID || lower name = Str.ofString "rom"

def buildPhantasmaNftPublicMintSchema (nftRomSchema : VMStructSchema) : VMStructSchema :=
  ⟨nftRomSchema.fields.filter fun field => !isPhantasmaNftReservedField lower field.name.value, nftRomSchema.flags⟩

/-- The loop over the metadata of a public mint. -/
def refuseReserved (metadata : Metadata) : Except PyError Unit :=
  metadata.forM fun entry =>
    if isPhantasmaNftReservedField lower entry.1 then
      .error (metadataError entry.1 "is reserved for chain-owned deterministic mint fields")
    else .ok ()

def buildPhantasmaNftRom (nftRomSchema : VMStructSchema) (metadata : Metadata) : Except PyError Bytes := do
  if metadata.isEmpty then
    throw (builderError "metadata is required")
  else
    refuseReserved lower metadata
    let publicSchema := buildPhantasmaNftPublicMintSchema lower nftRomSchema
    let fields ← metadataDynamicFieldsForSchema lower publicSchema [] metadata
    writeDynamicStructWithSchema conv ⟨fields⟩ publicSchema

end Builders

end PhantasmaPy.Carbon
