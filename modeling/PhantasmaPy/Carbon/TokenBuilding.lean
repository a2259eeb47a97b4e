import PhantasmaPy.Base64
import PhantasmaPy.Carbon.Metadata

/-! # Token builders

The metadata and the description of a new token, with the checks of the symbol and of the icon.
-/

namespace PhantasmaPy.Carbon

open Wire

/-! ## Icons -/

/-- What `IGNORECASE` takes for a small ASCII letter: also the capital, and for `i` and `s` three more. -/
def foldCase (c : CodePoint) : CodePoint :=
  if 65 ≤ c ∧ c ≤ 90 then c + 32
  else if c = 0x130 ∨ c = 0x131 then 105
  else if c = 0x17F then 115
  else c

/-- What follows the literal, in any case, at the start of the text. -/
def matchLiteral : Str → Str → Option Str
  | [], text => some text
  | _ :: _, [] => none
  | letter :: literal, c :: text => if foldCase c = letter then matchLiteral literal text else none

/-- The literals that the pattern `^data:image/(png|jpeg|webp);base64,` stands for. -/
def iconHeads : List Str :=
  [Str.ofString "data:image/png;base64,", Str.ofString "data:image/jpeg;base64,",
    Str.ofString "data:image/webp;base64,"]

/-- `_validate_icon_data_uri`.  `validBase64` tells whether the payload decodes: `isBase64` does as the library, and what is
proved holds of any other check in its place. -/
def validateIconDataUri (validBase64 : Str → Bool) (value : Str) : Except PyError Unit :=
  if iconHeads.all fun head => (matchLiteral head value).isNone then
    .error (builderError "token icon must be a png/jpeg/webp data URI")
  else
    -- `value.split(",", 1)[1]`
    let payload := (value.dropWhile fun c => c ≠ 44).drop 1
    if payload.isEmpty then
      .error (builderError "token icon data URI must include a non-empty base64 payload")
    else if validBase64 payload then .ok ()
    else .error (builderError "token icon data URI contains invalid base64")

/-! ## Metadata -/

/-- A `dict[str, str]`: its items, in order, with different keys. -/
structure TextFields where
  items : List (Str × Str)
  distinct : (items.map Prod.fst).Nodup

def TextFields.get (self : TextFields) (name : Str) : Option Str := self.items.lookup name

def requiredMetadata : List Str :=
  [Str.ofString "name", Str.ofString "icon", Str.ofString "url", Str.ofString "description"]

/-- One turn of the loop over the required fields. -/
def requireField (fields : TextFields) (fieldName : Str) : Except PyError Unit :=
  if (strip ((fields.get fieldName).getD [])).isEmpty then
    .error (.builderError (Str.ofString "token metadata is missing required field: " ++ fieldName))
  else .ok ()

def buildTokenMetadata (conv : Conversions) (validBase64 : Str → Bool) (fields : TextFields) :
    Except PyError Bytes :=
  if fields.items.length < requiredMetadata.length then
    .error (builderError "token metadata is mandatory")
  else do
    requiredMetadata.forM (requireField fields)
    -- the icon is there, or the loop would have refused
    validateIconDataUri validBase64 ((fields.get (Str.ofString "icon")).getD [])
    let named ← fields.items.mapM fun item => VMNamedDynamicVariable.make item.1 .STRING (.str item.2)
    serialize (VMDynamicStruct.writeCarbon conv ⟨named⟩)

/-! ## Description -/

/-- `re.fullmatch(r"[A-Z]+", symbol)` -/
def isSymbol (symbol : Str) : Bool := !symbol.isEmpty && symbol.all fun c => 65 ≤ c ∧ c ≤ 90

def checkTokenSymbol (symbol : Str) : Except PyError Unit :=
  if symbol.isEmpty then .error (builderError "token symbol must not be empty")
  else do
    let raw ← encodeText symbol
    if raw.length > 255 then .error (builderError "token symbol exceeds 255 UTF-8 bytes")
    else if isSymbol symbol then .ok ()
    else .error (builderError "token symbol must contain only uppercase ASCII letters A-Z")

/-- The flags that the branches of `build_token_info` end with: 1 is `BIG_FUNGIBLE` and 2 `NON_FUNGIBLE`. -/
def tokenFlags (isNft : Bool) (maxSupply : IntX) (tokenSchemas : Bytes) : Except PyError Int :=
  if isNft then
    if !maxSupply.is8ByteSafe then .error (builderError "NFT maximum supply must fit into Int64")
    else if tokenSchemas.isEmpty then .error (builderError "token schemas are required for NFTs")
    else .ok 2
  else if !maxSupply.is8ByteSafe then .ok 1
  else .ok 0

def buildTokenInfo (symbol : Str) (maxSupply : IntX) (isNft : Bool) (decimals : Int) (owner : Bytes32)
    (metadata : Option Bytes) (tokenSchemas : Bytes := []) : Except PyError TokenInfo := do
  checkTokenSymbol symbol
  match metadata with
  | none => .error (builderError "metadata is required for all tokens")
  | some metadata =>
    let flags ← tokenFlags isNft maxSupply tokenSchemas
    let symbol ← SmallString.new symbol
    return { maxSupply, flags, decimals, owner, symbol, metadata, tokenSchemas }

/-! ## Names of types -/

/-- `ARRAY` is another name of `ARRAY_DYNAMIC`. -/
def VM_TYPE_CANONICAL_NAMES : List (VMType × Str) :=
  [(.DYNAMIC, "Dynamic"), (.ARRAY_DYNAMIC, "Array"), (.BYTES, "Bytes"), (.STRUCT, "Struct"), (.INT8, "Int8"),
    (.INT16, "Int16"), (.INT32, "Int32"), (.INT64, "Int64"), (.INT256, "Int256"), (.BYTES16, "Bytes16"),
    (.BYTES32, "Bytes32"), (.BYTES64, "Bytes64"), (.STRING, "String"), (.ARRAY_BYTES, "Array_Bytes"),
    (.ARRAY_STRUCT, "Array_Struct"), (.ARRAY_INT8, "Array_Int8"), (.ARRAY_INT16, "Array_Int16"),
    (.ARRAY_INT32, "Array_Int32"), (.ARRAY_INT64, "Array_Int64"), (.ARRAY_INT256, "Array_Int256"),
    (.ARRAY_BYTES16, "Array_Bytes16"), (.ARRAY_BYTES32, "Array_Bytes32"), (.ARRAY_BYTES64, "Array_Bytes64"),
    (.ARRAY_STRING, "Array_String")].map fun entry => (entry.1, Str.ofString entry.2)

def vmTypeName (vmType : VMType) : Except PyError Str :=
  match VM_TYPE_CANONICAL_NAMES.lookup vmType with
  | some name => .ok name
  | none => .error (.builderError (Str.ofString s!"unknown VM type: {vmType.toByte}"))

/-! ## Standard schemas and series -/

/-- A list of standard fields as those of a schema. -/
def standardSchemaFields (fields : List TokenSchemaField) : Except PyError (List VMNamedVariableSchema) :=
  fields.mapM fun field => VMNamedVariableSchema.make field.name field.type

def prepareStandardTokenSchemas (sharedMetadata : Bool) : Except PyError TokenSchemas := do
  let seriesFields ← standardSchemaFields standardSeriesFields
  let metadataFields ← standardSchemaFields standardMetadataFields
  let romFields ← standardSchemaFields standardNftFields
  -- the fields of the metadata belong to the series or to each instance
  let (seriesFields, romFields) :=
    if sharedMetadata then (seriesFields ++ metadataFields, romFields) else (seriesFields, romFields ++ metadataFields)
  return { seriesMetadata := ⟨seriesFields, 0⟩, rom := ⟨romFields, 0⟩, ram := ⟨[], 1⟩ }

def buildAndSerializeTokenSchemas (schemas : Option TokenSchemas) : Except PyError Bytes := do
  match schemas with
  | some schemas => serialize schemas.writeCarbon
  | none =>
    let schemas ← prepareStandardTokenSchemas false
    serialize schemas.writeCarbon

def buildSeriesInfo (conv : Conversions) (lower : Str → Str) (phantasmaSeriesId : Data) (maxMint maxSupply : Int)
    (owner : Bytes32) : Except PyError SeriesInfo := do
  let phantasmaSeriesId ← requireRequiredInt "phantasma_series_id" phantasmaSeriesId
  let schemas ← prepareStandardTokenSchemas false
  let metadata ← buildTokenSeriesMetadata conv lower schemas.seriesMetadata (.int phantasmaSeriesId) []
  return { maxMint, maxSupply, owner, metadata }

end PhantasmaPy.Carbon
