import PhantasmaPy.Carbon.MetadataRoundTrip
import PhantasmaPy.Carbon.ReadData

/-! # Kept metadata

What a rom or a series metadata is to give back: the id, the bytes of the rom, and under every other name of
the schema the supplied value.  The builders coerce and write without looking at every class and type, so what
they are handed has to fit.
-/

namespace PhantasmaPy.Carbon

open Wire CarbonWriter CarbonReader

/-- The names of the fields that the builders bring, besides the id. -/
def romKey : Str := Str.ofString "rom"

def modeKey : Str := Str.ofString "mode"

theorem romKey_ne_id : romKey ≠ STANDARD_META_ID := by simp [romKey, STANDARD_META_ID]

theorem modeKey_ne_id : modeKey ≠ STANDARD_META_ID := by simp [modeKey, STANDARD_META_ID]

theorem modeKey_ne_rom : modeKey ≠ romKey := by simp [modeKey, romKey]

/-- The bytes that are supplied for the rom; none are supplied as no bytes. -/
def SuppliedRom (metadata : Metadata) (raw : Bytes) : Prop :=
  match metadata.lookup romKey with
  | none => raw = []
  | some supplied => Keeps .BYTES none supplied (.bytes raw)

/-- The data that is read back for a field of the schema stands for what was supplied under its name. -/
def FieldKept (id : Int) (metadata : Metadata) (field : VMNamedVariableSchema) (data : Data) : Prop :=
  if field.name.value = STANDARD_META_ID then data = .int (signedAt 256 id)
  else if field.name.value = romKey then ∃ raw, SuppliedRom metadata raw ∧ data.asBytes = .bytes raw
  else ∀ supplied, metadata.lookup field.name.value = some supplied →
    Keeps field.schema.type field.schema.structDef supplied data

/-- The reader takes all bytes, and every field of the schema stands for what was supplied. -/
def MetadataKept (schema : VMStructSchema) (id : Int) (metadata : Metadata) (raw : Bytes) : Prop :=
  ∃ struct, (VMDynamicStruct.readWithSchema schema).run raw = .ok (struct, []) ∧
    ∀ field ∈ schema.fields, ∃ data,
      struct.get field.name.value = some ⟨field.schema.type, data⟩ ∧ FieldKept id metadata field data

/-! ## Conditions -/

/-- The writer makes nothing else of what is ready-made in a supplied value, in front of a number of bytes.  What the
    value is coerced to counts only for the bytes behind its parts. -/
inductive Fits (conv : Conversions) : Nat → VMType → Option VMStructSchema → Data → Data → Prop
  | leaf {after : Nat} {vmType : VMType} {schema : Option VMStructSchema} {value coerced : Data}
      (leaf : vmType.isNested = false) : Fits conv after vmType schema value coerced
  | ready {after : Nat} {vmType : VMType} {schema : Option VMStructSchema} {value coerced : Data}
      (unchanged : Unchanged conv after vmType schema (value.canonical vmType)) :
      Fits conv after vmType schema value coerced
  | fields {after : Nat} {schema : VMStructSchema} {value : Data} {entries : Metadata} {struct : VMDynamicStruct}
      (given : value.entries? = some entries)
      (each : ∀ (i : Nat) (field : VMNamedVariableSchema) (supplied coerced : Data), schema.fields[i]? = some field →
        entries.lookup field.name.value = some supplied →
        struct.get field.name.value = some ⟨field.schema.type, coerced⟩ →
        Fits conv (behind conv schema struct.fields i + after) field.schema.type field.schema.structDef supplied
          coerced) :
      Fits conv after .STRUCT (some schema) value (.struct struct)
  | structs {after : Nat} {schema own : VMStructSchema} {items : List Data} {structs : List VMDynamicStruct}
      (room : structs.length ≤ (Put.each (elementWriter conv (some schema)) structs).size + after)
      (each : ∀ (i : Nat) (item : Data) (struct : VMDynamicStruct), items[i]? = some item → structs[i]? = some struct →
        Fits conv ((Put.each (elementWriter conv (some schema)) (structs.drop (i + 1))).size + after)
          .STRUCT (some schema) item (.struct struct)) :
      Fits conv after .ARRAY_STRUCT (some schema) (.list items) (.structArray ⟨own, structs.map .struct⟩)

/-- The supplied value fits in front of a number of bytes. -/
def SuppliedFits (conv : Conversions) (lower : Str → Str) (metadata : Metadata) (after : Nat)
    (field : VMNamedVariableSchema) : Prop :=
  ∀ supplied coerced, metadata.lookup field.name.value = some supplied →
    coerceMetadataValue lower field.name.value supplied field.schema = .ok coerced →
    Fits conv after field.schema.type field.schema.structDef supplied (coerced.canonical field.schema.type)

/-- The schema declares the type of the id, or an integer type whose default is the id. -/
def IdFits (id : Int) (field : VMNamedVariableSchema) : Prop :=
  field.schema.type = .INT256 ∨ (id = 0 ∧ field.schema.type.intWidth.isSome = true)

/-- The schema declares the type of the rom, or bytes of a fixed size whose default is the rom. -/
def RomFits (metadata : Metadata) (field : VMNamedVariableSchema) : Prop :=
  field.schema.type = .BYTES ∨
    ∃ size, field.schema.type.fixedSize = some size ∧ SuppliedRom metadata (List.replicate size 0)

/-- The mode that is written: whether there is a rom, or a default at another type. -/
def modeData (raw : Bytes) (field : VMNamedVariableSchema) : Data :=
  if field.schema.type = .INT8 then .int (if raw.isEmpty then 0 else 1)
  else writtenDefault field.schema.type field.schema.structDef

/-- A supplied mode is the one that is written. -/
def ModeFits (metadata : Metadata) (field : VMNamedVariableSchema) : Prop :=
  ∀ supplied raw, metadata.lookup modeKey = some supplied → SuppliedRom metadata raw →
    Keeps field.schema.type field.schema.structDef supplied (modeData raw field)

/-- The fields that the rom builder writes: its own and the coerced ones. -/
def nftFields (lower : Str → Str) (schema : VMStructSchema) (id : Int) (metadata : Metadata) :
    Except PyError (List VMNamedDynamicVariable) := do
  let rom ← metadataBytes lower metadata romKey
  let id ← VMNamedDynamicVariable.make STANDARD_META_ID .INT256 (.int id)
  let rom ← VMNamedDynamicVariable.make romKey .BYTES (.bytes rom)
  let fields ← metadataDynamicFieldsForSchema lower schema standardNftFields metadata
  return [id, rom] ++ fields

/-- The fields that the series builder writes. -/
def seriesFields (lower : Str → Str) (schema : VMStructSchema) (id : Int) (metadata : Metadata) :
    Except PyError (List VMNamedDynamicVariable) := do
  let rom ← metadataBytes lower metadata romKey
  let id ← VMNamedDynamicVariable.make STANDARD_META_ID .INT256 (.int id)
  let mode ← VMNamedDynamicVariable.make modeKey .INT8 (.int (if rom.isEmpty then 0 else 1))
  let rom ← VMNamedDynamicVariable.make romKey .BYTES (.bytes rom)
  let fields ← metadataDynamicFieldsForSchema lower schema standardSeriesFields metadata
  return [id, mode, rom] ++ fields

/-- What the rom builder needs of a field of the schema, in front of a number of bytes. -/
def NftFieldFits (conv : Conversions) (lower : Str → Str) (id : Int) (metadata : Metadata) (after : Nat)
    (field : VMNamedVariableSchema) : Prop :=
  if field.name.value = STANDARD_META_ID then IdFits id field
  else if field.name.value = romKey then RomFits metadata field
  else SuppliedFits conv lower metadata after field

def SeriesFieldFits (conv : Conversions) (lower : Str → Str) (id : Int) (metadata : Metadata) (after : Nat)
    (field : VMNamedVariableSchema) : Prop :=
  if field.name.value = STANDARD_META_ID then IdFits id field
  else if field.name.value = romKey then RomFits metadata field
  else if field.name.value = modeKey then ModeFits metadata field
  else SuppliedFits conv lower metadata after field

/-- Every field of the schema fits in its place in the rom. -/
def NftFits (conv : Conversions) (lower : Str → Str) (schema : VMStructSchema) (id : Int) (metadata : Metadata) :
    Prop :=
  ∀ fields, nftFields lower schema id metadata = .ok fields →
    ∀ (i : Nat) (field : VMNamedVariableSchema), schema.fields[i]? = some field →
      NftFieldFits conv lower id metadata (behind conv schema fields i) field

/-- Every field of the schema fits in its place in the series metadata. -/
def SeriesFits (conv : Conversions) (lower : Str → Str) (schema : VMStructSchema) (id : Int) (metadata : Metadata) :
    Prop :=
  ∀ fields, seriesFields lower schema id metadata = .ok fields →
    ∀ (i : Nat) (field : VMNamedVariableSchema), schema.fields[i]? = some field →
      SeriesFieldFits conv lower id metadata (behind conv schema fields i) field

/-! ## Values that fit -/

section Values

variable {conv : Conversions} {after : Nat}

theorem unchanged_boundArray {schema own : VMStructSchema} {structs : List VMDynamicStruct}
    (unchanged : Unchanged conv after .ARRAY_STRUCT (some schema) (.structArray ⟨own, structs.map .struct⟩)) :
    structs.length ≤ (Put.each (elementWriter conv (some schema)) structs).size + after ∧
      ∀ (i : Nat) (struct : VMDynamicStruct), structs[i]? = some struct →
        Unchanged conv ((Put.each (elementWriter conv (some schema)) (structs.drop (i + 1))).size + after)
          .STRUCT (some schema) (.struct struct) := by
  generalize spelled : Data.structArray ⟨own, structs.map .struct⟩ = data at unchanged
  cases unchanged with
  | leaf leafData => exact leafData.elim
  | boundArray room each =>
    obtain ⟨rfl, same⟩ := VMStructArray.mk.inj (Data.structArray.inj spelled)
    obtain rfl := List.map_injective_iff.mpr struct_injective same
    exact ⟨room, each⟩

/-- A value that is given by its entries is no struct that the writer could look into. -/
theorem not_unchanged_entries {schema : VMStructSchema} {value : Data} {entries : Metadata}
    (given : value.entries? = some entries) :
    ¬ Unchanged conv after .STRUCT (some schema) (value.canonical .STRUCT) := by
  intro unchanged
  generalize spelled : value.canonical .STRUCT = data at unchanged
  cases unchanged with
  | leaf leafData => exact leafData.elim
  | boundStruct => exact entries_canonical given _ spelled
  | repeated => exact entries_canonical given _ spelled

theorem not_unchanged_list {schema : VMStructSchema} {items : List Data} :
    ¬ Unchanged conv after .ARRAY_STRUCT (some schema) ((Data.list items).canonical .ARRAY_STRUCT) := by
  intro unchanged
  generalize spelled : (Data.list items).canonical .ARRAY_STRUCT = data at unchanged
  cases unchanged with
  | leaf leafData => exact leafData.elim
  | boundArray => cases spelled

theorem Fits.ready_inv {vmType : VMType} {schema : Option VMStructSchema} {value coerced : Data}
    (ready : Ready vmType value) (fits : Fits conv after vmType schema value coerced) :
    Unchanged conv after vmType schema (value.canonical vmType) := by
  cases fits with
  | leaf leaf => cases ready <;> cases leaf
  | ready unchanged => exact unchanged
  | fields given =>
    cases ready
    cases given
  | structs => cases ready

/-- A value fits if the writer makes nothing else of what it is coerced to. -/
theorem Coerces.fits_iff {vmType : VMType} {schema : Option VMStructSchema} {supplied data : Data}
    (coerces : Coerces vmType schema supplied data) : ∀ {after : Nat},
      Fits conv after vmType schema supplied data ↔ Unchanged conv after vmType schema data := by
  induction coerces with
  | leaf leafData => exact fun {_} => ⟨fun _ => .leaf leafData, fun _ => .leaf leafData.isNested⟩
  | ready ready => exact fun {_} => ⟨fun fits => fits.ready_inv ready, fun unchanged => .ready unchanged⟩
  | @fields schema value entries supplied data given distinct found each ih =>
    intro after
    have first (declaration : VMNamedVariableSchema) (declared : declaration ∈ schema.fields) :=
      @get_map_boundField _ data distinct declaration declared
    have noExtras := extras_map_boundField schema data
    constructor
    · intro fits
      cases fits with
      | leaf leaf => cases leaf
      | ready unchanged => exact absurd unchanged (not_unchanged_entries given)
      | fields again each =>
        obtain rfl := Option.some.inj (given.symm.trans again)
        refine .boundStruct data distinct first (fun declaration declared => ?_)
          (fun nonempty => absurd noExtras nonempty) (fun i declaration at_i => ?_) fun i field at_i => ?_
        · rw [List.filter_map, List.length_map]
          exact congrArg List.length (filter_distinct distinct declared)
        · have declared := List.mem_of_getElem? at_i
          have fits := each i declaration _ _ at_i (found declaration declared) (first declaration declared)
          rw [← Nat.add_assoc]
          exact (ih declaration declared).mp fits
        · rw [noExtras] at at_i
          cases at_i
    · intro unchanged
      refine .fields given fun i field value coerced at_i looked again => ?_
      have member := List.mem_of_getElem? at_i
      obtain rfl := Option.some.inj ((found field member).symm.trans looked)
      obtain rfl := (VMDynamicVariable.mk.inj (Option.some.inj ((first field member).symm.trans again))).2
      cases unchanged with
      | leaf leafData => exact leafData.elim
      | repeated repeated => exact absurd distinct repeated
      | boundStruct values _ selected _ _ each _ =>
        have same := (VMDynamicVariable.mk.inj (Option.some.inj ((first field member).symm.trans
          (selected field member)))).2
        have part := each i field at_i
        rw [← same, ← Nat.add_assoc] at part
        exact (ih field member).mpr part
  | @structs schema pairs each ih =>
    intro after
    have at_index {i : Nat} {pair : Data × VMDynamicStruct} (at_i : pairs[i]? = some pair) :
        (pairs.map Prod.fst)[i]? = some pair.1 ∧ (pairs.map Prod.snd)[i]? = some pair.2 := by
      simp [at_i]
    constructor
    · intro fits
      generalize spelled : Data.structArray ⟨schema, (pairs.map Prod.snd).map .struct⟩ = coerced at fits
      cases fits with
      | leaf leaf => cases leaf
      | ready unchanged => exact absurd unchanged not_unchanged_list
      | structs room each =>
        obtain ⟨rfl, same⟩ := VMStructArray.mk.inj (Data.structArray.inj spelled)
        obtain rfl := List.map_injective_iff.mpr struct_injective same
        refine .boundArray room fun i struct at_i => ?_
        rw [List.getElem?_map] at at_i
        obtain ⟨pair, inside, rfl⟩ := Option.map_eq_some_iff.mp at_i
        obtain ⟨first, second⟩ := at_index inside
        exact (ih pair (List.mem_of_getElem? inside)).mp (each i pair.1 pair.2 first second)
    · intro unchanged
      obtain ⟨room, each⟩ := unchanged_boundArray unchanged
      refine .structs room fun i item struct inItems inStructs => ?_
      rw [List.getElem?_map] at inItems
      obtain ⟨pair, inside, rfl⟩ := Option.map_eq_some_iff.mp inItems
      obtain rfl := Option.some.inj (inStructs.symm.trans (at_index inside).2)
      exact (ih pair (List.mem_of_getElem? inside)).mpr (each i pair.2 inStructs)

end Values

/-! ## The supplied rom -/

/-- Bytes stand for themselves and for their hex text. -/
theorem Keeps.bytes_cases {schema : Option VMStructSchema} {supplied : Data} {raw : Bytes}
    (keeps : Keeps .BYTES schema supplied (.bytes raw)) :
    supplied.asBytes = .bytes raw ∨ ∃ text, supplied = .str text ∧ decodeFlexibleHex (strip text) = .ok raw := by
  generalize spelled : Data.bytes raw = data at keeps
  cases keeps with
  | same =>
    left
    cases supplied with
    | bytes value => rfl
    | fixed size value => rfl
    | structArray value =>
      obtain ⟨schema, structs⟩ := value
      cases spelled
    | _ => cases spelled
  | int isInt => cases isInt
  | hex decoded =>
    cases spelled
    exact .inr ⟨_, rfl, decoded⟩
  | fixedHex isFixed => cases isFixed
  | items array => cases array

theorem Keeps.bytes_unique {schema : Option VMStructSchema} {supplied : Data} {raw other : Bytes}
    (left : Keeps .BYTES schema supplied (.bytes raw)) (right : Keeps .BYTES schema supplied (.bytes other)) :
    raw = other := by
  rcases left.bytes_cases with spelled | ⟨text, rfl, decoded⟩
  · rcases right.bytes_cases with same | ⟨text, rfl, -⟩
    · exact Data.bytes.inj (spelled.symm.trans same)
    · cases spelled
  · rcases right.bytes_cases with same | ⟨again, same, decodedAgain⟩
    · cases same
    · obtain rfl := Data.str.inj same
      exact Except.ok.inj (decoded.symm.trans decodedAgain)

theorem SuppliedRom.unique {metadata : Metadata} {raw other : Bytes} (left : SuppliedRom metadata raw)
    (right : SuppliedRom metadata other) : raw = other := by
  unfold SuppliedRom at left right
  cases lookup : metadata.lookup romKey with
  | none =>
    rw [lookup] at left right
    exact left.trans right.symm
  | some supplied =>
    rw [lookup] at left right
    exact left.bytes_unique right

theorem metadataBytes_supplied {lower : Str → Str} {metadata : Metadata} {raw : Bytes}
    (read : metadataBytes lower metadata romKey = .ok raw) : SuppliedRom metadata raw := by
  unfold SuppliedRom
  obtain ⟨found, looked, taken⟩ := except_bind_eq_ok.mp read
  unfold findMetadataField at looked
  cases lookup : metadata.lookup romKey with
  | some supplied =>
    rw [lookup] at looked
    obtain rfl := Except.ok.inj looked
    exact ensureMetadataBytes_keeps none taken
  | none =>
    rw [lookup] at looked
    simp only at looked
    split at looked
    next => cases looked
    next =>
      obtain rfl := Except.ok.inj looked
      exact (Except.ok.inj taken).symm

/-! ## The fields of the builders -/

theorem hasDefaultField_nft {name : Str} :
    hasDefaultField standardNftFields name = true ↔ name = STANDARD_META_ID ∨ name = romKey := by
  simp only [hasDefaultField, standardNftFields, standardFields, List.map_cons, List.map_nil, List.any_cons,
    List.any_nil, Bool.or_false, Bool.or_eq_true, decide_eq_true_eq]
  exact or_congr eq_comm eq_comm

theorem hasDefaultField_series {name : Str} : hasDefaultField standardSeriesFields name = true ↔
    name = STANDARD_META_ID ∨ name = modeKey ∨ name = romKey := by
  simp only [hasDefaultField, standardSeriesFields, standardFields, List.map_cons, List.map_nil, List.any_cons,
    List.any_nil, Bool.or_false, Bool.or_eq_true, decide_eq_true_eq]
  exact or_congr eq_comm (or_congr eq_comm eq_comm)

theorem ne_of_default {defaults : List TokenSchemaField} {name other : Str}
    (notDefault : hasDefaultField defaults name = false) (isDefault : hasDefaultField defaults other = true) :
    name ≠ other := by
  rintro rfl
  cases notDefault.symm.trans isDefault

/-- A field under the name with the type and the value. -/
structure VMNamedDynamicVariable.Is (field : VMNamedDynamicVariable) (name : Str) (vmType : VMType)
    (value : Data) : Prop where
  name : field.name.value = name
  value : field.value = ⟨vmType, value⟩

theorem make_is {name : Str} {vmType : VMType} {value : Data} {field : VMNamedDynamicVariable}
    (made : VMNamedDynamicVariable.make name vmType value = .ok field) : field.Is name vmType value := by
  obtain ⟨small, built, made⟩ := except_bind_eq_ok.mp made
  obtain rfl := Except.ok.inj made
  exact ⟨SmallString.new_eq_ok built, rfl⟩

def metaIdName : SmallString := ⟨STANDARD_META_ID, [95, 105], by decide +kernel, by decide⟩

def romName : SmallString := ⟨romKey, [114, 111, 109], by decide +kernel, by decide⟩

section Own

variable (conv : Conversions)

variable {conv} {field : VMNamedDynamicVariable} {name : Str} {vmType : VMType} {value : Data}

theorem VMNamedDynamicVariable.Is.writtenInRange (is : field.Is name vmType value)
    (leaf : vmType.isNested = false)
    (inRange : ∀ out, (writeLeaf conv vmType value).Emits () out →
      LeafData vmType (value.canonical vmType)) : WrittenInRange conv field := by
  obtain ⟨name', type, data⟩ := field
  obtain ⟨-, same⟩ := is
  obtain ⟨rfl, rfl⟩ := VMDynamicVariable.mk.inj same
  exact ⟨leaf, inRange⟩

theorem id_writtenInRange {id : Int} (inRange : Signed 256 id ∨ Unsigned 256 id)
    (is : field.Is name .INT256 (.int id)) : WrittenInRange conv field :=
  is.writtenInRange rfl fun _ _ => ⟨signedAt 256 id, signedAt_signed (by decide) inRange, rfl⟩

theorem mode_writtenInRange {full : Bool} (is : field.Is name .INT8 (.int (if full then 0 else 1))) :
    WrittenInRange conv field :=
  is.writtenInRange rfl fun _ _ => ⟨_, by cases full <;> decide, rfl⟩

theorem rom_writtenInRange {raw : Bytes} (is : field.Is name .BYTES (.bytes raw)) :
    WrittenInRange conv field := by
  refine is.writtenInRange rfl fun out emits => ⟨raw, ?_, rfl⟩
  rw [writeLeaf_bytes] at emits
  exact (emits_writeByteArray.mp emits).1

/-- A field of a builder is read back where the schema declares its type. -/
theorem VMNamedDynamicVariable.Is.readBack (is : field.Is name vmType value) (declared : VMType)
    (structDef : Option VMStructSchema) : ownData field declared structDef =
      if vmType = declared then value.canonical declared else writtenDefault declared structDef := by
  unfold ownData
  rw [is.value]

theorem signedAt_eq_zero {width : Nat} {value : Int} : signedAt width value = 0 ↔ value = 0 := by
  have positive : (0 : Int) < 2 ^ (width - 1) := by positivity
  unfold signedAt
  split <;> omega

theorem writtenDefault_int {declared : VMType} (isInt : declared.intWidth.isSome = true)
    (structDef : Option VMStructSchema) : writtenDefault declared structDef = .int 0 := by
  cases declared <;> cases isInt <;> cases structDef <;> rfl

theorem writtenDefault_ne_int {declared : VMType} (isInt : declared.intWidth.isSome ≠ true)
    (structDef : Option VMStructSchema) (value : Int) : writtenDefault declared structDef ≠ .int value := by
  intro same
  cases declared with
  | INT8 | INT16 | INT32 | INT64 | INT256 => exact isInt rfl
  | _ => cases structDef <;> cases same

/-- The id is read back from a field of its type, and the id 0 from any integer field. -/
theorem idData_iff {id : Int} {declared : VMType} {structDef : Option VMStructSchema}
    (is : field.Is name .INT256 (.int id)) :
    ownData field declared structDef = .int (signedAt 256 id) ↔
      declared = .INT256 ∨ (id = 0 ∧ declared.intWidth.isSome = true) := by
  rw [is.readBack]
  by_cases same : VMType.INT256 = declared
  · subst same
    simp only [if_true, true_or, iff_true]
    rfl
  · rw [if_neg same]
    by_cases isInt : declared.intWidth.isSome = true
    · rw [writtenDefault_int isInt, Data.int.injEq, eq_comm, signedAt_eq_zero]
      simp [isInt, Ne.symm same]
    · have different := writtenDefault_ne_int isInt structDef (signedAt 256 id)
      simp [isInt, Ne.symm same, different]

theorem writtenDefault_fixed {declared : VMType} {size : Nat} (isFixed : declared.fixedSize = some size)
    (structDef : Option VMStructSchema) :
    (writtenDefault declared structDef).asBytes = .bytes (List.replicate size 0) := by
  cases declared <;> cases isFixed <;> cases structDef <;> rfl

theorem writtenDefault_notFixed {declared : VMType} (notFixed : declared.fixedSize = none)
    (notBytes : VMType.BYTES ≠ declared) (structDef : Option VMStructSchema) (raw : Bytes) :
    (writtenDefault declared structDef).asBytes ≠ .bytes raw := by
  intro same
  cases declared with
  | BYTES => exact notBytes rfl
  | BYTES16 | BYTES32 | BYTES64 => cases notFixed
  | _ => cases structDef <;> cases same

/-- The rom is read back from a field of its type, and zeros from a field of their size. -/
theorem romData_iff {raw : Bytes} {declared : VMType} {structDef : Option VMStructSchema}
    (is : field.Is name .BYTES (.bytes raw)) :
    (ownData field declared structDef).asBytes = .bytes raw ↔
      declared = .BYTES ∨ ∃ size, declared.fixedSize = some size ∧ raw = List.replicate size 0 := by
  rw [is.readBack]
  by_cases same : VMType.BYTES = declared
  · subst same
    simp only [if_true, true_or, iff_true]
    rfl
  · rw [if_neg same]
    cases isFixed : declared.fixedSize with
    | some size =>
      rw [writtenDefault_fixed isFixed, Data.bytes.injEq, eq_comm]
      simp [Ne.symm same]
    | none =>
      have different := writtenDefault_notFixed isFixed same structDef raw
      simp [Ne.symm same, different]

variable {idField modeField romField : VMNamedDynamicVariable} {id : Int} {full : Bool} {raw : Bytes}

theorem nft_ownFields (inRange : Signed 256 id ∨ Unsigned 256 id)
    (isId : idField.Is STANDARD_META_ID .INT256 (.int id)) (isRom : romField.Is romKey .BYTES (.bytes raw)) :
    OwnFields conv [idField, romField] standardNftFields where
  distinct := by
    rw [DistinctNames, List.map_cons, List.map_singleton, isId.name, isRom.name]
    simp [romKey_ne_id.symm]
  names name := by
    rw [hasDefaultField_nft]
    simp [isId.name, isRom.name, eq_comm]
  written := by
    rw [List.forall_mem_cons, List.forall_mem_singleton]
    exact ⟨id_writtenInRange inRange isId, rom_writtenInRange isRom⟩

theorem series_ownFields (inRange : Signed 256 id ∨ Unsigned 256 id)
    (isId : idField.Is STANDARD_META_ID .INT256 (.int id))
    (isMode : modeField.Is modeKey .INT8 (.int (if full then 0 else 1)))
    (isRom : romField.Is romKey .BYTES (.bytes raw)) :
    OwnFields conv [idField, modeField, romField] standardSeriesFields where
  distinct := by
    rw [DistinctNames, List.map_cons, List.map_cons, List.map_singleton, isId.name, isMode.name, isRom.name]
    simp [romKey_ne_id.symm, modeKey_ne_id.symm, modeKey_ne_rom]
  names name := by
    rw [hasDefaultField_series]
    simp [isId.name, isMode.name, isRom.name, eq_comm]
  written := by
    rw [List.forall_mem_cons, List.forall_mem_cons, List.forall_mem_singleton]
    exact ⟨id_writtenInRange inRange isId, mode_writtenInRange isMode, rom_writtenInRange isRom⟩

/-! ## Fields that are kept -/

variable {lower : Str → Str} {metadata : Metadata} {schema : VMStructSchema} {own out : List VMNamedDynamicVariable}
  {defaults : List TokenSchemaField}

/-- What a supplied value is coerced to. -/
theorem OwnFields.coerced (owns : OwnFields conv own defaults) (orderly : schema.Orderly)
    (built : metadataDynamicFields lower defaults metadata schema.fields = .ok out) {ok : Bool} {image : Bytes}
    (emits : (writeWithSchema conv (fieldWriters conv (canonicalFields (own ++ out))) schema).Emits ok image)
    {schemaField : VMNamedVariableSchema} (member : schemaField ∈ schema.fields)
    (notDefault : hasDefaultField defaults schemaField.name.value = false) {supplied data : Data}
    (looked : metadata.lookup schemaField.name.value = some supplied)
    (step : coerceMetadataValue lower schemaField.name.value supplied schemaField.schema = .ok data) :
    ⟨schemaField.name, ⟨schemaField.schema.type, data⟩⟩ ∈ out ∧
      Coerces schemaField.schema.type schemaField.schema.structDef supplied
        (data.canonical schemaField.schema.type) := by
  obtain ⟨distinct, fieldsOrdered⟩ := VMStructSchema.orderly_iff.mp orderly
  rcases owns.field built member with ⟨_, _, _, isDefault⟩ | ⟨-, _, inside, again, other, found, made, rfl⟩
  · cases notDefault.symm.trans isDefault
  · obtain rfl := Option.some.inj (looked.symm.trans found)
    obtain rfl := Except.ok.inj (step.symm.trans made)
    have first := owns.get_own distinct built (List.mem_append_right own inside)
    obtain ⟨ok, raw, written⟩ := emits_each_declared emits member first
    rw [data.canonical_writeAs] at written
    exact ⟨inside, coerceMetadataValue_coerces conv lower schemaField.schema (fieldsOrdered _ member) step written⟩

/-- Under a name that has no default the supplied value is kept. -/
theorem fieldKept_supplied_iff
    (standard : hasDefaultField defaults STANDARD_META_ID = true ∧ hasDefaultField defaults romKey = true)
    {schemaField : VMNamedVariableSchema} (notDefault : hasDefaultField defaults schemaField.name.value = false)
    {data : Data} : FieldKept id metadata schemaField data ↔
      ∀ supplied, metadata.lookup schemaField.name.value = some supplied →
        Keeps schemaField.schema.type schemaField.schema.structDef supplied data := by
  unfold FieldKept
  rw [if_neg (ne_of_default notDefault standard.1), if_neg (ne_of_default notDefault standard.2)]

/-- What a builder needs of a field of the schema, in front of a number of bytes. -/
def OwnFits (conv : Conversions) (lower : Str → Str) (own : List VMNamedDynamicVariable)
    (defaults : List TokenSchemaField) (id : Int) (metadata : Metadata) (after : Nat)
    (schemaField : VMNamedVariableSchema) : Prop :=
  (∀ mine ∈ own, mine.name.value = schemaField.name.value →
    FieldKept id metadata schemaField (ownData mine schemaField.schema.type schemaField.schema.structDef)) ∧
  (hasDefaultField defaults schemaField.name.value = false → SuppliedFits conv lower metadata after schemaField)

/-- What is kept fits. -/
theorem OwnFields.fits_of_kept (owns : OwnFields conv own defaults)
    (standard : hasDefaultField defaults STANDARD_META_ID = true ∧ hasDefaultField defaults romKey = true)
    (orderly : schema.Orderly)
    (built : metadataDynamicFields lower defaults metadata schema.fields = .ok out) {ok : Bool} {image : Bytes}
    (emits : (writeWithSchema conv (fieldWriters conv (canonicalFields (own ++ out))) schema).Emits ok image)
    (kept : MetadataKept schema id metadata image) (i : Nat) (schemaField : VMNamedVariableSchema)
    (at_i : schema.fields[i]? = some schemaField) : OwnFits conv lower own defaults id metadata
      (behind conv schema (canonicalFields (own ++ out)) i) schemaField := by
  obtain ⟨distinct, fieldsOrdered⟩ := VMStructSchema.orderly_iff.mp orderly
  obtain ⟨struct, read, kept⟩ := kept
  -- what is read is typed, and what is kept of it was typed before
  have typed : ∀ field ∈ schema.fields, hasDefaultField defaults field.name.value = false → ∀ supplied data,
      metadata.lookup field.name.value = some supplied →
      coerceMetadataValue lower field.name.value supplied field.schema = .ok data →
      Typed field.schema.type field.schema.structDef (data.canonical field.schema.type) := by
    intro field member notDefault supplied data looked step
    obtain ⟨-, coerces⟩ := owns.coerced orderly built emits member notDefault looked step
    obtain ⟨readBack, found, fieldKept⟩ := kept field member
    obtain ⟨other, again, typed⟩ := readField_typed orderly read member
    obtain rfl := (VMDynamicVariable.mk.inj (Option.some.inj (found.symm.trans again))).2
    exact coerces.typed ((fieldKept_supplied_iff standard notDefault).mp fieldKept supplied looked) typed
  have becomes := (owns.run_iff distinct built emits typed).mp read
  obtain ⟨images, others, ⟨count, each⟩, -, same⟩ := becomes_boundStruct.mp becomes
  obtain rfl := struct_injective same
  have member := List.mem_of_getElem? at_i
  obtain ⟨image, image_i⟩ := exists_getElem? count at_i
  obtain ⟨data, found, fieldKept⟩ := kept schemaField member
  have again := get_bound distinct count at_i image_i
  obtain rfl := (VMDynamicVariable.mk.inj (Option.some.inj (found.symm.trans (again _)))).2
  refine ⟨fun mine inside named => ?_, fun notDefault supplied coerced looked step => ?_⟩
  · rw [← (owns.image_iff distinct built emits member inside named).mp (each i schemaField _ at_i image_i)]
    exact fieldKept
  · obtain ⟨inside, coerces⟩ := owns.coerced orderly built emits member notDefault looked step
    have becomes := (owns.coerced_image_iff distinct built inside).mp (each i schemaField _ at_i image_i)
    have keeps := (fieldKept_supplied_iff standard notDefault).mp fieldKept supplied looked
    rw [coerces.image_eq becomes keeps] at becomes
    exact coerces.fits_iff.mpr ((typed schemaField member notDefault supplied coerced looked step).unchanged
      (.inr ⟨rfl, fieldsOrdered schemaField member⟩) becomes)

/-- What fits is kept. -/
theorem OwnFields.kept_of_fits (owns : OwnFields conv own defaults)
    (standard : hasDefaultField defaults STANDARD_META_ID = true ∧ hasDefaultField defaults romKey = true)
    (orderly : schema.Orderly)
    (built : metadataDynamicFields lower defaults metadata schema.fields = .ok out) {ok : Bool} {image : Bytes}
    (emits : (writeWithSchema conv (fieldWriters conv (canonicalFields (own ++ out))) schema).Emits ok image)
    (fits : ∀ (i : Nat) (schemaField : VMNamedVariableSchema), schema.fields[i]? = some schemaField →
      OwnFits conv lower own defaults id metadata (behind conv schema (canonicalFields (own ++ out)) i) schemaField) :
    MetadataKept schema id metadata image := by
  obtain ⟨distinct, -⟩ := VMStructSchema.orderly_iff.mp orderly
  have one : ∀ i field, schema.fields[i]? = some field → ∃ image,
      DeclaredBecomes conv ⟨canonicalFields (own ++ out)⟩ field (behind conv schema (canonicalFields (own ++ out)) i)
        image ∧ FieldKept id metadata field image := by
    intro i field at_i
    have member := List.mem_of_getElem? at_i
    obtain ⟨ownKept, suppliedFits⟩ := fits i field at_i
    rcases owns.field built member with ⟨mine, inside, same, -⟩ | ⟨notDefault, _, -, supplied, data, looked, step, -⟩
    · exact ⟨_, (owns.image_iff distinct built emits member inside same).mpr rfl, ownKept mine inside same⟩
    · obtain ⟨inside, coerces⟩ := owns.coerced orderly built emits member notDefault looked step
      have unchanged := coerces.fits_iff.mp (suppliedFits notDefault supplied data looked step)
      refine ⟨_, (owns.coerced_image_iff distinct built inside).mpr unchanged.becomes, ?_⟩
      refine (fieldKept_supplied_iff standard notDefault).mpr fun again found => ?_
      obtain rfl := Option.some.inj (looked.symm.trans found)
      exact coerces.keeps
  obtain ⟨images, count, each⟩ := exists_inTurn one
  have extraBecomes {field : VMNamedDynamicVariable}
      (member : field ∈ writtenExtras schema (canonicalFields (own ++ out))) (after : Nat) :
      Becomes conv after field.value.type none field.value.data field.value.data := by
    obtain ⟨ok, raw, written⟩ := emits_each_extra emits member
    obtain ⟨mine, inside, rfl⟩ := extra_own built (mem_extras_of_written member)
    obtain ⟨name, type, data⟩ := mine
    exact .leaf (owns.leafData inside written)
  refine ⟨_, (owns.run_iff distinct built emits ?_).mpr (becomes_boundStruct.mpr ⟨images,
    (writtenExtras schema (canonicalFields (own ++ out))).map fun field => field.value.data,
    ⟨count, fun i field image at_i image_i => (each i field image at_i image_i).1⟩,
    ⟨List.length_map _, fun i field image at_i same => ?_⟩, rfl⟩), fun field member => ?_⟩
  · intro field member notDefault supplied data looked step
    obtain ⟨i, at_i⟩ := List.mem_iff_getElem?.mp member
    obtain ⟨-, coerces⟩ := owns.coerced orderly built emits member notDefault looked step
    exact (coerces.fits_iff.mp ((fits i field at_i).2 notDefault supplied data looked step)).typed.1
  · rw [getElem?_map_eq at_i same]
    exact extraBecomes (List.mem_of_getElem? at_i) _
  · obtain ⟨i, at_i⟩ := List.mem_iff_getElem?.mp member
    obtain ⟨image, image_i⟩ := exists_getElem? count at_i
    exact ⟨image, get_bound distinct count at_i image_i _, (each i field image at_i image_i).2⟩

/-- What is kept is what fits. -/
theorem OwnFields.kept_iff (owns : OwnFields conv own defaults)
    (standard : hasDefaultField defaults STANDARD_META_ID = true ∧ hasDefaultField defaults romKey = true)
    (orderly : schema.Orderly)
    (built : metadataDynamicFields lower defaults metadata schema.fields = .ok out) {ok : Bool} {image : Bytes}
    (emits : (VMDynamicStruct.writeWithSchema conv ⟨own ++ out⟩ schema).Emits ok image) :
    MetadataKept schema id metadata image ↔
      ∀ (i : Nat) (schemaField : VMNamedVariableSchema), schema.fields[i]? = some schemaField →
        OwnFits conv lower own defaults id metadata (behind conv schema (own ++ out) i) schemaField := by
  unfold VMDynamicStruct.writeWithSchema at emits
  rw [VMDynamicStruct.writers, ← canonicalFields_writers] at emits
  simp only [← behind_canonical conv schema (own ++ out)]
  exact ⟨owns.fits_of_kept standard orderly built emits, owns.kept_of_fits standard orderly built emits⟩

theorem fieldKept_id_iff {schemaField : VMNamedVariableSchema} (named : schemaField.name.value = STANDARD_META_ID)
    (is : field.Is name .INT256 (.int id)) :
    FieldKept id metadata schemaField (ownData field schemaField.schema.type schemaField.schema.structDef) ↔
      IdFits id schemaField := by
  unfold FieldKept
  rw [if_pos named]
  exact idData_iff is

theorem fieldKept_rom_iff {schemaField : VMNamedVariableSchema} (named : schemaField.name.value = romKey)
    (supplied : SuppliedRom metadata raw) (is : field.Is name .BYTES (.bytes raw)) :
    FieldKept id metadata schemaField (ownData field schemaField.schema.type schemaField.schema.structDef) ↔
      RomFits metadata schemaField := by
  have notId : schemaField.name.value ≠ STANDARD_META_ID := named ▸ romKey_ne_id
  unfold FieldKept RomFits
  rw [if_neg notId, if_pos named]
  have unique (other : Bytes) : SuppliedRom metadata other ↔ raw = other := by
    constructor
    · exact supplied.unique
    · rintro rfl
      exact supplied
  simp only [unique, exists_eq_left']
  exact romData_iff is

theorem fieldKept_mode_iff {schemaField : VMNamedVariableSchema} (named : schemaField.name.value = modeKey)
    (supplied : SuppliedRom metadata raw) (is : field.Is name .INT8 (.int (if raw.isEmpty then 0 else 1))) :
    FieldKept id metadata schemaField (ownData field schemaField.schema.type schemaField.schema.structDef) ↔
      ModeFits metadata schemaField := by
  have notId : schemaField.name.value ≠ STANDARD_META_ID := named ▸ modeKey_ne_id
  have notRom : schemaField.name.value ≠ romKey := named ▸ modeKey_ne_rom
  -- the builder writes the mode of the supplied rom, or the default where the schema declares another type
  have written : ownData field schemaField.schema.type schemaField.schema.structDef =
      modeData raw schemaField := by
    rw [is.readBack, modeData]
    by_cases same : VMType.INT8 = schemaField.schema.type
    · rw [if_pos same, if_pos same.symm, ← same]
      cases raw.isEmpty <;> rfl
    · rw [if_neg same, if_neg (Ne.symm same)]
  unfold FieldKept ModeFits
  rw [if_neg notId, if_neg notRom, written, named]
  constructor
  -- a supplied mode is never looked at, so that it is kept only by being the one that is written
  · intro kept value other found again
    rw [← supplied.unique again]
    exact kept value found
  · intro fits value found
    exact fits value raw found supplied

/-- The conditions of the fields of the rom builder, and of the supplied ones. -/
theorem nftFieldFits_iff (supplied : SuppliedRom metadata raw)
    (isId : idField.Is STANDARD_META_ID .INT256 (.int id)) (isRom : romField.Is romKey .BYTES (.bytes raw))
    (after : Nat) (schemaField : VMNamedVariableSchema) : NftFieldFits conv lower id metadata after schemaField ↔
      OwnFits conv lower [idField, romField] standardNftFields id metadata after schemaField := by
  unfold OwnFits
  rw [List.forall_mem_cons, List.forall_mem_singleton, isId.name, isRom.name, ← Bool.not_eq_true,
    hasDefaultField_nft]
  unfold NftFieldFits
  by_cases named : schemaField.name.value = STANDARD_META_ID
  · rw [if_pos named, fieldKept_id_iff named isId]
    simp [named, romKey_ne_id]
  · rw [if_neg named]
    by_cases rom : schemaField.name.value = romKey
    · rw [if_pos rom, fieldKept_rom_iff rom supplied isRom]
      simp [rom, romKey_ne_id, romKey_ne_id.symm]
    -- the builder has no field of this name
    · rw [if_neg rom]
      simp [named, rom, Ne.symm named, Ne.symm rom]

/-- The conditions of the fields of the series builder, and of the supplied ones. -/
theorem seriesFieldFits_iff (supplied : SuppliedRom metadata raw)
    (isId : idField.Is STANDARD_META_ID .INT256 (.int id))
    (isMode : modeField.Is modeKey .INT8 (.int (if raw.isEmpty then 0 else 1)))
    (isRom : romField.Is romKey .BYTES (.bytes raw)) (after : Nat) (schemaField : VMNamedVariableSchema) :
    SeriesFieldFits conv lower id metadata after schemaField ↔
      OwnFits conv lower [idField, modeField, romField] standardSeriesFields id metadata after schemaField := by
  unfold OwnFits
  rw [List.forall_mem_cons, List.forall_mem_cons, List.forall_mem_singleton, isId.name, isMode.name, isRom.name,
    ← Bool.not_eq_true, hasDefaultField_series]
  unfold SeriesFieldFits
  -- at most one of the three fields of the builder has the name
  by_cases named : schemaField.name.value = STANDARD_META_ID
  · rw [if_pos named, fieldKept_id_iff named isId]
    simp [named, romKey_ne_id, modeKey_ne_id]
  · rw [if_neg named]
    by_cases rom : schemaField.name.value = romKey
    · rw [if_pos rom, fieldKept_rom_iff rom supplied isRom]
      simp [rom, romKey_ne_id, romKey_ne_id.symm, modeKey_ne_rom]
    · rw [if_neg rom]
      by_cases mode : schemaField.name.value = modeKey
      · rw [if_pos mode, fieldKept_mode_iff mode supplied isMode]
        simp [mode, modeKey_ne_id, modeKey_ne_id.symm, modeKey_ne_rom.symm]
      · rw [if_neg mode]
        simp [named, rom, mode, Ne.symm named, Ne.symm rom, Ne.symm mode]

end Own

/-! ## The builders -/

section Builders

variable (conv : Conversions) {lower : Str → Str} {schema : VMStructSchema} {id : Int} {metadata : Metadata}
  {image : Bytes}

theorem writeDynamicStructWithSchema_eq_ok {value : VMDynamicStruct} :
    writeDynamicStructWithSchema conv value schema = .ok image ↔
      (value.writeWithSchema conv schema).Emits true image := by
  unfold writeDynamicStructWithSchema Put.Emits
  cases value.writeWithSchema conv schema with
  | wrote ok out => cases ok <;> simp
  | failed e out => simp

/-- A run of the rom builder. -/
theorem buildNftRom_eq_ok (run : buildNftRom conv lower schema (.int id) metadata = .ok image) :
    ∃ raw idField romField out, nftFields lower schema id metadata = .ok ([idField, romField] ++ out) ∧
      SuppliedRom metadata raw ∧ idField.Is STANDARD_META_ID .INT256 (.int id) ∧
      romField.Is romKey .BYTES (.bytes raw) ∧
      metadataDynamicFields lower standardNftFields metadata schema.fields = .ok out ∧
      (VMDynamicStruct.writeWithSchema conv ⟨[idField, romField] ++ out⟩ schema).Emits true image := by
  obtain ⟨_, isInt, run⟩ := except_bind_eq_ok.mp run
  obtain rfl := Except.ok.inj isInt
  obtain ⟨raw, supplied, run⟩ := except_bind_eq_ok.mp run
  obtain ⟨idField, isId, run⟩ := except_bind_eq_ok.mp run
  obtain ⟨romField, isRom, run⟩ := except_bind_eq_ok.mp run
  obtain ⟨out, built, run⟩ := except_bind_eq_ok.mp run
  have fields : nftFields lower schema id metadata = .ok ([idField, romField] ++ out) :=
    except_bind_eq_ok.mpr ⟨raw, supplied, except_bind_eq_ok.mpr ⟨idField, isId, except_bind_eq_ok.mpr
      ⟨romField, isRom, except_bind_eq_ok.mpr ⟨out, built, rfl⟩⟩⟩⟩
  exact ⟨raw, idField, romField, out, fields, metadataBytes_supplied supplied, make_is isId, make_is isRom, built,
    (writeDynamicStructWithSchema_eq_ok conv).mp run⟩

/-- A run of the series builder. -/
theorem buildTokenSeriesMetadata_eq_ok
    (run : buildTokenSeriesMetadata conv lower schema (.int id) metadata = .ok image) :
    ∃ raw idField modeField romField out,
      seriesFields lower schema id metadata = .ok ([idField, modeField, romField] ++ out) ∧ SuppliedRom metadata raw ∧
      idField.Is STANDARD_META_ID .INT256 (.int id) ∧
      modeField.Is modeKey .INT8 (.int (if raw.isEmpty then 0 else 1)) ∧
      romField.Is romKey .BYTES (.bytes raw) ∧
      metadataDynamicFields lower standardSeriesFields metadata schema.fields = .ok out ∧
      (VMDynamicStruct.writeWithSchema conv ⟨[idField, modeField, romField] ++ out⟩ schema).Emits true image := by
  obtain ⟨_, isInt, run⟩ := except_bind_eq_ok.mp run
  obtain rfl := Except.ok.inj isInt
  obtain ⟨raw, supplied, run⟩ := except_bind_eq_ok.mp run
  obtain ⟨idField, isId, run⟩ := except_bind_eq_ok.mp run
  obtain ⟨modeField, isMode, run⟩ := except_bind_eq_ok.mp run
  obtain ⟨romField, isRom, run⟩ := except_bind_eq_ok.mp run
  obtain ⟨out, built, run⟩ := except_bind_eq_ok.mp run
  have fields : seriesFields lower schema id metadata = .ok ([idField, modeField, romField] ++ out) :=
    except_bind_eq_ok.mpr ⟨raw, supplied, except_bind_eq_ok.mpr ⟨idField, isId, except_bind_eq_ok.mpr
      ⟨modeField, isMode, except_bind_eq_ok.mpr ⟨romField, isRom, except_bind_eq_ok.mpr ⟨out, built, rfl⟩⟩⟩⟩⟩
  exact ⟨raw, idField, modeField, romField, out, fields, metadataBytes_supplied supplied, make_is isId,
    make_is isMode, make_is isRom, built, (writeDynamicStructWithSchema_eq_ok conv).mp run⟩

end Builders

end PhantasmaPy.Carbon
