import PhantasmaPy.Carbon.DynamicRoundTrip
import PhantasmaPy.Carbon.IntXReadable

/-! # Canonical data

A writer takes some data in two spellings: an integer in the unsigned range of its width, a truth value for
an integer, bytes for a class of fixed size and the other way round.  `canonical` is the spelling that the
reader gives back, and no writer tells the two apart.
-/

namespace PhantasmaPy.Carbon

open Wire CarbonWriter CarbonReader

/-- The signed reading of an integer in the upper half of the unsigned range. -/
def signedAt (width : Nat) (value : Int) : Int :=
  if 2 ^ (width - 1) ≤ value ∧ value < 2 ^ width then value - 2 ^ width else value

/-! ## Types without nested values -/

namespace Data

def asInt (signed : Int → Int) : Data → Data
  | .int value => .int (signed value)
  | .bool value => .int (if value then 1 else 0)
  | value => value

def asBytes : Data → Data
  | .fixed _ value => .bytes value.raw
  | value => value

def asFixed (size : Nat) : Data → Data
  | .bytes value => if length : value.length = size then .fixed size ⟨value, length⟩ else .bytes value
  | value => value

/-- The spelling at a type without nested values.  The other widths are only written signed. -/
def canonicalScalar (value : Data) (vmType : VMType) : Data :=
  match vmType with
  | .INT8 => value.asInt (signedAt 8)
  | .INT16 | .INT32 | .INT64 => value.asInt id
  | .INT256 => value.asInt (signedAt 256)
  | .BYTES => value.asBytes
  | .BYTES16 => value.asFixed 16
  | .BYTES32 => value.asFixed 32
  | .BYTES64 => value.asFixed 64
  | _ => value

end Data

/-- The type of the elements of an array. -/
def VMType.element : VMType → Option VMType
  | .ARRAY_DYNAMIC => some .DYNAMIC
  | .ARRAY_BYTES => some .BYTES
  | .ARRAY_STRUCT => some .STRUCT
  | .ARRAY_INT8 => some .INT8
  | .ARRAY_INT16 => some .INT16
  | .ARRAY_INT32 => some .INT32
  | .ARRAY_INT64 => some .INT64
  | .ARRAY_INT256 => some .INT256
  | .ARRAY_BYTES16 => some .BYTES16
  | .ARRAY_BYTES32 => some .BYTES32
  | .ARRAY_BYTES64 => some .BYTES64
  | .ARRAY_STRING => some .STRING
  | _ => none

/-! ## All types -/

mutual

/-- The spelling of data at a type; nested variables bring their own types. -/
def Data.canonical : Data → VMType → Data
  | .variable value, vmType => if vmType = .DYNAMIC then .variable value.canonical else .variable value
  | .struct value, vmType => if vmType = .STRUCT then .struct value.canonical else .struct value
  | .list items, vmType =>
    match vmType.element with
    | some element => .list (canonicalItems items element)
    | none => .list items
  | .structArray ⟨schema, structs⟩, vmType =>
    if vmType = .ARRAY_STRUCT then .structArray ⟨schema, canonicalItems structs .STRUCT⟩
    else .structArray ⟨schema, structs⟩
  | value, vmType => value.canonicalScalar vmType

def VMDynamicVariable.canonical : VMDynamicVariable → VMDynamicVariable
  | ⟨type, data⟩ => ⟨type, data.canonical type⟩

def VMNamedDynamicVariable.canonical : VMNamedDynamicVariable → VMNamedDynamicVariable
  | ⟨name, value⟩ => ⟨name, value.canonical⟩

def VMDynamicStruct.canonical : VMDynamicStruct → VMDynamicStruct
  | ⟨fields⟩ => ⟨canonicalFields fields⟩

def canonicalFields : List VMNamedDynamicVariable → List VMNamedDynamicVariable
  | [] => []
  | field :: fields => field.canonical :: canonicalFields fields

def canonicalItems : List Data → VMType → List Data
  | [], _ => []
  | item :: items, element => item.canonical element :: canonicalItems items element

end

theorem canonical_list {vmType element : VMType} (array : vmType.element = some element) (items : List Data) :
    (Data.list items).canonical vmType = .list (canonicalItems items element) := by
  rw [Data.canonical, array]

theorem canonicalItems_eq (items : List Data) (element : VMType) :
    canonicalItems items element = items.map fun item => item.canonical element := by
  induction items with
  | nil => rfl
  | cons item items ih => rw [canonicalItems, List.map_cons, ih]

theorem canonicalFields_eq (fields : List VMNamedDynamicVariable) :
    canonicalFields fields = fields.map VMNamedDynamicVariable.canonical := by
  induction fields with
  | nil => rfl
  | cons field fields ih => rw [canonicalFields, List.map_cons, ih]

theorem canonical_name (field : VMNamedDynamicVariable) : field.canonical.name = field.name := by
  cases field
  rfl

theorem canonicalFields_names (fields : List VMNamedDynamicVariable) :
    (canonicalFields fields).map (fun field => field.name.value) = fields.map fun field => field.name.value := by
  rw [canonicalFields_eq, List.map_map]
  exact List.map_congr_left fun field _ => by rw [Function.comp_apply, canonical_name]

/-! ## Writers of types without nested values -/

theorem signedAt_mod (width : Nat) (value : Int) : signedAt width value % 2 ^ width = value % 2 ^ width := by
  unfold signedAt
  split
  · exact Int.sub_emod_right value _
  · rfl

/-- In the range of either reading the signed one is in the signed range. -/
theorem signedAt_signed {width : Nat} (positive : 0 < width) {value : Int}
    (inRange : Signed width value ∨ Unsigned width value) : Signed width (signedAt width value) := by
  have power : (2 : Int) ^ width = 2 * 2 ^ (width - 1) := by
    rw [← pow_succ', Nat.sub_add_cancel positive]
  have positivePower : (0 : Int) < 2 ^ (width - 1) := by positivity
  unfold Signed Unsigned signedAt at *
  split <;> omega

theorem write1_signedAt (value : Int) : write1 (signedAt 8 value % 256) = write1 (value % 256) :=
  congrArg write1 (signedAt_mod 8 value)

theorem writeBigInt_signedAt (value : Int) : writeBigInt (signedAt 256 value) = writeBigInt value := by
  unfold signedAt
  split
  next upper => exact (writeBigInt_sub_modulus upper.1 upper.2).symm
  next => rfl

section Leaves

variable (conv : Conversions)

theorem toInt_asInt (value : Data) : conv.toInt (value.asInt id) = conv.toInt value := by
  cases value <;> rfl

theorem toBytes_asBytes (value : Data) : conv.toBytes value.asBytes = conv.toBytes value := by
  cases value <;> rfl

theorem toFixed_asFixed (size : Nat) (value : Data) :
    conv.toFixed size (value.asFixed size) = conv.toFixed size value := by
  cases value with
  | bytes value =>
    unfold Data.asFixed
    simp only
    split <;> rfl
  | _ => rfl

theorem or_asBytes (value : Data) :
    conv.toBytes (value.asBytes.or (.bytes [])) = conv.toBytes (value.or (.bytes [])) := by
  cases value with
  | fixed size value =>
    have shown : (Data.fixed size value).asBytes = .bytes value.raw := rfl
    rw [shown, or_bytes]
    by_cases zero : size = 0
    · subst zero
      have empty : value.raw = [] := List.length_eq_zero_iff.mp value.length_eq
      rw [empty]
      rfl
    · have truthy : (Data.fixed size value).or (.bytes []) = .fixed size value := by
        simp [Data.or, Data.truthy, zero]
      rw [truthy]
      rfl
  | _ => rfl

theorem or_asFixed {size : Nat} (positive : size ≠ 0) (value : Data) :
    conv.toFixed size ((value.asFixed size).or (.bytes [])) = conv.toFixed size (value.or (.bytes [])) := by
  cases value with
  | bytes value =>
    rw [or_bytes, ← toFixed_asFixed conv size (.bytes value)]
    unfold Data.asFixed
    simp only
    split
    · have truthy (fixed : FixedBytes size) : (Data.fixed size fixed).or (.bytes []) = .fixed size fixed := by
        simp [Data.or, Data.truthy, positive]
      rw [truthy]
    · rw [or_bytes]
  | _ => rfl

/-- A type without nested values and without elements only changes the spelling of the value. -/
theorem canonical_scalar {vmType : VMType} (leaf : vmType.isNested = false) (scalar : vmType.element = none)
    (value : Data) : value.canonical vmType = value.canonicalScalar vmType := by
  cases value with
  | structArray value =>
    obtain ⟨schema, structs⟩ := value
    cases vmType <;> first | rfl | cases leaf
  | list items => cases vmType <;> first | rfl | cases scalar
  | «variable» value => cases vmType <;> first | rfl | cases leaf
  | struct value => cases vmType <;> first | rfl | cases leaf
  | _ => rfl

/-- At an array type without nested values only lists change. -/
theorem canonical_array {vmType element : VMType} (leaf : vmType.isNested = false)
    (array : vmType.element = some element) (value : Data) :
    (∃ items, value = .list items ∧ value.canonical vmType = .list (canonicalItems items element)) ∨
      value.canonical vmType = value := by
  cases value with
  | structArray value =>
    obtain ⟨schema, structs⟩ := value
    right
    cases vmType <;> first | rfl | cases leaf
  | list items =>
    left
    exact ⟨items, rfl, canonical_list array items⟩
  | «variable» value =>
    right
    cases vmType <;> first | rfl | cases leaf
  | struct value =>
    right
    cases vmType <;> first | rfl | cases leaf
  | _ =>
    right
    cases vmType <;> first | rfl | cases array

/-- A writer for arrays that treats a list like the list of its canonical elements treats every value so. -/
theorem writeLeaf_array {vmType element : VMType} (leaf : vmType.isNested = false)
    (array : vmType.element = some element)
    (list : ∀ items, writeLeaf conv vmType (.list (items.map fun item => item.canonical element)) =
      writeLeaf conv vmType (.list items)) (value : Data) :
    writeLeaf conv vmType (value.canonical vmType) = writeLeaf conv vmType value := by
  rcases canonical_array leaf array value with ⟨items, rfl, spelled⟩ | same
  · rw [spelled, canonicalItems_eq]
    exact list items
  · rw [same]

theorem writeArray_images {α : Type} (write : α → CarbonWriter Unit) (xs : List α) :
    writeArray write xs = writeArray id (xs.map write) := by
  unfold writeArray
  rw [Put.each_map, List.length_map]
  rfl

theorem map_mapM {α β : Type} (f : α → β) (convert : Data → Except PyError α) (items : List Data) :
    (items.mapM convert).map (List.map f) = items.mapM fun item => (convert item).map f := by
  induction items with
  | nil => rfl
  | cons item items ih =>
    rw [List.mapM_cons, List.mapM_cons, ← ih]
    cases convert item with
    | error e => rfl
    | ok a => cases items.mapM convert <;> rfl

/-- Elements that are converted and then written. -/
theorem writeConverted_congr {α : Type} {write : α → CarbonWriter Unit} {convert : Data → Except PyError α}
    {change : Data → Data} (same : ∀ item, (convert (change item)).map write = (convert item).map write)
    (items : List Data) :
    (do writeArray write (← Put.check ((items.map change).mapM convert)) : CarbonWriter Unit) =
      (do writeArray write (← Put.check (items.mapM convert))) := by
  have images (items : List Data) :
      (do writeArray write (← Put.check (items.mapM convert)) : CarbonWriter Unit) =
        (do writeArray id (← Put.check (items.mapM fun item => (convert item).map write))) := by
    rw [← map_mapM]
    cases items.mapM convert with
    | error e => rfl
    | ok xs => exact (check_bind rfl _).trans ((writeArray_images write xs).trans (check_bind rfl _).symm)
  have composed : (fun item => (convert item).map write) ∘ change = fun item => (convert item).map write :=
    funext same
  rw [images, images, List.mapM_map, composed]

theorem writeIntItems_canonical {width : Nat} {signed : Int → Int}
    (same : ∀ value, writeIntElement width true (signed value) = writeIntElement width true value)
    (items : List Data) :
    writeIntItems conv width (.list (items.map (Data.asInt signed))) = writeIntItems conv width (.list items) := by
  unfold writeIntItems
  rw [check_bind (items_list _), check_bind (items_list _), writeArray_images, List.map_map,
    writeArray_images _ items]
  congr 1
  apply List.map_congr_left
  intro item _
  cases item with
  | int value => exact (check_bind rfl _).trans ((same value).trans (check_bind rfl _).symm)
  | _ => rfl

theorem writeFixedItems_canonical (size : Nat) (items : List Data) :
    writeFixedItems conv size (.list (items.map (Data.asFixed size))) =
      writeFixedItems conv size (.list items) := by
  unfold writeFixedItems
  have composed : conv.toFixed size ∘ Data.asFixed size = conv.toFixed size :=
    funext (toFixed_asFixed conv size)
  rw [check_bind (items_list _), check_bind (items_list _), List.mapM_map, composed]

/-- The canonical elements at a type without nested values and without elements. -/
theorem map_canonical_scalar {element : VMType} (leaf : element.isNested = false)
    (scalar : element.element = none) (items : List Data) :
    items.map (fun item => item.canonical element) = items.map fun item => item.canonicalScalar element :=
  List.map_congr_left fun item _ => canonical_scalar leaf scalar item

/-- The writers of the types without nested values do not tell the spellings apart. -/
theorem writeLeaf_canonical {vmType : VMType} (leaf : vmType.isNested = false) (value : Data) :
    writeLeaf conv vmType (value.canonical vmType) = writeLeaf conv vmType value := by
  -- INT8 and INT256 take a number in its signed and in its unsigned spelling; the other integers have one spelling.
  cases vmType with
  | BYTES =>
    rw [canonical_scalar leaf rfl]
    simp only [writeLeaf, Data.canonicalScalar, or_asBytes]
  | INT8 =>
    rw [canonical_scalar leaf rfl]
    cases value with
    | int value => exact (check_bind rfl _).trans ((write1_signedAt value).trans (check_bind rfl _).symm)
    | _ => rfl
  | INT16 | INT32 | INT64 =>
    rw [canonical_scalar leaf rfl]
    simp only [writeLeaf, Data.canonicalScalar, toInt_asInt]
  | INT256 =>
    rw [canonical_scalar leaf rfl]
    cases value with
    | int value =>
      simp only [writeLeaf, Data.canonicalScalar, Data.asInt, or_int]
      exact (check_bind rfl _).trans ((writeBigInt_signedAt value).trans (check_bind rfl _).symm)
    | bool value => cases value <;> rfl
    | _ => rfl
  | BYTES16 | BYTES32 | BYTES64 =>
    rw [canonical_scalar leaf rfl]
    simp only [writeLeaf, Data.canonicalScalar]
    rw [or_asFixed conv (by decide)]
  | STRING => rw [canonical_scalar leaf rfl]; rfl
  | ARRAY_BYTES =>
    refine writeLeaf_array conv leaf rfl (fun items => ?_) value
    rw [map_canonical_scalar rfl rfl]
    simp only [writeLeaf]
    rw [check_bind (items_list _), check_bind (items_list _), writeArray_images, List.map_map,
      writeArray_images _ items]
    congr 1
    apply List.map_congr_left
    intro item _
    simp only [Function.comp_apply, Data.canonicalScalar, toBytes_asBytes]
  | ARRAY_INT8 =>
    refine writeLeaf_array conv leaf rfl (fun items => ?_) value
    rw [map_canonical_scalar rfl rfl]
    exact @writeIntItems_canonical conv 1 _ write1_signedAt items
  | ARRAY_INT16 | ARRAY_INT32 | ARRAY_INT64 =>
    refine writeLeaf_array conv leaf rfl (fun items => ?_) value
    rw [map_canonical_scalar rfl rfl]
    exact writeIntItems_canonical conv (fun _ => rfl) items
  | ARRAY_INT256 =>
    refine writeLeaf_array conv leaf rfl (fun items => ?_) value
    rw [map_canonical_scalar rfl rfl]
    simp only [writeLeaf, writeBigIntArray]
    rw [check_bind (items_list _), check_bind (items_list _)]
    refine writeConverted_congr (fun item => ?_) items
    cases item with
    | int value =>
      change Except.ok (writeBigInt (signedAt 256 value)) = Except.ok (writeBigInt value)
      rw [writeBigInt_signedAt]
    | _ => rfl
  | ARRAY_BYTES16 | ARRAY_BYTES32 | ARRAY_BYTES64 =>
    refine writeLeaf_array conv leaf rfl (fun items => ?_) value
    rw [map_canonical_scalar rfl rfl]
    exact writeFixedItems_canonical conv _ items
  | ARRAY_STRING =>
    refine writeLeaf_array conv leaf rfl (fun items => ?_) value
    rw [map_canonical_scalar rfl rfl]
    simp only [Data.canonicalScalar, List.map_id']
  | DYNAMIC | ARRAY_DYNAMIC | STRUCT | ARRAY_STRUCT => cases leaf

end Leaves

/-! ## Writers of all types -/

section Writers

variable (conv : Conversions)

theorem canonicalScalar_nested {vmType : VMType} (nested : vmType.isNested = true) (value : Data) :
    value.canonicalScalar vmType = value := by
  cases vmType <;> first | rfl | cases nested

/-- Values of a class without nested values. -/
theorem canonical_writeAs_plain {value : Data} {vmType : VMType} (schema : Option VMStructSchema)
    (plain : value.canonical vmType = value.canonicalScalar vmType) :
    (value.canonical vmType).writeAs conv vmType schema = value.writeAs conv vmType schema := by
  cases leaf : vmType.isNested with
  | false => rw [writeAs_leaf conv leaf, writeAs_leaf conv leaf, writeLeaf_canonical conv leaf]
  | true => rw [plain, canonicalScalar_nested leaf]

mutual

/-- No writer tells data from its canonical spelling. -/
theorem Data.canonical_writeAs : ∀ (value : Data) (vmType : VMType) (schema : Option VMStructSchema),
    (value.canonical vmType).writeAs conv vmType schema = value.writeAs conv vmType schema
  | .variable value, vmType, schema => by
    by_cases called : vmType = .DYNAMIC
    · subst called
      rw [Data.canonical, if_pos rfl, Data.writeAs, Data.writeAs, value.canonical_writeCarbon]
      rfl
    · rw [Data.canonical, if_neg called]
  | .struct value, vmType, schema => by
    by_cases called : vmType = .STRUCT
    · subst called
      rw [Data.canonical, if_pos rfl, Data.writeAs, Data.writeAs, value.canonical_writers]
      rfl
    · rw [Data.canonical, if_neg called]
  | .list items, vmType, schema => by
    -- leaves convert the items themselves; of the nested types only the arrays look at a list
    cases leaf : vmType.isNested with
    | false => rw [writeAs_leaf conv leaf, writeAs_leaf conv leaf, writeLeaf_canonical conv leaf]
    | true =>
      cases vmType with
      | DYNAMIC | STRUCT => rfl
      | ARRAY_DYNAMIC =>
        rw [canonical_list rfl, Data.writeAs, Data.writeAs, canonicalItems_writers items (.inl rfl)]
        rfl
      | ARRAY_STRUCT =>
        rw [canonical_list rfl, Data.writeAs, Data.writeAs, canonicalItems_writers items (.inr rfl)]
        rfl
      | _ => cases leaf
  | .structArray ⟨arraySchema, structs⟩, vmType, schema => by
    by_cases called : vmType = .ARRAY_STRUCT
    · subst called
      rw [Data.canonical, if_pos rfl, Data.writeAs, Data.writeAs, canonicalItems_writers structs (.inr rfl)]
      rfl
    · rw [Data.canonical, if_neg called]
  | .none, _, schema => canonical_writeAs_plain conv schema rfl
  | .bool _, _, schema => canonical_writeAs_plain conv schema rfl
  | .int _, _, schema => canonical_writeAs_plain conv schema rfl
  | .str _, _, schema => canonical_writeAs_plain conv schema rfl
  | .bytes _, _, schema => canonical_writeAs_plain conv schema rfl
  | .fixed _ _, _, schema => canonical_writeAs_plain conv schema rfl
  | .mapping _, _, schema => canonical_writeAs_plain conv schema rfl
  | .named _, _, schema => canonical_writeAs_plain conv schema rfl
  | .other _, _, schema => canonical_writeAs_plain conv schema rfl

theorem VMDynamicVariable.canonical_writeCarbon : ∀ value : VMDynamicVariable,
    value.canonical.writeCarbon conv = value.writeCarbon conv
  | ⟨type, data⟩ => by
    rw [VMDynamicVariable.canonical, VMDynamicVariable.writeCarbon, VMDynamicVariable.writeCarbon,
      data.canonical_writeAs]

theorem VMDynamicVariable.canonical_writeStatic : ∀ (value : VMDynamicVariable) (vmType : VMType)
    (schema : Option VMStructSchema), value.canonical.writeStatic conv vmType schema =
      value.writeStatic conv vmType schema
  | ⟨type, data⟩, vmType, schema => by
    rw [VMDynamicVariable.canonical, VMDynamicVariable.writeStatic, VMDynamicVariable.writeStatic]
    by_cases called : type = vmType
    · rw [if_pos called, if_pos called, ← called, data.canonical_writeAs]
    · rw [if_neg called, if_neg called]

theorem VMDynamicStruct.canonical_writers : ∀ value : VMDynamicStruct,
    value.canonical.writers conv = value.writers conv
  | ⟨fields⟩ => by
    rw [VMDynamicStruct.canonical, VMDynamicStruct.writers, VMDynamicStruct.writers,
      canonicalFields_writers fields]

theorem canonicalFields_writers : ∀ fields : List VMNamedDynamicVariable,
    fieldWriters conv (canonicalFields fields) = fieldWriters conv fields
  | [] => rfl
  | ⟨name, value⟩ :: fields => by
    rw [canonicalFields, fieldWriters, fieldWriters, canonicalFields_writers fields,
      VMNamedDynamicVariable.canonical, VMNamedDynamicVariable.writer, VMNamedDynamicVariable.writer,
      value.canonical_writeCarbon, funext fun vmType => funext (value.canonical_writeStatic vmType)]

theorem canonicalItems_writers : ∀ (items : List Data) {element : VMType}
    (_ : element = .DYNAMIC ∨ element = .STRUCT),
    itemWriters conv (canonicalItems items element) = itemWriters conv items
  | [], _, _ => rfl
  | item :: items, element, nested => by
    rw [canonicalItems, itemWriters, itemWriters, canonicalItems_writers items nested,
      item.canonical_itemWriter nested]

theorem Data.canonical_itemWriter : ∀ (item : Data) {element : VMType}
    (_ : element = .DYNAMIC ∨ element = .STRUCT),
    (item.canonical element).itemWriter conv = item.itemWriter conv
  | .variable value, element, _ => by
    by_cases called : element = .DYNAMIC
    · rw [Data.canonical, if_pos called, Data.itemWriter, Data.itemWriter, value.canonical_writeCarbon]
    · rw [Data.canonical, if_neg called]
  | .struct value, element, _ => by
    by_cases called : element = .STRUCT
    · rw [Data.canonical, if_pos called, Data.itemWriter, Data.itemWriter, value.canonical_writers]
    · rw [Data.canonical, if_neg called]
  | .structArray ⟨schema, structs⟩, element, nested => by
    rcases nested with rfl | rfl <;> rfl
  | .list items, element, nested => by
    rcases nested with rfl | rfl <;> rfl
  | .none, _, nested => by rcases nested with rfl | rfl <;> rfl
  | .bool _, _, nested => by rcases nested with rfl | rfl <;> rfl
  | .int _, _, nested => by rcases nested with rfl | rfl <;> rfl
  | .str _, _, nested => by rcases nested with rfl | rfl <;> rfl
  | .bytes _, _, nested => by rcases nested with rfl | rfl <;> rfl
  | .fixed _ _, _, nested => by rcases nested with rfl | rfl <;> rfl
  | .mapping _, _, nested => by rcases nested with rfl | rfl <;> rfl
  | .named _, _, nested => by rcases nested with rfl | rfl <;> rfl
  | .other _, _, nested => by rcases nested with rfl | rfl <;> rfl

end

end Writers

end PhantasmaPy.Carbon
