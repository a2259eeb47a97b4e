import PhantasmaPy.Carbon.Canonical
import PhantasmaPy.Carbon.Metadata
import PhantasmaPy.Carbon.NormalData
import PhantasmaPy.Wire.Outcome

/-! # Coerced metadata

`Keeps` relates a supplied value to the data that stands for it at a type and a schema, and `Coerces` to what the
coercion makes of it.  Coercion looks into a mapping and a list of structs, field by field; a ready-made variable,
struct or struct array goes through it as it is.
-/

namespace PhantasmaPy.Carbon

open Wire CarbonWriter CarbonReader

/-! ## Supplied values -/

/-- A field of a struct that is given as a list: a named variable, or a name and a value. -/
def Data.entry? : Data → Option (Str × Data)
  | .named ⟨name, ⟨_, data⟩⟩ => some (name.value, data)
  | .list [.str key, value] => some (key, value)
  | _ => .none

/-- The entries of a struct that is given as a mapping or as a list of fields. -/
def Data.entries? : Data → Option Metadata
  | .mapping entries => entries.mapM fun entry => entry.1.map fun key => (key, entry.2)
  | .list items => items.mapM Data.entry?
  | _ => .none

/-- The width of an integer type. -/
def VMType.intWidth : VMType → Option Nat
  | .INT8 => some 8
  | .INT16 => some 16
  | .INT32 => some 32
  | .INT64 => some 64
  | .INT256 => some 256
  | _ => none

/-- The size of a type of fixed size. -/
def VMType.fixedSize : VMType → Option Nat
  | .BYTES16 => some 16
  | .BYTES32 => some 32
  | .BYTES64 => some 64
  | _ => none

/-- The data stands for the supplied value: it is its canonical spelling with the fields of structs sorted,
    the signed reading of an integer, the bytes of a hex text, or has the same for every element or field. -/
inductive Keeps : VMType → Option VMStructSchema → Data → Data → Prop
  | same {vmType : VMType} {schema : Option VMStructSchema} {value : Data} :
      Keeps vmType schema value (value.canonical vmType).normal
  | int {vmType : VMType} {schema : Option VMStructSchema} {width : Nat} {value : Int}
      (isInt : vmType.intWidth = some width) : Keeps vmType schema (.int value) (.int (signedAt width value))
  | hex {schema : Option VMStructSchema} {text : Str} {raw : Bytes}
      (decoded : decodeFlexibleHex (strip text) = .ok raw) : Keeps .BYTES schema (.str text) (.bytes raw)
  | fixedHex {vmType : VMType} {schema : Option VMStructSchema} {size : Nat} {text : Str}
      {value : FixedBytes size} (isFixed : vmType.fixedSize = some size)
      (decoded : decodeFlexibleHex (strip text) = .ok value.raw) :
      Keeps vmType schema (.str text) (.fixed size value)
  | items {vmType element : VMType} {schema : Option VMStructSchema} {pairs : List (Data × Data)}
      (array : vmType.element = some element) (leaf : element.isNested = false)
      (each : ∀ pair ∈ pairs, Keeps element none pair.1 pair.2) :
      Keeps vmType schema (.list (pairs.map Prod.fst)) (.list (pairs.map Prod.snd))
  | fields {schema : VMStructSchema} {value : Data} {entries : Metadata} {struct : VMDynamicStruct}
      {supplied data : VMNamedVariableSchema → Data} (given : value.entries? = some entries)
      (found : ∀ field ∈ schema.fields, entries.lookup field.name.value = some (supplied field))
      (complete : struct.fields.length = schema.fields.length)
      (present : ∀ field ∈ schema.fields, ⟨field.name, ⟨field.schema.type, data field⟩⟩ ∈ struct.fields)
      (each : ∀ field ∈ schema.fields,
        Keeps field.schema.type field.schema.structDef (supplied field) (data field)) :
      Keeps .STRUCT (some schema) value (.struct struct)
  | structs {schema : VMStructSchema} {pairs : List (Data × VMDynamicStruct)}
      (each : ∀ pair ∈ pairs, Keeps .STRUCT (some schema) pair.1 (.struct pair.2)) :
      Keeps .ARRAY_STRUCT (some schema) (.list (pairs.map Prod.fst))
        (.structArray ⟨schema, (pairs.map Prod.snd).map .struct⟩)

/-- The value is handed over ready-made, and so not coerced. -/
inductive Ready : VMType → Data → Prop
  | dynamic {value : Data} : Ready .DYNAMIC value
  | dynamicArray {value : Data} : Ready .ARRAY_DYNAMIC value
  | struct {value : VMDynamicStruct} : Ready .STRUCT (.struct value)
  | structArray {value : VMStructArray} : Ready .ARRAY_STRUCT (.structArray value)

/-- The data, in its canonical spelling, is what the coercion makes of the supplied value. -/
inductive Coerces : VMType → Option VMStructSchema → Data → Data → Prop
  | leaf {vmType : VMType} {schema : Option VMStructSchema} {supplied data : Data} (leafData : LeafData vmType data)
      (keeps : Keeps vmType schema supplied data) : Coerces vmType schema supplied data
  | ready {vmType : VMType} {schema : Option VMStructSchema} {value : Data} (ready : Ready vmType value) :
      Coerces vmType schema value (value.canonical vmType)
  | fields {schema : VMStructSchema} {value : Data} {entries : Metadata} {supplied data : VMNamedVariableSchema → Data}
      (given : value.entries? = some entries) (distinct : (schema.fields.map fun field => field.name.value).Nodup)
      (found : ∀ field ∈ schema.fields, entries.lookup field.name.value = some (supplied field))
      (each : ∀ field ∈ schema.fields,
        Coerces field.schema.type field.schema.structDef (supplied field) (data field)) :
      Coerces .STRUCT (some schema) value (.struct ⟨schema.fields.map (boundField data)⟩)
  | structs {schema : VMStructSchema} {pairs : List (Data × VMDynamicStruct)}
      (each : ∀ pair ∈ pairs, Coerces .STRUCT (some schema) pair.1 (.struct pair.2)) :
      Coerces .ARRAY_STRUCT (some schema) (.list (pairs.map Prod.fst))
        (.structArray ⟨schema, (pairs.map Prod.snd).map .struct⟩)

/-! ## Coerced values without nested values -/

theorem Keeps.of_eq {vmType : VMType} {schema : Option VMStructSchema} {value data : Data}
    (same : (value.canonical vmType).normal = data) : Keeps vmType schema value data := same ▸ Keeps.same

/-- Bytes are taken as they are, and a text is decoded. -/
theorem ensureMetadataBytes_cases {name : Str} {value : Data} {raw : Bytes}
    (ensured : ensureMetadataBytes name value = .ok raw) :
    value = .bytes raw ∨ (∃ size fixed, value = .fixed size fixed ∧ fixed.raw = raw) ∨
      ∃ text, value = .str text ∧ decodeFlexibleHex (strip text) = .ok raw := by
  cases value with
  | bytes value =>
    obtain rfl := Except.ok.inj ensured
    exact .inl rfl
  | fixed size value => exact .inr (.inl ⟨size, value, rfl, Except.ok.inj ensured⟩)
  | str text =>
    rw [ensureMetadataBytes] at ensured
    by_cases empty : (strip text).isEmpty
    · simp [empty] at ensured
    · cases decoded : decodeFlexibleHex (strip text) with
      | error e => simp [empty, decoded] at ensured
      | ok out =>
        have same : out = raw := by simpa [empty, decoded] using ensured
        exact .inr (.inr ⟨text, rfl, by rw [decoded, same]⟩)
  | _ => cases ensured

theorem ensureMetadataBytes_keeps {name : Str} {value : Data} {raw : Bytes} (schema : Option VMStructSchema)
    (ensured : ensureMetadataBytes name value = .ok raw) : Keeps .BYTES schema value (.bytes raw) := by
  rcases ensureMetadataBytes_cases ensured with rfl | ⟨size, fixed, rfl, rfl⟩ | ⟨text, rfl, decoded⟩
  · exact .of_eq rfl
  · exact .of_eq rfl
  · exact .hex decoded

theorem ensureFixedMetadataBytes_keeps {vmType : VMType} {size : Nat} (isFixed : vmType.fixedSize = some size)
    {name : Str} {value : Data} {fixed : FixedBytes size} (schema : Option VMStructSchema)
    (coerced : ensureFixedMetadataBytes name size value = .ok fixed) :
    Keeps vmType schema value (.fixed size fixed) := by
  obtain ⟨raw, ensured, coerced⟩ := except_bind_eq_ok.mp coerced
  by_cases length : raw.length = size
  · rw [if_neg (not_not.mpr length)] at coerced
    obtain rfl : fixed.raw = raw := (FixedBytes.new_eq_ok length).mp coerced
    have spelled (data : Data) : data.canonicalScalar vmType = data.asFixed size := by
      cases vmType <;> cases isFixed <;> rfl
    have leaf : vmType.isNested = false ∧ vmType.element = none := by
      cases vmType <;> cases isFixed <;> exact ⟨rfl, rfl⟩
    -- the bytes were given as such, as a value of fixed size, or as hex text
    rcases ensureMetadataBytes_cases ensured with rfl | ⟨size', other, rfl, same⟩ | ⟨text, rfl, decoded⟩
    · apply Keeps.of_eq
      rw [canonical_scalar leaf.1 leaf.2, spelled, Data.asFixed, dif_pos length]
      rfl
    · obtain rfl : size' = size := by rw [← other.length_eq, same, fixed.length_eq]
      obtain ⟨raw, length'⟩ := other
      obtain rfl : raw = fixed.raw := same
      apply Keeps.of_eq
      rw [canonical_scalar leaf.1 leaf.2, spelled]
      rfl
    · exact .fixedHex isFixed decoded
  · rw [if_pos length] at coerced
    cases coerced

theorem ensureMetadataString_keeps {name : Str} {value : Data} {text : Str}
    (coerced : ensureMetadataString name value = .ok text) : value = .str text := by
  cases value with
  | str value =>
    rw [ensureMetadataString] at coerced
    by_cases blank : (strip value).isEmpty
    · simp [blank] at coerced
    · simp [blank] at coerced
      rw [coerced]
  | _ => cases coerced

theorem ensureMetadataInteger_eq_ok {name : Str} {value : Data} {integer : Int} :
    ensureMetadataInteger name value = .ok integer ↔ value = .int integer := by
  cases value <;> simp [ensureMetadataInteger]

theorem checkMetadataRange_eq_ok {name : Str} {width : Nat} {value checked : Int} :
    checkMetadataRange name width value = .ok checked ↔
      (Signed width value ∨ Unsigned width value) ∧ checked = value := by
  unfold checkMetadataRange
  by_cases inRange : Signed width value ∨ Unsigned width value
  · rw [if_pos inRange]
    simp [inRange, eq_comm]
  · rw [if_neg inRange]
    simp [inRange]

/-- From two bytes on, the upper half of the unsigned range is folded. -/
theorem folded_eq {width : Nat} {value : Int} (byte : width ≠ 8) (below : value < 2 ^ width) :
    (if width = 8 ∨ value ≤ 2 ^ (width - 1) - 1 then pure value else pure (value - 2 ^ width) :
      Except PyError Int) = .ok (signedAt width value) := by
  unfold signedAt
  by_cases low : value ≤ 2 ^ (width - 1) - 1
  · have notUpper : ¬ (2 ^ (width - 1) ≤ value ∧ value < 2 ^ width) := by omega
    rw [if_pos (.inr low), if_neg notUpper]
    rfl
  · have upper : 2 ^ (width - 1) ≤ value ∧ value < 2 ^ width := by omega
    rw [if_neg (by simp [byte, low]), if_pos upper]
    rfl

theorem coerceIntegerForVmType_eq_ok {name : Str} {width : Nat} {value : Data} {integer : Int}
    (coerced : coerceIntegerForVmType name width value = .ok integer) :
    ∃ supplied, value = .int supplied ∧ (Signed width supplied ∨ Unsigned width supplied) ∧
      integer = if width = 8 then supplied else signedAt width supplied := by
  obtain ⟨supplied, ensured, rest⟩ := except_bind_eq_ok.mp coerced
  obtain ⟨checked, inRange, made⟩ := except_bind_eq_ok.mp rest
  obtain ⟨inRange, rfl⟩ := checkMetadataRange_eq_ok.mp inRange
  refine ⟨checked, ensureMetadataInteger_eq_ok.mp ensured, inRange, ?_⟩
  by_cases byte : width = 8
  · rw [if_pos (.inl byte)] at made
    rw [if_pos byte]
    exact (Except.ok.inj made).symm
  · have power : (2 : Int) ^ (width - 1) ≤ 2 ^ width := pow_le_pow_right₀ (by decide) (Nat.sub_le width 1)
    unfold Signed Unsigned at inRange
    rw [folded_eq byte (by omega)] at made
    rw [if_neg byte]
    exact (Except.ok.inj made).symm

theorem coerceInt256_eq_ok {name : Str} {value : Data} {integer : Int}
    (coerced : coerceInt256 name value = .ok integer) :
    value = .int integer ∧ (Signed 256 integer ∨ Unsigned 256 integer) := by
  obtain ⟨supplied, ensured, coerced⟩ := except_bind_eq_ok.mp coerced
  obtain ⟨inRange, rfl⟩ := checkMetadataRange_eq_ok.mp coerced
  exact ⟨ensureMetadataInteger_eq_ok.mp ensured, inRange⟩

/-! ## Types without nested values -/

/-- How the values of a type are coerced and written: `norm` is the canonical spelling in the class that
    `inject` makes. -/
structure CoercedForm {α : Type} (vmType : VMType) (coerce : Str → Data → Except PyError α)
    (inject : α → Data) (norm : α → α) (domain : α → Prop) (write : α → CarbonWriter Unit) : Prop where
  spelled : ∀ a, (inject a).canonical vmType = inject (norm a)
  keeps : ∀ {name value a}, coerce name value = .ok a → ∀ schema, Keeps vmType schema value (inject (norm a))
  inside : ∀ {name value a out}, coerce name value = .ok a → (write a).Emits () out → domain (norm a)

theorem bytes_form :
    CoercedForm .BYTES ensureMetadataBytes .bytes id ShortBytes writeByteArray where
  spelled _ := rfl
  keeps coerced schema := ensureMetadataBytes_keeps schema coerced
  inside _ emits := (emits_writeByteArray.mp emits).1

theorem string_form : CoercedForm .STRING ensureMetadataString .str id ZeroFree writeStringZ where
  spelled _ := rfl
  keeps coerced schema := by
    rw [ensureMetadataString_keeps coerced]
    exact .of_eq rfl
  inside _ emits := by
    obtain ⟨free, raw, encoded, -⟩ := emits_writeStringZ.mp emits
    exact ⟨free, raw, encoded⟩

theorem int8_form :
    CoercedForm .INT8 (coerceIntegerForVmType · 8) .int (signedAt 8) (Signed 8)
      (writeIntElement 1 true) where
  spelled _ := rfl
  keeps coerced schema := by
    obtain ⟨supplied, rfl, -, rfl⟩ := coerceIntegerForVmType_eq_ok coerced
    exact .int rfl
  inside coerced _ := by
    obtain ⟨supplied, rfl, inRange, rfl⟩ := coerceIntegerForVmType_eq_ok coerced
    exact signedAt_signed (by decide) inRange

theorem int_form {vmType : VMType} {width : Nat} (isInt : vmType.intWidth = some (8 * width))
    (wide : width ≠ 1) (spelled : ∀ value, (Data.int value).canonical vmType = .int value) :
    CoercedForm vmType (coerceIntegerForVmType · (8 * width)) .int id (Signed (8 * width))
      (writeSigned width) where
  spelled := spelled
  keeps coerced schema := by
    obtain ⟨supplied, rfl, -, rfl⟩ := coerceIntegerForVmType_eq_ok coerced
    rw [if_neg (by omega)]
    exact .int isInt
  inside _ emits := (emits_writeSigned.mp emits).1

theorem int256_form :
    CoercedForm .INT256 coerceInt256 .int (signedAt 256) (Signed 256) writeBigInt where
  spelled _ := rfl
  keeps coerced schema := by
    obtain ⟨rfl, -⟩ := coerceInt256_eq_ok coerced
    exact .int rfl
  inside coerced _ := signedAt_signed (by decide) (coerceInt256_eq_ok coerced).2

theorem fixed_form {vmType : VMType} {size : Nat} (isFixed : vmType.fixedSize = some size) :
    CoercedForm vmType (ensureFixedMetadataBytes · size) (.fixed size) id (fun _ => True)
      (fun value : FixedBytes size => write value.raw) where
  spelled value := by cases vmType <;> cases isFixed <;> rfl
  keeps coerced schema := ensureFixedMetadataBytes_keeps isFixed schema coerced
  inside _ _ := trivial

theorem coerceElements_eq_ok {α : Type} {name : Str} {coerce : Str → Data → Except PyError α}
    {items : List Data} {xs : List α} (coerced : coerceElements name coerce items = .ok xs) :
    List.Forall₂ (fun item x => ∃ name, coerce name item = .ok x) items xs := by
  have all := mapM_eq_ok.mp coerced
  rw [← List.zipIdx_map_fst 0 items, List.forall₂_map_left_iff]
  exact all.imp fun entry x step => ⟨_, step⟩

/-- Related lists are the two sides of a list of pairs. -/
theorem exists_pairs {β : Type} {related : Data → β → Prop} {items : List Data} {xs : List β}
    (all : List.Forall₂ related items xs) : ∃ pairs : List (Data × β),
      pairs.map Prod.fst = items ∧ pairs.map Prod.snd = xs ∧ ∀ pair ∈ pairs, related pair.1 pair.2 := by
  obtain ⟨length, each⟩ := List.forall₂_iff_zip.mp all
  exact ⟨items.zip xs, List.map_fst_zip length.le, List.map_snd_zip length.ge, fun pair member => each member⟩

section Leaves

variable (conv : Conversions) {α : Type} {vmType : VMType} {coerce : Str → Data → Except PyError α}
  {inject : α → Data} {norm : α → α} {domain : α → Prop} {write : α → CarbonWriter Unit}

theorem CoercedForm.scalar (form : CoercedForm vmType coerce inject norm domain write)
    (leaf_eq : ∀ a, writeLeaf conv vmType (inject a) = write a) {name : Str} {value data : Data}
    (schema : Option VMStructSchema)
    (coerced : (do return inject (← coerce name value) : Except PyError Data) = .ok data) {out : Bytes}
    (emits : (writeLeaf conv vmType data).Emits () out) :
    (data.canonical vmType).IsOf inject domain ∧ Keeps vmType schema value (data.canonical vmType) := by
  obtain ⟨a, step, made⟩ := except_bind_eq_ok.mp coerced
  obtain rfl := Except.ok.inj made
  rw [leaf_eq] at emits
  rw [form.spelled]
  exact ⟨⟨norm a, form.inside step emits, rfl⟩, form.keeps step schema⟩

theorem CoercedForm.array {element : VMType} (form : CoercedForm element coerce inject norm domain write)
    (vmType : VMType) (array : vmType.element = some element) (leaf : element.isNested = false)
    (leaf_eq : ∀ xs, writeLeaf conv vmType (.list (xs.map inject)) = writeArray write xs) {name : Str}
    {value data : Data} (schema : Option VMStructSchema)
    (coerced : coerceArray name coerce inject value = .ok data) {out : Bytes}
    (emits : (writeLeaf conv vmType data).Emits () out) :
    (data.canonical vmType).IsListOf inject domain ∧ Keeps vmType schema value (data.canonical vmType) := by
  obtain ⟨items, ensured, rest⟩ := except_bind_eq_ok.mp coerced
  obtain ⟨xs, elements, made⟩ := except_bind_eq_ok.mp rest
  obtain rfl := Except.ok.inj made
  obtain rfl : value = .list items := by
    cases value <;> cases ensured
    rfl
  rw [leaf_eq] at emits
  obtain ⟨small, each⟩ := writeArray_written.mp ⟨_, emits⟩
  have spelled : (Data.list (xs.map inject)).canonical vmType = .list ((xs.map norm).map inject) := by
    rw [canonical_list array, canonicalItems_eq, List.map_map, List.map_map]
    exact congrArg Data.list (List.map_congr_left fun a _ => form.spelled a)
  rw [spelled]
  refine ⟨⟨xs.map norm, ⟨by rwa [List.length_map], ?_⟩, rfl⟩, ?_⟩
  · intro a member
    obtain ⟨x, inside, rfl⟩ := List.mem_map.mp member
    obtain ⟨item, -, name, step⟩ := forall₂_exists_left (coerceElements_eq_ok elements) inside
    obtain ⟨out, written⟩ := each x inside
    exact form.inside step written
  -- the items go through the coercion one by one
  · have kept : List.Forall₂ (Keeps element none) items ((xs.map norm).map inject) := by
      rw [List.map_map, List.forall₂_map_right_iff]
      exact (coerceElements_eq_ok elements).imp fun item x ⟨name, step⟩ => form.keeps step none
    obtain ⟨pairs, rfl, second, related⟩ := exists_pairs kept
    rw [← second]
    exact .items array leaf related

theorem requireMetadataValue_eq_ok {name : Str} {value : Option Data} {required : Data}
    (present : requireMetadataValue name value = .ok required) : value = some required ∧ required ≠ .none := by
  unfold requireMetadataValue at present
  split at present
  next => cases present
  next => cases present
  next value notNone =>
    obtain rfl := Except.ok.inj present
    exact ⟨rfl, notNone⟩

/-- What coercion makes of a value for a type without nested values is written in full. -/
theorem coerceLeaf_keeps (lower : Str → Str) {vmType : VMType} (leaf : vmType.isNested = false)
    {structDef schema : Option VMStructSchema} {name : Str} {value data : Data}
    (coerced : coerceMetadataValue lower name value ⟨vmType, structDef⟩ = .ok data) {out : Bytes}
    (emits : (writeLeaf conv vmType data).Emits () out) :
    LeafData vmType (data.canonical vmType) ∧ Keeps vmType schema value (data.canonical vmType) := by
  rw [coerceMetadataValue] at coerced
  obtain ⟨required, present, made⟩ := except_bind_eq_ok.mp coerced
  obtain ⟨⟨⟩, -⟩ := requireMetadataValue_eq_ok present
  -- Each type has one form, which says what its writer accepts; an array of it has the same form item by item.
  cases vmType with
  | BYTES =>
    exact bytes_form.scalar conv (writeLeaf_bytes conv) schema made emits
  | STRING =>
    exact string_form.scalar conv (fun value => check_bind (by rw [or_str]; rfl) _) schema made emits
  | INT8 => exact int8_form.scalar conv (fun value => check_bind rfl _) schema made emits
  | INT16 =>
    exact (@int_form .INT16 2 rfl (by decide) fun _ => rfl).scalar conv (fun value => check_bind rfl _) schema
      made emits
  | INT32 =>
    exact (@int_form .INT32 4 rfl (by decide) fun _ => rfl).scalar conv (fun value => check_bind rfl _) schema
      made emits
  | INT64 =>
    exact (@int_form .INT64 8 rfl (by decide) fun _ => rfl).scalar conv (fun value => check_bind rfl _) schema
      made emits
  | INT256 =>
    exact int256_form.scalar conv (writeLeaf_int256 conv) schema made emits
  | BYTES16 =>
    exact (@fixed_form .BYTES16 16 rfl).scalar conv (writeFixed_eq conv (by decide)) schema made emits
  | BYTES32 =>
    exact (@fixed_form .BYTES32 32 rfl).scalar conv (writeFixed_eq conv (by decide)) schema made emits
  | BYTES64 =>
    exact (@fixed_form .BYTES64 64 rfl).scalar conv (writeFixed_eq conv (by decide)) schema made emits
  | ARRAY_BYTES =>
    refine bytes_form.array conv .ARRAY_BYTES rfl rfl (fun values => ?_) schema made emits
    exact (check_bind (items_list _) _).trans (writeArray_map (fun value => check_bind rfl _) values)
  | ARRAY_STRING =>
    refine string_form.array conv .ARRAY_STRING rfl rfl (fun values => ?_) schema made emits
    exact (check_bind (items_list _) _).trans (writeArray_map (fun value => check_bind rfl _) values)
  | ARRAY_INT8 => exact int8_form.array conv .ARRAY_INT8 rfl rfl (writeIntItems_eq conv 1) schema made emits
  | ARRAY_INT16 =>
    exact (@int_form .INT16 2 rfl (by decide) fun _ => rfl).array conv .ARRAY_INT16 rfl rfl (writeIntItems_eq conv 2)
      schema made emits
  | ARRAY_INT32 =>
    exact (@int_form .INT32 4 rfl (by decide) fun _ => rfl).array conv .ARRAY_INT32 rfl rfl (writeIntItems_eq conv 4)
      schema made emits
  | ARRAY_INT64 =>
    exact (@int_form .INT64 8 rfl (by decide) fun _ => rfl).array conv .ARRAY_INT64 rfl rfl (writeIntItems_eq conv 8)
      schema made emits
  | ARRAY_INT256 =>
    refine int256_form.array conv .ARRAY_INT256 rfl rfl (fun values => ?_) schema made emits
    have numbers : (values.map Data.int).mapM conv.toInt = .ok values :=
      @mapM_map _ conv.toInt Data.int (fun _ => rfl) values
    exact (check_bind (items_list _) _).trans (check_bind numbers _)
  | ARRAY_BYTES16 =>
    exact (@fixed_form .BYTES16 16 rfl).array conv .ARRAY_BYTES16 rfl rfl (writeFixedItems_eq conv 16) schema made emits
  | ARRAY_BYTES32 =>
    exact (@fixed_form .BYTES32 32 rfl).array conv .ARRAY_BYTES32 rfl rfl (writeFixedItems_eq conv 32) schema made emits
  | ARRAY_BYTES64 =>
    exact (@fixed_form .BYTES64 64 rfl).array conv .ARRAY_BYTES64 rfl rfl (writeFixedItems_eq conv 64) schema made emits
  | DYNAMIC | ARRAY_DYNAMIC | STRUCT | ARRAY_STRUCT => cases leaf

end Leaves

/-! ## Struct input -/

theorem ensureMetadataKey_eq_ok {name : Str} {key : Data} {text : Str} :
    ensureMetadataKey name key = .ok text ↔ key = .str text := by
  cases key <;> simp [ensureMetadataKey]

theorem metadataFieldItem_eq_ok {name : Str} {item : Data} {entry : Str × Data}
    (read : metadataFieldItem name item = .ok entry) : item.entry? = some entry := by
  unfold metadataFieldItem at read
  split at read
  next => exact congrArg some (Except.ok.inj read)
  next key value =>
    obtain ⟨text, isText, made⟩ := except_bind_eq_ok.mp read
    obtain rfl := ensureMetadataKey_eq_ok.mp isText
    exact congrArg some (Except.ok.inj made)
  next => cases read

/-- What the code takes for the entries of a struct. -/
theorem metadataStructInputToFields_eq_ok {name : Str} {value : Data} {entries : Metadata}
    (read : metadataStructInputToFields name value = .ok entries) : value.entries? = some entries := by
  cases value with
  | mapping given =>
    refine mapM_eq_some.mpr ((mapM_eq_ok.mp read).imp fun entry field step => ?_)
    obtain ⟨key, value⟩ := entry
    obtain ⟨text, isText, made⟩ := except_bind_eq_ok.mp step
    obtain rfl := Except.ok.inj made
    cases key with
    | none => cases isText
    | some key =>
      obtain ⟨⟩ := ensureMetadataKey_eq_ok.mp isText
      rfl
  | list items => exact mapM_eq_some.mpr ((mapM_eq_ok.mp read).imp fun item field => metadataFieldItem_eq_ok)
  | _ => cases read

/-! ## Fields -/

section Fields

variable (conv : Conversions) (lower : Str → Str)

theorem findMetadataField_eq_ok {metadata : Metadata} {name : Str} {found : Option Data}
    (search : findMetadataField lower metadata name = .ok found) : metadata.lookup name = found := by
  unfold findMetadataField at search
  split at search
  next present =>
    rw [present]
    exact Except.ok.inj search
  next absent =>
    split at search
    next => cases search
    next =>
      rw [absent]
      exact Except.ok.inj search

/-- The field that the loop makes of a field of the schema. -/
def CoercedField (metadata : Metadata) (field : VMNamedVariableSchema) (out : VMNamedDynamicVariable) : Prop :=
  ∃ supplied data, metadata.lookup field.name.value = some supplied ∧
    coerceMetadataValue lower field.name.value supplied field.schema = .ok data ∧
    out = ⟨field.name, ⟨field.schema.type, data⟩⟩

theorem filter_noDefaults (fields : List VMNamedVariableSchema) :
    (fields.filter fun field => !hasDefaultField [] field.name.value) = fields :=
  List.filter_eq_self.mpr fun _ _ => rfl

/-- There is one field for each of the schema's that has no default. -/
theorem metadataDynamicFields_eq_ok {defaults : List TokenSchemaField} {metadata : Metadata}
    {fields : List VMNamedVariableSchema} {out : List VMNamedDynamicVariable}
    (built : metadataDynamicFields lower defaults metadata fields = .ok out) :
    List.Forall₂ (CoercedField lower metadata)
      (fields.filter fun field => !hasDefaultField defaults field.name.value) out := by
  induction fields generalizing out with
  | nil =>
    rw [metadataDynamicFields] at built
    obtain rfl := Except.ok.inj built
    exact .nil
  | cons field fields ih =>
    obtain ⟨name, schema⟩ := field
    rw [metadataDynamicFields] at built
    -- the builder supplies its own fields, so that the loop passes over them
    by_cases isDefault : hasDefaultField defaults name.value
    · rw [if_pos isDefault] at built
      rw [List.filter_cons_of_neg (by simp [isDefault])]
      exact ih built
    · rw [if_neg isDefault] at built
      rw [List.filter_cons_of_pos (by simp [isDefault])]
      obtain ⟨found, search, built⟩ := except_bind_eq_ok.mp built
      obtain ⟨supplied, present, built⟩ := except_bind_eq_ok.mp built
      obtain ⟨data, coerced, built⟩ := except_bind_eq_ok.mp built
      obtain ⟨rest, others, made⟩ := except_bind_eq_ok.mp built
      obtain rfl := Except.ok.inj made
      obtain ⟨rfl, -⟩ := requireMetadataValue_eq_ok present
      exact .cons ⟨supplied, data, findMetadataField_eq_ok lower search, coerced, rfl⟩ (ih others)

/-- A loop that succeeds does so on every field. -/
theorem fields_emit {writers : List FieldWriter} {schemaFields : List VMNamedVariableSchema} {ok : Bool}
    {fieldsFound : Nat} {result : Bool × Nat} {out : Bytes}
    (emits : (writeFields conv writers schemaFields ok fieldsFound).Emits result out) :
    ∀ field ∈ schemaFields, ∃ written image, (writeField conv writers field).Emits written image := by
  induction schemaFields generalizing ok fieldsFound out with
  | nil => simp
  | cons field schemaFields ih =>
    rw [writeFields_cons] at emits
    obtain ⟨written, image, _, head, rest, -⟩ := Put.emits_bind.mp emits
    rw [List.forall_mem_cons]
    exact ⟨⟨written, image, head⟩, ih rest⟩

/-- The loop of the writer succeeds on every field that it finds. -/
theorem emits_writeFields {writers : List FieldWriter} {schemaFields : List VMNamedVariableSchema} {ok : Bool}
    {fieldsFound : Nat} {result : Bool × Nat} {out : Bytes}
    (emits : (writeFields conv writers schemaFields ok fieldsFound).Emits result out)
    {field : VMNamedVariableSchema} (member : field ∈ schemaFields) {writer : FieldWriter}
    (found : (writers.find? fun writer => writer.name.value = field.name.value) = some writer) :
    ∃ ok out, (writer.writeStatic field.schema.type field.schema.structDef).Emits ok out := by
  have written := fields_emit conv emits field member
  unfold writeField at written
  rwa [found] at written

/-- A field of the declared type is written under its definition. -/
theorem emits_field {fields : List VMNamedDynamicVariable} (distinct : DistinctNames fields)
    {schemaFields : List VMNamedVariableSchema} {ok : Bool} {fieldsFound : Nat} {result : Bool × Nat}
    {out : Bytes}
    (emits : (writeFields conv (fieldWriters conv fields) schemaFields ok fieldsFound).Emits result out)
    {field : VMNamedVariableSchema} (member : field ∈ schemaFields) {data : Data}
    (present : ⟨field.name, ⟨field.schema.type, data⟩⟩ ∈ fields) :
    ∃ ok out, (data.writeAs conv field.schema.type field.schema.structDef).Emits ok out := by
  obtain ⟨ok, out, written⟩ := emits_writeFields conv emits member (find_writer conv distinct present)
  change (if field.schema.type = field.schema.type then _ else _ : CarbonWriter Bool).Emits ok out at written
  rw [if_pos rfl] at written
  exact ⟨ok, out, written⟩

theorem emits_writeWithSchema {writers : List FieldWriter} {schema : VMStructSchema} {ok : Bool} {out : Bytes}
    (emits : (writeWithSchema conv writers schema).Emits ok out) :
    ∃ result out, (writeFields conv writers schema.fields true 0).Emits result out := by
  obtain ⟨schemaFields, flags⟩ := schema
  rw [writeWithSchema] at emits
  obtain ⟨result, head, _, written, -⟩ := Put.emits_bind.mp emits
  exact ⟨result, head, written⟩

/-- What coercion makes of a struct that has a schema. -/
theorem coerceDefinedStruct_cases {name : Str} {value : Data} {schema : VMStructSchema} {struct : VMDynamicStruct}
    (coerced : coerceDefinedStruct lower name value schema = .ok struct) :
    value = .struct struct ∨ ∃ entries, value.entries? = some entries ∧
      metadataDynamicFields lower [] entries schema.fields = .ok struct.fields := by
  obtain ⟨schemaFields, flags⟩ := schema
  by_cases ready : ∃ own, value = .struct own
  · obtain ⟨own, rfl⟩ := ready
    rw [coerceDefinedStruct] at coerced
    obtain rfl := Except.ok.inj coerced
    exact .inl rfl
  · rw [coerceDefinedStruct] at coerced
    · obtain ⟨entries, read, rest⟩ := except_bind_eq_ok.mp coerced
      obtain ⟨out, built, rest⟩ := except_bind_eq_ok.mp rest
      obtain ⟨_, -, made⟩ := except_bind_eq_ok.mp rest
      obtain rfl := Except.ok.inj made
      exact .inr ⟨entries, metadataStructInputToFields_eq_ok read, built⟩
    · exact fun own same => ready ⟨own, same⟩

/-- The fields that coercion makes have the names of the schema's. -/
theorem coercedFields_names {metadata : Metadata} {fields : List VMNamedVariableSchema}
    {out : List VMNamedDynamicVariable} (all : List.Forall₂ (CoercedField lower metadata) fields out) :
    out.map (fun field => field.name.value) = fields.map fun field => field.name.value := by
  induction all with
  | nil => rfl
  | cons head _ ih =>
    obtain ⟨_, _, -, -, rfl⟩ := head
    rw [List.map_cons, List.map_cons, ih]

theorem coerceMetadataValue_struct_inv {name : Str} {value data : Data} {structDef : Option VMStructSchema}
    (coerced : coerceMetadataValue lower name value ⟨.STRUCT, structDef⟩ = .ok data) :
    ∃ struct, coerceMetadataStruct lower name value structDef = .ok struct ∧ data = .struct struct := by
  rw [coerceMetadataValue] at coerced
  obtain ⟨required, present, made⟩ := except_bind_eq_ok.mp coerced
  obtain ⟨⟨⟩, -⟩ := requireMetadataValue_eq_ok present
  obtain ⟨struct, step, made⟩ := except_bind_eq_ok.mp made
  exact ⟨struct, step, (Except.ok.inj made).symm⟩

theorem coerceMetadataValue_structArray_inv {name : Str} {value data : Data}
    {structDef : Option VMStructSchema}
    (coerced : coerceMetadataValue lower name value ⟨.ARRAY_STRUCT, structDef⟩ = .ok data) :
    ∃ array, coerceMetadataStructArray lower name value structDef = .ok array ∧ data = .structArray array := by
  rw [coerceMetadataValue] at coerced
  obtain ⟨required, present, made⟩ := except_bind_eq_ok.mp coerced
  obtain ⟨⟨⟩, -⟩ := requireMetadataValue_eq_ok present
  obtain ⟨array, step, made⟩ := except_bind_eq_ok.mp made
  exact ⟨array, step, (Except.ok.inj made).symm⟩

/-- Without a schema there is nothing to coerce a struct to. -/
theorem coerceMetadataStruct_none {name : Str} {value : Data} {struct : VMDynamicStruct}
    (coerced : coerceMetadataStruct lower name value none = .ok struct) : value = .struct struct := by
  by_cases ready : ∃ own, value = .struct own
  · obtain ⟨own, rfl⟩ := ready
    rw [coerceMetadataStruct] at coerced
    exact congrArg Data.struct (Except.ok.inj coerced)
  · rw [coerceMetadataStruct] at coerced
    · cases coerced
    · exact fun own same => ready ⟨own, same⟩

/-- A struct array is ready-made, or it is coerced element by element. -/
theorem coerceMetadataStructArray_cases {name : Str} {value : Data} {structDef : Option VMStructSchema}
    {array : VMStructArray} (coerced : coerceMetadataStructArray lower name value structDef = .ok array) :
    value = .structArray array ∨ ∃ definition items structs, structDef = some definition ∧ value = .list items ∧
      coerceElements name (fun name item => coerceDefinedStruct lower name item definition) items = .ok structs ∧
      array = ⟨definition, structs.map .struct⟩ := by
  by_cases ready : ∃ own, value = .structArray own
  · obtain ⟨own, rfl⟩ := ready
    left
    cases structDef <;> rw [coerceMetadataStructArray] at coerced <;>
      exact congrArg Data.structArray (Except.ok.inj coerced)
  · have different (own : VMStructArray) (same : value = .structArray own) : False := ready ⟨own, same⟩
    cases structDef with
    | none =>
      rw [coerceMetadataStructArray] at coerced
      · obtain ⟨_, -, refused⟩ := except_bind_eq_ok.mp coerced
        cases refused
      · exact different
    | some definition =>
      rw [coerceMetadataStructArray] at coerced
      · obtain ⟨items, ensured, rest⟩ := except_bind_eq_ok.mp coerced
        obtain ⟨structs, elements, made⟩ := except_bind_eq_ok.mp rest
        obtain rfl : value = .list items := by
          cases value <;> cases ensured
          rfl
        exact .inr ⟨definition, items, structs, rfl, rfl, elements, (Except.ok.inj made).symm⟩
      · exact different

/-! ## Coercion -/

/-- Related elements that the first ones determine. -/
theorem forall₂_eq_map {α β : Type} {related : α → β → Prop} {image : α → β} {xs : List α} {ys : List β}
    (all : List.Forall₂ related xs ys) (determined : ∀ x ∈ xs, ∀ y, related x y → y = image x) : ys = xs.map image := by
  induction all with
  | nil => rfl
  | cons head _ ih =>
    rw [List.map_cons, determined _ List.mem_cons_self _ head,
      ih fun x member => determined x (List.mem_cons_of_mem _ member)]

theorem canonical_boundField (data : VMNamedVariableSchema → Data) (fields : List VMNamedVariableSchema) :
    canonicalFields (fields.map (boundField data)) =
      fields.map (boundField fun field => (data field).canonical field.schema.type) := by
  rw [canonicalFields_eq, List.map_map]
  rfl

/-- A struct that is coerced field by field. -/
theorem coerceFields {value : Data} {entries : Metadata} {schema : VMStructSchema} {struct : VMDynamicStruct}
    (given : value.entries? = some entries)
    (built : metadataDynamicFields lower [] entries schema.fields = .ok struct.fields)
    (distinct : (schema.fields.map fun field => field.name.value).Nodup) {ok : Bool} {out : Bytes}
    (emits : (writeWithSchema conv (struct.writers conv) schema).Emits ok out)
    (each : ∀ field ∈ schema.fields, ∀ supplied data ok out,
      coerceMetadataValue lower field.name.value supplied field.schema = .ok data →
      (data.writeAs conv field.schema.type field.schema.structDef).Emits ok out →
        Coerces field.schema.type field.schema.structDef supplied (data.canonical field.schema.type)) :
    Coerces .STRUCT (some schema) value (.struct struct.canonical) := by
  obtain ⟨fields⟩ := struct
  have all := metadataDynamicFields_eq_ok lower built
  rw [filter_noDefaults] at all
  have one : ∀ field ∈ schema.fields, ∃ supplied data, entries.lookup field.name.value = some supplied ∧
      coerceMetadataValue lower field.name.value supplied field.schema = .ok data := by
    intro field member
    obtain ⟨_, -, supplied, data, found, coerced, -⟩ := forall₂_exists_right all member
    exact ⟨supplied, data, found, coerced⟩
  have someData : Nonempty Data := ⟨.none⟩
  choose! supplied data found coerced using one
  obtain rfl : fields = schema.fields.map (boundField data) := by
    refine forall₂_eq_map all ?_
    rintro field member _ ⟨supplied, other, looked, step, rfl⟩
    obtain rfl := Option.some.inj ((found field member).symm.trans looked)
    obtain rfl := Except.ok.inj ((coerced field member).symm.trans step)
    rfl
  obtain ⟨_, _, written⟩ := emits_writeWithSchema conv emits
  have names : DistinctNames (schema.fields.map (boundField data)) := by
    unfold DistinctNames
    rwa [List.map_map]
  rw [VMDynamicStruct.canonical, canonical_boundField]
  refine .fields given distinct found fun field member => ?_
  obtain ⟨ok, out, emitted⟩ := emits_field conv names written member (List.mem_map_of_mem member)
  exact each field member _ _ ok out (coerced field member) emitted

/-- A struct array that is coerced element by element. -/
theorem coerceStructs {name : Str} {items : List Data} {schema : VMStructSchema} {structs : List VMDynamicStruct}
    (coerced : coerceElements name (fun name item => coerceDefinedStruct lower name item schema) items = .ok structs)
    {ok : Bool} {out : Bytes}
    (emits : ((Data.structArray ⟨schema, structs.map .struct⟩).writeAs conv .ARRAY_STRUCT (some schema)).Emits ok out)
    (each : ∀ name item struct ok out, coerceDefinedStruct lower name item schema = .ok struct →
      (writeWithSchema conv (struct.writers conv) schema).Emits ok out →
        Coerces .STRUCT (some schema) item (.struct struct.canonical)) :
    Coerces .ARRAY_STRUCT (some schema) (.list items)
      ((Data.structArray ⟨schema, structs.map .struct⟩).canonical .ARRAY_STRUCT) := by
  rw [Data.writeAs, writeBody] at emits
  simp only at emits
  rw [structWriters_eq, Put.emits_seq] at emits
  obtain ⟨_, _, written, -, -⟩ := emits
  obtain ⟨_, _, -, written, -⟩ := Put.emits_seq.mp written
  -- each element has an image within that of the array
  have eachWritten := Put.emits_each_mem written
  obtain ⟨pairs, rfl, rfl, related⟩ := exists_pairs (coerceElements_eq_ok coerced)
  let spell (pair : Data × VMDynamicStruct) : Data × VMDynamicStruct := (pair.1, pair.2.canonical)
  have supplied : pairs.map Prod.fst = (pairs.map spell).map Prod.fst := by
    rw [List.map_map]
    rfl
  have spelled : (Data.structArray ⟨schema, (pairs.map Prod.snd).map .struct⟩).canonical .ARRAY_STRUCT =
      .structArray ⟨schema, ((pairs.map spell).map Prod.snd).map .struct⟩ := by
    rw [Data.canonical, if_pos rfl, canonicalItems_eq]
    simp only [List.map_map]
    rfl
  rw [supplied, spelled]
  refine .structs fun pair member => ?_
  obtain ⟨original, inside, rfl⟩ := List.mem_map.mp member
  obtain ⟨name, step⟩ := related original inside
  obtain ⟨_, element⟩ := eachWritten _ (List.mem_map_of_mem (List.mem_map_of_mem inside))
  obtain ⟨ok, out, _, element, -, -⟩ := Put.emits_bind.mp element
  exact each name original.1 original.2 ok out step element

mutual

/-- What the coercion makes of a value that is then written. -/
theorem coerceMetadataValue_coerces : ∀ (schema : VMVariableSchema) {name : Str} {value data : Data} {ok : Bool}
    {out : Bytes}, defOrderly schema.type schema.structDef →
    coerceMetadataValue lower name value schema = .ok data →
    (data.writeAs conv schema.type schema.structDef).Emits ok out →
    Coerces schema.type schema.structDef value (data.canonical schema.type)
  | ⟨vmType, structDef⟩, name, value, data, ok, out, orderly, coerced, emits => by
    cases nested : vmType.isNested with
    | false =>
      rw [writeAs_leaf conv nested] at emits
      obtain ⟨_, _, _, written, -, -⟩ := Put.emits_bind.mp emits
      obtain ⟨leafData, keeps⟩ := @coerceLeaf_keeps conv lower vmType nested structDef structDef _ _ _ coerced _ written
      exact .leaf leafData keeps
    | true =>
      cases vmType with
      | DYNAMIC =>
        rw [coerceMetadataValue] at coerced
        obtain ⟨required, present, made⟩ := except_bind_eq_ok.mp coerced
        obtain ⟨⟨⟩, -⟩ := requireMetadataValue_eq_ok present
        obtain rfl := Except.ok.inj made
        exact .ready .dynamic
      | ARRAY_DYNAMIC =>
        rw [coerceMetadataValue] at coerced
        obtain ⟨required, present, made⟩ := except_bind_eq_ok.mp coerced
        obtain ⟨⟨⟩, -⟩ := requireMetadataValue_eq_ok present
        obtain ⟨items, ensured, taken⟩ := except_bind_eq_ok.mp made
        obtain rfl : value = .list items := by
          cases value <;> cases ensured
          rfl
        split at taken
        next =>
          obtain rfl := Except.ok.inj taken
          exact .ready .dynamicArray
        next => cases taken
      | STRUCT =>
        obtain ⟨struct, step, rfl⟩ := coerceMetadataValue_struct_inv lower coerced
        cases structDef with
        | none =>
          obtain rfl := coerceMetadataStruct_none lower step
          exact .ready .struct
        | some definition =>
          rw [coerceMetadataStruct] at step
          exact coerceDefinedStruct_coerces definition (orderly rfl).1 step emits
      | ARRAY_STRUCT =>
        obtain ⟨array, step, rfl⟩ := coerceMetadataValue_structArray_inv lower coerced
        cases structDef with
        | none =>
          rcases coerceMetadataStructArray_cases lower step with rfl | ⟨_, _, _, none, -⟩
          · exact .ready .structArray
          · cases none
        | some definition =>
          rcases coerceMetadataStructArray_cases lower step with rfl | ⟨_, items, structs, ⟨⟩, rfl, elements, rfl⟩
          · exact .ready .structArray
          · refine coerceStructs conv lower elements emits fun name item struct ok out step written => ?_
            exact coerceDefinedStruct_coerces definition (orderly rfl).1 step written
      | _ => cases nested

theorem coerceDefinedStruct_coerces : ∀ (schema : VMStructSchema) {name : Str} {value : Data}
    {struct : VMDynamicStruct} {ok : Bool} {out : Bytes}, schema.Orderly →
    coerceDefinedStruct lower name value schema = .ok struct →
    (writeWithSchema conv (struct.writers conv) schema).Emits ok out →
    Coerces .STRUCT (some schema) value (.struct struct.canonical)
  | ⟨schemaFields, flags⟩, name, value, struct, ok, out, orderly, coerced, emits => by
    rcases coerceDefinedStruct_cases lower coerced with rfl | ⟨entries, given, built⟩
    · exact .ready .struct
    · refine coerceFields conv lower given built orderly.1 emits
        fun field member supplied data ok out step written => ?_
      exact coerceFields_coerces schemaFields orderly.2 field member step written

theorem coerceFields_coerces : ∀ schemaFields : List VMNamedVariableSchema, fieldsOrderly schemaFields →
    ∀ field ∈ schemaFields, ∀ {name : Str} {value data : Data} {ok : Bool} {out : Bytes},
    coerceMetadataValue lower name value field.schema = .ok data →
    (data.writeAs conv field.schema.type field.schema.structDef).Emits ok out →
    Coerces field.schema.type field.schema.structDef value (data.canonical field.schema.type)
  | [], _, field, member, _, _, _, _, _, _, _ => absurd member List.not_mem_nil
  | ⟨fieldName, ⟨type, structDef⟩⟩ :: schemaFields, ⟨ordered, orderly⟩, field, member, _, _, _, _, _, coerced,
      emits => by
    rcases List.mem_cons.mp member with rfl | member
    · exact coerceMetadataValue_coerces ⟨type, structDef⟩ ordered coerced emits
    · exact coerceFields_coerces schemaFields orderly field member coerced emits

end

end Fields

end PhantasmaPy.Carbon
