import PhantasmaPy.Carbon.Dynamic
import PhantasmaPy.Carbon.SchemaLaws
import PhantasmaPy.Carbon.BigIntLaws

/-! # Laws of dynamic values

The recursion equation of the reader, which the count or the type byte in front of every nested value
makes well founded, and the round trip of the types without nested values.
-/

namespace PhantasmaPy.Carbon

open Wire CarbonWriter CarbonReader

/-! ## The recursion equation of the reader -/

theorem readIntElement_local (width : Nat) (signed : Bool) : (readIntElement width signed).Local := by
  unfold readIntElement
  split
  · exact read1_local.bind fun _ => Get.Local.pure _
  · exact readSigned_local 2
  · exact readSigned_local 4
  · exact Get.Local.ite (readSigned_local 8) (readUnsigned_local 8)
  · exact Get.Local.throw _

/-- A reader whose result is wrapped. -/
theorem steady_map {α : Type} {reader : CarbonReader α} (steady : reader.Steady) (f : α → Data) :
    (do let a ← reader; return f a : CarbonReader Data).Steady :=
  steady.bind fun _ => (Get.Local.pure _).steady

theorem readLeaf_steady (vmType : VMType) : (readLeaf vmType).Steady := by
  cases vmType with
  | BYTES => exact steady_map readByteArray_local.steady _
  | INT8 => exact steady_map (readIntElement_local 1 true).steady _
  | INT16 => exact steady_map (readSigned_local 2).steady _
  | INT32 => exact steady_map (readSigned_local 4).steady _
  | INT64 => exact steady_map (readSigned_local 8).steady _
  | INT256 => exact steady_map readBigInt_local.steady _
  | BYTES16 => exact steady_map (readFixed_local 16).steady _
  | BYTES32 => exact steady_map (readFixed_local 32).steady _
  | BYTES64 => exact steady_map (readFixed_local 64).steady _
  | STRING => exact steady_map readStringZ_local.steady _
  | ARRAY_BYTES => exact steady_map (array_steady readByteArray_local.steady) _
  | ARRAY_INT8 => exact steady_map (array_steady (readIntElement_local 1 true).steady) _
  | ARRAY_INT16 => exact steady_map (array_steady (readIntElement_local 2 true).steady) _
  | ARRAY_INT32 => exact steady_map (array_steady (readIntElement_local 4 true).steady) _
  | ARRAY_INT64 => exact steady_map (array_steady (readIntElement_local 8 true).steady) _
  | ARRAY_INT256 => exact steady_map (array_steady readBigInt_local.steady) _
  | ARRAY_BYTES16 => exact steady_map (array_steady (readFixed_local 16).steady) _
  | ARRAY_BYTES32 => exact steady_map (array_steady (readFixed_local 32).steady) _
  | ARRAY_BYTES64 => exact steady_map (array_steady (readFixed_local 64).steady) _
  | ARRAY_STRING => exact steady_map (array_steady readStringZ_local.steady) _
  | _ => exact (Get.Local.throw _).steady

section Recursion

variable {f g : VMType → CarbonReader Data} {n : Nat}

theorem readVariable_consumes (shrinks : ∀ vmType, (f vmType).Shrinks) : (readVariable f).Consumes :=
  VMType.readCarbon_consumes.bind_shrinks fun vmType =>
    (shrinks vmType).bind fun _ => (Get.Local.pure _).shrinks

theorem readVariable_agree (shrinks : ∀ vmType, (f vmType).Shrinks)
    (agree : ∀ vmType, Get.EqBelow n (f vmType) (g vmType)) :
    Get.EqBelow (n + 1) (readVariable f) (readVariable g) :=
  Get.EqBelow.consume VMType.readCarbon_consumes fun vmType =>
    (agree vmType).bind (shrinks vmType) fun _ => Get.EqBelow.refl n _

theorem readNamed_consumes (shrinks : ∀ vmType, (f vmType).Shrinks) : (readNamed f).Consumes :=
  SmallString.readCarbon_consumes.bind_shrinks fun _ =>
    (readVariable_consumes shrinks).shrinks.bind fun _ => (Get.Local.pure _).shrinks

theorem readNamed_agree (shrinks : ∀ vmType, (f vmType).Shrinks)
    (agree : ∀ vmType, Get.EqBelow n (f vmType) (g vmType)) :
    Get.EqBelow n (readNamed f) (readNamed g) :=
  (Get.EqBelow.refl n _).bind SmallString.readCarbon_local.shrinks fun _ =>
    ((readVariable_agree shrinks agree).mono n.le_succ).bind (readVariable_consumes shrinks).shrinks
      fun _ => Get.EqBelow.refl n _

theorem readNamedArray_consumes (shrinks : ∀ vmType, (f vmType).Shrinks) :
    (readArray (readNamed f)).Consumes := readArray_consumes (readNamed_consumes shrinks).shrinks

theorem readNamedArray_agree (shrinks : ∀ vmType, (f vmType).Shrinks)
    (agree : ∀ vmType, Get.EqBelow n (f vmType) (g vmType)) :
    Get.EqBelow (n + 1) (readArray (readNamed f)) (readArray (readNamed g)) :=
  readArray_agree (readNamed_agree shrinks agree) (readNamed_consumes shrinks).shrinks

theorem readStruct_consumes (shrinks : ∀ vmType, (f vmType).Shrinks) : (readStruct f).Consumes :=
  (readNamedArray_consumes shrinks).bind_shrinks fun _ => (Get.Local.pure _).shrinks

theorem readStruct_agree (shrinks : ∀ vmType, (f vmType).Shrinks)
    (agree : ∀ vmType, Get.EqBelow n (f vmType) (g vmType)) :
    Get.EqBelow (n + 1) (readStruct f) (readStruct g) :=
  (readNamedArray_agree shrinks agree).bind (readNamedArray_consumes shrinks).shrinks fun _ =>
    Get.EqBelow.refl (n + 1) _

mutual

theorem readWithSchema_shrinks (shrinks : ∀ vmType, (f vmType).Shrinks) :
    ∀ schema, (readWithSchema f schema).Shrinks
  | ⟨schemaFields, flags⟩ => by
    rw [readWithSchema]
    refine (readFields_shrinks shrinks schemaFields).bind fun fields => ?_
    split
    · exact (readNamedArray_consumes shrinks).shrinks.bind fun _ => (Get.Local.pure _).shrinks
    · exact (Get.Local.pure _).shrinks

theorem readFields_shrinks (shrinks : ∀ vmType, (f vmType).Shrinks) :
    ∀ schemaFields, (readFields f schemaFields).Shrinks
  | [] => (Get.Local.pure _).shrinks
  | ⟨name, ⟨type, structDef⟩⟩ :: schemaFields => by
    rw [readFields]
    exact (readStatic_shrinks shrinks type structDef).bind fun _ =>
      (readFields_shrinks shrinks schemaFields).bind fun _ => (Get.Local.pure _).shrinks

theorem readStatic_shrinks (shrinks : ∀ vmType, (f vmType).Shrinks) (vmType : VMType) :
    ∀ schema, (readStatic f vmType schema).Shrinks
  | none => shrinks vmType
  | some schema => by
    have struct := readWithSchema_shrinks shrinks schema
    cases vmType with
    | STRUCT => exact struct.bind fun _ => (Get.Local.pure _).shrinks
    | ARRAY_STRUCT => exact (readArray_shrinks struct).bind fun _ => (Get.Local.pure _).shrinks
    | _ => exact shrinks _

end

mutual

theorem readWithSchema_agree (shrinks : ∀ vmType, (f vmType).Shrinks)
    (agree : ∀ vmType, Get.EqBelow n (f vmType) (g vmType)) :
    ∀ schema, Get.EqBelow n (readWithSchema f schema) (readWithSchema g schema)
  | ⟨schemaFields, flags⟩ => by
    rw [readWithSchema, readWithSchema]
    refine (readFields_agree shrinks agree schemaFields).bind (readFields_shrinks shrinks _)
      fun fields => ?_
    split
    · exact ((readNamedArray_agree shrinks agree).mono n.le_succ).bind
        (readNamedArray_consumes shrinks).shrinks fun _ => Get.EqBelow.refl n _
    · exact Get.EqBelow.refl n _

theorem readFields_agree (shrinks : ∀ vmType, (f vmType).Shrinks)
    (agree : ∀ vmType, Get.EqBelow n (f vmType) (g vmType)) :
    ∀ schemaFields, Get.EqBelow n (readFields f schemaFields) (readFields g schemaFields)
  | [] => Get.EqBelow.refl n _
  | ⟨name, ⟨type, structDef⟩⟩ :: schemaFields => by
    rw [readFields, readFields]
    exact (readStatic_agree shrinks agree type structDef).bind (readStatic_shrinks shrinks _ _) fun _ =>
      (readFields_agree shrinks agree schemaFields).bind (readFields_shrinks shrinks _) fun _ =>
        Get.EqBelow.refl n _

theorem readStatic_agree (shrinks : ∀ vmType, (f vmType).Shrinks)
    (agree : ∀ vmType, Get.EqBelow n (f vmType) (g vmType)) (vmType : VMType) :
    ∀ schema, Get.EqBelow n (readStatic f vmType schema) (readStatic g vmType schema)
  | none => agree vmType
  | some schema => by
    have struct := readWithSchema_agree shrinks agree schema
    have structShrinks := readWithSchema_shrinks shrinks schema
    cases vmType with
    | STRUCT => exact struct.bind structShrinks fun _ => Get.EqBelow.refl n _
    | ARRAY_STRUCT =>
      exact ((readArray_agree struct structShrinks).mono n.le_succ).bind
        (readArray_shrinks structShrinks) fun _ => Get.EqBelow.refl n _
    | _ => exact agree _

end

end Recursion

/-- The elements of an array whose schema travels in front of them. -/
theorem inlineElements_shrinks {f : VMType → CarbonReader Data} (shrinks : ∀ vmType, (f vmType).Shrinks)
    (count : Nat) (schema : VMStructSchema) :
    (if schema.fields.isEmpty then do
        let structs ← Get.times (readStruct f) count
        return Data.structArray ⟨schema, structs.map .struct⟩
      else do
        let structs ← Get.times (readWithSchema f schema) count
        return .structArray ⟨schema, structs.map .struct⟩ : CarbonReader Data).Shrinks := by
  split
  · exact ((readStruct_consumes shrinks).shrinks.times count).bind fun _ => (Get.Local.pure _).shrinks
  · exact ((readWithSchema_shrinks shrinks schema).times count).bind fun _ =>
      (Get.Local.pure _).shrinks

theorem readInlineBody_leaf (f : VMType → CarbonReader Data) {vmType : VMType}
    (leaf : vmType.isNested = false) : readInlineBody f vmType = readLeaf vmType := by
  cases vmType <;> first | rfl | cases leaf

theorem readInlineBody_guarded : Get.Guarded readInlineBody where
  shrinks f shrinks vmType := by
    cases vmType with
    | DYNAMIC => exact (readVariable_consumes shrinks).shrinks.bind fun _ => (Get.Local.pure _).shrinks
    | STRUCT => exact (readStruct_consumes shrinks).shrinks.bind fun _ => (Get.Local.pure _).shrinks
    | ARRAY_DYNAMIC =>
      exact (readArray_shrinks (readVariable_consumes shrinks).shrinks).bind fun _ =>
        (Get.Local.pure _).shrinks
    | ARRAY_STRUCT =>
      exact readLength_steady.shrinks.bind fun count =>
        VMStructSchema.readCarbon_shrinks.bind fun schema => inlineElements_shrinks shrinks count schema
    | _ =>
      rw [readInlineBody_leaf f rfl]
      exact (readLeaf_steady _).shrinks
  agrees n f g shrinks _ agree vmType := by
    cases vmType with
    | DYNAMIC =>
      exact (readVariable_agree shrinks agree).bind (readVariable_consumes shrinks).shrinks fun _ =>
        Get.EqBelow.refl (n + 1) _
    | STRUCT =>
      exact (readStruct_agree shrinks agree).bind (readStruct_consumes shrinks).shrinks fun _ =>
        Get.EqBelow.refl (n + 1) _
    | ARRAY_DYNAMIC =>
      have items := (readVariable_agree shrinks agree).mono n.le_succ
      have itemsShrink := (readVariable_consumes shrinks).shrinks
      exact (readArray_agree items itemsShrink).bind (readArray_shrinks itemsShrink) fun _ =>
        Get.EqBelow.refl (n + 1) _
    | ARRAY_STRUCT =>
      -- the count is consumed before any element, so that the elements may be as long as what is left
      refine Get.EqBelow.consume readLength_consumes fun count =>
        (Get.EqBelow.refl n _).bind VMStructSchema.readCarbon_shrinks fun schema => ?_
      split
      · have structs := ((readStruct_agree shrinks agree).mono n.le_succ).times
          (readStruct_consumes shrinks).shrinks count
        exact structs.bind ((readStruct_consumes shrinks).shrinks.times count) fun _ =>
          Get.EqBelow.refl n _
      · have structs := (readWithSchema_agree shrinks agree schema).times
          (readWithSchema_shrinks shrinks schema) count
        exact structs.bind ((readWithSchema_shrinks shrinks schema).times count) fun _ =>
          Get.EqBelow.refl n _
    | _ =>
      rw [readInlineBody_leaf f rfl, readInlineBody_leaf g rfl]
      exact Get.EqBelow.refl (n + 1) _

/-- `read_static` without a schema calls itself for nested values. -/
theorem readInline_eq (vmType : VMType) : readInline vmType = readInlineBody readInline vmType :=
  readInlineBody_guarded.fix_eq vmType

theorem readInline_shrinks (vmType : VMType) : (readInline vmType).Shrinks :=
  readInlineBody_guarded.fix_shrinks vmType

/-! ## Types without nested values -/

/-- The value is one of the domain, in the class that `inject` makes. -/
def Data.IsOf {α : Type} (inject : α → Data) (domain : α → Prop) (data : Data) : Prop :=
  ∃ a, domain a ∧ data = inject a

/-- The value is a list of values of the domain. -/
def Data.IsListOf {α : Type} (inject : α → Data) (domain : α → Prop) (data : Data) : Prop :=
  ∃ xs, ArrayOf domain xs ∧ data = .list (xs.map inject)

/-- Data of the class and range of a type without nested values. -/
def LeafData (vmType : VMType) (data : Data) : Prop :=
  match vmType with
  | .BYTES => data.IsOf .bytes ShortBytes
  | .INT8 => data.IsOf .int (Signed 8)
  | .INT16 => data.IsOf .int (Signed 16)
  | .INT32 => data.IsOf .int (Signed 32)
  | .INT64 => data.IsOf .int (Signed 64)
  | .INT256 => data.IsOf .int (Signed 256)
  | .BYTES16 => data.IsOf (.fixed 16) fun _ => True
  | .BYTES32 => data.IsOf (.fixed 32) fun _ => True
  | .BYTES64 => data.IsOf (.fixed 64) fun _ => True
  | .STRING => data.IsOf .str ZeroFree
  | .ARRAY_BYTES => data.IsListOf .bytes ShortBytes
  | .ARRAY_INT8 => data.IsListOf .int (Signed 8)
  | .ARRAY_INT16 => data.IsListOf .int (Signed 16)
  | .ARRAY_INT32 => data.IsListOf .int (Signed 32)
  | .ARRAY_INT64 => data.IsListOf .int (Signed 64)
  | .ARRAY_INT256 => data.IsListOf .int (Signed 256)
  | .ARRAY_BYTES16 => data.IsListOf (.fixed 16) fun _ => True
  | .ARRAY_BYTES32 => data.IsListOf (.fixed 32) fun _ => True
  | .ARRAY_BYTES64 => data.IsListOf (.fixed 64) fun _ => True
  | .ARRAY_STRING => data.IsListOf .str ZeroFree
  | _ => False

/-- Width 1 keeps the low byte, which holds every signed byte. -/
theorem int8_roundTrips :
    RoundTrips (Signed 8) (fun value => write1 (value % 256)) (readIntElement 1 true) := by
  rintro value ⟨low, high⟩
  refine ⟨[UInt8.ofNat (value % 256).toNat], emits_write1.mpr ⟨⟨by omega, by omega⟩, rfl⟩,
    (read1_parses _).bind_nil ?_⟩
  have byte : (UInt8.ofNat (value % 256).toNat).toNat = (value % 256).toNat := by
    rw [UInt8.toNat_ofNat', Nat.mod_eq_of_lt (by omega)]
  have back : (if true ∧ (UInt8.ofNat (value % 256).toNat).toNat ≥ 0x80
      then ((UInt8.ofNat (value % 256).toNat).toNat : Int) - 0x100
      else (UInt8.ofNat (value % 256).toNat).toNat) = value := by
    rw [byte]
    simp only [true_and]
    split <;> omega
  rw [back]
  exact Get.Parses.pure value

theorem int8_consumes : (readIntElement 1 true).Consumes :=
  read1_consumes.bind fun _ => (Get.Local.pure _).steady

section Leaves

variable (conv : Conversions) {α : Type}

theorem check_bind {β : Type} {result : Except PyError α} {a : α} (ok : result = .ok a)
    (f : α → CarbonWriter β) : (Put.check result >>= f) = f a := by
  rw [ok]
  exact pure_bind a f

/-- A value is written and read by the form of its class. -/
theorem conveys_scalar {domain : α → Prop} {write : α → CarbonWriter Unit} {read : CarbonReader α}
    (roundTrips : RoundTrips domain write read) (inject : α → Data) {leaf : Data → CarbonWriter Unit}
    (leaf_eq : ∀ a, leaf (inject a) = write a) {data : Data} (isOf : data.IsOf inject domain) :
    Conveys (leaf data) () (do let a ← read; return inject a) data := by
  obtain ⟨a, inside, rfl⟩ := isOf
  rw [leaf_eq]
  exact (roundTrips.conveys inside).map inject

theorem writeArray_map {f : α → CarbonWriter Unit} {g : Data → CarbonWriter Unit} {inject : α → Data}
    (same : ∀ a, g (inject a) = f a) (xs : List α) : writeArray g (xs.map inject) = writeArray f xs := by
  unfold writeArray
  rw [Put.each_map, List.length_map, funext same]

theorem mapM_map {f : Data → Except PyError α} {inject : α → Data} (same : ∀ a, f (inject a) = .ok a)
    (xs : List α) : (xs.map inject).mapM f = .ok xs := by
  induction xs with
  | nil => rfl
  | cons x xs ih =>
    rw [List.map_cons, List.mapM_cons, same, ih]
    rfl

/-- A list is written and read element by element. -/
theorem conveys_list {domain : α → Prop} {write : α → CarbonWriter Unit} {read : CarbonReader α}
    (roundTrips : RoundTrips domain write read) (consumes : read.Consumes) (inject : α → Data)
    {leaf : Data → CarbonWriter Unit} (leaf_eq : ∀ xs, leaf (.list (xs.map inject)) = writeArray write xs)
    {data : Data} (isListOf : data.IsListOf inject domain) :
    Conveys (leaf data) () (do let xs ← readArray read; return .list (xs.map inject)) data := by
  obtain ⟨xs, inside, rfl⟩ := isListOf
  rw [leaf_eq]
  exact ((array_roundTrips roundTrips consumes).conveys inside).map fun xs => Data.list (xs.map inject)

theorem or_list (items : List Data) : (Data.list items).or (.list []) = .list items := by
  cases items <;> rfl

theorem items_list (items : List Data) : ((Data.list items).or (.list [])).toList = .ok items := by
  rw [or_list]
  rfl

theorem or_bytes (value : Bytes) : (Data.bytes value).or (.bytes []) = .bytes value := by
  cases value <;> rfl

theorem or_str (value : Str) : (Data.str value).or (.str []) = .str value := by
  cases value <;> rfl

theorem or_int (value : Int) : (Data.int value).or (.int 0) = .int value := by
  unfold Data.or Data.truthy
  by_cases zero : value = 0 <;> simp [zero]

theorem writeLeaf_bytes (value : Bytes) : writeLeaf conv .BYTES (.bytes value) = writeByteArray value :=
  check_bind (by rw [or_bytes]; rfl) _

theorem writeLeaf_int256 (value : Int) : writeLeaf conv .INT256 (.int value) = writeBigInt value :=
  check_bind (by rw [or_int]; rfl) _

theorem toFixed_fixed {size : Nat} (value : FixedBytes size) :
    conv.toFixed size (.fixed size value) = .ok value := value.new_raw

theorem writeFixed_eq {size : Nat} (positive : size ≠ 0) (value : FixedBytes size) :
    (do (write (← Put.check (conv.toFixed size ((Data.fixed size value).or (.bytes [])))).raw :
      CarbonWriter Unit)) = write value.raw := by
  have truthy : (Data.fixed size value).or (.bytes []) = .fixed size value := by
    unfold Data.or Data.truthy
    simp [positive]
  rw [truthy]
  exact check_bind (toFixed_fixed conv value) _

theorem writeFixedItems_eq (size : Nat) (values : List (FixedBytes size)) :
    writeFixedItems conv size (.list (values.map (.fixed size))) =
      writeArray (fun value : FixedBytes size => write value.raw) values := by
  unfold writeFixedItems
  rw [check_bind (items_list _), check_bind (mapM_map (toFixed_fixed conv) values)]

theorem writeIntItems_eq (width : Nat) (values : List Int) :
    writeIntItems conv width (.list (values.map .int)) = writeArray (writeIntElement width true) values := by
  unfold writeIntItems
  rw [check_bind (items_list _)]
  exact writeArray_map (fun value => check_bind rfl _) values

/-- The types without nested values come back from the wire. -/
theorem leaf_conveys {vmType : VMType} {data : Data} (leafData : LeafData vmType data) :
    Conveys (writeLeaf conv vmType data) () (readLeaf vmType) data := by
  cases vmType with
  | BYTES =>
    exact conveys_scalar byteArray_roundTrips .bytes (writeLeaf_bytes conv) leafData
  | INT8 => exact conveys_scalar int8_roundTrips .int (fun value => check_bind rfl _) leafData
  | INT16 =>
    exact conveys_scalar (signed_roundTrips (by decide)) .int (fun value => check_bind rfl _) leafData
  | INT32 =>
    exact conveys_scalar (signed_roundTrips (by decide)) .int (fun value => check_bind rfl _) leafData
  | INT64 =>
    exact conveys_scalar (signed_roundTrips (by decide)) .int (fun value => check_bind rfl _) leafData
  | INT256 =>
    exact conveys_scalar bigInt_roundTrips .int (writeLeaf_int256 conv) leafData
  | BYTES16 =>
    exact conveys_scalar (fixed_roundTrips 16) (.fixed 16) (writeFixed_eq conv (by decide)) leafData
  | BYTES32 =>
    exact conveys_scalar (fixed_roundTrips 32) (.fixed 32) (writeFixed_eq conv (by decide)) leafData
  | BYTES64 =>
    exact conveys_scalar (fixed_roundTrips 64) (.fixed 64) (writeFixed_eq conv (by decide)) leafData
  | STRING =>
    exact conveys_scalar stringZ_roundTrips .str (fun value => check_bind (by rw [or_str]; rfl) _) leafData
  | ARRAY_BYTES =>
    refine conveys_list byteArray_roundTrips readByteArray_consumes .bytes (fun values => ?_) leafData
    exact (check_bind (items_list _) _).trans (writeArray_map (fun value => check_bind rfl _) values)
  | ARRAY_INT8 =>
    exact conveys_list int8_roundTrips int8_consumes .int (writeIntItems_eq conv 1) leafData
  | ARRAY_INT16 =>
    exact conveys_list (signed_roundTrips (by decide)) (readSigned_consumes (by decide)) .int
      (writeIntItems_eq conv 2) leafData
  | ARRAY_INT32 =>
    exact conveys_list (signed_roundTrips (by decide)) (readSigned_consumes (by decide)) .int
      (writeIntItems_eq conv 4) leafData
  | ARRAY_INT64 =>
    exact conveys_list (signed_roundTrips (by decide)) (readSigned_consumes (by decide)) .int
      (writeIntItems_eq conv 8) leafData
  | ARRAY_INT256 =>
    refine conveys_list bigInt_roundTrips readBigInt_consumes .int (fun values => ?_) leafData
    have numbers : (values.map Data.int).mapM conv.toInt = .ok values :=
      @mapM_map _ conv.toInt Data.int (fun _ => rfl) values
    exact (check_bind (items_list _) _).trans (check_bind numbers _)
  | ARRAY_BYTES16 =>
    exact conveys_list (fixed_roundTrips 16) (readFixed_consumes (by decide)) (.fixed 16)
      (writeFixedItems_eq conv 16) leafData
  | ARRAY_BYTES32 =>
    exact conveys_list (fixed_roundTrips 32) (readFixed_consumes (by decide)) (.fixed 32)
      (writeFixedItems_eq conv 32) leafData
  | ARRAY_BYTES64 =>
    exact conveys_list (fixed_roundTrips 64) (readFixed_consumes (by decide)) (.fixed 64)
      (writeFixedItems_eq conv 64) leafData
  | ARRAY_STRING =>
    refine conveys_list stringZ_roundTrips readStringZ_consumes .str (fun values => ?_) leafData
    exact (check_bind (items_list _) _).trans (writeArray_map (fun value => check_bind rfl _) values)
  | _ => exact leafData.elim

end Leaves

end PhantasmaPy.Carbon
