import PhantasmaPy.Carbon.Schema
import PhantasmaPy.Encoding
import Mathlib.Data.List.Sort

/-! # Dynamic values

`VMDynamicVariable`, `VMNamedDynamicVariable`, `VMDynamicStruct` and `VMStructArray`, with their
writers and readers, self-describing and bound to a schema.  A value is a tree, in which no struct object occurs
twice: `write_carbon` of a struct sorts the fields of the object itself, which another place that has the same
object would see, as would a later call.
-/

namespace PhantasmaPy.Carbon

open Wire CarbonWriter CarbonReader

/-! ## Values -/

mutual

/-- What `data` may hold, by the classes that the code tells apart.  Lists and tuples are treated
    alike; a key of a mapping is a text or not; a value of any other class is true or false. -/
inductive Data where
  | none
  | bool (value : Bool)
  | int (value : Int)
  | str (value : Str)
  | bytes (value : Bytes)
  | fixed (size : Nat) (value : FixedBytes size)
  | list (items : List Data)
  | mapping (entries : List (Option Str × Data))
  | variable (value : VMDynamicVariable)
  | named (value : VMNamedDynamicVariable)
  | struct (value : VMDynamicStruct)
  | structArray (value : VMStructArray)
  | other (truthy : Bool)

structure VMDynamicVariable where
  type : VMType
  data : Data

structure VMNamedDynamicVariable where
  name : SmallString
  value : VMDynamicVariable

structure VMDynamicStruct where
  fields : List VMNamedDynamicVariable

/-- The elements are what the list holds, structs or not. -/
structure VMStructArray where
  schema : VMStructSchema
  structs : List Data

end

/-- `_default_vm_value`. -/
def defaultVmValue : VMType → Data
  | .BYTES => .bytes []
  | .STRUCT => .struct ⟨[]⟩
  | .INT8 | .INT16 | .INT32 | .INT64 | .INT256 => .int 0
  | .BYTES16 => .fixed 16 EMPTY_BYTES16
  | .BYTES32 => .fixed 32 EMPTY_BYTES32
  | .BYTES64 => .fixed 64 EMPTY_BYTES64
  | .STRING => .str []
  | .ARRAY_STRUCT => .structArray ⟨.default, []⟩
  | .DYNAMIC => .none
  | _ => .list []

/-- `_sort`: stable, by the code points of the names. -/
def sortFields (fields : List VMNamedDynamicVariable) : List VMNamedDynamicVariable :=
  fields.insertionSort fun first second => first.name.value ≤ second.name.value

def VMDynamicStruct.get (self : VMDynamicStruct) (name : Str) : Option VMDynamicVariable :=
  (self.fields.find? fun field => field.name.value = name).map VMNamedDynamicVariable.value

/-! ## Conversions -/

namespace Data

/-- Whether the interpreter takes the value for true. -/
def truthy : Data → Bool
  | none => false
  | bool value => value
  | int value => value ≠ 0
  | str value => !value.isEmpty
  | bytes value => !value.isEmpty
  | fixed size _ => size ≠ 0
  | list items => !items.isEmpty
  | mapping entries => !entries.isEmpty
  | other truthy => truthy
  | _ => true

/-- `value or fallback`. -/
def or (value fallback : Data) : Data := if value.truthy then value else fallback

/-- `list(value)`. -/
def toList : Data → Except PyError (List Data)
  | list items => .ok items
  | str value => .ok (value.map fun char => str [char])
  | bytes value => .ok (value.map fun byte => int byte.toNat)
  | fixed _ value => .ok (value.raw.map fun byte => int byte.toNat)
  | mapping entries => .ok (entries.map fun entry => (entry.1.map str).getD (other true))
  | _ => .error .typeError

end Data

/-- The calls `bytes`, `int` and `str` on values of other classes, and the error of an operation on a
    value of a class without it. -/
structure Conversions where
  bytes : Data → Except PyError Bytes
  int : Data → Except PyError Int
  str : Data → Except PyError Str
  wrongClass : Data → PyError

namespace Conversions

variable (conv : Conversions)

def toBytes : Data → Except PyError Bytes
  | .bytes value => .ok value
  | .fixed _ value => .ok value.raw
  | value => conv.bytes value

def toInt : Data → Except PyError Int
  | .int value => .ok value
  | .bool value => .ok (if value then 1 else 0)
  | value => conv.int value

def toStr : Data → Except PyError Str
  | .str value => .ok value
  | value => conv.str value

/-- `value if isinstance(value, cls) else cls(value)` for the class of the size. -/
def toFixed (size : Nat) : Data → Except PyError (FixedBytes size)
  | .str value => do FixedBytes.new size (← decodeHex value)
  | value => do FixedBytes.new size (← conv.toBytes value)

/-- An element of `write_int_array`, on which only arithmetic is done. -/
def integer : Data → Except PyError Int
  | .int value => .ok value
  | .bool value => .ok (if value then 1 else 0)
  | value => .error (conv.wrongClass value)

/-- An element of `write_string_z_array`, on which methods of a text are called. -/
def text : Data → Except PyError Str
  | .str value => .ok value
  | value => .error (conv.wrongClass value)

end Conversions

/-! ## Writer of the types without nested values -/

section Leaves

variable (conv : Conversions)

def writeIntItems (width : Nat) (value : Data) : CarbonWriter Unit := do
  let items ← Put.check (value.or (.list [])).toList
  writeArray (fun item => do writeIntElement width true (← Put.check (conv.integer item))) items

def writeFixedItems (size : Nat) (value : Data) : CarbonWriter Unit := do
  let items ← Put.check (value.or (.list [])).toList
  let values ← Put.check (items.mapM (conv.toFixed size))
  writeArray (fun value : FixedBytes size => write value.raw) values

/-- `write_string_z_array`, on items that may be no texts. -/
def writeStringZArray (items : List Data) : CarbonWriter Unit :=
  writeArray (fun item => do writeStringZ (← Put.check (conv.text item))) items

/-- The branches of `write_static` for the types without nested values. -/
def writeLeaf (vmType : VMType) (value : Data) : CarbonWriter Unit :=
  match vmType with
  | .BYTES => do writeByteArray (← Put.check (conv.toBytes (value.or (.bytes []))))
  | .INT8 => do write1 ((← Put.check (conv.toInt value)) % 256)
  | .INT16 => do write2 (← Put.check (conv.toInt value))
  | .INT32 => do write4 (← Put.check (conv.toInt value))
  | .INT64 => do write8 (← Put.check (conv.toInt value))
  | .INT256 => do writeBigInt (← Put.check (conv.toInt (value.or (.int 0))))
  | .BYTES16 => do write16 (← Put.check (conv.toFixed 16 (value.or (.bytes []))))
  | .BYTES32 => do write32 (← Put.check (conv.toFixed 32 (value.or (.bytes []))))
  | .BYTES64 => do write64 (← Put.check (conv.toFixed 64 (value.or (.bytes []))))
  | .STRING => do writeStringZ (← Put.check (conv.toStr (value.or (.str []))))
  | .ARRAY_BYTES => do
    let items ← Put.check (value.or (.list [])).toList
    writeArray (fun item => do writeByteArray (← Put.check (conv.toBytes item))) items
  | .ARRAY_INT8 => writeIntItems conv 1 value
  | .ARRAY_INT16 => writeIntItems conv 2 value
  | .ARRAY_INT32 => writeIntItems conv 4 value
  | .ARRAY_INT64 => writeIntItems conv 8 value
  | .ARRAY_INT256 => do
    let items ← Put.check (value.or (.list [])).toList
    writeBigIntArray (← Put.check (items.mapM conv.toInt))
  | .ARRAY_BYTES16 => writeFixedItems conv 16 value
  | .ARRAY_BYTES32 => writeFixedItems conv 32 value
  | .ARRAY_BYTES64 => writeFixedItems conv 64 value
  | .ARRAY_STRING => do
    let items ← Put.check (value.or (.list [])).toList
    writeStringZArray conv items
  | _ => throw (serializationError s!"unsupported VM dynamic type: {vmType.toByte}")

end Leaves

/-! ## Writer of structs

A struct reaches its writer as the writers of its fields, so that the recursion of the writer follows
the value also where a schema picks the fields by name.
-/

/-- A field with `write_carbon` and `write_static` of its value. -/
structure FieldWriter where
  name : SmallString
  writeCarbon : CarbonWriter Unit
  writeStatic : VMType → Option VMStructSchema → CarbonWriter Bool

/-- `_write_named_dynamic_variables`. -/
def writeNamedDynamicVariables (fields : List FieldWriter) : CarbonWriter Unit :=
  writeArray (fun field => do field.name.writeCarbon; field.writeCarbon) fields

/-- `VMDynamicStruct.write_carbon`, which sorts the fields. -/
def writeStruct (fields : List FieldWriter) : CarbonWriter Unit :=
  writeNamedDynamicVariables
    (fields.insertionSort fun first second => first.name.value ≤ second.name.value)

section Structs

variable (conv : Conversions)

mutual

/-- `write_static` at `_default_vm_value`, whose recursion follows the schema. -/
def writeDefault (vmType : VMType) : Option VMStructSchema → CarbonWriter Bool
  | some schema =>
    match vmType with
    | .STRUCT => writeWithSchema [] schema
    | .ARRAY_STRUCT => do
      write4 0
      return true
    | _ => writeDefaultPlain vmType
  | none => writeDefaultPlain vmType
where
  /-- The default without a schema. -/
  writeDefaultPlain (vmType : VMType) : CarbonWriter Bool :=
    match vmType with
    | .DYNAMIC => do
      VMType.ARRAY_DYNAMIC.writeCarbon
      write4 0
      return true
    | .STRUCT | .ARRAY_DYNAMIC => do
      write4 0
      return true
    | .ARRAY_STRUCT => do
      write4 0
      VMStructSchema.default.writeCarbon
      return true
    | _ => do
      writeLeaf conv vmType (defaultVmValue vmType)
      return true

/-- `VMDynamicStruct.write_with_schema`. -/
def writeWithSchema (fields : List FieldWriter) : VMStructSchema → CarbonWriter Bool
  | ⟨schemaFields, flags⟩ => do
    let (ok, fieldsFound) ← writeFields fields schemaFields true 0
    if !VMStructSchema.dynamicExtras ⟨schemaFields, flags⟩ then
      return ok
    else if fieldsFound = schemaFields.length ∧ fields.length = schemaFields.length then
      write4u 0
      return ok
    else
      writeNamedDynamicVariables
        (fields.filter fun field => !VMStructSchema.hasField ⟨schemaFields, flags⟩ field.name.value)
      return ok

/-- The loop over the fields of the schema, with what it has found so far. -/
def writeFields (fields : List FieldWriter) :
    List VMNamedVariableSchema → Bool → Nat → CarbonWriter (Bool × Nat)
  | [], ok, fieldsFound => return (ok, fieldsFound)
  | ⟨name, ⟨type, structDef⟩⟩ :: schemaFields, ok, fieldsFound =>
    match fields.find? fun field => field.name.value = name.value with
    | some field => do
      let written ← field.writeStatic type structDef
      writeFields fields schemaFields (written && ok) (fieldsFound + 1)
    | none => do
      let written ← writeDefault type structDef
      writeFields fields schemaFields (written && ok) fieldsFound

end

/-- The branch of `write_static` for arrays of structs, given by the writers of their fields. -/
def writeStructs (schema : Option VMStructSchema) (arraySchema : VMStructSchema)
    (structs : List (List FieldWriter)) : CarbonWriter Unit := do
  writeCount structs.length
  match schema with
  | some usedSchema => Put.each (fun fields => do let _ ← writeWithSchema conv fields usedSchema) structs
  | none => do
    arraySchema.writeCarbon
    if arraySchema.fields.isEmpty then
      Put.each writeStruct structs
    else
      Put.each (fun fields => do let _ ← writeWithSchema conv fields arraySchema) structs

/-! ## Writer of values -/

/-- An element of a list: its `write_carbon`, and its fields, which are none unless it is a struct. -/
structure ItemWriter where
  writeCarbon : CarbonWriter Unit
  fields : List FieldWriter

/-- What the branches of `write_static` use of a value. -/
structure Parts where
  /-- `inner.write_carbon`, where a value that is no dynamic variable becomes an empty array. -/
  inner : CarbonWriter Unit := do
    VMType.ARRAY_DYNAMIC.writeCarbon
    write4 0
  /-- The fields, where a value that is no struct becomes an empty one. -/
  fields : List FieldWriter := []
  /-- `list(value or [])`. -/
  items : Except PyError (List ItemWriter)
  /-- The schema and elements of a `VMStructArray`. -/
  array : Option (VMStructSchema × List ItemWriter) := none

/-- The branches of `write_static`. -/
def writeBody (value : Data) (parts : Parts) (vmType : VMType) (schema : Option VMStructSchema) :
    CarbonWriter Bool :=
  match vmType with
  | .DYNAMIC => do
    parts.inner
    return true
  | .STRUCT =>
    match schema with
    | some schema => writeWithSchema conv parts.fields schema
    | none => do
      writeStruct parts.fields
      return true
  | .ARRAY_DYNAMIC => do
    let items ← Put.check parts.items
    writeArray ItemWriter.writeCarbon items
    return true
  | .ARRAY_STRUCT =>
    match parts.array with
    | some (arraySchema, structs) => do
      writeStructs conv schema arraySchema (structs.map ItemWriter.fields)
      return true
    | none => do
      let structs ← Put.check parts.items
      writeStructs conv schema (schema.getD .default) (structs.map ItemWriter.fields)
      return true
  | vmType => do
    writeLeaf conv vmType value
    return true

mutual

/-- `write_static` of a variable of the type. -/
def Data.writeAs : Data → VMType → Option VMStructSchema → CarbonWriter Bool
  | .variable value =>
    writeBody conv (.variable value) { inner := value.writeCarbon, items := .error .typeError }
  | .struct value =>
    writeBody conv (.struct value) { fields := value.writers, items := .error .typeError }
  | .list items => writeBody conv (.list items) { items := .ok (itemWriters items) }
  | .structArray ⟨schema, structs⟩ =>
    writeBody conv (.structArray ⟨schema, structs⟩)
      { items := .error .typeError, array := some (schema, itemWriters structs) }
  | value =>
    -- the elements of a text, of bytes or of a mapping are no dynamic values
    writeBody conv value
      { items := (value.or (.list [])).toList.map fun items =>
          items.map fun item => ⟨throw (conv.wrongClass item), []⟩ }

def VMDynamicVariable.writeCarbon : VMDynamicVariable → CarbonWriter Unit
  | ⟨type, data⟩ => do
    type.writeCarbon
    let _ ← data.writeAs type none

def VMDynamicVariable.writeStatic : VMDynamicVariable → VMType → Option VMStructSchema →
    CarbonWriter Bool
  | ⟨type, data⟩, vmType, schema =>
    if type = vmType then data.writeAs vmType schema else writeDefault conv vmType schema

def VMNamedDynamicVariable.writer : VMNamedDynamicVariable → FieldWriter
  | ⟨name, value⟩ => ⟨name, value.writeCarbon, value.writeStatic⟩

def VMDynamicStruct.writers : VMDynamicStruct → List FieldWriter
  | ⟨fields⟩ => fieldWriters fields

def fieldWriters : List VMNamedDynamicVariable → List FieldWriter
  | [] => []
  | field :: fields => field.writer :: fieldWriters fields

/-- An element of a list; those with a method `write_carbon` are written by it. -/
def Data.itemWriter : Data → ItemWriter
  | .variable value => ⟨value.writeCarbon, []⟩
  | .struct value => ⟨writeStruct value.writers, value.writers⟩
  | .named value => ⟨do value.writer.name.writeCarbon; value.writer.writeCarbon, []⟩
  | value => ⟨throw (conv.wrongClass value), []⟩

def itemWriters : List Data → List ItemWriter
  | [] => []
  | item :: items => item.itemWriter :: itemWriters items

end

def VMDynamicStruct.writeCarbon (self : VMDynamicStruct) : CarbonWriter Unit :=
  writeStruct (self.writers conv)

def VMDynamicStruct.writeWithSchema (self : VMDynamicStruct) (schema : VMStructSchema) :
    CarbonWriter Bool :=
  PhantasmaPy.Carbon.writeWithSchema conv (self.writers conv) schema

end Structs

/-! ## Reader -/

/-- The branches of `read_static` for the types without nested values. -/
def readLeaf (vmType : VMType) : CarbonReader Data :=
  match vmType with
  | .BYTES => return .bytes (← readByteArray)
  | .INT8 => return .int (← readIntElement 1 true)
  | .INT16 => return .int (← read2)
  | .INT32 => return .int (← read4)
  | .INT64 => return .int (← read8)
  | .INT256 => return .int (← readBigInt)
  | .BYTES16 => return .fixed 16 (← read16)
  | .BYTES32 => return .fixed 32 (← read32)
  | .BYTES64 => return .fixed 64 (← read64)
  | .STRING => return .str (← readStringZ)
  | .ARRAY_BYTES => return .list ((← readByteArrays).map .bytes)
  | .ARRAY_INT8 => return .list ((← readIntArray 1 true).map .int)
  | .ARRAY_INT16 => return .list ((← readIntArray 2 true).map .int)
  | .ARRAY_INT32 => return .list ((← readIntArray 4 true).map .int)
  | .ARRAY_INT64 => return .list ((← readIntArray 8 true).map .int)
  | .ARRAY_INT256 => return .list ((← readBigIntArray).map .int)
  | .ARRAY_BYTES16 => return .list ((← readArray read16).map (.fixed 16))
  | .ARRAY_BYTES32 => return .list ((← readArray read32).map (.fixed 32))
  | .ARRAY_BYTES64 => return .list ((← readArray read64).map (.fixed 64))
  | .ARRAY_STRING => return .list ((← readStringZArray).map .str)
  | _ => throw (serializationError s!"unsupported VM dynamic type: {vmType.toByte}")

section Readers

/-! `readInline` stands for `read_static` without a schema. -/

variable (readInline : VMType → CarbonReader Data)

/-- `VMDynamicVariable.read_carbon`. -/
def readVariable : CarbonReader VMDynamicVariable := do
  let vmType ← VMType.readCarbon
  let data ← readInline vmType
  return ⟨vmType, data⟩

/-- `VMNamedDynamicVariable.read_carbon`. -/
def readNamed : CarbonReader VMNamedDynamicVariable := do
  let name ← SmallString.readCarbon
  let value ← readVariable readInline
  return ⟨name, value⟩

/-- `VMDynamicStruct.read_carbon`. -/
def readStruct : CarbonReader VMDynamicStruct := do
  let fields ← readArray (readNamed readInline)
  return ⟨sortFields fields⟩

mutual

/-- `VMDynamicStruct.read_with_schema`. -/
def readWithSchema : VMStructSchema → CarbonReader VMDynamicStruct
  | ⟨schemaFields, flags⟩ => do
    let fields ← readFields schemaFields
    if VMStructSchema.dynamicExtras ⟨schemaFields, flags⟩ then
      let extras ← readArray (readNamed readInline)
      return ⟨sortFields (fields ++ extras)⟩
    else
      return ⟨sortFields fields⟩

/-- The loop over the fields of the schema. -/
def readFields : List VMNamedVariableSchema → CarbonReader (List VMNamedDynamicVariable)
  | [] => return []
  | ⟨name, ⟨type, structDef⟩⟩ :: schemaFields => do
    let data ← readStatic type structDef
    let fields ← readFields schemaFields
    return ⟨name, ⟨type, data⟩⟩ :: fields

/-- `read_static`; types without a struct do not look at the schema. -/
def readStatic (vmType : VMType) : Option VMStructSchema → CarbonReader Data
  | none => readInline vmType
  | some schema =>
    match vmType with
    | .STRUCT => return .struct (← readWithSchema schema)
    | .ARRAY_STRUCT => do
      let structs ← readArray (readWithSchema schema)
      return .structArray ⟨schema, structs.map .struct⟩
    | _ => readInline vmType

end

/-- `read_static` without a schema, with the same for nested values as a parameter. -/
def readInlineBody (vmType : VMType) : CarbonReader Data :=
  match vmType with
  | .DYNAMIC => return .variable (← readVariable readInline)
  | .STRUCT => return .struct (← readStruct readInline)
  | .ARRAY_DYNAMIC => return .list ((← readArray (readVariable readInline)).map .variable)
  | .ARRAY_STRUCT => do
    let count ← readLength
    let schema ← VMStructSchema.readCarbon
    if schema.fields.isEmpty then
      let structs ← Get.times (readStruct readInline) count
      return .structArray ⟨schema, structs.map .struct⟩
    else
      let structs ← Get.times (readWithSchema readInline schema) count
      return .structArray ⟨schema, structs.map .struct⟩
  | vmType => readLeaf vmType

end Readers

def readInline : VMType → CarbonReader Data := Get.fix .recursionError readInlineBody

def VMDynamicVariable.readCarbon : CarbonReader VMDynamicVariable := readVariable readInline

def VMNamedDynamicVariable.readCarbon : CarbonReader VMNamedDynamicVariable := readNamed readInline

def VMDynamicStruct.readCarbon : CarbonReader VMDynamicStruct := readStruct readInline

def VMDynamicStruct.readWithSchema (schema : VMStructSchema) : CarbonReader VMDynamicStruct :=
  PhantasmaPy.Carbon.readWithSchema readInline schema

end PhantasmaPy.Carbon
