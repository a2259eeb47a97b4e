import PhantasmaPy.Carbon.Stream
import PhantasmaPy.Wire.Fix

/-! # Schemas

`VMType`, `VMVariableSchema`, `VMNamedVariableSchema` and `VMStructSchema`.
-/

namespace PhantasmaPy.Carbon

open Wire CarbonWriter CarbonReader

/-- `VMType`.  The member `ARRAY` is another name of `ARRAY_DYNAMIC`. -/
inductive VMType where
  | DYNAMIC
  | ARRAY_DYNAMIC
  | BYTES
  | ARRAY_BYTES
  | STRUCT
  | ARRAY_STRUCT
  | INT8
  | ARRAY_INT8
  | INT16
  | ARRAY_INT16
  | INT32
  | ARRAY_INT32
  | INT64
  | ARRAY_INT64
  | INT256
  | ARRAY_INT256
  | BYTES16
  | ARRAY_BYTES16
  | BYTES32
  | ARRAY_BYTES32
  | BYTES64
  | ARRAY_BYTES64
  | STRING
  | ARRAY_STRING
  deriving DecidableEq

namespace VMType

/-- The value of the enumeration member. -/
def toByte : VMType → UInt8
  | DYNAMIC => 0
  | ARRAY_DYNAMIC => 1
  | BYTES => 2
  | ARRAY_BYTES => 3
  | STRUCT => 4
  | ARRAY_STRUCT => 5
  | INT8 => 6
  | ARRAY_INT8 => 7
  | INT16 => 8
  | ARRAY_INT16 => 9
  | INT32 => 10
  | ARRAY_INT32 => 11
  | INT64 => 12
  | ARRAY_INT64 => 13
  | INT256 => 14
  | ARRAY_INT256 => 15
  | BYTES16 => 16
  | ARRAY_BYTES16 => 17
  | BYTES32 => 18
  | ARRAY_BYTES32 => 19
  | BYTES64 => 20
  | ARRAY_BYTES64 => 21
  | STRING => 22
  | ARRAY_STRING => 23

/-- The call `VMType(value)`. -/
def ofByte : UInt8 → Except PyError VMType
  | 0 => .ok DYNAMIC
  | 1 => .ok ARRAY_DYNAMIC
  | 2 => .ok BYTES
  | 3 => .ok ARRAY_BYTES
  | 4 => .ok STRUCT
  | 5 => .ok ARRAY_STRUCT
  | 6 => .ok INT8
  | 7 => .ok ARRAY_INT8
  | 8 => .ok INT16
  | 9 => .ok ARRAY_INT16
  | 10 => .ok INT32
  | 11 => .ok ARRAY_INT32
  | 12 => .ok INT64
  | 13 => .ok ARRAY_INT64
  | 14 => .ok INT256
  | 15 => .ok ARRAY_INT256
  | 16 => .ok BYTES16
  | 17 => .ok ARRAY_BYTES16
  | 18 => .ok BYTES32
  | 19 => .ok ARRAY_BYTES32
  | 20 => .ok BYTES64
  | 21 => .ok ARRAY_BYTES64
  | 22 => .ok STRING
  | 23 => .ok ARRAY_STRING
  | _ => .error .valueError

def writeCarbon (self : VMType) : CarbonWriter Unit := write1 self.toByte.toNat

def readCarbon : CarbonReader VMType := do
  let byte ← read1
  Get.check (ofByte byte)

/-- The types that take a struct schema. -/
def isStruct (self : VMType) : Bool := self = STRUCT || self = ARRAY_STRUCT

/-- The types with nested values; the rest are leaves. -/
def isNested (self : VMType) : Bool :=
  self = DYNAMIC || self = ARRAY_DYNAMIC || self = STRUCT || self = ARRAY_STRUCT

end VMType

mutual

structure VMVariableSchema where
  type : VMType
  structDef : Option VMStructSchema

structure VMNamedVariableSchema where
  name : SmallString
  schema : VMVariableSchema

/-- The flags are a plain number, as an `IntFlag` keeps any. -/
structure VMStructSchema where
  fields : List VMNamedVariableSchema
  flags : Int

end

namespace VMStructSchema

/-- `VMStructSchema()`. -/
def default : VMStructSchema := ⟨[], 0⟩

/-- `schema.flags & VMStructFlags.DYNAMIC_EXTRAS`. -/
def dynamicExtras (self : VMStructSchema) : Bool := self.flags % 2 = 1

/-- `_schema_has_field`. -/
def hasField (self : VMStructSchema) (name : Str) : Bool :=
  self.fields.any fun field => field.name.value = name

end VMStructSchema

/-! ## Writer -/

mutual

def VMVariableSchema.writeCarbon : VMVariableSchema → CarbonWriter Unit
  | ⟨type, structDef⟩ => do
    type.writeCarbon
    if type.isStruct then
      writeStructDef structDef
    else
      return ()

/-- `struct_def or VMStructSchema()`. -/
def writeStructDef : Option VMStructSchema → CarbonWriter Unit
  | some structDef => structDef.writeCarbon
  | none => do
    write4 0
    write1 0

def VMStructSchema.writeCarbon : VMStructSchema → CarbonWriter Unit
  | ⟨fields, flags⟩ => do
    writeCount fields.length
    writeSchemaFields fields
    write1 flags

/-- The loop over the fields. -/
def writeSchemaFields : List VMNamedVariableSchema → CarbonWriter Unit
  | [] => pure ()
  | ⟨name, schema⟩ :: fields => do
    name.writeCarbon
    schema.writeCarbon
    writeSchemaFields fields

end

/-! ## Reader -/

def VMVariableSchema.readCarbon (readStruct : CarbonReader VMStructSchema) :
    CarbonReader VMVariableSchema := do
  let type ← VMType.readCarbon
  if type.isStruct then
    return ⟨type, some (← readStruct)⟩
  else
    return ⟨type, none⟩

def VMNamedVariableSchema.readCarbon (readStruct : CarbonReader VMStructSchema) :
    CarbonReader VMNamedVariableSchema := do
  let name ← SmallString.readCarbon
  let schema ← VMVariableSchema.readCarbon readStruct
  return ⟨name, schema⟩

/-- `VMStructSchema.read_carbon`, with the reader for nested schemas as a parameter. -/
def VMStructSchema.readBody (readStruct : Unit → CarbonReader VMStructSchema) (_ : Unit) :
    CarbonReader VMStructSchema := do
  let fields ← readArray (VMNamedVariableSchema.readCarbon (readStruct ()))
  let flags ← read1
  return ⟨fields, flags.toNat⟩

def VMStructSchema.readCarbon : CarbonReader VMStructSchema :=
  Get.fix .recursionError VMStructSchema.readBody ()

end PhantasmaPy.Carbon
