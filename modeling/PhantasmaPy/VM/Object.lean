import PhantasmaPy.VM.Binary
import PhantasmaPy.Wire.Fix

/-! # VM objects

`VMObject` with its writer and its reader.
-/

namespace PhantasmaPy.VM

open Wire

inductive VMType where
  | NONE
  | STRUCT
  | BYTES
  | NUMBER
  | STRING
  | TIMESTAMP
  | BOOL
  | ENUM
  | OBJECT
  deriving DecidableEq

namespace VMType

/-- The value of the enumeration member. -/
def toByte : VMType → UInt8
  | NONE => 0
  | STRUCT => 1
  | BYTES => 2
  | NUMBER => 3
  | STRING => 4
  | TIMESTAMP => 5
  | BOOL => 6
  | ENUM => 7
  | OBJECT => 8

/-- The call `VMType(value)`. -/
def ofByte : UInt8 → Except PyError VMType
  | 0 => .ok NONE
  | 1 => .ok STRUCT
  | 2 => .ok BYTES
  | 3 => .ok NUMBER
  | 4 => .ok STRING
  | 5 => .ok TIMESTAMP
  | 6 => .ok BOOL
  | 7 => .ok ENUM
  | 8 => .ok OBJECT
  | _ => .error .valueError

theorem ofByte_toByte (type : VMType) : ofByte type.toByte = .ok type := by
  cases type <;> rfl

def write (self : VMType) : Writer Unit := writeU8 self.toByte.toNat

/-- The `try` block of `VMObject.read`.  The end of the stream is a `ValueError` too, and gets the
    same message. -/
def read : Reader VMType :=
  Get.failWith (serializationError "unsupported VM object type") do
    let byte ← readU8
    Get.check (ofByte byte)

end VMType

/-- An object with data of the class that its type calls for.  The entries of a struct are in the
    order of insertion. -/
inductive VMObject where
  | none
  | struct (data : List (VMObject × VMObject))
  | bytes (data : Bytes)
  | number (data : Int)
  | string (data : Str)
  | timestamp (data : Int)
  | bool (data : Bool)
  | enum (data : Int)
  | object (data : Bytes)

namespace VMObject

/-- Equality of two dictionary keys; an object with a dictionary inside is no key. -/
def sameKey : VMObject → VMObject → Bool
  | none, none => true
  | bytes data, bytes other => data = other
  | number data, number other => data = other
  | string data, string other => data = other
  | timestamp data, timestamp other => data = other
  | bool data, bool other => data = other
  | enum data, enum other => data = other
  | object data, object other => data = other
  | _, _ => false

/-- `hash` raises on an object with a dictionary inside. -/
def hashable : VMObject → Bool
  | struct _ => false
  | _ => true

/-- The assignment `items[key] = value`: an equal key keeps its place. -/
def setItem (items : List (VMObject × VMObject)) (key value : VMObject) :
    Except PyError (List (VMObject × VMObject)) :=
  if key.hashable then
    .ok (if items.any fun item => item.1.sameKey key
      then items.map fun item => if item.1.sameKey key then (item.1, value) else item
      else items ++ [(key, value)])
  else .error .typeError

/-! ## Writer -/

/-- The length-prefixed bytes that an object's own payload holds. -/
def objectPayload (data : Bytes) : Except PyError Bytes := (writeVarBytes data).bytes

mutual

def write : VMObject → Writer Unit
  | none => VMType.NONE.write
  | struct data => do
    VMType.STRUCT.write
    writeVarUint data.length
    writeItems data
  | bytes data => do
    VMType.BYTES.write
    writeVarBytes data
  | object data => do
    VMType.OBJECT.write
    let payload ← Put.check (objectPayload data)
    writeVarBytes payload
  | number data => do
    VMType.NUMBER.write
    writeBigInteger data
  | string data => do
    VMType.STRING.write
    writeString data
  | timestamp data => do
    VMType.TIMESTAMP.write
    writeU32LE data
  | bool data => do
    VMType.BOOL.write
    writeBool data
  | enum data => do
    VMType.ENUM.write
    if data < 0 ∨ data > 0xFF then
      throw (serializationError "enum value exceeds one byte")
    else
      writeU8 data

/-- The loop over the entries of a struct. -/
def writeItems : List (VMObject × VMObject) → Writer Unit
  | [] => pure ()
  | (key, value) :: items => do
    key.write
    value.write
    writeItems items

end

def toBytes (self : VMObject) : Except PyError Bytes := self.write.bytes

/-! ## Reader -/

/-- One round of the loop over the entries of a struct. -/
def readItem (read : Reader VMObject) (items : List (VMObject × VMObject)) :
    Reader (List (VMObject × VMObject)) := do
  let key ← read
  let value ← read
  Get.check (setItem items key value)

/-- `VMObject.read`, with the reader for nested objects as a parameter. -/
def readBody (read : Unit → Reader VMObject) (_ : Unit) : Reader VMObject := do
  let type ← VMType.read
  match type with
  | .NONE => return none
  | .BOOL => return bool (← readBool)
  | .BYTES => return bytes (← readVarBytes)
  | .ENUM => return enum (← readU8).toNat
  | .NUMBER => return number (← readBigInteger)
  | .STRING => return string (← readString)
  | .TIMESTAMP => return timestamp (← readU32LE)
  | .OBJECT => do
    let payload ← readVarBytes
    if payload.length = 35 ∧ payload.getD 0 0 = 34 then
      return object (payload.drop 1)
    else
      return bytes payload
  | .STRUCT => do
    let count ← readVarUint
    let items ← Get.loop (readItem (read ())) count.toNat []
    return struct items

def read : Reader VMObject := Get.fix .recursionError readBody ()

def fromBytes (data : Bytes) : Except PyError VMObject := readAll read data

end VMObject

end PhantasmaPy.VM
