import PhantasmaPy.Base64
import PhantasmaPy.Numerals
import PhantasmaPy.VM.Object
import PhantasmaPy.Wire.Utf16

/-! # Casts of VM objects

`as_number`, `as_string`, `as_bytes`, `as_bool`, `cast_to` and `array_type` of `VMObject`.
-/

namespace PhantasmaPy.VM

open Wire

/-- Python's `str.encode("utf-16-le")`. -/
def encodeUtf16 (text : Str) : Except PyError Bytes :=
  match text.encodeUtf16LE with
  | some raw => .ok raw
  | none => .error .unicodeEncodeError

/-- Python's `bytes.decode("utf-16-le")`. -/
def decodeUtf16 (raw : Bytes) : Except PyError Str :=
  match Str.decodeUtf16LE raw with
  | some text => .ok text
  | none => .error .unicodeDecodeError

namespace VMType

/-- The name of the enumeration member. -/
def name : VMType → String
  | NONE => "NONE"
  | STRUCT => "STRUCT"
  | BYTES => "BYTES"
  | NUMBER => "NUMBER"
  | STRING => "STRING"
  | TIMESTAMP => "TIMESTAMP"
  | BOOL => "BOOL"
  | ENUM => "ENUM"
  | OBJECT => "OBJECT"

/-- The call `name.title()`. -/
def title (self : VMType) : String := self.name.toLower.capitalize

end VMType

namespace VMObject

def type : VMObject → VMType
  | none => .NONE
  | struct _ => .STRUCT
  | bytes _ => .BYTES
  | number _ => .NUMBER
  | string _ => .STRING
  | timestamp _ => .TIMESTAMP
  | bool _ => .BOOL
  | enum _ => .ENUM
  | object _ => .OBJECT

/-- The call `items.get(key)`. -/
def getItem (items : List (VMObject × VMObject)) (key : VMObject) : Option VMObject :=
  (items.find? fun item => item.1.sameKey key).map Prod.snd

/-- The error of a conversion that the type does not have. -/
def cannotConvert (type : VMType) (target : String) : PyError :=
  let name := type.name
  serializationError s!"cannot convert {name} to {target}"

def asNumber (interp : Interpreter) : VMObject → Except PyError Int
  | number data => .ok data
  | bytes data => .ok (vmBytesToBigInt data)
  | object data => if data.length = 32 then .ok (natOfLE data) else .error (cannotConvert .OBJECT "number")
  | bool data => .ok (if data then 1 else 0)
  | string data => interp.int data
  | enum data => .ok data
  | timestamp data => .ok data
  | none => .ok 0
  | struct _ => .error (cannotConvert .STRUCT "number")

/-- The loop of `array_type`, over the indices that are left. -/
def detect (items : List (VMObject × VMObject)) : List Nat → Option VMType → VMType
  | [], detected => detected.getD .NONE
  | index :: indices, detected =>
    match getItem items (number index) with
    | .none => .NONE
    | .some value =>
      if detected ≠ .none ∧ detected ≠ .some value.type then .NONE
      else detect items indices (.some value.type)

def arrayType : VMObject → VMType
  | struct data => detect data (List.range data.length) .none
  | _ => .NONE

def asBytes : VMObject → Except PyError Bytes
  | none => .error (cannotConvert .NONE "bytes")
  | string data => encodeText data
  | bytes data => .ok data
  | object data => .ok data
  | bool data => .ok [if data then 0x01 else 0x00]
  | enum data => intToBytes 4 data
  | timestamp data => intToBytes 4 data
  | number data => .ok (bigIntToVmBytes data)
  | struct data => (struct data).toBytes

/-- One round of the loop over a number array. -/
def appendUnit (interp : Interpreter) (items : List (VMObject × VMObject)) (payload : Bytes) (index : Nat) :
    Except PyError Bytes :=
  match getItem items (number index) with
  | .none => .error (serializationError "invalid number array struct")
  | .some value => do
    let codeUnit ← value.asNumber interp
    if codeUnit < 0 ∨ codeUnit > 0xFFFF then
      throw (serializationError "UTF-16 code unit out of range")
    else
      return payload ++ (← intToBytes 2 codeUnit)

/-- The bytes of a number array. -/
def joinUnits (interp : Interpreter) (items : List (VMObject × VMObject)) : Except PyError Bytes :=
  (List.range items.length).foldlM (appendUnit interp items) []

def asString (interp : Interpreter) : VMObject → Except PyError Str
  | string data => .ok data
  | bytes data => decodeText data
  | bool data => .ok (Str.ofString (if data then "true" else "false"))
  | number data => interp.str data
  | enum data => interp.str data
  | timestamp data => interp.str data
  | none => .ok (Str.ofString "Null")
  | struct data => do
    if (struct data).arrayType = .NUMBER then
      let payload ← joinUnits interp data
      decodeUtf16 payload
    else
      return b64encode (← (struct data).asBytes)
  | object _ => .error (cannotConvert .OBJECT "string")

def asBool : VMObject → Except PyError Bool
  | bool data => .ok data
  | bytes data => if data.length = 1 then .ok (data.getD 0 0 ≠ 0) else .error (cannotConvert .BYTES "bool")
  | number data => .ok (data ≠ 0)
  | self => .error (cannotConvert self.type "bool")

/-- The entry for the code unit at an index into the bytes of a text. -/
def castUnit (units : Bytes) (items : List (VMObject × VMObject)) (index : Nat) :
    Except PyError (List (VMObject × VMObject)) :=
  setItem items (number (index / 2 : Nat)) (number (natOfLE ((units.drop index).take 2)))

/-- The loop over `range(0, len(units), 2)`. -/
def castUnits (units : Bytes) : Except PyError (List (VMObject × VMObject)) :=
  (List.range' 0 ((units.length + 1) / 2) 2).foldlM (castUnit units) []

/-- The error of a cast that does not exist. -/
def invalidCast (type target : VMType) : PyError :=
  let source := type.title
  let target := target.title
  serializationError s!"invalid cast: {source} to {target}"

def castTo (interp : Interpreter) (self : VMObject) (target : VMType) : Except PyError VMObject :=
  if self.type = target then .ok self
  else
    match target with
    | .NONE => .ok none
    | .STRING => do return string (← self.asString interp)
    | .BYTES => do return bytes (← self.asBytes)
    | .NUMBER => do return number (← self.asNumber interp)
    | .BOOL => do return bool (← self.asBool)
    | .STRUCT =>
      match self with
      | string data => do
        let units ← encodeUtf16 data
        let items ← castUnits units
        return struct items
      | object data => .ok (object data)
      | self => .error (invalidCast self.type .STRUCT)
    | target => .error (invalidCast self.type target)

end VMObject

end PhantasmaPy.VM
