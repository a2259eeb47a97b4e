import PhantasmaPy.Events.VmValue

/-! # Wire shapes

The strict decoder of `_wire_shapes.py` and its converse.  A dataclass is data here: the names, hints
and defaults of its fields, which the decoder walks through.
-/

namespace PhantasmaPy.Events

open Wire

/-! ## Names -/

/-- `part[:1].upper() + part[1:]`; the names of fields are ASCII. -/
def capitalized : Str → Str
  | [] => []
  | first :: rest =>
    let upper := if 97 ≤ first.val ∧ first.val ≤ 122 then first - 32 else first
    upper :: rest

def snakeToCamel (value : Str) : Str :=
  match value.splitOn (CodePoint.ofChar '_') with
  | [] => []
  | head :: rest => head ++ rest.flatMap capitalized

/-- The name of a dataclass field and its `wire` metadata. -/
structure FieldInfo where
  name : Str
  wire : Option Str := none
  deriving DecidableEq

/-- `wire_name_of` -/
def FieldInfo.wireName (info : FieldInfo) : Str :=
  match info.wire with
  | none => snakeToCamel info.name
  | some override => if override = [] then snakeToCamel info.name else override

/-- The value that is read for a field: under its wire name, else under its Python name. -/
def FieldInfo.present (info : FieldInfo) (entries : List (Str × Json)) : Option Json :=
  match entries.lookup info.wireName with
  | some value => some value
  | none => entries.lookup info.name

/-! ## Shapes and their values -/

/-- A value that the decoder builds.  An `object` is an instance of a dataclass with its attributes. -/
inductive Value where
  | none
  | str (text : Str)
  | bool (value : Bool)
  | int (value : Int)
  | vmValue (value : VmValue)
  | list (items : List Value)
  | dict (entries : List (Str × Value))
  | object (cls : Str) (attributes : List (FieldInfo × Value))

/-- A field with a type hint from `α`. -/
structure Field (α : Type) extends FieldInfo where
  hint : α
  default : Option Value

structure Class (α : Type) where
  name : Str
  fields : List (Field α)

/-- The type annotation of a field. -/
inductive Hint where
  | str
  | bool
  | int
  | vmValue
  | optional (item : Hint)
  | list (item : Hint)
  | dict (item : Hint)
  | dataclass (shape : Class Hint)

abbrev Shape := Class Hint

/-! ## Decoding -/

/-- What decoding can raise: the mismatch that the callers catch, or something else. -/
inductive DecodeError where
  | shapeMismatch (message : Str)
  | raised (error : PyError)

/-- The mismatch `{path}: expected {expected}, got {type(value).__name__}`. -/
def unexpected (path : Str) (expected : String) (value : Json) : DecodeError :=
  .shapeMismatch (path ++ Str.ofString ": expected " ++ Str.ofString expected ++ Str.ofString ", got " ++
    value.typeName)

/-- The attribute of a field in the call `cls(**kwargs)`; a field without a default must be given. -/
def Field.attribute (field : Field Hint) (kwargs : List (Str × Value)) :
    Except DecodeError (FieldInfo × Value) :=
  match kwargs.lookup field.name with
  | some value => return (field.toFieldInfo, value)
  | none =>
    match field.default with
    | some value => return (field.toFieldInfo, value)
    | none => throw (.raised .typeError)

/-- The call `cls(**kwargs)`. -/
def Class.construct (cls : Str) (fields : List (Field Hint)) (kwargs : List (Str × Value)) :
    Except DecodeError Value := do
  return .object cls (← fields.mapM fun field => field.attribute kwargs)

mutual

def decodeShape : Shape → Json → Except DecodeError Value
  | ⟨name, fields⟩, raw =>
    match raw with
    | .obj entries => do
      let kwargs ← decodeKwargs name fields entries
      Class.construct name fields kwargs
    | _ => throw (.shapeMismatch (name ++ Str.ofString " expects a JSON object"))

/-- The loop over the fields: a missing field is passed over. -/
def decodeKwargs (cls : Str) : List (Field Hint) → List (Str × Json) →
    Except DecodeError (List (Str × Value))
  | [], _ => return []
  | ⟨info, hint, _⟩ :: fields, entries =>
    match info.present entries with
    | none => decodeKwargs cls fields entries
    | some value => do
      let decoded ← decodeField hint value (cls ++ Str.ofString "." ++ info.name)
      let kwargs ← decodeKwargs cls fields entries
      return (info.name, decoded) :: kwargs

/-- `_decode_field` -/
def decodeField : Hint → Json → Str → Except DecodeError Value
  | .optional item, value, path =>
    match value with
    | .null => return .none
    | value => decodeField item value path
  | .vmValue, value, _ => return .vmValue (VmValue.fromWire value)
  | .str, value, path =>
    match value with
    | .str text => return .str text
    | value => throw (unexpected path "a string" value)
  | .bool, value, path =>
    match value with
    | .bool truth => return .bool truth
    | value => throw (unexpected path "a boolean" value)
  | .int, value, path =>
    match value with
    | .int number => return .int number
    | value => throw (unexpected path "a number" value)
  | .list item, value, path =>
    match value with
    | .arr elements => do
      return .list (← elements.mapM fun element => decodeField item element (path ++ Str.ofString "[]"))
    | value => throw (unexpected path "an array" value)
  | .dict item, value, path =>
    match value with
    | .obj entries => do
      return .dict (← entries.mapM fun entry => do
        return (entry.1, ← decodeField item entry.2 (path ++ Str.ofString "." ++ entry.1)))
    | value => throw (unexpected path "an object" value)
  | .dataclass shape, value, _ => decodeShape shape value

end

/-- The `try` around `decode_shape` in both callers: no value where the shape does not match. -/
def tryShape (shape : Shape) (raw : Json) : Except PyError (Option Value) :=
  match decodeShape shape raw with
  | .ok value => .ok (some value)
  | .error (.shapeMismatch _) => .ok none
  | .error (.raised error) => .error error

/-! ## Encoding -/

mutual

def shapeToWire : Value → Json
  | .vmValue value => value.toWire
  | .object _ attributes => .obj (attributesToWire attributes)
  | .dict entries => .obj (entriesToWire entries)
  | .list items => .arr (itemsToWire items)
  | .none => .null
  | .str text => .str text
  | .bool value => .bool value
  | .int value => .int value

/-- The loop over the fields: a field that is `None` is passed over. -/
def attributesToWire : List (FieldInfo × Value) → List (Str × Json)
  | [] => []
  | (info, value) :: attributes =>
    match value with
    | .none => attributesToWire attributes
    | value => (info.wireName, shapeToWire value) :: attributesToWire attributes

def entriesToWire : List (Str × Value) → List (Str × Json)
  | [] => []
  | (name, item) :: entries => (name, shapeToWire item) :: entriesToWire entries

def itemsToWire : List Value → List Json
  | [] => []
  | item :: items => shapeToWire item :: itemsToWire items

end

end PhantasmaPy.Events
