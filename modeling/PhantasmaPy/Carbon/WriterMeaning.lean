import PhantasmaPy.Carbon.Defaults
import PhantasmaPy.Wire.Mirror

/-! # What the writer makes of data

`write_static` looks for a type and a schema in the data that it is given.  It writes what it finds, a default
where it finds something else, the first field of a name for each declaration of that name, and nothing for what
the schema has no place for.  `Becomes` is the data that is read back then, in front of a number of other bytes.
-/

namespace PhantasmaPy.Carbon

open Wire CarbonWriter CarbonReader

/-! ## Typed data -/

/-- The data has the class that its type calls for, at every depth, whatever a schema asks for besides; a schema
    that travels with an array has a place on the wire.  Under a schema the same holds for what it declares. -/
inductive Typed : VMType → Option VMStructSchema → Data → Prop
  | leaf {vmType : VMType} {schema : Option VMStructSchema} {data : Data} (leafData : LeafData vmType data) :
      Typed vmType schema data
  | dynamic {schema : Option VMStructSchema} {value : VMDynamicVariable}
      (inner : Typed value.type none value.data) : Typed .DYNAMIC schema (.variable value)
  | dynamicArray {schema : Option VMStructSchema} {values : List VMDynamicVariable}
      (each : ∀ value ∈ values, Typed value.type none value.data) :
      Typed .ARRAY_DYNAMIC schema (.list (values.map .variable))
  | struct {value : VMDynamicStruct} (each : ∀ field ∈ value.fields, Typed field.value.type none field.value.data) :
      Typed .STRUCT none (.struct value)
  | boundStruct {schema : VMStructSchema} {value : VMDynamicStruct}
      (declared : ∀ declaration ∈ schema.fields, ∀ field ∈ value.fields,
        field.name.value = declaration.name.value → field.value.type = declaration.schema.type →
        Typed declaration.schema.type declaration.schema.structDef field.value.data)
      (others : ∀ field ∈ value.fields, schema.hasField field.name.value = false →
        Typed field.value.type none field.value.data) :
      Typed .STRUCT (some schema) (.struct value)
  | boundArray {schema own : VMStructSchema} {structs : List VMDynamicStruct}
      (each : ∀ struct ∈ structs, Typed .STRUCT (some schema) (.struct struct)) :
      Typed .ARRAY_STRUCT (some schema) (.structArray ⟨own, structs.map .struct⟩)
  | inlineArray {schema : VMStructSchema} {structs : List VMDynamicStruct} (publishable : schema.Publishable)
      (each : ∀ struct ∈ structs, Typed .STRUCT none (.struct struct)) :
      Typed .ARRAY_STRUCT none (.structArray ⟨schema, structs.map .struct⟩)

/-! ## Parts of the writer -/

section Parts

variable (conv : Conversions)

/-- The writer of one field of a schema. -/
def writeField (writers : List FieldWriter) (field : VMNamedVariableSchema) : CarbonWriter Bool :=
  match writers.find? fun writer => writer.name.value = field.name.value with
  | some writer => writer.writeStatic field.schema.type field.schema.structDef
  | none => writeDefault conv field.schema.type field.schema.structDef

theorem writeFields_cons (writers : List FieldWriter) (field : VMNamedVariableSchema)
    (schemaFields : List VMNamedVariableSchema) (ok : Bool) (fieldsFound : Nat) :
    writeFields conv writers (field :: schemaFields) ok fieldsFound = (do
      let written ← writeField conv writers field
      writeFields conv writers schemaFields (written && ok) (fieldsFound +
        if (writers.find? fun writer => writer.name.value = field.name.value).isSome then 1 else 0)) := by
  obtain ⟨name, type, structDef⟩ := field
  rw [writeFields]
  unfold writeField
  dsimp only
  cases writers.find? fun writer => writer.name.value = name.value <;> rfl

/-- A field with its name. -/
def namedWriter (field : VMNamedDynamicVariable) : CarbonWriter Unit := do
  (field.writer conv).name.writeCarbon
  (field.writer conv).writeCarbon

/-- An element of a struct array. -/
def elementWriter (schema : Option VMStructSchema) (struct : VMDynamicStruct) : CarbonWriter Unit := do
  let _ ← (Data.struct struct).writeAs conv .STRUCT schema

/-- The field that a schema declares, or a default. -/
def declaredWriter (fields : List VMNamedDynamicVariable) (declaration : VMNamedVariableSchema) :
    CarbonWriter Unit := do
  let _ ← writeField conv (fieldWriters conv fields) declaration

/-- There is a field for every declaration, and there are as many of them. -/
def filled (schema : VMStructSchema) (fields : List VMNamedDynamicVariable) : Bool :=
  schema.fields.all (fun declaration => fields.any fun field => field.name.value = declaration.name.value) &&
    fields.length == schema.fields.length

/-- The fields that are written as extras: none where the writer takes the struct for filled. -/
def writtenExtras (schema : VMStructSchema) (fields : List VMNamedDynamicVariable) : List VMNamedDynamicVariable :=
  if schema.dynamicExtras ∧ ¬ filled schema fields then extras schema fields else []

def extrasWriter (schema : VMStructSchema) (fields : List VMNamedDynamicVariable) : CarbonWriter Unit :=
  if schema.dynamicExtras then writeArray (namedWriter conv) (writtenExtras schema fields) else pure ()

end Parts

/-! ## Meaning -/

/-- The variable with other data. -/
def VMDynamicVariable.withData (value : VMDynamicVariable) (data : Data) : VMDynamicVariable := ⟨value.type, data⟩

/-- A field of a schema with data. -/
def VMNamedVariableSchema.withData (declaration : VMNamedVariableSchema) (data : Data) : VMNamedDynamicVariable :=
  ⟨declaration.name, ⟨declaration.schema.type, data⟩⟩

/-- What is read where the data was written for the type and the schema, in front of a number of other bytes.  Each
    value stands in front of the later ones, and a struct array is read only if it has no more elements than there are
    bytes behind its count. -/
inductive Becomes (conv : Conversions) : Nat → VMType → Option VMStructSchema → Data → Data → Prop
  | leaf {after : Nat} {vmType : VMType} {schema : Option VMStructSchema} {data : Data}
      (leafData : LeafData vmType data) : Becomes conv after vmType schema data data
  | dynamic {after : Nat} {schema : Option VMStructSchema} {value : VMDynamicVariable} {image : Data}
      (inner : Becomes conv after value.type none value.data image) :
      Becomes conv after .DYNAMIC schema (.variable value) (.variable ⟨value.type, image⟩)
  | dynamicArray {after : Nat} {schema : Option VMStructSchema} {values : List VMDynamicVariable}
      {images : List Data} (count : images.length = values.length)
      (each : ∀ (i : Nat) (value : VMDynamicVariable) (image : Data), values[i]? = some value →
        images[i]? = some image →
        Becomes conv ((Put.each (VMDynamicVariable.writeCarbon conv) (values.drop (i + 1))).size + after)
          value.type none value.data image) :
      Becomes conv after .ARRAY_DYNAMIC schema (.list (values.map .variable))
        (.list ((List.zipWith VMDynamicVariable.withData values images).map .variable))
  | struct {after : Nat} {value : VMDynamicStruct} {images : List Data}
      (count : images.length = (sortFields value.fields).length)
      (each : ∀ (i : Nat) (field : VMNamedDynamicVariable) (image : Data),
        (sortFields value.fields)[i]? = some field → images[i]? = some image →
        Becomes conv ((Put.each (namedWriter conv) ((sortFields value.fields).drop (i + 1))).size + after)
          field.value.type none field.value.data image) :
      Becomes conv after .STRUCT none (.struct value)
        (.struct ⟨sortFields (List.zipWith VMNamedDynamicVariable.withData (sortFields value.fields) images)⟩)
  | boundStruct {after : Nat} {schema : VMStructSchema} {value : VMDynamicStruct} {images others : List Data}
      (count : images.length = schema.fields.length)
      (found : ∀ (i : Nat) (declaration : VMNamedVariableSchema) (image : Data),
        schema.fields[i]? = some declaration → images[i]? = some image → ∀ data,
        value.get declaration.name.value = some ⟨declaration.schema.type, data⟩ →
        Becomes conv ((Put.each (declaredWriter conv value.fields) (schema.fields.drop (i + 1))).size +
            ((extrasWriter conv schema value.fields).size + after))
          declaration.schema.type declaration.schema.structDef data image)
      (replaced : ∀ (i : Nat) (declaration : VMNamedVariableSchema) (image : Data),
        schema.fields[i]? = some declaration → images[i]? = some image →
        (∀ data, value.get declaration.name.value ≠ some ⟨declaration.schema.type, data⟩) →
        image = writtenDefault declaration.schema.type declaration.schema.structDef)
      (othersCount : others.length = (writtenExtras schema value.fields).length)
      (othersEach : ∀ (i : Nat) (field : VMNamedDynamicVariable) (image : Data),
        (writtenExtras schema value.fields)[i]? = some field → others[i]? = some image →
        Becomes conv ((Put.each (namedWriter conv) ((writtenExtras schema value.fields).drop (i + 1))).size + after)
          field.value.type none field.value.data image) :
      Becomes conv after .STRUCT (some schema) (.struct value)
        (.struct ⟨sortFields (List.zipWith VMNamedVariableSchema.withData schema.fields images ++
          List.zipWith VMNamedDynamicVariable.withData (writtenExtras schema value.fields) others)⟩)
  | boundArray {after : Nat} {schema own : VMStructSchema} {structs images : List VMDynamicStruct}
      (room : structs.length ≤ (Put.each (elementWriter conv (some schema)) structs).size + after)
      (count : images.length = structs.length)
      (each : ∀ (i : Nat) (struct image : VMDynamicStruct), structs[i]? = some struct → images[i]? = some image →
        Becomes conv ((Put.each (elementWriter conv (some schema)) (structs.drop (i + 1))).size + after)
          .STRUCT (some schema) (.struct struct) (.struct image)) :
      Becomes conv after .ARRAY_STRUCT (some schema) (.structArray ⟨own, structs.map .struct⟩)
        (.structArray ⟨schema, images.map .struct⟩)
  | inlineArray {after : Nat} {schema : VMStructSchema} {structs images : List VMDynamicStruct}
      (publishable : schema.Publishable)
      (room : structs.length ≤
        schema.writeCarbon.size + (Put.each (elementWriter conv schema.used) structs).size + after)
      (count : images.length = structs.length)
      (each : ∀ (i : Nat) (struct image : VMDynamicStruct), structs[i]? = some struct → images[i]? = some image →
        Becomes conv ((Put.each (elementWriter conv schema.used) (structs.drop (i + 1))).size + after)
          .STRUCT schema.used (.struct struct) (.struct image)) :
      Becomes conv after .ARRAY_STRUCT none (.structArray ⟨schema, structs.map .struct⟩)
        (.structArray ⟨schema, images.map .struct⟩)

/-- The writer makes nothing else of the data: it finds what it looks for at every depth and passes over nothing.  In a
    struct under a schema each declared name occurs once, with the declared type, and other names only where the
    schema allows extras.  A schema that repeats a name is written with the first field of that name each time. -/
inductive Unchanged (conv : Conversions) : Nat → VMType → Option VMStructSchema → Data → Prop
  | leaf {after : Nat} {vmType : VMType} {schema : Option VMStructSchema} {data : Data}
      (leafData : LeafData vmType data) : Unchanged conv after vmType schema data
  | dynamic {after : Nat} {schema : Option VMStructSchema} {value : VMDynamicVariable}
      (inner : Unchanged conv after value.type none value.data) : Unchanged conv after .DYNAMIC schema (.variable value)
  | dynamicArray {after : Nat} {schema : Option VMStructSchema} {values : List VMDynamicVariable}
      (each : ∀ (i : Nat) (value : VMDynamicVariable), values[i]? = some value →
        Unchanged conv ((Put.each (VMDynamicVariable.writeCarbon conv) (values.drop (i + 1))).size + after)
          value.type none value.data) :
      Unchanged conv after .ARRAY_DYNAMIC schema (.list (values.map .variable))
  | struct {after : Nat} {value : VMDynamicStruct}
      (each : ∀ (i : Nat) (field : VMNamedDynamicVariable), (sortFields value.fields)[i]? = some field →
        Unchanged conv ((Put.each (namedWriter conv) ((sortFields value.fields).drop (i + 1))).size + after)
          field.value.type none field.value.data) :
      Unchanged conv after .STRUCT none (.struct value)
  | boundStruct {after : Nat} {schema : VMStructSchema} {value : VMDynamicStruct}
      (values : VMNamedVariableSchema → Data)
      (distinct : (schema.fields.map fun declaration => declaration.name.value).Nodup)
      (first : ∀ declaration ∈ schema.fields,
        value.get declaration.name.value = some ⟨declaration.schema.type, values declaration⟩)
      (once : ∀ declaration ∈ schema.fields,
        (value.fields.filter fun field => field.name.value = declaration.name.value).length = 1)
      (allowed : extras schema value.fields ≠ [] → schema.dynamicExtras = true)
      (each : ∀ (i : Nat) (declaration : VMNamedVariableSchema), schema.fields[i]? = some declaration →
        Unchanged conv ((Put.each (declaredWriter conv value.fields) (schema.fields.drop (i + 1))).size +
            ((extrasWriter conv schema value.fields).size + after))
          declaration.schema.type declaration.schema.structDef (values declaration))
      (extrasEach : ∀ (i : Nat) (field : VMNamedDynamicVariable), (extras schema value.fields)[i]? = some field →
        Unchanged conv ((Put.each (namedWriter conv) ((extras schema value.fields).drop (i + 1))).size + after)
          field.value.type none field.value.data) :
      Unchanged conv after .STRUCT (some schema) (.struct value)
  | repeated {after : Nat} {schema : VMStructSchema} {value : VMDynamicStruct}
      (repeated : ¬ (schema.fields.map fun declaration => declaration.name.value).Nodup)
      (typed : Typed .STRUCT none (.struct value))
      (same : Becomes conv after .STRUCT (some schema) (.struct value) (Data.struct value).normal) :
      Unchanged conv after .STRUCT (some schema) (.struct value)
  | boundArray {after : Nat} {schema : VMStructSchema} {structs : List VMDynamicStruct}
      (room : structs.length ≤ (Put.each (elementWriter conv (some schema)) structs).size + after)
      (each : ∀ (i : Nat) (struct : VMDynamicStruct), structs[i]? = some struct →
        Unchanged conv ((Put.each (elementWriter conv (some schema)) (structs.drop (i + 1))).size + after)
          .STRUCT (some schema) (.struct struct)) :
      Unchanged conv after .ARRAY_STRUCT (some schema) (.structArray ⟨schema, structs.map .struct⟩)
  | inlineArray {after : Nat} {schema : VMStructSchema} {structs : List VMDynamicStruct}
      (publishable : schema.Publishable)
      (room : structs.length ≤
        schema.writeCarbon.size + (Put.each (elementWriter conv schema.used) structs).size + after)
      (each : ∀ (i : Nat) (struct : VMDynamicStruct), structs[i]? = some struct →
        Unchanged conv ((Put.each (elementWriter conv schema.used) (structs.drop (i + 1))).size + after)
          .STRUCT schema.used (.struct struct)) :
      Unchanged conv after .ARRAY_STRUCT none (.structArray ⟨schema, structs.map .struct⟩)

section Meaning

variable {conv : Conversions} {after : Nat} {schema : VMStructSchema} {image : Data}

theorem becomes_leaf {vmType : VMType} (leaf : vmType.isNested = false) {used : Option VMStructSchema} {data : Data} :
    Becomes conv after vmType used data image ↔ LeafData vmType data ∧ image = data := by
  constructor
  · intro becomes
    cases becomes with
    | leaf leafData => exact ⟨leafData, rfl⟩
    | _ => cases leaf
  · rintro ⟨leafData, rfl⟩
    exact .leaf leafData

theorem becomes_dynamic {used : Option VMStructSchema} {value : VMDynamicVariable} :
    Becomes conv after .DYNAMIC used (.variable value) image ↔
      ∃ inner, Becomes conv after value.type none value.data inner ∧ image = .variable ⟨value.type, inner⟩ := by
  constructor
  · intro becomes
    cases becomes with
    | leaf leafData => exact leafData.elim
    | dynamic inner => exact ⟨_, inner, rfl⟩
  · rintro ⟨inner, becomes, rfl⟩
    exact .dynamic becomes

theorem becomes_dynamicArray {used : Option VMStructSchema} {values : List VMDynamicVariable} :
    Becomes conv after .ARRAY_DYNAMIC used (.list (values.map .variable)) image ↔
      ∃ images, InTurn (fun later => (Put.each (VMDynamicVariable.writeCarbon conv) later).size)
          (fun value after image => Becomes conv after value.type none value.data image) after values images ∧
        image = .list ((List.zipWith VMDynamicVariable.withData values images).map .variable) := by
  constructor
  · intro becomes
    generalize spelled : Data.list (values.map .variable) = data at becomes
    cases becomes with
    | leaf leafData => exact leafData.elim
    | dynamicArray count each =>
      obtain rfl := List.map_injective_iff.mpr variable_injective (Data.list.inj spelled)
      exact ⟨_, ⟨count, each⟩, rfl⟩
  · rintro ⟨images, ⟨count, each⟩, rfl⟩
    exact .dynamicArray count each

theorem becomes_struct {value : VMDynamicStruct} : Becomes conv after .STRUCT none (.struct value) image ↔
    ∃ images, InTurn (fun later => (Put.each (namedWriter conv) later).size)
        (fun field after image => Becomes conv after field.value.type none field.value.data image) after
        (sortFields value.fields) images ∧
      image = .struct
        ⟨sortFields (List.zipWith VMNamedDynamicVariable.withData (sortFields value.fields) images)⟩ := by
  constructor
  · intro becomes
    cases becomes with
    | leaf leafData => exact leafData.elim
    | struct count each => exact ⟨_, ⟨count, each⟩, rfl⟩
  · rintro ⟨images, ⟨count, each⟩, rfl⟩
    exact .struct count each

/-- What is read for a declaration, in front of a number of other bytes. -/
def DeclaredBecomes (conv : Conversions) (value : VMDynamicStruct) (declaration : VMNamedVariableSchema) (after : Nat)
    (image : Data) : Prop :=
  (∀ data, value.get declaration.name.value = some ⟨declaration.schema.type, data⟩ →
    Becomes conv after declaration.schema.type declaration.schema.structDef data image) ∧
  ((∀ data, value.get declaration.name.value ≠ some ⟨declaration.schema.type, data⟩) →
    image = writtenDefault declaration.schema.type declaration.schema.structDef)

theorem becomes_boundStruct {value : VMDynamicStruct} : Becomes conv after .STRUCT (some schema) (.struct value) image ↔
    ∃ images others, InTurn (fun later => (Put.each (declaredWriter conv value.fields) later).size)
        (DeclaredBecomes conv value) ((extrasWriter conv schema value.fields).size + after) schema.fields images ∧
      InTurn (fun later => (Put.each (namedWriter conv) later).size)
        (fun field after image => Becomes conv after field.value.type none field.value.data image) after
        (writtenExtras schema value.fields) others ∧
      image = .struct ⟨sortFields (List.zipWith VMNamedVariableSchema.withData schema.fields images ++
        List.zipWith VMNamedDynamicVariable.withData (writtenExtras schema value.fields) others)⟩ := by
  constructor
  · intro becomes
    cases becomes with
    | leaf leafData => exact leafData.elim
    | boundStruct count found replaced othersCount othersEach =>
      refine ⟨_, _, ⟨count, fun i declaration image inSchema inImages => ?_⟩, ⟨othersCount, othersEach⟩, rfl⟩
      exact ⟨found i declaration image inSchema inImages, replaced i declaration image inSchema inImages⟩
  · rintro ⟨images, others, ⟨count, each⟩, ⟨othersCount, othersEach⟩, rfl⟩
    exact .boundStruct count (fun i declaration image inSchema inImages => (each i _ _ inSchema inImages).1)
      (fun i declaration image inSchema inImages => (each i _ _ inSchema inImages).2) othersCount othersEach

/-- What is read for the elements of a struct array. -/
def ElementsBecome (conv : Conversions) (schema : Option VMStructSchema) (after : Nat)
    (structs images : List VMDynamicStruct) : Prop :=
  InTurn (fun later => (Put.each (elementWriter conv schema) later).size)
    (fun struct after image => Becomes conv after .STRUCT schema (.struct struct) (.struct image)) after structs images

theorem becomes_boundArray {own : VMStructSchema} {structs : List VMDynamicStruct} :
    Becomes conv after .ARRAY_STRUCT (some schema) (.structArray ⟨own, structs.map .struct⟩) image ↔
      ∃ images, structs.length ≤ (Put.each (elementWriter conv (some schema)) structs).size + after ∧
        ElementsBecome conv (some schema) after structs images ∧
        image = .structArray ⟨schema, images.map .struct⟩ := by
  constructor
  · intro becomes
    generalize spelled : Data.structArray ⟨own, structs.map .struct⟩ = data at becomes
    cases becomes with
    | leaf leafData => exact leafData.elim
    | boundArray room count each =>
      obtain ⟨rfl, same⟩ := VMStructArray.mk.inj (Data.structArray.inj spelled)
      obtain rfl := List.map_injective_iff.mpr struct_injective same
      exact ⟨_, room, ⟨count, each⟩, rfl⟩
  · rintro ⟨images, room, ⟨count, each⟩, rfl⟩
    exact .boundArray room count each

theorem becomes_inlineArray {structs : List VMDynamicStruct} :
    Becomes conv after .ARRAY_STRUCT none (.structArray ⟨schema, structs.map .struct⟩) image ↔
      ∃ images, schema.Publishable ∧
        structs.length ≤ schema.writeCarbon.size + (Put.each (elementWriter conv schema.used) structs).size + after ∧
        ElementsBecome conv schema.used after structs images ∧
        image = .structArray ⟨schema, images.map .struct⟩ := by
  constructor
  · intro becomes
    generalize spelled : Data.structArray ⟨schema, structs.map .struct⟩ = data at becomes
    cases becomes with
    | leaf leafData => exact leafData.elim
    | inlineArray publishable room count each =>
      obtain ⟨rfl, same⟩ := VMStructArray.mk.inj (Data.structArray.inj spelled)
      obtain rfl := List.map_injective_iff.mpr struct_injective same
      exact ⟨_, publishable, room, ⟨count, each⟩, rfl⟩
  · rintro ⟨images, publishable, room, ⟨count, each⟩, rfl⟩
    exact .inlineArray publishable room count each

end Meaning

end PhantasmaPy.Carbon
