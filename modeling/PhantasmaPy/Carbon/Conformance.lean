import PhantasmaPy.Carbon.DynamicLaws

/-! # Conforming values

The normal form of a value, in which the fields of every struct are sorted by name, and `Holds`: the data
that a type and a schema call for.  `Written` lets fields share a name that no schema declares, as the writer does.
-/

namespace PhantasmaPy.Carbon

open Wire CarbonWriter CarbonReader

/-! ## Normal form -/

mutual

/-- The value with the fields of every struct sorted by name. -/
def Data.normal : Data → Data
  | .variable value => .variable value.normal
  | .struct value => .struct value.normal
  | .list items => .list (normalItems items)
  | .structArray ⟨schema, structs⟩ => .structArray ⟨schema, normalItems structs⟩
  | value => value

def VMDynamicVariable.normal : VMDynamicVariable → VMDynamicVariable
  | ⟨type, data⟩ => ⟨type, data.normal⟩

def VMNamedDynamicVariable.normal : VMNamedDynamicVariable → VMNamedDynamicVariable
  | ⟨name, value⟩ => ⟨name, value.normal⟩

def VMDynamicStruct.normal : VMDynamicStruct → VMDynamicStruct
  | ⟨fields⟩ => ⟨sortFields (normalFields fields)⟩

def normalFields : List VMNamedDynamicVariable → List VMNamedDynamicVariable
  | [] => []
  | field :: fields => field.normal :: normalFields fields

def normalItems : List Data → List Data
  | [] => []
  | item :: items => item.normal :: normalItems items

end

theorem normal_name (field : VMNamedDynamicVariable) : field.normal.name = field.name := by
  cases field
  rfl

theorem writer_name (conv : Conversions) (field : VMNamedDynamicVariable) :
    (field.writer conv).name = field.name := by
  cases field
  rfl

theorem normalFields_eq (fields : List VMNamedDynamicVariable) :
    normalFields fields = fields.map VMNamedDynamicVariable.normal := by
  induction fields with
  | nil => rfl
  | cons field fields ih => rw [normalFields, List.map_cons, ih]

/-- Items of one class are put in normal form one by one. -/
theorem normalItems_map {α : Type} {inject : α → Data} {normal : α → α}
    (same : ∀ a, (inject a).normal = inject (normal a)) (xs : List α) :
    normalItems (xs.map inject) = (xs.map normal).map inject := by
  induction xs with
  | nil => rfl
  | cons x xs ih => rw [List.map_cons, normalItems, same, ih, List.map_cons, List.map_cons]

theorem fieldWriters_eq (conv : Conversions) (fields : List VMNamedDynamicVariable) :
    fieldWriters conv fields = fields.map (VMNamedDynamicVariable.writer conv) := by
  induction fields with
  | nil => rfl
  | cons field fields ih => rw [fieldWriters, List.map_cons, ih]

theorem itemWriters_map (conv : Conversions) {α : Type} (inject : α → Data) (xs : List α) :
    itemWriters conv (xs.map inject) = xs.map fun x => (inject x).itemWriter conv := by
  induction xs with
  | nil => rfl
  | cons x xs ih => rw [List.map_cons, itemWriters, List.map_cons, ih]

theorem normal_eq_variable {data : Data} {value : VMDynamicVariable} (same : data.normal = .variable value) :
    ∃ original, data = .variable original ∧ original.normal = value := by
  cases data with
  | «variable» original => exact ⟨original, rfl, Data.variable.inj same⟩
  | structArray value =>
    obtain ⟨schema, structs⟩ := value
    cases same
  | _ => cases same

theorem normal_eq_struct {data : Data} {value : VMDynamicStruct} (same : data.normal = .struct value) :
    ∃ original, data = .struct original ∧ original.normal = value := by
  cases data with
  | struct original => exact ⟨original, rfl, Data.struct.inj same⟩
  | structArray value =>
    obtain ⟨schema, structs⟩ := value
    cases same
  | _ => cases same

theorem normal_eq_list {data : Data} {items : List Data} (same : data.normal = .list items) :
    ∃ originals, data = .list originals ∧ normalItems originals = items := by
  cases data with
  | list originals => exact ⟨originals, rfl, Data.list.inj same⟩
  | structArray value =>
    obtain ⟨schema, structs⟩ := value
    cases same
  | _ => cases same

theorem normal_eq_structArray {data : Data} {schema : VMStructSchema} {structs : List Data}
    (same : data.normal = .structArray ⟨schema, structs⟩) :
    ∃ originals, data = .structArray ⟨schema, originals⟩ ∧ normalItems originals = structs := by
  cases data with
  | structArray value =>
    obtain ⟨own, originals⟩ := value
    obtain ⟨rfl, rfl⟩ := VMStructArray.mk.inj (Data.structArray.inj same)
    exact ⟨originals, rfl, rfl⟩
  | _ => cases same

/-! ## Sorting -/

section Sorting

variable {fields others : List VMNamedDynamicVariable}

theorem sortFields_pairwise (fields : List VMNamedDynamicVariable) :
    (sortFields fields).Pairwise fun first second => first.name.value ≤ second.name.value := by
  have total : Std.Total fun first second : VMNamedDynamicVariable =>
      first.name.value ≤ second.name.value := ⟨fun _ _ => le_total _ _⟩
  have trans : IsTrans VMNamedDynamicVariable fun first second =>
      first.name.value ≤ second.name.value := ⟨fun _ _ _ => le_trans⟩
  exact List.pairwise_insertionSort _ fields

theorem sortFields_perm (fields : List VMNamedDynamicVariable) : (sortFields fields).Perm fields :=
  List.perm_insertionSort _ fields

theorem sortFields_sorted (fields : List VMNamedDynamicVariable) :
    sortFields (sortFields fields) = sortFields fields :=
  (sortFields_pairwise fields).insertionSort_eq

/-- With distinct names the order before sorting does not matter. -/
theorem sortFields_congr (distinct : (fields.map fun field => field.name.value).Nodup)
    (perm : fields.Perm others) : sortFields fields = sortFields others := by
  refine List.Perm.eq_of_pairwise ?_ (sortFields_pairwise fields) (sortFields_pairwise others)
    ((sortFields_perm fields).trans (perm.trans (sortFields_perm others).symm))
  intro first second inFirst inSecond le ge
  have memberFirst := (sortFields_perm fields).mem_iff.mp inFirst
  have memberSecond := perm.mem_iff.mpr ((sortFields_perm others).mem_iff.mp inSecond)
  exact List.inj_on_of_nodup_map distinct memberFirst memberSecond (le_antisymm le ge)

/-- A change that keeps the names can be made before or after sorting. -/
theorem sortFields_map {change : VMNamedDynamicVariable → VMNamedDynamicVariable}
    (name : ∀ field, (change field).name = field.name) (fields : List VMNamedDynamicVariable) :
    (sortFields fields).map change = sortFields (fields.map change) := by
  refine List.map_insertionSort _ _ change fields ?_
  intro first _ second _
  rw [name, name]

/-- Sorting keeps the order of the fields of one name. -/
theorem sortFields_filter (fields : List VMNamedDynamicVariable) (name : Str) :
    ((sortFields fields).filter fun field => field.name.value = name) =
      fields.filter fun field => field.name.value = name := by
  have total : Std.Total fun first second : VMNamedDynamicVariable =>
      first.name.value ≤ second.name.value := ⟨fun _ _ => le_total _ _⟩
  have trans : IsTrans VMNamedDynamicVariable fun first second =>
      first.name.value ≤ second.name.value := ⟨fun _ _ _ => le_trans⟩
  have equal : (fields.filter fun field => field.name.value = name).Pairwise fun first second =>
      first.name.value ≤ second.name.value := by
    apply List.pairwise_iff_forall_sublist.mpr
    intro first second inside
    have named (field : VMNamedDynamicVariable)
        (member : field ∈ fields.filter fun field => field.name.value = name) : field.name.value = name :=
      of_decide_eq_true (List.mem_filter.mp member).2
    rw [named first (inside.subset (by simp)), named second (inside.subset (by simp))]
  have sublist := List.sublist_insertionSort equal List.filter_sublist
  have filtered := sublist.filter fun field => field.name.value = name
  rw [List.filter_filter] at filtered
  simp only [Bool.and_self] at filtered
  apply (filtered.eq_of_length _).symm
  exact ((sortFields_perm fields).filter _).length_eq.symm

theorem get_sortFields (fields : List VMNamedDynamicVariable) (name : Str) :
    VMDynamicStruct.get ⟨sortFields fields⟩ name = VMDynamicStruct.get ⟨fields⟩ name := by
  unfold VMDynamicStruct.get
  rw [← List.head?_filter, ← List.head?_filter, sortFields_filter]

/-- Fields in the same order of names are the same if those of each name are. -/
theorem fields_ext (names : (fields.map fun field => field.name.value) = others.map fun field => field.name.value)
    (same : ∀ name, (fields.filter fun field => field.name.value = name) =
      others.filter fun field => field.name.value = name) : fields = others := by
  induction fields generalizing others with
  | nil => exact (List.map_eq_nil_iff.mp names.symm).symm
  | cons field fields ih =>
    cases others with
    | nil => cases names
    | cons other others =>
      obtain ⟨head, tail⟩ := List.cons.inj names
      -- the first fields have one name, so that they are the first of that name
      have first := same field.name.value
      rw [List.filter_cons_of_pos (by simp), List.filter_cons_of_pos (by simp [head])] at first
      obtain rfl := (List.cons.inj first).1
      refine congrArg (field :: ·) (ih tail fun name => ?_)
      have each := same name
      by_cases named : field.name.value = name
      · rw [List.filter_cons_of_pos (by simp [named]), List.filter_cons_of_pos (by simp [named])] at each
        exact (List.cons.inj each).2
      · rwa [List.filter_cons_of_neg (by simp [named]), List.filter_cons_of_neg (by simp [named])] at each

/-- Sorted fields are the same if those of each name are, in their order. -/
theorem sortFields_ext (same : ∀ name, (fields.filter fun field => field.name.value = name) =
      others.filter fun field => field.name.value = name) : sortFields fields = sortFields others := by
  have counted (fields : List VMNamedDynamicVariable) (name : Str) :
      (fields.map fun field => field.name.value).count name =
        (fields.filter fun field => field.name.value = name).length := by
    rw [List.count_eq_countP, List.countP_map, List.countP_eq_length_filter]
    exact congrArg List.length (List.filter_congr fun field _ => Bool.eq_iff_iff.mpr (by simp))
  have names : (fields.map fun field => field.name.value).Perm (others.map fun field => field.name.value) :=
    List.perm_iff_count.mpr fun name => by rw [counted, counted, same]
  have sorted (fields : List VMNamedDynamicVariable) :
      ((sortFields fields).map fun field => field.name.value).Pairwise (· ≤ ·) :=
    List.pairwise_map.mpr (sortFields_pairwise fields)
  have sortedNames : ((sortFields fields).map fun field => field.name.value).Perm
      ((sortFields others).map fun field => field.name.value) :=
    ((sortFields_perm fields).map _).trans (names.trans ((sortFields_perm others).map _).symm)
  apply fields_ext (sortedNames.eq_of_pairwise (fun _ _ _ _ le ge => le_antisymm le ge) (sorted fields)
    (sorted others))
  intro name
  rw [sortFields_filter, sortFields_filter, same]

/-- Fields of one order of names that are sorted alike are the same. -/
theorem sortFields_inj (names : (fields.map fun field => field.name.value) =
      others.map fun field => field.name.value)
    (sorted : sortFields fields = sortFields others) : fields = others := by
  apply fields_ext names
  intro name
  rw [← sortFields_filter fields, sorted, sortFields_filter]

end Sorting

/-! ## Structs of at least one byte -/

mutual

/-- Every struct of the schema occupies at least one byte: there are extras, whose count is written, or
    a field that is not again a struct of no bytes. -/
def VMStructSchema.occupies : VMStructSchema → Bool
  | ⟨fields, flags⟩ => VMStructSchema.dynamicExtras ⟨fields, flags⟩ || fieldsOccupy fields

def fieldsOccupy : List VMNamedVariableSchema → Bool
  | [] => false
  | ⟨_, ⟨type, structDef⟩⟩ :: fields => type ≠ .STRUCT || defOccupies structDef || fieldsOccupy fields

def defOccupies : Option VMStructSchema → Bool
  | some structDef => structDef.occupies
  | none => true

end

/-! ## Schemas with distinct names -/

mutual

/-- The names of the fields are distinct, and the elements of struct arrays occupy at least one byte, in the
    schema and in all its definitions. -/
def VMStructSchema.Orderly : VMStructSchema → Prop
  | ⟨fields, _⟩ => (fields.map fun field => field.name.value).Nodup ∧ fieldsOrderly fields

def fieldsOrderly : List VMNamedVariableSchema → Prop
  | [] => True
  | ⟨_, ⟨type, structDef⟩⟩ :: fields => defOrderly type structDef ∧ fieldsOrderly fields

/-- A definition counts at a struct type only. -/
def defOrderly (type : VMType) : Option VMStructSchema → Prop
  | none => True
  | some schema => type.isStruct = true → schema.Orderly ∧ (type = .ARRAY_STRUCT → schema.occupies = true)

end

theorem fieldsOrderly_iff {fields : List VMNamedVariableSchema} :
    fieldsOrderly fields ↔ ∀ field ∈ fields, defOrderly field.schema.type field.schema.structDef := by
  induction fields with
  | nil => simp [fieldsOrderly]
  | cons field fields ih =>
    obtain ⟨name, type, structDef⟩ := field
    rw [fieldsOrderly, ih, List.forall_mem_cons]

theorem VMStructSchema.orderly_iff {schema : VMStructSchema} : schema.Orderly ↔
    (schema.fields.map fun field => field.name.value).Nodup ∧
      ∀ field ∈ schema.fields, defOrderly field.schema.type field.schema.structDef := by
  obtain ⟨schemaFields, flags⟩ := schema
  rw [VMStructSchema.Orderly, fieldsOrderly_iff]

/-! ## What a type and a schema call for -/

/-- The fields of a struct that its schema does not name. -/
def extras (schema : VMStructSchema) (fields : List VMNamedDynamicVariable) :
    List VMNamedDynamicVariable := fields.filter fun field => !schema.hasField field.name.value

/-- The names are pairwise different. -/
def DistinctNames (fields : List VMNamedDynamicVariable) : Prop :=
  (fields.map fun field => field.name.value).Nodup

/-- The schema that an array with an inline schema is written by; one without fields is not used. -/
def VMStructSchema.used (schema : VMStructSchema) : Option VMStructSchema :=
  if schema.fields.isEmpty then none else some schema

/-- The data is of the class that the type calls for, in range, and conforms to the schema; without a
    schema structs describe themselves. -/
inductive Holds : VMType → Option VMStructSchema → Data → Prop
  | leaf {vmType : VMType} {schema : Option VMStructSchema} {data : Data}
      (leafData : LeafData vmType data) : Holds vmType schema data
  | dynamic {schema : Option VMStructSchema} {value : VMDynamicVariable}
      (inner : Holds value.type none value.data) : Holds .DYNAMIC schema (.variable value)
  | dynamicArray {schema : Option VMStructSchema} {values : List VMDynamicVariable}
      (small : values.length < 2 ^ 31) (each : ∀ value ∈ values, Holds value.type none value.data) :
      Holds .ARRAY_DYNAMIC schema (.list (values.map .variable))
  | struct {value : VMDynamicStruct} (small : value.fields.length < 2 ^ 31)
      (distinct : DistinctNames value.fields)
      (each : ∀ field ∈ value.fields, Holds field.value.type none field.value.data) :
      Holds .STRUCT none (.struct value)
  | boundStruct {schema : VMStructSchema} {value : VMDynamicStruct}
      (values : VMNamedVariableSchema → Data)
      (schemaDistinct : (schema.fields.map fun field => field.name.value).Nodup)
      (distinct : DistinctNames value.fields)
      (present : ∀ field ∈ schema.fields,
        ⟨field.name, ⟨field.schema.type, values field⟩⟩ ∈ value.fields)
      (each : ∀ field ∈ schema.fields, Holds field.schema.type field.schema.structDef (values field))
      (extrasAllowed : extras schema value.fields ≠ [] → schema.dynamicExtras = true)
      (extrasSmall : (extras schema value.fields).length < 2 ^ 31)
      (extrasEach : ∀ field ∈ extras schema value.fields,
        Holds field.value.type none field.value.data) :
      Holds .STRUCT (some schema) (.struct value)
  | boundArray {schema : VMStructSchema} {structs : List VMDynamicStruct}
      (small : structs.length < 2 ^ 31) (occupies : schema.occupies = true)
      (each : ∀ struct ∈ structs, Holds .STRUCT (some schema) (.struct struct)) :
      Holds .ARRAY_STRUCT (some schema) (.structArray ⟨schema, structs.map .struct⟩)
  | inlineArray {schema : VMStructSchema} {structs : List VMDynamicStruct}
      (small : structs.length < 2 ^ 31) (inRange : schema.InRange) (defines : schema.DefinesStructs)
      (occupies : schema.fields.isEmpty = false → schema.occupies = true)
      (each : ∀ struct ∈ structs, Holds .STRUCT schema.used (.struct struct)) :
      Holds .ARRAY_STRUCT none (.structArray ⟨schema, structs.map .struct⟩)

/-- The same for the writer: only a name that a schema declares stands for one field. -/
inductive Written : VMType → Option VMStructSchema → Data → Prop
  | leaf {vmType : VMType} {schema : Option VMStructSchema} {data : Data}
      (leafData : LeafData vmType data) : Written vmType schema data
  | dynamic {schema : Option VMStructSchema} {value : VMDynamicVariable}
      (inner : Written value.type none value.data) : Written .DYNAMIC schema (.variable value)
  | dynamicArray {schema : Option VMStructSchema} {values : List VMDynamicVariable}
      (small : values.length < 2 ^ 31) (each : ∀ value ∈ values, Written value.type none value.data) :
      Written .ARRAY_DYNAMIC schema (.list (values.map .variable))
  | struct {value : VMDynamicStruct} (small : value.fields.length < 2 ^ 31)
      (each : ∀ field ∈ value.fields, Written field.value.type none field.value.data) :
      Written .STRUCT none (.struct value)
  | boundStruct {schema : VMStructSchema} {value : VMDynamicStruct}
      (values : VMNamedVariableSchema → Data)
      (schemaDistinct : (schema.fields.map fun field => field.name.value).Nodup)
      (first : ∀ field ∈ schema.fields, value.get field.name.value = some ⟨field.schema.type, values field⟩)
      (once : ∀ field ∈ schema.fields,
        (value.fields.filter fun other => other.name.value = field.name.value).length = 1)
      (each : ∀ field ∈ schema.fields, Written field.schema.type field.schema.structDef (values field))
      (extrasAllowed : extras schema value.fields ≠ [] → schema.dynamicExtras = true)
      (extrasSmall : (extras schema value.fields).length < 2 ^ 31)
      (extrasEach : ∀ field ∈ extras schema value.fields, Written field.value.type none field.value.data) :
      Written .STRUCT (some schema) (.struct value)
  | boundArray {schema : VMStructSchema} {structs : List VMDynamicStruct}
      (small : structs.length < 2 ^ 31) (occupies : schema.occupies = true)
      (each : ∀ struct ∈ structs, Written .STRUCT (some schema) (.struct struct)) :
      Written .ARRAY_STRUCT (some schema) (.structArray ⟨schema, structs.map .struct⟩)
  | inlineArray {schema : VMStructSchema} {structs : List VMDynamicStruct}
      (small : structs.length < 2 ^ 31) (inRange : schema.InRange) (defines : schema.DefinesStructs)
      (occupies : schema.fields.isEmpty = false → schema.occupies = true)
      (each : ∀ struct ∈ structs, Written .STRUCT schema.used (.struct struct)) :
      Written .ARRAY_STRUCT none (.structArray ⟨schema, structs.map .struct⟩)

end PhantasmaPy.Carbon
