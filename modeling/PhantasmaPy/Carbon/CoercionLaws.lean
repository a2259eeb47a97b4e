import PhantasmaPy.Carbon.MetadataLaws
import PhantasmaPy.Carbon.Unchanged

/-! # Coerced and kept values

Coercion and normal form keep a supplied value.  What the writer makes of the coerced value stands for the supplied
one only if it is the coerced value itself, in normal form.
-/

namespace PhantasmaPy.Carbon

open Wire CarbonWriter CarbonReader

/-! ## Kept values -/

/-- A ready-made value can only be kept as it is: the other ways ask for a value of another class. -/
theorem Ready.keeps {vmType : VMType} {schema : Option VMStructSchema} {value data : Data} (ready : Ready vmType value)
    (keeps : Keeps vmType schema value data) : data = (value.canonical vmType).normal := by
  cases keeps with
  | same => rfl
  | int isInt => cases ready <;> cases isInt
  | hex => cases ready
  | fixedHex isFixed => cases ready <;> cases isFixed
  | items array leaf =>
    cases ready with
    | dynamic => cases array
    | dynamicArray =>
      cases array
      cases leaf
  | fields given =>
    cases ready
    cases given
  | structs => cases ready

/-- A value that is given by its entries is no ready-made struct. -/
theorem entries_canonical {value : Data} {entries : Metadata} (given : value.entries? = some entries)
    (struct : VMDynamicStruct) : value.canonical .STRUCT ≠ .struct struct := by
  cases value with
  | mapping entries => exact nofun
  | list items => exact nofun
  | _ => cases given

/-- The parts of the relation for a struct that is given by its entries. -/
theorem Keeps.fields_inv {schema : VMStructSchema} {value : Data} {entries : Metadata} {struct : VMDynamicStruct}
    (keeps : Keeps .STRUCT (some schema) value (.struct struct)) (given : value.entries? = some entries) :
    ∃ supplied data : VMNamedVariableSchema → Data,
      ∀ field ∈ schema.fields, entries.lookup field.name.value = some (supplied field) ∧
        ⟨field.name, ⟨field.schema.type, data field⟩⟩ ∈ struct.fields ∧
        Keeps field.schema.type field.schema.structDef (supplied field) (data field) := by
  generalize spelled : Data.struct struct = result at keeps
  cases keeps with
  | same =>
    obtain ⟨original, isStruct, -⟩ := normal_eq_struct spelled.symm
    exact absurd isStruct (entries_canonical given original)
  | int => cases spelled
  | fixedHex => cases spelled
  | items => cases spelled
  | @fields _ _ again other supplied data givenAgain found complete present each =>
    obtain rfl := struct_injective spelled
    obtain rfl := Option.some.inj (given.symm.trans givenAgain)
    exact ⟨supplied, data, fun field member => ⟨found field member, present field member, each field member⟩⟩

/-- The elements of a struct array that is given as a list. -/
theorem Keeps.structs_inv {schema own : VMStructSchema} {items : List Data} {structs : List VMDynamicStruct}
    (keeps : Keeps .ARRAY_STRUCT (some schema) (.list items) (.structArray ⟨own, structs.map .struct⟩)) :
    own = schema ∧
      List.Forall₂ (fun item struct => Keeps .STRUCT (some schema) item (.struct struct)) items structs := by
  generalize spelledItems : Data.list items = value at keeps
  generalize spelled : Data.structArray ⟨own, structs.map .struct⟩ = result at keeps
  cases keeps with
  | same =>
    subst spelledItems
    cases spelled
  | int => cases spelled
  | fixedHex => cases spelled
  | items => cases spelled
  | @structs _ pairs each =>
    obtain rfl := Data.list.inj spelledItems
    obtain ⟨rfl, same⟩ := VMStructArray.mk.inj (Data.structArray.inj spelled)
    obtain rfl := List.map_injective_iff.mpr struct_injective same
    rw [List.forall₂_map_left_iff, List.forall₂_map_right_iff]
    exact ⟨rfl, List.forall₂_same.mpr each⟩

/-! ## Coerced values -/

section Coerced

variable {conv : Conversions} {vmType : VMType} {schema : Option VMStructSchema} {supplied data : Data}

theorem get_map_boundField {schemaFields : List VMNamedVariableSchema} {data : VMNamedVariableSchema → Data}
    (distinct : (schemaFields.map fun field => field.name.value).Nodup) {field : VMNamedVariableSchema}
    (member : field ∈ schemaFields) : VMDynamicStruct.get ⟨schemaFields.map (boundField data)⟩ field.name.value =
      some ⟨field.schema.type, data field⟩ := by
  unfold VMDynamicStruct.get
  have only : ((schemaFields.map (boundField data)).filter fun other => other.name.value = field.name.value) =
      [boundField data field] := by
    rw [List.filter_map]
    exact congrArg (List.map (boundField data)) (filter_distinct distinct member)
  rw [← List.head?_filter, only]
  rfl

theorem extras_map_boundField (schema : VMStructSchema) (data : VMNamedVariableSchema → Data) :
    extras schema (schema.fields.map (boundField data)) = [] := by
  apply List.filter_eq_nil_iff.mpr
  intro field member
  obtain ⟨declaration, declared, rfl⟩ := List.mem_map.mp member
  simp only [Bool.not_eq_true', Bool.not_eq_false]
  exact VMStructSchema.hasField_iff.mpr ⟨declaration, declared, rfl⟩

/-- The coerced value is of the classes and types of what stands for the supplied one. -/
theorem Coerces.typed (coerces : Coerces vmType schema supplied data) : ∀ {image : Data},
    Keeps vmType schema supplied image → Typed vmType schema image → Typed vmType schema data := by
  induction coerces with
  | leaf leafData => exact fun _ _ => .leaf leafData
  | ready ready =>
    intro image keeps typed
    exact typed.of_normal (ready.keeps keeps).symm
  | @fields schema value entries supplied data given distinct found each ih =>
    intro image keeps typed
    cases typed with
    | leaf leafData => exact leafData.elim
    | boundStruct declared others =>
      obtain ⟨again, kept, inverted⟩ := keeps.fields_inv given
      refine .boundStruct (fun declaration inSchema field member named _ => ?_) fun field member unnamed => ?_
      · obtain ⟨other, otherIn, rfl⟩ := List.mem_map.mp member
        -- a name selects one field of the schema
        obtain rfl := List.inj_on_of_nodup_map distinct otherIn inSchema named
        obtain ⟨looked, present, keepsField⟩ := inverted other inSchema
        obtain same := Option.some.inj ((found other inSchema).symm.trans looked)
        rw [← same] at keepsField
        exact ih other inSchema keepsField (declared other inSchema _ present rfl rfl)
      · obtain ⟨other, otherIn, rfl⟩ := List.mem_map.mp member
        cases unnamed.symm.trans (VMStructSchema.hasField_iff.mpr ⟨other, otherIn, rfl⟩)
  | @structs schema pairs each ih =>
    intro image keeps typed
    cases typed with
    | leaf leafData => exact leafData.elim
    | boundArray eachTyped =>
      obtain ⟨-, all⟩ := keeps.structs_inv
      refine .boundArray fun struct member => ?_
      obtain ⟨pair, inside, rfl⟩ := List.mem_map.mp member
      rw [List.forall₂_map_left_iff] at all
      obtain ⟨read, inStructs, keepsElement⟩ := forall₂_exists_right all inside
      exact ih pair inside keepsElement (eachTyped read inStructs)

/-- The coerced value stands for the supplied one. -/
theorem Coerces.keeps (coerces : Coerces vmType schema supplied data) : Keeps vmType schema supplied data.normal := by
  induction coerces with
  | leaf leafData keeps =>
    rw [leafData.normal]
    exact keeps
  | ready => exact .same
  | @fields schema value entries supplied data given distinct found each ih =>
    rw [Data.normal, normal_struct]
    refine .fields given found ?_ (fun field member => ?_) ih
    · rw [(sortFields_perm _).length_eq, List.length_map, List.length_map]
    · apply (sortFields_perm _).mem_iff.mpr
      exact List.mem_map.mpr ⟨_, List.mem_map_of_mem member, rfl⟩
  | @structs schema pairs each ih =>
    rw [Data.normal, normalStructs_eq]
    let change (pair : Data × VMDynamicStruct) : Data × VMDynamicStruct := (pair.1, pair.2.normal)
    have first : pairs.map Prod.fst = (pairs.map change).map Prod.fst := by
      rw [List.map_map]
      rfl
    have second : (pairs.map Prod.snd).map VMDynamicStruct.normal = (pairs.map change).map Prod.snd := by
      rw [List.map_map, List.map_map]
      rfl
    rw [first, second]
    refine .structs fun pair member => ?_
    obtain ⟨original, inside, rfl⟩ := List.mem_map.mp member
    exact ih original inside

/-- What is read for a coerced value stands for the supplied one only if it is the coerced value. -/
theorem Coerces.image_eq (coerces : Coerces vmType schema supplied data) : ∀ {after : Nat} {image : Data},
    Becomes conv after vmType schema data image → Keeps vmType schema supplied image → image = data.normal := by
  induction coerces with
  | leaf leafData =>
    intro after image becomes _
    rw [leafData.normal]
    exact ((becomes_leaf leafData.isNested).mp becomes).2
  | ready ready => exact fun _ keeps => ready.keeps keeps
  | @fields schema value entries supplied data given distinct found each ih =>
    intro after image becomes keeps
    obtain ⟨images, others, ⟨count, eachBecomes⟩, ⟨othersCount, -⟩, rfl⟩ := becomes_boundStruct.mp becomes
    have none : writtenExtras schema (schema.fields.map (boundField data)) = [] := by
      rw [writtenExtras_eq distinct, extras_map_boundField, ite_self]
    rw [none, List.zipWith_nil_left, List.append_nil] at keeps ⊢
    obtain ⟨again, kept, inverted⟩ := keeps.fields_inv given
    have names := map_name_zipWith (fun declaration => declaration.name.value)
      (f := VMNamedVariableSchema.withData) (fun _ _ => rfl) count
    have imagesEq : images = schema.fields.map fun field => (data field).normal := by
      refine List.ext_getElem (by rw [count, List.length_map]) fun i inImages inFields => ?_
      rw [List.getElem_map]
      have inSchema : i < schema.fields.length := count ▸ inImages
      have at_i := List.getElem?_eq_getElem inSchema
      have image_i := List.getElem?_eq_getElem inImages
      have member := List.getElem_mem inSchema
      have becomes := (eachBecomes i _ _ at_i image_i).1 _ (get_map_boundField distinct member)
      obtain ⟨looked, present, keepsField⟩ := inverted _ member
      obtain same := Option.some.inj ((found _ member).symm.trans looked)
      rw [← same] at keepsField
      -- a name selects one field of the struct that is read
      have only := filter_bound distinct count at_i image_i
      have inside := List.mem_filter_of_mem
        (p := fun field : VMNamedDynamicVariable => field.name.value = schema.fields[i].name.value)
        ((sortFields_perm _).mem_iff.mp present) (decide_eq_true rfl)
      rw [only, List.mem_singleton] at inside
      have sameData := (VMDynamicVariable.mk.inj (VMNamedDynamicVariable.mk.inj inside).2).2
      rw [sameData] at keepsField
      exact ih _ member becomes keepsField
    rw [imagesEq, zipWith_map_self, Data.normal, normal_struct, List.map_map]
    rfl
  | @structs schema pairs each ih =>
    intro after image becomes keeps
    obtain ⟨images, -, ⟨count, eachBecomes⟩, rfl⟩ := becomes_boundArray.mp becomes
    obtain ⟨length, keepsElement⟩ := List.forall₂_iff_get.mp keeps.structs_inv.2
    have imagesEq : images = (pairs.map Prod.snd).map VMDynamicStruct.normal := by
      have length : images.length = ((pairs.map Prod.snd).map VMDynamicStruct.normal).length := by
        rw [count, List.length_map, List.length_map, List.length_map]
      refine List.ext_getElem length fun i inImages inStructs => ?_
      have inPairs : i < pairs.length := by simpa using inStructs
      have member := List.getElem_mem inPairs
      have keepsElement := keepsElement i (by simpa using inPairs) inImages
      have becomes := eachBecomes i pairs[i].2 images[i] (by simp [inPairs]) (List.getElem?_eq_getElem inImages)
      simp only [List.get_eq_getElem, List.getElem_map] at keepsElement ⊢
      exact struct_injective (ih _ member becomes keepsElement)
    rw [imagesEq, Data.normal, normalStructs_eq]

end Coerced

end PhantasmaPy.Carbon
