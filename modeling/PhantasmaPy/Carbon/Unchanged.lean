import PhantasmaPy.Carbon.WriterMeaning

/-! # Data that the writer leaves as it is

`Unchanged` asks at every depth for what the writer looks for.  For typed data that is exactly what it takes for
the writer to make of the data what it is.
-/

namespace PhantasmaPy.Carbon

open Wire CarbonWriter CarbonReader

/-! ## Typed data -/

/-- Data that is typed for no schema is so for every schema. -/
theorem Typed.under {vmType : VMType} {schema : Option VMStructSchema} {data : Data} (typed : Typed vmType schema data)
    (plain : schema = none) (used : Option VMStructSchema) : Typed vmType used data := by
  induction typed generalizing used with
  | leaf leafData => exact .leaf leafData
  | dynamic inner => exact .dynamic inner
  | dynamicArray each => exact .dynamicArray each
  | struct each ih =>
    cases used with
    | none => exact .struct each
    | some schema =>
      exact .boundStruct (fun declaration _ field member _ same => same ▸ ih field member rfl _)
        fun field member _ => each field member
  | boundStruct => cases plain
  | boundArray => cases plain
  | inlineArray publishable each ih =>
    cases used with
    | none => exact .inlineArray publishable each
    | some schema => exact .boundArray fun struct member => ih struct member rfl _

section Structs

variable {conv : Conversions} {schema : VMStructSchema} {fields : List VMNamedDynamicVariable}
  {values : VMNamedVariableSchema → Data}

/-- The field of a declared name is the one that was found. -/
theorem field_eq_found
    (first : ∀ declaration ∈ schema.fields,
      VMDynamicStruct.get ⟨fields⟩ declaration.name.value = some ⟨declaration.schema.type, values declaration⟩)
    (once : ∀ declaration ∈ schema.fields,
      (fields.filter fun field => field.name.value = declaration.name.value).length = 1)
    {declaration : VMNamedVariableSchema} (declared : declaration ∈ schema.fields) {field : VMNamedDynamicVariable}
    (member : field ∈ fields) (named : field.name.value = declaration.name.value) :
    field.value = ⟨declaration.schema.type, values declaration⟩ := by
  have only := single_field (first declaration declared) (once declaration declared)
  have inside : field ∈ fields.filter fun field => field.name.value = declaration.name.value :=
    List.mem_filter.mpr ⟨member, by simp [named]⟩
  rw [only, List.mem_singleton] at inside
  rw [inside]

end Structs

/-- Unchanged data is typed for its schema, and without a schema where that has a place on the wire. -/
theorem Unchanged.typed {conv : Conversions} {after : Nat} {vmType : VMType} {schema : Option VMStructSchema}
    {data : Data} (unchanged : Unchanged conv after vmType schema data) :
    Typed vmType schema data ∧
      ((∀ definition, schema = some definition → definition.Publishable) → Typed vmType none data) := by
  induction unchanged with
  | leaf leafData => exact ⟨.leaf leafData, fun _ => .leaf leafData⟩
  | dynamic _ ih => exact ⟨.dynamic ih.1, fun _ => .dynamic ih.1⟩
  | @dynamicArray after schema values _ ih =>
    have each (value : VMDynamicVariable) (member : value ∈ values) : Typed value.type none value.data := by
      obtain ⟨i, at_i⟩ := List.mem_iff_getElem?.mp member
      exact (ih i value at_i).1
    exact ⟨.dynamicArray each, fun _ => .dynamicArray each⟩
  | @struct after value _ ih =>
    have each (field : VMNamedDynamicVariable) (member : field ∈ value.fields) :
        Typed field.value.type none field.value.data := by
      obtain ⟨i, at_i⟩ := List.mem_iff_getElem?.mp ((sortFields_perm _).mem_iff.mpr member)
      exact (ih i field at_i).1
    exact ⟨.struct each, fun _ => .struct each⟩
  | @boundStruct after schema value values distinct first once _ _ _ ih extrasIh =>
    obtain ⟨fields⟩ := value
    have others (field : VMNamedDynamicVariable) (member : field ∈ fields)
        (unnamed : schema.hasField field.name.value = false) : Typed field.value.type none field.value.data := by
      have inside : field ∈ extras schema fields := List.mem_filter.mpr ⟨member, by simp [unnamed]⟩
      obtain ⟨i, at_i⟩ := List.mem_iff_getElem?.mp inside
      exact (extrasIh i field at_i).1
    refine ⟨.boundStruct (fun declaration declared field member named _ => ?_) others, fun publishable =>
      .struct fun field member => ?_⟩
    · obtain ⟨i, at_i⟩ := List.mem_iff_getElem?.mp declared
      rw [field_eq_found first once declared member named]
      exact (ih i declaration at_i).1
    · cases named : schema.hasField field.name.value with
      | false => exact others field member named
      | true =>
        obtain ⟨declaration, declared, same⟩ := VMStructSchema.hasField_iff.mp named
        obtain ⟨i, at_i⟩ := List.mem_iff_getElem?.mp declared
        rw [field_eq_found first once declared member same.symm]
        exact (ih i declaration at_i).2 fun definition defined =>
          (publishable schema rfl).declared declared defined
  | repeated _ typed => exact ⟨typed.under rfl _, fun _ => typed⟩
  | @boundArray after schema structs _ _ ih =>
    have at_index (struct : VMDynamicStruct) (member : struct ∈ structs) := List.mem_iff_getElem?.mp member
    refine ⟨.boundArray fun struct member => ?_, fun publishable =>
      .inlineArray (publishable schema rfl) fun struct member => ?_⟩
    · obtain ⟨i, at_i⟩ := at_index struct member
      exact (ih i struct at_i).1
    · obtain ⟨i, at_i⟩ := at_index struct member
      exact (ih i struct at_i).2 publishable
  | @inlineArray after schema structs publishable _ _ ih =>
    have each (struct : VMDynamicStruct) (member : struct ∈ structs) : Typed .STRUCT none (.struct struct) := by
      obtain ⟨i, at_i⟩ := List.mem_iff_getElem?.mp member
      refine (ih i struct at_i).2 fun definition defined => ?_
      unfold VMStructSchema.used at defined
      split at defined
      next => cases defined
      next =>
        obtain rfl := Option.some.inj defined
        exact publishable
    exact ⟨.inlineArray publishable each, fun _ => .inlineArray publishable each⟩

/-! ## What the writer makes of unchanged data -/

section Lists

variable {α β γ : Type}

theorem getElem?_map_eq {xs : List α} {f : α → β} {i : Nat} {x : α} {y : β} (inside : xs[i]? = some x)
    (image : (xs.map f)[i]? = some y) : y = f x := by
  rw [List.getElem?_map, inside] at image
  exact (Option.some.inj image).symm

/-- In lists of one length there is an element in the same place. -/
theorem exists_getElem? {xs : List α} {ys : List β} (length : ys.length = xs.length) {i : Nat} {x : α}
    (inside : xs[i]? = some x) : ∃ y, ys[i]? = some y := by
  have small := (List.getElem?_eq_some_iff.mp inside).1
  rw [← length] at small
  exact ⟨_, List.getElem?_eq_getElem small⟩

theorem zipWith_map_self (f : α → β → γ) (g : α → β) (xs : List α) :
    List.zipWith f xs (xs.map g) = xs.map fun x => f x (g x) := by
  rw [List.zipWith_map_right, List.zipWith_self]

/-- The second list is told from what it is combined to, element by element. -/
theorem eq_map_of_zipWith {f : α → β → γ} (injective : ∀ x, Function.Injective (f x)) {g : α → β} {xs : List α}
    {ys : List β} (length : ys.length = xs.length) (same : List.zipWith f xs ys = xs.map fun x => f x (g x)) :
    ys = xs.map g := by
  induction xs generalizing ys with
  | nil => exact List.length_eq_zero_iff.mp length
  | cons x xs ih =>
    cases ys with
    | nil => cases length
    | cons y ys =>
      obtain ⟨head, tail⟩ := List.cons.inj same
      rw [List.map_cons, injective x head, ih (Nat.succ.inj length) tail]

end Lists

theorem variable_withData_normal (value : VMDynamicVariable) : value.withData value.data.normal = value.normal := by
  obtain ⟨type, data⟩ := value
  rfl

theorem normal_dynamicArray (values : List VMDynamicVariable) : (Data.list (values.map .variable)).normal =
    .list ((values.map VMDynamicVariable.normal).map .variable) := by
  rw [Data.normal, @normalItems_map _ Data.variable VMDynamicVariable.normal fun _ => rfl]

/-- With distinct names the writer takes no struct for filled that has extras. -/
theorem writtenExtras_eq {schema : VMStructSchema} {fields : List VMNamedDynamicVariable}
    (distinct : (schema.fields.map fun declaration => declaration.name.value).Nodup) :
    writtenExtras schema fields = if schema.dynamicExtras then extras schema fields else [] := by
  unfold writtenExtras
  cases allowed : schema.dynamicExtras with
  | false => simp
  | true =>
    cases full : filled schema fields with
    | false => simp
    | true =>
      obtain ⟨named, length⟩ := (Bool.and_eq_true _ _).mp full
      have none := extras_eq_nil distinct (by simpa using named) (by simpa using length)
      rw [none]
      simp

/-- Unchanged data becomes its normal form. -/
theorem Unchanged.becomes {conv : Conversions} {after : Nat} {vmType : VMType} {schema : Option VMStructSchema}
    {data : Data} (unchanged : Unchanged conv after vmType schema data) :
    Becomes conv after vmType schema data data.normal := by
  induction unchanged with
  | leaf leafData =>
    rw [leafData.normal]
    exact .leaf leafData
  | @dynamic after schema value _ ih =>
    obtain ⟨type, data⟩ := value
    exact .dynamic ih
  | @dynamicArray after schema values _ ih =>
    rw [normal_dynamicArray]
    refine becomes_dynamicArray.mpr ⟨values.map fun value => value.data.normal,
      ⟨List.length_map _, fun i value image at_i same => ?_⟩, ?_⟩
    · rw [getElem?_map_eq at_i same]
      exact ih i value at_i
    · rw [zipWith_map_self]
      simp only [variable_withData_normal]
  | @struct after value _ ih =>
    rw [Data.normal, normal_struct]
    refine becomes_struct.mpr ⟨(sortFields value.fields).map fun field => field.value.data.normal,
      ⟨List.length_map _, fun i field image at_i same => ?_⟩, ?_⟩
    · rw [getElem?_map_eq at_i same]
      exact ih i field at_i
    · rw [zipWith_map_self]
      simp only [withData_normal]
      rw [sortFields_map normal_name, sortFields_sorted]
  | @boundStruct after schema value values distinct first once allowed _ _ ih extrasIh =>
    obtain ⟨fields⟩ := value
    have written := @writtenExtras_eq schema fields distinct
    rw [Data.normal, normal_struct, ← boundImage_normal distinct first once allowed]
    refine becomes_boundStruct.mpr ⟨schema.fields.map fun declaration => (values declaration).normal,
      (writtenExtras schema fields).map fun field => field.value.data.normal,
      ⟨List.length_map _, fun i declaration image at_i same => ?_⟩,
      ⟨List.length_map _, fun i field image at_i same => ?_⟩, ?_⟩
    · have found := first declaration (List.mem_of_getElem? at_i)
      rw [getElem?_map_eq at_i same]
      refine ⟨fun data again => ?_, fun none => absurd found (none _)⟩
      obtain rfl := (VMDynamicVariable.mk.inj (Option.some.inj (found.symm.trans again))).2
      exact ih i declaration at_i
    · rw [getElem?_map_eq at_i same]
      rw [written] at at_i ⊢
      split at at_i
      next isAllowed =>
        rw [if_pos isAllowed]
        exact extrasIh i field at_i
      next => cases at_i
    · rw [zipWith_map_self, zipWith_map_self, written]
      unfold boundImage
      split <;> rfl
  | repeated _ _ same => exact same
  | @boundArray after schema structs room _ ih =>
    rw [Data.normal, normalStructs_eq]
    refine becomes_boundArray.mpr ⟨structs.map VMDynamicStruct.normal, room,
      ⟨List.length_map _, fun i struct image at_i same => ?_⟩, rfl⟩
    rw [getElem?_map_eq at_i same]
    exact ih i struct at_i
  | @inlineArray after schema structs publishable room _ ih =>
    rw [Data.normal, normalStructs_eq]
    refine becomes_inlineArray.mpr ⟨structs.map VMDynamicStruct.normal, publishable, room,
      ⟨List.length_map _, fun i struct image at_i same => ?_⟩, rfl⟩
    rw [getElem?_map_eq at_i same]
    exact ih i struct at_i

/-! ## Data that becomes its normal form -/

section Bound

variable {conv : Conversions} {schema : VMStructSchema} {fields : List VMNamedDynamicVariable}

/-- Data does not change the names. -/
theorem map_name_zipWith {α : Type} (name : α → Str) {f : α → Data → VMNamedDynamicVariable}
    (named : ∀ x data, (f x data).name.value = name x) {xs : List α} {images : List Data}
    (length : images.length = xs.length) :
    (List.zipWith f xs images).map (fun field => field.name.value) = xs.map name := by
  induction xs generalizing images with
  | nil => rfl
  | cons x xs ih =>
    cases images with
    | nil => cases length
    | cons image images =>
      rw [List.zipWith_cons_cons, List.map_cons, List.map_cons, named, ih (Nat.succ.inj length)]

/-- The fields of a name that a schema binds. -/
theorem filter_bound {images : List Data}
    (distinct : (schema.fields.map fun declaration => declaration.name.value).Nodup)
    (length : images.length = schema.fields.length) {i : Nat} {declaration : VMNamedVariableSchema} {image : Data}
    (declared : schema.fields[i]? = some declaration) (at_i : images[i]? = some image) :
    ((List.zipWith VMNamedVariableSchema.withData schema.fields images).filter fun field =>
      field.name.value = declaration.name.value) = [declaration.withData image] := by
  have names := map_name_zipWith (fun declaration => declaration.name.value)
    (f := VMNamedVariableSchema.withData) (fun _ _ => rfl) length
  have inside : declaration.withData image ∈ List.zipWith VMNamedVariableSchema.withData schema.fields images := by
    apply List.mem_of_getElem? (i := i)
    rw [List.getElem?_zipWith, declared, at_i]
  exact @filter_distinct _ (fun field : VMNamedDynamicVariable => field.name.value) _ (names ▸ distinct) _ inside

/-- A schema with distinct names finds what was read for each of its fields. -/
theorem get_bound {images : List Data} (distinct : (schema.fields.map fun declaration => declaration.name.value).Nodup)
    (length : images.length = schema.fields.length) {i : Nat} {declaration : VMNamedVariableSchema} {image : Data}
    (declared : schema.fields[i]? = some declaration) (at_i : images[i]? = some image)
    (others : List VMNamedDynamicVariable) :
    VMDynamicStruct.get ⟨sortFields (List.zipWith VMNamedVariableSchema.withData schema.fields images ++ others)⟩
      declaration.name.value = some ⟨declaration.schema.type, image⟩ := by
  rw [get_sortFields]
  unfold VMDynamicStruct.get
  rw [← List.head?_filter, List.filter_append, filter_bound distinct length declared at_i]
  rfl

theorem filter_bound_unnamed {images : List Data} (length : images.length = schema.fields.length) {name : Str}
    (unnamed : schema.hasField name = false) :
    ((List.zipWith VMNamedVariableSchema.withData schema.fields images).filter fun field =>
      field.name.value = name) = [] := by
  have names := map_name_zipWith (fun declaration => declaration.name.value)
    (f := VMNamedVariableSchema.withData) (fun _ _ => rfl) length
  apply List.filter_eq_nil_iff.mpr
  intro field member
  have inNames := List.mem_map_of_mem (f := fun field => field.name.value) member
  rw [names] at inNames
  obtain ⟨declaration, declared, same⟩ := List.mem_map.mp inNames
  simp only [decide_eq_true_eq]
  intro named
  rw [VMStructSchema.hasField_iff.mpr ⟨declaration, declared, same.trans named⟩] at unnamed
  cases unnamed

theorem mem_extras_of_written {field : VMNamedDynamicVariable} (member : field ∈ writtenExtras schema fields) :
    field ∈ extras schema fields := by
  unfold writtenExtras at member
  split at member
  next => exact member
  next => cases member

/-- The fields of a name among those that are read as extras. -/
theorem filter_extras_named {images : List Data} (length : images.length = (writtenExtras schema fields).length)
    {name : Str} (named : schema.hasField name = true) :
    ((List.zipWith VMNamedDynamicVariable.withData (writtenExtras schema fields) images).filter fun field =>
      field.name.value = name) = [] := by
  have names := map_name_zipWith (fun field => field.name.value)
    (f := VMNamedDynamicVariable.withData) (fun _ _ => rfl) length
  apply List.filter_eq_nil_iff.mpr
  intro field member
  have inNames := List.mem_map_of_mem (f := fun field => field.name.value) member
  rw [names] at inNames
  obtain ⟨extra, inside, same⟩ := List.mem_map.mp inNames
  obtain ⟨-, unnamed⟩ := List.mem_filter.mp (mem_extras_of_written inside)
  simp only [decide_eq_true_eq]
  rintro rfl
  rw [same, named] at unnamed
  cases unnamed

/-- Fields that are sorted as their normal forms have the data of these. -/
theorem images_of_sorted {xs : List VMNamedDynamicVariable} {images : List Data} (length : images.length = xs.length)
    (sorted : sortFields (List.zipWith VMNamedDynamicVariable.withData xs images) =
      sortFields (xs.map VMNamedDynamicVariable.normal)) : images = xs.map fun field => field.value.data.normal := by
  have names : (List.zipWith VMNamedDynamicVariable.withData xs images).map (fun field => field.name.value) =
      (xs.map VMNamedDynamicVariable.normal).map fun field => field.name.value := by
    rw [map_name_zipWith (fun field => field.name.value) (f := VMNamedDynamicVariable.withData) (fun _ _ => rfl) length,
      List.map_map]
    exact List.map_congr_left fun field _ => congrArg SmallString.value (normal_name field).symm
  have spelled : xs.map VMNamedDynamicVariable.normal = xs.map fun field => field.withData field.value.data.normal :=
    List.map_congr_left fun field _ => (withData_normal field).symm
  have equal := sortFields_inj names sorted
  rw [spelled] at equal
  exact eq_map_of_zipWith (f := VMNamedDynamicVariable.withData) (fun _ _ _ same => withData_injective same)
    length equal

/-- A struct that becomes its normal form under distinct names. -/
theorem boundStruct_unchanged {after : Nat}
    (distinct : (schema.fields.map fun declaration => declaration.name.value).Nodup)
    (becomes : Becomes conv after .STRUCT (some schema) (.struct ⟨fields⟩) (Data.struct ⟨fields⟩).normal)
    (declaredUnchanged : ∀ declaration ∈ schema.fields, ∀ field ∈ fields,
      field.name.value = declaration.name.value → field.value.type = declaration.schema.type → ∀ {behind : Nat},
      Becomes conv behind declaration.schema.type declaration.schema.structDef field.value.data
        field.value.data.normal →
      Unchanged conv behind declaration.schema.type declaration.schema.structDef field.value.data)
    (othersUnchanged : ∀ field ∈ fields, schema.hasField field.name.value = false → ∀ {behind : Nat},
      Becomes conv behind field.value.type none field.value.data field.value.data.normal →
      Unchanged conv behind field.value.type none field.value.data) :
    Unchanged conv after .STRUCT (some schema) (.struct ⟨fields⟩) := by
  obtain ⟨images, others, ⟨count, eachDeclared⟩, ⟨othersCount, eachOther⟩, same⟩ := becomes_boundStruct.mp becomes
  rw [Data.normal, normal_struct] at same
  have sorted := VMDynamicStruct.mk.inj (struct_injective same)
  -- sorting keeps the fields of each name in order, so that both sides agree name by name
  have filtered (name : Str) := congrArg (fun fields : List VMNamedDynamicVariable =>
    fields.filter fun field => field.name.value = name) sorted
  simp only [sortFields_filter, List.filter_append, filter_map_named normal_name] at filtered
  have imageOnly {i : Nat} {declaration : VMNamedVariableSchema} {image : Data}
      (at_i : schema.fields[i]? = some declaration) (image_i : images[i]? = some image) :
      (fields.filter fun field => field.name.value = declaration.name.value).map VMNamedDynamicVariable.normal =
        [declaration.withData image] := by
    have named := VMStructSchema.hasField_iff.mpr ⟨declaration, List.mem_of_getElem? at_i, rfl⟩
    have only := filtered declaration.name.value
    rwa [filter_bound distinct count at_i image_i, filter_extras_named othersCount named, List.append_nil] at only
  have one : ∀ declaration ∈ schema.fields, ∃ data,
      (fields.filter fun field => field.name.value = declaration.name.value) =
        [⟨declaration.name, ⟨declaration.schema.type, data⟩⟩] ∧
      ∀ (i : Nat) (image : Data), schema.fields[i]? = some declaration → images[i]? = some image →
        image = data.normal := by
    intro declaration declared
    obtain ⟨i, at_i⟩ := List.mem_iff_getElem?.mp declared
    obtain ⟨image, image_i⟩ := exists_getElem? count at_i
    have only := imageOnly at_i image_i
    obtain ⟨⟨name, type, data⟩, single, spelled⟩ := List.map_eq_singleton_iff.mp only
    obtain ⟨rfl, value⟩ := VMNamedDynamicVariable.mk.inj spelled
    obtain ⟨rfl, -⟩ := VMDynamicVariable.mk.inj value
    refine ⟨data, single, fun j image at_j image_j => ?_⟩
    have again := imageOnly at_j image_j
    rw [single] at again
    exact ((VMDynamicVariable.mk.inj (VMNamedDynamicVariable.mk.inj (List.cons.inj again).1).2).2).symm
  have someData : Nonempty Data := ⟨.none⟩
  choose! values only imageOf using one
  have first (declaration : VMNamedVariableSchema) (declared : declaration ∈ schema.fields) :
      VMDynamicStruct.get ⟨fields⟩ declaration.name.value = some ⟨declaration.schema.type, values declaration⟩ := by
    unfold VMDynamicStruct.get
    rw [← List.head?_filter, only declaration declared]
    rfl
  have extrasSorted : sortFields (List.zipWith VMNamedDynamicVariable.withData (writtenExtras schema fields) others) =
      sortFields ((extras schema fields).map VMNamedDynamicVariable.normal) := by
    apply sortFields_ext
    intro name
    rw [filter_map_named normal_name]
    cases named : schema.hasField name with
    | true =>
      rw [filter_extras_named othersCount named, extras_named named]
      rfl
    | false =>
      have agree := filtered name
      rw [filter_bound_unnamed count named, List.nil_append] at agree
      rw [extras_filter named, agree]
  have written := @writtenExtras_eq schema fields distinct
  -- where the schema allows none, no extras are read, and so there are none
  have allowed (someExtras : extras schema fields ≠ []) : schema.dynamicExtras = true := by
    by_contra refused
    rw [written, if_neg refused, List.zipWith_nil_left] at extrasSorted
    have none := (sortFields_perm _).symm.trans (extrasSorted ▸ sortFields_perm [])
    exact someExtras (List.map_eq_nil_iff.mp none.eq_nil)
  refine .boundStruct values distinct first (fun declaration declared => ?_) allowed
    (fun i declaration at_i => ?_) fun i field at_i => ?_
  · rw [only declaration declared]
    rfl
  · have declared := List.mem_of_getElem? at_i
    obtain ⟨image, image_i⟩ := exists_getElem? count at_i
    have becomes := (eachDeclared i declaration _ at_i image_i).1 (values declaration) (first declaration declared)
    rw [imageOf declaration declared i _ at_i image_i] at becomes
    have inside : ⟨declaration.name, ⟨declaration.schema.type, values declaration⟩⟩ ∈ fields := by
      apply List.mem_of_mem_filter (p := fun field => decide (field.name.value = declaration.name.value))
      rw [only declaration declared]
      exact List.mem_cons_self
    exact declaredUnchanged declaration declared _ inside rfl rfl becomes
  · have isExtra := List.mem_of_getElem? at_i
    obtain ⟨inFields, unnamed⟩ := List.mem_filter.mp isExtra
    rw [if_pos (allowed (List.ne_nil_of_mem isExtra))] at written
    rw [written] at extrasSorted eachOther othersCount
    have images := images_of_sorted othersCount extrasSorted
    have becomes := eachOther i field field.value.data.normal at_i (by
      rw [images, List.getElem?_map, at_i]
      rfl)
    exact othersUnchanged field inFields (by simpa using unnamed) becomes

/-- A struct array that becomes its normal form has the schema that it is written by. -/
theorem boundArray_unchanged {after : Nat} {own : VMStructSchema} {structs : List VMDynamicStruct}
    (becomes : Becomes conv after .ARRAY_STRUCT (some schema) (.structArray ⟨own, structs.map .struct⟩)
      (Data.structArray ⟨own, structs.map .struct⟩).normal)
    (unchanged : ∀ struct ∈ structs, ∀ {behind : Nat},
      Becomes conv behind .STRUCT (some schema) (.struct struct) (Data.struct struct).normal →
      Unchanged conv behind .STRUCT (some schema) (.struct struct)) :
    Unchanged conv after .ARRAY_STRUCT (some schema) (.structArray ⟨own, structs.map .struct⟩) := by
  obtain ⟨images, room, ⟨count, each⟩, same⟩ := becomes_boundArray.mp becomes
  rw [Data.normal, normalStructs_eq] at same
  obtain ⟨rfl, -⟩ := VMStructArray.mk.inj (Data.structArray.inj same)
  obtain rfl := structArray_injective same
  refine .boundArray room fun i struct at_i => unchanged struct (List.mem_of_getElem? at_i) ?_
  exact each i struct _ at_i (by rw [List.getElem?_map, at_i]; rfl)

end Bound

/-- Typed data is unchanged if it becomes its normal form, under a schema that is orderly or that came from the
    wire. -/
theorem Typed.unchanged {conv : Conversions} {vmType : VMType} {schema : Option VMStructSchema} {data : Data}
    (typed : Typed vmType schema data) : ∀ {after : Nat} {used : Option VMStructSchema},
      schema = none ∨ (used = schema ∧ defOrderly vmType schema) →
      Becomes conv after vmType used data data.normal → Unchanged conv after vmType used data := by
  induction typed with
  | leaf leafData => exact fun _ _ => .leaf leafData
  | @dynamic schema value _ ih =>
    intro after used _ becomes
    obtain ⟨type, data⟩ := value
    obtain ⟨image, inner, same⟩ := becomes_dynamic.mp becomes
    obtain rfl := (VMDynamicVariable.mk.inj (variable_injective same)).2
    exact .dynamic (ih (.inl rfl) inner)
  | @dynamicArray schema values _ ih =>
    intro after used _ becomes
    obtain ⟨images, ⟨count, each⟩, same⟩ := becomes_dynamicArray.mp becomes
    rw [normal_dynamicArray] at same
    have equal := List.map_injective_iff.mpr variable_injective (Data.list.inj same)
    have spelled : values.map VMDynamicVariable.normal = values.map fun value => value.withData value.data.normal :=
      List.map_congr_left fun value _ => (variable_withData_normal value).symm
    rw [spelled] at equal
    obtain rfl := eq_map_of_zipWith (fun value _ _ same => (VMDynamicVariable.mk.inj same).2) count equal.symm
    refine .dynamicArray fun i value at_i => ih value (List.mem_of_getElem? at_i) (.inl rfl) ?_
    exact each i value _ at_i (by rw [List.getElem?_map, at_i]; rfl)
  | @struct value eachTyped ih =>
    intro after used _ becomes
    obtain ⟨fields⟩ := value
    cases used with
    | none =>
      obtain ⟨images, ⟨count, each⟩, same⟩ := becomes_struct.mp becomes
      rw [Data.normal, normal_struct] at same
      have sorted := VMDynamicStruct.mk.inj (struct_injective same)
      rw [← sortFields_sorted (fields.map VMNamedDynamicVariable.normal), ← sortFields_map normal_name] at sorted
      obtain rfl := images_of_sorted count sorted.symm
      refine .struct fun i field at_i => ?_
      have inside := (sortFields_perm fields).mem_iff.mp (List.mem_of_getElem? at_i)
      exact ih field inside (.inl rfl) (each i field _ at_i (by rw [List.getElem?_map, at_i]; rfl))
    | some schema =>
      by_cases distinct : (schema.fields.map fun declaration => declaration.name.value).Nodup
      · refine boundStruct_unchanged distinct becomes (fun declaration _ field member _ same _ becomes => ?_)
          fun field member _ _ => ih field member (.inl rfl)
        rw [← same] at becomes ⊢
        exact ih field member (.inl rfl) becomes
      · exact .repeated distinct (.struct eachTyped) becomes
  | @boundStruct schema value _ _ ih extrasIh =>
    rintro after used (none | ⟨rfl, orderly⟩) becomes
    · cases none
    obtain ⟨distinct, orderly⟩ := VMStructSchema.orderly_iff.mp (orderly rfl).1
    obtain ⟨fields⟩ := value
    refine boundStruct_unchanged distinct becomes (fun declaration declared field member named same _ becomes => ?_)
      fun field member unnamed _ => extrasIh field member unnamed (.inl rfl)
    exact ih declaration declared field member named same (.inr ⟨rfl, orderly declaration declared⟩) becomes
  | @boundArray schema own structs _ ih =>
    rintro after used (none | ⟨rfl, orderly⟩) becomes
    · cases none
    refine boundArray_unchanged becomes fun struct member _ => ih struct member (.inr ⟨rfl, fun _ => ?_⟩)
    exact ⟨(orderly rfl).1, fun same => absurd same (by decide)⟩
  | @inlineArray schema structs publishable _ ih =>
    intro after used _ becomes
    cases used with
    | some used => exact boundArray_unchanged becomes fun struct member _ => ih struct member (.inl rfl)
    | none =>
      obtain ⟨images, -, room, ⟨count, each⟩, same⟩ := becomes_inlineArray.mp becomes
      rw [Data.normal, normalStructs_eq] at same
      obtain rfl := structArray_injective same
      refine .inlineArray publishable room fun i struct at_i => ih struct (List.mem_of_getElem? at_i) (.inl rfl) ?_
      exact each i struct _ at_i (by rw [List.getElem?_map, at_i]; rfl)

end PhantasmaPy.Carbon
