import PhantasmaPy.Carbon.WriterMeaning

/-! # The meaning of the writer is what is read

For typed data whose image is read, `Becomes` has exactly what the reader gives back.
-/

namespace PhantasmaPy.Carbon

open Wire CarbonWriter CarbonReader

/-! ## Counted images -/

section Arrays

variable {α β : Type} {write : CarbonWriter Unit} {related : Nat → β → Prop}

/-- A count is read if there are at least as many bytes behind it. -/
theorem counted_mirrors {count : Nat} (next : Nat → CarbonReader β) (mirrors : Mirrors write (next count) related) :
    Mirrors (do writeCount count; write) (readLength >>= next)
      fun after b => count ≤ write.size + after ∧ related after b := by
  intro c out emits rest b left
  obtain ⟨xs, ys, emitsCount, written, rfl⟩ := Put.emits_seq.mp emits
  obtain ⟨small, rfl⟩ := emits_count.mp emitsCount
  have signed : Signed (8 * 4) (count : Int) := by
    unfold Signed
    norm_num
    omega
  obtain ⟨out, emitsSigned, parses⟩ := signed_roundTrips (show 0 < 4 by decide) count signed
  obtain ⟨_, rfl⟩ := emits_writeSigned.mp emitsSigned
  rw [List.append_assoc, Get.yields_bind]
  simp only [written.size, ← List.length_append]
  constructor
  · rintro ⟨number, mid, yieldsCount, yields⟩
    obtain ⟨head, enough⟩ := yields_readLength.mp yieldsCount
    obtain ⟨same, rfl⟩ := head.unique (parses (ys ++ rest))
    obtain rfl : number = count := Int.ofNat.inj same
    obtain ⟨rfl, holds⟩ := (mirrors written rest b left).mp yields
    exact ⟨rfl, enough, holds⟩
  · rintro ⟨rfl, enough, holds⟩
    exact ⟨count, ys ++ left, yields_readLength.mpr ⟨parses _, enough⟩, (mirrors written left b left).mpr ⟨rfl, holds⟩⟩

/-- The elements of an array that occupy at least one byte leave room for their number. -/
theorem each_length_le {body : α → CarbonWriter Unit} {xs : List α}
    (occupies : ∀ x ∈ xs, ∀ out, (body x).Emits () out → out ≠ []) {out : Bytes}
    (emits : (Put.each body xs).Emits () out) : xs.length ≤ out.length := by
  induction xs generalizing out with
  | nil => exact Nat.zero_le _
  | cons x xs ih =>
    obtain ⟨first, rest, head, tail, rfl⟩ := Put.emits_each_cons.mp emits
    have others := ih (fun y member => occupies y (List.mem_cons_of_mem _ member)) tail
    have positive := List.length_pos_iff.mpr (occupies x List.mem_cons_self first head)
    rw [List.length_append, List.length_cons]
    omega

/-- The elements of an array, where each of them occupies at least one byte. -/
theorem array_mirrors {body : α → CarbonWriter Unit} {item : CarbonReader β} {related : α → Nat → β → Prop}
    {xs : List α} (occupies : ∀ x ∈ xs, ∀ out, (body x).Emits () out → out ≠ [])
    (each : ∀ x ∈ xs, Mirrors (body x) item (related x)) :
    Mirrors (writeArray body xs) (readArray item)
      fun after ys => InTurn (fun later => (Put.each body later).size) related after xs ys := by
  have items := Mirrors.inTurn each
  rw [← Get.times_eq_inTurn] at items
  intro c out emits rest ys left
  rw [show readArray item = readLength >>= Get.times item from rfl, counted_mirrors _ items emits]
  obtain ⟨_, _, -, written, -⟩ := Put.emits_seq.mp emits
  have enough := each_length_le occupies written
  rw [← written.size] at enough
  refine and_congr_right fun _ => and_iff_right ?_
  omega

end Arrays

/-! ## Variables and fields -/

section Parts

variable (conv : Conversions)

theorem VMType.emits_parses (vmType : VMType) ⦃c : Unit⦄ ⦃out : Bytes⦄ (emits : vmType.writeCarbon.Emits c out) :
    VMType.readCarbon.Parses out vmType := by
  obtain ⟨out', emits', parses⟩ := VMType.conveys vmType
  obtain ⟨-, rfl⟩ := emits.unique emits'
  exact parses

theorem SmallString.emits_parses (text : SmallString) ⦃c : Unit⦄ ⦃out : Bytes⦄ (emits : text.writeCarbon.Emits c out) :
    SmallString.readCarbon.Parses out text := by
  obtain ⟨out', emits', parses⟩ := SmallString.roundTrips.conveys (a := text) trivial
  obtain ⟨-, rfl⟩ := emits.unique emits'
  exact parses

/-- What the readers of a class of values need. -/
def DataMirrors (vmType : VMType) (schema : Option VMStructSchema) (data : Data) : Prop :=
  Mirrors (data.writeAs conv vmType schema) (readStatic readInline vmType schema)
    fun after image => Becomes conv after vmType schema data image

variable {conv}

theorem variable_mirrors {value : VMDynamicVariable} (inner : DataMirrors conv value.type none value.data) :
    Mirrors (value.writeCarbon conv) (readVariable readInline) fun after read =>
      ∃ image, Becomes conv after value.type none value.data image ∧ read = value.withData image := by
  obtain ⟨type, data⟩ := value
  rw [VMDynamicVariable.writeCarbon]
  exact Mirrors.after_header (VMType.emits_parses type) ((inner.returning ()).map _)

theorem variable_nonempty (value : VMDynamicVariable) {out : Bytes} (emits : (value.writeCarbon conv).Emits () out) :
    out ≠ [] := by
  obtain ⟨type, data⟩ := value
  rw [VMDynamicVariable.writeCarbon] at emits
  obtain ⟨xs, ys, head, -, rfl⟩ := Put.emits_seq.mp emits
  rintro empty
  obtain ⟨rfl, -⟩ := List.append_eq_nil_iff.mp empty
  exact VMType.readCarbon_consumes.not_parses_nil _ (VMType.emits_parses type head)

theorem named_mirrors {field : VMNamedDynamicVariable}
    (inner : DataMirrors conv field.value.type none field.value.data) :
    Mirrors (namedWriter conv field) (readNamed readInline) fun after read =>
      ∃ image, Becomes conv after field.value.type none field.value.data image ∧ read = field.withData image := by
  obtain ⟨name, value⟩ := field
  refine Mirrors.after_header (SmallString.emits_parses name) ?_
  refine ((variable_mirrors inner).map fun value => (⟨name, value⟩ : VMNamedDynamicVariable)).congr fun after read => ?_
  constructor
  · rintro ⟨_, ⟨image, becomes, rfl⟩, rfl⟩
    exact ⟨image, becomes, rfl⟩
  · rintro ⟨image, becomes, rfl⟩
    exact ⟨_, ⟨image, becomes, rfl⟩, rfl⟩

theorem named_nonempty (field : VMNamedDynamicVariable) {out : Bytes} (emits : (namedWriter conv field).Emits () out) :
    out ≠ [] := by
  obtain ⟨name, value⟩ := field
  obtain ⟨xs, ys, head, -, rfl⟩ := Put.emits_seq.mp emits
  rintro empty
  obtain ⟨rfl, -⟩ := List.append_eq_nil_iff.mp empty
  exact SmallString.readCarbon_consumes.not_parses_nil _ (SmallString.emits_parses name head)

/-- Fields in turn, each with its name. -/
theorem namedArray_mirrors {fields : List VMNamedDynamicVariable}
    (each : ∀ field ∈ fields, DataMirrors conv field.value.type none field.value.data) :
    Mirrors (writeArray (namedWriter conv) fields) (readArray (readNamed readInline)) fun after read =>
      ∃ images, InTurn (fun later => (Put.each (namedWriter conv) later).size)
          (fun field after image => Becomes conv after field.value.type none field.value.data image) after
          fields images ∧ read = List.zipWith VMNamedDynamicVariable.withData fields images := by
  refine (array_mirrors (fun field _ out => named_nonempty field) fun field member =>
    named_mirrors (each field member)).congr fun after read => ?_
  exact inTurn_exists

theorem writeNamedDynamicVariables_map (fields : List VMNamedDynamicVariable) :
    writeNamedDynamicVariables (fields.map (VMNamedDynamicVariable.writer conv)) =
      writeArray (namedWriter conv) fields := by
  unfold writeNamedDynamicVariables writeArray
  rw [Put.each_map, List.length_map]
  rfl

theorem struct_mirrors {value : VMDynamicStruct}
    (each : ∀ field ∈ value.fields, DataMirrors conv field.value.type none field.value.data) :
    DataMirrors conv .STRUCT none (.struct value) := by
  unfold DataMirrors
  change Mirrors _ (readInline .STRUCT) _
  rw [readInline_eq]
  have writer : (Data.struct value).writeAs conv .STRUCT none = (do
      writeArray (namedWriter conv) (sortFields value.fields)
      return true) := by
    obtain ⟨fields⟩ := value
    change (do writeStruct (fieldWriters conv fields); return true : CarbonWriter Bool) = _
    unfold writeStruct
    rw [sorted_fieldWriters, writeNamedDynamicVariables_map]
  rw [writer]
  have inOrder (field : VMNamedDynamicVariable) (member : field ∈ sortFields value.fields) :=
    each field ((sortFields_perm _).mem_iff.mp member)
  have sorted := namedArray_mirrors inOrder
  refine ((((sorted.map fun fields => (⟨sortFields fields⟩ : VMDynamicStruct)).map Data.struct).returning true)).congr
    fun after image => ?_
  rw [becomes_struct]
  constructor
  · rintro ⟨_, ⟨_, ⟨images, becomes, rfl⟩, rfl⟩, rfl⟩
    exact ⟨images, becomes, rfl⟩
  · rintro ⟨images, becomes, rfl⟩
    exact ⟨_, ⟨_, ⟨images, becomes, rfl⟩, rfl⟩, rfl⟩

/-! ## Structs with a schema -/

/-- The loop over the declarations, less what it counts. -/
theorem emits_declared {fields : List VMNamedDynamicVariable} {declarations : List VMNamedVariableSchema} {ok : Bool}
    {fieldsFound : Nat} {result : Bool × Nat} {out : Bytes}
    (emits : (writeFields conv (fieldWriters conv fields) declarations ok fieldsFound).Emits result out) :
    (Put.each (declaredWriter conv fields) declarations).Emits () out ∧
      result.2 = fieldsFound + declarations.countP fun declaration =>
        fields.any fun field => field.name.value = declaration.name.value := by
  induction declarations generalizing ok fieldsFound out with
  | nil =>
    obtain ⟨rfl, rfl⟩ := Put.emits_pure.mp emits
    exact ⟨Put.emits_each_nil.mpr rfl, rfl⟩
  | cons declaration declarations ih =>
    rw [writeFields_cons] at emits
    obtain ⟨written, xs, ys, head, tail, rfl⟩ := Put.emits_bind.mp emits
    obtain ⟨others, counted⟩ := ih tail
    constructor
    · refine Put.emits_each_cons.mpr ⟨xs, ys, ?_, others, rfl⟩
      have alone := head.bind (f := fun _ => pure ()) (Put.emits_pure.mpr ⟨rfl, rfl⟩)
      rwa [List.append_nil] at alone
    · have found : ((fieldWriters conv fields).find? fun writer =>
          writer.name.value = declaration.name.value).isSome =
            fields.any fun field => field.name.value = declaration.name.value := by
        rw [Bool.eq_iff_iff, List.find?_isSome, fieldWriters_eq]
        simp [writer_name]
      rw [found] at counted
      rw [counted, List.countP_cons]
      omega

/-- The struct is written as its declarations, then its extras. -/
theorem emits_withSchema {fields : List VMNamedDynamicVariable} {schema : VMStructSchema} {ok : Bool} {out : Bytes}
    (emits : (writeWithSchema conv (fieldWriters conv fields) schema).Emits ok out) :
    (do Put.each (declaredWriter conv fields) schema.fields; extrasWriter conv schema fields).Emits () out := by
  have isFilled : filled schema fields = true ↔ (schema.fields.countP fun declaration =>
      fields.any fun field => field.name.value = declaration.name.value) = schema.fields.length ∧
        fields.length = schema.fields.length := by
    simp [filled, List.countP_eq_length]
  obtain ⟨declarations, flags⟩ := schema
  rw [writeWithSchema] at emits
  obtain ⟨result, xs, ys, head, tail, rfl⟩ := Put.emits_bind.mp emits
  obtain ⟨declared, counted⟩ := emits_declared head
  refine Put.emits_seq.mpr ⟨xs, ys, declared, ?_, rfl⟩
  unfold extrasWriter writtenExtras
  cases allowed : VMStructSchema.dynamicExtras ⟨declarations, flags⟩ with
  | false =>
    rw [allowed] at tail
    obtain ⟨-, rfl⟩ := Put.emits_pure.mp tail
    exact Put.emits_pure.mpr ⟨rfl, rfl⟩
  | true =>
    rw [allowed] at tail
    simp only [Bool.not_true, Bool.false_eq_true, if_false] at tail
    rw [Nat.zero_add] at counted
    rw [counted, fieldWriters_eq, List.length_map] at tail
    split at tail
    -- the writer has a shortcut for a struct that it takes for filled
    next same =>
      rw [if_pos rfl, if_neg (by simp [isFilled.mpr same])]
      obtain ⟨zeros, _, count, made, rfl⟩ := Put.emits_seq.mp tail
      obtain ⟨-, rfl⟩ := Put.emits_pure.mp made
      obtain ⟨-, rfl⟩ := emits_writeUnsigned.mp count
      exact Put.emits_seq.mpr ⟨_, [], emits_count.mpr ⟨by decide, by decide⟩, Put.emits_each_nil.mpr rfl, rfl⟩
    next different =>
      have notFilled : filled ⟨declarations, flags⟩ fields = false := by
        rw [← Bool.not_eq_true, isFilled]
        exact different
      rw [if_pos rfl, if_pos ⟨rfl, by simp [notFilled]⟩]
      rw [← fieldWriters_eq, filter_fieldWriters, writeNamedDynamicVariables_map] at tail
      obtain ⟨zs, _, written, made, rfl⟩ := Put.emits_seq.mp tail
      obtain ⟨-, rfl⟩ := Put.emits_pure.mp made
      rw [List.append_nil]
      exact written

theorem readFields_eq (declarations : List VMNamedVariableSchema) :
    readFields readInline declarations = Get.inTurn (fun declaration => do
      let data ← readStatic readInline declaration.schema.type declaration.schema.structDef
      return declaration.withData data) declarations := by
  induction declarations with
  | nil => rfl
  | cons declaration declarations ih =>
    obtain ⟨name, type, structDef⟩ := declaration
    rw [readFields, Get.inTurn, ih, bind_assoc]
    simp only [pure_bind]
    rfl

/-- A field of the declared type is written under its definition. -/
theorem writeField_of_find {fields : List VMNamedDynamicVariable} {declaration : VMNamedVariableSchema} {data : Data}
    (first : VMDynamicStruct.get ⟨fields⟩ declaration.name.value = some ⟨declaration.schema.type, data⟩) :
    writeField conv (fieldWriters conv fields) declaration =
      data.writeAs conv declaration.schema.type declaration.schema.structDef := by
  obtain ⟨⟨name, other⟩, -, rfl, isFound⟩ := find_writer_of_get conv first
  unfold writeField
  rw [isFound]
  change (if declaration.schema.type = declaration.schema.type then _ else _) = _
  rw [if_pos rfl]

/-- A declared field is read as what was found under its name, or as the default. -/
theorem declared_mirrors {value : VMDynamicStruct} {declaration : VMNamedVariableSchema}
    (found : ∀ data, value.get declaration.name.value = some ⟨declaration.schema.type, data⟩ →
      DataMirrors conv declaration.schema.type declaration.schema.structDef data) :
    Mirrors (declaredWriter conv value.fields declaration)
      (do
        let data ← readStatic readInline declaration.schema.type declaration.schema.structDef
        return declaration.withData data)
      fun after read => ∃ image, DeclaredBecomes conv value declaration after image ∧
        read = declaration.withData image := by
  refine Mirrors.map (Mirrors.returning ?_ ()) _
  obtain ⟨fields⟩ := value
  unfold DeclaredBecomes
  by_cases typed : ∃ data, VMDynamicStruct.get ⟨fields⟩ declaration.name.value = some ⟨declaration.schema.type, data⟩
  · obtain ⟨data, first⟩ := typed
    rw [writeField_of_find first]
    refine (found data first).congr fun after image => ?_
    constructor
    · intro becomes
      refine ⟨fun again same => ?_, fun none => absurd first (none data)⟩
      obtain rfl := (VMDynamicVariable.mk.inj (Option.some.inj (first.symm.trans same))).2
      exact becomes
    · rintro ⟨becomes, -⟩
      exact becomes data first
  · have writer : writeField conv (fieldWriters conv fields) declaration =
        writeDefault conv declaration.schema.type declaration.schema.structDef := by
      unfold writeField
      cases first : VMDynamicStruct.get ⟨fields⟩ declaration.name.value with
      | none =>
        have missing : ((fieldWriters conv fields).find? fun writer =>
            writer.name.value = declaration.name.value) = none := by
          apply List.find?_eq_none.mpr
          intro writer member
          rw [fieldWriters_eq] at member
          obtain ⟨field, inside, rfl⟩ := List.mem_map.mp member
          have absent := List.find?_eq_none.mp (Option.map_eq_none_iff.mp first) field inside
          rw [writer_name]
          exact absent
        rw [missing]
      | some other =>
        obtain ⟨⟨name, type, data⟩, -, rfl, isFound⟩ := find_writer_of_get conv first
        rw [isFound]
        change (if type = declaration.schema.type then _ else _) = _
        rw [if_neg]
        rintro rfl
        exact typed ⟨data, first⟩
    rw [writer]
    have none (data : Data) :
        VMDynamicStruct.get ⟨fields⟩ declaration.name.value ≠ some ⟨declaration.schema.type, data⟩ :=
      fun first => typed ⟨data, first⟩
    refine (Mirrors.of_conveys (writeDefault_conveys conv declaration.schema.type
      declaration.schema.structDef)).congr fun after image => ?_
    constructor
    · intro same
      exact ⟨fun data first => absurd first (none data), fun _ => same⟩
    · rintro ⟨-, same⟩
      exact same none

/-- A struct with a schema is read as what the writer makes of it. -/
theorem boundStruct_mirrors {schema : VMStructSchema} {value : VMDynamicStruct}
    (declared : ∀ declaration ∈ schema.fields, ∀ data,
      value.get declaration.name.value = some ⟨declaration.schema.type, data⟩ →
      DataMirrors conv declaration.schema.type declaration.schema.structDef data)
    (others : ∀ field ∈ extras schema value.fields, DataMirrors conv field.value.type none field.value.data) :
    DataMirrors conv .STRUCT (some schema) (.struct value) := by
  have fields := Mirrors.inTurn fun declaration member => declared_mirrors (declared declaration member)
  rw [← readFields_eq] at fields
  have written : ∀ field ∈ writtenExtras schema value.fields,
      DataMirrors conv field.value.type none field.value.data := by
    intro field member
    unfold writtenExtras at member
    split at member
    next => exact others field member
    next => cases member
  have tail (bound : List VMNamedDynamicVariable) : Mirrors (extrasWriter conv schema value.fields)
      (if schema.dynamicExtras then do
        let extras ← readArray (readNamed readInline)
        return ⟨sortFields (bound ++ extras)⟩
      else return ⟨sortFields bound⟩ : CarbonReader VMDynamicStruct)
      fun after read => ∃ images,
        InTurn (fun later => (Put.each (namedWriter conv) later).size)
          (fun field after image => Becomes conv after field.value.type none field.value.data image) after
          (writtenExtras schema value.fields) images ∧
        read = ⟨sortFields (bound ++ List.zipWith VMNamedDynamicVariable.withData
          (writtenExtras schema value.fields) images)⟩ := by
    unfold extrasWriter
    cases allowed : schema.dynamicExtras with
    | true =>
      rw [if_pos rfl, if_pos rfl]
      refine ((namedArray_mirrors written).map fun extras => (⟨sortFields (bound ++ extras)⟩ : VMDynamicStruct)).congr
        fun after read => ?_
      constructor
      · rintro ⟨_, ⟨images, becomes, rfl⟩, rfl⟩
        exact ⟨images, becomes, rfl⟩
      · rintro ⟨images, becomes, rfl⟩
        exact ⟨_, ⟨images, becomes, rfl⟩, rfl⟩
    | false =>
      have none : writtenExtras schema value.fields = [] := by simp [writtenExtras, allowed]
      rw [none, if_neg (by decide), if_neg (by decide)]
      refine (Mirrors.of_conveys (conveys_pure () _)).congr fun after read => ?_
      simp [inTurn_nil]
  have whole := fields.bind (fun _ _ _ bound => tail bound) (extrasWriter conv schema value.fields).size
    fun _ _ _ _ _ emits => emits.size.symm
  have reader : readStatic readInline .STRUCT (some schema) = (do
      let bound ← readFields readInline schema.fields
      let struct ← (if schema.dynamicExtras then do
          let extras ← readArray (readNamed readInline)
          return ⟨sortFields (bound ++ extras)⟩
        else return ⟨sortFields bound⟩ : CarbonReader VMDynamicStruct)
      return .struct struct) := by
    obtain ⟨declarations, flags⟩ := schema
    change (do return Data.struct (← readWithSchema readInline ⟨declarations, flags⟩) : CarbonReader Data) = _
    rw [readWithSchema, bind_assoc]
  unfold DataMirrors
  rw [reader, ← bind_assoc]
  refine Mirrors.of_emits ((whole.map Data.struct).congr fun after image => ?_) fun ok out emits => ?_
  · rw [becomes_boundStruct]
    constructor
    · rintro ⟨_, ⟨_, inSchema, images, inExtras, rfl⟩, rfl⟩
      obtain ⟨bound, becomes, rfl⟩ := inTurn_exists.mp inSchema
      exact ⟨bound, images, becomes, inExtras, rfl⟩
    · rintro ⟨bound, images, becomes, inExtras, rfl⟩
      exact ⟨_, ⟨_, inTurn_exists.mpr ⟨bound, becomes, rfl⟩, images, inExtras, rfl⟩, rfl⟩
  · obtain ⟨fields⟩ := value
    exact ⟨(), emits_withSchema emits⟩

/-! ## Arrays of structs -/

/-- The reader of the elements of a struct array. -/
def elementReader : Option VMStructSchema → CarbonReader VMDynamicStruct
  | none => readStruct readInline
  | some schema => readWithSchema readInline schema

theorem readStatic_struct (schema : Option VMStructSchema) : readStatic readInline .STRUCT schema = do
    let struct ← elementReader schema
    return .struct struct := by
  cases schema with
  | none =>
    change readInline .STRUCT = _
    rw [readInline_eq]
    rfl
  | some schema => rfl

theorem elements_mirror {schema : Option VMStructSchema} {structs : List VMDynamicStruct}
    (each : ∀ struct ∈ structs, DataMirrors conv .STRUCT schema (.struct struct)) :
    Mirrors (Put.each (elementWriter conv schema) structs) (Get.times (elementReader schema) structs.length)
      fun after read => ElementsBecome conv schema after structs read := by
  rw [Get.times_eq_inTurn]
  refine Mirrors.inTurn fun struct member => ?_
  have element := each struct member
  unfold DataMirrors at element
  rw [readStatic_struct] at element
  exact (element.unmap struct_injective).returning ()

theorem elementWriter_some (schema : VMStructSchema) (structs : List VMDynamicStruct) :
    Put.each (fun fields => do let _ ← writeWithSchema conv fields schema)
      (structs.map (VMDynamicStruct.writers conv)) = Put.each (elementWriter conv (some schema)) structs := by
  rw [Put.each_map]
  rfl

theorem elementWriter_none (structs : List VMDynamicStruct) :
    Put.each writeStruct (structs.map (VMDynamicStruct.writers conv)) = Put.each (elementWriter conv none) structs := by
  rw [Put.each_map]
  refine Put.each_congr fun struct _ => ?_
  change _ = (do
    let _ ← (do writeStruct (struct.writers conv); return true : CarbonWriter Bool)
    pure () : CarbonWriter Unit)
  rw [bind_assoc]
  simp only [pure_bind]
  exact (bind_pure _).symm

theorem boundArray_mirrors {schema own : VMStructSchema} {structs : List VMDynamicStruct}
    (each : ∀ struct ∈ structs, DataMirrors conv .STRUCT (some schema) (.struct struct)) :
    DataMirrors conv .ARRAY_STRUCT (some schema) (.structArray ⟨own, structs.map .struct⟩) := by
  have items := counted_mirrors (Get.times (elementReader (some schema))) (elements_mirror each)
  unfold DataMirrors
  rw [Data.writeAs, writeBody]
  simp only
  rw [structWriters_eq]
  unfold writeStructs
  rw [List.length_map]
  dsimp only
  rw [elementWriter_some]
  refine ((items.map fun structs => Data.structArray ⟨schema, structs.map .struct⟩).returning true).congr
    fun after image => ?_
  rw [becomes_boundArray]
  constructor
  · rintro ⟨images, ⟨room, becomes⟩, rfl⟩
    exact ⟨images, room, becomes, rfl⟩
  · rintro ⟨images, room, becomes, rfl⟩
    exact ⟨images, ⟨room, becomes⟩, rfl⟩

/-- The schema of an array travels behind the count. -/
theorem inlineArray_mirrors {schema : VMStructSchema} (publishable : schema.Publishable)
    {structs : List VMDynamicStruct}
    (each : ∀ struct ∈ structs, DataMirrors conv .STRUCT schema.used (.struct struct)) :
    DataMirrors conv .ARRAY_STRUCT none (.structArray ⟨schema, structs.map .struct⟩) := by
  have header ⦃c : Unit⦄ ⦃out : Bytes⦄ (emits : schema.writeCarbon.Emits c out) :
      VMStructSchema.readCarbon.Parses out schema := by
    obtain ⟨image, written, parses⟩ := publishable.conveys
    obtain ⟨-, rfl⟩ := emits.unique written
    exact parses
  have items := (elements_mirror each).map fun structs => Data.structArray ⟨schema, structs.map .struct⟩
  have reader : (if schema.fields.isEmpty then do
        let structs ← Get.times (readStruct readInline) structs.length
        return Data.structArray ⟨schema, structs.map .struct⟩
      else do
        let structs ← Get.times (readWithSchema readInline schema) structs.length
        return .structArray ⟨schema, structs.map .struct⟩ : CarbonReader Data) = do
      let structs ← Get.times (elementReader schema.used) structs.length
      return .structArray ⟨schema, structs.map .struct⟩ := by
    unfold VMStructSchema.used
    split <;> rfl
  have writer : (if schema.fields.isEmpty then Put.each writeStruct (structs.map (VMDynamicStruct.writers conv))
      else Put.each (fun fields => do let _ ← writeWithSchema conv fields schema)
        (structs.map (VMDynamicStruct.writers conv))) = Put.each (elementWriter conv schema.used) structs := by
    unfold VMStructSchema.used
    split
    next => exact elementWriter_none structs
    next => exact elementWriter_some schema structs
  rw [← reader] at items
  have array := counted_mirrors (fun count => do
      let schema ← VMStructSchema.readCarbon
      if schema.fields.isEmpty then
        let structs ← Get.times (readStruct readInline) count
        return Data.structArray ⟨schema, structs.map .struct⟩
      else
        let structs ← Get.times (readWithSchema readInline schema) count
        return Data.structArray ⟨schema, structs.map .struct⟩) (Mirrors.after_header header items)
  unfold DataMirrors
  change Mirrors _ (readInline .ARRAY_STRUCT) _
  rw [readInline_eq, Data.writeAs, writeBody]
  simp only
  rw [structWriters_eq]
  unfold writeStructs
  rw [List.length_map]
  dsimp only
  rw [writer]
  refine (array.congr_emits fun c out emits after image => ?_).returning true
  obtain ⟨_, _, -, written, -⟩ := Put.emits_seq.mp emits
  obtain ⟨xs, ys, schemaEmits, elementsEmit, rfl⟩ := Put.emits_seq.mp written
  rw [becomes_inlineArray, written.size, schemaEmits.size, elementsEmit.size, List.length_append]
  constructor
  · rintro ⟨room, images, becomes, rfl⟩
    exact ⟨images, publishable, room, becomes, rfl⟩
  · rintro ⟨images, -, room, becomes, rfl⟩
    exact ⟨room, images, becomes, rfl⟩

/-! ## All data -/

/-- A list of dynamic variables. -/
theorem dynamicArray_mirrors {schema : Option VMStructSchema} {values : List VMDynamicVariable}
    (each : ∀ value ∈ values, DataMirrors conv value.type none value.data) :
    DataMirrors conv .ARRAY_DYNAMIC schema (.list (values.map .variable)) := by
  have items := array_mirrors (fun value _ _ => @variable_nonempty conv value _) fun value member =>
    variable_mirrors (each value member)
  unfold DataMirrors
  rw [readStatic_dynamic rfl, Data.writeAs, writeBody, check_bind rfl]
  have writer : writeArray ItemWriter.writeCarbon (itemWriters conv (values.map .variable)) =
      writeArray (VMDynamicVariable.writeCarbon conv) values := by
    rw [itemWriters_map]
    unfold writeArray
    rw [Put.each_map, List.length_map]
    rfl
  rw [writer]
  refine ((items.map fun values => Data.list (values.map .variable)).returning true).congr fun after image => ?_
  rw [becomes_dynamicArray]
  constructor
  · rintro ⟨_, becomes, rfl⟩
    obtain ⟨images, each, rfl⟩ := inTurn_exists.mp becomes
    exact ⟨images, each, rfl⟩
  · rintro ⟨images, becomes, rfl⟩
    exact ⟨_, inTurn_exists.mpr ⟨images, becomes, rfl⟩, rfl⟩

/-- The image of typed data is read as what the writer makes of it, and only then.  Data that is typed for no schema
    is so for every schema. -/
theorem Typed.mirrors {vmType : VMType} {schema : Option VMStructSchema} {data : Data}
    (typed : Typed vmType schema data) : ∀ used, schema = none ∨ used = schema → DataMirrors conv vmType used data := by
  induction typed with
  | leaf leafData =>
    intro used _
    have conveys := leafData_conveys conv used leafData
    rw [leafData.normal] at conveys
    refine (Mirrors.of_conveys conveys).congr fun after image => ?_
    rw [becomes_leaf leafData.isNested]
    exact (and_iff_right leafData).symm
  | @dynamic schema value _ ih =>
    intro used _
    have inner := variable_mirrors (ih none (.inl rfl))
    unfold DataMirrors
    rw [readStatic_dynamic rfl]
    refine ((inner.map Data.variable).returning true).congr fun after image => ?_
    rw [becomes_dynamic]
    constructor
    · rintro ⟨_, ⟨inner, becomes, rfl⟩, rfl⟩
      exact ⟨inner, becomes, rfl⟩
    · rintro ⟨inner, becomes, rfl⟩
      exact ⟨_, ⟨inner, becomes, rfl⟩, rfl⟩
  | dynamicArray _ ih => exact fun used _ => dynamicArray_mirrors fun value member => ih value member none (.inl rfl)
  | @struct value _ ih =>
    rintro (_ | used) _
    · exact struct_mirrors fun field member => ih field member none (.inl rfl)
    · refine boundStruct_mirrors (fun declaration _ data found => ?_) fun field member => ?_
      · obtain ⟨field, first, same⟩ := Option.map_eq_some_iff.mp found
        have inside := List.mem_of_find?_eq_some first
        have mirrors := ih field inside declaration.schema.structDef (.inl rfl)
        rw [same] at mirrors
        exact mirrors
      · exact ih field (List.mem_of_mem_filter member) none (.inl rfl)
  | @boundStruct schema value _ _ ih others =>
    rintro used (none | rfl)
    · cases none
    refine boundStruct_mirrors (fun declaration member data found => ?_) fun field member => ?_
    · obtain ⟨field, first, same⟩ := Option.map_eq_some_iff.mp found
      have inside := List.mem_of_find?_eq_some first
      have named : field.name.value = declaration.name.value := by simpa using List.find?_some first
      have mirrors := ih declaration member field inside named (by rw [same]) _ (.inr rfl)
      rw [same] at mirrors
      exact mirrors
    · obtain ⟨inside, unnamed⟩ := List.mem_filter.mp member
      exact others field inside (by simpa using unnamed) none (.inl rfl)
  | boundArray _ ih =>
    rintro used (none | rfl)
    · cases none
    exact boundArray_mirrors fun struct member => ih struct member _ (.inr rfl)
  | @inlineArray schema structs publishable _ ih =>
    rintro (_ | used) _
    · exact inlineArray_mirrors publishable fun struct member => ih struct member _ (.inl rfl)
    · exact boundArray_mirrors fun struct member => ih struct member _ (.inl rfl)

end Parts

end PhantasmaPy.Carbon
