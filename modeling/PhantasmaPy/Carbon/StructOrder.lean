import PhantasmaPy.Carbon.StructWriting

/-! # The order of the fields

A struct without a schema is sorted before it is written, and a schema picks the fields by name.  What is left of
the order of the fields are the extras, which are written as they stand in the struct.
-/

namespace PhantasmaPy.Carbon

open Wire CarbonWriter

/-! ## Fields by name -/

section Fields

variable {fields others : List VMNamedDynamicVariable}

/-- With distinct names the order does not matter for what a name selects. -/
theorem find_perm (perm : fields.Perm others) (distinct : DistinctNames fields) (name : Str) :
    (fields.find? fun field => field.name.value = name) = others.find? fun field => field.name.value = name := by
  cases found : fields.find? fun field => field.name.value = name with
  | none =>
    symm
    rw [List.find?_eq_none] at found ⊢
    exact fun field member => found field (perm.mem_iff.mpr member)
  | some field =>
    have member := List.mem_of_find?_eq_some found
    have named : field.name.value = name := by simpa using List.find?_some found
    cases again : others.find? fun field => field.name.value = name with
    | none =>
      rw [List.find?_eq_none] at again
      exact absurd (decide_eq_true named) (again field (perm.mem_iff.mp member))
    | some other =>
      have inFields := perm.mem_iff.mpr (List.mem_of_find?_eq_some again)
      have same : other.name.value = name := by simpa using List.find?_some again
      exact congrArg some (List.inj_on_of_nodup_map distinct member inFields (named.trans same.symm))

theorem extras_perm (perm : fields.Perm others) (schema : VMStructSchema) :
    (extras schema fields).Perm (extras schema others) := perm.filter _

theorem DistinctNames.extras (distinct : DistinctNames fields) (schema : VMStructSchema) :
    DistinctNames (extras schema fields) := distinct.sublist (List.filter_sublist.map _)

end Fields

/-! ## The writers of the fields -/

section Writers

variable (conv : Conversions) {fields others : List VMNamedDynamicVariable}

theorem find_fieldWriters (fields : List VMNamedDynamicVariable) (name : Str) :
    ((fieldWriters conv fields).find? fun writer => writer.name.value = name) =
      (fields.find? fun field => field.name.value = name).map (VMNamedDynamicVariable.writer conv) := by
  rw [fieldWriters_eq, List.find?_map]
  congr 2
  funext field
  rw [Function.comp_apply, writer_name]

theorem length_fieldWriters (fields : List VMNamedDynamicVariable) :
    (fieldWriters conv fields).length = fields.length := by
  rw [fieldWriters_eq, List.length_map]

/-- The loop over the fields of a schema only looks for names. -/
theorem writeFields_congr {left right : List FieldWriter}
    (same : ∀ name, (left.find? fun field => field.name.value = name) = right.find? fun field => field.name.value = name)
    (schemaFields : List VMNamedVariableSchema) (ok : Bool) (fieldsFound : Nat) :
    writeFields conv left schemaFields ok fieldsFound = writeFields conv right schemaFields ok fieldsFound := by
  induction schemaFields generalizing ok fieldsFound with
  | nil => rfl
  | cons field schemaFields ih =>
    rw [writeFields_cons, writeFields_cons, writeField, writeField, same field.name.value]
    simp only [ih]

/-- The loop counts the fields that it finds. -/
theorem writeFields_counts (writers : List FieldWriter) (schemaFields : List VMNamedVariableSchema) (ok : Bool)
    (fieldsFound : Nat) :
    (writeFields conv writers schemaFields ok fieldsFound).Ensures fun result =>
      result.2 = fieldsFound + schemaFields.countP fun field =>
        (writers.find? fun writer => writer.name.value = field.name.value).isSome := by
  induction schemaFields generalizing ok fieldsFound with
  | nil => exact Put.Ensures.pure rfl
  | cons field schemaFields ih =>
    rw [writeFields_cons, List.countP_cons]
    apply Put.Ensures.after
    intro written result out emits
    have counted := ih (written && ok) _ emits
    omega

/-! ## The extras -/

variable {schema : VMStructSchema}

/-- The struct has a field for each of the schema, and as many as the schema. -/
def IsFull (schema : VMStructSchema) (value : VMDynamicStruct) : Prop :=
  (∀ field ∈ schema.fields, (value.get field.name.value).isSome = true) ∧ value.fields.length = schema.fields.length

instance (schema : VMStructSchema) (value : VMDynamicStruct) : Decidable (IsFull schema value) :=
  inferInstanceAs (Decidable (_ ∧ _))

/-- Extras are written: the schema allows them, and the struct is not taken for one without any. -/
def WritesExtras (schema : VMStructSchema) (value : VMDynamicStruct) : Prop :=
  schema.dynamicExtras = true ∧ ¬ IsFull schema value

/-- What is written after the fields of the schema. -/
def writeTail (schema : VMStructSchema) (value : VMDynamicStruct) : CarbonWriter Unit :=
  if schema.dynamicExtras = false then pure ()
  else if IsFull schema value then write4u 0
  else writeNamedDynamicVariables ((extras schema value.fields).map (VMNamedDynamicVariable.writer conv))

/-- The fields are all found where the loop counts as many as the schema has. -/
theorem counts_isFull {value : VMDynamicStruct} {ok : Bool} {found : Nat} {head : Bytes}
    (loop : (writeFields conv (value.writers conv) schema.fields true 0).Emits (ok, found) head) :
    (found = schema.fields.length ∧ (value.writers conv).length = schema.fields.length) ↔ IsFull schema value := by
  obtain ⟨fields⟩ := value
  -- the count reaches the length of the schema where every field was found
  have counted := writeFields_counts conv (fieldWriters conv fields) schema.fields true 0 loop
  dsimp only at counted
  rw [Nat.zero_add] at counted
  rw [VMDynamicStruct.writers, length_fieldWriters, counted, List.countP_eq_length]
  refine and_congr (forall₂_congr fun field _ => ?_) Iff.rfl
  rw [find_fieldWriters, VMDynamicStruct.get, Option.isSome_map, Option.isSome_map]

/-- A struct is written as the fields of the schema and then its extras. -/
theorem emits_struct {value : VMDynamicStruct} {ok : Bool} {out : Bytes} :
    (value.writeWithSchema conv schema).Emits ok out ↔
      ∃ found head tail, (writeFields conv (value.writers conv) schema.fields true 0).Emits (ok, found) head ∧
        (writeTail conv schema value).Emits () tail ∧ out = head ++ tail := by
  -- after the loop the writer returns what the loop returned
  have rest : ∀ {fieldOk : Bool} {found : Nat} {head tail : Bytes},
      (writeFields conv (value.writers conv) schema.fields true 0).Emits (fieldOk, found) head →
      ((if !schema.dynamicExtras then pure fieldOk
        else if found = schema.fields.length ∧ (value.writers conv).length = schema.fields.length then do
          write4u 0
          return fieldOk
        else do
          writeNamedDynamicVariables ((value.writers conv).filter fun field => !schema.hasField field.name.value)
          return fieldOk : CarbonWriter Bool).Emits ok tail ↔
        fieldOk = ok ∧ (writeTail conv schema value).Emits () tail) := by
    intro fieldOk found head tail loop
    have full := counts_isFull conv loop
    obtain ⟨fields⟩ := value
    unfold writeTail
    cases allowed : schema.dynamicExtras with
    | false => simp
    | true =>
      simp only [Bool.not_true, Bool.false_eq_true, if_false, Bool.true_eq_false]
      by_cases isFull : IsFull schema ⟨fields⟩
      · rw [if_pos (full.mpr isFull), if_pos isFull, Put.emits_seq]
        simp [and_comm]
      · rw [if_neg (full.not.mpr isFull), if_neg isFull, Put.emits_seq, VMDynamicStruct.writers,
          filter_fieldWriters]
        simp [and_comm]
  obtain ⟨schemaFields, flags⟩ := schema
  unfold VMDynamicStruct.writeWithSchema
  rw [writeWithSchema, Put.emits_bind]
  constructor
  · rintro ⟨⟨fieldOk, found⟩, head, tail, loop, written, rfl⟩
    obtain ⟨rfl, extra⟩ := (rest loop).mp written
    exact ⟨found, head, tail, loop, extra, rfl⟩
  · rintro ⟨found, head, tail, loop, written, rfl⟩
    exact ⟨(ok, found), head, tail, loop, (rest loop).mpr ⟨rfl, written⟩, rfl⟩

/-! ## Permuted fields -/

theorem isFull_perm (perm : fields.Perm others) (distinct : DistinctNames fields) (schema : VMStructSchema) :
    IsFull schema ⟨fields⟩ ↔ IsFull schema ⟨others⟩ := by
  unfold IsFull VMDynamicStruct.get
  simp only [find_perm perm distinct, perm.length_eq]

/-- The image of a field starts with its name. -/
theorem field_apart (distinct : DistinctNames fields) {left right : VMNamedDynamicVariable} (inLeft : left ∈ fields)
    (inRight : right ∈ fields) {first second rest other : Bytes}
    (emitsLeft : (do (left.writer conv).name.writeCarbon; (left.writer conv).writeCarbon).Emits () first)
    (emitsRight : (do (right.writer conv).name.writeCarbon; (right.writer conv).writeCarbon).Emits () second)
    (same : first ++ rest = second ++ other) : left = right := by
  obtain ⟨name, value, nameLeft, -, rfl⟩ := Put.emits_seq.mp emitsLeft
  obtain ⟨name', value', nameRight, -, rfl⟩ := Put.emits_seq.mp emitsRight
  rw [List.append_assoc, List.append_assoc] at same
  have named := SmallString.roundTrips.injective_append trivial trivial nameLeft nameRight same
  rw [writer_name, writer_name] at named
  exact List.inj_on_of_nodup_map distinct inLeft inRight (congrArg SmallString.value named)

/-- Extras are told apart by their order. -/
theorem extras_order (perm : fields.Perm others) (distinct : DistinctNames fields) {out : Bytes}
    (left : (writeNamedDynamicVariables (fields.map (VMNamedDynamicVariable.writer conv))).Emits () out)
    (right : (writeNamedDynamicVariables (others.map (VMNamedDynamicVariable.writer conv))).Emits () out) :
    fields = others := by
  unfold writeNamedDynamicVariables writeArray at left right
  rw [Put.each_map, List.length_map] at left right
  obtain ⟨count, images, counted, each, rfl⟩ := Put.emits_seq.mp left
  obtain ⟨count', images', counted', each', same⟩ := Put.emits_seq.mp right
  rw [← perm.length_eq] at counted'
  obtain ⟨-, rfl⟩ := counted.unique counted'
  obtain rfl := List.append_cancel_left same
  refine Put.each_order perm (fun left inLeft right inRight first second rest other emitsLeft emitsRight same => ?_)
    each each'
  exact field_apart conv distinct inLeft inRight emitsLeft emitsRight same

/-- Whether extras can be written does not depend on their order. -/
theorem extras_written (perm : fields.Perm others) {out : Bytes}
    (written : (writeNamedDynamicVariables (fields.map (VMNamedDynamicVariable.writer conv))).Emits () out) :
    ∃ other, (writeNamedDynamicVariables (others.map (VMNamedDynamicVariable.writer conv))).Emits () other := by
  have writers := perm.map (VMNamedDynamicVariable.writer conv)
  obtain ⟨small, each⟩ := writeArray_written.mp ⟨out, written⟩
  rw [writers.length_eq] at small
  exact writeArray_written.mpr ⟨small, fun writer member => each writer (writers.mem_iff.mpr member)⟩

theorem writeTail_perm (perm : fields.Perm others) (distinct : DistinctNames fields) {out : Bytes}
    (written : (writeTail conv schema ⟨fields⟩).Emits () out) :
    (∃ other, (writeTail conv schema ⟨others⟩).Emits () other) ∧
      ((writeTail conv schema ⟨others⟩).Emits () out ↔
        (WritesExtras schema ⟨fields⟩ → extras schema fields = extras schema others)) := by
  have full := isFull_perm perm distinct schema
  have extraPerm := extras_perm perm schema
  unfold writeTail WritesExtras at *
  cases allowed : schema.dynamicExtras with
  | false =>
    rw [allowed, if_pos rfl] at written
    simp only [if_true, Bool.false_eq_true, false_and, false_implies, iff_true]
    exact ⟨⟨out, written⟩, written⟩
  | true =>
    simp only [allowed, Bool.true_eq_false, if_false, true_and] at written ⊢
    -- a struct without extras takes the shortcut in any order of its fields
    by_cases isFull : IsFull schema ⟨fields⟩
    · rw [if_pos isFull] at written
      rw [if_pos (full.mp isFull)]
      exact ⟨⟨out, written⟩, fun _ isNot => absurd isFull isNot, fun _ => written⟩
    · rw [if_neg isFull] at written
      rw [if_neg (full.not.mp isFull)]
      -- the extras go out in the order of the fields, and their names tell the orders apart
      refine ⟨extras_written conv extraPerm written, fun again _ => ?_, fun same => ?_⟩
      · exact extras_order conv extraPerm (distinct.extras schema) written again
      · rw [← same isFull]
        exact written

/-- Sorting forgets the order. -/
theorem writeCarbon_perm (perm : fields.Perm others) (distinct : DistinctNames fields) :
    VMDynamicStruct.writeCarbon conv ⟨fields⟩ = VMDynamicStruct.writeCarbon conv ⟨others⟩ := by
  unfold VMDynamicStruct.writeCarbon writeStruct VMDynamicStruct.writers
  rw [sorted_fieldWriters, sorted_fieldWriters, sortFields_congr distinct perm]

theorem writeFields_perm (perm : fields.Perm others) (distinct : DistinctNames fields)
    (schemaFields : List VMNamedVariableSchema) :
    writeFields conv (fieldWriters conv fields) schemaFields true 0 =
      writeFields conv (fieldWriters conv others) schemaFields true 0 := by
  apply writeFields_congr
  intro name
  rw [find_fieldWriters, find_fieldWriters, find_perm perm distinct]

theorem writeWithSchema_perm (perm : fields.Perm others) (distinct : DistinctNames fields) {ok : Bool} {out : Bytes}
    (written : (VMDynamicStruct.writeWithSchema conv ⟨fields⟩ schema).Emits ok out) :
    (∃ ok out, (VMDynamicStruct.writeWithSchema conv ⟨others⟩ schema).Emits ok out) ∧
      ((VMDynamicStruct.writeWithSchema conv ⟨others⟩ schema).Emits ok out ↔
        (WritesExtras schema ⟨fields⟩ → extras schema fields = extras schema others)) := by
  obtain ⟨found, head, tail, loop, extra, rfl⟩ := (emits_struct conv).mp written
  obtain ⟨⟨otherTail, again⟩, same⟩ := writeTail_perm conv perm distinct extra
  rw [VMDynamicStruct.writers, writeFields_perm conv perm distinct] at loop
  refine ⟨⟨ok, head ++ otherTail, (emits_struct conv).mpr ⟨found, head, otherTail, loop, again, rfl⟩⟩, ?_⟩
  rw [← same]
  constructor
  · intro emits
    obtain ⟨_, otherHead, _, otherLoop, otherExtra, equal⟩ := (emits_struct conv).mp emits
    -- both loops write the same, so that the bytes behind them are the same
    obtain ⟨-, rfl⟩ := loop.unique otherLoop
    rwa [List.append_cancel_left equal]
  · intro emits
    exact (emits_struct conv).mpr ⟨found, head, tail, loop, emits, rfl⟩

/-- Structs with the same fields in another order: the plain image is the same, and under a schema the images are
    the same exactly when the extras that are written stand in the same order. -/
theorem structOrder_iff {value other : VMDynamicStruct} (perm : value.fields.Perm other.fields)
    (distinct : DistinctNames value.fields) (schema : VMStructSchema) :
    value.writeCarbon conv = other.writeCarbon conv ∧
      ((∃ ok out, (value.writeWithSchema conv schema).Emits ok out) ↔
        ∃ ok out, (other.writeWithSchema conv schema).Emits ok out) ∧
      ∀ ok out, (value.writeWithSchema conv schema).Emits ok out →
        ((other.writeWithSchema conv schema).Emits ok out ↔
          (WritesExtras schema value → extras schema value.fields = extras schema other.fields)) := by
  obtain ⟨fields⟩ := value
  obtain ⟨others⟩ := other
  have otherDistinct : DistinctNames others := (perm.map _).nodup_iff.mp distinct
  refine ⟨writeCarbon_perm conv perm distinct, ⟨?_, ?_⟩, fun ok out written => ?_⟩
  · rintro ⟨ok, out, written⟩
    exact (writeWithSchema_perm conv perm distinct written).1
  · rintro ⟨ok, out, written⟩
    exact (writeWithSchema_perm conv perm.symm otherDistinct written).1
  · exact (writeWithSchema_perm conv perm distinct written).2

end Writers

/-- Two numbers in both orders. -/
def twoFields (swapped : Bool) : VMDynamicStruct :=
  let count : VMNamedDynamicVariable := ⟨countName, ⟨.INT8, .int 1⟩⟩
  let note : VMNamedDynamicVariable := ⟨noteName, ⟨.INT8, .int 2⟩⟩
  ⟨if swapped then [note, count] else [count, note]⟩

theorem twoFields_perm : (twoFields false).fields.Perm (twoFields true).fields := List.Perm.swap _ _ _

theorem twoFields_distinct : DistinctNames (twoFields false).fields := by
  unfold DistinctNames
  decide +kernel

/-- A schema that names both fields does not tell their orders. -/
theorem structOrder_iff_named :
    let schema : VMStructSchema := ⟨[⟨noteName, ⟨.INT8, none⟩⟩, ⟨countName, ⟨.INT8, none⟩⟩], 1⟩
    (VMDynamicStruct.writeWithSchema Conversions.none (twoFields true) schema).Emits true [2, 1, 0, 0, 0, 0] := by
  intro schema
  have written : (VMDynamicStruct.writeWithSchema Conversions.none (twoFields false) schema).Emits true
      [2, 1, 0, 0, 0, 0] := rfl
  apply ((structOrder_iff _ twoFields_perm twoFields_distinct schema).2.2 _ _ written).mpr
  intro writes
  exact absurd ⟨by decide +kernel, rfl⟩ writes.2

/-- A schema without fields writes the extras as they stand. -/
theorem extras_ordered : (twoFields false).fields.Perm (twoFields true).fields ∧
    DistinctNames (twoFields false).fields ∧
    ∃ out other, (VMDynamicStruct.writeWithSchema Conversions.none (twoFields false) extrasSchema).Emits true out ∧
      (VMDynamicStruct.writeWithSchema Conversions.none (twoFields true) extrasSchema).Emits true other ∧
      out ≠ other := by
  refine ⟨twoFields_perm, twoFields_distinct, _, _, rfl, rfl, ?_⟩
  decide +kernel

end PhantasmaPy.Carbon
