import PhantasmaPy.Carbon.Schema
import PhantasmaPy.Carbon.StreamLaws

/-! # Schemas on the wire

A schema comes back from the wire with a definition at exactly the fields of a struct type: a missing
definition is written as the empty one, and a definition at another type is not written at all.
-/

namespace PhantasmaPy.Carbon

open Wire CarbonWriter CarbonReader

/-! ## Tags -/

namespace VMType

theorem ofByte_toByte (type : VMType) : ofByte type.toByte = .ok type := by
  cases type <;> rfl

theorem emits_writeCarbon (type : VMType) : type.writeCarbon.Emits () [type.toByte] := by
  refine emits_write1.mpr ⟨⟨by positivity, ?_⟩, ?_⟩
  · have bound := type.toByte.toNat_lt
    exact_mod_cast bound
  · rw [Int.toNat_natCast, UInt8.ofNat_toNat]

theorem conveys (type : VMType) : Conveys type.writeCarbon () readCarbon type :=
  ⟨[type.toByte], emits_writeCarbon type,
    (read1_parses _).bind_nil (Get.Parses.check (ofByte_toByte type))⟩

theorem readCarbon_local : readCarbon.Local := read1_local.bind fun _ => Get.Local.check _

theorem readCarbon_consumes : readCarbon.Consumes :=
  read1_consumes.bind fun _ => (Get.Local.check _).steady

end VMType

/-! ## Counted arrays of converted items -/

section Arrays

variable {α β : Type} {write : CarbonWriter Unit} {item : CarbonReader β} {values : List β}

/-- A count in front of at least as many bytes. -/
theorem readLength_bind_parses {count : Nat} {next : Nat → CarbonReader β} {out : Bytes} {b : β}
    (small : count < 2 ^ 31) (enough : count ≤ out.length) (parses : (next count).Parses out b) :
    (readLength >>= next).Parses (intToLE 4 count ++ out) b := by
  intro rest
  rw [List.append_assoc]
  refine Get.yields_bind.mpr ⟨count, out ++ rest, readLength_yields small ?_, parses rest⟩
  rw [List.length_append]
  omega

/-- The count that is read is the number of the items behind it. -/
theorem readArray_parses {out : Bytes} (segmented : Get.Segmented item out values)
    (small : values.length < 2 ^ 31) (consumes : item.Consumes) :
    (readArray item).Parses (intToLE 4 values.length ++ out) values :=
  readLength_bind_parses small (segmented.length_le consumes.not_parses_nil) segmented.times

theorem conveys_counted {count : Nat} (conveys : ConveysAll write item values)
    (length : values.length = count) (small : count < 2 ^ 31) (consumes : item.Consumes) :
    Conveys (do writeCount count; write) () (readArray item) values := by
  obtain ⟨out, emits, segmented⟩ := conveys
  subst length
  exact ⟨_, (emits_count.mpr ⟨small, rfl⟩).bind emits, readArray_parses segmented small consumes⟩

/-- A counted array in front of the rest of a record. -/
theorem conveys_counted_bind {γ δ : Type} {count : Nat} {rest : CarbonWriter γ} {c : γ}
    {readRest : List β → CarbonReader δ} {d : δ} (conveys : ConveysAll write item values)
    (length : values.length = count) (small : count < 2 ^ 31) (consumes : item.Consumes)
    (next : Conveys rest c (readRest values) d) :
    Conveys (do writeCount count; write; rest) c (readArray item >>= readRest) d := by
  obtain ⟨out, emits, segmented⟩ := conveys
  obtain ⟨out', emits', parses'⟩ := next
  subst length
  refine ⟨_, (emits_count.mpr ⟨small, rfl⟩).bind (emits.bind emits'), ?_⟩
  rw [← List.append_assoc]
  exact (readArray_parses segmented small consumes).bind parses'

theorem readArray_shrinks (shrinks : item.Shrinks) : (readArray item).Shrinks :=
  readLength_steady.shrinks.bind fun _ => shrinks.times _

theorem readArray_consumes (shrinks : item.Shrinks) : (readArray item).Consumes :=
  readLength_consumes.bind_shrinks fun _ => shrinks.times _

/-- The elements of an array are read from what follows its count. -/
theorem readArray_agree {n : Nat} {f g : CarbonReader β} (agree : Get.EqBelow n f g)
    (shrinks : f.Shrinks) : Get.EqBelow (n + 1) (readArray f) (readArray g) :=
  Get.EqBelow.consume readLength_consumes fun _ => agree.times shrinks _

end Arrays

/-! ## The recursion equation of the reader -/

namespace VMNamedVariableSchema

variable {readStruct : CarbonReader VMStructSchema}

theorem readCarbon_shrinks (shrinks : readStruct.Shrinks) : (readCarbon readStruct).Shrinks := by
  refine SmallString.readCarbon_local.shrinks.bind fun name => Get.Shrinks.bind ?_ fun _ =>
    (Get.Local.pure _).shrinks
  refine VMType.readCarbon_local.shrinks.bind fun type => ?_
  split
  · exact shrinks.bind fun _ => (Get.Local.pure _).shrinks
  · exact (Get.Local.pure _).shrinks

theorem readCarbon_consumes (shrinks : readStruct.Shrinks) : (readCarbon readStruct).Consumes := by
  refine SmallString.readCarbon_consumes.bind_shrinks fun name => Get.Shrinks.bind ?_ fun _ =>
    (Get.Local.pure _).shrinks
  refine VMType.readCarbon_local.shrinks.bind fun type => ?_
  split
  · exact shrinks.bind fun _ => (Get.Local.pure _).shrinks
  · exact (Get.Local.pure _).shrinks

theorem readCarbon_agree {n : Nat} {f g : CarbonReader VMStructSchema} (agree : Get.EqBelow n f g)
    (shrinks : f.Shrinks) : Get.EqBelow n (readCarbon f) (readCarbon g) := by
  have variable_agree : Get.EqBelow n (VMVariableSchema.readCarbon f) (VMVariableSchema.readCarbon g) := by
    refine (Get.EqBelow.refl n _).bind VMType.readCarbon_local.shrinks fun type => ?_
    split
    · exact agree.bind shrinks fun _ => Get.EqBelow.refl n _
    · exact Get.EqBelow.refl n _
  have variable_shrinks : (VMVariableSchema.readCarbon f).Shrinks := by
    refine VMType.readCarbon_local.shrinks.bind fun type => ?_
    split
    · exact shrinks.bind fun _ => (Get.Local.pure _).shrinks
    · exact (Get.Local.pure _).shrinks
  exact (Get.EqBelow.refl n _).bind SmallString.readCarbon_local.shrinks fun _ =>
    variable_agree.bind variable_shrinks fun _ => Get.EqBelow.refl n _

end VMNamedVariableSchema

namespace VMStructSchema

theorem readBody_guarded : Get.Guarded readBody where
  shrinks _ shrinks _ :=
    (readArray_shrinks (VMNamedVariableSchema.readCarbon_shrinks (shrinks ()))).bind fun _ =>
      read1_local.shrinks.bind fun _ => (Get.Local.pure _).shrinks
  agrees n _ _ shrinks _ agree _ :=
    (readArray_agree (VMNamedVariableSchema.readCarbon_agree (agree ()) (shrinks ()))
      (VMNamedVariableSchema.readCarbon_shrinks (shrinks ()))).bind
      (readArray_shrinks (VMNamedVariableSchema.readCarbon_shrinks (shrinks ()))) fun _ =>
        Get.EqBelow.refl (n + 1) _

/-- `VMStructSchema.read_carbon` calls itself for the definitions of struct fields. -/
theorem readCarbon_eq : readCarbon = readBody (fun _ => readCarbon) () := readBody_guarded.fix_eq ()

theorem readCarbon_shrinks : readCarbon.Shrinks := readBody_guarded.fix_shrinks ()

end VMStructSchema

/-! ## Round trip -/

mutual

/-- The variable schema that the reader makes of the image. -/
def VMVariableSchema.published : VMVariableSchema → VMVariableSchema
  | ⟨type, structDef⟩ => ⟨type, if type.isStruct then some (publishedDef structDef) else none⟩

def publishedDef : Option VMStructSchema → VMStructSchema
  | some structDef => structDef.published
  | none => .default

/-- The schema that the reader makes of the image. -/
def VMStructSchema.published : VMStructSchema → VMStructSchema
  | ⟨fields, flags⟩ => ⟨publishedFields fields, flags⟩

def publishedFields : List VMNamedVariableSchema → List VMNamedVariableSchema
  | [] => []
  | ⟨name, schema⟩ :: fields => ⟨name, schema.published⟩ :: publishedFields fields

end

mutual

/-- The counts and flags that are written have room in their fields. -/
def VMVariableSchema.InRange : VMVariableSchema → Prop
  | ⟨type, structDef⟩ => type.isStruct → defInRange structDef

def defInRange : Option VMStructSchema → Prop
  | some structDef => structDef.InRange
  | none => True

def VMStructSchema.InRange : VMStructSchema → Prop
  | ⟨fields, flags⟩ => fields.length < 2 ^ 31 ∧ Unsigned 8 flags ∧ fieldsInRange fields

def fieldsInRange : List VMNamedVariableSchema → Prop
  | [] => True
  | ⟨_, schema⟩ :: fields => schema.InRange ∧ fieldsInRange fields

end

theorem length_publishedFields (fields : List VMNamedVariableSchema) :
    (publishedFields fields).length = fields.length := by
  induction fields with
  | nil => rfl
  | cons field fields ih =>
    obtain ⟨name, schema⟩ := field
    rw [publishedFields, List.length_cons, List.length_cons, ih]

theorem conveys_flags {flags : Int} (range : Unsigned 8 flags)
    (fields : List VMNamedVariableSchema) :
    Conveys (write1 flags) ()
      (do let flags ← read1; return (⟨fields, flags.toNat⟩ : VMStructSchema)) ⟨fields, flags⟩ := by
  refine ⟨[UInt8.ofNat flags.toNat], emits_write1.mpr ⟨range, rfl⟩, (read1_parses _).bind_nil ?_⟩
  obtain ⟨nonneg, small⟩ := range
  have back : ((UInt8.ofNat flags.toNat).toNat : Int) = flags := by
    rw [UInt8.toNat_ofNat', Nat.mod_eq_of_lt (by omega), Int.toNat_of_nonneg nonneg]
  rw [back]
  exact Get.Parses.pure _

/-- The count and the flags around the fields of a schema. -/
theorem conveys_schema {fields published : List VMNamedVariableSchema} {flags : Int}
    {write : CarbonWriter Unit}
    (conveys : ConveysAll write (VMNamedVariableSchema.readCarbon VMStructSchema.readCarbon) published)
    (length : published.length = fields.length) (small : fields.length < 2 ^ 31)
    (range : Unsigned 8 flags) :
    Conveys (do writeCount fields.length; write; write1 flags) () VMStructSchema.readCarbon
      ⟨published, flags⟩ := by
  rw [VMStructSchema.readCarbon_eq]
  exact conveys_counted_bind conveys length small
    (VMNamedVariableSchema.readCarbon_consumes VMStructSchema.readCarbon_shrinks)
    (conveys_flags range _)

mutual

theorem VMVariableSchema.conveys : ∀ schema : VMVariableSchema, schema.InRange →
    Conveys schema.writeCarbon () (VMVariableSchema.readCarbon VMStructSchema.readCarbon)
      schema.published
  | ⟨type, structDef⟩, inRange => by
    rw [VMVariableSchema.writeCarbon, VMVariableSchema.published]
    refine (VMType.conveys type).bind ?_
    by_cases isStruct : type.isStruct = true
    · rw [if_pos isStruct, if_pos isStruct, if_pos isStruct]
      exact (conveys_structDef structDef (inRange isStruct)).map _
    · rw [if_neg isStruct, if_neg isStruct, if_neg isStruct]
      exact conveys_pure () _

theorem conveys_structDef : ∀ structDef : Option VMStructSchema, defInRange structDef →
    Conveys (writeStructDef structDef) () VMStructSchema.readCarbon (publishedDef structDef)
  | some structDef, inRange => structDef.conveys inRange
  | none, _ => @conveys_schema [] [] 0 (pure ()) conveysAll_nil rfl (by decide) (by decide)

/-- A schema that has room on the wire comes back in its published form. -/
theorem VMStructSchema.conveys : ∀ schema : VMStructSchema, schema.InRange →
    Conveys schema.writeCarbon () VMStructSchema.readCarbon schema.published
  | ⟨fields, flags⟩, ⟨small, range, inRange⟩ => by
    rw [VMStructSchema.writeCarbon, VMStructSchema.published]
    exact conveys_schema (conveys_schemaFields fields inRange) (length_publishedFields fields) small
      range

theorem conveys_schemaFields : ∀ fields : List VMNamedVariableSchema, fieldsInRange fields →
    ConveysAll (writeSchemaFields fields)
      (VMNamedVariableSchema.readCarbon VMStructSchema.readCarbon) (publishedFields fields)
  | [], _ => conveysAll_nil
  | ⟨name, schema⟩ :: fields, ⟨inRange, restInRange⟩ => by
    have named : Conveys (do name.writeCarbon; schema.writeCarbon) ()
        (VMNamedVariableSchema.readCarbon VMStructSchema.readCarbon) ⟨name, schema.published⟩ :=
      (SmallString.roundTrips.conveys trivial).seq ((schema.conveys inRange).map _)
    have all := ConveysAll.cons named (conveys_schemaFields fields restInRange)
    rw [bind_assoc] at all
    exact all

end

/-! ## Schemas that come back unchanged -/

mutual

/-- Exactly the fields of a struct type have a definition. -/
def VMVariableSchema.DefinesStructs : VMVariableSchema → Prop
  | ⟨type, structDef⟩ => type.isStruct = structDef.isSome ∧ defDefinesStructs structDef

def defDefinesStructs : Option VMStructSchema → Prop
  | some structDef => structDef.DefinesStructs
  | none => True

def VMStructSchema.DefinesStructs : VMStructSchema → Prop
  | ⟨fields, _⟩ => fieldsDefineStructs fields

def fieldsDefineStructs : List VMNamedVariableSchema → Prop
  | [] => True
  | ⟨_, schema⟩ :: fields => schema.DefinesStructs ∧ fieldsDefineStructs fields

end

mutual

theorem VMVariableSchema.published_eq : ∀ schema : VMVariableSchema, schema.DefinesStructs →
    schema.published = schema
  | ⟨type, none⟩, ⟨noStruct, _⟩ => by
    rw [VMVariableSchema.published, noStruct]
    rfl
  | ⟨type, some structDef⟩, ⟨isStruct, defines⟩ => by
    rw [VMVariableSchema.published, isStruct, publishedDef, structDef.published_eq defines]
    rfl

theorem VMStructSchema.published_eq : ∀ schema : VMStructSchema, schema.DefinesStructs →
    schema.published = schema
  | ⟨fields, flags⟩, defines => by
    rw [VMStructSchema.published, publishedFields_eq fields defines]

theorem publishedFields_eq : ∀ fields : List VMNamedVariableSchema, fieldsDefineStructs fields →
    publishedFields fields = fields
  | [], _ => rfl
  | ⟨name, schema⟩ :: fields, ⟨defines, restDefines⟩ => by
    rw [publishedFields, schema.published_eq defines, publishedFields_eq fields restDefines]

end

/-! ## Schemas with a place on the wire -/

theorem fieldsInRange_iff {fields : List VMNamedVariableSchema} :
    fieldsInRange fields ↔ ∀ field ∈ fields, field.schema.InRange := by
  induction fields with
  | nil => simp [fieldsInRange]
  | cons field fields ih =>
    obtain ⟨name, schema⟩ := field
    rw [fieldsInRange, ih, List.forall_mem_cons]

theorem fieldsDefineStructs_iff {fields : List VMNamedVariableSchema} :
    fieldsDefineStructs fields ↔ ∀ field ∈ fields, field.schema.DefinesStructs := by
  induction fields with
  | nil => simp [fieldsDefineStructs]
  | cons field fields ih =>
    obtain ⟨name, schema⟩ := field
    rw [fieldsDefineStructs, ih, List.forall_mem_cons]

/-- The schema has room on the wire and a definition at exactly the fields of a struct type. -/
def VMStructSchema.Publishable (schema : VMStructSchema) : Prop :=
  schema.InRange ∧ schema.DefinesStructs

theorem VMStructSchema.Publishable.conveys {schema : VMStructSchema} (publishable : schema.Publishable) :
    Conveys schema.writeCarbon () VMStructSchema.readCarbon schema := by
  have image := schema.conveys publishable.1
  rwa [schema.published_eq publishable.2] at image

theorem VMStructSchema.Publishable.declared {schema definition : VMStructSchema} (publishable : schema.Publishable)
    {field : VMNamedVariableSchema} (member : field ∈ schema.fields)
    (defined : field.schema.structDef = some definition) : definition.Publishable := by
  obtain ⟨fields, flags⟩ := schema
  obtain ⟨inRange, defines⟩ := publishable
  have fieldInRange := fieldsInRange_iff.mp inRange.2.2 field member
  have fieldDefines := fieldsDefineStructs_iff.mp defines field member
  obtain ⟨name, type, structDef⟩ := field
  obtain rfl : structDef = some definition := defined
  exact ⟨fieldInRange fieldDefines.1, fieldDefines.2⟩

end PhantasmaPy.Carbon
