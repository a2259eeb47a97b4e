import PhantasmaPy.Carbon.SchemaMeaning

/-! # The check of the standard fields

What `verify_token_schemas` accepts, and what it says of the first standard field that it does not find: the three loops
of the check are a list of requirements, each of which looks for the first field of its name.
-/

namespace PhantasmaPy.Carbon

open Wire CarbonWriter CarbonReader

/-! ## Requirements -/

/-- A standard field, and the schemas that are searched for it in this order. -/
structure Requirement where
  schemas : List VMStructSchema
  expected : TokenSchemaField

/-- The standard fields in the order of the checks. -/
def requirements (schemas : TokenSchemas) : List Requirement :=
  standardMetadataFields.map (Requirement.mk [schemas.seriesMetadata, schemas.rom]) ++
    standardSeriesFields.map (Requirement.mk [schemas.seriesMetadata]) ++
    standardNftFields.map (Requirement.mk [schemas.rom])

namespace Requirement

def searched (self : Requirement) : List VMNamedVariableSchema := self.schemas.flatMap VMStructSchema.fields

/-- The first field of exactly the name. -/
def found (self : Requirement) : Option VMNamedVariableSchema :=
  self.searched.find? fun field => field.name.value = self.expected.name

/-- The first field of the name exists and has the standard type. -/
def Met (self : Requirement) : Prop := ∃ field, self.found = some field ∧ field.schema.type = self.expected.type

variable (lower : Str → Str)

/-- What is wrong with a requirement that is not met: the type of a field of the name, the case of a name, or that there
    is none. -/
def objection (self : Requirement) : PyError :=
  if self.searched.any fun field => field.name.value = self.expected.name then
    .builderError (Str.ofString "type mismatch for " ++ self.expected.name ++ Str.ofString " field")
  else if self.searched.any fun field => lower field.name.value = lower self.expected.name then
    .builderError (Str.ofString "case mismatch for " ++ self.expected.name ++ Str.ofString " field")
  else .builderError (Str.ofString "mandatory metadata field not found: " ++ self.expected.name)

end Requirement

/-! ## The loops -/

section Loops

variable (lower : Str → Str) (expected : TokenSchemaField)

/-- The inner loop stops at the first field of the name, and notes whether a name before it differs in case. -/
theorem searchFields_eq (fields : List VMNamedVariableSchema) (caseMismatch : Bool) :
    searchFields lower expected fields caseMismatch =
      match fields.find? fun field => field.name.value = expected.name with
      | some field =>
        if field.schema.type = expected.type then .ok none
        else .error (.builderError (Str.ofString "type mismatch for " ++ expected.name ++ Str.ofString " field"))
      | none => .ok (some (caseMismatch ||
          fields.any fun field => lower field.name.value = lower expected.name)) := by
  induction fields generalizing caseMismatch with
  | nil => simp [searchFields, pure, Except.pure]
  | cons field fields ih =>
    obtain ⟨name, schema⟩ := field
    by_cases same : name.value = expected.name
    · by_cases type : schema.type = expected.type
      · simp [searchFields, same, type, pure, Except.pure]
      · simp [searchFields, same, type, throw, throwThe, MonadExceptOf.throw]
    · simp [searchFields, same, ih, Bool.or_assoc]

/-- The loop over the schemas searches their fields one after the other. -/
theorem searchSchemas_eq (schemas : List VMStructSchema) (caseMismatch : Bool) :
    searchSchemas lower expected schemas caseMismatch =
      match (schemas.flatMap VMStructSchema.fields).find? fun field => field.name.value = expected.name with
      | some field =>
        if field.schema.type = expected.type then .ok ()
        else .error (.builderError (Str.ofString "type mismatch for " ++ expected.name ++ Str.ofString " field"))
      | none =>
        if caseMismatch || (schemas.flatMap VMStructSchema.fields).any
            fun field => lower field.name.value = lower expected.name then
          .error (.builderError (Str.ofString "case mismatch for " ++ expected.name ++ Str.ofString " field"))
        else .error (.builderError (Str.ofString "mandatory metadata field not found: " ++ expected.name)) := by
  induction schemas generalizing caseMismatch with
  | nil => simp [searchSchemas, throw, throwThe, MonadExceptOf.throw]
  | cons schema schemas ih =>
    rw [searchSchemas, searchFields_eq, List.flatMap_cons, List.find?_append]
    cases found : schema.fields.find? fun field => decide (field.name.value = expected.name) with
    | some field =>
      by_cases type : field.schema.type = expected.type
      · simp [type, pure, Except.pure, bind, Except.bind]
      · simp [type, bind, Except.bind]
    | none =>
      simp [ih, bind, Except.bind, Bool.or_assoc]

end Loops

namespace Requirement

variable (lower : Str → Str)

/-- The check of one standard field. -/
def check (self : Requirement) : Except PyError Unit := searchSchemas lower self.expected self.schemas false

theorem check_met {self : Requirement} (met : self.Met) : self.check lower = .ok () := by
  obtain ⟨field, found, type⟩ := met
  unfold Requirement.found searched at found
  rw [check, searchSchemas_eq, found]
  simp only [type, if_true]

theorem check_unmet {self : Requirement} (unmet : ¬ self.Met) : self.check lower = .error (self.objection lower) := by
  rw [check, searchSchemas_eq, objection]
  cases found : self.found with
  | some field =>
    have type : field.schema.type ≠ self.expected.type := fun same => unmet ⟨field, found, same⟩
    unfold Requirement.found at found
    have hit := List.find?_some found
    have named : (self.searched.any fun field => field.name.value = self.expected.name) = true :=
      List.any_eq_true.mpr ⟨field, List.mem_of_find?_eq_some found, hit⟩
    unfold searched at found
    rw [found, if_pos named]
    simp only [type, if_false]
  | none =>
    have unnamed : ¬ (self.searched.any fun field => field.name.value = self.expected.name) = true := by
      simpa [Requirement.found] using found
    unfold Requirement.found searched at found
    rw [found, if_neg unnamed]
    simp only [Bool.false_or, searched]
    exact (apply_ite Except.error _ _ _).symm

theorem check_iff {self : Requirement} : self.check lower = .ok () ↔ self.Met := by
  constructor
  · intro checked
    by_contra unmet
    cases checked.symm.trans (check_unmet lower unmet)
  · exact check_met lower

end Requirement

/-- The check goes through the requirements. -/
theorem verifyTokenSchemas_eq (lower : Str → Str) (schemas : TokenSchemas) :
    verifyTokenSchemas lower schemas = forM (requirements schemas) (Requirement.check lower) := by
  simp only [verifyTokenSchemas, assertMetadataFields, requirements, List.forM_append, List.forM_map, bind_assoc,
    List.forM_eq_forM]
  rfl

/-! ## Schemas from the wire -/

section Published

variable (lower : Str → Str)

/-- Publication keeps names and types, which is all that the search looks at. -/
theorem searchFields_published (expected : TokenSchemaField) (fields : List VMNamedVariableSchema) (caseMismatch : Bool) :
    searchFields lower expected (publishedFields fields) caseMismatch =
      searchFields lower expected fields caseMismatch := by
  induction fields generalizing caseMismatch with
  | nil => rfl
  | cons field fields ih =>
    obtain ⟨name, type, structDef⟩ := field
    rw [publishedFields, VMVariableSchema.published, searchFields, searchFields, ih]

theorem published_fields (schema : VMStructSchema) : schema.published.fields = publishedFields schema.fields := by
  cases schema
  rw [VMStructSchema.published]

theorem searchSchemas_published (expected : TokenSchemaField) (schemas : List VMStructSchema) (caseMismatch : Bool) :
    searchSchemas lower expected (schemas.map VMStructSchema.published) caseMismatch =
      searchSchemas lower expected schemas caseMismatch := by
  induction schemas generalizing caseMismatch with
  | nil => rfl
  | cons schema schemas ih =>
    rw [List.map_cons, searchSchemas, searchSchemas, published_fields, searchFields_published]
    simp only [ih]

/-- The schemas that the reader makes of the image. -/
def TokenSchemas.published (self : TokenSchemas) : TokenSchemas :=
  ⟨self.seriesMetadata.published, self.rom.published, self.ram.published⟩

theorem verifyTokenSchemas_published (schemas : TokenSchemas) :
    verifyTokenSchemas lower schemas.published = verifyTokenSchemas lower schemas := by
  have both := fun expected => searchSchemas_published lower expected [schemas.seriesMetadata, schemas.rom] false
  have series := fun expected => searchSchemas_published lower expected [schemas.seriesMetadata] false
  have rom := fun expected => searchSchemas_published lower expected [schemas.rom] false
  simp only [List.map_cons, List.map_nil] at both series rom
  simp only [verifyTokenSchemas, assertMetadataFields, TokenSchemas.published, both, series, rom]

/-- Written schemas without definitions come back in their published form. -/
theorem TokenSchemas.publishes {schemas : TokenSchemas} {raw : Bytes} (series : Bare schemas.seriesMetadata)
    (rom : Bare schemas.rom) (ram : Bare schemas.ram) (written : serialize schemas.writeCarbon = .ok raw) :
    deserialize TokenSchemas.readCarbon raw = .ok schemas.published := by
  obtain ⟨seriesOut, rest, seriesEmits, restEmits, -⟩ := Put.emits_seq.mp (serialize_eq_ok.mp written)
  obtain ⟨romOut, ramOut, romEmits, ramEmits, -⟩ := Put.emits_seq.mp restEmits
  have seriesRange := series.inRange (VMStructSchema.length_of_emits seriesEmits)
  have romRange := rom.inRange (VMStructSchema.length_of_emits romEmits)
  have ramRange := ram.inRange (VMStructSchema.length_of_emits ramEmits)
  have all : Conveys schemas.writeCarbon () TokenSchemas.readCarbon schemas.published :=
    (schemas.seriesMetadata.conveys seriesRange).seq
      ((schemas.rom.conveys romRange).seq ((schemas.ram.conveys ramRange).map _))
  obtain ⟨out, emits, parses⟩ := all
  obtain rfl := Except.ok.inj ((serialize_eq_ok.mpr emits).symm.trans written)
  exact deserialize_eq_ok.mpr parses.yields

end Published

/-! ## The standard -/

theorem buildTokenSchemasFromFields_verified {lower : Str → Str} {seriesMetadata rom ram : List SchemaFieldInput}
    {schemas : TokenSchemas} (built : buildTokenSchemasFromFields lower seriesMetadata rom ram = .ok schemas) :
    verifyTokenSchemas lower schemas = .ok () := by
  obtain ⟨_, -, built⟩ := except_bind_eq_ok.mp built
  obtain ⟨_, -, built⟩ := except_bind_eq_ok.mp built
  obtain ⟨_, -, built⟩ := except_bind_eq_ok.mp built
  obtain ⟨_, verified, built⟩ := except_bind_eq_ok.mp built
  obtain rfl := Except.ok.inj built
  exact verified

/-- The check accepts exactly the schemas that meet every requirement, and names the first that is not met.  It accepts
    what the builder returns, before and after publication. -/
theorem verifyTokenSchemas_exact (lower : Str → Str) :
    (∀ schemas : TokenSchemas, verifyTokenSchemas lower schemas = .ok () ↔
      ∀ requirement ∈ requirements schemas, requirement.Met) ∧
    (∀ (schemas : TokenSchemas) (before after : List Requirement) (requirement : Requirement),
      requirements schemas = before ++ requirement :: after → (∀ earlier ∈ before, earlier.Met) →
      ¬ requirement.Met → verifyTokenSchemas lower schemas = .error (requirement.objection lower)) ∧
    ∀ (seriesMetadata rom ram : List SchemaFieldInput) (schemas : TokenSchemas),
      buildTokenSchemasFromFields lower seriesMetadata rom ram = .ok schemas →
      verifyTokenSchemas lower schemas = .ok () ∧
        ∀ raw, serialize schemas.writeCarbon = .ok raw →
          ∃ again, deserialize TokenSchemas.readCarbon raw = .ok again ∧ verifyTokenSchemas lower again = .ok () := by
  refine ⟨?_, ?_, ?_⟩
  · intro schemas
    rw [verifyTokenSchemas_eq, forM_eq_ok]
    simp only [Requirement.check_iff]
  -- the checks run in order, so that the first requirement that is not met is the one reported
  · intro schemas before after requirement order earlier unmet
    rw [verifyTokenSchemas_eq, order]
    exact forM_eq_error (fun other member => Requirement.check_met lower (earlier other member))
      (Requirement.check_unmet lower unmet)
  · intro seriesMetadata rom ram schemas built
    have verified := buildTokenSchemasFromFields_verified built
    obtain ⟨series, romBare, ramBare⟩ := buildTokenSchemasFromFields_bare built
    refine ⟨verified, fun raw written => ?_⟩
    exact ⟨schemas.published, TokenSchemas.publishes series romBare ramBare written,
      (verifyTokenSchemas_published lower schemas).trans verified⟩

end PhantasmaPy.Carbon
