import PhantasmaPy.Carbon.MetadataKept
import PhantasmaPy.Carbon.SchemaMeaning

/-! # Lost metadata

The builders keep what is supplied exactly where it fits: a ready-made value of another class or type, an id, a
rom or a mode that the schema declares with another type, and a mode that is supplied against the rom are
replaced without an error, and a ready-made struct loses the fields that its schema has no place for.
-/

namespace PhantasmaPy.Carbon

open Wire CarbonWriter CarbonReader

section Builders

variable (conv : Conversions) (lower : Str → Str) {schema : VMStructSchema} {id : Int} {metadata : Metadata}

/-- The builders keep what fits, and nothing else. -/
theorem metadataKept_iff (orderly : schema.Orderly) (low : -2 ^ 255 ≤ id) (high : id < 2 ^ 256) {raw : Bytes} :
    (buildNftRom conv lower schema (.int id) metadata = .ok raw →
      (MetadataKept schema id metadata raw ↔ NftFits conv lower schema id metadata)) ∧
    (buildTokenSeriesMetadata conv lower schema (.int id) metadata = .ok raw →
      (MetadataKept schema id metadata raw ↔ SeriesFits conv lower schema id metadata)) := by
  have inRange : Signed 256 id ∨ Unsigned 256 id := by
    unfold Signed Unsigned
    omega
  constructor
  · intro run
    obtain ⟨rom, idField, romField, out, fields, supplied, isId, isRom, built, emits⟩ := buildNftRom_eq_ok conv run
    have owns : OwnFields conv [idField, romField] standardNftFields := nft_ownFields inRange isId isRom
    rw [owns.kept_iff ⟨hasDefaultField_nft.mpr (.inl rfl), hasDefaultField_nft.mpr (.inr rfl)⟩ orderly built emits]
    unfold NftFits
    simp only [fields, Except.ok.injEq, forall_eq', nftFieldFits_iff supplied isId isRom]
  · intro run
    obtain ⟨rom, idField, modeField, romField, out, fields, supplied, isId, isMode, isRom, built, emits⟩ :=
      buildTokenSeriesMetadata_eq_ok conv run
    have owns : OwnFields conv [idField, modeField, romField] standardSeriesFields :=
      series_ownFields inRange isId isMode isRom
    rw [owns.kept_iff ⟨hasDefaultField_series.mpr (.inl rfl), hasDefaultField_series.mpr (.inr (.inr rfl))⟩ orderly
      built emits]
    unfold SeriesFits
    simp only [fields, Except.ok.injEq, forall_eq', seriesFieldFits_iff supplied isId isMode isRom]

end Builders

/-- The fields of a rom and a note. -/
def noteSchema (type : VMType) : VMStructSchema :=
  ⟨[⟨metaIdName, ⟨.INT256, none⟩⟩, ⟨noteName, ⟨type, none⟩⟩, ⟨romName, ⟨.BYTES, none⟩⟩], 0⟩

def noteMetadata : Metadata :=
  [(Str.ofString "note", .int 5), (Str.ofString "rom", .str (Str.ofString "0x123"))]

theorem metadataKept_iff_note : ∃ raw,
    buildNftRom Conversions.none asciiLower (noteSchema .INT8) (.int 300) noteMetadata = .ok raw ∧
      MetadataKept (noteSchema .INT8) 300 noteMetadata raw := by
  have accepted : (buildNftRom Conversions.none asciiLower (noteSchema .INT8) (.int 300) noteMetadata).isOk := by
    decide +kernel
  cases built : buildNftRom Conversions.none asciiLower (noteSchema .INT8) (.int 300) noteMetadata with
  | error e => simp [built, Except.isOk, Except.toBool] at accepted
  | ok raw =>
    have orderly : (noteSchema .INT8).Orderly := ⟨by decide +kernel, trivial, trivial, trivial, trivial⟩
    refine ⟨raw, rfl, ((metadataKept_iff _ _ orderly (by decide) (by decide)).1 built).mpr ?_⟩
    intro fields _ i field at_i
    have member := List.mem_of_getElem? at_i
    unfold NftFieldFits
    rw [noteSchema, List.mem_cons, List.mem_cons, List.mem_singleton] at member
    rcases member with rfl | rfl | rfl
    · have named : metaIdName.value = STANDARD_META_ID := rfl
      rw [if_pos named]
      exact .inl rfl
    · rw [if_neg (by decide +kernel), if_neg (by decide +kernel)]
      exact fun _ _ _ _ => .leaf rfl
    · have named : romName.value = romKey := rfl
      rw [if_neg (by decide +kernel), if_pos named]
      exact .inl rfl

/-- A ready-made struct without a schema may name a field twice. -/
example : Unchanged Conversions.none 0 .STRUCT none
    (.struct ⟨[⟨noteName, ⟨.INT8, .int 1⟩⟩, ⟨noteName, ⟨.INT8, .int 2⟩⟩]⟩) := by
  refine .struct fun i field at_i => .leaf ?_
  have member := (sortFields_perm _).mem_iff.mp (List.mem_of_getElem? at_i)
  rw [List.mem_cons, List.mem_singleton] at member
  rcases member with rfl | rfl
  · exact ⟨1, by decide, rfl⟩
  · exact ⟨2, by decide, rfl⟩

theorem not_keeps_variable {schema : Option VMStructSchema} {supplied : Int} {value : VMDynamicVariable} :
    ¬ Keeps .DYNAMIC schema (.int supplied) (.variable value) := by
  intro keeps
  generalize spelled : Data.variable value = data at keeps
  cases keeps with
  | same => cases spelled
  | int isInt => cases isInt

/-- A number that is supplied for a dynamic variable is replaced by an empty array. -/
theorem plainDynamic_lost : ∃ raw,
    buildNftRom Conversions.none asciiLower (noteSchema .DYNAMIC) (.int 300) noteMetadata = .ok raw ∧
      ¬ MetadataKept (noteSchema .DYNAMIC) 300 noteMetadata raw := by
  have built : buildNftRom Conversions.none asciiLower (noteSchema .DYNAMIC) (.int 300) noteMetadata =
      .ok [2, 44, 1, 1, 0, 0, 0, 0, 2, 0, 0, 0, 1, 35] := rfl
  refine ⟨_, built, ?_⟩
  rintro ⟨struct, read, kept⟩
  let note : VMNamedVariableSchema := ⟨noteName, ⟨.DYNAMIC, none⟩⟩
  let found : VMDynamicStruct := ⟨sortFields [⟨metaIdName, ⟨.INT256, .int 300⟩⟩,
    ⟨noteName, ⟨.DYNAMIC, .variable ⟨.ARRAY_DYNAMIC, .list []⟩⟩⟩, ⟨romName, ⟨.BYTES, .bytes [1, 35]⟩⟩]⟩
  have again : (VMDynamicStruct.readWithSchema (noteSchema .DYNAMIC)).run
      [2, 44, 1, 1, 0, 0, 0, 0, 2, 0, 0, 0, 1, 35] = .ok (found, []) := rfl
  obtain rfl : struct = found := (Prod.mk.inj (Except.ok.inj (read.symm.trans again))).1
  obtain ⟨data, inStruct, fieldKept⟩ := kept note (List.mem_cons_of_mem _ List.mem_cons_self)
  have readBack : found.get note.name.value = some ⟨.DYNAMIC, .variable ⟨.ARRAY_DYNAMIC, .list []⟩⟩ := rfl
  obtain rfl : data = .variable ⟨.ARRAY_DYNAMIC, .list []⟩ :=
    (VMDynamicVariable.mk.inj (Option.some.inj (inStruct.symm.trans readBack))).2
  unfold FieldKept at fieldKept
  rw [if_neg (by decide +kernel), if_neg (by decide +kernel)] at fieldKept
  exact not_keeps_variable (fieldKept (.int 5) rfl)

end PhantasmaPy.Carbon
