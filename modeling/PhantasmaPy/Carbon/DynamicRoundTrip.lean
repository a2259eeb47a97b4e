import PhantasmaPy.Carbon.DynamicImages
import Mathlib.Data.List.ProdSigma

/-! # Round trips of dynamic values

Values that conform to their types come back in normal form, under a schema and by themselves.
-/

namespace PhantasmaPy.Carbon

open Wire CarbonWriter CarbonReader

/-! ## Structs under a schema -/

/-- A struct that conforms to a schema is written in full, and read back with its fields sorted, whatever
    follows it. -/
theorem schemaStruct_roundTrip (conv : Conversions) {schema : VMStructSchema} {value : VMDynamicStruct}
    (conforms : Holds .STRUCT (some schema) (.struct value)) :
    ∃ raw, (value.writeWithSchema conv schema).Emits true raw ∧
      ∀ rest, (VMDynamicStruct.readWithSchema schema).run (raw ++ rest) = .ok (value.normal, rest) := by
  obtain ⟨raw, emits, parses⟩ := boundElement_conveys conv (conforms.conveys conv)
  exact ⟨raw, emits, parses⟩

/-- Conversions that accept no values of other classes. -/
def Conversions.none : Conversions where
  bytes _ := .error .typeError
  int _ := .error .typeError
  str _ := .error .typeError
  wrongClass _ := .attributeError

instance (fields : List VMNamedDynamicVariable) : Decidable (DistinctNames fields) :=
  inferInstanceAs (Decidable (List.Nodup _))

def idName : SmallString := ⟨Str.ofString "id", [105, 100], by decide +kernel, by decide⟩

def powersName : SmallString :=
  ⟨Str.ofString "powers", [112, 111, 119, 101, 114, 115], by decide +kernel, by decide⟩

def noteName : SmallString := ⟨Str.ofString "note", [110, 111, 116, 101], by decide +kernel, by decide⟩

/-- A schema with one field. -/
def powerSchema : VMStructSchema := ⟨[⟨idName, ⟨.INT8, none⟩⟩], 0⟩

def power : VMDynamicStruct := ⟨[⟨idName, ⟨.INT8, .int (-3)⟩⟩]⟩

/-- A schema with a field for an array of structs, which allows extras. -/
def cardSchema : VMStructSchema :=
  ⟨[⟨powersName, ⟨.ARRAY_STRUCT, some powerSchema⟩⟩, ⟨idName, ⟨.INT64, none⟩⟩], 1⟩

/-- A struct of the schema with an extra text, in another order. -/
def card : VMDynamicStruct where
  fields := [⟨noteName, ⟨.STRING, .str (Str.ofString "rare")⟩⟩,
    ⟨powersName, ⟨.ARRAY_STRUCT, .structArray ⟨powerSchema, [.struct power, .struct power]⟩⟩⟩,
    ⟨idName, ⟨.INT64, .int 7⟩⟩]

theorem power_holds : Holds .STRUCT (some powerSchema) (.struct power) := by
  have noExtras : extras powerSchema power.fields = [] := rfl
  refine .boundStruct (fun _ => .int (-3)) (by decide +kernel) (by decide +kernel) ?_ ?_
    (fun some_extras => absurd noExtras some_extras) (by rw [noExtras]; decide) ?_
  · rintro field (_ | ⟨_, ⟨⟩⟩)
    exact List.mem_cons_self
  · rintro field (_ | ⟨_, ⟨⟩⟩)
    exact .leaf ⟨-3, by decide, rfl⟩
  · rw [noExtras]
    rintro field ⟨⟩

theorem card_holds : Holds .STRUCT (some cardSchema) (.struct card) := by
  have oneExtra : extras cardSchema card.fields =
      [⟨noteName, ⟨.STRING, .str (Str.ofString "rare")⟩⟩] := rfl
  refine .boundStruct (fun field => if field.schema.type = .INT64 then .int 7 else
      .structArray ⟨powerSchema, [power, power].map .struct⟩)
    (by decide +kernel) (by decide +kernel) ?_ ?_ (fun _ => rfl) (by rw [oneExtra]; decide) ?_
  · rintro field (_ | ⟨_, _ | ⟨_, ⟨⟩⟩⟩)
    · exact List.mem_cons_of_mem _ List.mem_cons_self
    · exact List.mem_cons_of_mem _ (List.mem_cons_of_mem _ List.mem_cons_self)
  · rintro field (_ | ⟨_, _ | ⟨_, ⟨⟩⟩⟩)
    · refine .boundArray (by decide) rfl ?_
      intro struct member
      obtain rfl : struct = power := by simpa using member
      exact power_holds
    · exact .leaf ⟨7, by decide, rfl⟩
  · rw [oneExtra]
    rintro field (_ | ⟨_, ⟨⟩⟩)
    exact .leaf ⟨_, ⟨by decide, _, encodeText_eq_ok.mpr (Str.encodeUtf8_eq_some.mpr ⟨_, rfl, rfl⟩)⟩, rfl⟩

theorem schemaStruct_roundTrip_card :
    ∃ raw, (card.writeWithSchema Conversions.none cardSchema).Emits true raw ∧
      ∀ rest, (VMDynamicStruct.readWithSchema cardSchema).run (raw ++ rest) = .ok (card.normal, rest) :=
  schemaStruct_roundTrip Conversions.none card_holds

/-! ### More extras than a count can hold -/

/-- The character at a number below the surrogates. -/
def lowChar (n : Fin 50000) : Char :=
  Char.ofNatAux n.val (.inl (by have := n.isLt; omega))

theorem lowChar_injective : Function.Injective lowChar := by
  intro first second same
  exact Fin.ext (congrArg Char.toNat same)

/-- The name of two characters with a number. -/
def numberedName (n : Fin 50000 × Fin 50000) : SmallString where
  value := [lowChar n.1, lowChar n.2].map CodePoint.ofChar
  fits := by
    refine ⟨_, encodeText_eq_ok.mpr (Str.encodeUtf8_eq_some.mpr ⟨_, rfl, rfl⟩), ?_⟩
    have first := (lowChar n.1).utf8Size_le_four
    have second := (lowChar n.2).utf8Size_le_four
    simp only [List.flatMap_cons, List.flatMap_nil, List.length_append, List.length_nil,
      String.length_utf8EncodeChar]
    omega

theorem numberedName_injective : Function.Injective fun n => (numberedName n).value := by
  intro first second same
  have chars := List.map_injective_iff.mpr CodePoint.ofChar_injective same
  injection chars with left right
  injection right with right
  exact Prod.ext (lowChar_injective left) (lowChar_injective right)

/-- The struct of small integers under the names with the numbers. -/
def numberedStruct (numbers : List (Fin 50000 × Fin 50000)) : VMDynamicStruct where
  fields := numbers.map fun n => ⟨numberedName n, ⟨.INT8, .int 0⟩⟩

theorem numberedStruct_distinct {numbers : List (Fin 50000 × Fin 50000)} (nodup : numbers.Nodup) :
    DistinctNames (numberedStruct numbers).fields := by
  unfold DistinctNames numberedStruct
  rw [List.map_map]
  exact nodup.map numberedName_injective

theorem length_numberedStruct (numbers : List (Fin 50000 × Fin 50000)) :
    (numberedStruct numbers).fields.length = numbers.length := List.length_map _

theorem numberedStruct_holds (numbers : List (Fin 50000 × Fin 50000)) :
    ∀ field ∈ (numberedStruct numbers).fields, Holds field.value.type none field.value.data := by
  intro field member
  obtain ⟨n, -, rfl⟩ := List.mem_map.mp member
  exact .leaf ⟨0, by decide, rfl⟩

/-- The schema without fields that allows extras. -/
def extrasSchema : VMStructSchema := ⟨[], 1⟩

/-- All two thousand five hundred million names, more than the four-byte count can hold. -/
def manyNumbers : List (Fin 50000 × Fin 50000) := List.finRange 50000 ×ˢ List.finRange 50000

theorem manyNumbers_nodup : manyNumbers.Nodup :=
  (List.nodup_finRange 50000).product (List.nodup_finRange 50000)

theorem length_manyNumbers : manyNumbers.length = 2500000000 := by
  unfold manyNumbers
  rw [List.length_product, List.length_finRange]

/-- Under a schema without fields every field is an extra and has to be counted. -/
theorem emits_extrasSchema {conv : Conversions} {value : VMDynamicStruct} {raw : Bytes}
    (emits : (value.writeWithSchema conv extrasSchema).Emits true raw) : value.fields.length < 2 ^ 31 := by
  obtain ⟨fields⟩ := value
  have filtered (writers : List FieldWriter) :
      (writers.filter fun writer => !VMStructSchema.hasField ⟨[], 1⟩ writer.name.value) = writers :=
    List.filter_eq_self.mpr fun _ _ => rfl
  unfold VMDynamicStruct.writeWithSchema extrasSchema at emits
  rw [writeWithSchema, writeFields, pure_bind, VMDynamicStruct.writers, fieldWriters_eq] at emits
  dsimp only at emits
  rw [if_neg (by decide)] at emits
  -- The extras are left out only when the struct has as many fields as the schema, which has none.
  split at emits
  next same =>
    obtain ⟨-, empty⟩ := same
    rw [List.length_map] at empty
    rw [empty]
    decide
  next =>
    rw [Put.emits_seq] at emits
    obtain ⟨_, _, written, -, -⟩ := emits
    unfold writeNamedDynamicVariables writeArray at written
    rw [Put.emits_seq] at written
    obtain ⟨_, _, count, -, -⟩ := written
    have small := (emits_count.mp count).1
    rwa [filtered, List.length_map] at small

theorem crowdedStruct_refused :
    DistinctNames (numberedStruct manyNumbers).fields ∧
      (∀ field ∈ (numberedStruct manyNumbers).fields, Holds field.value.type none field.value.data) ∧
      extrasSchema.dynamicExtras = true ∧
      ¬ ∃ raw, ((numberedStruct manyNumbers).writeWithSchema Conversions.none extrasSchema).Emits true raw := by
  refine ⟨numberedStruct_distinct manyNumbers_nodup, numberedStruct_holds _, rfl, ?_⟩
  rintro ⟨raw, emits⟩
  have small := emits_extrasSchema emits
  rw [length_numberedStruct, length_manyNumbers] at small
  exact absurd small (by decide)

/-! ## Values that describe themselves -/

/-- One image is read as one value. -/
theorem read_unique {α : Type} {left right : CarbonWriter Unit} {reader : CarbonReader α} {a b : α}
    (readLeft : ∃ raw, serialize left = .ok raw ∧ deserialize reader raw = .ok a)
    (readRight : ∃ raw, serialize right = .ok raw ∧ deserialize reader raw = .ok b)
    (same : serialize left = serialize right) : a = b := by
  obtain ⟨raw, written, read⟩ := readLeft
  obtain ⟨raw', written', read'⟩ := readRight
  rw [same, written'] at written
  cases written
  rw [read'] at read
  cases read
  rfl

/-- A variable or a struct that describes itself comes back in normal form, so that values with
    different normal forms have different images. -/
theorem dynamic_roundTrip (conv : Conversions) :
    (∀ value : VMDynamicVariable, Holds value.type none value.data →
      ∃ raw, serialize (value.writeCarbon conv) = .ok raw ∧
        deserialize VMDynamicVariable.readCarbon raw = .ok value.normal) ∧
    (∀ value : VMDynamicStruct, Holds .STRUCT none (.struct value) →
      ∃ raw, serialize (value.writeCarbon conv) = .ok raw ∧
        deserialize VMDynamicStruct.readCarbon raw = .ok value.normal) ∧
    (∀ left right : VMDynamicVariable, Holds left.type none left.data →
      Holds right.type none right.data → left.normal ≠ right.normal →
      serialize (left.writeCarbon conv) ≠ serialize (right.writeCarbon conv)) ∧
    (∀ left right : VMDynamicStruct, Holds .STRUCT none (.struct left) →
      Holds .STRUCT none (.struct right) → left.normal ≠ right.normal →
      serialize (left.writeCarbon conv) ≠ serialize (right.writeCarbon conv)) := by
  have variable_image (value : VMDynamicVariable) (holds : Holds value.type none value.data) :
      ∃ raw, serialize (value.writeCarbon conv) = .ok raw ∧
        deserialize VMDynamicVariable.readCarbon raw = .ok value.normal := by
    obtain ⟨type, data⟩ := value
    obtain ⟨raw, emits, parses⟩ := variable_conveys conv (holds.conveys conv)
    exact ⟨raw, serialize_eq_ok.mpr emits, deserialize_eq_ok.mpr parses.yields⟩
  have struct_image (value : VMDynamicStruct) (holds : Holds .STRUCT none (.struct value)) :
      ∃ raw, serialize (value.writeCarbon conv) = .ok raw ∧
        deserialize VMDynamicStruct.readCarbon raw = .ok value.normal := by
    obtain ⟨raw, emits, parses⟩ := plainElement_conveys conv (holds.conveys conv)
    exact ⟨raw, serialize_eq_ok.mpr emits, deserialize_eq_ok.mpr parses.yields⟩
  refine ⟨variable_image, struct_image, ?_, ?_⟩
  · intro left right holdsLeft holdsRight different same
    exact different (read_unique (variable_image left holdsLeft) (variable_image right holdsRight) same)
  · intro left right holdsLeft holdsRight different same
    exact different (read_unique (struct_image left holdsLeft) (struct_image right holdsRight) same)

/-- A variable around a list of variables, one of them an array of structs with its schema. -/
def deck : VMDynamicVariable where
  type := .ARRAY_DYNAMIC
  data := .list ([⟨.ARRAY_STRUCT, .structArray ⟨powerSchema, [power, power].map .struct⟩⟩,
    ⟨.INT16, .int 300⟩].map .variable)

theorem deck_holds : Holds deck.type none deck.data := by
  refine .dynamicArray (by decide) ?_
  rintro value (_ | ⟨_, _ | ⟨_, ⟨⟩⟩⟩)
  · refine .inlineArray (by decide) ⟨by decide, by decide, fun _ => trivial, trivial⟩
      ⟨⟨rfl, trivial⟩, trivial⟩ (fun _ => rfl) ?_
    intro struct member
    obtain rfl : struct = power := by simpa using member
    exact power_holds
  · exact .leaf ⟨300, by decide, rfl⟩

/-- A struct that describes itself, with its fields out of order. -/
def label : VMDynamicStruct where
  fields := [⟨noteName, ⟨.BYTES, .bytes [1, 2]⟩⟩, ⟨idName, ⟨.DYNAMIC, .variable deck⟩⟩]

theorem label_holds : Holds .STRUCT none (.struct label) := by
  refine .struct (by decide) (by decide +kernel) ?_
  rintro field (_ | ⟨_, _ | ⟨_, ⟨⟩⟩⟩)
  · exact .leaf ⟨[1, 2], (show [1, 2].length < 2 ^ 31 by decide), rfl⟩
  · exact .dynamic deck_holds

theorem dynamic_roundTrip_deck :
    (∃ raw, serialize (deck.writeCarbon Conversions.none) = .ok raw ∧
      deserialize VMDynamicVariable.readCarbon raw = .ok deck.normal) ∧
    ∃ raw, serialize (label.writeCarbon Conversions.none) = .ok raw ∧
      deserialize VMDynamicStruct.readCarbon raw = .ok label.normal :=
  ⟨(dynamic_roundTrip Conversions.none).1 deck deck_holds,
    (dynamic_roundTrip Conversions.none).2.1 label label_holds⟩

/-- A text of one surrogate, which is free of zeros. -/
def loneSurrogate : VMDynamicVariable := ⟨.STRING, .str [0xD800]⟩

theorem loneSurrogate_refused :
    loneSurrogate.data.IsOf Data.str (fun text => 0 ∉ text) ∧
      serialize (loneSurrogate.writeCarbon Conversions.none) = .error .unicodeEncodeError :=
  ⟨⟨_, by decide, rfl⟩, by decide +kernel⟩

end PhantasmaPy.Carbon
