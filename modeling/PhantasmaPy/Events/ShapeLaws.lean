import PhantasmaPy.Events.WireShapes
import PhantasmaPy.Wire.Outcome
import Mathlib.Data.List.Pairwise

/-! # Strict decoding

When a JSON value matches a type hint, what the decoded value keeps of it, and that every value of a
shape comes back from its wire form.
-/

namespace PhantasmaPy.Events

open Wire

/-! ## Hints -/

namespace Hint

/-- The type hints of the fields of a class may be assumed to have the property. -/
theorem induction {motive : Hint → Prop} (str : motive str) (bool : motive bool)
    (int : motive int) (vmValue : motive vmValue) (optional : ∀ item, motive item → motive (optional item))
    (list : ∀ item, motive item → motive (list item)) (dict : ∀ item, motive item → motive (dict item))
    (dataclass : ∀ shape : Shape, (∀ field ∈ shape.fields, motive field.hint) →
      motive (dataclass shape)) (hint : Hint) : motive hint := by
  apply Hint.rec (motive_1 := motive)
    (motive_2 := fun shape => ∀ field ∈ shape.fields, motive field.hint)
    (motive_3 := fun fields => ∀ field ∈ fields, motive field.hint)
    (motive_4 := fun field => motive field.hint) str bool int vmValue optional list dict dataclass
  · intro name fields inner
    exact inner
  · simp
  · intro field fields head tail
    exact List.forall_mem_cons.mpr ⟨head, tail⟩
  · intro info hint default inner
    exact inner

mutual

/-- The value is one of the type. -/
def admits : Hint → Value → Bool
  | .str, value =>
    match value with
    | .str _ => true
    | _ => false
  | .bool, value =>
    match value with
    | .bool _ => true
    | _ => false
  | .int, value =>
    match value with
    | .int _ => true
    | _ => false
  | .vmValue, value =>
    match value with
    | .vmValue _ => true
    | _ => false
  | .optional item, value =>
    match value with
    | .none => true
    | value => item.admits value
  | .list item, value =>
    match value with
    | .list elements => elements.all fun element => item.admits element
    | _ => false
  | .dict item, value =>
    match value with
    | .dict entries => entries.all fun entry => item.admits entry.2
    | _ => false
  | .dataclass ⟨name, fields⟩, value =>
    match value with
    | .object cls attributes => cls = name && admitsAll fields attributes
    | _ => false

/-- Every field has its attribute. -/
def admitsAll : List (Field Hint) → List (FieldInfo × Value) → Bool
  | [], attributes => attributes.isEmpty
  | ⟨info, hint, _⟩ :: fields, attributes =>
    match attributes with
    | [] => false
    | slot :: attributes => slot.1 = info && hint.admits slot.2 && admitsAll fields attributes

end

end Hint

/-- No name of one field is a name of the other. -/
def FieldInfo.Apart (left right : FieldInfo) : Prop :=
  left.name ≠ right.name ∧ left.name ≠ right.wireName ∧ left.wireName ≠ right.name ∧
    left.wireName ≠ right.wireName

instance FieldInfo.decidableApart (left right : FieldInfo) : Decidable (left.Apart right) :=
  inferInstanceAs (Decidable (_ ∧ _ ∧ _ ∧ _))

/-- A field has a default of its type, which is `None` where the field can be omitted. -/
def Hint.admitsDefault (hint : Hint) (default : Option Value) : Bool :=
  match default with
  | none => false
  | some .none => hint.admits .none
  | some value => hint.admits value && !hint.admits .none

namespace Hint

mutual

/-- The names of the fields of a class are apart and their defaults are sound. -/
def wellFormed : Hint → Bool
  | .optional item => item.wellFormed
  | .list item => item.wellFormed
  | .dict item => item.wellFormed
  | .dataclass ⟨_, fields⟩ =>
    decide ((fields.map Field.toFieldInfo).Pairwise FieldInfo.Apart) && wellFormedAll fields
  | _ => true

def wellFormedAll : List (Field Hint) → Bool
  | [] => true
  | ⟨_, hint, default⟩ :: fields =>
    hint.wellFormed && hint.admitsDefault default && wellFormedAll fields

end

/-- The payload matches the type hint. -/
inductive Matches : Hint → Json → Prop
  | str (text : Str) : Matches .str (.str text)
  | bool (value : Bool) : Matches .bool (.bool value)
  | int (value : Int) : Matches .int (.int value)
  | vmValue (value : Json) : Matches .vmValue value
  | absent (item : Hint) : Matches (.optional item) .null
  | optional {item : Hint} {value : Json} : Matches item value → Matches (.optional item) value
  | list {item : Hint} {elements : List Json} : (∀ element ∈ elements, Matches item element) →
      Matches (.list item) (.arr elements)
  | dict {item : Hint} {entries : List (Str × Json)} : (∀ entry ∈ entries, Matches item entry.2) →
      Matches (.dict item) (.obj entries)
  | dataclass {shape : Shape} {entries : List (Str × Json)} :
      (∀ field ∈ shape.fields, ∀ value, field.present entries = some value →
        Matches field.hint value) →
      Matches (.dataclass shape) (.obj entries)

mutual

/-- What was written keeps what was read, up to the text of VM values. -/
def Keeps : Hint → Json → Json → Prop
  | .vmValue, value, written => VmValue.Normalized value written
  | .optional item, value, written => value = .null ∧ written = .null ∨ item.Keeps value written
  | .list item, value, written => ∃ elements kept, value = .arr elements ∧ written = .arr kept ∧
      List.Forall₂ (fun element again => item.Keeps element again) elements kept
  | .dict item, value, written => ∃ entries kept, value = .obj entries ∧ written = .obj kept ∧
      List.Forall₂ (fun entry again => entry.1 = again.1 ∧ item.Keeps entry.2 again.2) entries kept
  | .dataclass ⟨_, fields⟩, value, written => ∃ entries kept, value = .obj entries ∧ written = .obj kept ∧
      KeepsAll fields entries kept
  | _, value, written => written = value

/-- Every present field that is not null is there under its wire name. -/
def KeepsAll : List (Field Hint) → List (Str × Json) → List (Str × Json) → Prop
  | [], _, _ => True
  | ⟨info, hint, _⟩ :: fields, entries, kept =>
    (∀ value, info.present entries = some value → value ≠ .null →
      ∃ again, kept.lookup info.wireName = some again ∧ hint.Keeps value again) ∧
    KeepsAll fields entries kept

end

theorem wellFormedAll_iff {fields : List (Field Hint)} :
    wellFormedAll fields ↔ ∀ field ∈ fields,
      field.hint.wellFormed ∧ field.hint.admitsDefault field.default := by
  induction fields with
  | nil => simp [wellFormedAll]
  | cons field fields ih => simp [wellFormedAll, ih]

theorem keepsAll_iff {fields : List (Field Hint)} {entries kept : List (Str × Json)} :
    KeepsAll fields entries kept ↔ ∀ field ∈ fields, ∀ value, field.present entries = some value →
      value ≠ .null →
      ∃ again, kept.lookup field.wireName = some again ∧ field.hint.Keeps value again := by
  induction fields with
  | nil => simp [KeepsAll]
  | cons field fields ih => simp [KeepsAll, ih]

theorem admitsAll_iff {fields : List (Field Hint)} {attributes : List (FieldInfo × Value)} :
    admitsAll fields attributes ↔ List.Forall₂ (fun field slot =>
      slot.1 = field.toFieldInfo ∧ field.hint.admits slot.2) fields attributes := by
  induction fields generalizing attributes with
  | nil => cases attributes <;> simp [admitsAll]
  | cons field fields ih => cases attributes <;> simp [admitsAll, ih, and_assoc]

end Hint

/-! ## Written attributes -/

/-- What an attribute is written as; `None` is left out. -/
def writtenAs : Value → Option Json
  | .none => none
  | value => some (shapeToWire value)

@[simp] theorem writtenAs_eq_none {value : Value} : writtenAs value = none ↔ value = .none := by
  cases value <;> simp [writtenAs]

theorem writtenAs_of_ne {value : Value} (given : value ≠ .none) :
    writtenAs value = some (shapeToWire value) := by
  cases value with
  | none => contradiction
  | _ => rfl

@[simp] theorem itemsToWire_eq_map (items : List Value) : itemsToWire items = items.map shapeToWire := by
  induction items with
  | nil => simp [itemsToWire]
  | cons item items ih => simp [itemsToWire, ih]

@[simp] theorem entriesToWire_eq_map (entries : List (Str × Value)) :
    entriesToWire entries = entries.map fun entry => (entry.1, shapeToWire entry.2) := by
  induction entries with
  | nil => simp [entriesToWire]
  | cons entry entries ih => simp [entriesToWire, ih]

theorem lookup_cons_ne {α : Type} {key name : Str} {value : α} {entries : List (Str × α)}
    (other : key ≠ name) : ((name, value) :: entries).lookup key = entries.lookup key := by
  rw [List.lookup_cons, beq_false_of_ne other]

section Sparse

variable {α : Type}

/-- The entries that have a value. -/
def sparse (entries : List (Str × Option α)) : List (Str × α) :=
  entries.filterMap fun entry => entry.2.map fun value => (entry.1, value)

theorem lookup_sparse_none {entries : List (Str × Option α)} {name : Str}
    (absent : ∀ entry ∈ entries, entry.1 = name → entry.2 = none) : (sparse entries).lookup name = none := by
  simp only [sparse, List.lookup_eq_none_iff, List.mem_filterMap, Option.map_eq_some_iff]
  rintro _ ⟨entry, member, value, found, rfl⟩
  simp only [bne_iff_ne]
  intro same
  rw [absent entry member same.symm] at found
  cases found

theorem lookup_sparse {entries : List (Str × Option α)}
    (distinct : entries.Pairwise fun left right => left.1 ≠ right.1) {entry : Str × Option α}
    (member : entry ∈ entries) : (sparse entries).lookup entry.1 = entry.2 := by
  induction entries with
  | nil => cases member
  | cons first entries ih =>
    obtain ⟨head, tail⟩ := List.pairwise_cons.mp distinct
    cases member with
    | head =>
      have later : (sparse entries).lookup entry.1 = none :=
        lookup_sparse_none fun other member same => absurd same.symm (head other member)
      cases found : entry.2 with
      | none => simpa [sparse, found] using later
      | some value => simp [sparse, found]
    | tail _ member =>
      have other : entry.1 ≠ first.1 := (head entry member).symm
      cases found : first.2 with
      | none => simpa [sparse, found] using ih tail member
      | some value =>
        have skipped := ih tail member
        simp only [sparse, List.filterMap_cons, found, Option.map_some]
        exact (lookup_cons_ne other).trans skipped

/-- The attributes with content, each under its key. -/
def listed (key : FieldInfo → Str) (content : Value → Option α)
    (attributes : List (FieldInfo × Value)) : List (Str × α) :=
  sparse (attributes.map fun slot => (key slot.1, content slot.2))

theorem lookup_listed {key : FieldInfo → Str} {content : Value → Option α}
    {attributes : List (FieldInfo × Value)}
    (distinct : attributes.Pairwise fun left right => key left.1 ≠ key right.1)
    {slot : FieldInfo × Value} (member : slot ∈ attributes) :
    (listed key content attributes).lookup (key slot.1) = content slot.2 :=
  lookup_sparse (List.pairwise_map.mpr distinct)
    (List.mem_map_of_mem (f := fun slot : FieldInfo × Value => (key slot.1, content slot.2)) member)

end Sparse

theorem attributesToWire_eq (attributes : List (FieldInfo × Value)) :
    attributesToWire attributes = listed FieldInfo.wireName writtenAs attributes := by
  induction attributes with
  | nil => simp [attributesToWire, listed, sparse]
  | cons slot attributes ih =>
    obtain ⟨info, value⟩ := slot
    cases value <;> simpa [attributesToWire, writtenAs, listed, sparse] using ih

/-- Under its wire name stands what the attribute is written as. -/
theorem lookup_attributesToWire {attributes : List (FieldInfo × Value)}
    (apart : (attributes.map Prod.fst).Pairwise FieldInfo.Apart) {slot : FieldInfo × Value}
    (member : slot ∈ attributes) :
    (attributesToWire attributes).lookup slot.1.wireName = writtenAs slot.2 := by
  rw [attributesToWire_eq]
  exact lookup_listed ((List.pairwise_map.mp apart).imp fun names => names.2.2.2) member

instance FieldInfo.symmApart : Std.Symm FieldInfo.Apart where
  symm _ _ apart := ⟨apart.1.symm, apart.2.2.1.symm, apart.2.1.symm, apart.2.2.2.symm⟩

/-- No other attribute is taken for an omitted one. -/
theorem present_attributesToWire {attributes : List (FieldInfo × Value)}
    (apart : (attributes.map Prod.fst).Pairwise FieldInfo.Apart) {slot : FieldInfo × Value}
    (member : slot ∈ attributes) :
    slot.1.present (attributesToWire attributes) = writtenAs slot.2 := by
  unfold FieldInfo.present
  have found := lookup_attributesToWire apart member
  rw [found]
  cases written : writtenAs slot.2 with
  | some json => rfl
  | none =>
    simp only [attributesToWire_eq, listed]
    apply lookup_sparse_none
    intro entry entryMember same
    obtain ⟨other, otherMember, rfl⟩ := List.mem_map.mp entryMember
    -- a slot with the Python name as its wire name is the field's own, and that one is omitted
    have own : other.1 = slot.1 := by
      by_contra different
      exact (apart.forall (List.mem_map_of_mem otherMember) (List.mem_map_of_mem member) different).2.2.1 same
    have again := lookup_attributesToWire apart otherMember
    rw [own, found] at again
    exact again.symm.trans written

/-! ## What is accepted -/

-- their equations are derived once, for all of the proofs below
attribute [local simp] decodeField decodeShape decodeKwargs Hint.admits Hint.Keeps Hint.wellFormed shapeToWire

def DecodeError.IsMismatch (e : DecodeError) : Prop := ∃ message, e = .shapeMismatch message

theorem unexpected_isMismatch (path : Str) (expected : String) (value : Json) :
    (unexpected path expected value).IsMismatch := ⟨_, rfl⟩

/-- The decoded value is of the type, and what it is written as keeps the payload. -/
structure Decoded (hint : Hint) (value : Json) (decoded : Value) : Prop where
  matched : hint.Matches value
  admitted : hint.admits decoded
  kept : hint.Keeps value (shapeToWire decoded)

/-- Decoding succeeds exactly on a match, and fails in no other way than by a mismatch. -/
def Strict (hint : Hint) (value : Json) (result : Except DecodeError Value) : Prop :=
  Outcome (Decoded hint value) (fun e => e.IsMismatch ∧ ¬ hint.Matches value) result

/-- The argument of a field is what was read for it, if the field is present. -/
def Field.Takes (field : Field Hint) (entries : List (Str × Json)) (argument : Option Value) : Prop :=
  match field.present entries with
  | none => argument = none
  | some value => ∃ decoded, argument = some decoded ∧ Decoded field.hint value decoded

/-- The arguments of a call of the class hold what was read for its fields and nothing else. -/
def Collected (fields : List (Field Hint)) (entries : List (Str × Json))
    (kwargs : List (Str × Value)) : Prop :=
  (∀ key, (∀ field ∈ fields, field.name ≠ key) → kwargs.lookup key = none) ∧
    ∀ field ∈ fields, field.Takes entries (kwargs.lookup field.name)

theorem decodeKwargs_strict {fields : List (Field Hint)}
    (apart : (fields.map Field.toFieldInfo).Pairwise FieldInfo.Apart)
    (ih : ∀ field ∈ fields, ∀ value path,
      Strict field.hint value (decodeField field.hint value path))
    (cls : Str) (entries : List (Str × Json)) :
    Outcome (Collected fields entries) (fun e => e.IsMismatch ∧ ∃ field ∈ fields, ∃ value,
      field.present entries = some value ∧ ¬ field.hint.Matches value)
      (decodeKwargs cls fields entries) := by
  induction fields with
  | nil =>
    simp only [decodeKwargs]
    exact ⟨by simp, by simp⟩
  | cons field fields inner =>
    obtain ⟨info, hint, default⟩ := field
    obtain ⟨head, tail⟩ := List.pairwise_cons.mp apart
    obtain ⟨first, rest⟩ := List.forall_mem_cons.mp ih
    have collected := inner tail rest
    have own : ∀ field ∈ fields, field.name ≠ info.name :=
      fun field member => (head field.toFieldInfo (List.mem_map_of_mem member)).1.symm
    simp only [decodeKwargs]
    cases found : info.present entries with
    | none =>
      -- the field gives no argument, and no later field has its name
      apply collected.mono
      · rintro kwargs ⟨foreign, each⟩
        refine ⟨fun key absent => foreign key (List.forall_mem_cons.mp absent).2,
          List.forall_mem_cons.mpr ⟨?_, each⟩⟩
        simpa [Field.Takes, found] using foreign info.name own
      · rintro e ⟨mismatch, field, member, bad⟩
        exact ⟨mismatch, field, List.mem_cons_of_mem _ member, bad⟩
    | some value =>
      apply (first value _).bind
      · rintro e ⟨mismatch, bad⟩
        exact ⟨mismatch, _, List.mem_cons_self, value, found, bad⟩
      · intro decoded good
        apply collected.map
        · rintro e ⟨mismatch, field, member, bad⟩
          exact ⟨mismatch, field, List.mem_cons_of_mem _ member, bad⟩
        · rintro kwargs ⟨foreign, each⟩
          refine ⟨?_, List.forall_mem_cons.mpr ⟨?_, ?_⟩⟩
          · intro key absent
            obtain ⟨here, there⟩ := List.forall_mem_cons.mp absent
            exact (lookup_cons_ne here.symm).trans (foreign key there)
          · simpa [Field.Takes, found] using good
          · intro field member
            rw [lookup_cons_ne (own field member)]
            exact each field member

/-- The attribute is of the type of its field and keeps what was read for it. -/
structure Field.Holds (field : Field Hint) (entries : List (Str × Json)) (slot : FieldInfo × Value) :
    Prop where
  own : slot.1 = field.toFieldInfo
  admitted : field.hint.admits slot.2
  kept : ∀ value, field.present entries = some value → field.hint.Keeps value (shapeToWire slot.2)

theorem Hint.admitsDefault_some {hint : Hint} {default : Option Value}
    (sound : hint.admitsDefault default) : ∃ value, default = some value ∧ hint.admits value ∧
      (hint.admits .none → value = .none) := by
  unfold Hint.admitsDefault at sound
  split at sound
  · cases sound
  next => exact ⟨.none, rfl, sound, fun _ => rfl⟩
  next value other =>
    simp only [Bool.and_eq_true, Bool.not_eq_true'] at sound
    exact ⟨value, rfl, sound.1, by simp [sound.2]⟩

/-- A field that was read or has a default gets its attribute. -/
theorem Field.attribute_holds {field : Field Hint} {entries : List (Str × Json)}
    {kwargs : List (Str × Value)} (sound : field.hint.admitsDefault field.default)
    (takes : field.Takes entries (kwargs.lookup field.name)) :
    Outcome (field.Holds entries) (fun _ => False) (field.attribute kwargs) := by
  unfold Field.attribute
  unfold Field.Takes at takes
  cases found : field.present entries with
  | none =>
    obtain ⟨value, default, admitted, -⟩ := Hint.admitsDefault_some sound
    simp only [found] at takes
    simp only [takes, default]
    exact ⟨rfl, admitted, by simp [found]⟩
  | some value =>
    simp only [found] at takes
    obtain ⟨decoded, argument, good⟩ := takes
    simp only [argument]
    refine ⟨rfl, good.admitted, ?_⟩
    intro again same
    obtain rfl := Option.some.inj (found.symm.trans same)
    exact good.kept

/-- Only `null` is written back as `null`. -/
theorem Hint.keeps_null {hint : Hint} {value : Json} (kept : hint.Keeps value .null) :
    value = .null := by
  induction hint using Hint.induction with
  | str => simpa [Keeps] using kept.symm
  | bool => simpa [Keeps] using kept.symm
  | int => simpa [Keeps] using kept.symm
  | vmValue =>
    simp only [Keeps] at kept
    cases kept
  | optional item ih =>
    simp only [Keeps] at kept
    rcases kept with ⟨rfl, -⟩ | kept
    · rfl
    · exact ih kept
  | list item ih => simp [Keeps] at kept
  | dict item ih => simp [Keeps] at kept
  | dataclass shape ih =>
    obtain ⟨name, fields⟩ := shape
    simp [Keeps] at kept

theorem slots_eq {fields : List (Field Hint)} {attributes : List (FieldInfo × Value)}
    (own : List.Forall₂ (fun field slot => slot.1 = field.toFieldInfo) fields attributes) :
    attributes.map Prod.fst = fields.map Field.toFieldInfo := by
  induction own with
  | nil => rfl
  | cons head _ ih => rw [List.map_cons, List.map_cons, head, ih]

/-- The attributes of an instance are written back under the wire names of what was read. -/
theorem keepsAll_of_holds {fields : List (Field Hint)} {entries : List (Str × Json)}
    {attributes : List (FieldInfo × Value)}
    (apart : (fields.map Field.toFieldInfo).Pairwise FieldInfo.Apart)
    (held : List.Forall₂ (fun field slot => field.Holds entries slot) fields attributes) :
    Hint.KeepsAll fields entries (attributesToWire attributes) := by
  rw [Hint.keepsAll_iff]
  intro field member value found notNull
  obtain ⟨slot, inside, holds⟩ := forall₂_exists_right held member
  have kept := holds.kept value found
  have given : slot.2 ≠ .none := by
    intro omitted
    rw [omitted, shapeToWire] at kept
    exact notNull (Hint.keeps_null kept)
  refine ⟨shapeToWire slot.2, ?_, kept⟩
  rw [← slots_eq (held.imp fun field slot holds => holds.own)] at apart
  rw [← holds.own, lookup_attributesToWire apart inside, writtenAs_of_ne given]

theorem decodeShape_strict {name : Str} {fields : List (Field Hint)}
    (apart : (fields.map Field.toFieldInfo).Pairwise FieldInfo.Apart)
    (sound : ∀ field ∈ fields, field.hint.admitsDefault field.default)
    (ih : ∀ field ∈ fields, ∀ value path,
      Strict field.hint value (decodeField field.hint value path)) (value : Json) :
    Strict (.dataclass ⟨name, fields⟩) value (decodeShape ⟨name, fields⟩ value) := by
  have notObject : (∀ entries, value ≠ .obj entries) →
      ¬ (Hint.dataclass ⟨name, fields⟩).Matches value := by
    intro other matched
    cases matched with
    | dataclass all => exact other _ rfl
  simp only [decodeShape]
  cases value with
  | obj entries =>
    -- first the given fields are decoded, then the others take their defaults
    apply (decodeKwargs_strict apart ih name entries).bind
    · rintro e ⟨mismatch, field, member, value, found, bad⟩
      refine ⟨mismatch, fun matched => ?_⟩
      cases matched with
      | dataclass all => exact bad (all field member value found)
    · rintro kwargs ⟨-, each⟩
      have attributes : Outcome (List.Forall₂ (fun field slot => Field.Holds field entries slot) fields)
          (fun e => ∃ field ∈ fields, False) (fields.mapM fun field => field.attribute kwargs) :=
        Outcome.mapM fun field member => Field.attribute_holds (sound field member) (each field member)
      apply attributes.map
      · simp
      · intro attributes held
        constructor
        · apply Hint.Matches.dataclass
          intro field member value found
          have taken := each field member
          simp only [Field.Takes, found] at taken
          obtain ⟨decoded, -, good⟩ := taken
          exact good.matched
        · simp only [Hint.admits, decide_true, Bool.true_and, Hint.admitsAll_iff]
          exact held.imp fun field slot holds => ⟨holds.own, holds.admitted⟩
        · simp only [shapeToWire, Hint.Keeps]
          exact ⟨entries, attributesToWire attributes, rfl, rfl, keepsAll_of_holds apart held⟩
  | _ => exact ⟨⟨_, rfl⟩, notObject (by simp)⟩

theorem decodeField_optional (item : Hint) {value : Json} (path : Str) (given : value ≠ .null) :
    decodeField (.optional item) value path = decodeField item value path := by
  cases value with
  | null => contradiction
  | _ => simp only [decodeField]

theorem admits_optional {item : Hint} {value : Value} (admitted : item.admits value) :
    (Hint.optional item).admits value := by
  cases value with
  | none => simp only [Hint.admits]
  | _ => simpa only [Hint.admits] using admitted

section Strictness

variable {item : Hint} (ih : ∀ (value : Json) (path : Str), Strict item value (decodeField item value path))

include ih

theorem decodeOptional_strict (value : Json) (path : Str) :
    Strict (.optional item) value (decodeField (.optional item) value path) := by
  by_cases isNull : value = .null
  · obtain rfl := isNull
    simp only [decodeField]
    exact ⟨.absent item, rfl, by simp [Hint.Keeps, shapeToWire]⟩
  · rw [decodeField_optional item path isNull]
    apply (ih value path).mono
    · intro decoded good
      refine ⟨.optional good.matched, ?_, ?_⟩
      · exact admits_optional good.admitted
      · simp only [Hint.Keeps]
        exact .inr good.kept
    · rintro e ⟨mismatch, bad⟩
      refine ⟨mismatch, fun matched => ?_⟩
      cases matched with
      | absent => exact isNull rfl
      | optional inner => exact bad inner

theorem decodeList_strict (value : Json) (path : Str) :
    Strict (.list item) value (decodeField (.list item) value path) := by
  simp only [decodeField]
  cases value with
  | arr elements =>
    apply (Outcome.mapM fun element _ => ih element _).map
    · -- a list matches where its elements do
      rintro e ⟨element, member, mismatch, bad⟩
      refine ⟨mismatch, fun matched => ?_⟩
      cases matched with
      | list all => exact bad (all element member)
    · intro items held
      constructor
      · apply Hint.Matches.list
        intro element member
        obtain ⟨decoded, -, good⟩ := forall₂_exists_right held member
        exact good.matched
      · simp only [Hint.admits, List.all_eq_true]
        intro decoded member
        obtain ⟨element, -, good⟩ := forall₂_exists_left held member
        exact good.admitted
      · simp only [Hint.Keeps, shapeToWire, itemsToWire_eq_map]
        refine ⟨elements, _, rfl, rfl, List.forall₂_map_right_iff.mpr ?_⟩
        exact held.imp fun element decoded good => good.kept
  | _ => exact ⟨unexpected_isMismatch _ _ _, nofun⟩

theorem decodeDict_strict (value : Json) (path : Str) :
    Strict (.dict item) value (decodeField (.dict item) value path) := by
  simp only [decodeField]
  cases value with
  | obj entries =>
    -- an entry keeps its key, and its value is read as one of the item
    have each : ∀ entry ∈ entries,
        Outcome (fun result => entry.1 = result.1 ∧ Decoded item entry.2 result.2)
          (fun e => e.IsMismatch ∧ ¬ item.Matches entry.2)
          (do return (entry.1,
            ← decodeField item entry.2 (path ++ Str.ofString "." ++ entry.1))) := by
      intro entry _
      apply (ih entry.2 _).map
      · exact fun e failed => failed
      · exact fun decoded good => ⟨rfl, good⟩
    apply (Outcome.mapM each).map
    · rintro e ⟨entry, member, mismatch, bad⟩
      refine ⟨mismatch, fun matched => ?_⟩
      cases matched with
      | dict all => exact bad (all entry member)
    · intro results held
      constructor
      · apply Hint.Matches.dict
        intro entry member
        obtain ⟨result, -, -, good⟩ := forall₂_exists_right held member
        exact good.matched
      · simp only [Hint.admits, List.all_eq_true]
        intro result member
        obtain ⟨entry, -, -, good⟩ := forall₂_exists_left held member
        exact good.admitted
      · simp only [Hint.Keeps, shapeToWire, entriesToWire_eq_map]
        refine ⟨entries, _, rfl, rfl, List.forall₂_map_right_iff.mpr ?_⟩
        exact held.imp fun entry result good => ⟨good.1, good.2.kept⟩
  | _ => exact ⟨unexpected_isMismatch _ _ _, nofun⟩

end Strictness

/-- Decoding is strict at every type hint. -/
theorem decodeField_strict {hint : Hint} (wellFormed : hint.wellFormed) (value : Json)
    (path : Str) : Strict hint value (decodeField hint value path) := by
  -- the induction is on the annotation, as the decoder recurses along it
  induction hint using Hint.induction generalizing value path with
  | str =>
    simp only [decodeField]
    cases value with
    | str text => exact ⟨.str text, rfl, rfl⟩
    | _ => exact ⟨unexpected_isMismatch _ _ _, nofun⟩
  | bool =>
    simp only [decodeField]
    cases value with
    | bool truth => exact ⟨.bool truth, rfl, rfl⟩
    | _ => exact ⟨unexpected_isMismatch _ _ _, nofun⟩
  | int =>
    simp only [decodeField]
    cases value with
    | int number => exact ⟨.int number, rfl, rfl⟩
    | _ => exact ⟨unexpected_isMismatch _ _ _, nofun⟩
  | vmValue =>
    simp only [decodeField]
    exact ⟨.vmValue value, rfl, by simpa [Hint.Keeps, shapeToWire] using
      VmValue.normalized_toWire_fromWire value⟩
  | optional item ih =>
    simp only [Hint.wellFormed] at wellFormed
    exact decodeOptional_strict (ih wellFormed) value path
  | list item ih =>
    simp only [Hint.wellFormed] at wellFormed
    exact decodeList_strict (ih wellFormed) value path
  | dict item ih =>
    simp only [Hint.wellFormed] at wellFormed
    exact decodeDict_strict (ih wellFormed) value path
  | dataclass shape ih =>
    obtain ⟨name, fields⟩ := shape
    simp only [Hint.wellFormed, Bool.and_eq_true, decide_eq_true_eq, Hint.wellFormedAll_iff]
      at wellFormed
    obtain ⟨apart, all⟩ := wellFormed
    simp only [decodeField]
    exact decodeShape_strict apart (fun field member => (all field member).2)
      (fun field member value path => ih field member (all field member).1 value path) value

/-! ## Round trip -/

theorem shapeToWire_ne_null {value : Value} (given : value ≠ .none) : shapeToWire value ≠ .null := by
  cases value <;> simp_all [shapeToWire]

/-- The argument that an attribute is given by; `None` is left out. -/
def givenAs : Value → Option Value
  | .none => none
  | value => some value

theorem givenAs_of_ne {value : Value} (given : value ≠ .none) : givenAs value = some value := by
  cases value with
  | none => contradiction
  | _ => rfl

/-- The attribute is of its field's type, and decoding reads it back from where it was written. -/
structure Field.Rereads (field : Field Hint) (entries : List (Str × Json)) (slot : FieldInfo × Value) :
    Prop where
  own : slot.1 = field.toFieldInfo
  admitted : field.hint.admits slot.2
  found : field.present entries = writtenAs slot.2
  reread : ∀ path, decodeField field.hint (shapeToWire slot.2) path = .ok slot.2

theorem decodeKwargs_written {fields : List (Field Hint)} {entries : List (Str × Json)}
    {attributes : List (FieldInfo × Value)} (cls : Str)
    (rereads : List.Forall₂ (fun field slot => field.Rereads entries slot) fields attributes) :
    decodeKwargs cls fields entries = .ok (listed FieldInfo.name givenAs attributes) := by
  induction rereads with
  | nil => simp [decodeKwargs, listed, sparse, pure, Except.pure]
  | @cons field slot fields attributes head _ ih =>
    obtain ⟨info, hint, default⟩ := field
    obtain ⟨name, value⟩ := slot
    obtain ⟨rfl, -, found, reread⟩ := head
    simp only [decodeKwargs, found]
    by_cases omitted : value = .none
    · subst omitted
      simpa [writtenAs, listed, sparse, givenAs] using ih
    · simp only [writtenAs_of_ne omitted, reread, ih]
      simp [listed, sparse, givenAs_of_ne omitted, bind, Except.bind, pure, Except.pure]

theorem attribute_written {field : Field Hint} {entries : List (Str × Json)}
    {slot : FieldInfo × Value} {attributes : List (FieldInfo × Value)}
    (apart : (attributes.map Prod.fst).Pairwise FieldInfo.Apart) (member : slot ∈ attributes)
    (sound : field.hint.admitsDefault field.default) (rereads : field.Rereads entries slot) :
    field.attribute (listed FieldInfo.name givenAs attributes) = .ok slot := by
  have argument : (listed FieldInfo.name givenAs attributes).lookup slot.1.name = givenAs slot.2 :=
    lookup_listed ((List.pairwise_map.mp apart).imp fun names => names.1) member
  obtain ⟨info, value⟩ := slot
  obtain ⟨rfl, admitted, -, -⟩ := rereads
  simp only at argument admitted
  unfold Field.attribute
  rw [argument]
  by_cases omitted : value = .none
  · obtain ⟨default, isDefault, -, none⟩ := Hint.admitsDefault_some sound
    subst omitted
    simp [givenAs, isDefault, none admitted, pure, Except.pure]
  · simp [givenAs_of_ne omitted, pure, Except.pure]

theorem decodeShape_written {name : Str} {fields : List (Field Hint)}
    {attributes : List (FieldInfo × Value)}
    (apart : (fields.map Field.toFieldInfo).Pairwise FieldInfo.Apart)
    (sound : ∀ field ∈ fields, field.hint.admitsDefault field.default)
    (admitted : Hint.admitsAll fields attributes)
    (ih : ∀ field ∈ fields, ∀ value path, field.hint.admits value →
      decodeField field.hint (shapeToWire value) path = .ok value) :
    decodeShape ⟨name, fields⟩ (.obj (attributesToWire attributes)) = .ok (.object name attributes) := by
  have slots := Hint.admitsAll_iff.mp admitted
  have names := apart
  rw [← slots_eq (slots.imp fun field slot both => both.1)] at names
  -- each attribute went out under the name of its field, which no other field has
  have rereads : List.Forall₂ (fun field slot =>
      Field.Rereads field (attributesToWire attributes) slot) fields attributes := by
    rw [List.forall₂_iff_zip] at slots ⊢
    refine ⟨slots.1, fun {field slot} zipped => ?_⟩
    obtain ⟨fieldMember, slotMember⟩ := List.of_mem_zip zipped
    obtain ⟨own, typed⟩ := slots.2 zipped
    constructor
    · exact own
    · exact typed
    · rw [← own]
      exact present_attributesToWire names slotMember
    · exact fun path => ih field fieldMember slot.2 path typed
  simp only [decodeShape]
  refine except_bind_eq_ok.mpr ⟨_, decodeKwargs_written name rereads, ?_⟩
  refine except_bind_eq_ok.mpr ⟨attributes, mapM_eq_ok.mpr ?_, rfl⟩
  rw [List.forall₂_iff_zip] at rereads ⊢
  refine ⟨rereads.1, fun {field slot} zipped => ?_⟩
  obtain ⟨fieldMember, slotMember⟩ := List.of_mem_zip zipped
  exact attribute_written names slotMember (sound field fieldMember) (rereads.2 zipped)

/-- A value of the type comes back from what it is written as. -/
theorem decodeField_shapeToWire {hint : Hint} (wellFormed : hint.wellFormed)
    {value : Value} (admitted : hint.admits value) (path : Str) :
    decodeField hint (shapeToWire value) path = .ok value := by
  induction hint using Hint.induction generalizing value path with
  | str =>
    cases value <;> simp_all [Hint.admits, shapeToWire, decodeField, pure, Except.pure]
  | bool =>
    cases value <;> simp_all [Hint.admits, shapeToWire, decodeField, pure, Except.pure]
  | int =>
    cases value <;> simp_all [Hint.admits, shapeToWire, decodeField, pure, Except.pure]
  | vmValue =>
    cases value <;> simp_all [Hint.admits, shapeToWire, decodeField, pure, Except.pure,
      VmValue.fromWire_toWire]
  -- An absent value is written as null, which an optional field reads back before its item is asked.
  | optional item ih =>
    simp only [Hint.wellFormed] at wellFormed
    by_cases omitted : value = .none
    · subst omitted
      simp [shapeToWire, decodeField, pure, Except.pure]
    · rw [decodeField_optional item path (shapeToWire_ne_null omitted)]
      apply ih wellFormed
      cases value <;> simp_all [Hint.admits]
  | list item ih =>
    simp only [Hint.wellFormed] at wellFormed
    cases value with
    | list items =>
      simp only [Hint.admits, List.all_eq_true] at admitted
      simp only [shapeToWire, itemsToWire_eq_map, decodeField]
      refine except_bind_eq_ok.mpr ⟨items, mapM_eq_ok.mpr ?_, rfl⟩
      rw [List.forall₂_map_left_iff, List.forall₂_same]
      exact fun item member => ih wellFormed (admitted item member) _
    | _ => simp [Hint.admits] at admitted
  | dict item ih =>
    simp only [Hint.wellFormed] at wellFormed
    cases value with
    | dict entries =>
      simp only [Hint.admits, List.all_eq_true] at admitted
      simp only [shapeToWire, entriesToWire_eq_map, decodeField]
      refine except_bind_eq_ok.mpr ⟨entries, mapM_eq_ok.mpr ?_, rfl⟩
      rw [List.forall₂_map_left_iff, List.forall₂_same]
      intro entry member
      exact except_bind_eq_ok.mpr ⟨entry.2, ih wellFormed (admitted entry member) _, rfl⟩
    | _ => simp [Hint.admits] at admitted
  | dataclass shape ih =>
    obtain ⟨name, fields⟩ := shape
    simp only [Hint.wellFormed, Bool.and_eq_true, decide_eq_true_eq, Hint.wellFormedAll_iff]
      at wellFormed
    obtain ⟨apart, all⟩ := wellFormed
    cases value with
    | object cls attributes =>
      simp only [Hint.admits, Bool.and_eq_true, decide_eq_true_eq] at admitted
      obtain ⟨rfl, admitted⟩ := admitted
      simp only [shapeToWire, decodeField]
      exact decodeShape_written apart (fun field member => (all field member).2) admitted
        fun field member value path inside => ih field member (all field member).1 inside path
    | _ => simp [Hint.admits] at admitted

end PhantasmaPy.Events
