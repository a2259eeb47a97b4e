import PhantasmaPy.Events.EventLaws
import PhantasmaPy.Rpc.Results
import PhantasmaPy.Wire.Outcome

/-! # Decoded results

What the decoder makes of an object is an instance of the class, and the object is one that stands for it: in any
order, with entries of its own added anywhere, without those that have the default, and with the names of the
fields in either spelling.  What a node writes of an instance stands for it.
-/

namespace PhantasmaPy

open Wire

/-! ## Instances -/

/-- The value is one of the hint; of events only those that come back from their wire form. -/
inductive ResultType.Is : ResultType → ResultValue → Prop
  | null {item : ItemType} {isList : Bool} : Is ⟨item, isList, true⟩ .null
  | plain {isOptional : Bool} (value : Json) : Is ⟨.plain, false, isOptional⟩ (.plain value)
  | vmValue {isOptional : Bool} (value : Events.VmValue) : Is ⟨.vmValue, false, isOptional⟩ (.vmValue value)
  | event {isOptional : Bool} {event : Events.EventExResult}
      (again : Events.EventExResult.fromWire event.toWire = .ok event) : Is ⟨.event, false, isOptional⟩ (.event event)
  | list {item : ItemType} {isOptional : Bool} {items : List ResultValue}
      (each : ∀ value ∈ items, Is { item } value) : Is ⟨item, true, isOptional⟩ (.list items)
  | object {isOptional : Bool} {cls : ResultClass} {attributes : List (Str × ResultValue)}
      (names : attributes.map Prod.fst = cls.fields.map ResultField.name)
      (each : ∀ field slot, (field, slot) ∈ cls.fields.zip attributes → Is field.type slot.2) :
      Is ⟨.object cls, false, isOptional⟩ (.object cls attributes)

/-- The JSON value is one that stands for the decoded value. -/
inductive ResultValue.Served : ResultValue → Json → Prop
  | plain (value : Json) : Served (.plain value) value
  | vmValue {value : Events.VmValue} {raw : Json} (reads : Events.VmValue.fromWire raw = value) :
      Served (.vmValue value) raw
  | event {event : Events.EventExResult} {raw : Json} (reads : Events.EventExResult.fromWire raw = .ok event) :
      Served (.event event) raw
  | list {items : List ResultValue} {raw : Json} {raws : List Json} (listed : raw.elements = .ok raws)
      (length : items.length = raws.length)
      (each : ∀ value inner, (value, inner) ∈ items.zip raws → Served value inner) : Served (.list items) raw
  /-- What the object has for a field stands for the attribute, and a `null` for `None` where the hint has that;
      without anything, the attribute is the default. -/
  | object {cls : ResultClass} {attributes : List (Str × ResultValue)} {entries : List (Str × Json)}
      (present : ∀ field slot, (field, slot) ∈ cls.fields.zip attributes → ∀ raw,
        field.present entries = some raw → Served slot.2 raw)
      (null : ∀ field slot, (field, slot) ∈ cls.fields.zip attributes → field.type.isOptional = true →
        field.present entries = some .null → slot.2 = .null)
      (absent : ∀ field slot, (field, slot) ∈ cls.fields.zip attributes →
        field.present entries = none → slot.2 = field.default) :
      Served (.object cls attributes) (.obj entries)

/-- The names of the attributes are those of the fields, one by one. -/
theorem names_iff {fields : List ResultField} {attributes : List (Str × ResultValue)} :
    attributes.map Prod.fst = fields.map ResultField.name ↔
      List.Forall₂ (fun field slot => slot.1 = field.name) fields attributes := by
  rw [← List.forall₂_eq_eq_eq, List.forall₂_map_left_iff, List.forall₂_map_right_iff]
  exact ⟨List.Forall₂.flip, List.Forall₂.flip⟩

/-! ## Defaults -/

namespace ResultField

/-- The default is a value of the hint. -/
def Sound (self : ResultField) : Prop := self.type.Is self.default

@[simp] theorem plain_sound (name : String) (default : Json) : (plain name default).Sound := .plain default

@[simp] theorem text_sound (name : String) : (text name).Sound := plain_sound name _

@[simp] theorem amount_sound (name : String) : (amount name).Sound := plain_sound name _

@[simp] theorem number_sound (name : String) : (number name).Sound := plain_sound name _

@[simp] theorem flag_sound (name : String) : (flag name).Sound := plain_sound name _

@[simp] theorem optional_sound (name : String) (item : ItemType) : (optional name item).Sound := .null

@[simp] theorem list_sound (name : String) (item : ItemType) : (list name item).Sound := .list nofun

@[simp] theorem optionalList_sound (name : String) (item : ItemType) : (optionalList name item).Sound := .null

/-- An instance of the defaults is one of the class. -/
theorem nested_sound (name : String) {cls : ResultClass} (each : ∀ field ∈ cls.fields, field.Sound) :
    (nested name cls cls.fields).Sound := by
  refine .object ?_ ?_
  · rw [List.map_map]
    rfl
  · intro field slot member
    have pairs := @List.zip_map' _ _ _ id (fun field : ResultField => (field.name, field.default)) cls.fields
    rw [List.map_id] at pairs
    rw [pairs] at member
    obtain ⟨field', inside, same⟩ := List.mem_map.mp member
    obtain ⟨rfl, rfl⟩ := Prod.mk.inj same
    exact each field' inside

end ResultField

namespace ResultClass

open ResultField

theorem stake_sound : ∀ field ∈ StakeResult.fields, field.Sound := by simp [fields, stakeFields]

theorem storage_sound : ∀ field ∈ StorageResult.fields, field.Sound := by simp [fields, storageFields]

theorem variableSchema_sound : ∀ field ∈ VMVariableSchemaResult.fields, field.Sound := by
  simp [fields, variableSchemaFields]

theorem structSchema_sound : ∀ field ∈ VMStructSchemaResult.fields, field.Sound := by
  simp [fields, structSchemaFields]

/-- Every default is a value of the hint of its field. -/
theorem fields_sound (cls : ResultClass) : ∀ field ∈ cls.fields, field.Sound := by
  have stakes (name : String) : (nested name StakeResult stakeFields).Sound := nested_sound name stake_sound
  have storage (name : String) : (nested name StorageResult storageFields).Sound := nested_sound name storage_sound
  have schemas (name : String) : (nested name VMVariableSchemaResult variableSchemaFields).Sound :=
    nested_sound name variableSchema_sound
  have structs (name : String) : (nested name VMStructSchemaResult structSchemaFields).Sound :=
    nested_sound name structSchema_sound
  have value : ResultField.Sound ⟨Str.ofString "value", { item := .vmValue }, .vmValue (.text [])⟩ := .vmValue _
  cases cls with
  | StakeResult => exact stake_sound
  | StorageResult => exact storage_sound
  | VMVariableSchemaResult => exact variableSchema_sound
  | VMStructSchemaResult => exact structSchema_sound
  | _ => simp [fields, stakes, storage, schemas, structs, value]

end ResultClass

/-! ## Decoding -/

section Value

variable {item : ItemType} {isList isOptional : Bool} {raw : Json}

theorem decodeValue_null : decodeValue ⟨item, isList, true⟩ .null = .ok .null := by
  rw [decodeValue]
  rfl

theorem not_null (given : isOptional = true → raw ≠ .null) : (isOptional && raw.isNull) = false := by
  cases isOptional with
  | false => rfl
  | true =>
    have given := given rfl
    cases raw with
    | null => contradiction
    | _ => rfl

theorem decodeValue_item (given : isOptional = true → raw ≠ .null) :
    decodeValue ⟨item, false, isOptional⟩ raw = decodeItem item raw := by
  rw [decodeValue, not_null given]
  rfl

theorem decodeValue_list (given : isOptional = true → raw ≠ .null) :
    decodeValue ⟨item, true, isOptional⟩ raw = do
      let raws ← raw.elements
      return .list (← raws.mapM (decodeItem item)) := by
  have whole (raws : List Json) :
      (raws.attach.mapM fun raw => decodeItem item raw.val) = raws.mapM (decodeItem item) := by
    have mapped := @List.mapM_map _ _ _ _ _ _ (fun raw : { raw // raw ∈ raws } => raw.val) (decodeItem item) raws.attach
    rw [List.attach_map_subtype_val] at mapped
    exact mapped.symm
  rw [decodeValue, not_null given]
  simp only [Bool.false_eq_true, if_false, if_true]
  split
  next e failed =>
    rw [failed]
    rfl
  next raws listed =>
    rw [listed, whole]
    rfl

end Value

theorem Json.elements_arr (items : List Json) : (Json.arr items).elements = .ok items := by
  cases items <;> rfl

/-- What the loop over the fields gets for the field. -/
structure Slot (entries : List (Str × Json)) (field : ResultField) (slot : Str × ResultValue) : Prop where
  name : slot.1 = field.name
  present : ∀ raw, field.present entries = some raw → decodeValue field.type raw = .ok slot.2
  absent : field.present entries = none → slot.2 = field.default

namespace Slot

variable {entries : List (Str × Json)} {field : ResultField}

theorem ofDefault (missing : field.present entries = none) : Slot entries field (field.name, field.default) :=
  ⟨rfl, fun _ found => absurd (missing.symm.trans found) nofun, fun _ => rfl⟩

theorem ofValue {raw : Json} {value : ResultValue} (found : field.present entries = some raw)
    (decoded : decodeValue field.type raw = .ok value) : Slot entries field (field.name, value) := by
  refine ⟨rfl, fun raw' found' => ?_, fun missing => absurd (found.symm.trans missing) nofun⟩
  obtain rfl := Option.some.inj (found.symm.trans found')
  exact decoded

end Slot

/-- The decoder makes an instance of what the object has for each of the fields. -/
theorem decodeDataclass_iff {cls : ResultClass} {entries : List (Str × Json)} {value : ResultValue} :
    decodeDataclass cls (.obj entries) = .ok value ↔
      ∃ attributes, List.Forall₂ (Slot entries) cls.fields attributes ∧ value = .object cls attributes := by
  rw [decodeDataclass]
  constructor
  · intro decoded
    obtain ⟨attributes, made, same⟩ := except_bind_eq_ok.mp decoded
    refine ⟨attributes, (mapM_eq_ok.mp made).imp fun field slot made => ?_, (Except.ok.inj same).symm⟩
    split at made
    next missing =>
      obtain rfl := Except.ok.inj made
      exact .ofDefault missing
    next raw found =>
      obtain ⟨value, decoded, same⟩ := except_bind_eq_ok.mp made
      obtain rfl := Except.ok.inj same
      exact .ofValue found decoded
  · rintro ⟨attributes, slots, rfl⟩
    refine except_bind_eq_ok.mpr ⟨attributes, mapM_eq_ok.mpr (slots.imp fun field slot made => ?_), rfl⟩
    split
    next missing =>
      rw [← made.absent missing, ← made.name]
      rfl
    next raw found =>
      rw [made.present raw found, ← made.name]
      rfl

/-- The value is one of the hint, and the JSON value stands for it as such. -/
structure ReadFrom (type : ResultType) (raw : Json) (value : ResultValue) : Prop where
  is : type.Is value
  served : value.Served raw
  null : type.isOptional = true → raw = .null → value = .null

/-- What stands for an instance is read as it. -/
theorem ResultType.Is.decoded {type : ResultType} {value : ResultValue} (is : type.Is value) {raw : Json}
    (served : value.Served raw) (null : type.isOptional = true → raw = .null → value = .null) :
    decodeValue type raw = .ok value := by
  induction is generalizing raw with
  | null =>
    cases served
    exact decodeValue_null
  | @plain isOptional value =>
    cases served
    by_cases missing : isOptional = true ∧ value = .null
    · obtain ⟨rfl, rfl⟩ := missing
      exact decodeValue_null
    · rw [decodeValue_item (not_and.mp missing), decodeItem]
      rfl
  | vmValue value =>
    cases served with
    | vmValue reads =>
      rw [decodeValue_item fun optional missing => (by cases null optional missing), decodeItem, reads]
      rfl
  | event again =>
    cases served with
    | event reads =>
      rw [decodeValue_item fun optional missing => (by cases null optional missing), decodeItem, reads]
      rfl
  | @list item isOptional items each ih =>
    cases served with
    | @list _ _ raws listed length served =>
      rw [decodeValue_list fun optional missing => by cases null optional missing]
      refine except_bind_eq_ok.mpr ⟨raws, listed, except_bind_eq_ok.mpr ⟨items, ?_, rfl⟩⟩
      refine mapM_eq_ok.mpr (List.Forall₂.flip (List.forall₂_iff_zip.mpr ⟨length, fun {value raw} member => ?_⟩))
      have decoded := ih value (List.of_mem_zip member).1 (served value raw member) Bool.noConfusion
      rwa [decodeValue_item Bool.noConfusion] at decoded
  -- a field is decoded from its own entry, and takes its default where it has none
  | @object isOptional cls attributes names each ih =>
    cases served with
    | @object _ _ entries present nulls absent =>
      rw [decodeValue_item fun _ => Json.noConfusion, decodeItem]
      have named := List.forall₂_iff_zip.mp (names_iff.mp names)
      refine decodeDataclass_iff.mpr
        ⟨attributes, List.forall₂_iff_zip.mpr ⟨named.1, fun {field slot} member => ?_⟩, rfl⟩
      refine ⟨named.2 member, fun raw found => ?_, absent field slot member⟩
      refine ih field slot member (present field slot member raw found) fun optional missing => ?_
      exact nulls field slot member optional (missing ▸ found)

/-- An event that is decoded comes back from its wire form. -/
theorem event_again {raw : Json} {event : Events.EventExResult} (reads : Events.EventExResult.fromWire raw = .ok event) :
    Events.EventExResult.fromWire event.toWire = .ok event := by
  cases raw with
  | obj entries =>
    obtain ⟨data, decoded, again⟩ := Events.decodeEventData_again
      (Events.wireStr (Json.get entries (Str.ofString "kind"))) (Json.get entries (Str.ofString "data"))
    obtain ⟨data', decoded', same⟩ := except_bind_eq_ok.mp reads
    obtain rfl := Except.ok.inj (decoded.symm.trans decoded')
    obtain rfl := Except.ok.inj same
    exact Events.EventExResult.fromWire_toWire again
  | _ =>
    obtain rfl := Except.ok.inj reads
    exact Events.EventExResult.fromWire_toWire rfl

/-- One value, given what the decoder makes of the values inside of it. -/
theorem decodeItem_readFrom {item : ItemType} {isOptional : Bool} {raw : Json} {value : ResultValue}
    (below : ∀ inner : Json, inner.depth < raw.depth → ∀ type value,
      decodeValue type inner = .ok value → ReadFrom type inner value)
    (given : isOptional = true → raw ≠ .null) (decoded : decodeItem item raw = .ok value) :
    ReadFrom ⟨item, false, isOptional⟩ raw value := by
  have null (optional : isOptional = true) (missing : raw = .null) : value = .null :=
    absurd missing (given optional)
  cases item with
  | plain =>
    rw [decodeItem] at decoded
    obtain rfl := Except.ok.inj decoded
    exact ⟨.plain raw, .plain raw, null⟩
  | vmValue =>
    rw [decodeItem] at decoded
    obtain rfl := Except.ok.inj decoded
    exact ⟨.vmValue _, .vmValue rfl, null⟩
  | event =>
    rw [decodeItem] at decoded
    split at decoded
    next event reads =>
      obtain rfl := Except.ok.inj decoded
      exact ⟨.event (event_again reads), .event reads, null⟩
    next => cases decoded
  | object cls =>
    rw [decodeItem] at decoded
    cases raw with
    | obj entries =>
      obtain ⟨attributes, slots, rfl⟩ := decodeDataclass_iff.mp decoded
      obtain ⟨length, slots⟩ := List.forall₂_iff_zip.mp slots
      have names := names_iff.mpr (List.forall₂_iff_zip.mpr ⟨length, fun member => (slots member).name⟩)
      -- the entries of an object are less deep than the object
      have made {field : ResultField} {slot : Str × ResultValue} (member : (field, slot) ∈ cls.fields.zip attributes)
          {raw : Json} (found : field.present entries = some raw) : ReadFrom field.type raw slot.2 := by
        refine below raw ?_ field.type slot.2 ((slots member).present raw found)
        rw [Json.depth]
        exact Nat.lt_succ_of_le (ResultField.depth_present found)
      refine ⟨.object names fun field slot member => ?_, .object ?_ ?_ ?_, null⟩
      · cases found : field.present entries with
        | none =>
          rw [(slots member).absent found]
          exact cls.fields_sound field (List.of_mem_zip member).1
        | some raw => exact (made member found).is
      · exact fun field slot member raw found => (made member found).served
      · exact fun field slot member optional found => (made member found).null optional rfl
      · exact fun field slot member => (slots member).absent
    | _ => simp [decodeDataclass] at decoded

/-- What the decoder makes is an instance for which the value stands. -/
theorem decodeValue_readFrom {raw : Json} {type : ResultType} {value : ResultValue}
    (decoded : decodeValue type raw = .ok value) : ReadFrom type raw value := by
  -- classes nest through their fields, so that the induction is on the depth of the JSON value
  induction depth : raw.depth using Nat.strong_induction_on generalizing raw type value with
  | _ depth ih =>
    subst depth
    have below (outer : Json) (inside : outer.depth ≤ raw.depth) (inner : Json) (deeper : inner.depth < outer.depth)
        (type : ResultType) (value : ResultValue) (decoded : decodeValue type inner = .ok value) :=
      ih inner.depth (deeper.trans_le inside) decoded rfl
    obtain ⟨item, isList, isOptional⟩ := type
    by_cases missing : isOptional = true ∧ raw = .null
    · obtain ⟨rfl, rfl⟩ := missing
      rw [decodeValue_null] at decoded
      obtain rfl := Except.ok.inj decoded
      exact ⟨.null, .plain .null, fun _ _ => rfl⟩
    have given := not_and.mp missing
    cases isList with
    | false =>
      rw [decodeValue_item given] at decoded
      exact decodeItem_readFrom (below raw le_rfl) given decoded
    | true =>
      rw [decodeValue_list given] at decoded
      obtain ⟨raws, listed, decoded⟩ := except_bind_eq_ok.mp decoded
      obtain ⟨items, made, same⟩ := except_bind_eq_ok.mp decoded
      obtain rfl := Except.ok.inj same
      have pairs := mapM_eq_ok.mp made
      have each {inner : Json} {value : ResultValue} (inside : inner ∈ raws)
          (decoded : decodeItem item inner = .ok value) : ReadFrom { item } inner value :=
        decodeItem_readFrom (below inner (Json.depth_element listed inside)) nofun decoded
      refine ⟨.list fun value member => ?_, .list listed pairs.length_eq.symm fun value inner member => ?_,
        fun optional missing => absurd missing (given optional)⟩
      · obtain ⟨inner, inside, decoded⟩ := forall₂_exists_left pairs member
        exact (each inside decoded).is
      · have decoded := (List.forall₂_iff_zip.mp pairs.flip).2 member
        exact (each (List.of_mem_zip member).2 decoded).served

/-! ## Writing -/

namespace ResultValue

mutual

/-- What a node writes of the value, with the names of the wire. -/
def toWire : ResultValue → Json
  | .plain value => value
  | .vmValue content => content.toWire
  | .event data => data.toWire
  | .list items => .arr (itemsToWire items)
  | .object _ attributes => .obj (attributesToWire attributes)

def itemsToWire : List ResultValue → List Json
  | [] => []
  | item :: items => item.toWire :: itemsToWire items

def attributesToWire : List (Str × ResultValue) → List (Str × Json)
  | [] => []
  | (name, value) :: attributes => (Events.snakeToCamel name, value.toWire) :: attributesToWire attributes

end

theorem itemsToWire_eq (items : List ResultValue) : itemsToWire items = items.map toWire := by
  induction items with
  | nil => rfl
  | cons item items ih => rw [itemsToWire, List.map_cons, ih]

/-- The entry that is written of an attribute. -/
def entry (slot : Str × ResultValue) : Str × Json := (Events.snakeToCamel slot.1, slot.2.toWire)

theorem attributesToWire_eq (attributes : List (Str × ResultValue)) :
    attributesToWire attributes = attributes.map entry := by
  induction attributes with
  | nil => rfl
  | cons slot attributes ih =>
    rw [attributesToWire, List.map_cons, ih]
    rfl

/-- Only `None` is written as a `null`. -/
theorem toWire_null {value : ResultValue} (null : value.toWire = .null) : value = .null := by
  cases value with
  | plain value => exact congrArg ResultValue.plain null
  | vmValue content => exact absurd null content.toWire_ne_null
  | event data => cases null
  | list items => cases null
  | object cls attributes => cases null

end ResultValue

/-- The names of the field in an object. -/
def ResultField.spellings (self : ResultField) : List Str :=
  if self.wireKey = self.name then [self.name] else [self.name, self.wireKey]

theorem ResultField.mem_spellings {self : ResultField} {key : Str} :
    key ∈ self.spellings ↔ key = self.name ∨ key = self.wireKey := by
  unfold spellings
  split
  next same => simp [same]
  next => simp

namespace ResultClass

/-- No two fields of a class share a spelling. -/
theorem spellings_apart (cls : ResultClass) : (cls.fields.flatMap ResultField.spellings).Nodup := by
  cases cls <;> decide +kernel

variable {cls : ResultClass} {field other : ResultField}

theorem disjoint_spellings (member : field ∈ cls.fields) (otherMember : other ∈ cls.fields) (apart : field ≠ other) :
    field.spellings.Disjoint other.spellings := by
  have symmetric : Std.Symm (Function.onFun List.Disjoint ResultField.spellings) := ⟨fun _ _ => List.Disjoint.symm⟩
  exact (List.nodup_flatMap.mp cls.spellings_apart).2.forall member otherMember apart

/-- An object has a value for a field under its names only. -/
theorem eq_of_spelling (member : field ∈ cls.fields) (otherMember : other ∈ cls.fields) {key : Str}
    (own : key ∈ field.spellings) (others : key ∈ other.spellings) : field = other := by
  by_contra apart
  exact disjoint_spellings member otherMember apart own others

theorem names_nodup (cls : ResultClass) : (cls.fields.map ResultField.name).Nodup := by
  refine List.pairwise_map.mpr ((List.nodup_flatMap.mp cls.spellings_apart).2.imp fun disjoint same => ?_)
  exact disjoint (ResultField.mem_spellings.mpr (.inl rfl)) (ResultField.mem_spellings.mpr (.inl same))

end ResultClass

/-- The object of an instance has the written attributes for the fields, under the names of the wire. -/
theorem present_written {cls : ResultClass} {attributes : List (Str × ResultValue)}
    (names : attributes.map Prod.fst = cls.fields.map ResultField.name) {field : ResultField}
    {slot : Str × ResultValue} (member : (field, slot) ∈ cls.fields.zip attributes) :
    field.present (attributes.map ResultValue.entry) = some slot.2.toWire := by
  obtain ⟨length, named⟩ := List.forall₂_iff_zip.mp (names_iff.mp names)
  obtain ⟨inFields, inAttributes⟩ := List.of_mem_zip member
  -- an entry under a name of the field is that of its own attribute
  have own {key : Str} {raw : Json} (spells : key ∈ field.spellings)
      (found : (attributes.map ResultValue.entry).lookup key = some raw) : raw = slot.2.toWire := by
    obtain ⟨slot', inside, same⟩ := List.mem_map.mp (Events.mem_of_lookup found)
    obtain ⟨rfl, rfl⟩ := Prod.mk.inj same
    obtain ⟨other, otherMember, otherNamed⟩ := forall₂_exists_left (names_iff.mp names) inside
    have wired : Events.snakeToCamel slot'.1 = other.wireKey := congrArg Events.snakeToCamel otherNamed
    obtain rfl := ResultClass.eq_of_spelling inFields otherMember spells
      (wired ▸ ResultField.mem_spellings.mpr (.inr rfl))
    have distinct : (attributes.map Prod.fst).Nodup := names ▸ cls.names_nodup
    rw [List.inj_on_of_nodup_map distinct inside inAttributes (otherNamed.trans (named member).symm)]
  unfold ResultField.present
  cases first : (attributes.map ResultValue.entry).lookup field.name with
  | some raw => rw [own (ResultField.mem_spellings.mpr (.inl rfl)) first]
  | none =>
    cases second : (attributes.map ResultValue.entry).lookup field.wireKey with
    | some raw => exact congrArg some (own (ResultField.mem_spellings.mpr (.inr rfl)) second)
    | none =>
      have listed := List.lookup_eq_none_iff.mp second _ (List.mem_map_of_mem inAttributes)
      have key : Events.snakeToCamel slot.1 = field.wireKey := congrArg Events.snakeToCamel (named member)
      exact absurd listed (by simp [ResultValue.entry, key])

/-- What a node writes of an instance stands for it. -/
theorem ResultType.Is.served {type : ResultType} {value : ResultValue} (is : type.Is value) :
    value.Served value.toWire := by
  -- what is written is read entry by entry, since no two fields share a name
  induction is with
  | null => exact .plain .null
  | plain value => exact .plain value
  | vmValue value => exact .vmValue value.fromWire_toWire
  | event again => exact .event again
  | @list item isOptional items each ih =>
    rw [ResultValue.toWire, ResultValue.itemsToWire_eq]
    refine .list (Json.elements_arr _) (List.length_map _).symm fun value raw member => ?_
    have pairs := @List.zip_map' _ _ _ id ResultValue.toWire items
    rw [List.map_id] at pairs
    rw [pairs] at member
    obtain ⟨item, inside, same⟩ := List.mem_map.mp member
    obtain ⟨rfl, rfl⟩ := Prod.mk.inj same
    exact ih item inside
  | @object isOptional cls attributes names each ih =>
    rw [ResultValue.toWire, ResultValue.attributesToWire_eq]
    refine .object (fun field slot member raw found => ?_) (fun field slot member _ found => ?_)
      fun field slot member missing => ?_
    · obtain rfl := Option.some.inj ((present_written names member).symm.trans found)
      exact ih field slot member
    · exact ResultValue.toWire_null (Option.some.inj ((present_written names member).symm.trans found))
    · cases (present_written names member).symm.trans missing

/-- What a node writes of an instance is read as it. -/
theorem ResultType.Is.again {type : ResultType} {value : ResultValue} (is : type.Is value) :
    decodeValue type value.toWire = .ok value :=
  is.decoded is.served fun _ => ResultValue.toWire_null

theorem decodeValue_iff {type : ResultType} {raw : Json} {value : ResultValue} :
    decodeValue type raw = .ok value ↔ ReadFrom type raw value :=
  ⟨decodeValue_readFrom, fun read => read.is.decoded read.served read.null⟩

end PhantasmaPy
