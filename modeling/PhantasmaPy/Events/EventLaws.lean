import PhantasmaPy.Events.ExtendedEvents
import PhantasmaPy.Events.ShapeLaws

/-! # Decoding of events

The decoders of event data and of call arguments choose a shape and are strict about it, and a decoded event
is stable when it is written and decoded again.
-/

namespace PhantasmaPy.Events

open Wire

/-! ## Tables -/

theorem mem_of_lookup {α : Type} {entries : List (Str × α)} {name : Str} {value : α}
    (found : entries.lookup name = some value) : (name, value) ∈ entries := by
  obtain ⟨before, after, rfl, -⟩ := List.lookup_eq_some_iff.mp found
  simp

/-- Entries under different names are different entries. -/
theorem distinct_of_names {α : Type} {entries : List (Str × α)} {names : List Str}
    (named : entries.map Prod.fst = names) (distinct : names.Pairwise fun left right => left ≠ right) :
    entries.Pairwise fun left right => left.1 ≠ right.1 := by
  subst named
  exact List.pairwise_map.mp distinct

theorem eventShape_wellFormed {kind : Str} {shape : Shape} (modelled : EVENT_SHAPES.lookup kind = some shape) :
    (Hint.dataclass shape).wellFormed := by
  have all : ∀ entry ∈ EVENT_SHAPES, (Hint.dataclass entry.2).wellFormed := by decide +kernel
  exact all _ (mem_of_lookup modelled)

def rawArgsKey : Str := Str.ofString "rawArgs"

/-- A shape of the table is well formed, and none of its fields is taken for a raw dump. -/
theorem argumentShape_wellFormed {module method : Str} {shape : Shape}
    (modelled : argumentShape module method = some shape) :
    (Hint.dataclass shape).wellFormed ∧ ∀ field ∈ shape.fields, field.wireName ≠ rawArgsKey := by
  have all : ∀ methods ∈ ARGUMENT_SHAPES, ∀ entry ∈ methods.2,
      (Hint.dataclass entry.2).wellFormed ∧ ∀ field ∈ entry.2.fields, field.wireName ≠ rawArgsKey := by
    decide +kernel
  unfold argumentShape at modelled
  cases found : ARGUMENT_SHAPES.lookup module with
  | none => simp [found] at modelled
  | some methods =>
    simp only [found, Option.getD_some] at modelled
    exact all _ (mem_of_lookup found) _ (mem_of_lookup modelled)

theorem rawArguments_wellFormed : (Hint.dataclass RawArguments).wellFormed := by decide +kernel

/-- The shape that is tried for arguments: that of a raw dump where its key is there, else the method's. -/
def triedShape (module method : Str) : Json → Option Shape
  | .obj entries =>
    if (entries.lookup rawArgsKey).isSome then some RawArguments else argumentShape module method
  | _ => none

theorem triedShape_wellFormed {module method : Str} {raw : Json} {shape : Shape}
    (tried : triedShape module method raw = some shape) : (Hint.dataclass shape).wellFormed := by
  cases raw with
  | obj entries =>
    simp only [triedShape] at tried
    split at tried
    · obtain rfl := Option.some.inj tried
      exact rawArguments_wellFormed
    · exact (argumentShape_wellFormed tried).1
  | _ => cases tried

/-! ## Strictness -/

/-- A shape is tried without an error, and has a value exactly where the payload matches it. -/
theorem tryShape_strict {shape : Shape} (wellFormed : (Hint.dataclass shape).wellFormed) (raw : Json) :
    (∃ value, tryShape shape raw = .ok (some value) ∧ Decoded (.dataclass shape) raw value) ∨
      (tryShape shape raw = .ok none ∧ ¬ (Hint.dataclass shape).Matches raw) := by
  have strict := decodeField_strict wellFormed raw []
  simp only [decodeField] at strict
  unfold tryShape
  cases result : decodeShape shape raw with
  | ok value =>
    rw [result] at strict
    exact .inl ⟨value, rfl, strict⟩
  | error e =>
    rw [result] at strict
    obtain ⟨⟨message, rfl⟩, bad⟩ := strict
    exact .inr ⟨rfl, bad⟩

theorem decodeEventData_of_try {kind : Str} {shape : Shape}
    (modelled : EVENT_SHAPES.lookup kind = some shape) {raw : Json} (given : raw ≠ .null)
    {result : Option Value} (tried : tryShape shape raw = .ok result) :
    decodeEventData kind raw = .ok (some (result.elim (.unknown raw) .shape)) := by
  have notResolution : kind ≠ Str.ofString "SpecialResolution" := by
    rintro rfl
    have absent : EVENT_SHAPES.lookup (Str.ofString "SpecialResolution") = none := by
      rw [List.lookup_eq_none_iff]
      simp [EVENT_SHAPES]
    rw [absent] at modelled
    cases modelled
  cases raw with
  | null => contradiction
  | _ =>
    simp only [decodeEventData, if_neg notResolution, modelled, tried]
    cases result <;> rfl

/-- The shape that the kind of an event chooses is decoded strictly. -/
theorem decodeEventData_strict {kind : Str} {shape : Shape}
    (modelled : EVENT_SHAPES.lookup kind = some shape) {raw : Json} (given : raw ≠ .null) :
    (∃ value, decodeEventData kind raw = .ok (some (.shape value)) ∧
        Decoded (.dataclass shape) raw value) ∨
      (decodeEventData kind raw = .ok (some (.unknown raw)) ∧ ¬ (Hint.dataclass shape).Matches raw) := by
  rcases tryShape_strict (eventShape_wellFormed modelled) raw with ⟨value, tried, decoded⟩ | ⟨tried, bad⟩
  · exact .inl ⟨value, decodeEventData_of_try modelled given tried, decoded⟩
  · exact .inr ⟨decodeEventData_of_try modelled given tried, bad⟩

/-- Arguments without a shape to try are kept. -/
theorem decodeArguments_untried {module method : Str} {raw : Json} (given : raw ≠ .null)
    (untried : triedShape module method raw = none) :
    decodeSpecialResolutionArguments module method raw = .ok (some (.unrecognized raw)) := by
  cases raw with
  | null => contradiction
  | obj entries =>
    unfold triedShape at untried
    by_cases dump : (entries.lookup rawArgsKey).isSome
    · simp [dump] at untried
    · have method : argumentShape module method = none := by simpa [dump] using untried
      rw [rawArgsKey] at dump
      simp only [decodeSpecialResolutionArguments, dump, method]
      rfl
  | _ => rfl

theorem decodeArguments_of_try {module method : Str} {raw : Json} {shape : Shape}
    (chosen : triedShape module method raw = some shape) {result : Option Value}
    (tried : tryShape shape raw = .ok result) :
    decodeSpecialResolutionArguments module method raw =
      .ok (some (result.elim (.unrecognized raw) .shape)) := by
  cases raw with
  | obj entries =>
    unfold triedShape at chosen
    by_cases dump : (entries.lookup rawArgsKey).isSome
    · obtain rfl : RawArguments = shape := by simpa [dump] using chosen
      rw [rawArgsKey] at dump
      simp only [decodeSpecialResolutionArguments, dump, tried]
      cases result <;> rfl
    · have method : argumentShape module method = some shape := by simpa [dump] using chosen
      rw [rawArgsKey] at dump
      simp only [decodeSpecialResolutionArguments, dump, method, tried]
      cases result <;> rfl
  | _ => cases chosen

/-- The shape that is tried for arguments is decoded strictly. -/
theorem decodeArguments_strict {module method : Str} {raw : Json} {shape : Shape}
    (chosen : triedShape module method raw = some shape) :
    (∃ value, decodeSpecialResolutionArguments module method raw = .ok (some (.shape value)) ∧
        Decoded (.dataclass shape) raw value) ∨
      (decodeSpecialResolutionArguments module method raw = .ok (some (.unrecognized raw)) ∧
        ¬ (Hint.dataclass shape).Matches raw) := by
  rcases tryShape_strict (triedShape_wellFormed chosen) raw with ⟨value, tried, decoded⟩ | ⟨tried, bad⟩
  · exact .inl ⟨value, decodeArguments_of_try chosen tried, decoded⟩
  · exact .inr ⟨decodeArguments_of_try chosen tried, bad⟩

/-- For a kind with a shape, and for all arguments, decoding raises nothing.  It gives an instance of the
    tried shape exactly where the payload matches, which then keeps what the payload held, and the payload
    itself elsewhere. -/
theorem strict_decoding :
    (∀ (kind : Str) (shape : Shape) (raw : Json), EVENT_SHAPES.lookup kind = some shape → raw ≠ .null →
      ((Hint.dataclass shape).Matches raw →
        ∃ value, decodeEventData kind raw = .ok (some (.shape value)) ∧
          (Hint.dataclass shape).admits value ∧
          (Hint.dataclass shape).Keeps raw (EventData.shape value).toWire) ∧
      (¬ (Hint.dataclass shape).Matches raw →
        decodeEventData kind raw = .ok (some (.unknown raw)))) ∧
    ∀ (module method : Str) (raw : Json), raw ≠ .null →
      (∀ shape, triedShape module method raw = some shape → (Hint.dataclass shape).Matches raw →
        ∃ value, decodeSpecialResolutionArguments module method raw = .ok (some (.shape value)) ∧
          (Hint.dataclass shape).admits value ∧
          (Hint.dataclass shape).Keeps raw (SpecialResolutionArguments.shape value).toWire) ∧
      ((∀ shape, triedShape module method raw = some shape → ¬ (Hint.dataclass shape).Matches raw) →
        decodeSpecialResolutionArguments module method raw = .ok (some (.unrecognized raw))) := by
  constructor
  · intro kind shape raw modelled given
    rcases decodeEventData_strict modelled given with ⟨value, result, decoded⟩ | ⟨result, bad⟩
    · exact ⟨fun _ => ⟨value, result, decoded.admitted, decoded.kept⟩, fun bad => absurd decoded.matched bad⟩
    · exact ⟨fun matched => absurd matched bad, fun _ => result⟩
  · intro module method raw given
    cases tried : triedShape module method raw with
    | none => exact ⟨nofun, fun _ => decodeArguments_untried given tried⟩
    | some shape =>
      rcases decodeArguments_strict tried with ⟨value, result, decoded⟩ | ⟨result, bad⟩
      · constructor
        · rintro _ ⟨⟩ _
          exact ⟨value, result, decoded.admitted, decoded.kept⟩
        · intro bad
          exact absurd decoded.matched (bad shape rfl)
      · constructor
        · rintro _ ⟨⟩ matched
          exact absurd matched bad
        · intro _
          exact result

theorem strict_decoding_balances :
    decodeEventData (Str.ofString "OrderFilled") (.arr []) = .ok (some (.unknown (.arr []))) ∧
    ∃ value, decodeSpecialResolutionArguments (Str.ofString "token") (Str.ofString "GetBalances")
        (.obj [(Str.ofString "address", .str [])]) = .ok (some (.shape value)) ∧
      (Hint.dataclass AddressArguments).admits value ∧
      (Hint.dataclass AddressArguments).Keeps (.obj [(Str.ofString "address", .str [])])
        (SpecialResolutionArguments.shape value).toWire := by
  obtain ⟨events, arguments⟩ := strict_decoding
  constructor
  · apply (events (Str.ofString "OrderFilled") MarketOrderData (.arr []) rfl nofun).2
    intro matched
    cases matched
  · apply (arguments (Str.ofString "token") (Str.ofString "GetBalances")
      (.obj [(Str.ofString "address", .str [])]) nofun).1 AddressArguments rfl
    apply Hint.Matches.dataclass
    intro field member value found
    obtain rfl : field = text "address" := List.mem_singleton.mp member
    obtain rfl : Json.str [] = value := Option.some.inj found
    exact .str []

/-! ## Decoding again -/

/-- An instance is decoded again from what it is written as. -/
theorem tryShape_shapeToWire {shape : Shape} (wellFormed : (Hint.dataclass shape).wellFormed)
    {value : Value} (admitted : (Hint.dataclass shape).admits value) :
    tryShape shape (shapeToWire value) = .ok (some value) := by
  have again := decodeField_shapeToWire wellFormed admitted []
  simp only [decodeField] at again
  simp only [tryShape, again]

theorem admits_dataclass {shape : Shape} {value : Value} (admitted : (Hint.dataclass shape).admits value) :
    ∃ attributes, value = .object shape.name attributes ∧
      attributes.map Prod.fst = shape.fields.map Field.toFieldInfo := by
  obtain ⟨name, fields⟩ := shape
  cases value with
  | object cls attributes =>
    simp only [Hint.admits, Bool.and_eq_true, decide_eq_true_eq] at admitted
    obtain ⟨rfl, slots⟩ := admitted
    exact ⟨attributes, rfl, slots_eq ((Hint.admitsAll_iff.mp slots).imp fun field slot both => both.1)⟩
  | _ => simp [Hint.admits] at admitted

/-- What an instance is written as leads to the same shape. -/
theorem triedShape_shapeToWire {module method : Str} {raw : Json} {shape : Shape} {value : Value}
    (chosen : triedShape module method raw = some shape) (decoded : Decoded (.dataclass shape) raw value) :
    triedShape module method (shapeToWire value) = some shape := by
  obtain ⟨attributes, rfl, infos⟩ := admits_dataclass decoded.admitted
  have kept := decoded.kept
  have matched := decoded.matched
  cases raw with
  | obj entries =>
    simp only [triedShape] at chosen
    -- a dump of raw arguments goes before the shape of the method
    by_cases dump : (entries.lookup rawArgsKey).isSome
    · obtain rfl : RawArguments = shape := by simpa [dump] using chosen
      obtain ⟨content, found⟩ := Option.isSome_iff_exists.mp dump
      have wireName : (text "raw_args").wireName = rawArgsKey := by decide +kernel
      have present : (text "raw_args").present entries = some content := by
        unfold FieldInfo.present
        rw [wireName, found]
      cases matched with
      | dataclass all =>
        have isText := all (text "raw_args") List.mem_cons_self content present
        obtain ⟨_, _, same, rewritten, all⟩ := kept
        obtain rfl := Json.obj.inj same
        obtain ⟨again, there, -⟩ := Hint.keepsAll_iff.mp all _ List.mem_cons_self content present
          (by rintro rfl; cases isText)
        rw [wireName] at there
        simp only [rewritten, triedShape, there]
        rfl
    · have known : argumentShape module method = some shape := by simpa [dump] using chosen
      -- no shape of a method has a field under that key
      have absent : (attributesToWire attributes).lookup rawArgsKey = none := by
        simp only [attributesToWire_eq, listed]
        apply lookup_sparse_none
        intro entry member same
        obtain ⟨slot, inside, rfl⟩ := List.mem_map.mp member
        have info : slot.1 ∈ shape.fields.map Field.toFieldInfo := infos ▸ List.mem_map_of_mem inside
        obtain ⟨field, fieldMember, own⟩ := List.mem_map.mp info
        rw [← own] at same
        exact absurd same ((argumentShape_wellFormed known).2 field fieldMember)
      simp [shapeToWire, triedShape, absent, known]
  | _ => cases chosen

/-- What `arguments` is written as; nothing is written for `None`. -/
def argumentsWire : Option SpecialResolutionArguments → Option Json
  | none => none
  | some arguments => some arguments.toWire

/-- Arguments are decoded, and decoded again from what they are written as. -/
theorem decodeArguments_again (module method : Str) (raw : Json) :
    ∃ arguments, decodeSpecialResolutionArguments module method raw = .ok arguments ∧
      decodeSpecialResolutionArguments module method ((argumentsWire arguments).getD .null) =
        .ok arguments := by
  by_cases given : raw = .null
  · subst given
    exact ⟨none, rfl, rfl⟩
  cases chosen : triedShape module method raw with
  | none =>
    have untried := decodeArguments_untried given chosen
    exact ⟨_, untried, untried⟩
  | some shape =>
    rcases decodeArguments_strict chosen with ⟨value, result, decoded⟩ | ⟨result, -⟩
    · have again := tryShape_shapeToWire (triedShape_wellFormed chosen) decoded.admitted
      exact ⟨_, result, decodeArguments_of_try (triedShape_shapeToWire chosen decoded) again⟩
    · exact ⟨_, result, result⟩

/-! ## Nested calls -/

theorem get_sparse {entries : List (Str × Option Json)}
    (distinct : entries.Pairwise fun left right => left.1 ≠ right.1) {name : Str} {value : Option Json}
    (member : (name, value) ∈ entries) : Json.get (sparse entries) name = value.getD .null := by
  unfold Json.get
  rw [lookup_sparse distinct member]

theorem get_sparse_some {entries : List (Str × Option Json)}
    (distinct : entries.Pairwise fun left right => left.1 ≠ right.1) {name : Str} {value : Json}
    (member : (name, some value) ∈ entries) : Json.get (sparse entries) name = value :=
  get_sparse distinct member

theorem callsEntry_eq (entries : List (Str × Json)) :
    callsEntry entries = wireCalls (Json.get entries (Str.ofString "calls")) := by
  induction entries with
  | nil => simp [callsEntry, Json.get, wireCalls]
  | cons entry entries ih =>
    obtain ⟨name, value⟩ := entry
    by_cases here : name = Str.ofString "calls"
    · simp [callsEntry, here, Json.get]
    · simp only [callsEntry, if_neg here, ih, Json.get]
      rw [lookup_cons_ne (Ne.symm here)]

namespace SpecialResolutionCall

/-- The entries of a call, of which the node leaves out the last two where there are none. -/
def entries (self : SpecialResolutionCall) : List (Str × Option Json) :=
  [(Str.ofString "moduleId", some (.int self.moduleId)), (Str.ofString "module", some (.str self.module)),
    (Str.ofString "methodId", some (.int self.methodId)), (Str.ofString "method", some (.str self.method)),
    (Str.ofString "arguments", argumentsWire self.arguments),
    (Str.ofString "calls", if self.calls.isEmpty then none else some (.arr (callsToWire self.calls)))]

theorem distinct_entries (self : SpecialResolutionCall) :
    self.entries.Pairwise fun left right => left.1 ≠ right.1 := by
  have names : self.entries.map Prod.fst = [Str.ofString "moduleId", Str.ofString "module",
      Str.ofString "methodId", Str.ofString "method", Str.ofString "arguments", Str.ofString "calls"] := rfl
  exact distinct_of_names names (by simp)

theorem toWire_eq (self : SpecialResolutionCall) : self.toWire = .obj (sparse self.entries) := by
  obtain ⟨moduleId, module, methodId, method, arguments, calls⟩ := self
  cases arguments <;> cases calls <;>
    simp [toWire, entries, sparse, argumentsWire, callsToWire]

/-- A call comes back whose arguments and calls do. -/
theorem fromWire_toWire {self : SpecialResolutionCall}
    (arguments : decodeSpecialResolutionArguments self.module self.method
      ((argumentsWire self.arguments).getD .null) = .ok self.arguments)
    (calls : callsFromWire (callsToWire self.calls) = .ok self.calls) :
    callFromWire self.toWire = .ok self := by
  -- An empty list of calls is left out, and a missing key is read as an empty list.
  have inner : wireCalls ((if self.calls.isEmpty then none
      else some (.arr (callsToWire self.calls)) : Option Json).getD .null) = .ok self.calls := by
    cases empty : self.calls with
    | nil => rfl
    | cons call rest =>
      rw [empty] at calls
      simpa [wireCalls] using calls
  have distinct := self.distinct_entries
  have moduleId : Json.get (sparse self.entries) (Str.ofString "moduleId") = .int self.moduleId :=
    get_sparse_some distinct (by simp [entries])
  have module : Json.get (sparse self.entries) (Str.ofString "module") = .str self.module :=
    get_sparse_some distinct (by simp [entries])
  have methodId : Json.get (sparse self.entries) (Str.ofString "methodId") = .int self.methodId :=
    get_sparse_some distinct (by simp [entries])
  have method : Json.get (sparse self.entries) (Str.ofString "method") = .str self.method :=
    get_sparse_some distinct (by simp [entries])
  have argumentsEntry := get_sparse distinct
    (show (Str.ofString "arguments", argumentsWire self.arguments) ∈ self.entries by simp [entries])
  have callsGet := get_sparse distinct
    (show (Str.ofString "calls", if self.calls.isEmpty then none
      else some (.arr (callsToWire self.calls))) ∈ self.entries by simp [entries])
  rw [toWire_eq, callFromWire]
  simp only [callsEntry_eq, moduleId, module, methodId, method, argumentsEntry, callsGet, wireStr, wireInt,
    arguments, inner]
  cases self
  rfl

/-- A call is decoded, and decoded again from what it is written as. -/
def DecodedAgain (raw : Json) : Prop :=
  ∃ call, callFromWire raw = .ok call ∧ callFromWire call.toWire = .ok call

/-- So is every call of a list. -/
def ListDecodedAgain (raw : Json) : Prop :=
  ∃ calls, wireCalls raw = .ok calls ∧ callsFromWire (callsToWire calls) = .ok calls

theorem callsFromWire_again {items : List Json} (each : ∀ item ∈ items, DecodedAgain item) :
    ListDecodedAgain (.arr items) := by
  unfold ListDecodedAgain
  simp only [wireCalls]
  induction items with
  | nil => exact ⟨[], rfl, rfl⟩
  | cons item items ih =>
    obtain ⟨head, tail⟩ := List.forall_mem_cons.mp each
    obtain ⟨call, decoded, again⟩ := head
    obtain ⟨calls, allDecoded, allAgain⟩ := ih tail
    refine ⟨call :: calls, ?_, ?_⟩
    · simp only [callsFromWire, decoded, allDecoded]
      rfl
    · simp only [callsToWire, callsFromWire, again, allAgain]
      rfl

/-- A payload that is no object is a call with every default. -/
theorem default_again : callFromWire ({} : SpecialResolutionCall).toWire = .ok {} :=
  fromWire_toWire rfl rfl

theorem callFromWire_again {entries : List (Str × Json)}
    (inner : ListDecodedAgain (Json.get entries (Str.ofString "calls"))) : DecodedAgain (.obj entries) := by
  obtain ⟨calls, decoded, again⟩ := inner
  obtain ⟨arguments, argumentsDecoded, argumentsAgain⟩ := decodeArguments_again
    (wireStr (Json.get entries (Str.ofString "module"))) (wireStr (Json.get entries (Str.ofString "method")))
    (Json.get entries (Str.ofString "arguments"))
  let call : SpecialResolutionCall := {
    moduleId := wireInt (Json.get entries (Str.ofString "moduleId"))
    module := wireStr (Json.get entries (Str.ofString "module"))
    methodId := wireInt (Json.get entries (Str.ofString "methodId"))
    method := wireStr (Json.get entries (Str.ofString "method"))
    arguments
    calls }
  have result : callFromWire (.obj entries) = .ok call := by
    rw [callFromWire, callsEntry_eq, argumentsDecoded, decoded]
    rfl
  exact ⟨call, result, fromWire_toWire argumentsAgain again⟩

/-- The nesting is followed down through the list of calls of each call. -/
theorem decodedAgain (raw : Json) : DecodedAgain raw ∧ ListDecodedAgain raw := by
  induction raw using Json.induction with
  | null => exact ⟨⟨{}, rfl, default_again⟩, [], rfl, rfl⟩
  | bool value => exact ⟨⟨{}, rfl, default_again⟩, [], rfl, rfl⟩
  | int value => exact ⟨⟨{}, rfl, default_again⟩, [], rfl, rfl⟩
  | float content => exact ⟨⟨{}, rfl, default_again⟩, [], rfl, rfl⟩
  | str content => exact ⟨⟨{}, rfl, default_again⟩, [], rfl, rfl⟩
  | arr items ih => exact ⟨⟨{}, rfl, default_again⟩, callsFromWire_again fun item member => (ih item member).1⟩
  | obj entries ih =>
    refine ⟨callFromWire_again ?_, [], rfl, rfl⟩
    unfold Json.get
    cases found : entries.lookup (Str.ofString "calls") with
    | none => exact ⟨[], rfl, rfl⟩
    | some value => exact (ih _ (mem_of_lookup found)).2

end SpecialResolutionCall

/-! ## Events -/

namespace SpecialResolutionData

def entries (self : SpecialResolutionData) : List (Str × Option Json) :=
  [(Str.ofString "resolutionId", some (.int self.resolutionId)),
    (Str.ofString "description", self.description.map .str),
    (Str.ofString "calls", some (.arr (callsToWire self.calls)))]

theorem distinct_entries (self : SpecialResolutionData) :
    self.entries.Pairwise fun left right => left.1 ≠ right.1 := by
  have names : self.entries.map Prod.fst =
      [Str.ofString "resolutionId", Str.ofString "description", Str.ofString "calls"] := rfl
  exact distinct_of_names names (by simp)

theorem toWire_eq (self : SpecialResolutionData) : self.toWire = .obj (sparse self.entries) := by
  cases description : self.description <;> simp [toWire, entries, sparse, description]

/-- The envelope of a resolution comes back when its calls do. -/
theorem fromWire_toWire {self : SpecialResolutionData}
    (calls : callsFromWire (callsToWire self.calls) = .ok self.calls) :
    fromWire self.toWire = .ok self := by
  have distinct := self.distinct_entries
  have resolutionId : Json.get (sparse self.entries) (Str.ofString "resolutionId") = .int self.resolutionId :=
    get_sparse_some distinct (by simp [entries])
  have description : Json.get (sparse self.entries) (Str.ofString "description") =
      (self.description.map .str).getD .null :=
    get_sparse distinct (by simp [entries])
  have callsGet : Json.get (sparse self.entries) (Str.ofString "calls") = .arr (callsToWire self.calls) :=
    get_sparse_some distinct (by simp [entries])
  rw [toWire_eq, fromWire]
  have kept : wireOptionalStr ((self.description.map .str).getD .null) = self.description := by
    cases self.description <;> rfl
  simp only [resolutionId, description, kept, callsGet, wireInt, wireCalls, calls]
  rfl

theorem decodedAgain (raw : Json) :
    ∃ data, fromWire raw = .ok data ∧ fromWire data.toWire = .ok data := by
  cases raw with
  | obj entries =>
    obtain ⟨calls, decoded, again⟩ :=
      (SpecialResolutionCall.decodedAgain (Json.get entries (Str.ofString "calls"))).2
    let data : SpecialResolutionData := {
      resolutionId := wireInt (Json.get entries (Str.ofString "resolutionId"))
      description := wireOptionalStr (Json.get entries (Str.ofString "description"))
      calls }
    have result : fromWire (.obj entries) = .ok data := by
      rw [fromWire, decoded]
      rfl
    exact ⟨data, result, fromWire_toWire again⟩
  | _ => exact ⟨{}, rfl, fromWire_toWire rfl⟩

end SpecialResolutionData

/-- What `data` is written as; nothing is written for `None`. -/
def dataWire : Option EventData → Option Json
  | none => none
  | some data => some data.toWire

/-- The data of an event is decoded, and decoded again from what it is written as. -/
theorem decodeEventData_again (kind : Str) (raw : Json) :
    ∃ data, decodeEventData kind raw = .ok data ∧
      decodeEventData kind ((dataWire data).getD .null) = .ok data := by
  by_cases given : raw = .null
  · subst given
    exact ⟨none, rfl, rfl⟩
  by_cases resolution : kind = Str.ofString "SpecialResolution"
  · obtain ⟨data, decoded, again⟩ := SpecialResolutionData.decodedAgain raw
    have written : data.toWire = .obj (sparse data.entries) := data.toWire_eq
    refine ⟨some (.specialResolution data), ?_, ?_⟩
    · cases raw with
      | null => contradiction
      | _ =>
        simp only [decodeEventData, if_pos resolution, decoded]
        rfl
    · simp only [dataWire, Option.getD_some, EventData.toWire]
      rw [written] at again ⊢
      simp only [decodeEventData, if_pos resolution, again]
      rfl
  · cases modelled : EVENT_SHAPES.lookup kind with
    | none =>
      -- The raw value of an unknown kind is kept and written back as it is.
      have unmodelled : decodeEventData kind raw = .ok (some (.unknown raw)) := by
        cases raw with
        | null => contradiction
        | _ => simp only [decodeEventData, if_neg resolution, modelled]; rfl
      exact ⟨_, unmodelled, unmodelled⟩
    | some shape =>
      -- Either the shape fits, and the value that it makes fits it again, or the raw value is kept.
      rcases decodeEventData_strict modelled given with ⟨value, result, decoded⟩ | ⟨result, -⟩
      · have again := tryShape_shapeToWire (eventShape_wellFormed modelled) decoded.admitted
        obtain ⟨attributes, rfl, -⟩ := admits_dataclass decoded.admitted
        exact ⟨_, result, decodeEventData_of_try modelled (by simp [shapeToWire]) again⟩
      · exact ⟨_, result, result⟩

namespace EventExResult

def entries (self : EventExResult) : List (Str × Option Json) :=
  [(Str.ofString "address", some (.str self.address)), (Str.ofString "contract", some (.str self.contract)),
    (Str.ofString "kind", some (.str self.kind)), (Str.ofString "data", dataWire self.data)]

theorem distinct_entries (self : EventExResult) :
    self.entries.Pairwise fun left right => left.1 ≠ right.1 := by
  have names : self.entries.map Prod.fst =
      [Str.ofString "address", Str.ofString "contract", Str.ofString "kind", Str.ofString "data"] := rfl
  exact distinct_of_names names (by simp)

theorem toWire_eq (self : EventExResult) : self.toWire = .obj (sparse self.entries) := by
  cases data : self.data <;> simp [toWire, entries, sparse, dataWire, data]

/-- An event comes back when its data does. -/
theorem fromWire_toWire {self : EventExResult}
    (data : decodeEventData self.kind ((dataWire self.data).getD .null) = .ok self.data) :
    fromWire self.toWire = .ok self := by
  have distinct := self.distinct_entries
  have address : Json.get (sparse self.entries) (Str.ofString "address") = .str self.address :=
    get_sparse_some distinct (by simp [entries])
  have contract : Json.get (sparse self.entries) (Str.ofString "contract") = .str self.contract :=
    get_sparse_some distinct (by simp [entries])
  have kind : Json.get (sparse self.entries) (Str.ofString "kind") = .str self.kind :=
    get_sparse_some distinct (by simp [entries])
  have dataGet : Json.get (sparse self.entries) (Str.ofString "data") = (dataWire self.data).getD .null :=
    get_sparse distinct (by simp [entries])
  rw [toWire_eq, fromWire]
  simp only [address, contract, kind, dataGet, wireStr, data]
  rfl

/-- Decoding raises nothing, and an event that is written and decoded again is the same tree. -/
theorem fromWire_toWire_fromWire (raw : Json) :
    ∃ event, fromWire raw = .ok event ∧ fromWire event.toWire = .ok event := by
  cases raw with
  | obj entries =>
    obtain ⟨data, decoded, again⟩ := decodeEventData_again
      (wireStr (Json.get entries (Str.ofString "kind"))) (Json.get entries (Str.ofString "data"))
    let event : EventExResult := {
      address := wireStr (Json.get entries (Str.ofString "address"))
      contract := wireStr (Json.get entries (Str.ofString "contract"))
      kind := wireStr (Json.get entries (Str.ofString "kind"))
      data }
    have result : fromWire (.obj entries) = .ok event := by
      rw [fromWire, decoded]
      rfl
    exact ⟨event, result, fromWire_toWire again⟩
  | _ => exact ⟨{}, rfl, fromWire_toWire rfl⟩

end EventExResult

end PhantasmaPy.Events
