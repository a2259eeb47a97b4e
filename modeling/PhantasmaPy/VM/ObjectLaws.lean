import PhantasmaPy.VM.Object

/-! # Round trip of VM objects -/

namespace PhantasmaPy.VM

open Wire

/-! ## Tags -/

namespace VMType

theorem emits_write (type : VMType) : type.write.Emits () [type.toByte] := by
  refine emits_write1.mpr ⟨⟨by positivity, ?_⟩, ?_⟩
  · have bound := type.toByte.toNat_lt
    exact_mod_cast bound
  · rw [Int.toNat_natCast, UInt8.ofNat_toNat]

theorem read_parses (type : VMType) : read.Parses [type.toByte] type := by
  intro rest
  rw [read, Get.yields_failWith]
  exact (read1_parses _).bind_nil (Get.Parses.check (ofByte_toByte type)) rest

theorem read_consumes : read.Consumes := by
  intro bs type rest yields
  rw [read, Get.yields_failWith] at yields
  exact (read1_consumes.bind fun _ => (Get.Local.check _).steady) yields

end VMType

namespace VMObject

/-! ## The recursion equation -/

theorem readItem_shrinks {read : Reader VMObject} (shrinks : read.Shrinks)
    (items : List (VMObject × VMObject)) : (readItem read items).Shrinks :=
  shrinks.bind fun _ => shrinks.bind fun _ => (Get.Local.check _).shrinks

theorem readBool_local : readBool.Local := read1_local.bind fun _ => Get.Local.pure _

theorem readString_local : readString.Local :=
  readVarBytes_local.bind fun _ => Get.Local.check _

theorem readBigInteger_local : readBigInteger.Local :=
  readVarBytes_local.bind fun _ => Get.Local.pure _

/-- What follows the type in `readBody`, for the types without nested objects. -/
def readPlain : VMType → Reader VMObject
  | .NONE => return none
  | .BOOL => return bool (← readBool)
  | .BYTES => return bytes (← readVarBytes)
  | .ENUM => return enum (← readU8).toNat
  | .NUMBER => return number (← readBigInteger)
  | .STRING => return string (← readString)
  | .TIMESTAMP => return timestamp (← readU32LE)
  | .OBJECT => do
    let payload ← readVarBytes
    if payload.length = 35 ∧ payload.getD 0 0 = 34 then
      return object (payload.drop 1)
    else
      return bytes payload
  | .STRUCT => return struct []

theorem readPlain_shrinks (type : VMType) : (readPlain type).Shrinks := by
  cases type with
  | NONE => exact (Get.Local.pure _).shrinks
  | BOOL => exact (readBool_local.bind fun _ => Get.Local.pure _).shrinks
  | BYTES => exact (readVarBytes_local.bind fun _ => Get.Local.pure _).shrinks
  | ENUM => exact (read1_local.bind fun _ => Get.Local.pure _).shrinks
  | NUMBER => exact (readBigInteger_local.bind fun _ => Get.Local.pure _).shrinks
  | STRING => exact (readString_local.bind fun _ => Get.Local.pure _).shrinks
  | TIMESTAMP => exact ((readUnsigned_local 4).bind fun _ => Get.Local.pure _).shrinks
  | OBJECT =>
    exact (readVarBytes_local.bind fun _ => Get.Local.ite (Get.Local.pure _) (Get.Local.pure _)).shrinks
  | STRUCT => exact (Get.Local.pure _).shrinks

theorem readBody_guarded : Get.Guarded readBody where
  shrinks read shrinks _ := by
    refine (VMType.read_consumes.shrinks).bind fun type => ?_
    have plain := readPlain_shrinks type
    cases type with
    | STRUCT =>
      exact readVarUint_local.shrinks.bind fun count =>
        (Get.Shrinks.loop (readItem_shrinks (shrinks ())) _ _).bind fun _ => (Get.Local.pure _).shrinks
    | _ => exact plain
  agrees n f g shrinks _ agree _ := by
    refine Get.EqBelow.consume VMType.read_consumes fun type => ?_
    cases type with
    | STRUCT =>
      have items (acc : List (VMObject × VMObject)) :
          Get.EqBelow n (readItem (f ()) acc) (readItem (g ()) acc) :=
        (agree ()).bind (shrinks ()) fun _ => (agree ()).bind (shrinks ()) fun _ => Get.EqBelow.refl n _
      exact (Get.EqBelow.refl n readVarUint).bind readVarUint_local.shrinks fun count =>
        (Get.EqBelow.loop items (readItem_shrinks (shrinks ())) _ _).bind
          (Get.Shrinks.loop (readItem_shrinks (shrinks ())) _ _) fun _ => Get.EqBelow.refl n _
    | _ => exact Get.EqBelow.refl n _

/-- `VMObject.read` calls itself for the keys and values of a struct. -/
theorem read_eq : read = readBody (fun _ => read) () := readBody_guarded.fix_eq ()

theorem read_shrinks : read.Shrinks := readBody_guarded.fix_shrinks ()

/-! ## Dictionaries -/

theorem sameKey_iff {key other : VMObject} (hashable : key.hashable) :
    other.sameKey key = true ↔ other = key := by
  cases key <;> cases other <;> simp_all [sameKey, VMObject.hashable]

/-- A new key goes to the end. -/
theorem setItem_fresh {items : List (VMObject × VMObject)} {key value : VMObject}
    (hashable : key.hashable) (fresh : ∀ item ∈ items, item.1 ≠ key) :
    setItem items key value = .ok (items ++ [(key, value)]) := by
  unfold setItem
  rw [if_pos hashable, if_neg]
  simp only [List.any_eq_true, not_exists, not_and]
  intro item member same
  exact fresh item member ((sameKey_iff hashable).mp same)

/-- What the loop over the entries needs of them: keys that a dictionary can hold apart. -/
def DistinctKeys (items : List (VMObject × VMObject)) : Prop :=
  (∀ item ∈ items, item.1.hashable) ∧ items.Pairwise fun item other => item.1 ≠ other.1

theorem items_roundTrip {items : List (VMObject × VMObject)}
    (keys : ∀ item ∈ items, ∃ out, item.1.write.Emits () out ∧ read.Parses out item.1)
    (values : ∀ item ∈ items, ∃ out, item.2.write.Emits () out ∧ read.Parses out item.2)
    (distinct : DistinctKeys items) :
    ∃ out, (writeItems items).Emits () out ∧
      ∀ acc : List (VMObject × VMObject), (∀ old ∈ acc, ∀ item ∈ items, old.1 ≠ item.1) →
        (Get.loop (readItem read) items.length acc).Parses out (acc ++ items) := by
  induction items with
  | nil =>
    refine ⟨[], Put.emits_pure.mpr ⟨rfl, rfl⟩, fun acc _ => ?_⟩
    rw [List.append_nil]
    exact Get.Parses.pure acc
  | cons item items ih =>
    obtain ⟨key, value⟩ := item
    obtain ⟨hashable, apart⟩ := distinct
    rw [List.pairwise_cons] at apart
    obtain ⟨keyOut, keyEmits, keyParses⟩ := keys (key, value) List.mem_cons_self
    obtain ⟨valueOut, valueEmits, valueParses⟩ := values (key, value) List.mem_cons_self
    obtain ⟨out, emits, parses⟩ := ih (fun item member => keys item (List.mem_cons_of_mem _ member))
      (fun item member => values item (List.mem_cons_of_mem _ member))
      ⟨fun item member => hashable item (List.mem_cons_of_mem _ member), apart.2⟩
    refine ⟨keyOut ++ (valueOut ++ out), keyEmits.bind (valueEmits.bind emits), fun acc fresh => ?_⟩
    -- A key that is new to the dictionary goes to its end, which keeps the order of the items.
    have stored : setItem acc key value = .ok (acc ++ [(key, value)]) :=
      setItem_fresh (hashable _ List.mem_cons_self) fun old member =>
        fresh old member _ List.mem_cons_self
    have round : (readItem read acc).Parses (keyOut ++ valueOut) (acc ++ [(key, value)]) :=
      keyParses.bind (valueParses.bind_nil (Get.Parses.check stored))
    have rest := parses (acc ++ [(key, value)]) fun old member item later => by
      rcases List.mem_append.mp member with before | same
      · exact fresh old before item (List.mem_cons_of_mem _ later)
      · rw [List.mem_singleton.mp same]
        exact apart.1 item later
    have both := round.bind rest
    rwa [List.append_assoc, List.append_assoc, List.singleton_append] at both

/-! ## Round trip -/

/-- The objects that the wire format carries. -/
inductive WellFormed : VMObject → Prop where
  | none : WellFormed .none
  | bool (data : Bool) : WellFormed (.bool data)
  | bytes {data : Bytes} (storable : Storable data) : WellFormed (.bytes data)
  | enum {data : Int} (range : Unsigned 8 data) : WellFormed (.enum data)
  | number {data : Int} (storable : Storable (bigIntToVmBytes data)) : WellFormed (.number data)
  | string {data : Str} (storable : StorableText data) : WellFormed (.string data)
  | timestamp {data : Int} (range : Unsigned 32 data) : WellFormed (.timestamp data)
  | object {data : Bytes} (length : data.length = 34) : WellFormed (.object data)
  | struct {data : List (VMObject × VMObject)} (count : data.length < 2 ^ 64)
      (distinct : DistinctKeys data) (keys : ∀ item ∈ data, WellFormed item.1)
      (values : ∀ item ∈ data, WellFormed item.2) : WellFormed (.struct data)

theorem emits_byte (value : Int) (range : Unsigned 8 value) :
    (writeU8 value).Emits () [UInt8.ofNat value.toNat] := emits_write1.mpr ⟨range, rfl⟩

theorem bool_roundTrips : RoundTrips (fun _ => True) writeBool readBool := by
  rintro data -
  refine ⟨[if data then 1 else 0], ?_, ?_⟩
  · cases data with
    | false => exact emits_byte 0 (by decide)
    | true => exact emits_byte 1 (by decide)
  · have parses := (read1_parses (if data then 1 else 0)).map fun byte => decide (byte ≠ 0)
    cases data <;> exact parses

theorem roundTrips : RoundTrips WellFormed write read := by
  intro self wellFormed
  induction wellFormed with
  | none =>
    refine ⟨_, VMType.emits_write .NONE, ?_⟩
    rw [read_eq]
    exact (VMType.read_parses .NONE).bind_nil (Get.Parses.pure _)
  | bool data =>
    obtain ⟨out, emits, parses⟩ := bool_roundTrips data trivial
    refine ⟨_, (VMType.emits_write .BOOL).bind emits, ?_⟩
    rw [read_eq]
    exact (VMType.read_parses .BOOL).bind (parses.map bool)
  | bytes storable =>
    obtain ⟨out, emits, parses⟩ := varBytes_roundTrips _ storable
    refine ⟨_, (VMType.emits_write .BYTES).bind emits, ?_⟩
    rw [read_eq]
    exact (VMType.read_parses .BYTES).bind (parses.map bytes)
  | @enum data range =>
    have value : ((UInt8.ofNat data.toNat).toNat : Int) = data := by
      obtain ⟨nonneg, small⟩ := range
      rw [UInt8.toNat_ofNat', Nat.mod_eq_of_lt (by omega), Int.toNat_of_nonneg nonneg]
    refine ⟨[VMType.ENUM.toByte] ++ [UInt8.ofNat data.toNat], (VMType.emits_write .ENUM).bind ?_, ?_⟩
    · obtain ⟨nonneg, small⟩ := range
      rw [if_neg (by omega)]
      exact emits_byte data ⟨nonneg, small⟩
    · rw [read_eq]
      have parses := (read1_parses (UInt8.ofNat data.toNat)).map fun byte => enum byte.toNat
      rw [value] at parses
      exact (VMType.read_parses .ENUM).bind parses
  | number storable =>
    obtain ⟨out, emits, parses⟩ := bigInteger_roundTrips _ storable
    refine ⟨_, (VMType.emits_write .NUMBER).bind emits, ?_⟩
    rw [read_eq]
    exact (VMType.read_parses .NUMBER).bind (parses.map number)
  | string storable =>
    obtain ⟨out, emits, parses⟩ := string_roundTrips _ storable
    refine ⟨_, (VMType.emits_write .STRING).bind emits, ?_⟩
    rw [read_eq]
    exact (VMType.read_parses .STRING).bind (parses.map string)
  | timestamp range =>
    obtain ⟨out, emits, parses⟩ := unsigned_roundTrips 4 _ range
    refine ⟨_, (VMType.emits_write .TIMESTAMP).bind emits, ?_⟩
    rw [read_eq]
    exact (VMType.read_parses .TIMESTAMP).bind (parses.map timestamp)
  | @object data length =>
    -- the payload of 35 bytes starts with the length of the data, which the reader looks for
    have payload : objectPayload data = .ok (34 :: data) := by
      refine Put.bytes_eq_ok.mpr ?_
      rw [writeVarBytes, length]
      exact Put.Emits.bind (emits_byte 34 (by decide)) (emits_write.mpr rfl)
    have storable : Storable (34 :: data) := by
      unfold Storable MAX_ARRAY_SIZE
      rw [List.length_cons, length]
      decide
    obtain ⟨out, emits, parses⟩ := varBytes_roundTrips _ storable
    refine ⟨_, (VMType.emits_write .OBJECT).bind
      (Put.emits_check_bind.mpr ⟨_, payload, emits⟩), ?_⟩
    rw [read_eq]
    refine (VMType.read_parses .OBJECT).bind (parses.bind_nil ?_)
    rw [if_pos ⟨by rw [List.length_cons, length], rfl⟩]
    exact Get.Parses.pure _
  | @struct data count distinct _ _ keys values =>
    obtain ⟨out, emits, parses⟩ := items_roundTrip keys values distinct
    obtain ⟨countOut, countEmits, countParses⟩ := varUint_roundTrips data.length
      ⟨by positivity, by exact_mod_cast count⟩
    refine ⟨_, (VMType.emits_write .STRUCT).bind (countEmits.bind emits), ?_⟩
    rw [read_eq]
    refine (VMType.read_parses .STRUCT).bind (countParses.bind ?_)
    rw [Int.toNat_natCast]
    have items := parses [] (by simp)
    rw [List.nil_append] at items
    exact items.map struct

end VMObject

/-- Objects come back from the wire as they were, and nothing behind them is read. -/
theorem vmObject_roundTrip (self : VMObject) (wellFormed : self.WellFormed) :
    ∃ out, self.toBytes = .ok out ∧ VMObject.fromBytes out = .ok self ∧
      ∀ rest, VMObject.read.run (out ++ rest) = .ok (self, rest) := by
  obtain ⟨out, emits, parses⟩ := VMObject.roundTrips self wellFormed
  exact ⟨out, emits.bytes, readAll_eq_ok.mpr parses.yields, parses⟩

/-- A struct with a struct among its values. -/
def sampleObject : VMObject :=
  .struct [(.number 0, .string (Str.ofString "a")), (.number (-300), .struct [(.none, .enum 255)])]

theorem sampleObject_wellFormed : sampleObject.WellFormed := by
  refine .struct (by decide) ⟨by simp [VMObject.hashable], by simp⟩ ?_ ?_
  · simp only [List.forall_mem_cons, List.not_mem_nil, false_imp_iff, implies_true, and_true]
    exact ⟨.number (by unfold Storable; decide +kernel), .number (by unfold Storable; decide +kernel)⟩
  · simp only [List.forall_mem_cons, List.not_mem_nil, false_imp_iff, implies_true, and_true]
    refine ⟨.string ⟨[97], by decide +kernel, by unfold Storable; decide⟩,
      .struct (by decide) ⟨by simp [VMObject.hashable], by simp⟩ ?_ ?_⟩
    · simp only [List.forall_mem_cons, List.not_mem_nil, false_imp_iff, implies_true, and_true]
      exact .none
    · simp only [List.forall_mem_cons, List.not_mem_nil, false_imp_iff, implies_true, and_true]
      exact .enum (by decide)

theorem vmObject_roundTrip_sample :
    ∃ out, sampleObject.toBytes = .ok out ∧ VMObject.fromBytes out = .ok sampleObject ∧
      ∀ rest, VMObject.read.run (out ++ rest) = .ok (sampleObject, rest) :=
  vmObject_roundTrip sampleObject sampleObject_wellFormed

/-- A string with a lone surrogate has no image. -/
theorem surrogate_not_written : (VMObject.string [0xD800]).toBytes = .error .unicodeEncodeError := by
  decide +kernel

end PhantasmaPy.VM
