import PhantasmaPy.Carbon.Canonical

/-! # Integer arrays

An array of integers declares the width of its elements and whether they are signed.  The writer does not look at
the flag but for eight bytes, and keeps the low byte of whatever it writes in one; the reader mirrors it.
-/

namespace PhantasmaPy.Carbon

open Wire CarbonWriter CarbonReader

/-! ## Ranges -/

/-- The widths of an element. -/
def IsWidth (width : Nat) : Prop := width = 1 ∨ width = 2 ∨ width = 4 ∨ width = 8

/-- The range that the width and the flag declare. -/
def Declared (width : Nat) (signed : Bool) (value : Int) : Prop :=
  if signed then Signed (8 * width) value else Unsigned (8 * width) value

/-- The declared range for writing, where both readings of a byte are in range. -/
def Writable (width : Nat) (signed : Bool) (value : Int) : Prop :=
  if width = 1 then -128 ≤ value ∧ value ≤ 255 else Declared width signed value

instance (width : Nat) (signed : Bool) (value : Int) : Decidable (Declared width signed value) :=
  inferInstanceAs (Decidable (if signed then Signed (8 * width) value else Unsigned (8 * width) value))

instance (width : Nat) (signed : Bool) (value : Int) : Decidable (Writable width signed value) :=
  inferInstanceAs (Decidable (if width = 1 then -128 ≤ value ∧ value ≤ 255 else Declared width signed value))

/-- The range that the writer takes. -/
def Taken (width : Nat) (signed : Bool) (value : Int) : Prop :=
  if width = 1 then True
  else if width = 8 ∧ signed = false then Unsigned (8 * width) value
  else Signed (8 * width) value

/-- What is read where the number was written. -/
def reading (width : Nat) (signed : Bool) (value : Int) : Int :=
  if width = 1 then (if signed then signedAt 8 value else value % 256) else value

/-! ## Elements -/

section Elements

variable {width : Nat} {signed : Bool} {value : Int}

/-- The element is written exactly when the writer's range has it. -/
theorem writeIntElement_written (isWidth : IsWidth width) :
    (∃ out, (writeIntElement width signed value).Emits () out) ↔ Taken width signed value := by
  unfold Taken
  rcases isWidth with rfl | rfl | rfl | rfl
  · simp only [if_true, iff_true]
    exact ⟨_, emits_write1.mpr ⟨⟨by omega, by omega⟩, rfl⟩⟩
  · simp [writeIntElement, write2, emits_writeSigned]
  · simp [writeIntElement, write4, emits_writeSigned]
  · cases signed
    · simp [writeIntElement, write8u, emits_writeUnsigned]
    · simp [writeIntElement, write8, emits_writeSigned]

/-- A number is refused with the codec's own error, if it can be printed. -/
theorem writeIntElement_fails (isWidth : IsWidth width) {e : PyError}
    (fails : (writeIntElement width signed value).Fails e) :
    ¬ Taken width signed value ∧ ((∃ message, e = .serializationError message) ↔ Printable value) := by
  refine ⟨fun taken => ?_, ?_⟩
  · obtain ⟨out, emits⟩ := (writeIntElement_written isWidth).mpr taken
    exact emits.not_fails fails
  · rcases isWidth with rfl | rfl | rfl | rfl
    · -- the low byte is always written
      obtain ⟨out, emits⟩ := (@writeIntElement_written 1 signed value (.inl rfl)).mpr trivial
      exact absurd fails emits.not_fails
    · exact (writeSigned_fails fails).2
    · exact (writeSigned_fails fails).2
    · cases signed
      · exact (writeUnsigned_fails fails).2
      · exact (writeSigned_fails fails).2

theorem writeIntElement_refused (isWidth : IsWidth width) (refused : ¬ Taken width signed value) :
    ∃ e, (writeIntElement width signed value).Fails e := by
  rcases Put.fails_or_emits (writeIntElement width signed value) with fails | ⟨_, out, emits⟩
  · exact fails
  · exact absurd ((writeIntElement_written isWidth).mp ⟨out, emits⟩) refused

/-- Numbers of the declared range are read back, where the writer takes them. -/
theorem intElement_roundTrips (isWidth : IsWidth width) :
    RoundTrips (fun value => Declared width signed value ∧ Taken width signed value)
      (writeIntElement width signed) (readIntElement width signed) := by
  rcases isWidth with rfl | rfl | rfl | rfl
  · cases signed
    · rintro value ⟨declared, -⟩
      have byte : 0 ≤ value ∧ value < 256 := declared
      have same : value % 256 = value := by omega
      refine ⟨[UInt8.ofNat value.toNat], ?_, (read1_parses _).bind_nil ?_⟩
      · rw [writeIntElement, same]
        exact emits_write1.mpr ⟨declared, rfl⟩
      · have back : ((UInt8.ofNat value.toNat).toNat : Int) = value := by
          rw [UInt8.toNat_ofNat', Nat.mod_eq_of_lt (by omega)]
          omega
        simp only [Bool.false_eq_true, false_and, if_false, back]
        exact Get.Parses.pure value
    · exact int8_roundTrips.mono fun value inside => inside.1
  · exact (signed_roundTrips (by decide)).mono fun value inside => by simpa [Taken] using inside.2
  · exact (signed_roundTrips (by decide)).mono fun value inside => by simpa [Taken] using inside.2
  · cases signed
    · exact (unsigned_roundTrips 8).mono fun value inside => inside.1
    · exact (signed_roundTrips (by decide)).mono fun value inside => inside.1

theorem intElement_consumes (isWidth : IsWidth width) : (readIntElement width signed).Consumes := by
  rcases isWidth with rfl | rfl | rfl | rfl
  · exact read1_consumes.bind fun _ => (Get.Local.pure _).steady
  · exact readSigned_consumes (by decide)
  · exact readSigned_consumes (by decide)
  · cases signed
    · exact readUnsigned_consumes (by decide)
    · exact readSigned_consumes (by decide)

/-- A writable number is written as its reading, which is in the declared range. -/
theorem reading_spec (writable : Writable width signed value) :
    Declared width signed (reading width signed value) ∧
      reading width signed value % 2 ^ (8 * width) = value % 2 ^ (8 * width) ∧
      writeIntElement width signed (reading width signed value) = writeIntElement width signed value := by
  unfold Writable at writable
  by_cases one : width = 1
  · subst one
    rw [if_pos rfl] at writable
    cases signed
    · -- the unsigned reading is the low byte
      have low : reading 1 false value = value % 256 := rfl
      rw [low]
      refine ⟨⟨by omega, by omega⟩, by norm_num, ?_⟩
      rw [writeIntElement, writeIntElement, Int.emod_emod_of_dvd _ (dvd_refl 256)]
    · exact ⟨signedAt_signed (by decide) (by unfold Signed Unsigned; omega), signedAt_mod 8 value,
        write1_signedAt value⟩
  · rw [if_neg one] at writable
    simp [reading, one, writable]

end Elements

/-! ## Arrays -/

/-- The writer takes exactly what is writable, refuses the rest with the codec's own error, and what it writes is
    read back modulo the width and in the declared range. -/
structure ArrayExact (width : Nat) (signed : Bool) (values : List Int) : Prop where
  written : (∃ out, serialize (writeIntArray values width signed) = .ok out) ↔
    ∀ value ∈ values, Writable width signed value
  refused : ∀ e, serialize (writeIntArray values width signed) = .error e → ∃ message, e = .serializationError message
  readBack : ∀ out, serialize (writeIntArray values width signed) = .ok out →
    ∃ read, (readIntArray width signed).Parses out read ∧
      List.Forall₂ (fun value again => again % 2 ^ (8 * width) = value % 2 ^ (8 * width) ∧ Declared width signed again)
        values read

/-- Where the writer does not take what is writable. -/
inductive RangeDefect (width : Nat) (signed : Bool) (values : List Int) : Prop
  /-- The count has no room for the number of the elements. -/
  | crowded : 2 ^ 31 ≤ values.length → (∀ value ∈ values, Writable width signed value) → RangeDefect width signed values
  /-- A number is cut to its low byte. -/
  | masked : values.length < 2 ^ 31 → width = 1 → (∃ value ∈ values, value < -128 ∨ 255 < value) →
      RangeDefect width signed values
  /-- A number of the upper half of the unsigned range is refused. -/
  | upper : values.length < 2 ^ 31 → width = 2 ∨ width = 4 → signed = false →
      (∀ value ∈ values, Unsigned (8 * width) value) → (∃ value ∈ values, 2 ^ (8 * width - 1) ≤ value) →
      RangeDefect width signed values
  /-- A negative number is written as unsigned. -/
  | negative : values.length < 2 ^ 31 → width = 2 ∨ width = 4 → signed = false →
      (∀ value ∈ values, Signed (8 * width) value) → (∃ value ∈ values, value < 0) →
      RangeDefect width signed values

/-- The first number that the writer refuses has too many digits for the message of its refusal. -/
def MessageDefect (width : Nat) (signed : Bool) (values : List Int) : Prop :=
  values.length < 2 ^ 31 ∧ ∃ before value after, values = before ++ value :: after ∧
    (∀ earlier ∈ before, Taken width signed earlier) ∧ ¬ Taken width signed value ∧ ¬ Printable value

section Arrays

variable {width : Nat} {signed : Bool} {values : List Int}

theorem writeIntArray_written (isWidth : IsWidth width) :
    (∃ out, serialize (writeIntArray values width signed) = .ok out) ↔
      values.length < 2 ^ 31 ∧ ∀ value ∈ values, Taken width signed value := by
  simp only [serialize_eq_ok, writeIntArray, writeArray_written, writeIntElement_written isWidth]

/-- What is raised for an array is the codec's own error, but where the message cannot be formed. -/
theorem writeIntArray_refused (isWidth : IsWidth width) :
    (∀ e, serialize (writeIntArray values width signed) = .error e → ∃ message, e = .serializationError message) ↔
      ¬ MessageDefect width signed values := by
  constructor
  · rintro own ⟨small, before, value, after, split, taken, refused, long⟩
    obtain ⟨e, element⟩ := writeIntElement_refused isWidth refused
    have fails : (writeIntArray values width signed).Fails e := writeArray_fails.mpr (.inr ⟨small, before, value, after,
      split, fun earlier member => (writeIntElement_written isWidth).mpr (taken earlier member), element⟩)
    exact long ((writeIntElement_fails isWidth element).2.mp (own e fails.bytes))
  · intro regular e refused
    rcases Put.fails_or_emits (writeIntArray values width signed) with ⟨e', fails⟩ | ⟨_, out, emits⟩
    · obtain rfl := Except.error.inj (fails.bytes.symm.trans refused)
      rcases writeArray_fails.mp fails with count | ⟨small, before, value, after, split, written, element⟩
      · exact writeCount_fails count
      · obtain ⟨outside, own⟩ := writeIntElement_fails isWidth element
        apply own.mpr
        by_contra long
        exact regular ⟨small, before, value, after, split,
          fun earlier member => (writeIntElement_written isWidth).mp (written earlier member), outside, long⟩
    · cases emits.bytes.symm.trans refused

/-- Writable numbers that the writer takes are read back. -/
theorem intArray_readBack (isWidth : IsWidth width) {out : Bytes}
    (written : serialize (writeIntArray values width signed) = .ok out)
    (writable : ∀ value ∈ values, Writable width signed value) :
    ∃ read, (readIntArray width signed).Parses out read ∧
      List.Forall₂ (fun value again => again % 2 ^ (8 * width) = value % 2 ^ (8 * width) ∧ Declared width signed again)
        values read := by
  obtain ⟨small, taken⟩ := (writeIntArray_written isWidth).mp ⟨out, written⟩
  -- the readings are what was written, and the codec is exact on them
  have same : writeIntArray (values.map (reading width signed)) width signed = writeIntArray values width signed := by
    unfold writeIntArray writeArray
    rw [Put.each_map, List.length_map, Put.each_congr fun value member => (reading_spec (writable value member)).2.2]
  have inside : ArrayOf (fun value => Declared width signed value ∧ Taken width signed value)
      (values.map (reading width signed)) := by
    refine ⟨by rwa [List.length_map], ?_⟩
    intro value member
    obtain ⟨original, inValues, rfl⟩ := List.mem_map.mp member
    obtain ⟨declared, -, sameElement⟩ := reading_spec (writable original inValues)
    refine ⟨declared, (writeIntElement_written isWidth).mp ?_⟩
    rw [sameElement]
    exact (writeIntElement_written isWidth).mpr (taken original inValues)
  obtain ⟨image, emits, parses⟩ :=
    array_roundTrips (intElement_roundTrips isWidth) (intElement_consumes isWidth) _ inside
  obtain ⟨-, rfl⟩ := (same ▸ emits : (writeIntArray values width signed).Emits () image).unique
    (serialize_eq_ok.mp written)
  refine ⟨_, parses, ?_⟩
  rw [List.forall₂_map_right_iff, List.forall₂_same]
  exact fun value member => ⟨(reading_spec (writable value member)).2.1, (reading_spec (writable value member)).1⟩

/-- The writer is exact where its range and the declared one agree on the array, and its refusals have a message. -/
theorem arrayExact_iff_ranges (isWidth : IsWidth width) : ArrayExact width signed values ↔
    (values.length < 2 ^ 31 ∧ (∀ value ∈ values, Taken width signed value) ↔
      ∀ value ∈ values, Writable width signed value) ∧ ¬ MessageDefect width signed values := by
  rw [← writeIntArray_written isWidth, ← writeIntArray_refused isWidth]
  constructor
  · intro exact
    exact ⟨exact.written, exact.refused⟩
  · rintro ⟨agrees, refused⟩
    exact ⟨agrees, refused, fun out written => intArray_readBack isWidth written (agrees.mp ⟨out, written⟩)⟩

/-- Two and four bytes without a sign, where the writer does not look at the flag. -/
def Narrow (width : Nat) (signed : Bool) : Prop := (width = 2 ∨ width = 4) ∧ signed = false

theorem width_cases (isWidth : IsWidth width) (signed : Bool) :
    width = 1 ∨ Narrow width signed ∨ ∀ value, Taken width signed value ↔ Writable width signed value := by
  rcases isWidth with rfl | rfl | rfl | rfl
  · exact .inl rfl
  · cases signed
    · exact .inr (.inl ⟨.inl rfl, rfl⟩)
    · exact .inr (.inr fun value => Iff.rfl)
  · cases signed
    · exact .inr (.inl ⟨.inr rfl, rfl⟩)
    · exact .inr (.inr fun value => Iff.rfl)
  · cases signed <;> exact .inr (.inr fun value => Iff.rfl)

theorem Narrow.ranges (narrow : Narrow width signed) (value : Int) :
    (Taken width signed value ↔ Signed (8 * width) value) ∧
      (Writable width signed value ↔ Unsigned (8 * width) value) := by
  obtain ⟨rfl | rfl, rfl⟩ := narrow <;> exact ⟨Iff.rfl, Iff.rfl⟩

theorem half_width (isWidth : IsWidth width) : (2 : Int) ^ (8 * width) = 2 * 2 ^ (8 * width - 1) := by
  rcases isWidth with rfl | rfl | rfl | rfl <;> norm_num

theorem RangeDefect.disagrees (defect : RangeDefect width signed values) :
    ¬ (values.length < 2 ^ 31 ∧ (∀ value ∈ values, Taken width signed value) ↔
      ∀ value ∈ values, Writable width signed value) := by
  intro agrees
  -- each kind has an element on which the writer and the declared range differ, or a count that is refused
  cases defect with
  | crowded long writable =>
    have small := (agrees.mpr writable).1
    omega
  | masked small one outside =>
    subst one
    obtain ⟨value, member, outside⟩ := outside
    have inside : -128 ≤ value ∧ value ≤ 255 := agrees.mp ⟨small, fun _ _ => trivial⟩ value member
    omega
  | upper small isNarrow unsigned writable large =>
    have narrow : Narrow width signed := ⟨isNarrow, unsigned⟩
    obtain ⟨value, member, large⟩ := large
    have taken := (agrees.mpr fun value member => (narrow.ranges value).2.mpr (writable value member)).2 value member
    have below := ((narrow.ranges value).1.mp taken).2
    omega
  | negative small isNarrow unsigned taken negative =>
    have narrow : Narrow width signed := ⟨isNarrow, unsigned⟩
    obtain ⟨value, member, negative⟩ := negative
    have writable := agrees.mp ⟨small, fun value member => (narrow.ranges value).1.mpr (taken value member)⟩ value member
    have nonneg := ((narrow.ranges value).2.mp writable).1
    omega

/-- The ranges agree but for the four kinds of defect. -/
theorem ranges_agree_iff (isWidth : IsWidth width) :
    (values.length < 2 ^ 31 ∧ (∀ value ∈ values, Taken width signed value) ↔
      ∀ value ∈ values, Writable width signed value) ↔ ¬ RangeDefect width signed values := by
  refine ⟨fun agrees defect => defect.disagrees agrees, fun regular => ⟨?_, fun writable => ?_⟩⟩
  · rintro ⟨small, taken⟩ value member
    -- one byte is masked, and two or four are written signed
    rcases width_cases isWidth signed with rfl | narrow | same
    · show -128 ≤ value ∧ value ≤ 255
      by_contra outside
      exact regular (.masked small rfl ⟨value, member, by omega⟩)
    · have inRange := fun value member => (narrow.ranges value).1.mp (taken value member)
      apply (narrow.ranges value).2.mpr
      by_contra outside
      have double := half_width isWidth
      have half := inRange value member
      refine regular (.negative small narrow.1 narrow.2 inRange ⟨value, member, ?_⟩)
      unfold Signed at half
      unfold Unsigned at outside
      omega
    · exact (same value).mp (taken value member)
  · by_cases small : values.length < 2 ^ 31
    · refine ⟨small, fun value member => ?_⟩
      rcases width_cases isWidth signed with rfl | narrow | same
      · trivial
      · have inRange := fun value member => (narrow.ranges value).2.mp (writable value member)
        apply (narrow.ranges value).1.mpr
        by_contra outside
        have whole := inRange value member
        refine regular (.upper small narrow.1 narrow.2 inRange ⟨value, member, ?_⟩)
        have positive : (0 : Int) < 2 ^ (8 * width - 1) := by positivity
        unfold Signed at outside
        unfold Unsigned at whole
        omega
      · exact (same value).mpr (writable value member)
    · exact absurd (.crowded (not_lt.mp small) writable) regular

end Arrays

/-! ## Single bytes -/

section Bytes

variable (conv : Conversions)

/-- A variable of one byte is written exactly when it is writable, and read back modulo 256 as a signed byte. -/
structure Int8Exact (schema : Option VMStructSchema) (value : Int) : Prop where
  written : (∃ out, (VMDynamicVariable.writeStatic conv ⟨.INT8, .int value⟩ .INT8 schema).bytes = .ok out) ↔
    -128 ≤ value ∧ value ≤ 255
  refused : ∀ e, (VMDynamicVariable.writeStatic conv ⟨.INT8, .int value⟩ .INT8 schema).bytes = .error e →
    ∃ message, e = .serializationError message
  readBack : ∀ out, (VMDynamicVariable.writeStatic conv ⟨.INT8, .int value⟩ .INT8 schema).bytes = .ok out →
    ∃ again, (readStatic readInline .INT8 schema).Parses out (.int again) ∧ again % 2 ^ 8 = value % 2 ^ 8 ∧ Signed 8 again

/-- A variable of one byte is written as the low byte of its number, whatever the number. -/
theorem int8_written (schema : Option VMStructSchema) (value : Int) :
    (VMDynamicVariable.writeStatic conv ⟨.INT8, .int value⟩ .INT8 schema).Emits true
      [UInt8.ofNat (value % 256).toNat] := by
  rw [VMDynamicVariable.writeStatic, if_pos rfl, writeAs_leaf conv rfl]
  have leaf : writeLeaf conv .INT8 (.int value) = write1 (value % 256) := check_bind rfl _
  rw [leaf, Put.emits_seq]
  have byte : Unsigned 8 (value % 256) := ⟨by omega, by omega⟩
  exact ⟨_, [], emits_write1.mpr ⟨byte, rfl⟩, rfl, (List.append_nil _).symm⟩

theorem int8Exact_iff (schema : Option VMStructSchema) (value : Int) :
    Int8Exact conv schema value ↔ -128 ≤ value ∧ value ≤ 255 := by
  have emits := int8_written conv schema value
  constructor
  · intro exact
    exact exact.written.mp ⟨_, emits.bytes⟩
  · intro inside
    refine ⟨⟨fun _ => inside, fun _ => ⟨_, emits.bytes⟩⟩, fun e refused => ?_, fun out written => ?_⟩
    · cases emits.bytes.symm.trans refused
    · have signed : Signed 8 (signedAt 8 value) :=
        signedAt_signed (by decide) (by unfold Signed Unsigned; omega)
      refine ⟨signedAt 8 value, ?_, signedAt_mod 8 value, signed⟩
      obtain ⟨image, byte, parses⟩ := int8_roundTrips _ signed
      have whole : Unsigned 8 (value % 256) := ⟨by omega, by omega⟩
      have low : (write1 (value % 256)).Emits () image := write1_signedAt value ▸ byte
      obtain ⟨-, rfl⟩ := low.unique (emits_write1.mpr ⟨whole, rfl⟩)
      obtain rfl := Except.ok.inj (emits.bytes.symm.trans written)
      rw [readStatic_leaf rfl]
      exact parses.map Data.int

/-- Arrays of integers are exact but for the defects, and bytes are where they are writable. -/
theorem intArray_exact_iff :
    (∀ (width : Nat) (signed : Bool) (values : List Int), IsWidth width →
      (ArrayExact width signed values ↔ ¬ RangeDefect width signed values ∧ ¬ MessageDefect width signed values)) ∧
      ∀ (schema : Option VMStructSchema) (value : Int), Int8Exact conv schema value ↔ -128 ≤ value ∧ value ≤ 255 :=
  ⟨fun _ _ _ isWidth => (arrayExact_iff_ranges isWidth).trans (and_congr_left' (ranges_agree_iff isWidth)),
    int8Exact_iff conv⟩

end Bytes

/-- Both readings of a byte in one array. -/
theorem intArray_exact_iff_bytes :
    (∃ out, serialize (writeIntArray [-128, 255] 1 true) = .ok out) ∧ ArrayExact 1 true [-128, 255] := by
  have inRange : ¬ RangeDefect 1 true [-128, 255] := by
    rintro (⟨long, -⟩ | ⟨-, -, outside⟩ | ⟨-, narrow, -⟩ | ⟨-, narrow, -⟩)
    · simp at long
    · simp at outside
    · simp at narrow
    · simp at narrow
  have unrefused : ¬ MessageDefect 1 true [-128, 255] := by
    rintro ⟨-, before, value, after, -, -, refused, -⟩
    exact refused trivial
  exact ⟨⟨_, rfl⟩, ((intArray_exact_iff Conversions.none).1 1 true [-128, 255] (.inl rfl)).mpr ⟨inRange, unrefused⟩⟩

/-- Numbers beyond a byte are cut, and the unsigned flag is not looked at for two bytes. -/
theorem intArray_truncates :
    serialize (writeIntArray [256] 1 true) = .ok [1, 0, 0, 0, 0] ∧ ¬ Writable 1 true 256 ∧
      (serialize (writeIntArray [65535] 2 false)).isOk = false ∧ Writable 2 false 65535 ∧
      serialize (writeIntArray [-1] 2 false) = .ok [1, 0, 0, 0, 255, 255] ∧ ¬ Writable 2 false (-1) := by
  decide +kernel

end PhantasmaPy.Carbon
