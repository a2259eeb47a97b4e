import PhantasmaPy.Carbon.Stream

/-! # Laws of the Carbon primitives

For each primitive: what its writer emits and when it refuses, that its reader recognises exactly
that, that the reader is local, and that the writer restores what the reader consumed.
-/

namespace PhantasmaPy.Carbon

open Wire CarbonWriter CarbonReader

/-! ## Lengths and arrays -/

theorem yields_readLength {bs rest : Bytes} {count : Nat} :
    readLength.Yields bs count rest ↔
      read4.Yields bs count rest ∧ count ≤ rest.length := by
  unfold readLength
  constructor
  · intro yields
    obtain ⟨length, mid, head, yields⟩ := Get.yields_bind.mp yields
    -- a negative count is refused, and so is one of more elements than bytes are left
    split at yields
    next => exact absurd yields Get.yields_throw
    next nonneg =>
      obtain ⟨left, mid', remaining, yields⟩ := Get.yields_bind.mp yields
      obtain ⟨rfl, rfl⟩ := Get.yields_remaining.mp remaining
      split at yields
      next => exact absurd yields Get.yields_throw
      next within =>
        obtain ⟨rfl, rfl⟩ := Get.yields_pure.mp yields
        have cast : ((length.toNat : Nat) : Int) = length := Int.toNat_of_nonneg (not_lt.mp nonneg)
        rw [cast]
        exact ⟨head, by omega⟩
  · rintro ⟨head, within⟩
    refine Get.yields_bind.mpr ⟨count, rest, head, ?_⟩
    rw [if_neg (by omega)]
    refine Get.yields_bind.mpr ⟨rest.length, rest, Get.yields_remaining.mpr ⟨rfl, rfl⟩, ?_⟩
    rw [if_neg (by omega)]
    simp

theorem read4_steady : read4.Steady := (readSigned_local 4).steady

theorem readLength_steady : readLength.Steady where
  suffix bs count rest yields := read4_steady.suffix (yields_readLength.mp yields).1
  extend bs count rest yields more := by
    obtain ⟨head, within⟩ := yields_readLength.mp yields
    refine yields_readLength.mpr ⟨read4_steady.extend head more, ?_⟩
    rw [List.length_append]
    omega

theorem readLength_consumes : readLength.Consumes := by
  intro bs count rest yields
  exact readSigned_consumes (by decide) (yields_readLength.mp yields).1

/-- A count in range in front of at least as many bytes. -/
theorem readLength_yields {count : Nat} (small : count < 2 ^ 31) {bs : Bytes}
    (enough : count ≤ bs.length) : readLength.Yields (intToLE 4 count ++ bs) count bs := by
  have signed : Signed (8 * 4) (count : Int) := by
    unfold Signed
    norm_num
    omega
  obtain ⟨out, emits, parses⟩ := signed_roundTrips (show 0 < 4 by decide) count signed
  obtain ⟨_, rfl⟩ := emits_writeSigned.mp emits
  exact yields_readLength.mpr ⟨parses bs, enough⟩

/-! ## Whole images -/

theorem deserialize_eq_ok {α : Type} {reader : CarbonReader α} {data : Bytes} {value : α} :
    deserialize reader data = .ok value ↔ reader.Yields data value [] := readAll_eq_ok

theorem serialize_eq_ok {writer : CarbonWriter Unit} {out : Bytes} :
    serialize writer = .ok out ↔ writer.Emits () out := Put.bytes_eq_ok

/-! ## Counted arrays -/

section Arrays

variable {α : Type} {domain : α → Prop} {item : α → CarbonWriter Unit} {reader : CarbonReader α}

/-- The domain of a counted array. -/
def ArrayOf (domain : α → Prop) (xs : List α) : Prop := xs.length < 2 ^ 31 ∧ ∀ x ∈ xs, domain x

theorem emits_count {count : Nat} {out : Bytes} :
    (writeCount count).Emits () out ↔ count < 2 ^ 31 ∧ out = intToLE 4 count := by
  unfold writeCount
  split
  next small =>
    unfold write4
    rw [emits_writeSigned]
    refine and_congr_left fun _ => ?_
    unfold Signed
    norm_num
  next long => simp only [Put.emits_throw, long, false_and]

/-- A count is written as any number is. -/
theorem emits_writeCount {count : Nat} {out : Bytes} :
    (writeCount count).Emits () out ↔ (write4 count).Emits () out := by
  rw [emits_count, write4, emits_writeSigned]
  refine and_congr_left fun _ => ?_
  unfold Signed
  norm_num

/-- A count that was read is written back. -/
theorem count_restores {bs rest : Bytes} {count : Nat} (yields : readLength.Yields bs count rest) :
    ∃ out, bs = out ++ rest ∧ (writeCount count).Emits () out := by
  obtain ⟨out, rfl, emits⟩ := signed_restores (by decide) (yields_readLength.mp yields).1
  exact ⟨out, rfl, emits_writeCount.mpr emits⟩

theorem writeCount_fails {count : Nat} {e : PyError} (fails : (writeCount count).Fails e) :
    ∃ message, e = .serializationError message := by
  unfold writeCount at fails
  split at fails
  next small => exact absurd fails (emits_writeSigned.mpr ⟨by unfold Signed; omega, rfl⟩).not_fails
  next => exact ⟨_, (Put.fails_throw.mp fails).symm⟩

/-- An array is written when its count fits and each of its elements is written. -/
theorem writeArray_written {xs : List α} : (∃ out, (writeArray item xs).Emits () out) ↔
    xs.length < 2 ^ 31 ∧ ∀ x ∈ xs, ∃ out, (item x).Emits () out := by
  constructor
  · rintro ⟨out, emits⟩
    obtain ⟨_, _, count, each, -⟩ := Put.emits_seq.mp emits
    exact ⟨(emits_count.mp count).1, Put.emits_each_mem each⟩
  · rintro ⟨small, each⟩
    obtain ⟨out, written⟩ := Put.emits_each_exists each
    exact ⟨_, (emits_count.mpr ⟨small, rfl⟩).bind written⟩

/-- An array is refused for its count or for the first of its elements that is refused. -/
theorem writeArray_fails {xs : List α} {e : PyError} : (writeArray item xs).Fails e ↔
    (writeCount xs.length).Fails e ∨ xs.length < 2 ^ 31 ∧ ∃ before x after, xs = before ++ x :: after ∧
      (∀ y ∈ before, ∃ out, (item y).Emits () out) ∧ (item x).Fails e := by
  rw [writeArray, Put.fails_bind]
  refine or_congr_right ?_
  constructor
  · rintro ⟨_, out, count, each⟩
    exact ⟨(emits_count.mp count).1, Put.fails_each.mp each⟩
  · rintro ⟨small, each⟩
    exact ⟨(), _, emits_count.mpr ⟨small, rfl⟩, Put.fails_each.mpr each⟩

theorem array_roundTrips (roundTrips : RoundTrips domain item reader) (consumes : reader.Consumes) :
    RoundTrips (ArrayOf domain) (writeArray item) (readArray reader) := by
  rintro xs ⟨small, inside⟩
  obtain ⟨out, written, parses, bound⟩ := roundTrips.each inside
  refine ⟨intToLE 4 xs.length ++ out, (emits_count.mpr ⟨small, rfl⟩).bind written, fun rest => ?_⟩
  rw [List.append_assoc]
  refine Get.yields_bind.mpr ⟨xs.length, out ++ rest, readLength_yields small ?_, parses rest⟩
  have length := bound consumes
  rw [List.length_append]
  omega

theorem array_restores (restores : Restores item reader) :
    Restores (writeArray item) (readArray reader) := by
  intro bs xs rest yields
  obtain ⟨count, mid, head, items⟩ := Get.yields_bind.mp yields
  obtain ⟨out, rfl, emits⟩ := count_restores head
  obtain ⟨rfl, out', rfl, emits'⟩ := restores.times items
  exact ⟨out ++ out', by rw [List.append_assoc], Put.Emits.bind emits emits'⟩

theorem array_steady (steady : reader.Steady) : (readArray reader).Steady :=
  readLength_steady.bind fun _ => steady.times _

theorem array_local (isLocal : reader.Local) (consumes : reader.Consumes) :
    (readArray reader).Local := by
  intro bs xs rest yields
  obtain ⟨count, mid, head, items⟩ := Get.yields_bind.mp yields
  obtain ⟨header, within⟩ := yields_readLength.mp head
  obtain ⟨front, rfl, parsesFront⟩ := readSigned_local 4 header
  obtain ⟨out, rfl, parses⟩ := isLocal.times count items
  refine ⟨front ++ out, by rw [List.append_assoc], fun more => ?_⟩
  rw [List.append_assoc]
  refine Get.yields_bind.mpr ⟨count, out ++ more, ?_, parses more⟩
  refine yields_readLength.mpr ⟨parsesFront _, ?_⟩
  have bound := consumes.length_le_times parses.yields
  rw [List.length_append]
  omega

theorem array_consumes (steady : reader.Steady) : (readArray reader).Consumes :=
  readLength_consumes.bind fun _ => steady.times _

end Arrays

/-! ## Fixed-width bytes -/

theorem FixedBytes.new_raw {size : Nat} (value : FixedBytes size) :
    FixedBytes.new size value.raw = .ok value := by
  have length := value.length_eq
  unfold FixedBytes.new
  rw [if_neg (by omega), dif_pos length]

theorem FixedBytes.new_eq_ok {size : Nat} {raw : Bytes} {value : FixedBytes size}
    (length : raw.length = size) : FixedBytes.new size raw = .ok value ↔ value.raw = raw := by
  have same := FixedBytes.new_raw ⟨raw, length⟩
  rw [same]
  constructor
  · intro equal
    cases equal
    rfl
  · rintro rfl
    rfl

theorem readFixed_local (size : Nat) : (readFixed size).Local :=
  (read_local _).bind fun _ => Get.Local.check _

theorem readFixed_parses {size : Nat} (value : FixedBytes size) :
    (readFixed size).Parses value.raw value :=
  (read_parses (by rw [value.length_eq])).bind_nil (Get.Parses.check value.new_raw)

theorem readFixed_consumes {size : Nat} (positive : 0 < size) : (readFixed size).Consumes :=
  (read_consumes (by exact_mod_cast positive)).bind fun _ => (Get.Local.check _).steady

theorem fixed_roundTrips (size : Nat) :
    RoundTrips (fun _ => True) (fun value : FixedBytes size => write value.raw) (readFixed size) :=
  fun value _ => ⟨value.raw, emits_write.mpr rfl, readFixed_parses value⟩

theorem fixed_restores (size : Nat) :
    Restores (fun value : FixedBytes size => write value.raw) (readFixed size) := by
  intro bs value rest yields
  obtain ⟨raw, mid, head, tail⟩ := Get.yields_bind.mp yields
  obtain ⟨built, rfl⟩ := Get.yields_check.mp tail
  obtain ⟨length, rfl⟩ := yields_readExact head
  have raw_eq := (FixedBytes.new_eq_ok (by exact_mod_cast length)).mp built
  exact ⟨raw, rfl, emits_write.mpr raw_eq.symm⟩

/-! ## Byte strings and texts -/

/-- A length that the four-byte prefix can carry. -/
def ShortBytes (data : Bytes) : Prop := data.length < 2 ^ 31

theorem emits_writeByteArray {data out : Bytes} :
    (writeByteArray data).Emits () out ↔
      ShortBytes data ∧ out = intToLE 4 data.length ++ data := by
  unfold writeByteArray
  rw [Put.emits_seq]
  simp only [emits_count, emits_write]
  constructor
  · rintro ⟨_, _, ⟨short, rfl⟩, rfl, rfl⟩
    exact ⟨short, rfl⟩
  · rintro ⟨short, rfl⟩
    exact ⟨_, _, ⟨short, rfl⟩, rfl, rfl⟩

theorem readByteArray_parses {data : Bytes} (short : ShortBytes data) :
    readByteArray.Parses (intToLE 4 data.length ++ data) data := by
  intro rest
  rw [List.append_assoc]
  exact Get.yields_bind.mpr ⟨data.length, data ++ rest,
    readLength_yields short (by rw [List.length_append]; omega), read_parses rfl rest⟩

theorem byteArray_roundTrips : RoundTrips ShortBytes writeByteArray readByteArray :=
  fun _ short => ⟨_, emits_writeByteArray.mpr ⟨short, rfl⟩, readByteArray_parses short⟩

/-- What a successful read of a byte array consumed. -/
theorem yields_readByteArray {bs data rest : Bytes} (yields : readByteArray.Yields bs data rest) :
    ShortBytes data ∧ bs = (intToLE 4 data.length ++ data) ++ rest := by
  obtain ⟨count, mid, head, tail⟩ := Get.yields_bind.mp yields
  obtain ⟨out, rfl, emits⟩ := count_restores head
  obtain ⟨small, rfl⟩ := emits_count.mp emits
  obtain ⟨length, rfl⟩ := yields_readExact tail
  obtain rfl : data.length = count := by exact_mod_cast length
  exact ⟨small, by rw [List.append_assoc]⟩

theorem byteArray_restores : Restores writeByteArray readByteArray := by
  intro bs data rest yields
  obtain ⟨short, equal⟩ := yields_readByteArray yields
  exact ⟨_, equal, emits_writeByteArray.mpr ⟨short, rfl⟩⟩

theorem readByteArray_local : readByteArray.Local := by
  intro bs data rest yields
  obtain ⟨short, equal⟩ := yields_readByteArray yields
  exact ⟨_, equal, readByteArray_parses short⟩

theorem readByteArray_consumes : readByteArray.Consumes :=
  readLength_consumes.bind fun _ => (read_local _).steady

/-- A text that the zero-terminated form can carry. -/
def ZeroFree (text : Str) : Prop := 0 ∉ text ∧ ∃ raw, encodeText text = .ok raw

theorem splitAtZero_eq_some {bs raw rest : Bytes} :
    splitAtZero bs = some (raw, rest) ↔ 0 ∉ raw ∧ bs = raw ++ 0 :: rest := by
  induction bs generalizing raw with
  | nil => simp [splitAtZero]
  | cons b bs ih =>
    unfold splitAtZero
    -- the first zero ends the text
    by_cases zero : b = 0
    · subst zero
      rw [if_pos rfl]
      cases raw with
      | nil => simp [eq_comm]
      | cons c raw => simp +contextual [eq_comm]
    · rw [if_neg zero]
      simp only [Option.map_eq_some_iff, Prod.exists]
      cases raw with
      | nil => simp [zero]
      | cons c raw =>
        simp only [Prod.mk.injEq, List.cons.injEq, List.cons_append, List.mem_cons, not_or]
        constructor
        · rintro ⟨raw', rest', found, ⟨rfl, rfl⟩, rfl⟩
          obtain ⟨free, rfl⟩ := ih.mp found
          exact ⟨⟨Ne.symm zero, free⟩, rfl, rfl⟩
        · rintro ⟨⟨_, free⟩, rfl, rfl⟩
          exact ⟨raw, rest, ih.mpr ⟨free, rfl⟩, ⟨rfl, rfl⟩, rfl⟩

theorem yields_readZeroTerminated {bs raw rest : Bytes} :
    readZeroTerminated.Yields bs raw rest ↔ 0 ∉ raw ∧ bs = raw ++ 0 :: rest := by
  rw [← splitAtZero_eq_some]
  unfold Get.Yields readZeroTerminated
  simp only [StateT.run_bind, StateT.run_get, pure_bind]
  cases split : splitAtZero bs with
  | none =>
    constructor
    · intro yields
      cases yields
    · intro found
      cases found
  | some result =>
    constructor
    · intro yields
      cases yields
      rfl
    · intro found
      cases found
      rfl

theorem readZeroTerminated_parses {raw : Bytes} (free : 0 ∉ raw) :
    readZeroTerminated.Parses (raw ++ [0]) raw := by
  intro rest
  rw [yields_readZeroTerminated]
  exact ⟨free, by rw [List.append_assoc]; rfl⟩

theorem readZeroTerminated_local : readZeroTerminated.Local := by
  intro bs raw rest yields
  obtain ⟨free, rfl⟩ := yields_readZeroTerminated.mp yields
  exact ⟨raw ++ [0], by rw [List.append_assoc]; rfl, readZeroTerminated_parses free⟩

theorem readZeroTerminated_consumes : readZeroTerminated.Consumes := by
  intro bs raw rest yields
  obtain ⟨_, rfl⟩ := yields_readZeroTerminated.mp yields
  rw [List.length_append, List.length_cons]
  omega

theorem readStringZ_local : readStringZ.Local :=
  readZeroTerminated_local.bind fun _ => Get.Local.check _

theorem readStringZ_consumes : readStringZ.Consumes :=
  readZeroTerminated_consumes.bind fun _ => (Get.Local.check _).steady

theorem zero_eq_ofNat {n : Nat} : (0 : UInt8) = UInt8.ofNat n ↔ n % 256 = 0 := by
  rw [← UInt8.toNat_inj, UInt8.toNat_ofNat', eq_comm]
  rfl

/-- UTF-8 uses a zero byte for the code point zero only. -/
theorem zero_mem_utf8EncodeChar (char : Char) :
    0 ∈ String.utf8EncodeChar char ↔ (0 : CodePoint) = CodePoint.ofChar char := by
  have bound : char.val.toNat < 0x110000 := by
    have valid := char.valid
    simp only [UInt32.isValidChar, Nat.isValidChar] at valid
    omega
  have zero : (0 : CodePoint) = CodePoint.ofChar char ↔ char.val.toNat = 0 := by
    rw [Fin.ext_iff, eq_comm]
    rfl
  rw [zero]
  unfold String.utf8EncodeChar
  dsimp only
  split_ifs <;> simp only [List.mem_cons, List.not_mem_nil, or_false, zero_eq_ofNat] <;> omega

theorem zero_mem_encodeText {text : Str} {raw : Bytes} (encoded : encodeText text = .ok raw) :
    0 ∈ raw ↔ 0 ∈ text := by
  obtain ⟨chars, rfl, rfl⟩ := Str.encodeUtf8_eq_some.mp (encodeText_eq_ok.mp encoded)
  simp only [List.mem_flatMap, List.mem_map, zero_mem_utf8EncodeChar, eq_comm]

theorem emits_writeStringZ {text : Str} {out : Bytes} :
    (writeStringZ text).Emits () out ↔
      0 ∉ text ∧ ∃ raw, encodeText text = .ok raw ∧ out = raw ++ [0] := by
  unfold writeStringZ
  split
  next zero => simp [zero]
  next free =>
    simp only [free, not_false_eq_true, true_and, Put.emits_check_bind, Put.emits_seq, emits_write,
      emits_write1]
    constructor
    · rintro ⟨_, encoded, raw, _, rfl, ⟨_, rfl⟩, rfl⟩
      exact ⟨raw, encoded, rfl⟩
    · rintro ⟨raw, encoded, rfl⟩
      exact ⟨raw, encoded, raw, [0], rfl, ⟨by decide, rfl⟩, rfl⟩

theorem readStringZ_parses {text : Str} {raw : Bytes} (encoded : encodeText text = .ok raw)
    (free : 0 ∉ text) : readStringZ.Parses (raw ++ [0]) text :=
  (readZeroTerminated_parses ((zero_mem_encodeText encoded).not.mpr free)).bind_nil
    (Get.Parses.check (decodeText_iff_encodeText.mpr encoded))

theorem stringZ_roundTrips : RoundTrips ZeroFree writeStringZ readStringZ := by
  rintro text ⟨free, raw, encoded⟩
  exact ⟨_, emits_writeStringZ.mpr ⟨free, raw, encoded, rfl⟩, readStringZ_parses encoded free⟩

theorem stringZ_restores : Restores writeStringZ readStringZ := by
  intro bs text rest yields
  obtain ⟨raw, mid, head, tail⟩ := Get.yields_bind.mp yields
  obtain ⟨decoded, rfl⟩ := Get.yields_check.mp tail
  obtain ⟨free, rfl⟩ := yields_readZeroTerminated.mp head
  have encoded := decodeText_iff_encodeText.mp decoded
  refine ⟨raw ++ [0], by rw [List.append_assoc]; rfl, emits_writeStringZ.mpr ⟨?_, raw, encoded, rfl⟩⟩
  exact (zero_mem_encodeText encoded).not.mp free

namespace SmallString

theorem new_value (text : SmallString) : new text.value = .ok text := by
  obtain ⟨raw, encoded, short⟩ := text.fits
  unfold new
  split
  next failed => rw [encoded] at failed; cases failed
  next raw' encoded' =>
    obtain rfl := Except.ok.inj (encoded.symm.trans encoded')
    rw [dif_pos short]

theorem new_eq_ok {value : Str} {text : SmallString} (built : new value = .ok text) :
    text.value = value := by
  unfold new at built
  split at built
  next => cases built
  next =>
    split at built
    next =>
      cases built
      rfl
    next => cases built

theorem emits_writeCarbon {text : SmallString} {out : Bytes} :
    text.writeCarbon.Emits () out ↔
      ∃ raw, encodeText text.value = .ok raw ∧ out = UInt8.ofNat raw.length :: raw := by
  obtain ⟨raw, encoded, short⟩ := text.fits
  have byte : Unsigned 8 (raw.length : Int) := by
    unfold Unsigned
    omega
  unfold writeCarbon
  rw [encoded]
  simp only [Put.emits_check_bind, Put.emits_seq, emits_write, emits_write1]
  constructor
  · rintro ⟨_, same, _, raw', ⟨_, rfl⟩, rfl, rfl⟩
    exact ⟨raw', same, rfl⟩
  · rintro ⟨raw', same, rfl⟩
    obtain rfl := Except.ok.inj same
    exact ⟨raw, rfl, _, raw, ⟨byte, rfl⟩, rfl, rfl⟩

theorem roundTrips : RoundTrips (fun _ => True) writeCarbon readCarbon := by
  intro text _
  obtain ⟨raw, encoded, short⟩ := text.fits
  refine ⟨_, emits_writeCarbon.mpr ⟨raw, encoded, rfl⟩, ?_⟩
  have length : ((UInt8.ofNat raw.length).toNat : Int) = raw.length := by
    rw [UInt8.toNat_ofNat', Nat.mod_eq_of_lt (by omega)]
  exact (read1_parses _).bind ((read_parses length).bind_nil
    ((Get.Parses.check (decodeText_iff_encodeText.mpr encoded)).bind_nil
      (Get.Parses.check text.new_value)))

theorem readCarbon_local : readCarbon.Local :=
  read1_local.bind fun _ => (read_local _).bind fun _ =>
    (Get.Local.check _).bind fun _ => Get.Local.check _

theorem readCarbon_consumes : readCarbon.Consumes :=
  read1_consumes.bind fun _ => ((read_local _).bind fun _ =>
    (Get.Local.check _).bind fun _ => Get.Local.check _).steady

theorem restores : Restores writeCarbon readCarbon := by
  intro bs text rest yields
  obtain ⟨length, mid, head, yields⟩ := Get.yields_bind.mp yields
  obtain ⟨raw, mid', body, yields⟩ := Get.yields_bind.mp yields
  obtain ⟨value, _, checked, yields⟩ := Get.yields_bind.mp yields
  obtain ⟨decoded, rfl⟩ := Get.yields_check.mp checked
  obtain ⟨built, rfl⟩ := Get.yields_check.mp yields
  obtain rfl := yields_read1 head
  obtain ⟨count, rfl⟩ := yields_readExact body
  have same : UInt8.ofNat raw.length = length := by
    rw [show raw.length = length.toNat by exact_mod_cast count, UInt8.ofNat_toNat]
  refine ⟨length :: raw, rfl, emits_writeCarbon.mpr ⟨raw, ?_, by rw [same]⟩⟩
  rw [new_eq_ok built]
  exact decodeText_iff_encodeText.mp decoded

end SmallString

end PhantasmaPy.Carbon
