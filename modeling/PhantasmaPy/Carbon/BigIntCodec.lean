import PhantasmaPy.Carbon.IntXReadable

/-! # The 256-bit codec

The writer gives the shortest image of a number, and every accepted image is one of the value that it is read
as.  The reader of `IntX` agrees with the general one but for a header of length eight with the reserved bit.
-/

namespace PhantasmaPy.Carbon

open Wire CarbonWriter CarbonReader

/-! ## Images -/

/-- What a successful read consumed. -/
theorem yields_readBigInt {bs rest : Bytes} {value : Int} (yields : readBigInt.Yields bs value rest) :
    ∃ header raw, bs = header :: raw ++ rest ∧ header &&& 0x40 = 0 ∧ raw.length = (header &&& 0x3F).toNat ∧
      raw.length ≤ 32 ∧ value = intOfLE (signExtend (headerNegative header) 32 raw) ∧
      headerNegative header = decide (value < 0) := by
  obtain ⟨header, mid, head, body⟩ := Get.yields_bind.mp yields
  obtain rfl := yields_read1 head
  obtain ⟨clear, raw, length, short, rfl, word, sign⟩ := yields_readBigIntBody.mp body
  exact ⟨header, raw, rfl, clear, length, short, word, sign⟩

/-- The image of the writer is no longer than any that is read as the number. -/
theorem writeBigInt_shortest {bs rest : Bytes} {value : Int} (yields : readBigInt.Yields bs value rest) :
    ∃ out, (writeBigInt value).Emits () out ∧ readBigInt.Parses out value ∧ out.length + rest.length ≤ bs.length := by
  obtain ⟨header, raw, rfl, clear, length, short, word, sign⟩ := yields_readBigInt yields
  have wide := length_signExtend (headerNegative header) short
  have fits : FitsSigned 32 value := by
    have bound := fitsSigned_intOfLE (signExtend (headerNegative header) 32 raw)
    rwa [wide, ← word] at bound
  obtain ⟨out, emits, parses⟩ := bigInt_roundTrips value (Signed.of_fitsSigned 32 (by decide) fits)
  refine ⟨out, emits, parses, ?_⟩
  -- the word of the number is the extension of the form that was read
  have image : intToLE 32 value = signExtend (headerNegative header) 32 raw := by
    have back := intToLE_intOfLE (signExtend (headerNegative header) 32 raw)
    rwa [wide, ← word] at back
  have shorter := length_trimFill_signExtend_le (headerNegative header) 32 raw
  rw [← image, sign] at shorter
  rw [(emits_writeBigInt fits).mp emits, bigIntImage]
  simp only [List.length_cons, List.cons_append, List.length_append]
  omega

/-- A number of up to 256 bits is written as its signed reading. -/
theorem writeBigInt_signed {value : Int} (low : -2 ^ 255 ≤ value) (high : value < 2 ^ 256) :
    ∃ signed, Signed 256 signed ∧ signed % 2 ^ 256 = value % 2 ^ 256 ∧ writeBigInt value = writeBigInt signed := by
  by_cases small : value < 2 ^ 255
  · exact ⟨value, ⟨low, small⟩, rfl, rfl⟩
  · -- the upper half wraps around
    have large : 2 ^ 255 ≤ value := not_lt.mp small
    refine ⟨value - 2 ^ 256, ?_, Int.sub_emod_right value _, writeBigInt_sub_modulus large high⟩
    unfold Signed
    norm_num
    omega

/-- The codec of 256-bit numbers: numbers come back as their signed reading, from the shortest of all images
    that are read as it. -/
theorem bigInt_codec :
    (∀ value : Int, -2 ^ 255 ≤ value → value < 2 ^ 256 → ∃ out signed,
      (writeBigInt value).Emits () out ∧ -2 ^ 255 ≤ signed ∧ signed < 2 ^ 255 ∧
      signed % 2 ^ 256 = value % 2 ^ 256 ∧ (∀ rest, readBigInt.Yields (out ++ rest) signed rest) ∧
      ∀ bs rest, readBigInt.Yields bs signed rest → out.length ≤ bs.length) ∧
    (∀ bs value, readBigInt.Yields bs value [] → ∃ out,
      (writeBigInt value).Emits () out ∧ readBigInt.Yields out value [] ∧ out.length ≤ bs.length) := by
  constructor
  · intro value low high
    obtain ⟨signed, range, congruent, same⟩ := writeBigInt_signed low high
    obtain ⟨out, emits, parses⟩ := bigInt_roundTrips signed range
    refine ⟨out, signed, same ▸ emits, range.1, range.2, congruent, parses, fun bs rest yields => ?_⟩
    obtain ⟨shortest, again, -, least⟩ := writeBigInt_shortest yields
    obtain ⟨-, rfl⟩ := emits.unique again
    omega
  · intro bs value yields
    obtain ⟨out, emits, parses, least⟩ := writeBigInt_shortest yields
    exact ⟨out, emits, parses.yields, by simpa using least⟩

/-- The largest number is written and read as -1. -/
theorem bigInt_codec_largest : ∃ out signed,
    (writeBigInt (2 ^ 256 - 1)).Emits () out ∧ signed % 2 ^ 256 = (2 ^ 256 - 1) % 2 ^ 256 ∧
      readBigInt.Yields (out ++ [7]) signed [7] := by
  obtain ⟨out, signed, emits, -, -, congruent, reads, -⟩ :=
    bigInt_codec.1 (2 ^ 256 - 1) (by norm_num) (by norm_num)
  exact ⟨out, signed, emits, congruent, reads [7]⟩

/-! ## The reader of `IntX` -/

/-- A header of length eight with the reserved bit, and eight bytes behind it. -/
def ReservedEight (bs : Bytes) : Prop :=
  ∃ header rest, bs = header :: rest ∧ header &&& 0x40 ≠ 0 ∧ header &&& 0x3F = 8 ∧ 8 ≤ rest.length

/-- What the reader of `IntX` takes, the general reader takes with the same number and the same rest. -/
def AgreesWithBigInt (bs : Bytes) : Prop :=
  ∀ number rest, IntX.readCarbon.Yields bs number rest → readBigInt.Yields bs number.value rest

/-- Whatever follows such a header is read by `IntX` and refused by the general reader. -/
theorem ReservedEight.disagrees {bs : Bytes} (reserved : ReservedEight bs) : ¬ AgreesWithBigInt bs := by
  obtain ⟨header, rest, rfl, bit, eight, enough⟩ := reserved
  intro agrees
  have length : (rest.take 8).length = 8 := by simp [enough]
  let number : IntX := ⟨intOfLE (signExtend (headerNegative header) 32 (rest.take 8))⟩
  have body : (IntX.readBody header).Yields rest number (rest.drop 8) := by
    apply IntX.yields_readBody.mpr
    refine ⟨rest.take 8, ?_, by omega, by omega, (List.take_append_drop 8 rest).symm, rfl, ?_, .inl length⟩
    · rw [eight, length]
      rfl
    · -- eight bytes are extended, so the sign is that of the header
      exact signExtend_neg (by omega)
  obtain ⟨again, raw, image, clear, -⟩ :=
    yields_readBigInt (agrees number (rest.drop 8) (Get.yields_bind.mpr ⟨header, rest, read1_parses header rest, body⟩))
  obtain rfl := (List.cons.inj image).1
  exact bit clear

/-- The readers agree exactly where the reserved bit is not set beside a length of eight. -/
theorem agreesWithBigInt_iff (bs : Bytes) : AgreesWithBigInt bs ↔ ¬ ReservedEight bs := by
  constructor
  · intro agrees reserved
    exact reserved.disagrees agrees
  · intro regular number rest yields
    obtain ⟨header, mid, head, body⟩ := Get.yields_bind.mp yields
    obtain rfl := yields_read1 head
    obtain ⟨raw, length, enough, short, rfl, word, sign, reserved⟩ := IntX.yields_readBody.mp body
    -- `IntX` takes the reserved bit beside a length of eight only
    have clear : header &&& 0x40 = 0 := by
      by_contra set
      have eight : raw.length = 8 := reserved.resolve_right set
      apply regular
      refine ⟨header, raw ++ rest, rfl, set, ?_, ?_⟩
      · apply UInt8.toNat_inj.mp
        rw [← length, eight]
        rfl
      · simp only [List.length_append]
        omega
    apply Get.yields_bind.mpr
    exact ⟨header, raw ++ rest, read1_parses header _,
      yields_readBigIntBody.mpr ⟨clear, raw, length, short, rfl, word, sign⟩⟩

/-- The reserved bit beside a length of eight: `IntX` reads a zero, and the general reader refuses. -/
theorem reservedBit_disagrees :
    IntX.readCarbon.Yields [0x48, 0, 0, 0, 0, 0, 0, 0, 0] ⟨0⟩ [] ∧
      readBigInt.run [0x48, 0, 0, 0, 0, 0, 0, 0, 0] = .error (serializationError "BigInt too big") :=
  ⟨rfl, rfl⟩

end PhantasmaPy.Carbon
