import PhantasmaPy.VM.Binary

/-! # The two integer encodings

Scripts hold integers in their shortest two's complement form, objects in the same form with sign bytes
behind it.
-/

namespace PhantasmaPy.VM

open Wire

/-- A form that holds the value has room for its bits and the sign. -/
theorem bits_le_of_fits {value : Int} {width : Nat} (positive : 0 < width) (fits : FitsSigned width value) :
    (if value > 0 then bitLength value + 1 else bitLength (-value - 1) + 1) ≤ 8 * width := by
  obtain ⟨low, high⟩ := Signed.of_fitsSigned width positive fits
  have large : (1 : Int) < 2 ^ (8 * width - 1) := one_lt_pow₀ (by norm_num) (by omega)
  split
  next =>
    have bits : bitLength value ≤ 8 * width - 1 := by
      rw [bitLength_le]
      zify
      exact abs_lt.mpr ⟨by linarith, high⟩
    omega
  next =>
    have bits : bitLength (-value - 1) ≤ 8 * width - 1 := by
      rw [bitLength_le]
      zify
      exact abs_lt.mpr ⟨by linarith, by linarith⟩
    omega

theorem bigIntToCsharpBytes_ne_nil (value : Int) : bigIntToCsharpBytes value ≠ [] := by
  unfold bigIntToCsharpBytes
  split
  next => decide
  next =>
    refine List.ne_nil_of_length_pos ?_
    rw [length_intToLE]
    omega

/-- No form of a value is shorter. -/
theorem length_bigIntToCsharpBytes_le {value : Int} {raw : Bytes} (nonempty : raw ≠ [])
    (denotes : intOfLE raw = value) : (bigIntToCsharpBytes value).length ≤ raw.length := by
  have positive := List.length_pos_iff.mpr nonempty
  unfold bigIntToCsharpBytes
  split
  next => exact positive
  next =>
    have fits := fitsSigned_intOfLE raw
    rw [denotes] at fits
    have bits := bits_le_of_fits positive fits
    rw [length_intToLE]
    omega

/-- Every other form of a value is longer. -/
theorem bigIntToCsharpBytes_shortest {value : Int} {raw : Bytes} (nonempty : raw ≠ [])
    (denotes : intOfLE raw = value) (other : raw ≠ bigIntToCsharpBytes value) :
    (bigIntToCsharpBytes value).length < raw.length := by
  refine lt_of_le_of_ne (length_bigIntToCsharpBytes_le nonempty denotes) fun same => other ?_
  apply intOfLE_injective same.symm
  rw [denotes, intOfLE_bigIntToCsharpBytes]

/-- The short form is the one shortest form of its value, the form of objects is the short form with at
    most two sign bytes behind it, both are read as the value, and an object's integer that is not too
    large comes back from the wire in front of whatever follows it. -/
theorem integerEncodings (value : Int) :
    (bigIntToCsharpBytes value ≠ [] ∧ intOfLE (bigIntToCsharpBytes value) = value ∧
      ∀ raw, raw ≠ [] → intOfLE raw = value → raw ≠ bigIntToCsharpBytes value →
        (bigIntToCsharpBytes value).length < raw.length) ∧
    (∃ count ≤ 2, bigIntToVmBytes value =
      bigIntToCsharpBytes value ++ List.replicate count (signFill (decide (value < 0)))) ∧
    vmBytesToBigInt (bigIntToCsharpBytes value) = value ∧
    vmBytesToBigInt (bigIntToVmBytes value) = value ∧
    ((bigIntToVmBytes value).length ≤ MAX_ARRAY_SIZE → ∃ out, (writeBigInteger value).bytes = .ok out ∧
      ∀ rest, readBigInteger.run (out ++ rest) = .ok (value, rest)) := by
  refine ⟨⟨bigIntToCsharpBytes_ne_nil value, intOfLE_bigIntToCsharpBytes value, ?_⟩,
    bigIntToVmBytes_eq value, ?_, vmBytesToBigInt_bigIntToVmBytes value, ?_⟩
  · intro raw nonempty denotes other
    exact bigIntToCsharpBytes_shortest nonempty denotes other
  · rw [vmBytesToBigInt_eq, intOfLE_bigIntToCsharpBytes]
  · intro storable
    obtain ⟨out, emits, parses⟩ := bigInteger_roundTrips value storable
    exact ⟨out, emits.bytes, parses⟩

/-- A number whose top byte is a sign byte. -/
theorem integerEncodings_negative : bigIntToCsharpBytes (-200) = [0x38, 0xFF] ∧
    bigIntToVmBytes (-200) = [0x38, 0xFF, 0xFF] ∧
    ∃ out, (writeBigInteger (-200)).bytes = .ok out ∧
      ∀ rest, readBigInteger.run (out ++ rest) = .ok (-200, rest) := by
  obtain ⟨-, -, -, -, travels⟩ := integerEncodings (-200)
  exact ⟨by decide +kernel, by decide +kernel, travels (by decide +kernel)⟩

end PhantasmaPy.VM
