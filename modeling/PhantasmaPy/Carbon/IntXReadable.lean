import PhantasmaPy.Carbon.BigIntLaws

/-! # Which `IntX` values can be read back

The writer accepts unsigned numbers up to `2 ^ 256` and stores their two's complement word.  It chooses
the form by the number, the reader by the word, so the largest numbers get a form that is too short for
the reader.
-/

namespace PhantasmaPy.Carbon

open Wire CarbonWriter CarbonReader

/-- A number and its signed reading have one word. -/
theorem intToLE_sub_modulus (v : Int) : intToLE 32 (v - 2 ^ 256) = intToLE 32 v := by
  unfold intToLE
  norm_num

theorem fitsSigned_sub_modulus {v : Int} (low : 2 ^ 255 ≤ v) (high : v < 2 ^ 256) :
    FitsSigned 32 (v - 2 ^ 256) := by
  unfold FitsSigned
  norm_num
  omega

theorem bigIntWord_sub_modulus {v : Int} (low : 2 ^ 255 ≤ v) (high : v < 2 ^ 256) :
    bigIntWord v = bigIntWord (v - 2 ^ 256) := by
  have fits := fitsSigned_sub_modulus low high
  have short : ¬ bitLength v > 256 := by
    rw [not_lt, bitLength_le]
    omega
  rw [bigIntWord_eq fits, intToLE_sub_modulus, bigIntWord, if_neg short]

/-- From `2 ^ 255` on a number is written as its signed reading. -/
theorem writeBigInt_sub_modulus {v : Int} (low : 2 ^ 255 ≤ v) (high : v < 2 ^ 256) :
    writeBigInt v = writeBigInt (v - 2 ^ 256) := by
  unfold writeBigInt
  rw [if_neg (by omega), if_neg (by omega), bigIntWord_sub_modulus low high]

namespace IntX

/-- The signed reading of a number of up to 256 bits. -/
def signed256 (v : Int) : Int := if v < 2 ^ 255 then v else v - 2 ^ 256

/-- The writer produces an image, and the reader recognises it as the signed reading. -/
def Readable (v : Int) : Prop :=
  ∃ out, (IntX.mk v).writeCarbon.Emits () out ∧ readCarbon.Parses out ⟨signed256 v⟩

/-- The trimmed form of the word of a number from `2 ^ 255` on. -/
def wideForm (v : Int) : Bytes := trimFill true (intToLE 32 (v - 2 ^ 256))

theorem length_wideForm (v : Int) : (wideForm v).length ≤ 32 := length_trimWord_le true _

theorem emits_wide {v : Int} (low : 2 ^ 255 ≤ v) (high : v < 2 ^ 256) {out : Bytes} :
    (IntX.mk v).writeCarbon.Emits () out ↔ out = bigIntImage true (wideForm v) := by
  have wide : ¬ (IntX.mk v).is8ByteSafe := by
    rw [is8ByteSafe_iff]
    unfold Signed
    norm_num
    omega
  have fits := fitsSigned_sub_modulus low high
  have negative : decide (v - 2 ^ 256 < 0) = true := by
    rw [decide_eq_true_eq]
    omega
  unfold writeCarbon
  rw [if_neg wide, writeBigInt_sub_modulus low high, emits_writeBigInt fits, negative, wideForm]

/-- The reader takes the image exactly when the form has eight bytes. -/
theorem parses_wide {v : Int} (low : 2 ^ 255 ≤ v) (high : v < 2 ^ 256) :
    readCarbon.Parses (bigIntImage true (wideForm v)) ⟨v - 2 ^ 256⟩ ↔ 8 ≤ (wideForm v).length := by
  obtain ⟨length, clear, bit⟩ := bigIntHeader_fields (length_wideForm v) true
  have fits := fitsSigned_sub_modulus low high
  have word : v - 2 ^ 256 = intOfLE (signExtend true 32 (wideForm v)) := by
    rw [wideForm, signExtend_trimWord, intOfLE_intToLE fits]
  have negative : true = decide (v - 2 ^ 256 < 0) := by
    symm
    rw [decide_eq_true_eq]
    omega
  -- the body reads back as it is, so that only its length decides
  constructor
  · intro parses
    obtain ⟨header, mid, head, body⟩ := Get.yields_bind.mp parses.yields
    obtain ⟨raw, count, enough, -⟩ := yields_readBody.mp body
    have first := yields_read1 head
    rw [bigIntImage, List.cons.injEq] at first
    rw [← first.1, length] at count
    omega
  · intro enough
    refine (read1_parses _).bind fun rest => ?_
    refine yields_readBody.mpr ⟨wideForm v, length.symm, enough, length_wideForm v, rfl, ?_⟩
    rw [bit]
    exact ⟨word, negative, .inr clear⟩

/-- The form has eight bytes unless the number is within `2 ^ 56` of the modulus. -/
theorem eight_le_wideForm {v : Int} (low : 2 ^ 255 ≤ v) (high : v < 2 ^ 256) :
    8 ≤ (wideForm v).length ↔ v < 2 ^ 256 - 2 ^ 56 := by
  have fits := fitsSigned_sub_modulus low high
  have word : intOfLE (signExtend true 32 (wideForm v)) = v - 2 ^ 256 := by
    rw [wideForm, signExtend_trimWord, intOfLE_intToLE fits]
  have trimmed : (wideForm v).getLast? ≠ some 0xFF := by
    rcases trimmed_trimFill 33 true (intToLE 32 (v - 2 ^ 256)) with long | last
    · have short := length_wideForm v
      rw [wideForm, long] at short
      omega
    · exact last
  have bound := @length_le_iff_of_negative 32 7 _ _ (length_wideForm v) trimmed word (by omega)
  norm_num at bound ⊢
  omega

/-- What `write_carbon` produces is readable except within `2 ^ 56` of the modulus, where the form is
    shorter than the eight bytes that `read_carbon` asks for. -/
theorem readable_iff {v : Int} (low : -2 ^ 255 ≤ v) (high : v < 2 ^ 256) :
    Readable v ↔ v < 2 ^ 256 - 2 ^ 56 := by
  unfold Readable signed256
  by_cases small : v < 2 ^ 255
  · obtain ⟨out, emits, parses⟩ := roundTrips ⟨v⟩ ⟨low, small⟩
    rw [if_pos small]
    constructor
    · intro readable
      omega
    · intro inside
      exact ⟨out, emits, parses⟩
  · have large : 2 ^ 255 ≤ v := by omega
    rw [if_neg small, ← eight_le_wideForm large high, ← parses_wide large high]
    constructor
    · rintro ⟨out, emits, parses⟩
      rw [(emits_wide large high).mp emits] at parses
      exact parses
    · intro parses
      exact ⟨_, (emits_wide large high).mpr rfl, parses⟩

theorem readable_iff_word : Readable (2 ^ 255) ↔ (2 ^ 255 : Int) < 2 ^ 256 - 2 ^ 56 :=
  readable_iff (by norm_num) (by norm_num)

/-- The largest number is written as a header alone, which the reader refuses. -/
theorem largest_unreadable :
    serialize (IntX.mk (2 ^ 256 - 1)).writeCarbon = .ok [0x80] ∧
      deserialize readCarbon [0x80] = .error (serializationError "invalid IntX packing") := by
  decide +kernel

end IntX

end PhantasmaPy.Carbon
