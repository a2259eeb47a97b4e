import PhantasmaPy.Wire.LittleEndian
import Mathlib.Data.List.DropRight

/-! # Trimmed two's complement forms

A compact integer drops the fill bytes at the high end of a fixed-width word and keeps the sign
apart.  Extending a trimmed form gives the word back, and the trimmed forms of a given least width
represent each word once.
-/

namespace PhantasmaPy.Wire

/-- Fill `raw` up to `width` bytes. -/
def signExtend (negative : Bool) (width : Nat) (raw : Bytes) : Bytes :=
  raw ++ List.replicate (width - raw.length) (signFill negative)

/-- Drop the fill bytes at the high end. -/
def trimFill (negative : Bool) (word : Bytes) : Bytes :=
  word.rdropWhile (· = signFill negative)

/-- The form has `least` bytes, or its last byte is not a fill byte. -/
def Trimmed (least : Nat) (negative : Bool) (raw : Bytes) : Prop :=
  raw.length = least ∨ raw.getLast? ≠ some (signFill negative)

instance (least : Nat) (negative : Bool) (raw : Bytes) : Decidable (Trimmed least negative raw) :=
  inferInstanceAs (Decidable (_ ∨ _))

theorem length_signExtend (negative : Bool) {width : Nat} {raw : Bytes} (fits : raw.length ≤ width) :
    (signExtend negative width raw).length = width := by
  rw [signExtend, List.length_append, List.length_replicate]
  omega

theorem exists_trimFill (negative : Bool) (word : Bytes) :
    ∃ count, word = trimFill negative word ++ List.replicate count (signFill negative) := by
  refine ⟨(word.rtakeWhile (· = signFill negative)).length, ?_⟩
  have fill : word.rtakeWhile (· = signFill negative) =
      List.replicate (word.rtakeWhile (· = signFill negative)).length (signFill negative) := by
    rw [List.eq_replicate_iff]
    refine ⟨rfl, fun b member => ?_⟩
    simpa using List.mem_rtakeWhile_imp member
  rw [← fill, trimFill, List.rdropWhile_append_rtakeWhile]

theorem length_trimFill_le (negative : Bool) (word : Bytes) :
    (trimFill negative word).length ≤ word.length := by
  obtain ⟨count, split⟩ := exists_trimFill negative word
  conv_rhs => rw [split]
  rw [List.length_append]
  omega

/-- Trimming loses nothing. -/
theorem signExtend_trimFill (negative : Bool) (word : Bytes) :
    signExtend negative word.length (trimFill negative word) = word := by
  obtain ⟨count, split⟩ := exists_trimFill negative word
  have length : word.length - (trimFill negative word).length = count := by
    have lengths := congrArg List.length split
    rw [List.length_append, List.length_replicate] at lengths
    omega
  rw [signExtend, length, ← split]

/-- Fill bytes at the high end are dropped. -/
theorem trimFill_append_fill (negative : Bool) (raw : Bytes) (count : Nat) :
    trimFill negative (raw ++ List.replicate count (signFill negative)) = trimFill negative raw := by
  induction count with
  | zero => rw [List.replicate_zero, List.append_nil]
  | succ count ih =>
    rw [List.replicate_succ', ← List.append_assoc, trimFill, List.rdropWhile_concat_pos]
    · exact ih
    · simp

/-- No form of a word is shorter than the trimmed one. -/
theorem length_trimFill_signExtend_le (negative : Bool) (width : Nat) (raw : Bytes) :
    (trimFill negative (signExtend negative width raw)).length ≤ raw.length := by
  rw [signExtend, trimFill_append_fill]
  exact length_trimFill_le negative raw

theorem trimmed_trimFill (least : Nat) (negative : Bool) (word : Bytes) :
    Trimmed least negative (trimFill negative word) := by
  refine .inr fun last => ?_
  obtain ⟨nonempty, equal⟩ := List.mem_getLast?_eq_getLast last
  have kept := List.rdropWhile_last_not (· = signFill negative) word nonempty
  simp only [decide_eq_true_eq] at kept
  exact kept equal.symm

/-- A word has one trimmed form of at least `least` bytes. -/
theorem Trimmed.unique {least width : Nat} {negative : Bool} {raw raw' : Bytes}
    (trimmed : Trimmed least negative raw) (trimmed' : Trimmed least negative raw')
    (enough : least ≤ raw.length) (enough' : least ≤ raw'.length)
    (fits : raw.length ≤ width) (fits' : raw'.length ≤ width)
    (same : signExtend negative width raw = signExtend negative width raw') : raw = raw' := by
  wlog shorter : raw.length ≤ raw'.length generalizing raw raw'
  · exact (this trimmed' trimmed enough' enough fits' fits same.symm (by omega)).symm
  -- the longer one goes on with the fill of the shorter one
  obtain ⟨count, tail⟩ : ∃ count, raw' = raw ++ List.replicate count (signFill negative) := by
    refine ⟨raw'.length - raw.length, ?_⟩
    have front := congrArg (List.take raw'.length) same
    unfold signExtend at front
    rw [List.take_left, List.take_append, List.take_of_length_le shorter, List.take_replicate,
      Nat.min_eq_left (by omega)] at front
    exact front.symm
  cases count with
  | zero => simpa using tail.symm
  | succ count =>
    have last : raw'.getLast? = some (signFill negative) := by
      rw [tail, List.replicate_succ', ← List.append_assoc, List.getLast?_concat]
    have longer : raw'.length ≠ least := by
      rw [tail, List.length_append, List.length_replicate]
      omega
    -- a trimmed body longer than the least does not end in the fill
    rcases trimmed' with short | kept
    · exact absurd short longer
    · exact absurd last kept

/-- The sign of an extended form with at least one added byte. -/
theorem signExtend_neg {negative : Bool} {width : Nat} {raw : Bytes} (short : raw.length < width) :
    negative = decide (intOfLE (signExtend negative width raw) < 0) := by
  obtain ⟨count, added⟩ : ∃ count, width - raw.length = count + 1 :=
    ⟨width - raw.length - 1, by omega⟩
  rw [signExtend, added, List.replicate_succ', ← List.append_assoc,
    decide_eq_decide.mpr intOfLE_concat_neg]
  cases negative <;> rfl

/-- Extending by the sign of the form keeps the value. -/
theorem intOfLE_signExtend {negative : Bool} {raw : Bytes}
    (sign : negative = decide (intOfLE raw < 0)) (width : Nat) :
    intOfLE (signExtend negative width raw) = intOfLE raw :=
  intOfLE_extend sign _

/-- A trimmed form of a value that needs more than `width` bytes has at least `width` bytes. -/
theorem le_length_of_not_fits {negative : Bool} {width wide : Nat} {raw : Bytes} {v : Int}
    (value : intOfLE (signExtend negative wide raw) = v) (large : ¬ FitsSigned width v)
    (narrower : width ≤ wide) : width ≤ raw.length := by
  by_contra short
  rw [not_le] at short
  apply large
  have split : signExtend negative wide raw =
      signExtend negative wide (signExtend negative width raw) := by
    rw [signExtend, signExtend, length_signExtend _ short.le, signExtend, List.append_assoc,
      List.replicate_append_replicate]
    congr 2
    omega
  rw [split, intOfLE_signExtend (signExtend_neg short)] at value
  have fits := fitsSigned_intOfLE (signExtend negative width raw)
  rwa [length_signExtend _ short.le, value] at fits

/-- The value of a negative form: the fill bytes stand for the modulus of the bytes that are there. -/
theorem negative_value {width : Nat} {raw : Bytes} {v : Int} (fits : raw.length ≤ width)
    (value : intOfLE (signExtend true width raw) = v) (negative : v < 0) :
    v = natOfLE raw - 256 ^ raw.length := by
  rcases fits.lt_or_eq with short | full
  · obtain ⟨count, added⟩ : ∃ count, width - raw.length = count + 1 :=
      ⟨width - raw.length - 1, by omega⟩
    rw [signExtend, added, intOfLE_append_fill] at value
    simpa using value.symm
  · have whole : signExtend true width raw = raw := by simp [signExtend, full]
    rw [whole] at value
    have bound := natOfLE_lt raw
    unfold intOfLE at value
    split at value <;> omega

/-- The trimmed form of a negative value has at most `count` bytes exactly down to the modulus of as
    many bytes. -/
theorem length_le_iff_of_negative {width count : Nat} {raw : Bytes} {v : Int}
    (fits : raw.length ≤ width) (trimmed : raw.getLast? ≠ some 0xFF)
    (value : intOfLE (signExtend true width raw) = v) (negative : v < 0) :
    raw.length ≤ count ↔ -256 ^ count ≤ v := by
  have form := negative_value fits value negative
  constructor
  · intro short
    have power : (256 : Int) ^ raw.length ≤ 256 ^ count := by gcongr; norm_num
    omega
  · intro low
    by_contra long
    cases split : raw.eq_nil_or_concat with
    | inl empty =>
      rw [empty] at long
      simp at long
    | inr concat =>
      obtain ⟨lower, last, rfl⟩ := concat
      rw [List.concat_eq_append] at long form trimmed
      simp only [List.length_append, List.length_singleton, natOfLE_append, List.getLast?_concat,
        ne_eq, Option.some.injEq] at long form trimmed
      -- the last byte is below 255, so the modulus is missed by a whole digit
      have digit : last.toNat ≤ 254 := by
        have bound := last.toNat_lt
        have other : last.toNat ≠ 255 := fun same => trimmed (UInt8.toNat_inj.mp same)
        omega
      have product : 256 ^ lower.length * last.toNat ≤ 256 ^ lower.length * 254 :=
        Nat.mul_le_mul_left _ digit
      have power : (256 : Int) ^ count ≤ 256 ^ lower.length := by gcongr <;> omega
      have bound := natOfLE_lt lower
      simp [natOfLE, pow_succ] at form
      zify at product bound
      omega

end PhantasmaPy.Wire
