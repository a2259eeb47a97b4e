import PhantasmaPy.Carbon.StreamLaws
import PhantasmaPy.Wire.Compact

/-! # Laws of the variable-width integers

An image of a variable-width integer is a header byte and a form whose sign extension to 32 bytes
is the value.  The writers produce the trimmed form.
-/

namespace PhantasmaPy.Carbon

open Wire

open CarbonWriter CarbonReader

/-! ## The header byte -/

/-- The header of a form of `length` bytes. -/
def bigIntHeader (length : Nat) (negative : Bool) : UInt8 :=
  UInt8.ofNat ((length &&& 0x3F) ||| (if negative then 0x80 else 0))

/-- The sign bit of a header byte. -/
def headerNegative (header : UInt8) : Bool := decide (header &&& 0x80 ≠ 0)

theorem bigIntHeader_fields {length : Nat} (small : length ≤ 32) (negative : Bool) :
    (bigIntHeader length negative &&& 0x3F).toNat = length ∧
      bigIntHeader length negative &&& 0x40 = 0 ∧
      headerNegative (bigIntHeader length negative) = negative := by
  have instances : ∀ n : Fin 33, ∀ negative : Bool,
      (bigIntHeader n negative &&& 0x3F).toNat = n ∧ bigIntHeader n negative &&& 0x40 = 0 ∧
        headerNegative (bigIntHeader n negative) = negative := by
    decide +kernel
  exact instances ⟨length, by omega⟩ negative

theorem header_eq_bigIntHeader {header : UInt8} (clear : header &&& 0x40 = 0) :
    header = bigIntHeader (header &&& 0x3F).toNat (headerNegative header) := by
  revert clear
  exact byte_cases
    (motive := fun header => header &&& 0x40 = 0 →
      header = bigIntHeader (header &&& 0x3F).toNat (headerNegative header))
    (by decide +kernel) header

theorem header_length_zero {header : UInt8} (zero : header = 0) :
    (header &&& 0x3F).toNat = 0 ∧ header &&& 0x40 = 0 ∧ headerNegative header = false := by
  subst zero
  decide

theorem sign_bit_ne_iff (b header : UInt8) :
    b &&& 0x80 ≠ header &&& 0x80 ↔ decide (128 ≤ b.toNat) ≠ headerNegative header := by
  have bit (b : UInt8) : b &&& 0x80 = if 128 ≤ b.toNat then 0x80 else 0 :=
    byte_cases (motive := fun b => b &&& 0x80 = if 128 ≤ b.toNat then 0x80 else 0)
      (by decide +kernel) b
  have sign : headerNegative header = decide (128 ≤ header.toNat) := by
    unfold headerNegative
    exact decide_eq_decide.mpr (byte_sign_iff header)
  rw [bit b, bit header, sign]
  by_cases left : 128 ≤ b.toNat <;> by_cases right : 128 ≤ header.toNat <;> simp [left, right]

theorem header_unsigned (length : Nat) (negative : Bool) :
    Unsigned 8 (((length &&& 0x3F) ||| if negative then 0x80 else 0 : Nat) : Int) := by
  have low : length &&& 0x3F < 2 ^ 8 := by
    have bound := Nat.and_le_right (n := length) (m := 0x3F)
    omega
  have high : (if negative then 0x80 else 0) < 2 ^ 8 := by
    cases negative <;> decide
  have both := Nat.or_lt_two_pow low high
  unfold Unsigned
  omega

/-! ## Words -/

/-- The sign of a word of 32 bytes is the top bit of its last byte. -/
theorem word_sign {word : Bytes} (length : word.length = 32) :
    128 ≤ (word.getD 31 0).toNat ↔ intOfLE word < 0 := by
  obtain ⟨low, last, rfl⟩ : ∃ low last, word = low ++ [last] := by
    rcases List.eq_nil_or_concat word with rfl | ⟨low, last, rfl⟩
    · cases length
    · exact ⟨low, last, by rw [List.concat_eq_append]⟩
  have position : low.length = 31 := by simpa using length
  rw [intOfLE_concat_neg, ← position]
  simp

theorem intFromWord_eq {word : Bytes} (length : word.length = 32) :
    intFromWord word = .ok (intOfLE word) := by
  have bound := natOfLE_lt word
  have sign := word_sign length
  unfold intFromWord
  rw [if_neg (not_not.mpr length)]
  congr 1
  rw [length] at bound
  unfold intOfLE at sign ⊢
  rw [length] at sign ⊢
  zify at bound
  by_cases small : 2 * natOfLE word < 256 ^ 32
  · rw [if_pos small] at sign ⊢
    have clear : ¬ 128 ≤ (word.getD 31 0).toNat := fun large => absurd (sign.mp large) (by omega)
    rw [if_neg ((byte_sign_iff _).not.mpr clear)]
  · rw [if_neg small] at sign ⊢
    have set := sign.mpr (by omega)
    rw [if_pos ((byte_sign_iff _).mpr set)]
    norm_num

theorem bigIntWord_eq {value : Int} (fits : FitsSigned 32 value) :
    bigIntWord value = .ok (intToLE 32 value) := by
  unfold bigIntWord
  rw [if_neg]
  rw [not_lt, bitLength_le]
  unfold FitsSigned at fits
  norm_num at fits ⊢
  omega

/-! ## Big integers -/

/-- A header byte and the form that follows it. -/
def bigIntImage (negative : Bool) (raw : Bytes) : Bytes := bigIntHeader raw.length negative :: raw

/-- What the writer appends: the trimmed word under its header. -/
theorem emits_writeBigInt {value : Int} (fits : FitsSigned 32 value) {out : Bytes} :
    (writeBigInt value).Emits () out ↔
      out = bigIntImage (decide (value < 0)) (trimFill (decide (value < 0)) (intToLE 32 value)) := by
  have length := length_intToLE 32 value
  have signed := intOfLE_intToLE fits
  have short := length_trimFill_le (decide (value < 0)) (intToLE 32 value)
  unfold writeBigInt
  split
  next zero =>
    subst zero
    rw [emits_write1]
    constructor
    · rintro ⟨_, rfl⟩
      decide
    · rintro rfl
      exact ⟨by decide, by decide⟩
  next nonzero =>
    -- the writer takes the sign from the last byte of the word
    rw [bigIntWord_eq fits]
    simp only [Put.emits_check_bind, Put.emits_seq, emits_write1, emits_write, Except.ok.injEq,
      exists_eq_left']
    have fill : (if (intToLE 32 value).getD 31 0 &&& 0x80 ≠ 0 then 0xFF else 0x00 : UInt8) =
        signFill (decide (value < 0)) := by
      rw [signFill]
      refine if_congr ?_ rfl rfl
      rw [byte_sign_iff, word_sign length, signed, decide_eq_true_eq]
    have sign : (if signFill (decide (value < 0)) = 0xFF then 0x80 else 0 : Nat) =
        if decide (value < 0) then 0x80 else 0 := by
      cases decide (value < 0) <;> decide
    rw [fill, sign, ← trimFill]
    constructor
    · rintro ⟨_, _, ⟨_, rfl⟩, rfl, rfl⟩
      rfl
    · rintro rfl
      exact ⟨_, _, ⟨header_unsigned _ _, rfl⟩, rfl, rfl⟩

/-- What a successful read consumed: a header without the reserved bit, and a form of the length
    and of the sign that the header states. -/
theorem yields_readBigIntBody {header : UInt8} {bs rest : Bytes} {value : Int} :
    (readBigIntBody header).Yields bs value rest ↔
      header &&& 0x40 = 0 ∧ ∃ raw, raw.length = (header &&& 0x3F).toNat ∧ raw.length ≤ 32 ∧
        bs = raw ++ rest ∧ value = intOfLE (signExtend (headerNegative header) 32 raw) ∧
        headerNegative header = decide (value < 0) := by
  unfold readBigIntBody
  split
  next zero =>
    obtain ⟨length, clear, positive⟩ := header_length_zero zero
    rw [length, positive]
    simp only [Get.yields_pure, clear, true_and, List.length_eq_zero_iff, exists_eq_left]
    -- the header of zero has no body
    have word : intOfLE (signExtend false 32 []) = 0 := by decide
    simp only [word, List.length_nil, Nat.zero_le, List.nil_append, true_and]
    constructor
    · rintro ⟨rfl, rfl⟩
      exact ⟨rfl, rfl, by decide⟩
    · rintro ⟨rfl, rfl, _⟩
      exact ⟨rfl, rfl⟩
  next nonzero =>
    have fill : (if header &&& 0x80 ≠ 0 then 0xFF else 0x00 : UInt8) =
        signFill (headerNegative header) := by
      unfold signFill headerNegative
      simp only [decide_eq_true_eq]
    rw [fill]
    dsimp only
    split
    next refused =>
      simp only [Get.yields_throw, false_iff, not_and]
      rintro clear ⟨raw, length, short, _⟩
      rcases refused with reserved | long
      · exact reserved clear
      · omega
    next accepted =>
      rw [not_or, not_not, not_lt] at accepted
      obtain ⟨clear, short⟩ := accepted
      simp only [clear, true_and, Get.yields_bind, sign_bit_ne_iff]
      constructor
      · rintro ⟨raw, mid, head, yields⟩
        obtain ⟨count, rfl⟩ := yields_readExact head
        have length : raw.length = (header &&& 0x3F).toNat := by exact_mod_cast count
        rw [← length, ← signExtend] at yields
        -- the reader refuses a word whose sign is not that of the header
        have word := length_signExtend (headerNegative header) (show raw.length ≤ 32 by omega)
        split at yields
        next => exact absurd yields Get.yields_throw
        next sign =>
          rw [intFromWord_eq word] at yields
          obtain ⟨built, rfl⟩ := Get.yields_check.mp yields
          obtain rfl := Except.ok.inj built
          rw [not_not, decide_eq_decide.mpr (word_sign word)] at sign
          exact ⟨raw, length, by omega, rfl, rfl, sign.symm⟩
      · rintro ⟨raw, length, _, rfl, rfl, sign⟩
        have word := length_signExtend (headerNegative header) (show raw.length ≤ 32 by omega)
        refine ⟨raw, rest, read_parses (by rw [length]) rest, ?_⟩
        rw [← length, ← signExtend, if_neg]
        · rw [intFromWord_eq word]
          exact Get.yields_check.mpr ⟨rfl, rfl⟩
        · rw [not_not, decide_eq_decide.mpr (word_sign word)]
          exact sign.symm

theorem readBigIntBody_local (header : UInt8) : (readBigIntBody header).Local := by
  intro bs value rest yields
  obtain ⟨clear, raw, length, short, rfl, word⟩ := yields_readBigIntBody.mp yields
  exact ⟨raw, rfl, fun more =>
    yields_readBigIntBody.mpr ⟨clear, raw, length, short, rfl, word⟩⟩

theorem readBigInt_local : readBigInt.Local := read1_local.bind readBigIntBody_local

theorem readBigInt_consumes : readBigInt.Consumes :=
  read1_consumes.bind fun header => (readBigIntBody_local header).steady

/-- A body under its own header. -/
theorem readBigIntBody_parses {negative : Bool} {raw : Bytes} (short : raw.length ≤ 32)
    (sign : negative = decide (intOfLE (signExtend negative 32 raw) < 0)) :
    (readBigIntBody (bigIntHeader raw.length negative)).Parses raw
      (intOfLE (signExtend negative 32 raw)) := by
  intro rest
  obtain ⟨length, clear, bit⟩ := bigIntHeader_fields short negative
  refine yields_readBigIntBody.mpr ⟨clear, raw, length.symm, short, rfl, ?_⟩
  rw [bit]
  exact ⟨rfl, sign⟩

/-- The sign extension of a word's trimmed form. -/
theorem signExtend_trimWord (negative : Bool) (value : Int) :
    signExtend negative 32 (trimFill negative (intToLE 32 value)) = intToLE 32 value := by
  have whole := signExtend_trimFill negative (intToLE 32 value)
  rwa [length_intToLE] at whole

theorem length_trimWord_le (negative : Bool) (value : Int) :
    (trimFill negative (intToLE 32 value)).length ≤ 32 := by
  have short := length_trimFill_le negative (intToLE 32 value)
  rwa [length_intToLE] at short

theorem bigInt_roundTrips : RoundTrips (Signed 256) writeBigInt readBigInt := by
  intro value signed
  have fits : FitsSigned 32 value := Signed.fitsSigned 32 (by decide) signed
  have word := intOfLE_intToLE fits
  refine ⟨_, (emits_writeBigInt fits).mpr rfl, (read1_parses _).bind ?_⟩
  have parses := @readBigIntBody_parses (decide (value < 0)) _
    (length_trimWord_le (decide (value < 0)) value)
  rw [signExtend_trimWord, word] at parses
  exact parses rfl

/-! ## `IntX` -/

namespace IntX

/-- The read of eight bytes extends them by the sign of the header. -/
theorem yields_eight {header : UInt8} {bs rest : Bytes} {number : IntX} :
    (do
      let raw ← read 8
      let value := intOfLE raw
      let negative := decide (header &&& 0x80 ≠ 0)
      if negative = decide (value < 0) then
        return ⟨value⟩
      else
        let fill : UInt8 := if negative then 0xFF else 0x00
        let word := raw ++ List.replicate 24 fill
        let value ← Get.check (intFromWord word)
        return ⟨value⟩ : CarbonReader IntX).Yields bs number rest ↔
      ∃ raw, raw.length = 8 ∧ 8 ≤ raw.length ∧ raw.length ≤ 32 ∧
        bs = raw ++ rest ∧ number.value = intOfLE (signExtend (headerNegative header) 32 raw) ∧
        headerNegative header = decide (number.value < 0) ∧
        (raw.length = 8 ∨ header &&& 0x40 = 0) := by
  have step (raw mid : Bytes) (length : raw.length = 8) :
      (if headerNegative header = decide (intOfLE raw < 0) then return ⟨intOfLE raw⟩
        else do
          let value ← Get.check (intFromWord (raw ++ List.replicate 24 (signFill (headerNegative header))))
          return ⟨value⟩ : CarbonReader IntX).Yields mid number rest ↔
        number.value = intOfLE (signExtend (headerNegative header) 32 raw) ∧ mid = rest := by
    -- a number of the sign of the header is its own extension
    have extended : raw ++ List.replicate 24 (signFill (headerNegative header)) =
        signExtend (headerNegative header) 32 raw := by
      rw [signExtend, length]
    rw [extended, intFromWord_eq (length_signExtend _ (by omega))]
    obtain ⟨value⟩ := number
    split
    next sign =>
      rw [intOfLE_signExtend sign]
      simp [eq_comm]
    next =>
      rw [Get.yields_bind]
      simp [eq_comm]
  simp only [Get.yields_bind]
  constructor
  · rintro ⟨raw, mid, head, yields⟩
    obtain ⟨count, rfl⟩ := yields_readExact head
    have length : raw.length = 8 := by exact_mod_cast count
    obtain ⟨word, rfl⟩ := (step raw mid length).mp yields
    refine ⟨raw, length, by omega, by omega, rfl, word, ?_, .inl length⟩
    rw [word]
    exact signExtend_neg (by omega)
  · rintro ⟨raw, length, _, _, rfl, word, _⟩
    exact ⟨raw, rest, read_parses (by rw [length]; rfl) rest, (step raw rest length).mpr ⟨word, rfl⟩⟩

/-- What a successful read consumed.  Unlike for a big integer, the reserved bit may be set when
    the form has eight bytes, and the form may have fill bytes to spare. -/
theorem yields_readBody {header : UInt8} {bs rest : Bytes} {number : IntX} :
    (readBody header).Yields bs number rest ↔
      ∃ raw, raw.length = (header &&& 0x3F).toNat ∧ 8 ≤ raw.length ∧ raw.length ≤ 32 ∧
        bs = raw ++ rest ∧ number.value = intOfLE (signExtend (headerNegative header) 32 raw) ∧
        headerNegative header = decide (number.value < 0) ∧
        (raw.length = 8 ∨ header &&& 0x40 = 0) := by
  unfold readBody
  dsimp only
  -- a body of less than eight bytes is refused, and one of eight has a reader of its own
  split
  next short =>
    have small : (header &&& 0x3F).toNat < 8 := UInt8.lt_iff_toNat_lt.mp short
    simp only [Get.yields_throw, false_iff, not_exists, not_and]
    intro raw length enough
    omega
  next long =>
    have enough : 8 ≤ (header &&& 0x3F).toNat := not_lt.mp (UInt8.lt_iff_toNat_lt.not.mp long)
    split
    next eight =>
      have count : (header &&& 0x3F).toNat = 8 := by rw [eight]; rfl
      rw [count]
      exact yields_eight
    next more =>
      have longer : (header &&& 0x3F).toNat ≠ 8 := fun same => more (UInt8.toNat_inj.mp same)
      rw [show readBigIntWithHeader (some header) = readBigIntBody header from rfl, Get.yields_bind]
      -- only this reader asks for a clear bit 0x40
      simp only [Get.yields_pure, yields_readBigIntBody]
      constructor
      · rintro ⟨value, _, ⟨clear, raw, length, short, rfl, word, sign⟩, rfl, rfl⟩
        exact ⟨raw, length, by omega, short, rfl, word, sign, .inr clear⟩
      · rintro ⟨raw, length, _, short, rfl, word, sign, clear⟩
        exact ⟨number.value, rest, ⟨clear.resolve_left (by omega), raw, length, short, rfl, word, sign⟩,
          rfl, rfl⟩

theorem readBody_local (header : UInt8) : (readBody header).Local := by
  intro bs number rest yields
  obtain ⟨raw, length, enough, short, rfl, word⟩ := yields_readBody.mp yields
  exact ⟨raw, rfl, fun more =>
    yields_readBody.mpr ⟨raw, length, enough, short, rfl, word⟩⟩

theorem readCarbon_local : readCarbon.Local := read1_local.bind readBody_local

theorem readCarbon_consumes : readCarbon.Consumes :=
  read1_consumes.bind fun header => (readBody_local header).steady

theorem is8ByteSafe_iff {number : IntX} : number.is8ByteSafe ↔ Signed 64 number.value := by
  unfold is8ByteSafe Signed
  rw [decide_eq_true_eq]
  norm_num
  omega

/-- The form that the writer puts under the header. -/
def form (number : IntX) : Bytes :=
  if number.is8ByteSafe then intToLE 8 number.value
  else trimFill (decide (number.value < 0)) (intToLE 32 number.value)

/-- The form is trimmed, but never to fewer than eight bytes. -/
theorem form_spec {number : IntX} (fits : FitsSigned 32 number.value) :
    8 ≤ number.form.length ∧ number.form.length ≤ 32 ∧
      Trimmed 8 (decide (number.value < 0)) number.form ∧
      signExtend (decide (number.value < 0)) 32 number.form = intToLE 32 number.value := by
  unfold form
  split
  next safe =>
    have narrow : FitsSigned 8 number.value :=
      Signed.fitsSigned 8 (by decide) (is8ByteSafe_iff.mp safe)
    have length := length_intToLE 8 number.value
    refine ⟨length.ge, by omega, .inl length, ?_⟩
    rw [intToLE_extend narrow 24, signExtend, length]
  next unsafe' =>
    have wide : ¬ FitsSigned 8 number.value := fun narrow =>
      unsafe' (is8ByteSafe_iff.mpr (Signed.of_fitsSigned 8 (by decide) narrow))
    have whole := signExtend_trimWord (decide (number.value < 0)) number.value
    have value : intOfLE (signExtend (decide (number.value < 0)) 32
        (trimFill (decide (number.value < 0)) (intToLE 32 number.value))) = number.value := by
      rw [whole, intOfLE_intToLE fits]
    exact ⟨le_length_of_not_fits value wide (by decide), length_trimWord_le _ _,
      trimmed_trimFill _ _ _, whole⟩

theorem emits_writeCarbon {number : IntX} (fits : FitsSigned 32 number.value) {out : Bytes} :
    number.writeCarbon.Emits () out ↔
      out = bigIntImage (decide (number.value < 0)) number.form := by
  unfold writeCarbon form
  split
  next safe =>
    have header : (if number.value < 0 then 0x88 else 0x08 : Int) =
        if decide (number.value < 0) then 0x88 else 0x08 := by
      simp only [decide_eq_true_eq]
    rw [Put.emits_seq, header]
    simp only [emits_write1, write8, emits_writeSigned, is8ByteSafe_iff.mp safe, bigIntImage,
      length_intToLE, true_and]
    -- The header of the short form is a constant for each sign.
    cases decide (number.value < 0)
    · constructor
      · rintro ⟨_, _, ⟨_, rfl⟩, rfl, rfl⟩
        rfl
      · rintro rfl
        exact ⟨_, _, ⟨by decide, rfl⟩, rfl, rfl⟩
    · constructor
      · rintro ⟨_, _, ⟨_, rfl⟩, rfl, rfl⟩
        rfl
      · rintro rfl
        exact ⟨_, _, ⟨by decide, rfl⟩, rfl, rfl⟩
  next => exact emits_writeBigInt fits

theorem roundTrips :
    RoundTrips (fun number : IntX => Signed 256 number.value) writeCarbon readCarbon := by
  intro number signed
  have fits : FitsSigned 32 number.value := Signed.fitsSigned 32 (by decide) signed
  obtain ⟨enough, short, _, whole⟩ := form_spec fits
  obtain ⟨length, clear, bit⟩ := bigIntHeader_fields short (decide (number.value < 0))
  refine ⟨_, (emits_writeCarbon fits).mpr rfl, (read1_parses _).bind fun rest => ?_⟩
  refine yields_readBody.mpr ⟨number.form, length.symm, enough, short, rfl, ?_, bit, .inr clear⟩
  rw [bit, whole, intOfLE_intToLE fits]

/-! ### Canonical images -/

/-- The image that the writer produces: the reserved bit is clear, and the form is trimmed. -/
def Canonical (image : Bytes) : Prop :=
  ∃ header raw, image = header :: raw ∧ header &&& 0x40 = 0 ∧
    Trimmed 8 (headerNegative header) raw

instance (image : Bytes) : Decidable (Canonical image) :=
  match image with
  | [] => isFalse fun ⟨_, _, equal, _⟩ => by cases equal
  | header :: raw =>
    decidable_of_iff (header &&& 0x40 = 0 ∧ Trimmed 8 (headerNegative header) raw)
      ⟨fun canonical => ⟨header, raw, rfl, canonical⟩, fun ⟨_, _, equal, canonical⟩ => by
        cases equal
        exact canonical⟩

/-- The writer always answers an accepted image with one of the same value, and with the same image
    exactly when that image is canonical. -/
theorem rewrites {bs rest : Bytes} {number : IntX} (yields : readCarbon.Yields bs number rest) :
    ∃ header raw out, bs = (header :: raw) ++ rest ∧ raw.length = (header &&& 0x3F).toNat ∧
      8 ≤ raw.length ∧ readCarbon.Parses (header :: raw) number ∧
      number.writeCarbon.Emits () out ∧ readCarbon.Parses out number ∧
      (Canonical (header :: raw) ↔ out = header :: raw) := by
  obtain ⟨header, mid, head, body⟩ := Get.yields_bind.mp yields
  obtain rfl := yields_read1 head
  obtain ⟨raw, length, enough, short, rfl, word, sign, reserved⟩ := yields_readBody.mp body
  have wide := length_signExtend (headerNegative header) short
  have fits : FitsSigned 32 number.value := by
    have bound := fitsSigned_intOfLE (signExtend (headerNegative header) 32 raw)
    rwa [wide, ← word] at bound
  obtain ⟨enough', short', trimmed', whole⟩ := form_spec fits
  obtain ⟨out, emits, parses⟩ :=
    roundTrips number (Signed.of_fitsSigned 32 (by decide) fits)
  obtain rfl := (emits_writeCarbon fits).mp emits
  -- Both forms extend to the same word, and a trimmed form is determined by its word.
  have same : signExtend (headerNegative header) 32 number.form =
      signExtend (headerNegative header) 32 raw := by
    have image := intToLE_intOfLE (signExtend (headerNegative header) 32 raw)
    rw [wide, ← word] at image
    rw [← image, ← whole, sign]
  refine ⟨header, raw, _, rfl, length, enough, fun more => ?_, emits, parses, ?_⟩
  · exact (read1_parses header).bind (fun more => yields_readBody.mpr
      ⟨raw, length, enough, short, rfl, word, sign, reserved⟩) more
  constructor
  · rintro ⟨_, _, equal, clear, trimmed⟩
    cases equal
    rw [← sign] at trimmed'
    have equal := trimmed'.unique trimmed enough' enough short' short same
    rw [bigIntImage, equal, ← sign, length]
    rw [← header_eq_bigIntHeader clear]
  · -- What the writer produces is canonical, so an image that it reproduces is.
    intro equal
    injection equal with first tail
    obtain ⟨_, clear, _⟩ := bigIntHeader_fields short' (decide (number.value < 0))
    rw [first] at clear
    rw [tail, ← sign] at trimmed'
    exact ⟨header, raw, rfl, clear, trimmed'⟩

end IntX

end PhantasmaPy.Carbon
