import PhantasmaPy.Carbon.ModuleLaws
import PhantasmaPy.Wire.Audit

/-! # Audits of the Carbon readers

The refusals of the Carbon readers are the `SerializationError`s.  Their bad fields are bytes that are no
member of an enumeration and texts that are not UTF-8.
-/

namespace PhantasmaPy.Carbon

open Wire Wire.Get CarbonReader

/-- The SDK's own error for malformed data. -/
def Refusal (e : PyError) : Prop := ∃ message, e = .serializationError message

theorem refusal_serializationError (message : String) : Refusal (serializationError message) :=
  ⟨_, rfl⟩

instance (message : String) : Fact (Refusal (serializationError message)) := ⟨refusal_serializationError message⟩

/-! ## Numbers and byte strings -/

instance refusal_endOfStream : Fact (Refusal endOfStream) := ⟨_, rfl⟩

section Primitives

variable {bad : Fields PyError}

instance refusing_new {size : Nat} (raw : Bytes) : Refusing Refusal (FixedBytes.new size raw) where
  refuses e fails := by
    unfold FixedBytes.new at fails
    by_cases empty : raw.length = 0 ∧ size ≠ 0
    · rw [if_pos empty] at fails
      cases fails
    · rw [if_neg empty] at fails
      by_cases length : raw.length = size
      · rw [dif_pos length] at fails
        cases fails
      · rw [dif_neg length] at fails
        cases fails
        exact refusal_serializationError _

instance refusing_intFromWord (word : Bytes) : Refusing Refusal (intFromWord word) where
  refuses e fails := by
    unfold intFromWord at fails
    split at fails
    · cases fails
      exact refusal_serializationError _
    · cases fails

theorem read_fails {count : Int} {bs : Bytes} {e : PyError} (fails : (read count).Fails bs e) :
    Refusal e := by
  unfold read at fails
  split at fails
  · exact Get.fails_throw.mp fails ▸ refusal_endOfStream.out
  · exact (Get.fails_take.mp fails).2 ▸ refusal_endOfStream.out

theorem read1_fails {bs : Bytes} {e : PyError} (fails : read1.Fails bs e) : Refusal e := by
  rcases Get.fails_bind.mp fails with head | ⟨_, _, _, tail⟩
  · exact read_fails head
  · exact absurd tail Get.not_fails_pure

theorem readSigned_refuses (width : Nat) : Refuses Refusal (readSigned width) :=
  Refuses.bind (fun _ _ fails => read_fails fails) fun _ => .pure _

instance read_audit (count : Int) : Audited Refusal bad (read count) := by delta read; infer_instance

instance read1_audit : Audited Refusal bad read1 := by delta read1; infer_instance

instance readSigned_audit (width : Nat) : Audited Refusal bad (readSigned width) := by
  delta readSigned; infer_instance

instance readUnsigned_audit (width : Nat) : Audited Refusal bad (readUnsigned width) := by
  delta readUnsigned; infer_instance

instance readByte_audit : Audited Refusal bad readByte := by delta readByte; infer_instance

instance read2_audit : Audited Refusal bad read2 := readSigned_audit 2

instance read4_audit : Audited Refusal bad read4 := readSigned_audit 4

instance read4u_audit : Audited Refusal bad read4u := readUnsigned_audit 4

instance read8_audit : Audited Refusal bad read8 := readSigned_audit 8

instance read8u_audit : Audited Refusal bad read8u := readUnsigned_audit 8

instance readFixed_audit (size : Nat) : Audited Refusal bad (readFixed size) := by
  delta readFixed; infer_instance

instance read16_audit : Audited Refusal bad read16 := readFixed_audit 16

instance read32_audit : Audited Refusal bad read32 := readFixed_audit 32

instance read64_audit : Audited Refusal bad read64 := readFixed_audit 64

instance readIntElement_audit (width : Nat) (signed : Bool) : Audited Refusal bad (readIntElement width signed) :=
  match width with
  | 1 => inferInstanceAs (Audited Refusal bad (do
      let value ← read1
      return if signed ∧ value.toNat ≥ 0x80 then (value.toNat - 0x100 : Int) else value.toNat))
  | 2 => read2_audit
  | 4 => read4_audit
  | 8 => inferInstanceAs (Audited Refusal bad (if signed then read8 else read8u))
  | 0 | 3 | 5 | 6 | 7 | _ + 9 => Audited.ofThrow _

/-! ## Arrays -/

theorem readLength_fails {bs : Bytes} {e : PyError} :
    readLength.Fails bs e ↔ read4.Fails bs e ∨ ∃ length rest, read4.Yields bs length rest ∧
      (length < 0 ∧ e = serializationError "negative array length" ∨ rest.length < length ∧
        e = serializationError s!"array length {length} exceeds remaining bytes {rest.length}") := by
  unfold readLength
  rw [Get.fails_bind]
  refine or_congr_right (exists_congr fun length => exists_congr fun rest => and_congr_right fun _ => ?_)
  by_cases negative : length < 0
  · rw [if_pos negative, Get.fails_throw]
    have nonneg : ¬ (rest.length : Int) < length := by omega
    simp [negative, nonneg, eq_comm]
  · -- looking at the remaining bytes never fails
    have run : remaining.Yields rest rest.length rest := Get.yields_remaining.mpr ⟨rfl, rfl⟩
    rw [if_neg negative, Get.fails_bind]
    constructor
    · rintro (fails | ⟨left, mid, yields, fails⟩)
      · exact absurd fails run.not_fails
      · obtain ⟨rfl, rfl⟩ := yields.unique run
        split at fails
        next exceeds => exact .inr ⟨exceeds, (Get.fails_throw.mp fails).symm⟩
        next => exact absurd fails Get.not_fails_pure
    · rintro (⟨other, -⟩ | ⟨exceeds, rfl⟩)
      · exact absurd other negative
      · refine .inr ⟨_, _, run, ?_⟩
        rw [if_pos exceeds]
        exact Get.fails_throw.mpr rfl

/-- The guard on the remaining bytes is the one place where a reader looks at bytes that it does not
    consume; on a shorter input it refuses more. -/
instance readLength_audit : Audited Refusal bad readLength where
  explained bs e fails := by
    rcases readLength_fails.mp fails with first | ⟨length, rest, -, ⟨-, rfl⟩ | ⟨-, rfl⟩⟩
    · exact .inl (readSigned_refuses 4 first)
    · exact .inl (refusal_serializationError _)
    · exact .inl (refusal_serializationError _)
  truncates := by
    intro bs more count rest yields
    obtain ⟨head, within⟩ := yields_readLength.mp yields
    rcases (@read4_audit bad).truncates head with ⟨rest', rfl, head'⟩ | ⟨e, fails, refuses⟩
    · by_cases enough : count ≤ rest'.length
      · exact .inl ⟨rest', rfl, yields_readLength.mpr ⟨head', enough⟩⟩
      · refine .inr ⟨_, readLength_fails.mpr (.inr ⟨count, rest', head', .inr ⟨by omega, rfl⟩⟩), ?_⟩
        exact refusal_serializationError _
    · exact .inr ⟨e, readLength_fails.mpr (.inl fails), refuses⟩

instance readArray_audit {α : Type} (item : CarbonReader α) [Audited Refusal bad item] :
    Audited Refusal bad (readArray item) := by
  delta readArray; infer_instance

instance readByteArray_audit : Audited Refusal bad readByteArray := by delta readByteArray; infer_instance

instance readByteArrays_audit : Audited Refusal bad readByteArrays := readArray_audit _

instance readIntArray_audit (width : Nat) (signed : Bool) : Audited Refusal bad (readIntArray width signed) :=
  readArray_audit _

instance readBigIntBody_audit (header : UInt8) : Audited Refusal bad (readBigIntBody header) := by
  delta readBigIntBody; infer_instance

instance readBigIntWithHeader_audit : (header : Option UInt8) → Audited Refusal bad (readBigIntWithHeader header)
  | some header => readBigIntBody_audit header
  | none => by delta readBigIntWithHeader; infer_instance

instance readBigInt_audit : Audited Refusal bad readBigInt := readBigIntWithHeader_audit none

instance readBigIntArray_audit : Audited Refusal bad readBigIntArray := readArray_audit _

instance IntX.readBody_audit (header : UInt8) : Audited Refusal bad (IntX.readBody header) := by
  delta IntX.readBody; infer_instance

instance IntX.audit : Audited Refusal bad IntX.readCarbon := by delta IntX.readCarbon; infer_instance

end Primitives

/-! ## Texts -/

theorem decodeText_eq_error {raw : Bytes} {e : PyError} :
    decodeText raw = .error e ↔ Str.decodeUtf8 raw = none ∧ e = .unicodeDecodeError := by
  unfold decodeText
  cases Str.decodeUtf8 raw <;> simp [eq_comm]

theorem not_refusal_unicodeDecodeError : ¬ Refusal .unicodeDecodeError := by
  rintro ⟨message, absurd⟩
  cases absurd

theorem splitAtZero_append {bs more raw rest : Bytes} (split : splitAtZero bs = some (raw, rest)) :
    splitAtZero (bs ++ more) = some (raw, rest ++ more) := by
  obtain ⟨free, rfl⟩ := splitAtZero_eq_some.mp split
  exact splitAtZero_eq_some.mpr ⟨free, by simp⟩

theorem readZeroTerminated_fails {bs : Bytes} {e : PyError} :
    readZeroTerminated.Fails bs e ↔ splitAtZero bs = none ∧ e = endOfStream := by
  unfold Get.Fails readZeroTerminated
  simp only [StateT.run_bind, StateT.run_get, pure_bind]
  cases split : splitAtZero bs with
  | none =>
    simp only [true_and]
    exact ⟨fun fails => (Except.error.inj fails).symm, fun same => same ▸ rfl⟩
  | some result => exact iff_of_false (fun fails => by cases fails) (by simp)

theorem readZeroTerminated_truncates : Truncates Refusal readZeroTerminated := by
  intro bs more raw rest yields
  rw [yields_readZeroTerminated, ← splitAtZero_eq_some] at yields
  cases split : splitAtZero bs with
  | none => exact .inr ⟨_, readZeroTerminated_fails.mpr ⟨split, rfl⟩, refusal_endOfStream.out⟩
  | some result =>
    obtain ⟨raw', rest'⟩ := result
    have whole : splitAtZero (bs ++ more) = some (raw', rest' ++ more) := splitAtZero_append split
    obtain ⟨rfl, rfl⟩ := Prod.mk.inj (Option.some.inj (whole.symm.trans yields))
    exact .inl ⟨rest', rfl, yields_readZeroTerminated.mpr (splitAtZero_eq_some.mp split)⟩

theorem yields_read1_cons (b : UInt8) (bs : Bytes) : read1.Yields (b :: bs) b bs := read1_parses b bs

theorem not_refusal_valueError : ¬ Refusal .valueError := by
  rintro ⟨message, absurd⟩
  cases absurd

/-! ## Bad fields -/

/-- The fields of an enumeration with a byte that is the value of no member, and the texts that are there as
    a whole but are not UTF-8. -/
inductive BadField : Fields PyError
  | vmType {byte : UInt8} {rest : Bytes} (unknown : ∀ member : VMType, byte ≠ member.toByte) :
      BadField VMType.readCarbon (byte :: rest)
  | txType {byte : UInt8} {rest : Bytes} (unknown : ∀ member : TxType, byte ≠ member.toByte) :
      BadField TxType.readByte (byte :: rest)
  | listingType {byte : UInt8} {rest : Bytes} (unknown : ∀ member : ListingType, byte ≠ member.toByte) :
      BadField ListingType.readByte (byte :: rest)
  | smallString {length : UInt8} {raw rest : Bytes} (count : raw.length = length.toNat)
      (malformed : Str.decodeUtf8 raw = none) : BadField SmallString.readCarbon (length :: (raw ++ rest))
  | stringZ {raw rest : Bytes} (free : 0 ∉ raw) (malformed : Str.decodeUtf8 raw = none) :
      BadField readStringZ (raw ++ 0 :: rest)

abbrev Audit {α : Type} (reader : CarbonReader α) := Audited Refusal BadField reader

/-! ### Texts -/

/-- A zero-terminated text is refused at the end of the data and escapes where it is not UTF-8. -/
theorem readStringZ_fails {bs : Bytes} {e : PyError} : readStringZ.Fails bs e ↔
    splitAtZero bs = none ∧ e = endOfStream ∨ ∃ raw rest, (0 ∉ raw ∧ bs = raw ++ 0 :: rest) ∧
      Str.decodeUtf8 raw = none ∧ e = .unicodeDecodeError := by
  unfold readStringZ
  simp only [Get.fails_bind, Get.fails_check, decodeText_eq_error, yields_readZeroTerminated,
    readZeroTerminated_fails]

instance readStringZ_audit : Audit readStringZ := by
  have steps : Audited Refusal (Escapes Refusal) readStringZ := by
    have : Audited Refusal (Escapes Refusal) readZeroTerminated :=
      .ofField (explained_escapes _) readZeroTerminated_truncates
    delta readStringZ
    infer_instance
  refine .ofField ⟨fun bs e fails => ?_⟩ steps.truncates
  rcases readStringZ_fails.mp fails with ⟨-, rfl⟩ | ⟨raw, rest, ⟨free, rfl⟩, malformed, -⟩
  · exact .inl refusal_endOfStream.out
  · exact .inr (.stringZ free malformed)

instance readStringZArray_audit : Audit readStringZArray := readArray_audit _

/-- A short text is refused at the end of the data and escapes where it is not UTF-8. -/
theorem SmallString.explained {bs : Bytes} {e : PyError} (fails : SmallString.readCarbon.Fails bs e) :
    Refusal e ∨ BadField SmallString.readCarbon bs := by
  unfold SmallString.readCarbon at fails
  simp only [Get.fails_bind, Get.fails_check, Get.yields_check] at fails
  rcases fails with fails | ⟨length, mid, head, fails | ⟨raw, rest, body, malformed | ⟨text, _, ⟨decoded, _⟩,
    refused⟩⟩⟩
  · exact .inl (read1_fails fails)
  · exact .inl (read_fails fails)
  · obtain rfl := yields_read1 head
    obtain ⟨count, rfl⟩ := yields_readExact body
    exact .inr (.smallString (by exact_mod_cast count) (decodeText_eq_error.mp malformed).1)
  · -- the text that was decoded has the bytes that were read, of which there are at most 255
    obtain ⟨count, rfl⟩ := yields_readExact body
    have encoded := decodeText_iff_encodeText.mp decoded
    have small : raw.length ≤ 255 := by
      have byte := length.toNat_lt
      have same : raw.length = length.toNat := by exact_mod_cast count
      omega
    have built := SmallString.new_value ⟨text, raw, encoded, small⟩
    rw [built] at refused
    cases refused

instance SmallString.audit : Audit SmallString.readCarbon := by
  have steps : Audited Refusal (Escapes Refusal) SmallString.readCarbon := by
    delta SmallString.readCarbon
    infer_instance
  exact .ofField ⟨fun _ _ fails => SmallString.explained fails⟩ steps.truncates

/-! ### Enumerations -/

section Enumerations

variable {α : Type} {toByte : α → UInt8} {ofByte : UInt8 → Except PyError α}

/-- The conversion of a byte fails with a `ValueError` where the byte is the value of no member. -/
theorem readTag_fails (members : ∀ byte member, ofByte byte = .ok member ↔ byte = toByte member)
    (errors : ∀ byte e, ofByte byte = .error e → e = .valueError) {bs : Bytes} {e : PyError} :
    (do let byte ← read1; Get.check (ofByte byte) : CarbonReader α).Fails bs e ↔ read1.Fails bs e ∨
      ∃ byte rest, bs = byte :: rest ∧ (∀ member, byte ≠ toByte member) ∧ e = .valueError := by
  simp only [Get.fails_bind, Get.fails_check]
  refine or_congr_right ?_
  constructor
  · rintro ⟨byte, rest, head, refused⟩
    refine ⟨byte, rest, yields_read1 head, fun member same => ?_, errors byte e refused⟩
    rw [(members byte member).mpr same] at refused
    cases refused
  · rintro ⟨byte, rest, rfl, unknown, rfl⟩
    cases result : ofByte byte with
    | ok member => exact absurd ((members byte member).mp result) (unknown member)
    | error e =>
      obtain rfl := errors byte e result
      exact ⟨byte, rest, yields_read1_cons _ _, result⟩

/-- An enumeration is audited if its unknown bytes are among the bad fields. -/
theorem tagAudit (members : ∀ byte member, ofByte byte = .ok member ↔ byte = toByte member)
    (errors : ∀ byte e, ofByte byte = .error e → e = .valueError)
    (listed : ∀ byte rest, (∀ member, byte ≠ toByte member) →
      BadField (do let byte ← read1; Get.check (ofByte byte) : CarbonReader α) (byte :: rest)) :
    Audit (do let byte ← read1; Get.check (ofByte byte) : CarbonReader α) := by
  have steps : Audited Refusal (Escapes Refusal) (do let byte ← read1; Get.check (ofByte byte) : CarbonReader α) :=
    inferInstance
  refine .ofField ⟨fun bs e fails => ?_⟩ steps.truncates
  rcases (readTag_fails members errors).mp fails with head | ⟨byte, rest, rfl, unknown, -⟩
  · exact .inl (read1_fails head)
  · exact .inr (listed byte rest unknown)

end Enumerations

theorem VMType.ofByte_eq_ok {byte : UInt8} {type : VMType} :
    ofByte byte = .ok type ↔ byte = type.toByte := by
  constructor
  · intro found
    revert found
    unfold ofByte
    split <;> intro found <;> cases found <;> rfl
  · rintro rfl
    exact ofByte_toByte type

theorem VMType.ofByte_eq_error {byte : UInt8} {e : PyError} (failed : ofByte byte = .error e) :
    e = .valueError := by
  unfold ofByte at failed
  split at failed <;> cases failed
  rfl

theorem TxType.ofByte_eq_error {byte : UInt8} {e : PyError} (failed : ofByte byte = .error e) :
    e = .valueError := by
  unfold ofByte at failed
  split at failed <;> cases failed
  rfl

theorem ListingType.ofByte_eq_ok {byte : UInt8} {type : ListingType} :
    ofByte byte = .ok type ↔ byte = type.toByte := by
  cases type
  unfold ofByte
  split
  · exact iff_of_true rfl rfl
  next nonzero => exact iff_of_false (fun found => by cases found) nonzero

theorem ListingType.ofByte_eq_error {byte : UInt8} {e : PyError} (failed : ofByte byte = .error e) :
    e = .valueError := by
  unfold ofByte at failed
  split at failed <;> cases failed
  rfl

instance VMType.audit : Audit VMType.readCarbon :=
  tagAudit (fun _ _ => VMType.ofByte_eq_ok) (fun _ _ => VMType.ofByte_eq_error) fun _ _ => .vmType

instance TxType.audit : Audit TxType.readByte :=
  tagAudit (fun _ _ => TxType.ofByte_eq_ok) (fun _ _ => TxType.ofByte_eq_error) fun _ _ => .txType

instance ListingType.audit : Audit ListingType.readByte :=
  tagAudit (fun _ _ => ListingType.ofByte_eq_ok) (fun _ _ => ListingType.ofByte_eq_error) fun _ _ => .listingType

/-- A bad field raises something else than the SDK's own error. -/
theorem BadField.escapes {α : Type} {reader : CarbonReader α} {bs : Bytes} (isBad : BadField reader bs) :
    Escapes Refusal reader bs := by
  cases isBad with
  | vmType unknown =>
    exact ⟨_, (readTag_fails (fun _ _ => VMType.ofByte_eq_ok) fun _ _ => VMType.ofByte_eq_error).mpr
      (.inr ⟨_, _, rfl, unknown, rfl⟩), not_refusal_valueError⟩
  | txType unknown =>
    exact ⟨_, (readTag_fails (fun _ _ => TxType.ofByte_eq_ok) fun _ _ => TxType.ofByte_eq_error).mpr
      (.inr ⟨_, _, rfl, unknown, rfl⟩), not_refusal_valueError⟩
  | listingType unknown =>
    exact ⟨_, (readTag_fails (fun _ _ => ListingType.ofByte_eq_ok) fun _ _ => ListingType.ofByte_eq_error).mpr
      (.inr ⟨_, _, rfl, unknown, rfl⟩), not_refusal_valueError⟩
  | @smallString length raw rest count malformed =>
    have body : (read length.toNat).Yields (raw ++ rest) raw rest :=
      read_parses (by exact_mod_cast count.symm) rest
    have decoding : (Get.check (decodeText raw) : CarbonReader Str).Fails rest .unicodeDecodeError :=
      Get.fails_check.mpr (decodeText_eq_error.mpr ⟨malformed, rfl⟩)
    refine ⟨_, Get.fails_bind.mpr (.inr ⟨length, raw ++ rest, yields_read1_cons _ _, ?_⟩),
      not_refusal_unicodeDecodeError⟩
    exact Get.fails_bind.mpr (.inr ⟨raw, rest, body, Get.fails_bind.mpr (.inl decoding)⟩)
  | stringZ free malformed =>
    exact ⟨_, readStringZ_fails.mpr (.inr ⟨_, _, ⟨free, rfl⟩, malformed, rfl⟩), not_refusal_unicodeDecodeError⟩

/-! ## Whole images -/

theorem readAll_eq_error {α : Type} {reader : Reader α} {data : Bytes} {e : PyError} :
    readAll reader data = .error e ↔ reader.Fails data e ∨ ∃ value rest,
      reader.Yields data value rest ∧ rest ≠ [] ∧
        e = serializationError s!"unexpected trailing bytes: {rest.length}" := by
  unfold readAll Get.Fails Get.Yields
  cases run : reader.run data with
  | error e' => simp [bind, Except.bind]
  | ok result =>
    obtain ⟨value, rest⟩ := result
    -- Behind a value only `assert_eof` can raise, and it raises exactly when bytes are left.
    cases rest with
    | nil =>
      refine iff_of_false (fun absurd => by cases absurd) ?_
      rintro (absurd | ⟨value', rest', yields, nonempty, -⟩)
      · cases absurd
      · cases yields
        exact nonempty rfl
    | cons byte rest =>
      have trailing : ((assertEof.run (byte :: rest)) >>= fun _ => pure value : Except PyError α) =
          .error (serializationError s!"unexpected trailing bytes: {(byte :: rest).length}") := rfl
      change ((assertEof.run (byte :: rest)) >>= fun _ => pure value : Except PyError α) = _ ↔ _
      rw [trailing, Except.error.injEq]
      constructor
      · rintro rfl
        exact .inr ⟨value, byte :: rest, rfl, by simp, rfl⟩
      · rintro (absurd | ⟨value', rest', yields, -, rfl⟩)
        · cases absurd
        · cases yields
          rfl

/-- A strict prefix of an accepted image is refused. -/
theorem cut_refused {α : Type} {reader : Reader α} (truncates : Truncates Refusal reader) {raw cut : Bytes} {value : α}
    (accepted : readAll reader raw = .ok value) (isPrefix : cut <+: raw) (strict : cut ≠ raw) :
    ∃ message, readAll reader cut = .error (.serializationError message) := by
  obtain ⟨more, rfl⟩ := isPrefix
  have nonempty : more ≠ [] := by
    rintro rfl
    exact strict (List.append_nil cut).symm
  obtain ⟨e, fails, message, rfl⟩ := truncates.refuses (readAll_eq_ok.mp accepted) nonempty
  exact ⟨message, readAll_eq_error.mpr (.inl fails)⟩

/-- An image is accepted or refused exactly where the reader does not escape. -/
theorem readAll_closed_iff {α : Type} (reader : Reader α) (raw : Bytes) :
    (∃ value, readAll reader raw = .ok value) ∨
      (∃ message, readAll reader raw = .error (.serializationError message)) ↔
    ¬ Escapes Refusal reader raw := by
  rw [not_escapes_iff]
  constructor
  · rintro (⟨value, accepted⟩ | ⟨message, refused⟩)
    · exact .inl ⟨value, [], readAll_eq_ok.mp accepted⟩
    · rcases readAll_eq_error.mp refused with fails | ⟨value, rest, yields, -, -⟩
      · exact .inr ⟨_, fails, message, rfl⟩
      · exact .inl ⟨value, rest, yields⟩
  · rintro (⟨value, rest, yields⟩ | ⟨e, fails, message, rfl⟩)
    · by_cases whole : rest = []
      · subst whole
        exact .inl ⟨value, readAll_eq_ok.mpr yields⟩
      · exact .inr ⟨_, readAll_eq_error.mpr (.inr ⟨value, rest, yields, whole, rfl⟩)⟩
    · exact .inr ⟨message, readAll_eq_error.mpr (.inl fails)⟩

end PhantasmaPy.Carbon
