import PhantasmaPy.VM.ObjectLaws
import PhantasmaPy.VM.Transaction
import PhantasmaPy.Carbon.Audits

/-! # Malformed VM images

What the decoders of `VMObject` and `Transaction` do with bytes that are no image: strict prefixes of an
image are refused, and the exceptions that escape from `VMObject.from_bytes` have two causes.
-/

namespace PhantasmaPy.VM

open Wire Wire.Get
open Carbon (Refusal refusal_serializationError read_fails read1_fails cut_refused readAll_closed_iff
  decodeText_eq_error not_refusal_unicodeDecodeError)

/-- Of the VM decoders only the behaviour on truncated input is inferred. -/
abbrev Audit {α : Type} (reader : Reader α) := Audited Refusal (Escapes Refusal) reader

/-! ## Primitives -/

instance readU8_audit : Audit readU8 := Carbon.read1_audit

instance readU32LE_audit : Audit readU32LE := Carbon.readUnsigned_audit 4

instance readBool_audit : Audit readBool := by delta readBool; infer_instance

instance readVarUint_audit : Audit readVarUint := by
  delta readVarUint readU16LE readU32LE readU64LE; infer_instance

instance readVarBytes_audit : Audit readVarBytes := by delta readVarBytes; infer_instance

instance readString_audit : Audit readString := by delta readString; infer_instance

instance readBigInteger_audit : Audit readBigInteger := by delta readBigInteger; infer_instance

theorem readU8_refuses : Refuses Refusal readU8 := fun _ _ fails => read1_fails fails

theorem readUnsigned_refuses (width : Nat) : Refuses Refusal (readUnsigned width) :=
  Refuses.bind (fun _ _ fails => read_fails fails) fun _ => .pure _

theorem readVarUint_refuses : Refuses Refusal readVarUint :=
  readU8_refuses.bind fun _ => .ite (readUnsigned_refuses 2) (.ite (readUnsigned_refuses 4)
    (.ite (readUnsigned_refuses 8) (.pure _)))

theorem readVarBytes_refuses : Refuses Refusal readVarBytes :=
  readVarUint_refuses.bind fun _ =>
    .ite (.throw (refusal_serializationError _)) fun _ _ fails => read_fails fails

namespace VMType

instance audit : Audit VMType.read := by delta VMType.read; infer_instance

theorem read_refuses : Refuses Refusal VMType.read := .failWith (refusal_serializationError _)

theorem ofByte_eq_ok {byte : UInt8} {type : VMType} : ofByte byte = .ok type ↔ byte = type.toByte := by
  constructor
  · intro found
    revert found
    unfold ofByte
    split <;> intro found <;> cases found <;> rfl
  · rintro rfl
    exact ofByte_toByte type

theorem yields_read {bs rest : Bytes} {type : VMType} :
    VMType.read.Yields bs type rest ↔ bs = type.toByte :: rest := by
  constructor
  · intro yields
    rw [VMType.read, yields_failWith] at yields
    obtain ⟨byte, mid, first, found⟩ := yields_bind.mp yields
    obtain ⟨known, rfl⟩ := yields_check.mp found
    rw [yields_read1 first, ofByte_eq_ok.mp known]
  · rintro rfl
    exact read_parses type rest

end VMType

namespace VMObject

/-! ## Truncated images -/

instance audit : Audit VMObject.read :=
  Audited.fix readBody_guarded Carbon.refusal_endOfStream.out (fun read known _ => by
    delta readBody
    have item (items : List (VMObject × VMObject)) : Audit (readItem (read ()) items) := by
      delta readItem; infer_instance
    refine @Audited.ofBind _ _ _ _ _ _ _ VMType.audit fun type => ?_
    cases type <;> infer_instance) ()

end VMObject

namespace Transaction

instance readMessage_audit : Audit readMessage := by delta readMessage; infer_instance

instance readSignature_audit : Audit readSignature := by delta readSignature; infer_instance

instance audit : Audit reader := by delta reader; infer_instance

end Transaction

/-- Every strict prefix of an accepted image is refused. -/
theorem strictPrefix_refused :
    (∀ raw obj, VMObject.fromBytes raw = .ok obj → ∀ cut, cut <+: raw → cut ≠ raw →
      ∃ message, VMObject.fromBytes cut = .error (.serializationError message)) ∧
    ∀ raw tx, Transaction.fromBytes raw = .ok tx → ∀ cut, cut <+: raw → cut ≠ raw →
      ∃ message, Transaction.fromBytes cut = .error (.serializationError message) := by
  constructor
  · intro raw obj accepted cut isPrefix strict
    exact cut_refused VMObject.audit.truncates accepted isPrefix strict
  · intro raw tx accepted cut isPrefix strict
    exact cut_refused Transaction.audit.truncates accepted isPrefix strict

/-- A number without its last byte, and a transaction without the count of its signatures. -/
theorem strictPrefix_refused_sample :
    (∃ message, VMObject.fromBytes [3, 2, 5] = .error (.serializationError message)) ∧
      ∃ message, Transaction.fromBytes [0, 0, 0, 0, 0, 0, 0, 0] = .error (.serializationError message) := by
  have number : VMObject.fromBytes [3, 2, 5, 0] = .ok (.number 5) := by rfl
  have empty : Transaction.fromBytes [0, 0, 0, 0, 0, 0, 0, 0, 0] =
      .ok { nexusName := [], chainName := [], script := [], expiration := 0, payload := [] } := by
    rfl
  exact ⟨strictPrefix_refused.1 _ _ number _ ⟨[0], rfl⟩ (by decide),
    strictPrefix_refused.2 _ _ empty _ ⟨[0], rfl⟩ (by decide)⟩

/-! ## Escaping exceptions -/

theorem readString_fails_iff {bs : Bytes} :
    (∃ e, readString.Fails bs e ∧ ¬ Refusal e) ↔
      ∃ raw rest, readVarBytes.Yields bs raw rest ∧ Str.decodeUtf8 raw = none := by
  unfold readString
  simp only [Get.fails_bind, Get.fails_check, decodeText_eq_error]
  constructor
  · rintro ⟨e, stored | ⟨raw, rest, stored, malformed, rfl⟩, other⟩
    · exact absurd (readVarBytes_refuses stored) other
    · exact ⟨raw, rest, stored, malformed⟩
  · rintro ⟨raw, rest, stored, malformed⟩
    exact ⟨_, .inr ⟨raw, rest, stored, malformed, rfl⟩, not_refusal_unicodeDecodeError⟩

theorem not_refusal_typeError : ¬ Refusal .typeError := by
  rintro ⟨message, absurd⟩
  cases absurd

namespace VMObject

theorem setItem_eq_error {items : List (VMObject × VMObject)} {key value : VMObject} {e : PyError} :
    setItem items key value = .error e ↔ key.hashable = false ∧ e = .typeError := by
  unfold setItem
  split
  next hashable => simp [hashable]
  next unhashable =>
    rw [Except.error.injEq, eq_comm]
    exact ⟨fun same => ⟨by simpa using unhashable, same⟩, fun both => both.2⟩

/-- Behind the header of a struct, whose count is at `bs`, the decoder reaches an entry at `rest`. -/
def AtEntry (bs rest : Bytes) : Prop :=
  ∃ count mid index items, readVarUint.Yields bs count mid ∧ index < count.toNat ∧
    (Get.loop (readItem read) index []).Yields mid items rest

/-- While the bytes are decoded from left to right, a text is reached that is not UTF-8, or the end of
    an entry whose key is a struct. -/
inductive Faults : Bytes → Prop
  | text {bs raw rest : Bytes} (stored : readVarBytes.Yields bs raw rest)
      (malformed : Str.decodeUtf8 raw = Option.none) : Faults (VMType.STRING.toByte :: bs)
  | key {bs rest : Bytes} (reached : AtEntry bs rest) (fault : Faults rest) :
      Faults (VMType.STRUCT.toByte :: bs)
  | value {bs rest mid : Bytes} {key : VMObject} (reached : AtEntry bs rest)
      (keyRead : read.Yields rest key mid) (fault : Faults mid) : Faults (VMType.STRUCT.toByte :: bs)
  | structKey {bs rest mid after : Bytes} {key value : VMObject} (reached : AtEntry bs rest)
      (keyRead : read.Yields rest key mid) (valueRead : read.Yields mid value after)
      (isStruct : key.hashable = false) : Faults (VMType.STRUCT.toByte :: bs)

theorem AtEntry.length_le {bs rest : Bytes} (reached : AtEntry bs rest) : rest.length ≤ bs.length := by
  obtain ⟨count, mid, index, items, counted, -, before⟩ := reached
  have shorter := readVarUint_local.shrinks counted
  have rounds := Get.Shrinks.loop (readItem_shrinks read_shrinks) index [] before
  omega

/-- What follows the type of an object other than a string or a struct is accepted or refused. -/
theorem plainBody_refuses {type : VMType} (noString : type ≠ .STRING) (noStruct : type ≠ .STRUCT)
    {bs : Bytes} {e : PyError} (fails : read.Fails (type.toByte :: bs) e) : Refusal e := by
  rw [read_eq, readBody, Get.fails_bind] at fails
  rcases fails with unknown | ⟨found, mid, first, fails⟩
  · exact VMType.read_refuses unknown
  obtain ⟨rfl, rfl⟩ := (VMType.read_parses type bs).unique first
  have u32 : Refuses Refusal readU32LE := readUnsigned_refuses 4
  cases type with
  | STRING => contradiction
  | STRUCT => contradiction
  | NONE => exact Refuses.pure _ fails
  | BOOL => exact Refuses.bind (readU8_refuses.bind fun _ => .pure _) (fun _ => .pure _) fails
  | BYTES => exact readVarBytes_refuses.bind (fun _ => .pure _) fails
  | ENUM => exact readU8_refuses.bind (fun _ => .pure _) fails
  | NUMBER => exact Refuses.bind (readVarBytes_refuses.bind fun _ => .pure _) (fun _ => .pure _) fails
  | TIMESTAMP => exact u32.bind (fun _ => .pure _) fails
  | OBJECT => exact readVarBytes_refuses.bind (fun _ => .ite (.pure _) (.pure _)) fails

/-- The failure of a string is that of its text. -/
theorem stringBody_fails {bs : Bytes} {e : PyError} :
    read.Fails (VMType.STRING.toByte :: bs) e ↔ readString.Fails bs e := by
  have first := VMType.read_parses .STRING bs
  rw [read_eq, readBody, Get.fails_bind]
  constructor
  · rintro (unknown | ⟨found, mid, yields, fails⟩)
    · exact absurd unknown first.not_fails
    · obtain ⟨rfl, rfl⟩ := first.unique yields
      rcases Get.fails_bind.mp fails with fails | ⟨_, _, _, absurd⟩
      · exact fails
      · exact (Get.not_fails_pure absurd).elim
  · intro fails
    exact .inr ⟨.STRING, bs, first, Get.fails_bind.mpr (.inl fails)⟩

/-- A struct fails at its count, or at one of its entries. -/
theorem structBody_fails {bs : Bytes} {e : PyError} :
    read.Fails (VMType.STRUCT.toByte :: bs) e ↔ readVarUint.Fails bs e ∨
      ∃ count mid index items rest, readVarUint.Yields bs count mid ∧ index < count.toNat ∧
        (Get.loop (readItem read) index []).Yields mid items rest ∧ (readItem read items).Fails rest e := by
  have first := VMType.read_parses .STRUCT bs
  conv_lhs => rw [read_eq, readBody, Get.fails_bind]
  constructor
  · rintro (unknown | ⟨found, mid, yields, fails⟩)
    · exact absurd unknown first.not_fails
    · obtain ⟨rfl, rfl⟩ := first.unique yields
      rcases Get.fails_bind.mp fails with fails | ⟨count, mid, counted, fails⟩
      · exact .inl fails
      · rcases Get.fails_bind.mp fails with fails | ⟨_, _, _, absurd⟩
        · obtain ⟨index, inside, items, rest, before, fails⟩ := Get.fails_loop.mp fails
          exact .inr ⟨count, mid, index, items, rest, counted, inside, before, fails⟩
        · exact (Get.not_fails_pure absurd).elim
  · intro fails
    refine .inr ⟨.STRUCT, bs, first, Get.fails_bind.mpr ?_⟩
    rcases fails with fails | ⟨count, mid, index, items, rest, counted, inside, before, fails⟩
    · exact .inl fails
    · refine .inr ⟨count, mid, counted, Get.fails_bind.mpr (.inl ?_)⟩
      exact Get.fails_loop.mpr ⟨index, inside, items, rest, before, fails⟩

/-- An entry fails at its key, at its value, or because its key is a struct. -/
theorem readItem_fails {items : List (VMObject × VMObject)} {bs : Bytes} {e : PyError} :
    (readItem read items).Fails bs e ↔ read.Fails bs e ∨ ∃ key mid, read.Yields bs key mid ∧
      (read.Fails mid e ∨ ∃ value rest, read.Yields mid value rest ∧
        key.hashable = false ∧ e = .typeError) := by
  unfold readItem
  simp only [Get.fails_bind, Get.fails_check, setItem_eq_error]

/-- The decoder fails without refusing exactly where there is a fault. -/
theorem fails_iff (bs : Bytes) : (∃ e, read.Fails bs e ∧ ¬ Refusal e) ↔ Faults bs := by
  constructor
  · induction length : bs.length using Nat.strong_induction_on generalizing bs with
    | _ n ih =>
      rintro ⟨e, fails, other⟩
      -- Only a decoder that has read a type can fail without refusing.
      have typed : ∃ (type : VMType) (rest : Bytes), bs = type.toByte :: rest := by
        rw [read_eq, readBody, Get.fails_bind] at fails
        rcases fails with unknown | ⟨type, rest, first, -⟩
        · exact absurd (VMType.read_refuses unknown) other
        · exact ⟨type, rest, VMType.yields_read.mp first⟩
      obtain ⟨type, rest, rfl⟩ := typed
      by_cases string : type = .STRING
      · subst string
        obtain ⟨raw, after, stored, malformed⟩ :=
          readString_fails_iff.mp ⟨e, stringBody_fails.mp fails, other⟩
        exact .text stored malformed
      by_cases struct : type = .STRUCT
      · subst struct
        rcases structBody_fails.mp fails with fails | ⟨count, mid, index, items, entry, counted, inside,
          before, fails⟩
        · exact absurd (readVarUint_refuses fails) other
        have reached : AtEntry rest entry := ⟨count, mid, index, items, counted, inside, before⟩
        have shorter := reached.length_le
        rw [List.length_cons] at length
        rcases readItem_fails.mp fails with fails | ⟨key, behind, keyRead, fails | ⟨value, after,
          valueRead, isStruct, rfl⟩⟩
        · exact .key reached (ih entry.length (by omega) entry rfl ⟨e, fails, other⟩)
        · have keyShorter := read_shrinks keyRead
          exact .value reached keyRead (ih behind.length (by omega) behind rfl ⟨e, fails, other⟩)
        · exact .structKey reached keyRead valueRead isStruct
      · exact absurd (plainBody_refuses string struct fails) other
  · intro faults
    have entryFails {bs entry : Bytes} {e : PyError} (reached : AtEntry bs entry)
        (fails : ∀ items, (readItem read items).Fails entry e) :
        read.Fails (VMType.STRUCT.toByte :: bs) e := by
      obtain ⟨count, mid, index, items, counted, inside, before⟩ := reached
      exact structBody_fails.mpr
        (.inr ⟨count, mid, index, items, entry, counted, inside, before, fails items⟩)
    induction faults with
    | text stored malformed =>
      obtain ⟨e, fails, other⟩ := readString_fails_iff.mpr ⟨_, _, stored, malformed⟩
      exact ⟨e, stringBody_fails.mpr fails, other⟩
    | key reached _ ih =>
      obtain ⟨e, fails, other⟩ := ih
      exact ⟨e, entryFails reached fun _ => readItem_fails.mpr (.inl fails), other⟩
    | value reached keyRead _ ih =>
      obtain ⟨e, fails, other⟩ := ih
      exact ⟨e, entryFails reached fun _ =>
        readItem_fails.mpr (.inr ⟨_, _, keyRead, .inl fails⟩), other⟩
    | structKey reached keyRead valueRead isStruct =>
      exact ⟨.typeError, entryFails reached fun _ =>
        readItem_fails.mpr (.inr ⟨_, _, keyRead, .inr ⟨_, _, valueRead, isStruct, rfl⟩⟩),
        not_refusal_typeError⟩

end VMObject

/-- The decoder returns an object or raises the SDK's own error exactly where the bytes have no fault. -/
theorem fromBytes_failsClosed_iff (raw : Bytes) :
    (∃ obj, VMObject.fromBytes raw = .ok obj) ∨
      (∃ message, VMObject.fromBytes raw = .error (.serializationError message)) ↔
    ¬ VMObject.Faults raw := by
  rw [← VMObject.fails_iff]
  exact readAll_closed_iff VMObject.read raw

/-- A string of one byte that is not UTF-8, and a struct whose one key is an empty struct. -/
theorem textAndStructKey_escape :
    VMObject.fromBytes [4, 1, 0xFF] = .error .unicodeDecodeError ∧
      VMObject.fromBytes [1, 1, 1, 0, 0] = .error .typeError := by
  have raised {result : Except PyError VMObject} {e : PyError}
      (error : result.map (fun _ => ()) = .error e) : result = .error e := by
    cases result with
    | error e' => exact congrArg Except.error (Except.error.inj error)
    | ok obj => cases error
  exact ⟨raised (by decide +kernel), raised (by decide +kernel)⟩

end PhantasmaPy.VM
