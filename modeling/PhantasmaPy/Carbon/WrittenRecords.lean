import PhantasmaPy.Carbon.BigIntOverflow
import PhantasmaPy.Carbon.ModuleLaws

/-! # When records are written

The ranges of the fields in which a record has an image.  Some of them are wider than those in which it comes back:
a number of 257 bits is written, and so is a schema whose definitions are dropped on the way.
-/

namespace PhantasmaPy.Carbon

open Wire CarbonWriter

/-! ## Fields -/

theorem write1_written {value : Int} : (∃ out, (write1 value).Emits () out) ↔ Unsigned 8 value := by
  simp [emits_write1]

theorem write4u_written {value : Int} : (∃ out, (write4u value).Emits () out) ↔ Unsigned 32 value := by
  simp [write4u, emits_writeUnsigned]

theorem write8_written {value : Int} : (∃ out, (write8 value).Emits () out) ↔ Signed 64 value := by
  simp [write8, emits_writeSigned]

theorem write8u_written {value : Int} : (∃ out, (write8u value).Emits () out) ↔ Unsigned 64 value := by
  simp [write8u, emits_writeUnsigned]

theorem writeByteArray_written {data : Bytes} : (∃ out, (writeByteArray data).Emits () out) ↔ ShortBytes data := by
  simp [emits_writeByteArray]

theorem write32_written (value : Bytes32) : ∃ out, (write32 value).Emits () out := ⟨_, emits_write.mpr rfl⟩

theorem SmallString.written (text : SmallString) : ∃ out, text.writeCarbon.Emits () out := by
  obtain ⟨out, emits, -⟩ := SmallString.roundTrips text trivial
  exact ⟨out, emits⟩

namespace IntX

/-- The length of the magnitude is all that the writer checks. -/
def InWord (self : IntX) : Prop := -2 ^ 256 < self.value ∧ self.value < 2 ^ 256

theorem writeBigInt_of_long {number : IntX} (long : ¬ Signed 64 number.value) :
    number.writeCarbon = writeBigInt number.value := by
  unfold writeCarbon
  rw [if_neg (mt is8ByteSafe_iff.mp long)]

theorem written {number : IntX} : (∃ out, number.writeCarbon.Emits () out) ↔ number.InWord := by
  unfold InWord
  constructor
  · rintro ⟨out, emits⟩
    by_contra outside
    have wide : number.value ≤ -2 ^ 256 ∨ 2 ^ 256 ≤ number.value := by omega
    rw [writeBigInt_of_long (by unfold Signed; omega)] at emits
    exact (writeBigInt_refused wide).not_emits emits
  · rintro ⟨low, high⟩
    rcases lt_or_ge number.value (-2 ^ 255) with below | inside
    -- below the range the writer takes the number for a positive one
    · rw [writeBigInt_of_long (by unfold Signed; omega), writeBigInt_wraps low below]
      exact ⟨_, (emits_writeBigInt (by unfold FitsSigned; norm_num; omega)).mpr rfl⟩
    · rcases lt_or_ge number.value (2 ^ 255) with within | above
      · exact ⟨_, (emits_writeCarbon (by unfold FitsSigned; norm_num; omega)).mpr rfl⟩
      · exact ⟨_, (emits_wide above high).mpr rfl⟩

end IntX

/-! ## Schemas -/

mutual

theorem VMVariableSchema.inRange_of_written : ∀ schema : VMVariableSchema,
    (∃ out, schema.writeCarbon.Emits () out) → schema.InRange
  | ⟨type, structDef⟩, written => by
    rw [VMVariableSchema.writeCarbon, Put.seq_written] at written
    intro isStruct
    rw [if_pos isStruct] at written
    exact defInRange_of_written structDef written.2

theorem defInRange_of_written : ∀ structDef : Option VMStructSchema,
    (∃ out, (writeStructDef structDef).Emits () out) → defInRange structDef
  | some structDef, written => structDef.inRange_of_written written
  | none, _ => trivial

theorem VMStructSchema.inRange_of_written : ∀ schema : VMStructSchema,
    (∃ out, schema.writeCarbon.Emits () out) → schema.InRange
  | ⟨fields, flags⟩, written => by
    rw [VMStructSchema.writeCarbon, Put.seq_written, Put.seq_written, write1_written] at written
    obtain ⟨⟨_, count⟩, all, range⟩ := written
    exact ⟨(emits_count.mp count).1, range, fieldsInRange_of_written fields all⟩

theorem fieldsInRange_of_written : ∀ fields : List VMNamedVariableSchema,
    (∃ out, (writeSchemaFields fields).Emits () out) → fieldsInRange fields
  | [], _ => trivial
  | ⟨name, schema⟩ :: fields, written => by
    rw [writeSchemaFields, Put.seq_written, Put.seq_written] at written
    obtain ⟨-, first, rest⟩ := written
    exact ⟨schema.inRange_of_written first, fieldsInRange_of_written fields rest⟩

end

theorem VMStructSchema.written (schema : VMStructSchema) :
    (∃ out, schema.writeCarbon.Emits () out) ↔ schema.InRange := by
  constructor
  · exact schema.inRange_of_written
  · intro inRange
    obtain ⟨out, emits, -⟩ := schema.conveys inRange
    exact ⟨out, emits⟩

/-! ## Records of the token module -/

namespace TokenInfo

/-- The ranges in which a description is written; the schemas of a fungible token are not. -/
def Writable (self : TokenInfo) : Prop :=
  self.maxSupply.InWord ∧ Unsigned 8 self.flags ∧ Unsigned 8 self.decimals ∧ ShortBytes self.metadata ∧
    (nonFungible self.flags = true → ShortBytes self.tokenSchemas)

theorem written {self : TokenInfo} : (∃ out, self.writeCarbon.Emits () out) ↔ self.Writable := by
  unfold writeCarbon Writable
  rw [Put.seq_written, Put.seq_written, Put.seq_written, Put.seq_written, Put.seq_written, Put.seq_written,
    IntX.written, write1_written, write1_written, writeByteArray_written]
  simp only [write32_written, SmallString.written, true_and]
  by_cases unique : nonFungible self.flags = true
  · simp [unique, writeByteArray_written]
  · simp [unique]

end TokenInfo

namespace SeriesInfo

def Writable (self : SeriesInfo) : Prop :=
  Unsigned 32 self.maxMint ∧ Unsigned 32 self.maxSupply ∧ ShortBytes self.metadata ∧ self.rom.InRange ∧
    self.ram.InRange

theorem written {self : SeriesInfo} : (∃ out, self.writeCarbon.Emits () out) ↔ self.Writable := by
  unfold writeCarbon Writable
  rw [Put.seq_written, Put.seq_written, Put.seq_written, Put.seq_written, Put.seq_written, write4u_written,
    write4u_written, writeByteArray_written, VMStructSchema.written, VMStructSchema.written]
  simp only [write32_written, true_and]

end SeriesInfo

theorem CreateTokenSeriesArgs.written {self : CreateTokenSeriesArgs} :
    (∃ out, self.writeCarbon.Emits () out) ↔ Unsigned 64 self.tokenId ∧ self.info.Writable := by
  unfold writeCarbon
  rw [Put.seq_written, write8u_written, SeriesInfo.written]

namespace PhantasmaNFTMintInfo

def Writable (self : PhantasmaNFTMintInfo) : Prop :=
  self.phantasmaSeriesId.InWord ∧ ShortBytes self.rom ∧ ShortBytes self.ram

theorem written {self : PhantasmaNFTMintInfo} : (∃ out, self.writeCarbon.Emits () out) ↔ self.Writable := by
  unfold writeCarbon Writable
  rw [Put.seq_written, Put.seq_written, IntX.written, writeByteArray_written, writeByteArray_written]

end PhantasmaNFTMintInfo

theorem MintPhantasmaNonFungibleArgs.written {self : MintPhantasmaNonFungibleArgs} :
    (∃ out, self.writeCarbon.Emits () out) ↔
      Unsigned 64 self.tokenId ∧ ArrayOf PhantasmaNFTMintInfo.Writable self.tokens := by
  unfold writeCarbon ArrayOf
  rw [Put.seq_written, Put.seq_written, write8u_written, writeArray_written]
  simp only [write32_written, true_and, PhantasmaNFTMintInfo.written]

/-! ## Payloads -/

/-- A call with plain arguments. -/
theorem TxMsgCall.written {moduleId methodId : Int} {args : Bytes} :
    (∃ out, (TxMsgCall.writeCarbon { moduleId, methodId, args }).Emits () out) ↔
      Unsigned 32 moduleId ∧ Unsigned 32 methodId ∧ ShortBytes args := by
  have plain : TxMsgCall.writeArgs { moduleId, methodId, args } = writeByteArray args := rfl
  unfold writeCarbon
  rw [Put.seq_written, Put.seq_written, write4u_written, write4u_written, plain, writeByteArray_written]

theorem TxMsgMintNonFungible.written {self : TxMsgMintNonFungible} :
    (∃ out, self.writeCarbon.Emits () out) ↔ self.InRange := by
  unfold writeCarbon InRange
  rw [Put.seq_written, Put.seq_written, Put.seq_written, Put.seq_written, write8u_written, write4u_written,
    writeByteArray_written, writeByteArray_written]
  simp only [write32_written, true_and]

/-- The head of a transaction that has an image is in range, and its payload has an image. -/
theorem TxMsg.written {msg : TxMsg} : (∃ out, msg.writeCarbon.Emits () out) ↔
    Signed 64 msg.expiry ∧ Unsigned 64 msg.maxGas ∧ Unsigned 64 msg.maxData ∧
      ∃ out, msg.msg.writeCarbon.Emits () out := by
  have type : ∃ out, msg.type.writeByte.Emits () out := by
    obtain ⟨out, emits, -⟩ := TxType.lossless.roundTrips msg.type trivial
    exact ⟨out, emits⟩
  unfold writeCarbon
  rw [Put.seq_written, Put.seq_written, Put.seq_written, Put.seq_written, Put.seq_written, Put.seq_written,
    write8_written, write8u_written, write8u_written]
  simp only [type, write32_written, SmallString.written, true_and]

end PhantasmaPy.Carbon
