import PhantasmaPy.Carbon.Messages
import PhantasmaPy.Carbon.BigIntLaws
import PhantasmaPy.Wire.Format

/-! # Formats of the transactions

Each payload class is lossless on the values that its wire fields can hold; the payloads with an
`IntX` are marked, since their readers accept an `IntX` in several spellings.
-/

namespace PhantasmaPy.Carbon

open Wire CarbonWriter CarbonReader

/-! ## Fields -/

theorem unsigned_lossless (width : Nat) :
    Lossless width (Unsigned (8 * width)) (fun _ => True) (writeUnsigned width)
      (readUnsigned width) := by
  refine Lossless.of (unsigned_roundTrips width) (unsigned_restores width)
    (readUnsigned_local width) fun out value parses => ?_
  obtain ⟨out', equal, emits⟩ := unsigned_restores width parses.yields
  obtain ⟨_, rfl⟩ := emits_writeUnsigned.mp emits
  rw [List.append_nil] at equal
  rw [equal, length_natToLE]

theorem signed_lossless {width : Nat} (positive : 0 < width) :
    Lossless width (Signed (8 * width)) (fun _ => True) (writeSigned width)
      (readSigned width) := by
  refine Lossless.of (signed_roundTrips positive) (signed_restores positive)
    (readSigned_local width) fun out value parses => ?_
  obtain ⟨out', equal, emits⟩ := signed_restores positive parses.yields
  obtain ⟨_, rfl⟩ := emits_writeSigned.mp emits
  rw [List.append_nil] at equal
  rw [equal, length_intToLE]

theorem byte_lossless : Lossless 1 (Unsigned 8) (fun _ => True) write1 readByte where
  emits value inside _ := by
    refine ⟨[UInt8.ofNat value.toNat], emits_write1.mpr ⟨inside, rfl⟩, (read1_parses _).bind_nil ?_⟩
    obtain ⟨nonneg, small⟩ := inside
    have back : ((UInt8.ofNat value.toNat).toNat : Int) = value := by
      rw [UInt8.toNat_ofNat', Nat.mod_eq_of_lt (by omega), Int.toNat_of_nonneg nonneg]
    rw [back]
    exact Get.Parses.pure value
  yields bs value rest yields := by
    obtain ⟨byte, mid, head, tail⟩ := Get.yields_bind.mp yields
    obtain ⟨rfl, rfl⟩ := Get.yields_pure.mp tail
    obtain rfl := yields_read1 head
    have bound := byte.toNat_lt
    refine ⟨trivial, [byte], rfl, Nat.le_refl 1, emits_write1.mpr ⟨⟨by positivity, by omega⟩, ?_⟩,
      (read1_parses byte).bind_nil (Get.Parses.pure _)⟩
    rw [Int.toNat_natCast, UInt8.ofNat_toNat]

theorem write8u_lossless : Lossless 8 (Unsigned 64) (fun _ => True) write8u read8u :=
  unsigned_lossless 8

theorem write4u_lossless : Lossless 4 (Unsigned 32) (fun _ => True) write4u read4u :=
  unsigned_lossless 4

theorem fixed_lossless (size : Nat) :
    Lossless size (fun _ => True) (fun _ => True) (fun value : FixedBytes size => write value.raw)
      (readFixed size) := by
  refine Lossless.of (fixed_roundTrips size) (fixed_restores size) (readFixed_local size)
    fun out value parses => ?_
  obtain ⟨out', equal, emits⟩ := fixed_restores size parses.yields
  obtain rfl := emits_write.mp emits
  rw [List.append_nil] at equal
  rw [equal, value.length_eq]

theorem write32_lossless : Lossless 32 (fun _ => True) (fun _ => True) write32 read32 :=
  fixed_lossless 32

theorem write64_lossless : Lossless 64 (fun _ => True) (fun _ => True) write64 read64 :=
  fixed_lossless 64

theorem byteArray_lossless :
    Lossless 4 ShortBytes (fun _ => True) writeByteArray readByteArray := by
  refine Lossless.of byteArray_roundTrips byteArray_restores readByteArray_local
    fun out data parses => ?_
  obtain ⟨_, equal⟩ := yields_readByteArray parses.yields
  rw [equal]
  simp

theorem SmallString.lossless :
    Lossless 1 (fun _ => True) (fun _ => True) SmallString.writeCarbon SmallString.readCarbon :=
  Lossless.of SmallString.roundTrips SmallString.restores SmallString.readCarbon_local
    fun _ _ parses => SmallString.readCarbon_consumes.pos parses

/-- The counted array of a format whose images are not empty. -/
theorem array_lossless {α : Type} {least : Nat} {domain : α → Prop} {item : α → CarbonWriter Unit}
    {reader : CarbonReader α} (format : Lossless least domain (fun _ => True) item reader)
    (positive : 0 < least) :
    Lossless 4 (ArrayOf domain) (fun _ => True) (writeArray item) (readArray reader) := by
  have consumes := format.consumes positive
  refine Lossless.of (array_roundTrips format.roundTrips consumes) (array_restores format.restores)
    (array_local format.isLocal consumes) fun out xs parses => ?_
  obtain ⟨out', equal, emits⟩ := array_restores format.restores parses.yields
  rw [writeArray, Put.emits_seq] at emits
  obtain ⟨front, items, count, _, rfl⟩ := emits
  obtain ⟨_, rfl⟩ := emits_count.mp count
  rw [List.append_nil] at equal
  rw [equal]
  simp

theorem intArray_lossless :
    Lossless 4 (ArrayOf (Unsigned 64)) (fun _ => True) (fun values => writeIntArray values 8 false)
      (readIntArray 8 false) :=
  array_lossless write8u_lossless (by decide)

/-! ## Calls -/

/-- A negative count or a length in front of what it announces. -/
theorem yields_read4 {bs rest : Bytes} {value : Int} (yields : read4.Yields bs value rest) :
    ∃ out, bs = out ++ rest ∧ out.length = 4 ∧ (write4 value).Emits () out ∧
      read4.Parses out value := by
  obtain ⟨_, out, equal, _, emits, parses⟩ :=
    (signed_lossless (show 0 < 4 by decide)).yields yields
  obtain ⟨_, rfl⟩ := emits_writeSigned.mp emits
  exact ⟨_, equal, length_intToLE _ _, emits, parses⟩

theorem read4_parses {value : Int} (signed : Signed 32 value) :
    (write4 value).Emits () (intToLE 4 value) ∧ read4.Parses (intToLE 4 value) value := by
  obtain ⟨out, emits, parses⟩ := signed_roundTrips (show 0 < 4 by decide) value signed
  obtain ⟨_, rfl⟩ := emits_writeSigned.mp emits
  exact ⟨emits, parses⟩

theorem ShortBytes.signed {data : Bytes} (short : ShortBytes data) : Signed 32 data.length := by
  unfold ShortBytes at short
  unfold Signed
  norm_num
  omega

namespace CallArgSection

/-- A section is a register offset or the bytes of an argument. -/
def Normal (self : CallArgSection) : Prop :=
  self.registerOffset < 0 ∧ Signed 32 self.registerOffset ∧ self.args = [] ∨
    self.registerOffset = 0 ∧ ShortBytes self.args

theorem lossless : Lossless 4 Normal (fun _ => True) writeCarbon readCarbon where
  emits := by
    rintro ⟨offset, args⟩ normal -
    rcases normal with ⟨negative, signed, empty⟩ | ⟨zero, short⟩
    · dsimp only at negative signed empty
      subst empty
      obtain ⟨emits, parses⟩ := read4_parses signed
      refine ⟨intToLE 4 offset, ?_, parses.bind_nil ?_⟩
      · rwa [writeCarbon, if_pos negative]
      · rw [if_pos negative]
        exact Get.Parses.pure _
    · dsimp only at zero short
      subst zero
      obtain ⟨emits, parses⟩ := read4_parses short.signed
      refine ⟨intToLE 4 args.length ++ args, ?_, parses.bind ?_⟩
      · rw [writeCarbon, if_neg (Int.lt_irrefl 0)]
        exact (emits_writeCount.mpr emits).bind (emits_write.mpr rfl)
      · rw [if_neg (by omega)]
        exact (read_parses rfl).map _
  yields bs section' rest yields := by
    refine ⟨trivial, ?_⟩
    -- the sign of the first number tells the two forms apart
    obtain ⟨value, mid, head, tail⟩ := Get.yields_bind.mp yields
    obtain ⟨out, rfl, length, emits, parses⟩ := yields_read4 head
    split at tail
    next negative =>
      obtain ⟨rfl, rfl⟩ := Get.yields_pure.mp tail
      refine ⟨out, rfl, length.ge, ?_, parses.bind_nil ?_⟩
      · rwa [writeCarbon, if_pos negative]
      · rw [if_pos negative]
        exact Get.Parses.pure _
    next nonneg =>
      obtain ⟨args, mid', body, tail⟩ := Get.yields_bind.mp tail
      obtain ⟨rfl, rfl⟩ := Get.yields_pure.mp tail
      obtain ⟨count, rfl⟩ := yields_readExact body
      refine ⟨out ++ args, by rw [List.append_assoc], ?_, ?_, parses.bind ?_⟩
      · rw [List.length_append]
        omega
      · rw [writeCarbon, if_neg (Int.lt_irrefl 0)]
        exact (emits_writeCount.mpr (count ▸ emits)).bind (emits_write.mpr rfl)
      · rw [if_neg nonneg]
        exact (read_parses count.symm).map _

end CallArgSection

namespace TxMsgCall

/-- The arguments of a call are bytes or a nonempty list of sections. -/
def Normal (self : TxMsgCall) : Prop :=
  match self.sections with
  | none => ShortBytes self.args
  | some sections =>
    self.args = [] ∧ sections.sections ≠ [] ∧ sections.sections.length ≤ 2 ^ 31 ∧
      ∀ section' ∈ sections.sections, section'.Normal

theorem args_lossless (moduleId methodId : Int) :
    Lossless 4 Normal
      (fun self => (True ∧ self.moduleId = moduleId) ∧ self.methodId = methodId)
      writeArgs (readArgs moduleId methodId) where
  emits := by
    rintro ⟨_, _, args, sections⟩ normal ⟨⟨-, rfl⟩, rfl⟩
    cases sections with
    | none =>
      obtain ⟨emits, parses⟩ := read4_parses (ShortBytes.signed normal)
      refine ⟨intToLE 4 args.length ++ args, (emits_writeCount.mpr emits).bind (emits_write.mpr rfl),
        parses.bind ?_⟩
      rw [if_pos (by omega)]
      exact (read_parses rfl).map _
    | some sections =>
      obtain ⟨sections⟩ := sections
      obtain ⟨empty, nonempty, bound, normal⟩ := normal
      dsimp only at empty nonempty bound normal
      subst empty
      have positive : 0 < sections.length := List.length_pos_iff.mpr nonempty
      -- the count is written negated, and has room for one more than a length
      have signed : Signed 32 (-sections.length : Int) := by
        unfold Signed
        norm_num
        omega
      obtain ⟨emits, parses⟩ := read4_parses signed
      obtain ⟨out, written, parsesAll, _⟩ := CallArgSection.lossless.roundTrips.each normal
      refine ⟨intToLE 4 (-sections.length) ++ out, ?_, parses.bind ?_⟩
      · rw [writeArgs]
        simp only [MsgCallArgSections.hasSections, positive, decide_true, if_true]
        rw [MsgCallArgSections.writeCarbon, if_neg nonempty]
        exact emits.bind written
      · rw [if_neg (by omega), MsgCallArgSections.readWithCount, if_neg (by omega)]
        have count : (-(-sections.length : Int)).toNat = sections.length := by omega
        rw [count]
        exact (parsesAll.map _).map _
  yields bs call rest yields := by
    obtain ⟨value, mid, head, tail⟩ := Get.yields_bind.mp yields
    obtain ⟨out, rfl, length, emits, parses⟩ := yields_read4 head
    split at tail
    next nonneg =>
      obtain ⟨args, mid', body, tail⟩ := Get.yields_bind.mp tail
      obtain ⟨rfl, rfl⟩ := Get.yields_pure.mp tail
      obtain ⟨count, rfl⟩ := yields_readExact body
      refine ⟨⟨⟨trivial, rfl⟩, rfl⟩, out ++ args, by rw [List.append_assoc], ?_, ?_, parses.bind ?_⟩
      · rw [List.length_append]
        omega
      · rw [writeArgs]
        exact (emits_writeCount.mpr (count ▸ emits)).bind (emits_write.mpr rfl)
      · rw [if_pos nonneg]
        exact (read_parses count.symm).map _
    next negative =>
      obtain ⟨sections, mid', body, tail⟩ := Get.yields_bind.mp tail
      obtain ⟨rfl, rfl⟩ := Get.yields_pure.mp tail
      rw [MsgCallArgSections.readWithCount, if_neg negative] at body
      obtain ⟨sections, _, items, built⟩ := Get.yields_bind.mp body
      obtain ⟨rfl, rfl⟩ := Get.yields_pure.mp built
      obtain ⟨count, out', rfl, written⟩ := CallArgSection.lossless.restores.times items
      obtain ⟨out'', same, parses'⟩ := CallArgSection.lossless.isLocal.times _ items
      obtain rfl := List.append_cancel_right same
      refine ⟨⟨⟨trivial, rfl⟩, rfl⟩, out ++ out', by rw [List.append_assoc], ?_, ?_, parses.bind ?_⟩
      · rw [List.length_append]
        omega
      · have positive : 0 < sections.length := by omega
        have value_eq : (-sections.length : Int) = value := by omega
        rw [writeArgs]
        simp only [MsgCallArgSections.hasSections, positive, decide_true, if_true]
        rw [MsgCallArgSections.writeCarbon, if_neg (List.length_pos_iff.mp positive), value_eq]
        exact emits.bind written
      · rw [if_neg negative, MsgCallArgSections.readWithCount, if_neg negative]
        exact (parses'.map _).map _

/-- The ids are in range and the arguments have a wire form. -/
def InRange (self : TxMsgCall) : Prop :=
  Unsigned 32 self.moduleId ∧ Unsigned 32 self.methodId ∧ self.Normal

theorem lossless : Lossless 12 InRange (fun _ => True) writeCarbon readCarbon :=
  Lossless.field TxMsgCall.moduleId write4u_lossless fun _ =>
    Lossless.field TxMsgCall.methodId write4u_lossless fun _ => args_lossless _ _

end TxMsgCall

namespace TxMsgCallMulti

def InRange (self : TxMsgCallMulti) : Prop := ArrayOf TxMsgCall.InRange self.calls

theorem lossless : Lossless 4 InRange (fun _ => True) writeCarbon readCarbon :=
  Lossless.last calls (array_lossless TxMsgCall.lossless (by decide)) fun self value => by
    cases self
    simp

end TxMsgCallMulti

/-! ## Payloads without an `IntX` -/

namespace TxMsgTransferFungible

def InRange (self : TxMsgTransferFungible) : Prop :=
  Unsigned 64 self.tokenId ∧ Unsigned 64 self.amount

theorem lossless : Lossless 48 InRange (fun _ => True) writeCarbon readCarbon := by
  refine Lossless.mono (Lossless.field toAddress write32_lossless fun _ =>
    Lossless.field tokenId write8u_lossless fun _ =>
      Lossless.last amount write8u_lossless fun self value => ?_) fun self ranges => ⟨trivial, ranges⟩
  cases self
  simp [and_assoc]

end TxMsgTransferFungible

namespace TxMsgTransferFungibleGasPayer

def InRange (self : TxMsgTransferFungibleGasPayer) : Prop :=
  Unsigned 64 self.tokenId ∧ Unsigned 64 self.amount

theorem lossless : Lossless 80 InRange (fun _ => True) writeCarbon readCarbon := by
  refine Lossless.mono (Lossless.field toAddress write32_lossless fun _ =>
    Lossless.field fromAddress write32_lossless fun _ =>
      Lossless.field tokenId write8u_lossless fun _ =>
        Lossless.last amount write8u_lossless fun self value => ?_)
    fun self ranges => ⟨trivial, trivial, ranges⟩
  cases self
  simp [and_assoc]

end TxMsgTransferFungibleGasPayer

namespace TxMsgTransferNonFungibleSingle

def InRange (self : TxMsgTransferNonFungibleSingle) : Prop :=
  Unsigned 64 self.tokenId ∧ Unsigned 64 self.instanceId

theorem lossless : Lossless 48 InRange (fun _ => True) writeCarbon readCarbon := by
  refine Lossless.mono (Lossless.field toAddress write32_lossless fun _ =>
    Lossless.field tokenId write8u_lossless fun _ =>
      Lossless.last instanceId write8u_lossless fun self value => ?_)
    fun self ranges => ⟨trivial, ranges⟩
  cases self
  simp [and_assoc]

end TxMsgTransferNonFungibleSingle

namespace TxMsgTransferNonFungibleSingleGasPayer

def InRange (self : TxMsgTransferNonFungibleSingleGasPayer) : Prop :=
  Unsigned 64 self.tokenId ∧ Unsigned 64 self.instanceId

theorem lossless : Lossless 80 InRange (fun _ => True) writeCarbon readCarbon := by
  refine Lossless.mono (Lossless.field toAddress write32_lossless fun _ =>
    Lossless.field fromAddress write32_lossless fun _ =>
      Lossless.field tokenId write8u_lossless fun _ =>
        Lossless.last instanceId write8u_lossless fun self value => ?_)
    fun self ranges => ⟨trivial, trivial, ranges⟩
  cases self
  simp [and_assoc]

end TxMsgTransferNonFungibleSingleGasPayer

namespace TxMsgTransferNonFungibleMulti

def InRange (self : TxMsgTransferNonFungibleMulti) : Prop :=
  Unsigned 64 self.tokenId ∧ ArrayOf (Unsigned 64) self.instanceIds

theorem lossless : Lossless 44 InRange (fun _ => True) writeCarbon readCarbon := by
  refine Lossless.mono (Lossless.field toAddress write32_lossless fun _ =>
    Lossless.field tokenId write8u_lossless fun _ =>
      Lossless.last instanceIds intArray_lossless fun self value => ?_)
    fun self ranges => ⟨trivial, ranges⟩
  cases self
  simp [and_assoc]

end TxMsgTransferNonFungibleMulti

namespace TxMsgTransferNonFungibleMultiGasPayer

def InRange (self : TxMsgTransferNonFungibleMultiGasPayer) : Prop :=
  Unsigned 64 self.tokenId ∧ ArrayOf (Unsigned 64) self.instanceIds

theorem lossless : Lossless 76 InRange (fun _ => True) writeCarbon readCarbon := by
  refine Lossless.mono (Lossless.field toAddress write32_lossless fun _ =>
    Lossless.field fromAddress write32_lossless fun _ =>
      Lossless.field tokenId write8u_lossless fun _ =>
        Lossless.last instanceIds intArray_lossless fun self value => ?_)
    fun self ranges => ⟨trivial, trivial, ranges⟩
  cases self
  simp [and_assoc]

end TxMsgTransferNonFungibleMultiGasPayer

namespace TxMsgMintNonFungible

def InRange (self : TxMsgMintNonFungible) : Prop :=
  Unsigned 64 self.tokenId ∧ Unsigned 32 self.seriesId ∧ ShortBytes self.rom ∧ ShortBytes self.ram

theorem lossless : Lossless 52 InRange (fun _ => True) writeCarbon readCarbon := by
  refine Lossless.mono (Lossless.field tokenId write8u_lossless fun _ =>
    Lossless.field toAddress write32_lossless fun _ =>
      Lossless.field seriesId write4u_lossless fun _ =>
        Lossless.field rom byteArray_lossless fun _ =>
          Lossless.last ram byteArray_lossless fun self value => ?_)
    fun self ranges => ⟨ranges.1, trivial, ranges.2⟩
  cases self
  simp [and_assoc]

end TxMsgMintNonFungible

namespace TxMsgBurnNonFungible

def InRange (self : TxMsgBurnNonFungible) : Prop :=
  Unsigned 64 self.tokenId ∧ Unsigned 64 self.instanceId

theorem lossless : Lossless 16 InRange (fun _ => True) writeCarbon readCarbon := by
  refine Lossless.field tokenId write8u_lossless fun _ =>
    Lossless.last instanceId write8u_lossless fun self value => ?_
  cases self
  simp

end TxMsgBurnNonFungible

namespace TxMsgBurnNonFungibleGasPayer

def InRange (self : TxMsgBurnNonFungibleGasPayer) : Prop :=
  Unsigned 64 self.tokenId ∧ Unsigned 64 self.instanceId

theorem lossless : Lossless 48 InRange (fun _ => True) writeCarbon readCarbon := by
  refine Lossless.mono (Lossless.field tokenId write8u_lossless fun _ =>
    Lossless.field fromAddress write32_lossless fun _ =>
      Lossless.last instanceId write8u_lossless fun self value => ?_)
    fun self ranges => ⟨ranges.1, trivial, ranges.2⟩
  cases self
  simp [and_assoc]

end TxMsgBurnNonFungibleGasPayer

namespace TxMsgPhantasma

def InRange (self : TxMsgPhantasma) : Prop := ShortBytes self.script

theorem lossless : Lossless 6 InRange (fun _ => True) writeCarbon readCarbon := by
  refine Lossless.mono (Lossless.field nexus SmallString.lossless fun _ =>
    Lossless.field chain SmallString.lossless fun _ =>
      Lossless.last script byteArray_lossless fun self value => ?_)
    fun self short => ⟨trivial, trivial, short⟩
  cases self
  simp [and_assoc]

end TxMsgPhantasma

namespace TxMsgPhantasmaRaw

def InRange (self : TxMsgPhantasmaRaw) : Prop := ShortBytes self.transaction

theorem lossless : Lossless 4 InRange (fun _ => True) writeCarbon readCarbon := by
  refine Lossless.last transaction byteArray_lossless fun self value => ?_
  cases self
  simp

end TxMsgPhantasmaRaw

/-! ## Payloads with an `IntX` -/

namespace IntX

/-- The image of an `IntX`: the header byte and as many bytes as it announces. -/
def readImage : CarbonReader (List Bytes) := do
  let header ← read1
  let raw ← read (header &&& 0x3F).toNat
  return [header :: raw]

theorem marked :
    Marked Canonical 9 (fun number => Signed 256 number.value) (fun _ => True) writeCarbon readCarbon
      readImage where
  emits number signed _ := roundTrips number signed
  yields bs number rest yields := by
    obtain ⟨header, raw, out, rfl, length, enough, parses, emits, parsesOut, stable⟩ :=
      rewrites yields
    refine ⟨trivial, header :: raw, out, [header :: raw], rfl, by simpa using enough, parses, emits,
      parsesOut, ?_, by simpa using stable⟩
    exact (read1_parses header).bind ((read_parses (by rw [length])).map fun raw => [header :: raw])

end IntX

/-- The pieces of the elements of a counted array. -/
def scanArray (scan : CarbonReader (List Bytes)) : CarbonReader (List Bytes) := do
  let count ← readLength
  let pieces ← Get.times scan count
  return pieces.flatten

theorem array_marked {α : Type} {canonical : Bytes → Prop} {least : Nat} {domain : α → Prop}
    {item : α → CarbonWriter Unit} {reader : CarbonReader α} {scan : CarbonReader (List Bytes)}
    (format : Marked canonical least domain (fun _ => True) item reader scan)
    (positive : 0 < least) :
    Marked canonical 4 (ArrayOf domain) (fun _ => True) (writeArray item) (readArray reader)
      (scanArray scan) where
  emits xs inside _ := array_roundTrips format.roundTrips (format.consumes positive) xs inside
  yields bs xs rest yields := by
    obtain ⟨count, mid, head, items⟩ := Get.yields_bind.mp yields
    obtain ⟨front, rfl, length, count_emits, _⟩ := yields_read4 (yields_readLength.mp head).1
    obtain ⟨count_eq, image, out, pieces, rfl, parses, emits, parsesOut, scans, stable⟩ :=
      format.times items
    subst count_eq
    obtain ⟨small, rfl⟩ := emits_count.mp (emits_writeCount.mpr count_emits)
    have consumes := format.consumes positive
    -- every element has at least one byte in either spelling, so the count stays within what is left
    have enough (tail more : Bytes) (parses : (Get.times reader xs.length).Parses tail xs) :
        xs.length ≤ (tail ++ more).length := by
      have bound := consumes.length_le_times parses.yields
      rw [List.length_append]
      omega
    refine ⟨trivial, intToLE 4 xs.length ++ image, intToLE 4 xs.length ++ out, pieces.flatten,
      by rw [List.append_assoc], by simp, ?_, (emits_writeCount.mpr count_emits).bind emits, ?_, ?_, ?_⟩
    · intro more
      rw [List.append_assoc]
      exact Get.yields_bind.mpr
        ⟨_, _, readLength_yields small (enough image more parses), parses more⟩
    · intro more
      rw [List.append_assoc]
      exact Get.yields_bind.mpr
        ⟨_, _, readLength_yields small (enough out more parsesOut), parsesOut more⟩
    · intro more
      rw [List.append_assoc]
      exact Get.yields_bind.mpr
        ⟨_, _, readLength_yields small (enough image more parses), scans.map _ more⟩
    · rw [stable, List.append_cancel_left_eq]

namespace TxMsgMintFungible

def InRange (self : TxMsgMintFungible) : Prop :=
  Unsigned 64 self.tokenId ∧ Signed 256 self.amount.value

def readImages : CarbonReader (List Bytes) := do
  let _ ← read8u
  let _ ← read32
  IntX.readImage

theorem marked :
    Marked IntX.Canonical 49 InRange (fun _ => True) writeCarbon readCarbon readImages := by
  refine Marked.mono (Marked.plain tokenId write8u_lossless fun _ =>
    Marked.plain toAddress write32_lossless fun _ =>
      Marked.last amount IntX.marked fun self value => ?_)
    fun self _ ranges => ⟨ranges.1, trivial, ranges.2⟩
  cases self
  simp [and_assoc]

end TxMsgMintFungible

namespace TxMsgBurnFungible

def InRange (self : TxMsgBurnFungible) : Prop :=
  Unsigned 64 self.tokenId ∧ Signed 256 self.amount.value

def readImages : CarbonReader (List Bytes) := do
  let _ ← read8u
  IntX.readImage

theorem marked :
    Marked IntX.Canonical 17 InRange (fun _ => True) writeCarbon readCarbon readImages := by
  refine Marked.plain tokenId write8u_lossless fun _ =>
    Marked.last amount IntX.marked fun self value => ?_
  cases self
  simp

end TxMsgBurnFungible

namespace TxMsgBurnFungibleGasPayer

def InRange (self : TxMsgBurnFungibleGasPayer) : Prop :=
  Unsigned 64 self.tokenId ∧ Signed 256 self.amount.value

def readImages : CarbonReader (List Bytes) := do
  let _ ← read8u
  let _ ← read32
  IntX.readImage

theorem marked :
    Marked IntX.Canonical 49 InRange (fun _ => True) writeCarbon readCarbon readImages := by
  refine Marked.mono (Marked.plain tokenId write8u_lossless fun _ =>
    Marked.plain fromAddress write32_lossless fun _ =>
      Marked.last amount IntX.marked fun self value => ?_)
    fun self _ ranges => ⟨ranges.1, trivial, ranges.2⟩
  cases self
  simp [and_assoc]

end TxMsgBurnFungibleGasPayer

namespace TxMsgTrade

def InRange (self : TxMsgTrade) : Prop :=
  ArrayOf TxMsgTransferFungibleGasPayer.InRange self.transferF ∧
    ArrayOf TxMsgTransferNonFungibleSingleGasPayer.InRange self.transferN ∧
    ArrayOf TxMsgMintFungible.InRange self.mintF ∧
    ArrayOf TxMsgBurnFungibleGasPayer.InRange self.burnF ∧
    ArrayOf TxMsgMintNonFungible.InRange self.mintN ∧
    ArrayOf TxMsgBurnNonFungibleGasPayer.InRange self.burnN

def readImages : CarbonReader (List Bytes) := do
  let _ ← readArray TxMsgTransferFungibleGasPayer.readCarbon
  let _ ← readArray TxMsgTransferNonFungibleSingleGasPayer.readCarbon
  (scanArray TxMsgMintFungible.readImages).both
    ((scanArray TxMsgBurnFungibleGasPayer.readImages).both (do
      let _ ← readArray TxMsgMintNonFungible.readCarbon
      (readArray TxMsgBurnNonFungibleGasPayer.readCarbon).skip))

theorem marked :
    Marked IntX.Canonical 24 InRange (fun _ => True) writeCarbon readCarbon readImages := by
  refine Marked.plain transferF (array_lossless TxMsgTransferFungibleGasPayer.lossless (by decide))
    fun _ => Marked.plain transferN
      (array_lossless TxMsgTransferNonFungibleSingleGasPayer.lossless (by decide)) fun _ =>
    Marked.field mintF (array_marked TxMsgMintFungible.marked (by decide)) fun _ =>
    Marked.field burnF (array_marked TxMsgBurnFungibleGasPayer.marked (by decide)) fun _ =>
    Marked.plain mintN (array_lossless TxMsgMintNonFungible.lossless (by decide)) fun _ =>
    Marked.last burnN (Marked.of_lossless
      (array_lossless TxMsgBurnNonFungibleGasPayer.lossless (by decide))) fun self value => ?_
  cases self
  simp [and_assoc]

end TxMsgTrade

end PhantasmaPy.Carbon
