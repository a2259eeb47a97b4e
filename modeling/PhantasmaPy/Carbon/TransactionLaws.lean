import PhantasmaPy.Carbon.MessageLaws

/-! # Transactions on the wire

The round trip of transactions and signed transactions, what a signed transaction keeps of its
witnesses, and when an accepted image is written back unchanged.
-/

namespace PhantasmaPy.Carbon

open Wire CarbonWriter CarbonReader

/-! ## Payloads -/

namespace TxPayload

/-- The transaction type for which `_read_payload` selects the class. -/
def type : TxPayload → TxType
  | call _ => .CALL
  | callMulti _ => .CALL_MULTI
  | trade _ => .TRADE
  | transferFungible _ => .TRANSFER_FUNGIBLE
  | transferFungibleGasPayer _ => .TRANSFER_FUNGIBLE_GAS_PAYER
  | transferNonFungibleSingle _ => .TRANSFER_NON_FUNGIBLE_SINGLE
  | transferNonFungibleSingleGasPayer _ => .TRANSFER_NON_FUNGIBLE_SINGLE_GAS_PAYER
  | transferNonFungibleMulti _ => .TRANSFER_NON_FUNGIBLE_MULTI
  | transferNonFungibleMultiGasPayer _ => .TRANSFER_NON_FUNGIBLE_MULTI_GAS_PAYER
  | mintFungible _ => .MINT_FUNGIBLE
  | burnFungible _ => .BURN_FUNGIBLE
  | burnFungibleGasPayer _ => .BURN_FUNGIBLE_GAS_PAYER
  | mintNonFungible _ => .MINT_NON_FUNGIBLE
  | burnNonFungible _ => .BURN_NON_FUNGIBLE
  | burnNonFungibleGasPayer _ => .BURN_NON_FUNGIBLE_GAS_PAYER
  | phantasma _ => .PHANTASMA
  | phantasmaRaw _ => .PHANTASMA_RAW

/-- The values that the fields of the class have on the wire. -/
def InRange : TxPayload → Prop
  | call payload => payload.InRange
  | callMulti payload => payload.InRange
  | trade payload => payload.InRange
  | transferFungible payload => payload.InRange
  | transferFungibleGasPayer payload => payload.InRange
  | transferNonFungibleSingle payload => payload.InRange
  | transferNonFungibleSingleGasPayer payload => payload.InRange
  | transferNonFungibleMulti payload => payload.InRange
  | transferNonFungibleMultiGasPayer payload => payload.InRange
  | mintFungible payload => payload.InRange
  | burnFungible payload => payload.InRange
  | burnFungibleGasPayer payload => payload.InRange
  | mintNonFungible payload => payload.InRange
  | burnNonFungible payload => payload.InRange
  | burnNonFungibleGasPayer payload => payload.InRange
  | phantasma payload => payload.InRange
  | phantasmaRaw payload => payload.InRange

end TxPayload

/-- The images of the `IntX` fields of a payload. -/
def readPayloadImages : TxType → CarbonReader (List Bytes)
  | .TRADE => TxMsgTrade.readImages
  | .MINT_FUNGIBLE => TxMsgMintFungible.readImages
  | .BURN_FUNGIBLE => TxMsgBurnFungible.readImages
  | .BURN_FUNGIBLE_GAS_PAYER => TxMsgBurnFungibleGasPayer.readImages
  | .CALL => TxMsgCall.readCarbon.skip
  | .CALL_MULTI => TxMsgCallMulti.readCarbon.skip
  | .TRANSFER_FUNGIBLE => TxMsgTransferFungible.readCarbon.skip
  | .TRANSFER_FUNGIBLE_GAS_PAYER => TxMsgTransferFungibleGasPayer.readCarbon.skip
  | .TRANSFER_NON_FUNGIBLE_SINGLE => TxMsgTransferNonFungibleSingle.readCarbon.skip
  | .TRANSFER_NON_FUNGIBLE_SINGLE_GAS_PAYER => TxMsgTransferNonFungibleSingleGasPayer.readCarbon.skip
  | .TRANSFER_NON_FUNGIBLE_MULTI => TxMsgTransferNonFungibleMulti.readCarbon.skip
  | .TRANSFER_NON_FUNGIBLE_MULTI_GAS_PAYER => TxMsgTransferNonFungibleMultiGasPayer.readCarbon.skip
  | .MINT_NON_FUNGIBLE => TxMsgMintNonFungible.readCarbon.skip
  | .BURN_NON_FUNGIBLE => TxMsgBurnNonFungible.readCarbon.skip
  | .BURN_NON_FUNGIBLE_GAS_PAYER => TxMsgBurnNonFungibleGasPayer.readCarbon.skip
  | .PHANTASMA => TxMsgPhantasma.readCarbon.skip
  | .PHANTASMA_RAW => TxMsgPhantasmaRaw.readCarbon.skip

/-- A payload format from the format of its class. -/
theorem payload_alternative {β : Type} {least : Nat} {inner : β → Prop}
    {writeInner : β → CarbonWriter Unit} {readInner : CarbonReader β}
    {scan : CarbonReader (List Bytes)} {type : TxType} (wrap : β → TxPayload)
    (format : Marked IntX.Canonical least inner (fun _ => True) writeInner readInner scan)
    (writes : ∀ b, (wrap b).writeCarbon = writeInner b)
    (selects : ∀ payload : TxPayload, payload.type = type ∧ payload.InRange →
      ∃ b, payload = wrap b ∧ inner b := by
        rintro ⟨⟩ ⟨same, range⟩ <;> first | exact ⟨_, rfl, range⟩ | cases same) :
    Marked IntX.Canonical 0 (fun payload => payload.type = type ∧ payload.InRange) (fun _ => True)
      TxPayload.writeCarbon (do let b ← readInner; return wrap b) scan :=
  ((Marked.alternative wrap format writes).atLeast (Nat.zero_le _)).mono
    fun payload _ inside => selects payload inside

theorem payload_marked (type : TxType) :
    Marked IntX.Canonical 0 (fun payload => payload.type = type ∧ payload.InRange) (fun _ => True)
      TxPayload.writeCarbon (readPayload type) (readPayloadImages type) := by
  cases type with
  | CALL =>
    exact payload_alternative .call (.of_lossless TxMsgCall.lossless) fun _ => rfl
  | CALL_MULTI =>
    exact payload_alternative .callMulti (.of_lossless TxMsgCallMulti.lossless) fun _ => rfl
  | TRADE => exact payload_alternative .trade TxMsgTrade.marked fun _ => rfl
  | TRANSFER_FUNGIBLE =>
    exact payload_alternative .transferFungible (.of_lossless TxMsgTransferFungible.lossless)
      fun _ => rfl
  | TRANSFER_FUNGIBLE_GAS_PAYER =>
    exact payload_alternative .transferFungibleGasPayer
      (.of_lossless TxMsgTransferFungibleGasPayer.lossless) fun _ => rfl
  | TRANSFER_NON_FUNGIBLE_SINGLE =>
    exact payload_alternative .transferNonFungibleSingle
      (.of_lossless TxMsgTransferNonFungibleSingle.lossless) fun _ => rfl
  | TRANSFER_NON_FUNGIBLE_SINGLE_GAS_PAYER =>
    exact payload_alternative .transferNonFungibleSingleGasPayer
      (.of_lossless TxMsgTransferNonFungibleSingleGasPayer.lossless) fun _ => rfl
  | TRANSFER_NON_FUNGIBLE_MULTI =>
    exact payload_alternative .transferNonFungibleMulti
      (.of_lossless TxMsgTransferNonFungibleMulti.lossless) fun _ => rfl
  | TRANSFER_NON_FUNGIBLE_MULTI_GAS_PAYER =>
    exact payload_alternative .transferNonFungibleMultiGasPayer
      (.of_lossless TxMsgTransferNonFungibleMultiGasPayer.lossless) fun _ => rfl
  | MINT_FUNGIBLE => exact payload_alternative .mintFungible TxMsgMintFungible.marked fun _ => rfl
  | BURN_FUNGIBLE => exact payload_alternative .burnFungible TxMsgBurnFungible.marked fun _ => rfl
  | BURN_FUNGIBLE_GAS_PAYER =>
    exact payload_alternative .burnFungibleGasPayer TxMsgBurnFungibleGasPayer.marked fun _ => rfl
  | MINT_NON_FUNGIBLE =>
    exact payload_alternative .mintNonFungible (.of_lossless TxMsgMintNonFungible.lossless)
      fun _ => rfl
  | BURN_NON_FUNGIBLE =>
    exact payload_alternative .burnNonFungible (.of_lossless TxMsgBurnNonFungible.lossless)
      fun _ => rfl
  | BURN_NON_FUNGIBLE_GAS_PAYER =>
    exact payload_alternative .burnNonFungibleGasPayer
      (.of_lossless TxMsgBurnNonFungibleGasPayer.lossless) fun _ => rfl
  | PHANTASMA => exact payload_alternative .phantasma (.of_lossless TxMsgPhantasma.lossless) fun _ => rfl
  | PHANTASMA_RAW =>
    exact payload_alternative .phantasmaRaw (.of_lossless TxMsgPhantasmaRaw.lossless) fun _ => rfl

/-! ## Transactions -/

namespace TxType

theorem ofByte_toByte (type : TxType) : ofByte type.toByte = .ok type := by
  cases type <;> rfl

theorem ofByte_eq_ok {byte : UInt8} {type : TxType} : ofByte byte = .ok type ↔ byte = type.toByte := by
  constructor
  · intro found
    revert found
    unfold ofByte
    split <;> intro found <;> cases found <;> rfl
  · rintro rfl
    exact ofByte_toByte type

theorem lossless : Lossless 1 (fun _ => True) (fun _ => True) writeByte readByte := by
  have written (type : TxType) : type.writeByte.Emits () [type.toByte] := by
    refine emits_write1.mpr ⟨⟨by positivity, ?_⟩, ?_⟩
    · have bound := type.toByte.toNat_lt
      omega
    · rw [Int.toNat_natCast, UInt8.ofNat_toNat]
  have read (type : TxType) : readByte.Parses [type.toByte] type :=
    (read1_parses _).bind_nil (Get.Parses.check (ofByte_toByte type))
  constructor
  · intro type _ _
    exact ⟨_, written type, read type⟩
  · intro bs type rest yields
    obtain ⟨byte, mid, head, tail⟩ := Get.yields_bind.mp yields
    obtain ⟨found, rfl⟩ := Get.yields_check.mp tail
    obtain rfl := yields_read1 head
    obtain rfl := ofByte_eq_ok.mp found
    exact ⟨trivial, [type.toByte], rfl, Nat.le_refl 1, written type, read type⟩

end TxType

theorem write8_lossless : Lossless 8 (Signed 64) (fun _ => True) write8 read8 :=
  signed_lossless (show 0 < 8 by decide)

namespace TxMsg

/-- The payload class is the one for the type, and the fields are within what the wire holds. -/
def WellFormed (self : TxMsg) : Prop :=
  self.msg.type = self.type ∧ Signed 64 self.expiry ∧ Unsigned 64 self.maxGas ∧
    Unsigned 64 self.maxData ∧ self.msg.InRange

/-- The images of the `IntX` fields of a transaction. -/
def readImages : CarbonReader (List Bytes) := do
  let type ← TxType.readByte
  let _ ← read8
  let _ ← read8u
  let _ ← read8u
  let _ ← read32
  let _ ← SmallString.readCarbon
  readPayloadImages type

theorem marked :
    Marked IntX.Canonical 58 WellFormed (fun _ => True) writeCarbon readCarbon readImages := by
  refine Marked.mono (Marked.plain type TxType.lossless fun type =>
    (Marked.mono (Marked.plain expiry write8_lossless fun _ =>
      Marked.plain maxGas write8u_lossless fun _ =>
      Marked.plain maxData write8u_lossless fun _ =>
      Marked.plain gasFrom write32_lossless fun _ =>
      Marked.plain payload SmallString.lossless fun _ =>
      Marked.last msg (payload_marked type) fun self value => ?_) ?_ :
        Marked IntX.Canonical _ WellFormed _ _ _ _)) fun self _ wellFormed => ⟨trivial, wellFormed⟩
  · cases self
    simp [and_assoc]
  · rintro self ⟨-, rfl⟩ ⟨selected, expiry, maxGas, maxData, range⟩
    exact ⟨expiry, maxGas, maxData, trivial, trivial, selected, range⟩

end TxMsg

/-! ## Signed transactions -/

theorem Witness.lossless :
    Lossless 96 (fun _ => True) (fun _ => True) Witness.writeCarbon Witness.readCarbon := by
  refine Lossless.mono (Lossless.field Witness.address write32_lossless fun _ =>
    Lossless.last Witness.signature write64_lossless fun self value => ?_)
    fun self _ => ⟨trivial, trivial⟩
  cases self
  simp

namespace SignedTxMsg

/-- The witnesses have the layout of the transaction type. -/
def WitnessShape (self : SignedTxMsg) : Prop :=
  match self.msg.type.witnessLayout with
  | .single => ∃ signature, self.witnesses = [⟨self.msg.gasFrom, signature⟩]
  | .gasPayer => ∃ gasSignature signature,
      self.witnesses = [⟨self.msg.gasFrom, gasSignature⟩, ⟨self.msg.msg.fromAddress, signature⟩]
  | .counted => self.witnesses.length < 2 ^ 31
  | .absent => self.witnesses = []

/-- The witnesses that the reader rebuilds: the second address of a gas-payer transaction is taken
    from the payload. -/
def rebuilt (self : SignedTxMsg) : List Witness :=
  match self.msg.type.witnessLayout, self.witnesses with
  | .gasPayer, [witness, second] => [witness, ⟨self.msg.msg.fromAddress, second.signature⟩]
  | _, witnesses => witnesses

theorem emits_write64 {value : Bytes64} {out : Bytes} :
    (write64 value).Emits () out ↔ out = value.raw := emits_write

/-- What the writer appends for the witnesses is read as the rebuilt witnesses. -/
theorem readWitnesses_parses {self : SignedTxMsg} {out : Bytes}
    (emits : self.writeWitnesses.Emits () out) :
    (readWitnesses self.msg).Parses out self.rebuilt := by
  obtain ⟨msg, witnesses⟩ := self
  unfold writeWitnesses at emits
  unfold readWitnesses rebuilt
  dsimp only at emits ⊢
  cases layout : msg.type.witnessLayout with
  | single =>
    simp only [layout] at emits ⊢
    split at emits
    next witness =>
      split at emits
      next => exact absurd emits Put.emits_throw
      next same =>
        obtain rfl := emits_write64.mp emits
        rw [← not_not.mp same]
        exact (readFixed_parses witness.signature).map fun signature => [Witness.mk witness.address signature]
    next => exact absurd emits Put.emits_throw
  | gasPayer =>
    simp only [layout] at emits ⊢
    split at emits
    next witness second =>
      split at emits
      next => exact absurd emits Put.emits_throw
      next same =>
        rw [Put.emits_seq] at emits
        obtain ⟨_, _, first, last, rfl⟩ := emits
        obtain rfl := emits_write64.mp first
        obtain rfl := emits_write64.mp last
        rw [← not_not.mp same]
        -- the second address is not written, and is read from the payload
        exact (readFixed_parses witness.signature).bind ((readFixed_parses second.signature).map
          fun signature => [witness, Witness.mk msg.msg.fromAddress signature])
    next => exact absurd emits Put.emits_throw
  | counted =>
    simp only [layout] at emits ⊢
    rw [writeArray, Put.emits_seq] at emits
    obtain ⟨count, items, counted, written, rfl⟩ := emits
    obtain ⟨small, rfl⟩ := emits_count.mp counted
    -- the counted form is the lossless array, which has one image
    obtain ⟨out, emitsAll, parses⟩ := (array_lossless Witness.lossless (by decide)).roundTrips
      witnesses ⟨small, fun _ _ => trivial⟩
    obtain rfl := ((counted.bind written).unique emitsAll).2
    exact parses
  | absent =>
    simp only [layout] at emits ⊢
    split at emits
    next => exact absurd emits Put.emits_throw
    next empty =>
      obtain ⟨_, rfl⟩ := Put.emits_pure.mp emits
      rw [not_not.mp empty]
      exact Get.Parses.pure _

theorem emits_witness (witness : Witness) :
    witness.writeCarbon.Emits () (witness.address.raw ++ witness.signature.raw) :=
  Put.Emits.bind (emits_write.mpr rfl) (emits_write.mpr rfl)

/-- The witnesses are refused with a `SerializationError` only. -/
theorem writeWitnesses_fails {self : SignedTxMsg} {e : PyError} (fails : self.writeWitnesses.Fails e) :
    ∃ message, e = .serializationError message := by
  unfold writeWitnesses at fails
  split at fails
  next =>
    split at fails
    next =>
      split at fails
      next => exact ⟨_, (Put.fails_throw.mp fails).symm⟩
      next => exact absurd fails Put.not_fails_tell
    next => exact ⟨_, (Put.fails_throw.mp fails).symm⟩
  next =>
    split at fails
    next =>
      split at fails
      next => exact ⟨_, (Put.fails_throw.mp fails).symm⟩
      next =>
        rcases Put.fails_bind.mp fails with first | ⟨_, _, _, second⟩
        · exact absurd first Put.not_fails_tell
        · exact absurd second Put.not_fails_tell
    next => exact ⟨_, (Put.fails_throw.mp fails).symm⟩
  next =>
    -- witnesses are always written, so that only their count can fail
    rcases Put.fails_bind.mp fails with count | ⟨_, _, _, items⟩
    · exact writeCount_fails count
    · exact absurd items (Put.emits_each fun witness _ => emits_witness witness).not_fails
  next =>
    split at fails
    next => exact ⟨_, (Put.fails_throw.mp fails).symm⟩
    next => exact absurd fails Put.not_fails_pure

theorem emits_single {msg : TxMsg} {witness : Witness} (layout : msg.type.witnessLayout = .single)
    (own : witness.address = msg.gasFrom) :
    (SignedTxMsg.mk msg [witness]).writeWitnesses.Emits () witness.signature.raw := by
  unfold writeWitnesses
  simp only [layout]
  rw [if_neg (not_not.mpr own)]
  exact emits_write64.mpr rfl

theorem emits_gasPayer {msg : TxMsg} {witness second : Witness}
    (layout : msg.type.witnessLayout = .gasPayer) (own : witness.address = msg.gasFrom) :
    (SignedTxMsg.mk msg [witness, second]).writeWitnesses.Emits ()
      (witness.signature.raw ++ second.signature.raw) := by
  unfold writeWitnesses
  simp only [layout]
  rw [if_neg (not_not.mpr own)]
  exact Put.Emits.bind (emits_write64.mpr rfl) (emits_write64.mpr rfl)

theorem writeWitnesses_of_shape {self : SignedTxMsg} (shape : self.WitnessShape) :
    ∃ out, self.writeWitnesses.Emits () out ∧ self.rebuilt = self.witnesses := by
  obtain ⟨msg, witnesses⟩ := self
  unfold WitnessShape at shape
  unfold rebuilt
  dsimp only at shape ⊢
  cases layout : msg.type.witnessLayout with
  | single =>
    simp only [layout] at shape
    obtain ⟨signature, rfl⟩ := shape
    exact ⟨_, emits_single layout rfl, rfl⟩
  | gasPayer =>
    simp only [layout] at shape
    obtain ⟨gasSignature, signature, rfl⟩ := shape
    exact ⟨_, emits_gasPayer layout rfl, rfl⟩
  | counted =>
    simp only [layout] at shape
    refine ⟨intToLE 4 witnesses.length ++ witnesses.flatMap fun witness =>
      witness.address.raw ++ witness.signature.raw, ?_, rfl⟩
    unfold writeWitnesses
    simp only [layout]
    exact Put.Emits.bind (emits_count.mpr ⟨shape, rfl⟩)
      (Put.emits_each fun witness _ => emits_witness witness)
  | absent =>
    simp only [layout] at shape
    subst shape
    refine ⟨[], ?_, rfl⟩
    unfold writeWitnesses
    simp only [layout]
    exact Put.emits_pure.mpr ⟨rfl, rfl⟩

theorem yields_read64 {bs rest : Bytes} {value : Bytes64} (yields : read64.Yields bs value rest) :
    bs = value.raw ++ rest := by
  obtain ⟨out, equal, emits⟩ := fixed_restores 64 yields
  rwa [emits_write.mp emits] at equal

/-- The witnesses are written back as the bytes from which they were read. -/
theorem readWitnesses_restores (msg : TxMsg) :
    Restores (fun witnesses => (SignedTxMsg.mk msg witnesses).writeWitnesses)
      (readWitnesses msg) := by
  intro bs witnesses rest yields
  unfold readWitnesses at yields
  -- The reader and the writer both branch on the layout that the type of the message fixes.
  cases layout : msg.type.witnessLayout with
  | single =>
    simp only [layout] at yields
    obtain ⟨signature, _, first, built⟩ := Get.yields_bind.mp yields
    obtain ⟨rfl, rfl⟩ := Get.yields_pure.mp built
    obtain rfl := yields_read64 first
    exact ⟨signature.raw, rfl, emits_single layout rfl⟩
  | gasPayer =>
    simp only [layout] at yields
    obtain ⟨gasSignature, _, first, yields⟩ := Get.yields_bind.mp yields
    obtain ⟨signature, _, second, built⟩ := Get.yields_bind.mp yields
    obtain ⟨rfl, rfl⟩ := Get.yields_pure.mp built
    obtain rfl := yields_read64 first
    obtain rfl := yields_read64 second
    exact ⟨_, (List.append_assoc _ _ _).symm, emits_gasPayer layout rfl⟩
  | counted =>
    simp only [layout] at yields
    unfold writeWitnesses
    simp only [layout]
    exact (array_lossless Witness.lossless (by decide)).restores yields
  | absent =>
    simp only [layout] at yields
    obtain ⟨rfl, rfl⟩ := Get.yields_pure.mp yields
    refine ⟨[], rfl, ?_⟩
    unfold writeWitnesses
    simp only [layout]
    exact Put.emits_pure.mpr ⟨rfl, rfl⟩

/-! ### Round trip -/

/-- Whatever the transaction's own image is, the image of the signed transaction continues it, and
    is read with the rebuilt witnesses. -/
theorem readCarbon_yields {self : SignedTxMsg} {raw out : Bytes}
    (msgRead : TxMsg.readCarbon.Yields raw self.msg []) (emits : self.writeWitnesses.Emits () out) :
    readCarbon.Yields (raw ++ out) { msg := self.msg, witnesses := self.rebuilt } [] := by
  have msgParses := TxMsg.marked.isLocal.steady.parses msgRead
  exact (msgParses.bind ((readWitnesses_parses emits).map fun witnesses =>
    SignedTxMsg.mk self.msg witnesses)).yields

end SignedTxMsg

/-- Transactions and signed transactions come back from the wire as they were, and the image of a
    signed transaction starts with the image of its transaction. -/
theorem transaction_roundTrip :
    (∀ msg : TxMsg, msg.WellFormed → ∃ raw, serialize msg.writeCarbon = .ok raw ∧
      deserialize TxMsg.readCarbon raw = .ok msg) ∧
    (∀ signed : SignedTxMsg, signed.msg.WellFormed → signed.WitnessShape →
      ∃ raw msgRaw, serialize signed.writeCarbon = .ok raw ∧
        deserialize SignedTxMsg.readCarbon raw = .ok signed ∧
        serialize signed.msg.writeCarbon = .ok msgRaw ∧ msgRaw <+: raw) := by
  constructor
  · intro msg wellFormed
    obtain ⟨raw, emits, parses⟩ := TxMsg.marked.roundTrips msg wellFormed
    exact ⟨raw, serialize_eq_ok.mpr emits, deserialize_eq_ok.mpr parses.yields⟩
  · rintro ⟨msg, witnesses⟩ wellFormed shape
    obtain ⟨raw, emits, parses⟩ := TxMsg.marked.roundTrips msg wellFormed
    obtain ⟨out, emitsOut, kept⟩ := SignedTxMsg.writeWitnesses_of_shape shape
    have yields := SignedTxMsg.readCarbon_yields parses.yields emitsOut
    rw [kept] at yields
    exact ⟨raw ++ out, raw, serialize_eq_ok.mpr (emits.bind emitsOut), deserialize_eq_ok.mpr yields,
      serialize_eq_ok.mpr emits, List.prefix_append raw out⟩

/-- A transfer whose gas is paid by the first of two addresses. -/
def sampleTransfer : TxMsg where
  type := .TRANSFER_FUNGIBLE_GAS_PAYER
  expiry := 1759711416000
  maxGas := 10000000
  maxData := 1000
  gasFrom := EMPTY_BYTES32
  payload := SmallString.empty
  msg := .transferFungibleGasPayer
    { toAddress := EMPTY_BYTES32, fromAddress := ⟨List.replicate 32 7, by decide⟩, tokenId := 1
      amount := 100000000 }

theorem sampleTransfer_wellFormed : sampleTransfer.WellFormed :=
  ⟨rfl, by decide, by decide, by decide,
    show Unsigned 64 1 ∧ Unsigned 64 100000000 from ⟨by decide, by decide⟩⟩

/-- The transfer with the signatures of both addresses. -/
def sampleSigned : SignedTxMsg where
  msg := sampleTransfer
  witnesses := [⟨EMPTY_BYTES32, EMPTY_BYTES64⟩,
    ⟨⟨List.replicate 32 7, by decide⟩, ⟨List.replicate 64 9, by decide⟩⟩]

theorem transaction_roundTrip_sample :
    (∃ raw, serialize sampleTransfer.writeCarbon = .ok raw ∧
      deserialize TxMsg.readCarbon raw = .ok sampleTransfer) ∧
    ∃ raw msgRaw, serialize sampleSigned.writeCarbon = .ok raw ∧
      deserialize SignedTxMsg.readCarbon raw = .ok sampleSigned ∧
      serialize sampleTransfer.writeCarbon = .ok msgRaw ∧ msgRaw <+: raw :=
  ⟨transaction_roundTrip.1 sampleTransfer sampleTransfer_wellFormed,
    transaction_roundTrip.2 sampleSigned sampleTransfer_wellFormed
      ⟨EMPTY_BYTES64, ⟨List.replicate 64 9, by decide⟩, rfl⟩⟩

/-- A raw transaction of 2 GiB, which the four-byte length cannot count. -/
def oversizedTransaction : TxMsg where
  type := .PHANTASMA_RAW
  expiry := 0
  maxGas := 0
  maxData := 0
  gasFrom := EMPTY_BYTES32
  payload := SmallString.empty
  msg := .phantasmaRaw { transaction := List.replicate (2 ^ 31) 0 }

theorem oversizedTransaction_refused :
    oversizedTransaction.msg.type = oversizedTransaction.type ∧
      Signed 64 oversizedTransaction.expiry ∧ Unsigned 64 oversizedTransaction.maxGas ∧
      Unsigned 64 oversizedTransaction.maxData ∧
      ¬ ∃ raw, serialize oversizedTransaction.writeCarbon = .ok raw := by
  refine ⟨rfl, by decide, by decide, by decide, ?_⟩
  rintro ⟨raw, written⟩
  unfold TxMsg.writeCarbon at written
  simp only [serialize_eq_ok, Put.emits_seq] at written
  obtain ⟨_, _, _, ⟨_, _, _, ⟨_, _, _, ⟨_, _, _, ⟨_, _, _, ⟨_, _, _, payload, _⟩, _⟩, _⟩, _⟩, _⟩, _⟩ := written
  have short := (emits_writeByteArray.mp payload).1
  rw [ShortBytes, List.length_replicate] at short
  exact lt_irrefl _ short

namespace SignedTxMsg

/-! ### What is kept of the witnesses -/

/-- The writer refuses the transaction, or the reader returns the same witnesses. -/
def KeepsWitnesses (self : SignedTxMsg) : Prop :=
  (∃ message, serialize self.writeCarbon = .error (.serializationError message)) ∨
    ∃ raw signed, serialize self.writeCarbon = .ok raw ∧
      deserialize readCarbon raw = .ok signed ∧ signed.witnesses = self.witnesses

/-- A gas-payer transaction that passes the writer's check on the first witness, while the second
    witness does not have the address in the payload. -/
def ForeignSecondWitness (self : SignedTxMsg) : Prop :=
  self.msg.type.witnessLayout = .gasPayer ∧
    ∃ witness second, self.witnesses = [witness, second] ∧ witness.address = self.msg.gasFrom ∧
      second.address ≠ self.msg.msg.fromAddress

theorem rebuilt_eq_iff {self : SignedTxMsg} {out : Bytes} (emits : self.writeWitnesses.Emits () out) :
    self.rebuilt = self.witnesses ↔ ¬ self.ForeignSecondWitness := by
  obtain ⟨msg, witnesses⟩ := self
  unfold writeWitnesses at emits
  unfold rebuilt ForeignSecondWitness
  dsimp only at emits ⊢
  cases layout : msg.type.witnessLayout with
  | single => simp
  | counted => simp
  | absent => simp
  | gasPayer =>
    simp only [layout] at emits
    split at emits
    next witness second =>
      split at emits
      next => exact absurd emits Put.emits_throw
      -- the writer checks the first address, and the reader takes the second one from the payload
      next same =>
        obtain ⟨address, signature⟩ := second
        simp only [List.cons.injEq, Witness.mk.injEq, and_true, true_and, not_exists, not_and, not_not]
        constructor
        · rintro rfl _ _ ⟨rfl, rfl⟩ _
          rfl
        · intro own
          exact (own witness ⟨address, signature⟩ ⟨rfl, rfl⟩ (not_not.mp same)).symm
    next => exact absurd emits Put.emits_throw

/-- The writer accepts the foreign witness. -/
theorem ForeignSecondWitness.emits {self : SignedTxMsg} (foreign : self.ForeignSecondWitness) :
    ∃ out, self.writeWitnesses.Emits () out := by
  obtain ⟨msg, witnesses⟩ := self
  obtain ⟨layout, witness, second, rfl, own, _⟩ := foreign
  dsimp only at layout own
  exact ⟨_, emits_gasPayer layout own⟩

/-- For a transaction that comes back by itself, the witnesses come back or are refused unless the
    second of two is foreign. -/
theorem keepsWitnesses_iff {self : SignedTxMsg} {raw : Bytes}
    (emits : self.msg.writeCarbon.Emits () raw) (yields : TxMsg.readCarbon.Yields raw self.msg []) :
    self.KeepsWitnesses ↔ ¬ self.ForeignSecondWitness := by
  rcases Put.fails_or_emits self.writeWitnesses with ⟨e, fails⟩ | ⟨_, out, emitsOut⟩
  · -- A transaction with a foreign second witness is written, so one that is refused has none.
    obtain ⟨message, rfl⟩ := writeWitnesses_fails fails
    constructor
    · intro _ foreign
      obtain ⟨_, emits⟩ := foreign.emits
      exact fails.not_emits emits
    · intro _
      exact .inl ⟨message, (emits.bind_fails fails).bytes⟩
  · rw [← rebuilt_eq_iff emitsOut]
    have read := readCarbon_yields yields emitsOut
    have written : serialize self.writeCarbon = .ok (raw ++ out) :=
      serialize_eq_ok.mpr (emits.bind emitsOut)
    constructor
    · rintro (⟨message, refused⟩ | ⟨raw', signed, written', read', same⟩)
      · rw [written] at refused
        cases refused
      · rw [written] at written'
        obtain rfl := Except.ok.inj written'
        obtain ⟨rfl, _⟩ := read.unique (deserialize_eq_ok.mp read')
        exact same
    · intro same
      exact .inr ⟨raw ++ out, _, written, deserialize_eq_ok.mpr read, same⟩

end SignedTxMsg

/-- A signed transaction whose transaction survives the wire either keeps its witnesses or is
    refused, except when it is a gas-payer transaction with a foreign second witness. -/
theorem witnesses_kept_iff (signed : SignedTxMsg)
    (survives : ∃ raw, serialize signed.msg.writeCarbon = .ok raw ∧
      deserialize TxMsg.readCarbon raw = .ok signed.msg) :
    signed.KeepsWitnesses ↔ ¬ signed.ForeignSecondWitness := by
  obtain ⟨raw, written, read⟩ := survives
  exact SignedTxMsg.keepsWitnesses_iff (serialize_eq_ok.mp written) (deserialize_eq_ok.mp read)

theorem sampleTransfer_survives : ∃ raw, serialize sampleTransfer.writeCarbon = .ok raw ∧
    deserialize TxMsg.readCarbon raw = .ok sampleTransfer := by
  obtain ⟨raw, emits, parses⟩ := TxMsg.marked.roundTrips _ sampleTransfer_wellFormed
  exact ⟨raw, serialize_eq_ok.mpr emits, deserialize_eq_ok.mpr parses.yields⟩

theorem witnesses_kept_iff_sample :
    sampleSigned.KeepsWitnesses ↔ ¬ sampleSigned.ForeignSecondWitness :=
  witnesses_kept_iff sampleSigned sampleTransfer_survives

/-- The transfer with a second signature from an address that it does not mention. -/
def foreignSigned : SignedTxMsg where
  msg := sampleTransfer
  witnesses := [⟨EMPTY_BYTES32, EMPTY_BYTES64⟩,
    ⟨⟨List.replicate 32 8, by decide⟩, ⟨List.replicate 64 9, by decide⟩⟩]

theorem foreignSigned_loses_witness :
    (∃ raw, serialize foreignSigned.msg.writeCarbon = .ok raw ∧
      deserialize TxMsg.readCarbon raw = .ok foreignSigned.msg) ∧
    ¬ foreignSigned.KeepsWitnesses := by
  refine ⟨sampleTransfer_survives, ?_⟩
  obtain ⟨raw, written, read⟩ := sampleTransfer_survives
  have kept := @SignedTxMsg.keepsWitnesses_iff foreignSigned raw (serialize_eq_ok.mp written)
    (deserialize_eq_ok.mp read)
  rw [kept, not_not]
  exact ⟨rfl, _, _, rfl, rfl, by decide⟩

/-! ### Byte stability -/

/-- The images of the `IntX` fields in the image of a signed transaction, in order. -/
def intXImages (raw : Bytes) : List Bytes :=
  match TxMsg.readImages.run raw with
  | .ok (images, _) => images
  | .error _ => []

/-- An accepted image is written back unchanged exactly when each `IntX` in it is canonical. -/
theorem serialize_accepted_iff (raw : Bytes) (signed : SignedTxMsg)
    (accepted : deserialize SignedTxMsg.readCarbon raw = .ok signed) :
    serialize signed.writeCarbon = .ok raw ↔ ∀ image ∈ intXImages raw, IntX.Canonical image := by
  obtain ⟨msg, mid, head, tail⟩ := Get.yields_bind.mp (deserialize_eq_ok.mp accepted)
  obtain ⟨witnesses, rest, tail, built⟩ := Get.yields_bind.mp tail
  obtain ⟨rfl, rfl⟩ := Get.yields_pure.mp built
  obtain ⟨_, image, out, pieces, rfl, _, parses, emits, parsesOut, scans, stable⟩ :=
    TxMsg.marked.yields head
  -- The scan ends with the message, so the witnesses behind it play no part.
  have images : intXImages (image ++ mid) = pieces := by
    have run := scans mid
    unfold Get.Yields at run
    rw [intXImages, run]
  obtain ⟨tail', rfl, emitsTail⟩ := SignedTxMsg.readWitnesses_restores msg tail
  rw [List.append_nil] at images ⊢
  rw [images, stable, serialize_eq_ok]
  constructor
  · intro written
    obtain ⟨first, second, emits', emitsTail', equal⟩ := Put.emits_seq.mp written
    obtain rfl := (emits'.unique emits).2
    obtain rfl := (emitsTail'.unique emitsTail).2
    exact (List.append_cancel_right equal).symm
  · rintro rfl
    exact emits.bind emitsTail

/-- A burn of one unit, with its amount under a given header. -/
def burnImage (header : UInt8) : Bytes :=
  [10] ++ List.replicate 56 0 ++ [0] ++ List.replicate 8 0 ++ [header, 1] ++ List.replicate 7 0 ++
    List.replicate 64 0

/-- The signed transaction in that image. -/
def burnSigned : SignedTxMsg where
  msg := {
    type := .BURN_FUNGIBLE, expiry := 0, maxGas := 0, maxData := 0, gasFrom := EMPTY_BYTES32
    payload := SmallString.empty, msg := .burnFungible { tokenId := 0, amount := ⟨1⟩ } }
  witnesses := [⟨EMPTY_BYTES32, EMPTY_BYTES64⟩]

theorem serialize_accepted_iff_burn :
    serialize burnSigned.writeCarbon = .ok (burnImage 0x08) ↔
      ∀ image ∈ intXImages (burnImage 0x08), IntX.Canonical image :=
  have accepted : deserialize SignedTxMsg.readCarbon (burnImage 0x08) = .ok burnSigned := by
    decide +kernel
  serialize_accepted_iff (burnImage 0x08) burnSigned accepted

/-- The header with the reserved bit is accepted, and written back without it. -/
theorem reserved_bit_not_restored :
    deserialize SignedTxMsg.readCarbon (burnImage 0x48) = .ok burnSigned ∧
      serialize burnSigned.writeCarbon ≠ .ok (burnImage 0x48) := by
  decide +kernel

end PhantasmaPy.Carbon
