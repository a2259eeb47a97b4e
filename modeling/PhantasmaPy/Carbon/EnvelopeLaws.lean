import PhantasmaPy.Carbon.FeeLaws
import PhantasmaPy.Carbon.TransactionLaws

/-! # The size model of the fee estimator

The estimator's own arithmetic for the size of a signed transaction, compared with what the writers of
the transactions emit.
-/

namespace PhantasmaPy.Carbon

open Wire Put CarbonWriter

/-! ## Sizes of signed transactions -/

/-- The bytes that the witnesses of a layout take. -/
def WitnessLayout.bytes : WitnessLayout → Nat → Nat
  | single, count | gasPayer, count => 64 * count
  | counted, count => 4 + 96 * count
  | absent, _ => 0

theorem Witness.within (witness : Witness) : Within 96 96 witness.writeCarbon :=
  (within_write32 witness.address).seq (within_write64 witness.signature)

theorem SignedTxMsg.length_writeWitnesses {self : SignedTxMsg} {out : Bytes}
    (emits : self.writeWitnesses.Emits () out) :
    out.length = self.msg.type.witnessLayout.bytes self.witnesses.length := by
  obtain ⟨msg, witnesses⟩ := self
  unfold writeWitnesses at emits
  dsimp only at emits ⊢
  -- signatures alone for the native layouts, addresses and a count for the list
  cases layout : msg.type.witnessLayout with
  | single =>
    simp only [layout] at emits
    split at emits
    next witness =>
      split at emits
      next => exact absurd emits Put.emits_throw
      next =>
        have length := within_write64 witness.signature emits
        simp only [WitnessLayout.bytes, List.length_singleton]
        omega
    next => exact absurd emits Put.emits_throw
  | gasPayer =>
    simp only [layout] at emits
    split at emits
    next witness second =>
      split at emits
      next => exact absurd emits Put.emits_throw
      next =>
        have length := (within_write64 witness.signature).seq (within_write64 second.signature) emits
        simp only [WitnessLayout.bytes, List.length_cons, List.length_nil]
        omega
    next => exact absurd emits Put.emits_throw
  | counted =>
    simp only [layout] at emits
    have length := within_writeArray Witness.within witnesses emits
    simp only [WitnessLayout.bytes]
    omega
  | absent =>
    simp only [layout] at emits
    split at emits
    next => exact absurd emits Put.emits_throw
    next => exact (congrArg List.length (Put.emits_pure.mp emits).2).trans List.length_nil

/-- A signed transaction is the transaction followed by its witnesses. -/
theorem SignedTxMsg.length_eq {self : SignedTxMsg} {raw : Bytes}
    (written : serialize self.writeCarbon = .ok raw) :
    ∃ message, serialize self.msg.writeCarbon = .ok message ∧
      raw.length = message.length + self.msg.type.witnessLayout.bytes self.witnesses.length := by
  obtain ⟨message, witnesses, messageEmits, witnessesEmit, rfl⟩ :=
    Put.emits_seq.mp (serialize_eq_ok.mp written)
  refine ⟨message, serialize_eq_ok.mpr messageEmits, ?_⟩
  rw [List.length_append, length_writeWitnesses witnessesEmit]

/-- The transaction types that an operation of the kind is sent as. -/
def NativeFeeKind.Covers (kind : NativeFeeKind) (type : TxType) : Prop :=
  match kind with
  | .transferFungible | .transferNonFungible | .mintFungible | .mintNonFungible | .burnFungible
  | .burnNonFungible => type.witnessLayout = .single ∨ type.witnessLayout = .gasPayer
  | .createToken | .createTokenSeries | .registerName => type = .CALL
  | .script => type = .PHANTASMA

theorem NativeFeeKind.Covers.envelopeBytesFor_eq {kind : NativeFeeKind} {type : TxType}
    (covers : kind.Covers type) (length count : Nat) :
    envelopeBytesFor kind length count = .ok ↑(length + type.witnessLayout.bytes count) := by
  -- the kinds are split like the transaction types that they cover
  have native : kind.isNativeSignature = true → type.witnessLayout.bytes count = 64 * count := by
    intro bare
    have layouts : type.witnessLayout = .single ∨ type.witnessLayout = .gasPayer := by
      cases kind <;> first | exact covers | exact absurd bare Bool.false_ne_true
    rcases layouts with layout | layout <;> rw [layout] <;> rfl
  have counted : ¬ kind.isNativeSignature = true → type.witnessLayout.bytes count = 4 + 96 * count := by
    intro listed
    have types : type = .CALL ∨ type = .PHANTASMA := by
      cases kind <;> first | exact absurd rfl listed | exact Or.inl covers | exact Or.inr covers
    rcases types with rfl | rfl <;> rfl
  unfold envelopeBytesFor
  rw [if_neg (by omega), if_neg (by omega)]
  split
  next bare =>
    rw [native bare, NATIVE_SIGNATURE_BYTES]
    push_cast
    rfl
  next listed =>
    rw [counted listed, WITNESS_ARRAY_ENTRY_BYTES]
    push_cast
    rw [add_assoc]

/-! ## Default sizes -/

/-- A transaction around its payload: the fixed fields and a short text. -/
theorem TxMsg.within {self : TxMsg} {low high : Nat} (payload : Within low high self.msg.writeCarbon) :
    Within (58 + low) (313 + high) self.writeCarbon := by
  have fields := (within_write1 self.type.toByte.toNat).seq ((within_write8 self.expiry).seq
    ((within_write8u self.maxGas).seq ((within_write8u self.maxData).seq ((within_write32 self.gasFrom).seq
    (self.payload.within.seq payload)))))
  exact fields.mono (by omega) (by omega)

theorem within_instanceIds (instanceIds : List Int) :
    Within (4 + 8 * instanceIds.length) (4 + 8 * instanceIds.length) (writeIntArray instanceIds 8 false) :=
  within_writeArray within_write8u instanceIds

/-- The operation of a single-witness payload: its kind, the instance ids and the bytes of ROM and RAM
    that it carries. -/
def TxPayload.nativeOperation : TxPayload → Option (NativeFeeKind × Nat × Nat)
  | transferFungible _ => some (.transferFungible, 1, 0)
  | transferNonFungibleSingle _ => some (.transferNonFungible, 1, 0)
  | transferNonFungibleMulti payload => some (.transferNonFungible, payload.instanceIds.length, 0)
  | mintFungible _ => some (.mintFungible, 1, 0)
  | burnFungible _ => some (.burnFungible, 1, 0)
  | mintNonFungible payload => some (.mintNonFungible, 1, payload.rom.length + payload.ram.length)
  | burnNonFungible _ => some (.burnNonFungible, 1, 0)
  | _ => none

/-- The default of a kind leaves room for the largest head and one signature around its payloads. -/
theorem TxPayload.nativeOperation_within {payload : TxPayload} {kind : NativeFeeKind} {count romRam : Nat}
    (operation : payload.nativeOperation = some (kind, count, romRam)) :
    ∃ high : Nat, Within 0 high payload.writeCarbon ∧
      ((313 + high + 64 : Nat) : Int) ≤ defaultEnvelopeBytes kind count romRam := by
  -- beside the head of at most 313 bytes and the signature of 64 the default has room for the largest payload
  cases payload with
  | transferFungible transfer =>
    cases operation
    have within := (within_write32 transfer.toAddress).seq
      ((within_write8u transfer.tokenId).seq (within_write8u transfer.amount))
    exact ⟨48, within.mono (by omega) (by omega), by decide⟩
  | transferNonFungibleSingle transfer =>
    cases operation
    have within := (within_write32 transfer.toAddress).seq
      ((within_write8u transfer.tokenId).seq (within_write8u transfer.instanceId))
    exact ⟨48, within.mono (by omega) (by omega), by decide⟩
  | transferNonFungibleMulti transfer =>
    cases operation
    have within := (within_write32 transfer.toAddress).seq
      ((within_write8u transfer.tokenId).seq (within_instanceIds transfer.instanceIds))
    refine ⟨44 + 8 * transfer.instanceIds.length, within.mono (by omega) (by omega), ?_⟩
    simp only [defaultEnvelopeBytes]
    omega
  | mintFungible mint =>
    cases operation
    have within := (within_write8u mint.tokenId).seq ((within_write32 mint.toAddress).seq mint.amount.within)
    exact ⟨73, within.mono (by omega) (by omega), by decide⟩
  | burnFungible burn =>
    cases operation
    have within := (within_write8u burn.tokenId).seq burn.amount.within
    exact ⟨41, within.mono (by omega) (by omega), by decide⟩
  | mintNonFungible mint =>
    cases operation
    have within := (within_write8u mint.tokenId).seq ((within_write32 mint.toAddress).seq
      ((within_write4u mint.seriesId).seq
        ((within_writeByteArray mint.rom).seq (within_writeByteArray mint.ram))))
    refine ⟨52 + (mint.rom.length + mint.ram.length), within.mono (by omega) (by omega), ?_⟩
    simp only [defaultEnvelopeBytes]
    omega
  | burnNonFungible burn =>
    cases operation
    have within := (within_write8u burn.tokenId).seq (within_write8u burn.instanceId)
    exact ⟨16, within.mono (by omega) (by omega), by decide⟩
  | _ => cases operation

/-- Every payload of a single-witness type is an operation with bare signatures. -/
theorem TxPayload.exists_nativeOperation {payload : TxPayload}
    (layout : payload.type.witnessLayout = .single) :
    ∃ kind count romRam, payload.nativeOperation = some (kind, count, romRam) ∧
      kind.isNativeSignature = true := by
  cases payload <;> first | exact ⟨_, _, _, rfl, rfl⟩ | cases layout

theorem length_le_defaultEnvelopeBytes {signed : SignedTxMsg} {raw : Bytes} {kind : NativeFeeKind}
    {count romRam : Nat} (layout : signed.msg.type.witnessLayout = .single)
    (operation : signed.msg.msg.nativeOperation = some (kind, count, romRam))
    (written : serialize signed.writeCarbon = .ok raw) :
    (raw.length : Int) ≤ defaultEnvelopeBytes kind count romRam := by
  obtain ⟨high, within, room⟩ := TxPayload.nativeOperation_within operation
  obtain ⟨message, witnesses, messageEmits, witnessesEmit, rfl⟩ :=
    Put.emits_seq.mp (serialize_eq_ok.mp written)
  have messageLength := (TxMsg.within within messageEmits).2
  have signature : witnesses.length = 64 := by
    unfold SignedTxMsg.writeWitnesses at witnessesEmit
    simp only [layout] at witnessesEmit
    split at witnessesEmit
    · split at witnessesEmit
      · exact absurd witnessesEmit Put.emits_throw
      · have length := within_write64 _ witnessesEmit
        omega
    · exact absurd witnessesEmit Put.emits_throw
  rw [List.length_append]
  omega

/-! ## The offer at the real size -/

theorem mulShift_total {config : GasConfig} (head : config.HeadInRange) (value : Int) :
    ∃ scaled, mulShift value config.feeMultiplier config.feeShift = .ok scaled := by
  obtain ⟨-, -, ⟨shiftNonneg, -⟩, -⟩ := head
  simp only [mulShift_eq_ok]
  split
  · exact ⟨0, rfl⟩
  · exact ⟨_, shiftNonneg, rfl⟩

theorem billV2_total {config : GasConfig} (head : config.HeadInRange)
    (workUnits envelope eventBytes rows policyFee : Int) :
    ∃ bill, billV2 workUnits envelope eventBytes rows policyFee config = .ok bill := by
  obtain ⟨scaled, multiplied⟩ := mulShift_total head
    (workUnits + (envelope + eventBytes + rows) * GAS_MODEL_V2_UNITS_PER_BLOCK_DATA_BYTE)
  exact ⟨_, billV2_eq_ok.mpr ⟨scaled, multiplied, rfl⟩⟩

/-- The operations with bare signatures are priced under every configuration. -/
theorem operationFees_total {kind : NativeFeeKind} (native : kind.isNativeSignature = true)
    (config : GasConfig) (arguments : FeeArguments) :
    ∃ workUnits policyFee, operationFees kind config arguments = .ok (workUnits, policyFee) := by
  cases kind with
  | createToken | createTokenSeries | registerName | script => cases native
  | _ => exact ⟨_, _, rfl⟩

/-- The offer of the second gas model covers the bill of any smaller envelope. -/
theorem offerV2_covers_smaller {workUnits envelope real eventBytes rows policyFee expected maxGas bill : Int}
    {config : GasConfig} (head : config.HeadInRange) (minimumBill : Unsigned 64 config.minimumGasBill)
    (fits : real ≤ envelope)
    (offered : offerV2 workUnits envelope eventBytes rows policyFee config = .ok (expected, maxGas))
    (billed : billV2 workUnits real eventBytes rows policyFee config = .ok bill) : bill ≤ maxGas := by
  have covers := (offerV2_covers head minimumBill offered).2.1
  obtain ⟨-, -, -, -, ⟨multiplier, -⟩, -⟩ := head
  obtain ⟨larger, largerBilled, offered⟩ := except_bind_eq_ok.mp offered
  obtain ⟨padded, -, offered⟩ := except_bind_eq_ok.mp offered
  obtain ⟨rfl, rfl⟩ := Prod.mk.inj (Except.ok.inj offered)
  have larger := (billV2_follows multiplier le_rfl fits eventBytes le_rfl le_rfl).results billed largerBilled
  exact larger.trans covers

theorem offerV2_total {config : GasConfig} (head : config.HeadInRange)
    (workUnits envelope eventBytes rows policyFee : Int) :
    ∃ expected maxGas, offerV2 workUnits envelope eventBytes rows policyFee config = .ok (expected, maxGas) := by
  obtain ⟨bill, billed⟩ := billV2_total head workUnits envelope eventBytes rows policyFee
  obtain ⟨padded, paddedBilled⟩ := billV2_total head workUnits (roundUp envelope 128) eventBytes rows policyFee
  exact ⟨_, _, except_bind_eq_ok.mpr ⟨bill, billed, except_bind_eq_ok.mpr ⟨padded, paddedBilled, rfl⟩⟩⟩

/-- The default arguments of an operation that carries the given instance ids and bytes. -/
def FeeArguments.carrying (count romRam : Nat) : FeeArguments where
  count := count
  romRamBytes := romRam

/-- The bill of the second gas model at the given size, with the rows and work units of the estimate. -/
def billAtSize (kind : NativeFeeKind) (config : GasConfig) (arguments : FeeArguments) (size : Int) :
    Except ValueError Int := do
  let (workUnits, policyFee) ← operationFees kind config arguments
  billV2 workUnits size kind.eventBytes (arguments.rows kind) policyFee config

/-- The default estimate exists and covers the bill at every size up to the default one. -/
theorem default_estimate_covers {kind : NativeFeeKind} (native : kind.isNativeSignature = true)
    {config : GasConfig} (head : config.HeadInRange) (tail : config.TailInRange)
    (second : 1 ≤ config.version) {count romRam : Nat} (counted : 1 ≤ count) {size : Int}
    (fits : size ≤ defaultEnvelopeBytes kind count romRam) :
    ∃ estimate bill, estimateNativeFee kind config (.carrying count romRam) = .ok estimate ∧
      billAtSize kind config (.carrying count romRam) size = .ok bill ∧ bill ≤ estimate.maxGas := by
  obtain ⟨workUnits, policyFee, priced⟩ := operationFees_total native config (.carrying count romRam)
  obtain ⟨expected, maxGas, offered⟩ := offerV2_total head workUnits
    ((FeeArguments.carrying count romRam).envelope kind) kind.eventBytes
    ((FeeArguments.carrying count romRam).rows kind) policyFee
  obtain ⟨bill, billed⟩ := billV2_total head workUnits size kind.eventBytes
    ((FeeArguments.carrying count romRam).rows kind) policyFee
  -- only the second gas model has an envelope term
  have modelled : offer kind config (.carrying count romRam) workUnits policyFee = .ok (expected, maxGas) := by
    unfold offer
    rw [if_pos (by simpa [GasConfig.hasGasModelV2] using second)]
    exact offered
  refine ⟨⟨maxGas, _, expected⟩, bill,
    estimateNativeFee_eq_ok.mpr ⟨?_, workUnits, policyFee, priced, modelled, rfl⟩,
    except_bind_eq_ok.mpr ⟨_, priced, billed⟩, offerV2_covers_smaller head tail.1 fits offered billed⟩
  simp only [FeeArguments.carrying]
  omega

/-- The estimator's size of a signed transaction is its real size; a default size is at least the real
    one, and the default offer covers the bill at the real size.  The estimator refuses a count of zero. -/
theorem envelope_agrees :
    (∀ (kind : NativeFeeKind) (signed : SignedTxMsg) raw, kind.Covers signed.msg.type →
      serialize signed.writeCarbon = .ok raw →
      ∃ message, serialize signed.msg.writeCarbon = .ok message ∧
        envelopeBytesFor kind message.length signed.witnesses.length = .ok (raw.length : Int)) ∧
    ∀ (signed : SignedTxMsg) raw, signed.msg.type = signed.msg.msg.type →
      signed.msg.type.witnessLayout = .single → serialize signed.writeCarbon = .ok raw →
      ∃ kind count romRam, signed.msg.msg.nativeOperation = some (kind, count, romRam) ∧
        (raw.length : Int) ≤ defaultEnvelopeBytes kind count romRam ∧
        ∀ config : GasConfig, config.HeadInRange → config.TailInRange → 1 ≤ config.version →
          1 ≤ count →
          ∃ estimate bill, estimateNativeFee kind config (.carrying count romRam) = .ok estimate ∧
            billAtSize kind config (.carrying count romRam) raw.length = .ok bill ∧
            bill ≤ estimate.maxGas := by
  constructor
  · intro kind signed raw covers written
    obtain ⟨message, messageWritten, length⟩ := SignedTxMsg.length_eq written
    refine ⟨message, messageWritten, ?_⟩
    rw [length]
    exact covers.envelopeBytesFor_eq message.length signed.witnesses.length
  · intro signed raw selected layout written
    obtain ⟨kind, count, romRam, operation, native⟩ :=
      TxPayload.exists_nativeOperation (selected ▸ layout : signed.msg.msg.type.witnessLayout = .single)
    -- the offer for the default size covers the bill at the real one, as the bill grows with the size
    have fits := length_le_defaultEnvelopeBytes layout operation written
    refine ⟨kind, count, romRam, operation, fits, fun config head tail second counted => ?_⟩
    exact default_estimate_covers native head tail second counted fits

theorem envelope_agrees_burn :
    (∃ message, serialize burnSigned.msg.writeCarbon = .ok message ∧
      envelopeBytesFor .burnFungible message.length 1 = .ok ((burnImage 8).length : Int)) ∧
    ((burnImage 8).length : Int) ≤ defaultEnvelopeBytes .burnFungible 1 0 ∧
    ∃ estimate bill, estimateNativeFee .burnFungible GasConfig.sample (.carrying 1 0) = .ok estimate ∧
      billAtSize .burnFungible GasConfig.sample (.carrying 1 0) (burnImage 8).length = .ok bill ∧
      bill ≤ estimate.maxGas := by
  have written : serialize burnSigned.writeCarbon = .ok (burnImage 8) := by decide +kernel
  refine ⟨envelope_agrees.1 .burnFungible burnSigned _ (Or.inl rfl) written, ?_⟩
  obtain ⟨kind, count, romRam, operation, fits, covers⟩ := envelope_agrees.2 burnSigned _ rfl rfl written
  obtain ⟨rfl, rfl, rfl⟩ : NativeFeeKind.burnFungible = kind ∧ 1 = count ∧ 0 = romRam := by
    simpa using Option.some.inj operation
  exact ⟨fits, covers GasConfig.sample GasConfig.sample_inRange.2.1 GasConfig.sample_inRange.2.2 (by decide) le_rfl⟩

end PhantasmaPy.Carbon
