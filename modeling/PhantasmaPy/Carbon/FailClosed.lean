import PhantasmaPy.Carbon.Audits
import PhantasmaPy.Carbon.GasConfigLaws

/-! # Decoding fails closed

The Carbon classes with a reader, the audit of each, and what follows for every class at once: no strict
prefix of an accepted image is accepted, and a decoder raises the SDK's own error unless it reaches a bad
enumeration byte or a bad text.
-/

namespace PhantasmaPy.Carbon

open Wire Wire.Get CarbonReader

/-! ## Schemas -/

section Schemas

variable (readStruct : CarbonReader VMStructSchema) [Audit readStruct]

instance VMVariableSchema.audit : Audit (VMVariableSchema.readCarbon readStruct) := by
  delta VMVariableSchema.readCarbon; infer_instance

instance VMNamedVariableSchema.audit : Audit (VMNamedVariableSchema.readCarbon readStruct) := by
  delta VMNamedVariableSchema.readCarbon; infer_instance

end Schemas

instance VMStructSchema.audit : Audit VMStructSchema.readCarbon :=
  Audited.fix readBody_guarded refusal_endOfStream.out (fun readStruct audits _ => by
    have := audits ()
    delta readBody
    infer_instance) ()

/-! ## Dynamic values -/

instance readLeaf_audit (vmType : VMType) : Audit (readLeaf vmType) := by
  cases vmType <;> (dsimp only [readLeaf]; infer_instance)

section Readers

variable (readInline : VMType → CarbonReader Data) [∀ vmType, Audit (readInline vmType)]

instance readVariable_audit : Audit (readVariable readInline) := by delta readVariable; infer_instance

instance readNamed_audit : Audit (readNamed readInline) := by delta readNamed; infer_instance

instance readStruct_audit : Audit (readStruct readInline) := by delta readStruct; infer_instance

omit [∀ vmType, Audit (readInline vmType)] in
theorem readStatic_some {vmType : VMType} (schema : VMStructSchema) :
    readStatic readInline vmType (some schema) =
      match vmType with
      | .STRUCT => do return .struct (← readWithSchema readInline schema)
      | .ARRAY_STRUCT => do
        let structs ← readArray (readWithSchema readInline schema)
        return .structArray ⟨schema, structs.map .struct⟩
      | _ => readInline vmType := by
  cases vmType <;> rfl

set_option linter.unusedSectionVars false in
mutual

theorem readWithSchemaAudit :
    (schema : VMStructSchema) → Audit (readWithSchema readInline schema)
  | ⟨schemaFields, flags⟩ =>
    have := readFieldsAudit schemaFields
    Audited.congr (readWithSchema.eq_1 readInline schemaFields flags) inferInstance

theorem readFieldsAudit :
    (schemaFields : List VMNamedVariableSchema) → Audit (readFields readInline schemaFields)
  | [] => Audited.congr (readFields.eq_1 readInline) inferInstance
  | ⟨name, ⟨type, structDef⟩⟩ :: schemaFields =>
    have := readStaticAudit type structDef
    have := readFieldsAudit schemaFields
    Audited.congr (readFields.eq_2 readInline name type structDef schemaFields) inferInstance

theorem readStaticAudit (vmType : VMType) :
    (schema : Option VMStructSchema) → Audit (readStatic readInline vmType schema)
  | none => Audited.congr (readStatic.eq_1 readInline vmType) inferInstance
  | some schema =>
    have := readWithSchemaAudit schema
    Audited.congr (readStatic_some readInline schema) (by
      cases vmType <;> (dsimp only; infer_instance))

end

instance readWithSchema_audit (schema : VMStructSchema) : Audit (readWithSchema readInline schema) :=
  readWithSchemaAudit readInline schema

theorem readInlineBodyAudit (vmType : VMType) : Audit (readInlineBody readInline vmType) := by
  cases vmType <;> (dsimp only [readInlineBody]; infer_instance)

end Readers

instance readInline_audit (vmType : VMType) : Audit (readInline vmType) :=
  Audited.fix readInlineBody_guarded refusal_endOfStream.out (fun readInline _ => readInlineBodyAudit readInline)
    vmType

instance VMDynamicVariable.audit : Audit VMDynamicVariable.readCarbon := readVariable_audit readInline

instance VMDynamicStruct.audit : Audit VMDynamicStruct.readCarbon := readStruct_audit readInline

instance VMNamedDynamicVariable.audit : Audit VMNamedDynamicVariable.readCarbon :=
  readNamed_audit readInline

/-! ## Configurations and modules -/

instance ChainConfig.audit : Audit ChainConfig.readCarbon := by delta ChainConfig.readCarbon; infer_instance

instance TokensConfig.audit : Audit TokensConfig.readCarbon := by
  delta TokensConfig.readCarbon; infer_instance

instance GasConfig.readHead_audit (version : Int) : Audit (GasConfig.readHead version) := by
  delta GasConfig.readHead; infer_instance

instance GasConfig.readTail_audit (config : GasConfig) : Audit (GasConfig.readTail config) := by
  delta GasConfig.readTail; infer_instance

instance GasConfig.audit : Audit GasConfig.readCarbon := by delta GasConfig.readCarbon; infer_instance

instance TokenSchemas.audit : Audit TokenSchemas.readCarbon := by
  delta TokenSchemas.readCarbon; infer_instance

instance TokenInfo.audit : Audit TokenInfo.readCarbon := by delta TokenInfo.readCarbon; infer_instance

instance SeriesInfo.audit : Audit SeriesInfo.readCarbon := by delta SeriesInfo.readCarbon; infer_instance

instance NFTMintInfo.audit : Audit NFTMintInfo.readCarbon := by delta NFTMintInfo.readCarbon; infer_instance

instance MintNonFungibleArgs.audit : Audit MintNonFungibleArgs.readCarbon := by
  delta MintNonFungibleArgs.readCarbon; infer_instance

instance CreateTokenSeriesArgs.audit : Audit CreateTokenSeriesArgs.readCarbon := by
  delta CreateTokenSeriesArgs.readCarbon; infer_instance

instance CreateMintedTokenSeriesArgs.audit : Audit CreateMintedTokenSeriesArgs.readCarbon := by
  delta CreateMintedTokenSeriesArgs.readCarbon; infer_instance

instance PhantasmaNFTMintInfo.audit : Audit PhantasmaNFTMintInfo.readCarbon := by
  delta PhantasmaNFTMintInfo.readCarbon; infer_instance

instance MintPhantasmaNonFungibleArgs.audit : Audit MintPhantasmaNonFungibleArgs.readCarbon := by
  delta MintPhantasmaNonFungibleArgs.readCarbon; infer_instance

instance PhantasmaNFTMintResult.audit : Audit PhantasmaNFTMintResult.readCarbon := by
  delta PhantasmaNFTMintResult.readCarbon; infer_instance

instance MintFungibleArgs.audit : Audit MintFungibleArgs.readCarbon := by
  delta MintFungibleArgs.readCarbon; infer_instance

instance TransferFungibleArgs.audit : Audit TransferFungibleArgs.readCarbon := by
  delta TransferFungibleArgs.readCarbon; infer_instance

instance TransferNonFungibleArgs.audit : Audit TransferNonFungibleArgs.readCarbon := by
  delta TransferNonFungibleArgs.readCarbon; infer_instance

instance BurnFungibleArgs.audit : Audit BurnFungibleArgs.readCarbon := by
  delta BurnFungibleArgs.readCarbon; infer_instance

instance BurnNonFungibleArgs.audit : Audit BurnNonFungibleArgs.readCarbon := by
  delta BurnNonFungibleArgs.readCarbon; infer_instance

instance UpdateTokenMetadataArgs.audit : Audit UpdateTokenMetadataArgs.readCarbon := by
  delta UpdateTokenMetadataArgs.readCarbon; infer_instance

instance UpdateSeriesMetadataArgs.audit : Audit UpdateSeriesMetadataArgs.readCarbon := by
  delta UpdateSeriesMetadataArgs.readCarbon; infer_instance

instance TokenListing.audit : Audit TokenListing.readCarbon := by
  delta TokenListing.readCarbon; infer_instance

instance MarketConfig.audit : Audit MarketConfig.readCarbon := by
  delta MarketConfig.readCarbon; infer_instance

instance MarketSellTokenArgs.audit : Audit MarketSellTokenArgs.readCarbon := by
  delta MarketSellTokenArgs.readCarbon; infer_instance

instance MarketSellTokenByIDArgs.audit : Audit MarketSellTokenByIDArgs.readCarbon := by
  delta MarketSellTokenByIDArgs.readCarbon; infer_instance

instance MarketCancelSaleArgs.audit : Audit MarketCancelSaleArgs.readCarbon := by
  delta MarketCancelSaleArgs.readCarbon; infer_instance

instance MarketCancelSaleByIDArgs.audit : Audit MarketCancelSaleByIDArgs.readCarbon := by
  delta MarketCancelSaleByIDArgs.readCarbon; infer_instance

instance MarketBuyTokenArgs.audit : Audit MarketBuyTokenArgs.readCarbon := by
  delta MarketBuyTokenArgs.readCarbon; infer_instance

instance MarketBuyTokenByIDArgs.audit : Audit MarketBuyTokenByIDArgs.readCarbon := by
  delta MarketBuyTokenByIDArgs.readCarbon; infer_instance

instance MarketGetTokenListingCountArgs.audit : Audit MarketGetTokenListingCountArgs.readCarbon := by
  delta MarketGetTokenListingCountArgs.readCarbon; infer_instance

instance MarketGetTokenListingInfoArgs.audit : Audit MarketGetTokenListingInfoArgs.readCarbon := by
  delta MarketGetTokenListingInfoArgs.readCarbon; infer_instance

instance MarketGetTokenListingInfoByIDArgs.audit : Audit MarketGetTokenListingInfoByIDArgs.readCarbon := by
  delta MarketGetTokenListingInfoByIDArgs.readCarbon; infer_instance

instance ModuleType.audit : (type : ModuleType) → Audit type.readCarbon
  | .chainConfig => ChainConfig.audit
  | .tokensConfig => TokensConfig.audit
  | .tokenSchemas => TokenSchemas.audit
  | .tokenInfo => TokenInfo.audit
  | .seriesInfo => SeriesInfo.audit
  | .nftMintInfo => NFTMintInfo.audit
  | .mintNonFungibleArgs => MintNonFungibleArgs.audit
  | .createTokenSeriesArgs => CreateTokenSeriesArgs.audit
  | .createMintedTokenSeriesArgs => CreateMintedTokenSeriesArgs.audit
  | .phantasmaNFTMintInfo => PhantasmaNFTMintInfo.audit
  | .mintPhantasmaNonFungibleArgs => MintPhantasmaNonFungibleArgs.audit
  | .phantasmaNFTMintResult => PhantasmaNFTMintResult.audit
  | .mintFungibleArgs => MintFungibleArgs.audit
  | .transferFungibleArgs => TransferFungibleArgs.audit
  | .transferNonFungibleArgs => TransferNonFungibleArgs.audit
  | .burnFungibleArgs => BurnFungibleArgs.audit
  | .burnNonFungibleArgs => BurnNonFungibleArgs.audit
  | .updateTokenMetadataArgs => UpdateTokenMetadataArgs.audit
  | .updateSeriesMetadataArgs => UpdateSeriesMetadataArgs.audit
  | .tokenListing => TokenListing.audit
  | .marketConfig => MarketConfig.audit
  | .marketSellTokenArgs => MarketSellTokenArgs.audit
  | .marketSellTokenByIDArgs => MarketSellTokenByIDArgs.audit
  | .marketCancelSaleArgs => MarketCancelSaleArgs.audit
  | .marketCancelSaleByIDArgs => MarketCancelSaleByIDArgs.audit
  | .marketBuyTokenArgs => MarketBuyTokenArgs.audit
  | .marketBuyTokenByIDArgs => MarketBuyTokenByIDArgs.audit
  | .marketGetTokenListingCountArgs => MarketGetTokenListingCountArgs.audit
  | .marketGetTokenListingInfoArgs => MarketGetTokenListingInfoArgs.audit
  | .marketGetTokenListingInfoByIDArgs => MarketGetTokenListingInfoByIDArgs.audit

/-! ## Transactions -/

instance CallArgSection.audit : Audit CallArgSection.readCarbon := by
  delta CallArgSection.readCarbon; infer_instance

instance MsgCallArgSections.readWithCount_audit (countNegative : Int) :
    Audit (MsgCallArgSections.readWithCount countNegative) := by
  delta MsgCallArgSections.readWithCount; infer_instance

instance TxMsgCall.readArgs_audit (moduleId methodId : Int) :
    Audit (TxMsgCall.readArgs moduleId methodId) := by
  delta TxMsgCall.readArgs; infer_instance

instance TxMsgCall.audit : Audit TxMsgCall.readCarbon := by delta TxMsgCall.readCarbon; infer_instance

instance TxMsgCallMulti.audit : Audit TxMsgCallMulti.readCarbon := by
  delta TxMsgCallMulti.readCarbon; infer_instance

instance TxMsgSpecialResolution.audit : Audit TxMsgSpecialResolution.readCarbon := by
  delta TxMsgSpecialResolution.readCarbon; infer_instance

instance TxMsgTransferFungible.audit : Audit TxMsgTransferFungible.readCarbon := by
  delta TxMsgTransferFungible.readCarbon; infer_instance

instance TxMsgTransferFungibleGasPayer.audit : Audit TxMsgTransferFungibleGasPayer.readCarbon := by
  delta TxMsgTransferFungibleGasPayer.readCarbon; infer_instance

instance TxMsgTransferNonFungibleSingle.audit : Audit TxMsgTransferNonFungibleSingle.readCarbon := by
  delta TxMsgTransferNonFungibleSingle.readCarbon; infer_instance

instance TxMsgTransferNonFungibleSingleGasPayer.audit : Audit TxMsgTransferNonFungibleSingleGasPayer.readCarbon := by
  delta TxMsgTransferNonFungibleSingleGasPayer.readCarbon; infer_instance

instance TxMsgTransferNonFungibleMulti.audit : Audit TxMsgTransferNonFungibleMulti.readCarbon := by
  delta TxMsgTransferNonFungibleMulti.readCarbon; infer_instance

instance TxMsgTransferNonFungibleMultiGasPayer.audit : Audit TxMsgTransferNonFungibleMultiGasPayer.readCarbon := by
  delta TxMsgTransferNonFungibleMultiGasPayer.readCarbon; infer_instance

instance TxMsgMintFungible.audit : Audit TxMsgMintFungible.readCarbon := by
  delta TxMsgMintFungible.readCarbon; infer_instance

instance TxMsgBurnFungible.audit : Audit TxMsgBurnFungible.readCarbon := by
  delta TxMsgBurnFungible.readCarbon; infer_instance

instance TxMsgBurnFungibleGasPayer.audit : Audit TxMsgBurnFungibleGasPayer.readCarbon := by
  delta TxMsgBurnFungibleGasPayer.readCarbon; infer_instance

instance TxMsgMintNonFungible.audit : Audit TxMsgMintNonFungible.readCarbon := by
  delta TxMsgMintNonFungible.readCarbon; infer_instance

instance TxMsgBurnNonFungible.audit : Audit TxMsgBurnNonFungible.readCarbon := by
  delta TxMsgBurnNonFungible.readCarbon; infer_instance

instance TxMsgBurnNonFungibleGasPayer.audit : Audit TxMsgBurnNonFungibleGasPayer.readCarbon := by
  delta TxMsgBurnNonFungibleGasPayer.readCarbon; infer_instance

instance TxMsgTrade.audit : Audit TxMsgTrade.readCarbon := by delta TxMsgTrade.readCarbon; infer_instance

instance TxMsgPhantasma.audit : Audit TxMsgPhantasma.readCarbon := by
  delta TxMsgPhantasma.readCarbon; infer_instance

instance TxMsgPhantasmaRaw.audit : Audit TxMsgPhantasmaRaw.readCarbon := by
  delta TxMsgPhantasmaRaw.readCarbon; infer_instance

instance readPayload_audit (type : TxType) : Audit (readPayload type) := by
  cases type <;> (dsimp only [readPayload]; infer_instance)

instance TxMsg.audit : Audit TxMsg.readCarbon := by delta TxMsg.readCarbon; infer_instance

instance Witness.audit : Audit Witness.readCarbon := by delta Witness.readCarbon; infer_instance

instance SignedTxMsg.readWitnesses_audit (msg : TxMsg) : Audit (SignedTxMsg.readWitnesses msg) := by
  delta SignedTxMsg.readWitnesses
  cases msg.type.witnessLayout <;> (dsimp only; infer_instance)

instance SignedTxMsg.audit : Audit SignedTxMsg.readCarbon := by delta SignedTxMsg.readCarbon; infer_instance

/-! ## All classes -/

/-- The classes with a method `read_carbon`. -/
inductive CarbonType where
  | smallString
  | intX
  | variableSchema
  | namedVariableSchema
  | structSchema
  | dynamicVariable
  | namedDynamicVariable
  | dynamicStruct
  | gasConfig
  | module (type : ModuleType)
  | callArgSection
  | txMsgCall
  | txMsgCallMulti
  | txMsgSpecialResolution
  | txMsgTransferFungible
  | txMsgTransferFungibleGasPayer
  | txMsgTransferNonFungibleSingle
  | txMsgTransferNonFungibleSingleGasPayer
  | txMsgTransferNonFungibleMulti
  | txMsgTransferNonFungibleMultiGasPayer
  | txMsgMintFungible
  | txMsgBurnFungible
  | txMsgBurnFungibleGasPayer
  | txMsgMintNonFungible
  | txMsgBurnNonFungible
  | txMsgBurnNonFungibleGasPayer
  | txMsgTrade
  | txMsgPhantasma
  | txMsgPhantasmaRaw
  | txMsg
  | witness
  | signedTxMsg
  deriving DecidableEq

namespace CarbonType

def Value : CarbonType → Type
  | smallString => SmallString
  | intX => IntX
  | variableSchema => VMVariableSchema
  | namedVariableSchema => VMNamedVariableSchema
  | structSchema => VMStructSchema
  | dynamicVariable => VMDynamicVariable
  | namedDynamicVariable => VMNamedDynamicVariable
  | dynamicStruct => VMDynamicStruct
  | gasConfig => GasConfig
  | module type => type.Value
  | callArgSection => CallArgSection
  | txMsgCall => TxMsgCall
  | txMsgCallMulti => TxMsgCallMulti
  | txMsgSpecialResolution => TxMsgSpecialResolution
  | txMsgTransferFungible => TxMsgTransferFungible
  | txMsgTransferFungibleGasPayer => TxMsgTransferFungibleGasPayer
  | txMsgTransferNonFungibleSingle => TxMsgTransferNonFungibleSingle
  | txMsgTransferNonFungibleSingleGasPayer => TxMsgTransferNonFungibleSingleGasPayer
  | txMsgTransferNonFungibleMulti => TxMsgTransferNonFungibleMulti
  | txMsgTransferNonFungibleMultiGasPayer => TxMsgTransferNonFungibleMultiGasPayer
  | txMsgMintFungible => TxMsgMintFungible
  | txMsgBurnFungible => TxMsgBurnFungible
  | txMsgBurnFungibleGasPayer => TxMsgBurnFungibleGasPayer
  | txMsgMintNonFungible => TxMsgMintNonFungible
  | txMsgBurnNonFungible => TxMsgBurnNonFungible
  | txMsgBurnNonFungibleGasPayer => TxMsgBurnNonFungibleGasPayer
  | txMsgTrade => TxMsgTrade
  | txMsgPhantasma => TxMsgPhantasma
  | txMsgPhantasmaRaw => TxMsgPhantasmaRaw
  | txMsg => TxMsg
  | witness => Witness
  | signedTxMsg => SignedTxMsg

def readCarbon : (type : CarbonType) → CarbonReader type.Value
  | smallString => SmallString.readCarbon
  | intX => IntX.readCarbon
  | variableSchema => VMVariableSchema.readCarbon VMStructSchema.readCarbon
  | namedVariableSchema => VMNamedVariableSchema.readCarbon VMStructSchema.readCarbon
  | structSchema => VMStructSchema.readCarbon
  | dynamicVariable => VMDynamicVariable.readCarbon
  | namedDynamicVariable => VMNamedDynamicVariable.readCarbon
  | dynamicStruct => VMDynamicStruct.readCarbon
  | gasConfig => GasConfig.readCarbon
  | module type => type.readCarbon
  | callArgSection => CallArgSection.readCarbon
  | txMsgCall => TxMsgCall.readCarbon
  | txMsgCallMulti => TxMsgCallMulti.readCarbon
  | txMsgSpecialResolution => TxMsgSpecialResolution.readCarbon
  | txMsgTransferFungible => TxMsgTransferFungible.readCarbon
  | txMsgTransferFungibleGasPayer => TxMsgTransferFungibleGasPayer.readCarbon
  | txMsgTransferNonFungibleSingle => TxMsgTransferNonFungibleSingle.readCarbon
  | txMsgTransferNonFungibleSingleGasPayer => TxMsgTransferNonFungibleSingleGasPayer.readCarbon
  | txMsgTransferNonFungibleMulti => TxMsgTransferNonFungibleMulti.readCarbon
  | txMsgTransferNonFungibleMultiGasPayer => TxMsgTransferNonFungibleMultiGasPayer.readCarbon
  | txMsgMintFungible => TxMsgMintFungible.readCarbon
  | txMsgBurnFungible => TxMsgBurnFungible.readCarbon
  | txMsgBurnFungibleGasPayer => TxMsgBurnFungibleGasPayer.readCarbon
  | txMsgMintNonFungible => TxMsgMintNonFungible.readCarbon
  | txMsgBurnNonFungible => TxMsgBurnNonFungible.readCarbon
  | txMsgBurnNonFungibleGasPayer => TxMsgBurnNonFungibleGasPayer.readCarbon
  | txMsgTrade => TxMsgTrade.readCarbon
  | txMsgPhantasma => TxMsgPhantasma.readCarbon
  | txMsgPhantasmaRaw => TxMsgPhantasmaRaw.readCarbon
  | txMsg => TxMsg.readCarbon
  | witness => Witness.readCarbon
  | signedTxMsg => SignedTxMsg.readCarbon

instance audit : (type : CarbonType) → Audit type.readCarbon
  | .smallString => SmallString.audit
  | .intX => IntX.audit
  | .variableSchema => VMVariableSchema.audit VMStructSchema.readCarbon
  | .namedVariableSchema => VMNamedVariableSchema.audit VMStructSchema.readCarbon
  | .structSchema => VMStructSchema.audit
  | .dynamicVariable => VMDynamicVariable.audit
  | .namedDynamicVariable => VMNamedDynamicVariable.audit
  | .dynamicStruct => VMDynamicStruct.audit
  | .gasConfig => GasConfig.audit
  | .module type => type.audit
  | .callArgSection => CallArgSection.audit
  | .txMsgCall => TxMsgCall.audit
  | .txMsgCallMulti => TxMsgCallMulti.audit
  | .txMsgSpecialResolution => TxMsgSpecialResolution.audit
  | .txMsgTransferFungible => TxMsgTransferFungible.audit
  | .txMsgTransferFungibleGasPayer => TxMsgTransferFungibleGasPayer.audit
  | .txMsgTransferNonFungibleSingle => TxMsgTransferNonFungibleSingle.audit
  | .txMsgTransferNonFungibleSingleGasPayer => TxMsgTransferNonFungibleSingleGasPayer.audit
  | .txMsgTransferNonFungibleMulti => TxMsgTransferNonFungibleMulti.audit
  | .txMsgTransferNonFungibleMultiGasPayer => TxMsgTransferNonFungibleMultiGasPayer.audit
  | .txMsgMintFungible => TxMsgMintFungible.audit
  | .txMsgBurnFungible => TxMsgBurnFungible.audit
  | .txMsgBurnFungibleGasPayer => TxMsgBurnFungibleGasPayer.audit
  | .txMsgMintNonFungible => TxMsgMintNonFungible.audit
  | .txMsgBurnNonFungible => TxMsgBurnNonFungible.audit
  | .txMsgBurnNonFungibleGasPayer => TxMsgBurnNonFungibleGasPayer.audit
  | .txMsgTrade => TxMsgTrade.audit
  | .txMsgPhantasma => TxMsgPhantasma.audit
  | .txMsgPhantasmaRaw => TxMsgPhantasmaRaw.audit
  | .txMsg => TxMsg.audit
  | .witness => Witness.audit
  | .signedTxMsg => SignedTxMsg.audit

/-- While the bytes are read from left to right, a byte is reached that is the value of no member of its
    enumeration, or a text that is not UTF-8. -/
def Faults (type : CarbonType) (raw : Bytes) : Prop := Reaches BadField type.readCarbon raw

end CarbonType

/-! ## Truncated images -/

/-- Every strict prefix of an accepted image is refused, so that no accepted image is a strict prefix of
    another one. -/
theorem truncated_refused (type : CarbonType) :
    (∀ raw value, deserialize type.readCarbon raw = .ok value → ∀ cut, cut <+: raw → cut ≠ raw →
      ∃ message, deserialize type.readCarbon cut = .error (.serializationError message)) ∧
    ∀ raw raw' value value', deserialize type.readCarbon raw = .ok value →
      deserialize type.readCarbon raw' = .ok value' → raw <+: raw' → raw = raw' := by
  have refused (raw : Bytes) (value : type.Value) (accepted : deserialize type.readCarbon raw = .ok value)
      (cut : Bytes) (isPrefix : cut <+: raw) (strict : cut ≠ raw) :
      ∃ message, deserialize type.readCarbon cut = .error (.serializationError message) :=
    cut_refused type.audit.truncates accepted isPrefix strict
  refine ⟨refused, fun raw raw' value value' accepted accepted' isPrefix => ?_⟩
  by_contra strict
  obtain ⟨message, absurd⟩ := refused raw' value' accepted' raw isPrefix strict
  cases accepted.symm.trans absurd

/-- A call without arguments, cut in front of the length of the arguments. -/
theorem truncated_refused_call :
    ∃ message, deserialize CarbonType.txMsgCall.readCarbon [0, 0, 0, 0, 1, 0, 0, 0] =
      .error (.serializationError message) := by
  have accepted : deserialize CarbonType.txMsgCall.readCarbon [0, 0, 0, 0, 1, 0, 0, 0, 0, 0, 0, 0] =
      .ok ⟨0, 1, [], none⟩ := by rfl
  exact (truncated_refused .txMsgCall).1 _ _ accepted _ ⟨[0, 0, 0, 0], rfl⟩ (by decide)

/-! ## Escaping exceptions -/

/-- A decoder returns a value or raises the SDK's own error exactly where the bytes have no fault. -/
theorem failsClosed_iff (type : CarbonType) (raw : Bytes) :
    (∃ value, deserialize type.readCarbon raw = .ok value) ∨
      (∃ message, deserialize type.readCarbon raw = .error (.serializationError message)) ↔
    ¬ type.Faults raw :=
  (readAll_closed_iff type.readCarbon raw).trans (not_congr (type.audit.escapes_iff BadField.escapes raw))

/-- A type byte outside `VMType`, and a text that is not UTF-8. -/
theorem badBytes_escape :
    (∃ e, deserialize CarbonType.variableSchema.readCarbon [24] = .error e ∧ ¬ Refusal e) ∧
      ∃ e, deserialize CarbonType.smallString.readCarbon [1, 0xFF] = .error e ∧ ¬ Refusal e := by
  have badText : deserialize SmallString.readCarbon [1, 0xFF] = .error .unicodeDecodeError := by
    decide +kernel
  exact ⟨⟨_, rfl, not_refusal_valueError⟩, ⟨_, badText, not_refusal_unicodeDecodeError⟩⟩

end PhantasmaPy.Carbon
