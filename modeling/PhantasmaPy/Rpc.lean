import PhantasmaPy.Numerals
import PhantasmaPy.Carbon.Configs
import PhantasmaPy.Carbon.Fees

/-! # Responses of a node

The responses that carry fee parameters, and their conversions.  64-bit values are decimal strings there.
-/

namespace PhantasmaPy

open Wire Carbon

/-! ## Fields -/

/-- The common body of `_parse_u64` and `_parse_estimate_u64`, for the field of a method's response. -/
def parseField (interp : Interpreter) (method : String) (value : Option Str) (fieldName : String) :
    Except PyError Int :=
  match value with
  | none => .error (rpcError s!"{method} field {fieldName} is missing or empty")
  | some text =>
    if text = [] then .error (rpcError s!"{method} field {fieldName} is missing or empty")
    else if ¬ interp.isdigit text then
      .error (.rpcError (Str.ofString s!"{method} field {fieldName} is not a decimal integer: " ++ text))
    else interp.int text

/-- `_parse_u64`. -/
def parseU64 (interp : Interpreter) : Option Str → String → Except PyError Int :=
  parseField interp "getGasConfig"

/-- `_parse_estimate_u64`. -/
def parseEstimateU64 (interp : Interpreter) : Option Str → String → Except PyError Int :=
  parseField interp "estimateTransaction"

/-! ## Gas configuration -/

structure GasConfigDataResult where
  version : Int := 0
  maxNameLength : Int := 0
  maxTokenSymbolLength : Int := 0
  feeShift : Int := 0
  maxStructureSize : Int := 0
  feeMultiplier : Option Str := none
  gasTokenId : Option Str := none
  dataTokenId : Option Str := none
  minimumGasOffer : Option Str := none
  dataEscrowPerRow : Option Str := none
  gasFeeTransfer : Option Str := none
  gasFeeQuery : Option Str := none
  gasFeeCreateTokenBase : Option Str := none
  gasFeeCreateTokenSymbol : Option Str := none
  gasFeeCreateTokenSeries : Option Str := none
  gasFeePerByte : Option Str := none
  gasFeeRegisterName : Option Str := none
  gasBurnRatioMul : Option Str := none
  gasBurnRatioShift : Int := 0
  minimumGasBill : Option Str := none
  gasProducerRatioMul : Option Str := none
  gasProducerRatioShift : Option Int := none
  gasDappRatioMul : Option Str := none
  gasDappRatioShift : Option Int := none
  policyFeeCreateTokenBase : Option Str := none
  policyFeeCreateTokenSymbol : Option Str := none
  policyFeeCreateTokenSeries : Option Str := none
  policyFeeRegisterName : Option Str := none
  legacyDataEscrowPerRow : Option Str := none

structure GasConfigResult where
  gasConfig : Option GasConfigDataResult := none

/-- The constructor call of `to_gas_config`. -/
def GasConfigDataResult.headConfig (data : GasConfigDataResult) (interp : Interpreter) :
    Except PyError GasConfig := do
  let feeMultiplier ← parseU64 interp data.feeMultiplier "feeMultiplier"
  let gasTokenId ← parseU64 interp data.gasTokenId "gasTokenId"
  let dataTokenId ← parseU64 interp data.dataTokenId "dataTokenId"
  let minimumGasOffer ← parseU64 interp data.minimumGasOffer "minimumGasOffer"
  let dataEscrowPerRow ← parseU64 interp data.dataEscrowPerRow "dataEscrowPerRow"
  let gasFeeTransfer ← parseU64 interp data.gasFeeTransfer "gasFeeTransfer"
  let gasFeeQuery ← parseU64 interp data.gasFeeQuery "gasFeeQuery"
  let gasFeeCreateTokenBase ← parseU64 interp data.gasFeeCreateTokenBase "gasFeeCreateTokenBase"
  let gasFeeCreateTokenSymbol ← parseU64 interp data.gasFeeCreateTokenSymbol "gasFeeCreateTokenSymbol"
  let gasFeeCreateTokenSeries ← parseU64 interp data.gasFeeCreateTokenSeries "gasFeeCreateTokenSeries"
  let gasFeePerByte ← parseU64 interp data.gasFeePerByte "gasFeePerByte"
  let gasFeeRegisterName ← parseU64 interp data.gasFeeRegisterName "gasFeeRegisterName"
  let gasBurnRatioMul ← parseU64 interp data.gasBurnRatioMul "gasBurnRatioMul"
  return {
    version := data.version
    maxNameLength := data.maxNameLength
    maxTokenSymbolLength := data.maxTokenSymbolLength
    feeShift := data.feeShift
    maxStructureSize := data.maxStructureSize
    feeMultiplier, gasTokenId, dataTokenId, minimumGasOffer, dataEscrowPerRow, gasFeeTransfer, gasFeeQuery,
    gasFeeCreateTokenBase, gasFeeCreateTokenSymbol, gasFeeCreateTokenSeries, gasFeePerByte,
    gasFeeRegisterName, gasBurnRatioMul
    gasBurnRatioShift := data.gasBurnRatioShift }

/-- The fields that `to_gas_config` assigns from version 1 on. -/
def GasConfigDataResult.extendConfig (data : GasConfigDataResult) (interp : Interpreter)
    (config : GasConfig) : Except PyError GasConfig := do
  let minimumGasBill ← parseU64 interp data.minimumGasBill "minimumGasBill"
  let gasProducerRatioMul ← parseU64 interp data.gasProducerRatioMul "gasProducerRatioMul"
  let gasDappRatioMul ← parseU64 interp data.gasDappRatioMul "gasDappRatioMul"
  let policyFeeCreateTokenBase ← parseU64 interp data.policyFeeCreateTokenBase "policyFeeCreateTokenBase"
  let policyFeeCreateTokenSymbol ←
    parseU64 interp data.policyFeeCreateTokenSymbol "policyFeeCreateTokenSymbol"
  let policyFeeCreateTokenSeries ←
    parseU64 interp data.policyFeeCreateTokenSeries "policyFeeCreateTokenSeries"
  let policyFeeRegisterName ← parseU64 interp data.policyFeeRegisterName "policyFeeRegisterName"
  let legacyDataEscrowPerRow ← parseU64 interp data.legacyDataEscrowPerRow "legacyDataEscrowPerRow"
  match data.gasProducerRatioShift, data.gasDappRatioShift with
  | none, _ => throw (rpcError "getGasConfig field gasProducerRatioShift is missing")
  | some _, none => throw (rpcError "getGasConfig field gasDappRatioShift is missing")
  | some gasProducerRatioShift, some gasDappRatioShift =>
    return { config with
      minimumGasBill, gasProducerRatioMul, gasDappRatioMul, policyFeeCreateTokenBase,
      policyFeeCreateTokenSymbol, policyFeeCreateTokenSeries, policyFeeRegisterName,
      legacyDataEscrowPerRow, gasProducerRatioShift, gasDappRatioShift }

def GasConfigResult.toGasConfig (self : GasConfigResult) (interp : Interpreter) :
    Except PyError GasConfig :=
  match self.gasConfig with
  | none => .error (rpcError "getGasConfig response has no gasConfig section")
  | some data => do
    let config ← data.headConfig interp
    if config.version ≥ 1 then
      data.extendConfig interp config
    else
      return config

/-! ## Fee estimate -/

structure EstimateTransactionResult where
  wouldAbort : Bool := false
  abortReason : Str := []
  gasBillKcalBase : Option Str := none
  recommendedMaxGas : Option Str := none
  recommendedMaxData : Option Str := none

def EstimateTransactionResult.toFeeEstimate (self : EstimateTransactionResult) (interp : Interpreter) :
    Except PyError NativeFeeEstimate := do
  if self.wouldAbort then
    throw (.rpcError (Str.ofString "estimateTransaction reported the transaction would abort: " ++
      self.abortReason))
  else
    let maxGas ← parseEstimateU64 interp self.recommendedMaxGas "recommendedMaxGas"
    let maxData ← parseEstimateU64 interp self.recommendedMaxData "recommendedMaxData"
    let expectedGasBill ← parseEstimateU64 interp self.gasBillKcalBase "gasBillKcalBase"
    return { maxGas, maxData, expectedGasBill }

end PhantasmaPy
