import PhantasmaPy.Carbon.Stream

/-! # Configurations

`ChainConfig`, `GasConfig` and `TokensConfig`, each with its writer and its reader.
-/

namespace PhantasmaPy.Carbon

open Wire CarbonWriter CarbonReader

structure ChainConfig where
  version : Int := 0
  reserved1 : Int := 0
  reserved2 : Int := 0
  reserved3 : Int := 0
  allowedTxTypes : Int := 0
  expiryWindow : Int := 0
  blockRateTarget : Int := 0
  deriving DecidableEq

namespace ChainConfig

def writeCarbon (self : ChainConfig) : CarbonWriter Unit := do
  write1 self.version
  write1 self.reserved1
  write1 self.reserved2
  write1 self.reserved3
  write4u self.allowedTxTypes
  write4u self.expiryWindow
  write4u self.blockRateTarget

def readCarbon : CarbonReader ChainConfig := do
  let version ← readByte
  let reserved1 ← readByte
  let reserved2 ← readByte
  let reserved3 ← readByte
  let allowedTxTypes ← read4u
  let expiryWindow ← read4u
  let blockRateTarget ← read4u
  return { version, reserved1, reserved2, reserved3, allowedTxTypes, expiryWindow, blockRateTarget }

end ChainConfig

/-- The flags are a plain number, as an `IntFlag` keeps any. -/
structure TokensConfig where
  flags : Int := 0
  deriving DecidableEq

namespace TokensConfig

def writeCarbon (self : TokensConfig) : CarbonWriter Unit := write1 self.flags

def readCarbon : CarbonReader TokensConfig := do
  let flags ← readByte
  return { flags }

end TokensConfig

/-! ## Gas configuration -/

/-- The last ten fields are on the wire from version 1 on only. -/
structure GasConfig where
  version : Int := 0
  maxNameLength : Int := 0
  maxTokenSymbolLength : Int := 0
  feeShift : Int := 0
  maxStructureSize : Int := 0
  feeMultiplier : Int := 0
  gasTokenId : Int := 0
  dataTokenId : Int := 0
  minimumGasOffer : Int := 0
  dataEscrowPerRow : Int := 0
  gasFeeTransfer : Int := 0
  gasFeeQuery : Int := 0
  gasFeeCreateTokenBase : Int := 0
  gasFeeCreateTokenSymbol : Int := 0
  gasFeeCreateTokenSeries : Int := 0
  gasFeePerByte : Int := 0
  gasFeeRegisterName : Int := 0
  gasBurnRatioMul : Int := 0
  gasBurnRatioShift : Int := 0
  minimumGasBill : Int := 0
  gasProducerRatioMul : Int := 0
  gasProducerRatioShift : Int := 0
  gasDappRatioMul : Int := 0
  gasDappRatioShift : Int := 0
  policyFeeCreateTokenBase : Int := 0
  policyFeeCreateTokenSymbol : Int := 0
  policyFeeCreateTokenSeries : Int := 0
  policyFeeRegisterName : Int := 0
  legacyDataEscrowPerRow : Int := 0
  deriving DecidableEq

namespace GasConfig

def hasGasModelV2 (self : GasConfig) : Bool := self.version ≥ 1

/-- The fields of `write_carbon` after the version and before its test. -/
def writeHead (self : GasConfig) : CarbonWriter Unit := do
  write1 self.maxNameLength
  write1 self.maxTokenSymbolLength
  write1 self.feeShift
  write4u self.maxStructureSize
  write8u self.feeMultiplier
  write8u self.gasTokenId
  write8u self.dataTokenId
  write8u self.minimumGasOffer
  write8u self.dataEscrowPerRow
  write8u self.gasFeeTransfer
  write8u self.gasFeeQuery
  write8u self.gasFeeCreateTokenBase
  write8u self.gasFeeCreateTokenSymbol
  write8u self.gasFeeCreateTokenSeries
  write8u self.gasFeePerByte
  write8u self.gasFeeRegisterName
  write8u self.gasBurnRatioMul
  write1 self.gasBurnRatioShift

/-- The fields of `write_carbon` after the test of the version. -/
def writeTail (self : GasConfig) : CarbonWriter Unit := do
  write8u self.minimumGasBill
  write8u self.gasProducerRatioMul
  write1 self.gasProducerRatioShift
  write8u self.gasDappRatioMul
  write1 self.gasDappRatioShift
  write8u self.policyFeeCreateTokenBase
  write8u self.policyFeeCreateTokenSymbol
  write8u self.policyFeeCreateTokenSeries
  write8u self.policyFeeRegisterName
  write8u self.legacyDataEscrowPerRow

def writeCarbon (self : GasConfig) : CarbonWriter Unit := do
  write1 self.version
  self.writeHead
  if self.version = 0 then
    return ()
  else
    self.writeTail

/-- The fields of `read_carbon` that the constructor takes, after the version. -/
def readHead (version : Int) : CarbonReader GasConfig := do
  let maxNameLength ← readByte
  let maxTokenSymbolLength ← readByte
  let feeShift ← readByte
  let maxStructureSize ← read4u
  let feeMultiplier ← read8u
  let gasTokenId ← read8u
  let dataTokenId ← read8u
  let minimumGasOffer ← read8u
  let dataEscrowPerRow ← read8u
  let gasFeeTransfer ← read8u
  let gasFeeQuery ← read8u
  let gasFeeCreateTokenBase ← read8u
  let gasFeeCreateTokenSymbol ← read8u
  let gasFeeCreateTokenSeries ← read8u
  let gasFeePerByte ← read8u
  let gasFeeRegisterName ← read8u
  let gasBurnRatioMul ← read8u
  let gasBurnRatioShift ← readByte
  return {
    version, maxNameLength, maxTokenSymbolLength, feeShift, maxStructureSize, feeMultiplier, gasTokenId,
    dataTokenId, minimumGasOffer, dataEscrowPerRow, gasFeeTransfer, gasFeeQuery, gasFeeCreateTokenBase,
    gasFeeCreateTokenSymbol, gasFeeCreateTokenSeries, gasFeePerByte, gasFeeRegisterName, gasBurnRatioMul,
    gasBurnRatioShift }

/-- The fields of `read_carbon` that are assigned after the test of the version. -/
def readTail (config : GasConfig) : CarbonReader GasConfig := do
  let minimumGasBill ← read8u
  let gasProducerRatioMul ← read8u
  let gasProducerRatioShift ← readByte
  let gasDappRatioMul ← read8u
  let gasDappRatioShift ← readByte
  let policyFeeCreateTokenBase ← read8u
  let policyFeeCreateTokenSymbol ← read8u
  let policyFeeCreateTokenSeries ← read8u
  let policyFeeRegisterName ← read8u
  let legacyDataEscrowPerRow ← read8u
  return { config with
    minimumGasBill, gasProducerRatioMul, gasProducerRatioShift, gasDappRatioMul, gasDappRatioShift,
    policyFeeCreateTokenBase, policyFeeCreateTokenSymbol, policyFeeCreateTokenSeries,
    policyFeeRegisterName, legacyDataEscrowPerRow }

def readCarbon : CarbonReader GasConfig := do
  let version ← readByte
  let config ← readHead version
  if config.version = 0 then
    return config
  else
    readTail config

end GasConfig

end PhantasmaPy.Carbon
