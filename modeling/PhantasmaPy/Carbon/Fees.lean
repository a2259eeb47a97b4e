import PhantasmaPy.Carbon.Configs

/-! # Native fee estimates

The closed-form gas and data offers of `carbon.py` under both gas models, on unbounded integers as in the
source: the clamps to 64 bits are part of the formulas.
-/

namespace PhantasmaPy.Carbon

open Wire

/-- A `ValueError` of the estimator with its text. -/
structure ValueError where
  message : Str
  deriving DecidableEq

def valueError {α : Type} (message : String) : Except ValueError α := .error ⟨Str.ofString message⟩

/-- Python's `value >> shift` on integers. -/
def shiftRight (value shift : Int) : Except ValueError Int :=
  if shift < 0 then valueError "negative shift count" else .ok (value >>> shift.toNat)

def GAS_MODEL_V2_UNITS_PER_BLOCK_DATA_BYTE : Int := 25

def WITNESS_ARRAY_ENTRY_BYTES : Int := 96

def NATIVE_SIGNATURE_BYTES : Int := 64

def U64_MAX : Int := 2 ^ 64 - 1

inductive NativeFeeKind where
  | transferFungible
  | transferNonFungible
  | mintFungible
  | mintNonFungible
  | burnFungible
  | burnNonFungible
  | createToken
  | createTokenSeries
  | registerName
  | script
  deriving DecidableEq

namespace NativeFeeKind

/-- Membership in `_NATIVE_SIGNATURE_KINDS`. -/
def isNativeSignature : NativeFeeKind → Bool
  | transferFungible | transferNonFungible | mintFungible | mintNonFungible | burnFungible
  | burnNonFungible => true
  | createToken | createTokenSeries | registerName | script => false

end NativeFeeKind

structure NativeFeeEstimate where
  maxGas : Int
  maxData : Int
  expectedGasBill : Int
  deriving DecidableEq

/-- The keyword arguments of `estimate_native_fee` with their defaults. -/
structure FeeArguments where
  count : Int := 1
  symbolLength : Int := 0
  nameLength : Int := 0
  envelopeBytes : Int := 0
  payloadBytes : Int := 0
  freshRows : Int := -1
  romRamBytes : Int := 0
  scriptUnitsAllowance : Int := 5000

/-! ## Sizes -/

def envelopeBytesFor (kind : NativeFeeKind) (serializedMessageLength witnessCount : Int) :
    Except ValueError Int :=
  if serializedMessageLength < 0 then valueError "serialized_message_length must not be negative"
  else if witnessCount < 0 then valueError "witness_count must not be negative"
  else if kind.isNativeSignature then
    .ok (serializedMessageLength + NATIVE_SIGNATURE_BYTES * witnessCount)
  else .ok (serializedMessageLength + 4 + WITNESS_ARRAY_ENTRY_BYTES * witnessCount)

def defaultFreshRows (kind : NativeFeeKind) (count romRamBytes : Int) : Int :=
  match kind with
  | .transferFungible | .mintFungible => 1
  | .transferNonFungible => count + 1
  | .mintNonFungible => count * (2 + (romRamBytes + 1023) / 1024) + 1
  | .burnFungible | .burnNonFungible => 0
  | .createToken => 8
  | .createTokenSeries => 4
  | .registerName => 2
  | .script => 4

def defaultEnvelopeBytes (kind : NativeFeeKind) (count romRamBytes : Int) : Int :=
  match kind with
  | .transferFungible | .mintFungible | .burnFungible | .registerName => 512
  | .transferNonFungible | .burnNonFungible => 512 + 8 * count
  | .mintNonFungible => 512 + count * (64 + romRamBytes)
  | .createToken => 4096
  | .createTokenSeries => 2048
  | .script => 1024

def roundUp (value step : Int) : Int :=
  let remainder := value % step
  if remainder = 0 then value else value + (step - remainder)

/-! ## Prices -/

def mulShift (value multiplier shift : Int) : Except ValueError Int :=
  if shift ≥ 64 then .ok 0
  else do
    let scaled ← shiftRight (value * multiplier) shift
    return min scaled U64_MAX

def symbolShift (length maxLength : Int) (paramName : String) : Except ValueError Int :=
  if length < 0 then valueError s!"{paramName} must not be negative"
  else if length = 0 then .ok 0
  else
    let shift := length - 1
    if maxLength ≠ 0 ∧ shift ≥ maxLength then
      valueError s!"{paramName} {length} exceeds the chain maximum {maxLength}"
    else .ok shift

def billV2 (workUnits envelope eventBytes rows policyFee : Int) (config : GasConfig) :
    Except ValueError Int := do
  let blockData := envelope + eventBytes + rows
  let byteUnits := blockData * GAS_MODEL_V2_UNITS_PER_BLOCK_DATA_BYTE
  let scaled ← mulShift (workUnits + byteUnits) config.feeMultiplier config.feeShift
  let bill := scaled + policyFee
  return max (min bill U64_MAX) config.minimumGasBill

/-- The work units and the policy fee of an operation: the choice by kind of `estimate_native_fee`. -/
def operationFees (kind : NativeFeeKind) (config : GasConfig) (arguments : FeeArguments) :
    Except ValueError (Int × Int) :=
  let v2 := config.hasGasModelV2
  match kind with
  | .transferFungible | .mintFungible | .burnFungible => .ok (config.gasFeeTransfer, 0)
  | .transferNonFungible | .mintNonFungible | .burnNonFungible =>
    .ok (config.gasFeeTransfer * arguments.count, 0)
  | .createToken => do
    let shift ← symbolShift arguments.symbolLength config.maxTokenSymbolLength "symbol_length"
    if v2 then
      if arguments.symbolLength > 0 then
        let price ← shiftRight config.policyFeeCreateTokenSymbol shift
        return (0, config.policyFeeCreateTokenBase + price)
      else
        return (0, config.policyFeeCreateTokenBase)
    else
      if arguments.symbolLength > 0 then
        let price ← shiftRight config.gasFeeCreateTokenSymbol shift
        return (config.gasFeeCreateTokenBase + price, 0)
      else
        return (config.gasFeeCreateTokenBase, 0)
  | .createTokenSeries =>
    .ok (if v2 then 0 else config.gasFeeCreateTokenSeries,
      if v2 then config.policyFeeCreateTokenSeries else 0)
  | .registerName =>
    if arguments.nameLength ≤ 0 then valueError "name_length is required for REGISTER_NAME"
    else do
      let shift ← symbolShift arguments.nameLength config.maxNameLength "name_length"
      if v2 then
        let price ← shiftRight config.policyFeeRegisterName shift
        return (0, price)
      else
        let price ← shiftRight config.gasFeeRegisterName shift
        return (price, 0)
  | .script => .ok (arguments.scriptUnitsAllowance, 0)

/-! ## Offers -/

/-- The bill and the offer of the second gas model. -/
def offerV2 (workUnits envelope eventBytes rows policyFee : Int) (config : GasConfig) :
    Except ValueError (Int × Int) := do
  let expected ← billV2 workUnits envelope eventBytes rows policyFee config
  let padded ← billV2 workUnits (roundUp envelope 128) eventBytes rows policyFee config
  let maxGas := min (padded + padded / 4) U64_MAX
  return (expected, max (max maxGas config.minimumGasBill) config.minimumGasOffer)

/-- The bill and the offer of the first gas model. -/
def offerV1 (workUnits payloadBytes eventBytes rows : Int) (config : GasConfig) :
    Except ValueError (Int × Int) := do
  let work ← mulShift workUnits config.feeMultiplier config.feeShift
  let blockData := payloadBytes + eventBytes + rows
  let expected := min (work + blockData * config.gasFeePerByte) U64_MAX
  let byteAllowance := max blockData 1024
  return (expected,
    min (config.minimumGasOffer * 2 + work + byteAllowance * config.gasFeePerByte) U64_MAX)

/-- The rows to pay for: those given, else the default of the kind. -/
def FeeArguments.rows (self : FeeArguments) (kind : NativeFeeKind) : Int :=
  if self.freshRows ≥ 0 then self.freshRows else defaultFreshRows kind self.count self.romRamBytes

/-- The envelope to pay for: the one given, else the default of the kind. -/
def FeeArguments.envelope (self : FeeArguments) (kind : NativeFeeKind) : Int :=
  if self.envelopeBytes > 0 then self.envelopeBytes
  else defaultEnvelopeBytes kind self.count self.romRamBytes

/-- Only scripts store events in the block. -/
def NativeFeeKind.eventBytes : NativeFeeKind → Int
  | .script => 512
  | _ => 0

/-- The bill and the offer of the model of the configuration. -/
def offer (kind : NativeFeeKind) (config : GasConfig) (arguments : FeeArguments)
    (workUnits policyFee : Int) : Except ValueError (Int × Int) :=
  if config.hasGasModelV2 then
    offerV2 workUnits (arguments.envelope kind) kind.eventBytes (arguments.rows kind) policyFee config
  else offerV1 workUnits arguments.payloadBytes kind.eventBytes (arguments.rows kind) config

def estimateNativeFee (kind : NativeFeeKind) (config : GasConfig) (arguments : FeeArguments) :
    Except ValueError NativeFeeEstimate :=
  if arguments.count < 1 then valueError "count must be a positive integer"
  else do
    let (workUnits, policyFee) ← operationFees kind config arguments
    let (expected, maxGas) ← offer kind config arguments workUnits policyFee
    return {
      maxGas
      maxData := min (arguments.rows kind * config.dataEscrowPerRow) U64_MAX
      expectedGasBill := expected }

end PhantasmaPy.Carbon
