import PhantasmaPy.Carbon.Stream

/-! # Transactions

The transaction payloads, the transaction and the signed transaction, each with its writer and its
reader.
-/

namespace PhantasmaPy.Carbon

open Wire CarbonWriter CarbonReader

inductive TxType where
  | CALL
  | CALL_MULTI
  | TRADE
  | TRANSFER_FUNGIBLE
  | TRANSFER_FUNGIBLE_GAS_PAYER
  | TRANSFER_NON_FUNGIBLE_SINGLE
  | TRANSFER_NON_FUNGIBLE_SINGLE_GAS_PAYER
  | TRANSFER_NON_FUNGIBLE_MULTI
  | TRANSFER_NON_FUNGIBLE_MULTI_GAS_PAYER
  | MINT_FUNGIBLE
  | BURN_FUNGIBLE
  | BURN_FUNGIBLE_GAS_PAYER
  | MINT_NON_FUNGIBLE
  | BURN_NON_FUNGIBLE
  | BURN_NON_FUNGIBLE_GAS_PAYER
  | PHANTASMA
  | PHANTASMA_RAW
  deriving DecidableEq

namespace TxType

/-- The value of the enumeration member. -/
def toByte : TxType → UInt8
  | CALL => 0
  | CALL_MULTI => 1
  | TRADE => 2
  | TRANSFER_FUNGIBLE => 3
  | TRANSFER_FUNGIBLE_GAS_PAYER => 4
  | TRANSFER_NON_FUNGIBLE_SINGLE => 5
  | TRANSFER_NON_FUNGIBLE_SINGLE_GAS_PAYER => 6
  | TRANSFER_NON_FUNGIBLE_MULTI => 7
  | TRANSFER_NON_FUNGIBLE_MULTI_GAS_PAYER => 8
  | MINT_FUNGIBLE => 9
  | BURN_FUNGIBLE => 10
  | BURN_FUNGIBLE_GAS_PAYER => 11
  | MINT_NON_FUNGIBLE => 12
  | BURN_NON_FUNGIBLE => 13
  | BURN_NON_FUNGIBLE_GAS_PAYER => 14
  | PHANTASMA => 15
  | PHANTASMA_RAW => 16

/-- The call `TxType(value)`. -/
def ofByte : UInt8 → Except PyError TxType
  | 0 => .ok CALL
  | 1 => .ok CALL_MULTI
  | 2 => .ok TRADE
  | 3 => .ok TRANSFER_FUNGIBLE
  | 4 => .ok TRANSFER_FUNGIBLE_GAS_PAYER
  | 5 => .ok TRANSFER_NON_FUNGIBLE_SINGLE
  | 6 => .ok TRANSFER_NON_FUNGIBLE_SINGLE_GAS_PAYER
  | 7 => .ok TRANSFER_NON_FUNGIBLE_MULTI
  | 8 => .ok TRANSFER_NON_FUNGIBLE_MULTI_GAS_PAYER
  | 9 => .ok MINT_FUNGIBLE
  | 10 => .ok BURN_FUNGIBLE
  | 11 => .ok BURN_FUNGIBLE_GAS_PAYER
  | 12 => .ok MINT_NON_FUNGIBLE
  | 13 => .ok BURN_NON_FUNGIBLE
  | 14 => .ok BURN_NON_FUNGIBLE_GAS_PAYER
  | 15 => .ok PHANTASMA
  | 16 => .ok PHANTASMA_RAW
  | _ => .error .valueError

def writeByte (self : TxType) : CarbonWriter Unit := write1 self.toByte.toNat

def readByte : CarbonReader TxType := do
  let byte ← read1
  Get.check (ofByte byte)

end TxType

/-! ## Calls -/

structure CallArgSection where
  registerOffset : Int := 0
  args : Bytes := []
  deriving DecidableEq

namespace CallArgSection

def writeCarbon (self : CallArgSection) : CarbonWriter Unit := do
  if self.registerOffset < 0 then
    write4 self.registerOffset
  else
    writeCount self.args.length
    write self.args

def readCarbon : CarbonReader CallArgSection := do
  let value ← read4
  if value < 0 then
    return { registerOffset := value }
  else
    let args ← read value
    return { args }

end CallArgSection

structure MsgCallArgSections where
  sections : List CallArgSection := []
  deriving DecidableEq

namespace MsgCallArgSections

def hasSections (self : MsgCallArgSections) : Bool := self.sections.length > 0

def writeCarbon (self : MsgCallArgSections) : CarbonWriter Unit := do
  if self.sections = [] then
    throw (serializationError "arg sections are empty")
  else
    write4 (-self.sections.length)
    Put.each CallArgSection.writeCarbon self.sections

def readWithCount (countNegative : Int) : CarbonReader MsgCallArgSections := do
  if countNegative ≥ 0 then
    throw (serializationError "arg sections count must be negative")
  else
    let sections ← Get.times CallArgSection.readCarbon (-countNegative).toNat
    return { sections }

end MsgCallArgSections

structure TxMsgCall where
  moduleId : Int
  methodId : Int
  args : Bytes := []
  sections : Option MsgCallArgSections := none
  deriving DecidableEq

namespace TxMsgCall

/-- The part of the writer after the two ids. -/
def writeArgs (self : TxMsgCall) : CarbonWriter Unit :=
  match self.sections with
  | some sections =>
    if sections.hasSections then sections.writeCarbon
    else do
      writeCount self.args.length
      write self.args
  | none => do
    writeCount self.args.length
    write self.args

def writeCarbon (self : TxMsgCall) : CarbonWriter Unit := do
  write4u self.moduleId
  write4u self.methodId
  self.writeArgs

/-- The part of the reader after the two ids. -/
def readArgs (moduleId methodId : Int) : CarbonReader TxMsgCall := do
  let length ← read4
  if length ≥ 0 then
    let args ← read length
    return { moduleId, methodId, args }
  else
    let sections ← MsgCallArgSections.readWithCount length
    return { moduleId, methodId, sections := some sections }

def readCarbon : CarbonReader TxMsgCall := do
  let moduleId ← read4u
  let methodId ← read4u
  readArgs moduleId methodId

end TxMsgCall

structure TxMsgCallMulti where
  calls : List TxMsgCall := []
  deriving DecidableEq

namespace TxMsgCallMulti

def writeCarbon (self : TxMsgCallMulti) : CarbonWriter Unit :=
  writeArray TxMsgCall.writeCarbon self.calls

def readCarbon : CarbonReader TxMsgCallMulti := do
  let calls ← readArray TxMsgCall.readCarbon
  return { calls }

end TxMsgCallMulti

structure TxMsgSpecialResolution where
  resolutionId : Int := 0
  calls : List TxMsgCall := []
  deriving DecidableEq

namespace TxMsgSpecialResolution

def writeCarbon (self : TxMsgSpecialResolution) : CarbonWriter Unit := do
  write8u self.resolutionId
  writeArray TxMsgCall.writeCarbon self.calls

def readCarbon : CarbonReader TxMsgSpecialResolution := do
  let resolutionId ← read8u
  let calls ← readArray TxMsgCall.readCarbon
  return { resolutionId, calls }

end TxMsgSpecialResolution

/-! ## Transfers -/

structure TxMsgTransferFungible where
  toAddress : Bytes32
  tokenId : Int
  amount : Int
  deriving DecidableEq

namespace TxMsgTransferFungible

def writeCarbon (self : TxMsgTransferFungible) : CarbonWriter Unit := do
  write32 self.toAddress
  write8u self.tokenId
  write8u self.amount

def readCarbon : CarbonReader TxMsgTransferFungible := do
  let toAddress ← read32
  let tokenId ← read8u
  let amount ← read8u
  return { toAddress, tokenId, amount }

end TxMsgTransferFungible

structure TxMsgTransferFungibleGasPayer where
  toAddress : Bytes32
  fromAddress : Bytes32
  tokenId : Int
  amount : Int
  deriving DecidableEq

namespace TxMsgTransferFungibleGasPayer

def writeCarbon (self : TxMsgTransferFungibleGasPayer) : CarbonWriter Unit := do
  write32 self.toAddress
  write32 self.fromAddress
  write8u self.tokenId
  write8u self.amount

def readCarbon : CarbonReader TxMsgTransferFungibleGasPayer := do
  let toAddress ← read32
  let fromAddress ← read32
  let tokenId ← read8u
  let amount ← read8u
  return { toAddress, fromAddress, tokenId, amount }

end TxMsgTransferFungibleGasPayer

structure TxMsgTransferNonFungibleSingle where
  toAddress : Bytes32
  tokenId : Int
  instanceId : Int
  deriving DecidableEq

namespace TxMsgTransferNonFungibleSingle

def writeCarbon (self : TxMsgTransferNonFungibleSingle) : CarbonWriter Unit := do
  write32 self.toAddress
  write8u self.tokenId
  write8u self.instanceId

def readCarbon : CarbonReader TxMsgTransferNonFungibleSingle := do
  let toAddress ← read32
  let tokenId ← read8u
  let instanceId ← read8u
  return { toAddress, tokenId, instanceId }

end TxMsgTransferNonFungibleSingle

structure TxMsgTransferNonFungibleSingleGasPayer where
  toAddress : Bytes32
  fromAddress : Bytes32
  tokenId : Int
  instanceId : Int
  deriving DecidableEq

namespace TxMsgTransferNonFungibleSingleGasPayer

def writeCarbon (self : TxMsgTransferNonFungibleSingleGasPayer) : CarbonWriter Unit := do
  write32 self.toAddress
  write32 self.fromAddress
  write8u self.tokenId
  write8u self.instanceId

def readCarbon : CarbonReader TxMsgTransferNonFungibleSingleGasPayer := do
  let toAddress ← read32
  let fromAddress ← read32
  let tokenId ← read8u
  let instanceId ← read8u
  return { toAddress, fromAddress, tokenId, instanceId }

end TxMsgTransferNonFungibleSingleGasPayer

structure TxMsgTransferNonFungibleMulti where
  toAddress : Bytes32
  tokenId : Int
  instanceIds : List Int := []
  deriving DecidableEq

namespace TxMsgTransferNonFungibleMulti

def writeCarbon (self : TxMsgTransferNonFungibleMulti) : CarbonWriter Unit := do
  write32 self.toAddress
  write8u self.tokenId
  writeIntArray self.instanceIds 8 false

def readCarbon : CarbonReader TxMsgTransferNonFungibleMulti := do
  let toAddress ← read32
  let tokenId ← read8u
  let instanceIds ← readIntArray 8 false
  return { toAddress, tokenId, instanceIds }

end TxMsgTransferNonFungibleMulti

structure TxMsgTransferNonFungibleMultiGasPayer where
  toAddress : Bytes32
  fromAddress : Bytes32
  tokenId : Int
  instanceIds : List Int := []
  deriving DecidableEq

namespace TxMsgTransferNonFungibleMultiGasPayer

def writeCarbon (self : TxMsgTransferNonFungibleMultiGasPayer) : CarbonWriter Unit := do
  write32 self.toAddress
  write32 self.fromAddress
  write8u self.tokenId
  writeIntArray self.instanceIds 8 false

def readCarbon : CarbonReader TxMsgTransferNonFungibleMultiGasPayer := do
  let toAddress ← read32
  let fromAddress ← read32
  let tokenId ← read8u
  let instanceIds ← readIntArray 8 false
  return { toAddress, fromAddress, tokenId, instanceIds }

end TxMsgTransferNonFungibleMultiGasPayer

/-! ## Mints and burns -/

structure TxMsgMintFungible where
  tokenId : Int
  toAddress : Bytes32
  amount : IntX
  deriving DecidableEq

namespace TxMsgMintFungible

def writeCarbon (self : TxMsgMintFungible) : CarbonWriter Unit := do
  write8u self.tokenId
  write32 self.toAddress
  self.amount.writeCarbon

def readCarbon : CarbonReader TxMsgMintFungible := do
  let tokenId ← read8u
  let toAddress ← read32
  let amount ← IntX.readCarbon
  return { tokenId, toAddress, amount }

end TxMsgMintFungible

structure TxMsgBurnFungible where
  tokenId : Int
  amount : IntX
  deriving DecidableEq

namespace TxMsgBurnFungible

def writeCarbon (self : TxMsgBurnFungible) : CarbonWriter Unit := do
  write8u self.tokenId
  self.amount.writeCarbon

def readCarbon : CarbonReader TxMsgBurnFungible := do
  let tokenId ← read8u
  let amount ← IntX.readCarbon
  return { tokenId, amount }

end TxMsgBurnFungible

structure TxMsgBurnFungibleGasPayer where
  tokenId : Int
  fromAddress : Bytes32
  amount : IntX
  deriving DecidableEq

namespace TxMsgBurnFungibleGasPayer

def writeCarbon (self : TxMsgBurnFungibleGasPayer) : CarbonWriter Unit := do
  write8u self.tokenId
  write32 self.fromAddress
  self.amount.writeCarbon

def readCarbon : CarbonReader TxMsgBurnFungibleGasPayer := do
  let tokenId ← read8u
  let fromAddress ← read32
  let amount ← IntX.readCarbon
  return { tokenId, fromAddress, amount }

end TxMsgBurnFungibleGasPayer

structure TxMsgMintNonFungible where
  tokenId : Int
  toAddress : Bytes32
  seriesId : Int
  rom : Bytes
  ram : Bytes := []
  deriving DecidableEq

namespace TxMsgMintNonFungible

def writeCarbon (self : TxMsgMintNonFungible) : CarbonWriter Unit := do
  write8u self.tokenId
  write32 self.toAddress
  write4u self.seriesId
  writeByteArray self.rom
  writeByteArray self.ram

def readCarbon : CarbonReader TxMsgMintNonFungible := do
  let tokenId ← read8u
  let toAddress ← read32
  let seriesId ← read4u
  let rom ← readByteArray
  let ram ← readByteArray
  return { tokenId, toAddress, seriesId, rom, ram }

end TxMsgMintNonFungible

structure TxMsgBurnNonFungible where
  tokenId : Int
  instanceId : Int
  deriving DecidableEq

namespace TxMsgBurnNonFungible

def writeCarbon (self : TxMsgBurnNonFungible) : CarbonWriter Unit := do
  write8u self.tokenId
  write8u self.instanceId

def readCarbon : CarbonReader TxMsgBurnNonFungible := do
  let tokenId ← read8u
  let instanceId ← read8u
  return { tokenId, instanceId }

end TxMsgBurnNonFungible

structure TxMsgBurnNonFungibleGasPayer where
  tokenId : Int
  fromAddress : Bytes32
  instanceId : Int
  deriving DecidableEq

namespace TxMsgBurnNonFungibleGasPayer

def writeCarbon (self : TxMsgBurnNonFungibleGasPayer) : CarbonWriter Unit := do
  write8u self.tokenId
  write32 self.fromAddress
  write8u self.instanceId

def readCarbon : CarbonReader TxMsgBurnNonFungibleGasPayer := do
  let tokenId ← read8u
  let fromAddress ← read32
  let instanceId ← read8u
  return { tokenId, fromAddress, instanceId }

end TxMsgBurnNonFungibleGasPayer

/-! ## Trades and Phantasma transactions -/

structure TxMsgTrade where
  transferF : List TxMsgTransferFungibleGasPayer := []
  transferN : List TxMsgTransferNonFungibleSingleGasPayer := []
  mintF : List TxMsgMintFungible := []
  burnF : List TxMsgBurnFungibleGasPayer := []
  mintN : List TxMsgMintNonFungible := []
  burnN : List TxMsgBurnNonFungibleGasPayer := []
  deriving DecidableEq

namespace TxMsgTrade

def writeCarbon (self : TxMsgTrade) : CarbonWriter Unit := do
  writeArray TxMsgTransferFungibleGasPayer.writeCarbon self.transferF
  writeArray TxMsgTransferNonFungibleSingleGasPayer.writeCarbon self.transferN
  writeArray TxMsgMintFungible.writeCarbon self.mintF
  writeArray TxMsgBurnFungibleGasPayer.writeCarbon self.burnF
  writeArray TxMsgMintNonFungible.writeCarbon self.mintN
  writeArray TxMsgBurnNonFungibleGasPayer.writeCarbon self.burnN

def readCarbon : CarbonReader TxMsgTrade := do
  let transferF ← readArray TxMsgTransferFungibleGasPayer.readCarbon
  let transferN ← readArray TxMsgTransferNonFungibleSingleGasPayer.readCarbon
  let mintF ← readArray TxMsgMintFungible.readCarbon
  let burnF ← readArray TxMsgBurnFungibleGasPayer.readCarbon
  let mintN ← readArray TxMsgMintNonFungible.readCarbon
  let burnN ← readArray TxMsgBurnNonFungibleGasPayer.readCarbon
  return { transferF, transferN, mintF, burnF, mintN, burnN }

end TxMsgTrade

structure TxMsgPhantasma where
  nexus : SmallString
  chain : SmallString
  script : Bytes := []
  deriving DecidableEq

namespace TxMsgPhantasma

def writeCarbon (self : TxMsgPhantasma) : CarbonWriter Unit := do
  self.nexus.writeCarbon
  self.chain.writeCarbon
  writeByteArray self.script

def readCarbon : CarbonReader TxMsgPhantasma := do
  let nexus ← SmallString.readCarbon
  let chain ← SmallString.readCarbon
  let script ← readByteArray
  return { nexus, chain, script }

end TxMsgPhantasma

structure TxMsgPhantasmaRaw where
  transaction : Bytes := []
  deriving DecidableEq

namespace TxMsgPhantasmaRaw

def writeCarbon (self : TxMsgPhantasmaRaw) : CarbonWriter Unit := writeByteArray self.transaction

def readCarbon : CarbonReader TxMsgPhantasmaRaw := do
  let transaction ← readByteArray
  return { transaction }

end TxMsgPhantasmaRaw

/-! ## Payloads -/

/-- The union of the payload classes. -/
inductive TxPayload where
  | call (payload : TxMsgCall)
  | callMulti (payload : TxMsgCallMulti)
  | trade (payload : TxMsgTrade)
  | transferFungible (payload : TxMsgTransferFungible)
  | transferFungibleGasPayer (payload : TxMsgTransferFungibleGasPayer)
  | transferNonFungibleSingle (payload : TxMsgTransferNonFungibleSingle)
  | transferNonFungibleSingleGasPayer (payload : TxMsgTransferNonFungibleSingleGasPayer)
  | transferNonFungibleMulti (payload : TxMsgTransferNonFungibleMulti)
  | transferNonFungibleMultiGasPayer (payload : TxMsgTransferNonFungibleMultiGasPayer)
  | mintFungible (payload : TxMsgMintFungible)
  | burnFungible (payload : TxMsgBurnFungible)
  | burnFungibleGasPayer (payload : TxMsgBurnFungibleGasPayer)
  | mintNonFungible (payload : TxMsgMintNonFungible)
  | burnNonFungible (payload : TxMsgBurnNonFungible)
  | burnNonFungibleGasPayer (payload : TxMsgBurnNonFungibleGasPayer)
  | phantasma (payload : TxMsgPhantasma)
  | phantasmaRaw (payload : TxMsgPhantasmaRaw)
  deriving DecidableEq

namespace TxPayload

def writeCarbon : TxPayload → CarbonWriter Unit
  | call payload => payload.writeCarbon
  | callMulti payload => payload.writeCarbon
  | trade payload => payload.writeCarbon
  | transferFungible payload => payload.writeCarbon
  | transferFungibleGasPayer payload => payload.writeCarbon
  | transferNonFungibleSingle payload => payload.writeCarbon
  | transferNonFungibleSingleGasPayer payload => payload.writeCarbon
  | transferNonFungibleMulti payload => payload.writeCarbon
  | transferNonFungibleMultiGasPayer payload => payload.writeCarbon
  | mintFungible payload => payload.writeCarbon
  | burnFungible payload => payload.writeCarbon
  | burnFungibleGasPayer payload => payload.writeCarbon
  | mintNonFungible payload => payload.writeCarbon
  | burnNonFungible payload => payload.writeCarbon
  | burnNonFungibleGasPayer payload => payload.writeCarbon
  | phantasma payload => payload.writeCarbon
  | phantasmaRaw payload => payload.writeCarbon

/-- `_payload_from_address`. -/
def fromAddress : TxPayload → Bytes32
  | transferFungibleGasPayer payload => payload.fromAddress
  | transferNonFungibleSingleGasPayer payload => payload.fromAddress
  | transferNonFungibleMultiGasPayer payload => payload.fromAddress
  | burnFungibleGasPayer payload => payload.fromAddress
  | burnNonFungibleGasPayer payload => payload.fromAddress
  | _ => EMPTY_BYTES32

end TxPayload

/-- `_read_payload`. -/
def readPayload : TxType → CarbonReader TxPayload
  | .CALL => do return .call (← TxMsgCall.readCarbon)
  | .CALL_MULTI => do return .callMulti (← TxMsgCallMulti.readCarbon)
  | .TRADE => do return .trade (← TxMsgTrade.readCarbon)
  | .TRANSFER_FUNGIBLE => do return .transferFungible (← TxMsgTransferFungible.readCarbon)
  | .TRANSFER_FUNGIBLE_GAS_PAYER => do
    return .transferFungibleGasPayer (← TxMsgTransferFungibleGasPayer.readCarbon)
  | .TRANSFER_NON_FUNGIBLE_SINGLE => do
    return .transferNonFungibleSingle (← TxMsgTransferNonFungibleSingle.readCarbon)
  | .TRANSFER_NON_FUNGIBLE_SINGLE_GAS_PAYER => do
    return .transferNonFungibleSingleGasPayer (← TxMsgTransferNonFungibleSingleGasPayer.readCarbon)
  | .TRANSFER_NON_FUNGIBLE_MULTI => do
    return .transferNonFungibleMulti (← TxMsgTransferNonFungibleMulti.readCarbon)
  | .TRANSFER_NON_FUNGIBLE_MULTI_GAS_PAYER => do
    return .transferNonFungibleMultiGasPayer (← TxMsgTransferNonFungibleMultiGasPayer.readCarbon)
  | .MINT_FUNGIBLE => do return .mintFungible (← TxMsgMintFungible.readCarbon)
  | .BURN_FUNGIBLE => do return .burnFungible (← TxMsgBurnFungible.readCarbon)
  | .BURN_FUNGIBLE_GAS_PAYER => do
    return .burnFungibleGasPayer (← TxMsgBurnFungibleGasPayer.readCarbon)
  | .MINT_NON_FUNGIBLE => do return .mintNonFungible (← TxMsgMintNonFungible.readCarbon)
  | .BURN_NON_FUNGIBLE => do return .burnNonFungible (← TxMsgBurnNonFungible.readCarbon)
  | .BURN_NON_FUNGIBLE_GAS_PAYER => do
    return .burnNonFungibleGasPayer (← TxMsgBurnNonFungibleGasPayer.readCarbon)
  | .PHANTASMA => do return .phantasma (← TxMsgPhantasma.readCarbon)
  | .PHANTASMA_RAW => do return .phantasmaRaw (← TxMsgPhantasmaRaw.readCarbon)

/-! ## Transactions -/

structure TxMsg where
  type : TxType
  expiry : Int
  maxGas : Int
  maxData : Int
  gasFrom : Bytes32
  payload : SmallString
  msg : TxPayload
  deriving DecidableEq

namespace TxMsg

def writeCarbon (self : TxMsg) : CarbonWriter Unit := do
  self.type.writeByte
  write8 self.expiry
  write8u self.maxGas
  write8u self.maxData
  write32 self.gasFrom
  self.payload.writeCarbon
  self.msg.writeCarbon

def readCarbon : CarbonReader TxMsg := do
  let type ← TxType.readByte
  let expiry ← read8
  let maxGas ← read8u
  let maxData ← read8u
  let gasFrom ← read32
  let payload ← SmallString.readCarbon
  let msg ← readPayload type
  return { type, expiry, maxGas, maxData, gasFrom, payload, msg }

end TxMsg

structure Witness where
  address : Bytes32
  signature : Bytes64
  deriving DecidableEq

namespace Witness

def writeCarbon (self : Witness) : CarbonWriter Unit := do
  write32 self.address
  write64 self.signature

def readCarbon : CarbonReader Witness := do
  let address ← read32
  let signature ← read64
  return { address, signature }

end Witness

/-! ## Signed transactions -/

/-- The four layouts of witnesses. -/
inductive WitnessLayout where
  | single
  | gasPayer
  | counted
  | absent
  deriving DecidableEq

/-- The set of transaction types that a branch of `SignedTxMsg` tests for. -/
def TxType.witnessLayout : TxType → WitnessLayout
  | TRANSFER_FUNGIBLE
  | TRANSFER_NON_FUNGIBLE_SINGLE
  | TRANSFER_NON_FUNGIBLE_MULTI
  | MINT_FUNGIBLE
  | BURN_FUNGIBLE
  | MINT_NON_FUNGIBLE
  | BURN_NON_FUNGIBLE => .single
  | TRANSFER_FUNGIBLE_GAS_PAYER
  | TRANSFER_NON_FUNGIBLE_SINGLE_GAS_PAYER
  | TRANSFER_NON_FUNGIBLE_MULTI_GAS_PAYER
  | BURN_FUNGIBLE_GAS_PAYER
  | BURN_NON_FUNGIBLE_GAS_PAYER => .gasPayer
  | CALL
  | CALL_MULTI
  | TRADE
  | PHANTASMA => .counted
  | PHANTASMA_RAW => .absent

structure SignedTxMsg where
  msg : TxMsg
  witnesses : List Witness := []
  deriving DecidableEq

namespace SignedTxMsg

/-- The part of the writer after the transaction. -/
def writeWitnesses (self : SignedTxMsg) : CarbonWriter Unit :=
  match self.msg.type.witnessLayout with
  | .single =>
    match self.witnesses with
    | [witness] =>
      if witness.address ≠ self.msg.gasFrom then
        throw (serializationError "single-witness transaction address mismatch")
      else
        write64 witness.signature
    | _ => throw (serializationError "single-witness transaction address mismatch")
  | .gasPayer =>
    match self.witnesses with
    | [witness, second] =>
      -- the address of the second witness is not looked at
      if witness.address ≠ self.msg.gasFrom then
        throw (serializationError "gas witness address mismatch")
      else do
        write64 witness.signature
        write64 second.signature
    | _ => throw (serializationError "gas witness address mismatch")
  | .counted => writeArray Witness.writeCarbon self.witnesses
  | .absent =>
    if self.witnesses ≠ [] then
      throw (serializationError "raw Phantasma transaction must not contain witnesses")
    else
      pure ()

def writeCarbon (self : SignedTxMsg) : CarbonWriter Unit := do
  self.msg.writeCarbon
  self.writeWitnesses

/-- The part of the reader after the transaction. -/
def readWitnesses (msg : TxMsg) : CarbonReader (List Witness) :=
  match msg.type.witnessLayout with
  | .single => do
    let signature ← read64
    return [⟨msg.gasFrom, signature⟩]
  | .gasPayer => do
    let gasSignature ← read64
    let signature ← read64
    return [⟨msg.gasFrom, gasSignature⟩, ⟨msg.msg.fromAddress, signature⟩]
  | .counted => readArray Witness.readCarbon
  | .absent => return []

def readCarbon : CarbonReader SignedTxMsg := do
  let msg ← TxMsg.readCarbon
  let witnesses ← readWitnesses msg
  return { msg, witnesses }

end SignedTxMsg

end PhantasmaPy.Carbon
