import PhantasmaPy.Carbon.Messages
import PhantasmaPy.Carbon.Tokens
import PhantasmaPy.Crypto

/-! # Transaction builders

Signing of transactions, the fee options, and the builders of the transactions of the token module.
The clock is an argument.
-/

namespace PhantasmaPy.Carbon

open Wire CarbonWriter CarbonReader

/-! ## Keys and addresses as 32 bytes -/

def bytes32FromPublicKey (publicKey : Bytes) : Except PyError Bytes32 :=
  if length : publicKey.length = 32 then .ok ⟨publicKey, length⟩
  else .error (cryptoError s!"public key length must be 32, got {publicKey.length}")

def bytes32FromPhantasmaAddress (address : Address) : Except PyError Bytes32 :=
  if address.kind ≠ .USER ∧ address.kind ≠ .SYSTEM then
    .error (cryptoError s!"unsupported address kind {address.kind.toByte}")
  else .ok ⟨address.data.drop 2, by rw [List.length_drop, address.length_eq]; rfl⟩

/-! ## Signing -/

section Signing

variable (scheme : Ed25519)

/-- `sign_tx_msg`, whose check that the keys are keys is the type of the argument. -/
def signTxMsg (msg : TxMsg) (keys : PhantasmaKeys) : Except PyError SignedTxMsg := do
  let message ← serialize msg.writeCarbon
  let signature ← keys.sign scheme message
  let address ← bytes32FromPublicKey (keys.publicKey scheme)
  let signature ← FixedBytes.new 64 signature.data
  return { msg, witnesses := [{ address, signature }] }

def signAndSerializeTxMsg (msg : TxMsg) (keys : PhantasmaKeys) : Except PyError Bytes := do
  let signed ← signTxMsg scheme msg keys
  serialize signed.writeCarbon

end Signing

/-! ## Fee options -/

/-- `_parse_positive_count` of a number. -/
def parsePositiveCount (value : Int) : Except PyError Int :=
  if value ≤ 0 then .error .valueError else .ok value

structure FeeOptions where
  gasFeeBase : Int := 10000
  feeMultiplier : Int := 1000

def FeeOptions.calculateMaxGas (self : FeeOptions) (count : Int) : Except PyError Int := do
  let count ← parsePositiveCount count
  return self.gasFeeBase * self.feeMultiplier * count

structure CreateTokenFeeOptions where
  gasFeeBase : Int := 10000
  feeMultiplier : Int := 10000
  gasFeeCreateTokenBase : Int := 10000000000
  gasFeeCreateTokenSymbol : Int := 10000000000

def CreateTokenFeeOptions.calculateMaxGasForSymbol (self : CreateTokenFeeOptions) (symbol : SmallString) :
    Except PyError Int := do
  let raw ← encodeText symbol.value
  let shift := raw.length - 1
  let symbolPart := if shift < 64 then self.gasFeeCreateTokenSymbol >>> shift else 0
  return (self.gasFeeBase + self.gasFeeCreateTokenBase + symbolPart) * self.feeMultiplier

structure CreateSeriesFeeOptions where
  gasFeeBase : Int := 10000
  feeMultiplier : Int := 10000
  gasFeeCreateSeriesBase : Int := 2500000000

def CreateSeriesFeeOptions.calculateMaxGas (self : CreateSeriesFeeOptions) (count : Int) :
    Except PyError Int := do
  let count ← parsePositiveCount count
  if count ≠ 1 then throw .valueError
  return (self.gasFeeBase + self.gasFeeCreateSeriesBase) * self.feeMultiplier

/-- `MintNFTFeeOptions`, which takes the fields of `FeeOptions` and a count or the length of a list. -/
structure MintNFTFeeOptions extends FeeOptions

def MintNFTFeeOptions.calculateMaxGas (self : MintNFTFeeOptions) (count : Int) : Except PyError Int := do
  let count ← parsePositiveCount count
  return self.gasFeeBase * self.feeMultiplier * count

/-! ## Builders -/

/-- `ModuleID.TOKEN`. -/
def ModuleID.TOKEN : Int := 1

namespace TokenContractMethod

def CREATE_TOKEN : Int := 2
def CREATE_TOKEN_SERIES : Int := 6
def MINT_PHANTASMA_NON_FUNGIBLE : Int := 27

end TokenContractMethod

/-- The default of the builders' `max_data`. -/
def defaultMaxData : Int := 100000000

/-- `expiry or now_unix_millis() + 60 * 1000`. -/
def expiryOr (now expiry : Int) : Int := if expiry = 0 then now + 60 * 1000 else expiry

section Builders

variable (now : Int)

def buildCreateTokenTx (tokenInfo : TokenInfo) (creator : Bytes32) (fees : CreateTokenFeeOptions := {})
    (maxData : Int := defaultMaxData) (expiry : Int := 0) : Except PyError TxMsg := do
  let maxGas ← fees.calculateMaxGasForSymbol tokenInfo.symbol
  let args ← serialize tokenInfo.writeCarbon
  return {
    type := .CALL
    expiry := expiryOr now expiry
    maxGas
    maxData
    gasFrom := creator
    payload := SmallString.empty
    msg := .call { moduleId := ModuleID.TOKEN, methodId := TokenContractMethod.CREATE_TOKEN, args } }

def buildCreateTokenSeriesTx (tokenId : Int) (seriesInfo : SeriesInfo) (creator : Bytes32)
    (fees : CreateSeriesFeeOptions := {}) (maxData : Int := defaultMaxData) (expiry : Int := 0) :
    Except PyError TxMsg := do
  let args ← serialize do
    write8u tokenId
    seriesInfo.writeCarbon
  let maxGas ← fees.calculateMaxGas 1
  return {
    type := .CALL
    expiry := expiryOr now expiry
    maxGas
    maxData
    gasFrom := creator
    payload := SmallString.empty
    msg := .call { moduleId := ModuleID.TOKEN, methodId := TokenContractMethod.CREATE_TOKEN_SERIES, args } }

def buildMintNonFungibleTx (tokenId seriesId : Int) (sender receiver : Bytes32) (rom : Bytes)
    (ram : Bytes := []) (fees : MintNFTFeeOptions := {}) (maxData : Int := defaultMaxData)
    (expiry : Int := 0) : Except PyError TxMsg := do
  let maxGas ← fees.calculateMaxGas 1
  return {
    type := .MINT_NON_FUNGIBLE
    expiry := expiryOr now expiry
    maxGas
    maxData
    gasFrom := sender
    payload := SmallString.empty
    msg := .mintNonFungible { tokenId, toAddress := receiver, seriesId, rom, ram } }

def buildMintPhantasmaNonFungibleTx (tokenId : Int) (sender receiver : Bytes32)
    (tokens : List PhantasmaNFTMintInfo) (fees : MintNFTFeeOptions := {})
    (maxData : Int := defaultMaxData) (expiry : Int := 0) : Except PyError TxMsg := do
  let maxGas ← fees.calculateMaxGas tokens.length
  let args ← serialize (MintPhantasmaNonFungibleArgs.writeCarbon { tokenId, address := receiver, tokens })
  return {
    type := .CALL
    expiry := expiryOr now expiry
    maxGas
    maxData
    gasFrom := sender
    payload := SmallString.empty
    msg := .call {
      moduleId := ModuleID.TOKEN, methodId := TokenContractMethod.MINT_PHANTASMA_NON_FUNGIBLE, args } }

/-- That the id of the series is a number, which the source checks first, is the type of the argument. -/
def buildMintPhantasmaNonFungibleSingleTx (tokenId phantasmaSeriesId : Int) (sender receiver : Bytes32)
    (publicRom : Bytes) (ram : Bytes := []) (fees : MintNFTFeeOptions := {})
    (maxData : Int := defaultMaxData) (expiry : Int := 0) : Except PyError TxMsg :=
  buildMintPhantasmaNonFungibleTx now tokenId sender receiver
    [{ phantasmaSeriesId := ⟨phantasmaSeriesId⟩, rom := publicRom, ram }] fees maxData expiry

/-- The shape of the functions `build_..._tx_and_sign`: build with the public key of the signer, then
    sign and serialize. -/
def buildAndSign (scheme : Ed25519) (signer : PhantasmaKeys) (build : Bytes32 → Except PyError TxMsg) :
    Except PyError Bytes := do
  let sender ← bytes32FromPublicKey (signer.publicKey scheme)
  let msg ← build sender
  signAndSerializeTxMsg scheme msg signer

variable (scheme : Ed25519)

def buildCreateTokenTxAndSign (tokenInfo : TokenInfo) (signer : PhantasmaKeys)
    (fees : CreateTokenFeeOptions := {}) (maxData : Int := defaultMaxData) (expiry : Int := 0) :
    Except PyError Bytes :=
  buildAndSign scheme signer fun creator => buildCreateTokenTx now tokenInfo creator fees maxData expiry

def buildCreateTokenSeriesTxAndSign (tokenId : Int) (seriesInfo : SeriesInfo) (signer : PhantasmaKeys)
    (fees : CreateSeriesFeeOptions := {}) (maxData : Int := defaultMaxData) (expiry : Int := 0) :
    Except PyError Bytes :=
  buildAndSign scheme signer fun creator =>
    buildCreateTokenSeriesTx now tokenId seriesInfo creator fees maxData expiry

def buildMintNonFungibleTxAndSign (tokenId seriesId : Int) (signer : PhantasmaKeys) (receiver : Bytes32)
    (rom : Bytes) (ram : Bytes := []) (fees : MintNFTFeeOptions := {}) (maxData : Int := defaultMaxData)
    (expiry : Int := 0) : Except PyError Bytes :=
  buildAndSign scheme signer fun sender =>
    buildMintNonFungibleTx now tokenId seriesId sender receiver rom ram fees maxData expiry

def buildMintPhantasmaNonFungibleTxAndSign (tokenId : Int) (signer : PhantasmaKeys) (receiver : Bytes32)
    (tokens : List PhantasmaNFTMintInfo) (fees : MintNFTFeeOptions := {})
    (maxData : Int := defaultMaxData) (expiry : Int := 0) : Except PyError Bytes :=
  buildAndSign scheme signer fun sender =>
    buildMintPhantasmaNonFungibleTx now tokenId sender receiver tokens fees maxData expiry

def buildMintPhantasmaNonFungibleSingleTxAndSign (tokenId phantasmaSeriesId : Int)
    (signer : PhantasmaKeys) (receiver : Bytes32) (publicRom : Bytes) (ram : Bytes := [])
    (fees : MintNFTFeeOptions := {}) (maxData : Int := defaultMaxData) (expiry : Int := 0) :
    Except PyError Bytes :=
  buildAndSign scheme signer fun sender =>
    buildMintPhantasmaNonFungibleSingleTx now tokenId phantasmaSeriesId sender receiver publicRom ram fees
      maxData expiry

end Builders

end PhantasmaPy.Carbon
