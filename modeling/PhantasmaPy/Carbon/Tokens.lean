import PhantasmaPy.Carbon.Dynamic

/-! # Token module

The token, series and instance records and the arguments of the token module, each with its writer and
its reader.
-/

namespace PhantasmaPy.Carbon

open Wire CarbonWriter CarbonReader

structure TokenSchemas where
  seriesMetadata : VMStructSchema := .default
  rom : VMStructSchema := .default
  ram : VMStructSchema := .default

namespace TokenSchemas

def writeCarbon (self : TokenSchemas) : CarbonWriter Unit := do
  self.seriesMetadata.writeCarbon
  self.rom.writeCarbon
  self.ram.writeCarbon

def readCarbon : CarbonReader TokenSchemas := do
  let seriesMetadata ← VMStructSchema.readCarbon
  let rom ← VMStructSchema.readCarbon
  let ram ← VMStructSchema.readCarbon
  return { seriesMetadata, rom, ram }

end TokenSchemas

/-- The flags are a plain number, as an `IntFlag` keeps any. -/
structure TokenInfo where
  maxSupply : IntX
  flags : Int
  decimals : Int
  owner : Bytes32
  symbol : SmallString
  metadata : Bytes
  tokenSchemas : Bytes := []
  deriving DecidableEq

namespace TokenInfo

/-- `flags & TokenFlags.NON_FUNGIBLE`. -/
def nonFungible (flags : Int) : Bool := flags / 2 % 2 = 1

def writeCarbon (self : TokenInfo) : CarbonWriter Unit := do
  self.maxSupply.writeCarbon
  write1 self.flags
  write1 self.decimals
  write32 self.owner
  self.symbol.writeCarbon
  writeByteArray self.metadata
  if nonFungible self.flags then
    writeByteArray self.tokenSchemas
  else
    return ()

def readCarbon : CarbonReader TokenInfo := do
  let maxSupply ← IntX.readCarbon
  let flags ← readByte
  let decimals ← readByte
  let owner ← read32
  let symbol ← SmallString.readCarbon
  let metadata ← readByteArray
  if nonFungible flags then
    let tokenSchemas ← readByteArray
    return { maxSupply, flags, decimals, owner, symbol, metadata, tokenSchemas }
  else
    return { maxSupply, flags, decimals, owner, symbol, metadata }

end TokenInfo

structure SeriesInfo where
  maxMint : Int
  maxSupply : Int
  owner : Bytes32
  metadata : Bytes
  rom : VMStructSchema := .default
  ram : VMStructSchema := .default

namespace SeriesInfo

def writeCarbon (self : SeriesInfo) : CarbonWriter Unit := do
  write4u self.maxMint
  write4u self.maxSupply
  write32 self.owner
  writeByteArray self.metadata
  self.rom.writeCarbon
  self.ram.writeCarbon

def readCarbon : CarbonReader SeriesInfo := do
  let maxMint ← read4u
  let maxSupply ← read4u
  let owner ← read32
  let metadata ← readByteArray
  let rom ← VMStructSchema.readCarbon
  let ram ← VMStructSchema.readCarbon
  return { maxMint, maxSupply, owner, metadata, rom, ram }

end SeriesInfo

/-! ## Arguments -/

structure NFTMintInfo where
  seriesId : Int := 0
  rom : Bytes := []
  ram : Bytes := []
  deriving DecidableEq

namespace NFTMintInfo

def writeCarbon (self : NFTMintInfo) : CarbonWriter Unit := do
  write4u self.seriesId
  writeByteArray self.rom
  writeByteArray self.ram

def readCarbon : CarbonReader NFTMintInfo := do
  let seriesId ← read4u
  let rom ← readByteArray
  let ram ← readByteArray
  return { seriesId, rom, ram }

end NFTMintInfo

structure MintNonFungibleArgs where
  tokenId : Int := 0
  address : Bytes32 := EMPTY_BYTES32
  tokens : List NFTMintInfo := []
  deriving DecidableEq

namespace MintNonFungibleArgs

def writeCarbon (self : MintNonFungibleArgs) : CarbonWriter Unit := do
  write8u self.tokenId
  write32 self.address
  writeArray NFTMintInfo.writeCarbon self.tokens

def readCarbon : CarbonReader MintNonFungibleArgs := do
  let tokenId ← read8u
  let address ← read32
  let tokens ← readArray NFTMintInfo.readCarbon
  return { tokenId, address, tokens }

end MintNonFungibleArgs

structure CreateTokenSeriesArgs where
  tokenId : Int := 0
  info : SeriesInfo := { maxMint := 0, maxSupply := 0, owner := EMPTY_BYTES32, metadata := [] }

namespace CreateTokenSeriesArgs

def writeCarbon (self : CreateTokenSeriesArgs) : CarbonWriter Unit := do
  write8u self.tokenId
  self.info.writeCarbon

def readCarbon : CarbonReader CreateTokenSeriesArgs := do
  let tokenId ← read8u
  let info ← SeriesInfo.readCarbon
  return { tokenId, info }

end CreateTokenSeriesArgs

structure CreateMintedTokenSeriesArgs where
  tokenId : Int := 0
  info : SeriesInfo := { maxMint := 0, maxSupply := 0, owner := EMPTY_BYTES32, metadata := [] }
  address : Bytes32 := EMPTY_BYTES32
  roms : List Bytes := []
  rams : List Bytes := []

namespace CreateMintedTokenSeriesArgs

def writeCarbon (self : CreateMintedTokenSeriesArgs) : CarbonWriter Unit := do
  write8u self.tokenId
  self.info.writeCarbon
  write32 self.address
  writeByteArrays self.roms
  writeByteArrays self.rams

def readCarbon : CarbonReader CreateMintedTokenSeriesArgs := do
  let tokenId ← read8u
  let info ← SeriesInfo.readCarbon
  let address ← read32
  let roms ← readByteArrays
  let rams ← readByteArrays
  return { tokenId, info, address, roms, rams }

end CreateMintedTokenSeriesArgs

structure PhantasmaNFTMintInfo where
  phantasmaSeriesId : IntX := ⟨0⟩
  rom : Bytes := []
  ram : Bytes := []
  deriving DecidableEq

namespace PhantasmaNFTMintInfo

def writeCarbon (self : PhantasmaNFTMintInfo) : CarbonWriter Unit := do
  self.phantasmaSeriesId.writeCarbon
  writeByteArray self.rom
  writeByteArray self.ram

def readCarbon : CarbonReader PhantasmaNFTMintInfo := do
  let phantasmaSeriesId ← IntX.readCarbon
  let rom ← readByteArray
  let ram ← readByteArray
  return { phantasmaSeriesId, rom, ram }

end PhantasmaNFTMintInfo

structure MintPhantasmaNonFungibleArgs where
  tokenId : Int := 0
  address : Bytes32 := EMPTY_BYTES32
  tokens : List PhantasmaNFTMintInfo := []
  deriving DecidableEq

namespace MintPhantasmaNonFungibleArgs

def writeCarbon (self : MintPhantasmaNonFungibleArgs) : CarbonWriter Unit := do
  write8u self.tokenId
  write32 self.address
  writeArray PhantasmaNFTMintInfo.writeCarbon self.tokens

def readCarbon : CarbonReader MintPhantasmaNonFungibleArgs := do
  let tokenId ← read8u
  let address ← read32
  let tokens ← readArray PhantasmaNFTMintInfo.readCarbon
  return { tokenId, address, tokens }

end MintPhantasmaNonFungibleArgs

structure PhantasmaNFTMintResult where
  phantasmaNftId : Bytes32 := EMPTY_BYTES32
  carbonInstanceId : Int := 0
  deriving DecidableEq

namespace PhantasmaNFTMintResult

def writeCarbon (self : PhantasmaNFTMintResult) : CarbonWriter Unit := do
  write32 self.phantasmaNftId
  write8u self.carbonInstanceId

def readCarbon : CarbonReader PhantasmaNFTMintResult := do
  let phantasmaNftId ← read32
  let carbonInstanceId ← read8u
  return { phantasmaNftId, carbonInstanceId }

end PhantasmaNFTMintResult

structure MintFungibleArgs where
  tokenId : Int := 0
  toAddress : Bytes32 := EMPTY_BYTES32
  amount : IntX := ⟨0⟩
  deriving DecidableEq

namespace MintFungibleArgs

def writeCarbon (self : MintFungibleArgs) : CarbonWriter Unit := do
  write8u self.tokenId
  write32 self.toAddress
  self.amount.writeCarbon

def readCarbon : CarbonReader MintFungibleArgs := do
  let tokenId ← read8u
  let toAddress ← read32
  let amount ← IntX.readCarbon
  return { tokenId, toAddress, amount }

end MintFungibleArgs

structure TransferFungibleArgs where
  toAddress : Bytes32 := EMPTY_BYTES32
  fromAddress : Bytes32 := EMPTY_BYTES32
  tokenId : Int := 0
  amount : IntX := ⟨0⟩
  deriving DecidableEq

namespace TransferFungibleArgs

def writeCarbon (self : TransferFungibleArgs) : CarbonWriter Unit := do
  write32 self.toAddress
  write32 self.fromAddress
  write8u self.tokenId
  self.amount.writeCarbon

def readCarbon : CarbonReader TransferFungibleArgs := do
  let toAddress ← read32
  let fromAddress ← read32
  let tokenId ← read8u
  let amount ← IntX.readCarbon
  return { toAddress, fromAddress, tokenId, amount }

end TransferFungibleArgs

structure TransferNonFungibleArgs where
  toAddress : Bytes32 := EMPTY_BYTES32
  fromAddress : Bytes32 := EMPTY_BYTES32
  tokenId : Int := 0
  instanceIds : List Int := []
  deriving DecidableEq

namespace TransferNonFungibleArgs

def writeCarbon (self : TransferNonFungibleArgs) : CarbonWriter Unit := do
  write32 self.toAddress
  write32 self.fromAddress
  write8u self.tokenId
  writeIntArray self.instanceIds 8 false

def readCarbon : CarbonReader TransferNonFungibleArgs := do
  let toAddress ← read32
  let fromAddress ← read32
  let tokenId ← read8u
  let instanceIds ← readIntArray 8 false
  return { toAddress, fromAddress, tokenId, instanceIds }

end TransferNonFungibleArgs

structure BurnFungibleArgs where
  tokenId : Int := 0
  fromAddress : Bytes32 := EMPTY_BYTES32
  amount : IntX := ⟨0⟩
  deriving DecidableEq

namespace BurnFungibleArgs

def writeCarbon (self : BurnFungibleArgs) : CarbonWriter Unit := do
  write8u self.tokenId
  write32 self.fromAddress
  self.amount.writeCarbon

def readCarbon : CarbonReader BurnFungibleArgs := do
  let tokenId ← read8u
  let fromAddress ← read32
  let amount ← IntX.readCarbon
  return { tokenId, fromAddress, amount }

end BurnFungibleArgs

structure BurnNonFungibleArgs where
  tokenId : Int := 0
  fromAddress : Bytes32 := EMPTY_BYTES32
  instanceIds : List Int := []
  deriving DecidableEq

namespace BurnNonFungibleArgs

def writeCarbon (self : BurnNonFungibleArgs) : CarbonWriter Unit := do
  write8u self.tokenId
  write32 self.fromAddress
  writeIntArray self.instanceIds 8 false

def readCarbon : CarbonReader BurnNonFungibleArgs := do
  let tokenId ← read8u
  let fromAddress ← read32
  let instanceIds ← readIntArray 8 false
  return { tokenId, fromAddress, instanceIds }

end BurnNonFungibleArgs

structure UpdateTokenMetadataArgs where
  tokenId : Int := 0
  metadata : VMDynamicStruct := ⟨[]⟩

namespace UpdateTokenMetadataArgs

def writeCarbon (conv : Conversions) (self : UpdateTokenMetadataArgs) : CarbonWriter Unit := do
  write8u self.tokenId
  self.metadata.writeCarbon conv

def readCarbon : CarbonReader UpdateTokenMetadataArgs := do
  let tokenId ← read8u
  let metadata ← VMDynamicStruct.readCarbon
  return { tokenId, metadata }

end UpdateTokenMetadataArgs

structure UpdateSeriesMetadataArgs where
  tokenId : Int := 0
  seriesId : Int := 0
  metadata : Bytes := []
  deriving DecidableEq

namespace UpdateSeriesMetadataArgs

def writeCarbon (self : UpdateSeriesMetadataArgs) : CarbonWriter Unit := do
  write8u self.tokenId
  write4u self.seriesId
  writeByteArray self.metadata

def readCarbon : CarbonReader UpdateSeriesMetadataArgs := do
  let tokenId ← read8u
  let seriesId ← read4u
  let metadata ← readByteArray
  return { tokenId, seriesId, metadata }

end UpdateSeriesMetadataArgs

end PhantasmaPy.Carbon
