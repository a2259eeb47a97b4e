import PhantasmaPy.Carbon.Configs
import PhantasmaPy.Carbon.DynamicRoundTrip
import PhantasmaPy.Carbon.Market
import PhantasmaPy.Carbon.Tokens
import PhantasmaPy.Carbon.TransactionLaws

/-! # Module arguments on the wire

Every record of the token and market modules, and every configuration without versions, comes back from
its image.  Each record is conveyed field by field, in the order of its writer.
-/

namespace PhantasmaPy.Carbon

open Wire CarbonWriter CarbonReader

/-! ## Fields -/

theorem conveys_byte {value : Int} (range : Unsigned 8 value) :
    Conveys (write1 value) () readByte value := byte_lossless.roundTrips.conveys range

theorem conveys_write4u {value : Int} (range : Unsigned 32 value) :
    Conveys (write4u value) () read4u value := write4u_lossless.roundTrips.conveys range

theorem conveys_write8u {value : Int} (range : Unsigned 64 value) :
    Conveys (write8u value) () read8u value := write8u_lossless.roundTrips.conveys range

theorem conveys_write8 {value : Int} (range : Signed 64 value) :
    Conveys (write8 value) () read8 value := write8_lossless.roundTrips.conveys range

theorem conveys_write32 (value : Bytes32) : Conveys (write32 value) () read32 value :=
  write32_lossless.roundTrips.conveys trivial

theorem conveys_byteArray {data : Bytes} (short : ShortBytes data) :
    Conveys (writeByteArray data) () readByteArray data := byteArray_lossless.roundTrips.conveys short

theorem conveys_byteArrays {values : List Bytes} (range : ArrayOf ShortBytes values) :
    Conveys (writeByteArrays values) () readByteArrays values :=
  (array_lossless byteArray_lossless (by decide)).roundTrips.conveys range

theorem conveys_intArray {values : List Int} (range : ArrayOf (Unsigned 64) values) :
    Conveys (writeIntArray values 8 false) () (readIntArray 8 false) values :=
  intArray_lossless.roundTrips.conveys range

theorem SmallString.conveys (text : SmallString) : Conveys text.writeCarbon () readCarbon text :=
  SmallString.roundTrips.conveys trivial

theorem IntX.conveys {number : IntX} (range : Signed 256 number.value) :
    Conveys number.writeCarbon () readCarbon number := IntX.roundTrips.conveys range

/-- The variable holds what the writer looks for, and the fields of every struct in it are sorted. -/
def VMDynamicVariable.Sorted (value : VMDynamicVariable) : Prop :=
  Written value.type none value.data ∧ value.normal = value

/-- The struct holds what the writer looks for, and its fields and those of every struct in it are sorted. -/
def VMDynamicStruct.Sorted (value : VMDynamicStruct) : Prop :=
  Written .STRUCT none (.struct value) ∧ value.normal = value

theorem VMDynamicVariable.Sorted.conveys (conv : Conversions) {value : VMDynamicVariable}
    (sorted : value.Sorted) :
    Conveys (value.writeCarbon conv) () VMDynamicVariable.readCarbon value := by
  obtain ⟨type, data⟩ := value
  have image := variable_conveys conv (sorted.1.conveys conv)
  rwa [(VMDynamicVariable.mk.inj sorted.2).2] at image

theorem VMDynamicStruct.Sorted.conveys (conv : Conversions) {value : VMDynamicStruct}
    (sorted : value.Sorted) : Conveys (value.writeCarbon conv) () VMDynamicStruct.readCarbon value := by
  have image := plainElement_conveys conv (sorted.1.conveys conv)
  rwa [sorted.2] at image

/-- The array of records whose images are not empty. -/
theorem conveys_array {α : Type} {domain : α → Prop} {item : α → CarbonWriter Unit}
    {reader : CarbonReader α} {values : List α}
    (conveys : ∀ value, domain value → Conveys (item value) () reader value) (consumes : reader.Consumes)
    (range : ArrayOf domain values) : Conveys (writeArray item values) () (readArray reader) values :=
  (array_roundTrips conveys consumes).conveys range

/-! ## Configurations -/

namespace ChainConfig

def InRange (self : ChainConfig) : Prop :=
  Unsigned 8 self.version ∧ Unsigned 8 self.reserved1 ∧ Unsigned 8 self.reserved2 ∧
    Unsigned 8 self.reserved3 ∧ Unsigned 32 self.allowedTxTypes ∧ Unsigned 32 self.expiryWindow ∧
    Unsigned 32 self.blockRateTarget

theorem conveys {self : ChainConfig} (inRange : self.InRange) :
    Conveys self.writeCarbon () readCarbon self := by
  obtain ⟨version, reserved1, reserved2, reserved3, types, window, target⟩ := inRange
  exact (conveys_byte version).seq ((conveys_byte reserved1).seq ((conveys_byte reserved2).seq
    ((conveys_byte reserved3).seq ((conveys_write4u types).seq ((conveys_write4u window).seq
      ((conveys_write4u target).map _))))))

end ChainConfig

namespace TokensConfig

def InRange (self : TokensConfig) : Prop := Unsigned 8 self.flags

theorem conveys {self : TokensConfig} (inRange : self.InRange) :
    Conveys self.writeCarbon () readCarbon self := (conveys_byte inRange).map _

end TokensConfig

/-! ## Token module -/

namespace TokenSchemas

def InRange (self : TokenSchemas) : Prop :=
  self.seriesMetadata.Publishable ∧ self.rom.Publishable ∧ self.ram.Publishable

theorem conveys {self : TokenSchemas} (inRange : self.InRange) :
    Conveys self.writeCarbon () readCarbon self := by
  obtain ⟨series, rom, ram⟩ := inRange
  exact series.conveys.seq (rom.conveys.seq (ram.conveys.map _))

end TokenSchemas

namespace TokenInfo

/-- The schemas are empty unless the token is non-fungible. -/
def InRange (self : TokenInfo) : Prop :=
  Signed 256 self.maxSupply.value ∧ Unsigned 8 self.flags ∧ Unsigned 8 self.decimals ∧
    ShortBytes self.metadata ∧
    if nonFungible self.flags then ShortBytes self.tokenSchemas else self.tokenSchemas = []

theorem conveys {self : TokenInfo} (inRange : self.InRange) :
    Conveys self.writeCarbon () readCarbon self := by
  obtain ⟨supply, flags, decimals, metadata, schemas⟩ := inRange
  refine (IntX.conveys supply).seq ((conveys_byte flags).seq ((conveys_byte decimals).seq
    ((conveys_write32 _).seq ((SmallString.conveys _).seq ((conveys_byteArray metadata).seq ?_)))))
  by_cases unique : nonFungible self.flags = true
  · rw [if_pos unique] at schemas ⊢
    rw [if_pos unique]
    exact (conveys_byteArray schemas).map _
  · rw [if_neg unique] at schemas ⊢
    rw [if_neg unique, ← schemas]
    exact conveys_pure () self

end TokenInfo

namespace SeriesInfo

def InRange (self : SeriesInfo) : Prop :=
  Unsigned 32 self.maxMint ∧ Unsigned 32 self.maxSupply ∧ ShortBytes self.metadata ∧
    self.rom.Publishable ∧ self.ram.Publishable

theorem conveys {self : SeriesInfo} (inRange : self.InRange) :
    Conveys self.writeCarbon () readCarbon self := by
  obtain ⟨mint, supply, metadata, rom, ram⟩ := inRange
  exact (conveys_write4u mint).seq ((conveys_write4u supply).seq ((conveys_write32 _).seq
    ((conveys_byteArray metadata).seq (rom.conveys.seq (ram.conveys.map _)))))

end SeriesInfo

namespace NFTMintInfo

def InRange (self : NFTMintInfo) : Prop :=
  Unsigned 32 self.seriesId ∧ ShortBytes self.rom ∧ ShortBytes self.ram

theorem conveys (self : NFTMintInfo) (inRange : self.InRange) :
    Conveys self.writeCarbon () readCarbon self := by
  obtain ⟨series, rom, ram⟩ := inRange
  exact (conveys_write4u series).seq ((conveys_byteArray rom).seq ((conveys_byteArray ram).map _))

theorem readCarbon_consumes : readCarbon.Consumes :=
  (write4u_lossless.consumes (by decide)).bind fun _ => byteArray_lossless.isLocal.steady.bind fun _ =>
    byteArray_lossless.isLocal.steady.bind fun _ => (Get.Local.pure _).steady

end NFTMintInfo

namespace MintNonFungibleArgs

def InRange (self : MintNonFungibleArgs) : Prop :=
  Unsigned 64 self.tokenId ∧ ArrayOf NFTMintInfo.InRange self.tokens

theorem conveys {self : MintNonFungibleArgs} (inRange : self.InRange) :
    Conveys self.writeCarbon () readCarbon self := by
  obtain ⟨token, tokens⟩ := inRange
  exact (conveys_write8u token).seq ((conveys_write32 _).seq
    ((conveys_array NFTMintInfo.conveys NFTMintInfo.readCarbon_consumes tokens).map _))

end MintNonFungibleArgs

namespace CreateTokenSeriesArgs

def InRange (self : CreateTokenSeriesArgs) : Prop := Unsigned 64 self.tokenId ∧ self.info.InRange

theorem conveys {self : CreateTokenSeriesArgs} (inRange : self.InRange) :
    Conveys self.writeCarbon () readCarbon self := by
  obtain ⟨token, info⟩ := inRange
  exact (conveys_write8u token).seq ((SeriesInfo.conveys info).map _)

end CreateTokenSeriesArgs

namespace CreateMintedTokenSeriesArgs

def InRange (self : CreateMintedTokenSeriesArgs) : Prop :=
  Unsigned 64 self.tokenId ∧ self.info.InRange ∧ ArrayOf ShortBytes self.roms ∧
    ArrayOf ShortBytes self.rams

theorem conveys {self : CreateMintedTokenSeriesArgs} (inRange : self.InRange) :
    Conveys self.writeCarbon () readCarbon self := by
  obtain ⟨token, info, roms, rams⟩ := inRange
  exact (conveys_write8u token).seq ((SeriesInfo.conveys info).seq ((conveys_write32 _).seq
    ((conveys_byteArrays roms).seq ((conveys_byteArrays rams).map _))))

end CreateMintedTokenSeriesArgs

namespace PhantasmaNFTMintInfo

def InRange (self : PhantasmaNFTMintInfo) : Prop :=
  Signed 256 self.phantasmaSeriesId.value ∧ ShortBytes self.rom ∧ ShortBytes self.ram

theorem conveys (self : PhantasmaNFTMintInfo) (inRange : self.InRange) :
    Conveys self.writeCarbon () readCarbon self := by
  obtain ⟨series, rom, ram⟩ := inRange
  exact (IntX.conveys series).seq ((conveys_byteArray rom).seq ((conveys_byteArray ram).map _))

theorem readCarbon_consumes : readCarbon.Consumes :=
  (IntX.marked.consumes (by decide)).bind fun _ => byteArray_lossless.isLocal.steady.bind fun _ =>
    byteArray_lossless.isLocal.steady.bind fun _ => (Get.Local.pure _).steady

end PhantasmaNFTMintInfo

namespace MintPhantasmaNonFungibleArgs

def InRange (self : MintPhantasmaNonFungibleArgs) : Prop :=
  Unsigned 64 self.tokenId ∧ ArrayOf PhantasmaNFTMintInfo.InRange self.tokens

theorem conveys {self : MintPhantasmaNonFungibleArgs} (inRange : self.InRange) :
    Conveys self.writeCarbon () readCarbon self := by
  obtain ⟨token, tokens⟩ := inRange
  exact (conveys_write8u token).seq ((conveys_write32 _).seq
    ((conveys_array PhantasmaNFTMintInfo.conveys PhantasmaNFTMintInfo.readCarbon_consumes tokens).map _))

end MintPhantasmaNonFungibleArgs

namespace PhantasmaNFTMintResult

def InRange (self : PhantasmaNFTMintResult) : Prop := Unsigned 64 self.carbonInstanceId

theorem conveys {self : PhantasmaNFTMintResult} (inRange : self.InRange) :
    Conveys self.writeCarbon () readCarbon self :=
  (conveys_write32 _).seq ((conveys_write8u inRange).map _)

end PhantasmaNFTMintResult

namespace MintFungibleArgs

def InRange (self : MintFungibleArgs) : Prop := Unsigned 64 self.tokenId ∧ Signed 256 self.amount.value

theorem conveys {self : MintFungibleArgs} (inRange : self.InRange) :
    Conveys self.writeCarbon () readCarbon self := by
  obtain ⟨token, amount⟩ := inRange
  exact (conveys_write8u token).seq ((conveys_write32 _).seq ((IntX.conveys amount).map _))

end MintFungibleArgs

namespace TransferFungibleArgs

def InRange (self : TransferFungibleArgs) : Prop :=
  Unsigned 64 self.tokenId ∧ Signed 256 self.amount.value

theorem conveys {self : TransferFungibleArgs} (inRange : self.InRange) :
    Conveys self.writeCarbon () readCarbon self := by
  obtain ⟨token, amount⟩ := inRange
  exact (conveys_write32 _).seq ((conveys_write32 _).seq ((conveys_write8u token).seq
    ((IntX.conveys amount).map _)))

end TransferFungibleArgs

namespace TransferNonFungibleArgs

def InRange (self : TransferNonFungibleArgs) : Prop :=
  Unsigned 64 self.tokenId ∧ ArrayOf (Unsigned 64) self.instanceIds

theorem conveys {self : TransferNonFungibleArgs} (inRange : self.InRange) :
    Conveys self.writeCarbon () readCarbon self := by
  obtain ⟨token, instances⟩ := inRange
  exact (conveys_write32 _).seq ((conveys_write32 _).seq ((conveys_write8u token).seq
    ((conveys_intArray instances).map _)))

end TransferNonFungibleArgs

namespace BurnFungibleArgs

def InRange (self : BurnFungibleArgs) : Prop := Unsigned 64 self.tokenId ∧ Signed 256 self.amount.value

theorem conveys {self : BurnFungibleArgs} (inRange : self.InRange) :
    Conveys self.writeCarbon () readCarbon self := by
  obtain ⟨token, amount⟩ := inRange
  exact (conveys_write8u token).seq ((conveys_write32 _).seq ((IntX.conveys amount).map _))

end BurnFungibleArgs

namespace BurnNonFungibleArgs

def InRange (self : BurnNonFungibleArgs) : Prop :=
  Unsigned 64 self.tokenId ∧ ArrayOf (Unsigned 64) self.instanceIds

theorem conveys {self : BurnNonFungibleArgs} (inRange : self.InRange) :
    Conveys self.writeCarbon () readCarbon self := by
  obtain ⟨token, instances⟩ := inRange
  exact (conveys_write8u token).seq ((conveys_write32 _).seq ((conveys_intArray instances).map _))

end BurnNonFungibleArgs

namespace UpdateTokenMetadataArgs

def InRange (self : UpdateTokenMetadataArgs) : Prop := Unsigned 64 self.tokenId ∧ self.metadata.Sorted

theorem conveys (conv : Conversions) {self : UpdateTokenMetadataArgs} (inRange : self.InRange) :
    Conveys (self.writeCarbon conv) () readCarbon self := by
  obtain ⟨token, metadata⟩ := inRange
  exact (conveys_write8u token).seq ((metadata.conveys conv).map _)

end UpdateTokenMetadataArgs

namespace UpdateSeriesMetadataArgs

def InRange (self : UpdateSeriesMetadataArgs) : Prop :=
  Unsigned 64 self.tokenId ∧ Unsigned 32 self.seriesId ∧ ShortBytes self.metadata

theorem conveys {self : UpdateSeriesMetadataArgs} (inRange : self.InRange) :
    Conveys self.writeCarbon () readCarbon self := by
  obtain ⟨token, series, metadata⟩ := inRange
  exact (conveys_write8u token).seq ((conveys_write4u series).seq ((conveys_byteArray metadata).map _))

end UpdateSeriesMetadataArgs

/-! ## Market module -/

theorem ListingType.conveys (type : ListingType) : Conveys type.writeByte () readByte type := by
  cases type
  exact ⟨[0], emits_write1.mpr ⟨by decide, rfl⟩, (read1_parses 0).bind_nil (Get.Parses.check rfl)⟩

namespace TokenListing

def InRange (self : TokenListing) : Prop :=
  Unsigned 64 self.quoteTokenId ∧ Signed 256 self.price.value ∧ Signed 64 self.startDate ∧
    Signed 64 self.endDate

theorem conveys {self : TokenListing} (inRange : self.InRange) :
    Conveys self.writeCarbon () readCarbon self := by
  obtain ⟨quote, price, start, finish⟩ := inRange
  exact (ListingType.conveys _).seq ((conveys_write32 _).seq ((conveys_write8u quote).seq
    ((IntX.conveys price).seq ((conveys_write8 start).seq ((conveys_write8 finish).map _)))))

end TokenListing

namespace MarketConfig

def InRange (self : MarketConfig) : Prop :=
  Unsigned 64 self.minimumListingTime ∧ Unsigned 64 self.maximumListingTime ∧
    Unsigned 64 self.delistingGrace ∧ Unsigned 32 self.flags

theorem conveys {self : MarketConfig} (inRange : self.InRange) :
    Conveys self.writeCarbon () readCarbon self := by
  obtain ⟨minimum, maximum, grace, flags⟩ := inRange
  exact (conveys_write8u minimum).seq ((conveys_write8u maximum).seq ((conveys_write8u grace).seq
    ((conveys_write4u flags).map _)))

end MarketConfig

namespace MarketSellTokenArgs

def InRange (self : MarketSellTokenArgs) : Prop :=
  Unsigned 64 self.tokenId ∧ Unsigned 64 self.instanceId ∧ Unsigned 64 self.quoteTokenId ∧
    Signed 256 self.price.value ∧ Signed 64 self.endDate

theorem conveys {self : MarketSellTokenArgs} (inRange : self.InRange) :
    Conveys self.writeCarbon () readCarbon self := by
  obtain ⟨token, carried, quote, price, finish⟩ := inRange
  exact (conveys_write32 _).seq ((conveys_write8u token).seq ((conveys_write8u carried).seq
    ((conveys_write8u quote).seq ((IntX.conveys price).seq ((conveys_write8 finish).map _)))))

end MarketSellTokenArgs

namespace MarketSellTokenByIDArgs

def InRange (self : MarketSellTokenByIDArgs) : Prop :=
  self.instanceId.Sorted ∧ Signed 256 self.price.value ∧ Signed 64 self.endDate

theorem conveys (conv : Conversions) {self : MarketSellTokenByIDArgs} (inRange : self.InRange) :
    Conveys (self.writeCarbon conv) () readCarbon self := by
  obtain ⟨carried, price, finish⟩ := inRange
  exact (conveys_write32 _).seq ((SmallString.conveys _).seq ((carried.conveys conv).seq
    ((SmallString.conveys _).seq ((IntX.conveys price).seq ((conveys_write8 finish).map _)))))

end MarketSellTokenByIDArgs

namespace MarketCancelSaleArgs

def InRange (self : MarketCancelSaleArgs) : Prop :=
  Unsigned 64 self.tokenId ∧ Unsigned 64 self.instanceId

theorem conveys {self : MarketCancelSaleArgs} (inRange : self.InRange) :
    Conveys self.writeCarbon () readCarbon self := by
  obtain ⟨token, carried⟩ := inRange
  exact (conveys_write8u token).seq ((conveys_write8u carried).map _)

end MarketCancelSaleArgs

namespace MarketCancelSaleByIDArgs

def InRange (self : MarketCancelSaleByIDArgs) : Prop := self.instanceId.Sorted

theorem conveys (conv : Conversions) {self : MarketCancelSaleByIDArgs} (inRange : self.InRange) :
    Conveys (self.writeCarbon conv) () readCarbon self :=
  (SmallString.conveys _).seq ((VMDynamicVariable.Sorted.conveys conv inRange).map _)

end MarketCancelSaleByIDArgs

namespace MarketBuyTokenArgs

def InRange (self : MarketBuyTokenArgs) : Prop := Unsigned 64 self.tokenId ∧ Unsigned 64 self.instanceId

theorem conveys {self : MarketBuyTokenArgs} (inRange : self.InRange) :
    Conveys self.writeCarbon () readCarbon self := by
  obtain ⟨token, carried⟩ := inRange
  exact (conveys_write32 _).seq ((conveys_write8u token).seq ((conveys_write8u carried).map _))

end MarketBuyTokenArgs

namespace MarketBuyTokenByIDArgs

def InRange (self : MarketBuyTokenByIDArgs) : Prop := self.instanceId.Sorted

theorem conveys (conv : Conversions) {self : MarketBuyTokenByIDArgs} (inRange : self.InRange) :
    Conveys (self.writeCarbon conv) () readCarbon self :=
  (conveys_write32 _).seq ((SmallString.conveys _).seq
    ((VMDynamicVariable.Sorted.conveys conv inRange).map _))

end MarketBuyTokenByIDArgs

namespace MarketGetTokenListingCountArgs

def InRange (self : MarketGetTokenListingCountArgs) : Prop := Unsigned 64 self.tokenId

theorem conveys {self : MarketGetTokenListingCountArgs} (inRange : self.InRange) :
    Conveys self.writeCarbon () readCarbon self := (conveys_write8u inRange).map _

end MarketGetTokenListingCountArgs

namespace MarketGetTokenListingInfoArgs

def InRange (self : MarketGetTokenListingInfoArgs) : Prop :=
  Unsigned 64 self.tokenId ∧ Unsigned 64 self.instanceId

theorem conveys {self : MarketGetTokenListingInfoArgs} (inRange : self.InRange) :
    Conveys self.writeCarbon () readCarbon self := by
  obtain ⟨token, carried⟩ := inRange
  exact (conveys_write8u token).seq ((conveys_write8u carried).map _)

end MarketGetTokenListingInfoArgs

namespace MarketGetTokenListingInfoByIDArgs

def InRange (self : MarketGetTokenListingInfoByIDArgs) : Prop := self.instanceId.Sorted

theorem conveys (conv : Conversions) {self : MarketGetTokenListingInfoByIDArgs}
    (inRange : self.InRange) : Conveys (self.writeCarbon conv) () readCarbon self :=
  (SmallString.conveys _).seq ((VMDynamicVariable.Sorted.conveys conv inRange).map _)

end MarketGetTokenListingInfoByIDArgs

/-! ## All records -/

/-- The classes of the token and market modules and of the configurations without versions. -/
inductive ModuleType where
  | chainConfig
  | tokensConfig
  | tokenSchemas
  | tokenInfo
  | seriesInfo
  | nftMintInfo
  | mintNonFungibleArgs
  | createTokenSeriesArgs
  | createMintedTokenSeriesArgs
  | phantasmaNFTMintInfo
  | mintPhantasmaNonFungibleArgs
  | phantasmaNFTMintResult
  | mintFungibleArgs
  | transferFungibleArgs
  | transferNonFungibleArgs
  | burnFungibleArgs
  | burnNonFungibleArgs
  | updateTokenMetadataArgs
  | updateSeriesMetadataArgs
  | tokenListing
  | marketConfig
  | marketSellTokenArgs
  | marketSellTokenByIDArgs
  | marketCancelSaleArgs
  | marketCancelSaleByIDArgs
  | marketBuyTokenArgs
  | marketBuyTokenByIDArgs
  | marketGetTokenListingCountArgs
  | marketGetTokenListingInfoArgs
  | marketGetTokenListingInfoByIDArgs
  deriving DecidableEq

namespace ModuleType

def Value : ModuleType → Type
  | chainConfig => ChainConfig
  | tokensConfig => TokensConfig
  | tokenSchemas => TokenSchemas
  | tokenInfo => TokenInfo
  | seriesInfo => SeriesInfo
  | nftMintInfo => NFTMintInfo
  | mintNonFungibleArgs => MintNonFungibleArgs
  | createTokenSeriesArgs => CreateTokenSeriesArgs
  | createMintedTokenSeriesArgs => CreateMintedTokenSeriesArgs
  | phantasmaNFTMintInfo => PhantasmaNFTMintInfo
  | mintPhantasmaNonFungibleArgs => MintPhantasmaNonFungibleArgs
  | phantasmaNFTMintResult => PhantasmaNFTMintResult
  | mintFungibleArgs => MintFungibleArgs
  | transferFungibleArgs => TransferFungibleArgs
  | transferNonFungibleArgs => TransferNonFungibleArgs
  | burnFungibleArgs => BurnFungibleArgs
  | burnNonFungibleArgs => BurnNonFungibleArgs
  | updateTokenMetadataArgs => UpdateTokenMetadataArgs
  | updateSeriesMetadataArgs => UpdateSeriesMetadataArgs
  | tokenListing => TokenListing
  | marketConfig => MarketConfig
  | marketSellTokenArgs => MarketSellTokenArgs
  | marketSellTokenByIDArgs => MarketSellTokenByIDArgs
  | marketCancelSaleArgs => MarketCancelSaleArgs
  | marketCancelSaleByIDArgs => MarketCancelSaleByIDArgs
  | marketBuyTokenArgs => MarketBuyTokenArgs
  | marketBuyTokenByIDArgs => MarketBuyTokenByIDArgs
  | marketGetTokenListingCountArgs => MarketGetTokenListingCountArgs
  | marketGetTokenListingInfoArgs => MarketGetTokenListingInfoArgs
  | marketGetTokenListingInfoByIDArgs => MarketGetTokenListingInfoByIDArgs

def writeCarbon (conv : Conversions) : (type : ModuleType) → type.Value → CarbonWriter Unit
  | chainConfig => ChainConfig.writeCarbon
  | tokensConfig => TokensConfig.writeCarbon
  | tokenSchemas => TokenSchemas.writeCarbon
  | tokenInfo => TokenInfo.writeCarbon
  | seriesInfo => SeriesInfo.writeCarbon
  | nftMintInfo => NFTMintInfo.writeCarbon
  | mintNonFungibleArgs => MintNonFungibleArgs.writeCarbon
  | createTokenSeriesArgs => CreateTokenSeriesArgs.writeCarbon
  | createMintedTokenSeriesArgs => CreateMintedTokenSeriesArgs.writeCarbon
  | phantasmaNFTMintInfo => PhantasmaNFTMintInfo.writeCarbon
  | mintPhantasmaNonFungibleArgs => MintPhantasmaNonFungibleArgs.writeCarbon
  | phantasmaNFTMintResult => PhantasmaNFTMintResult.writeCarbon
  | mintFungibleArgs => MintFungibleArgs.writeCarbon
  | transferFungibleArgs => TransferFungibleArgs.writeCarbon
  | transferNonFungibleArgs => TransferNonFungibleArgs.writeCarbon
  | burnFungibleArgs => BurnFungibleArgs.writeCarbon
  | burnNonFungibleArgs => BurnNonFungibleArgs.writeCarbon
  | updateTokenMetadataArgs => UpdateTokenMetadataArgs.writeCarbon conv
  | updateSeriesMetadataArgs => UpdateSeriesMetadataArgs.writeCarbon
  | tokenListing => TokenListing.writeCarbon
  | marketConfig => MarketConfig.writeCarbon
  | marketSellTokenArgs => MarketSellTokenArgs.writeCarbon
  | marketSellTokenByIDArgs => MarketSellTokenByIDArgs.writeCarbon conv
  | marketCancelSaleArgs => MarketCancelSaleArgs.writeCarbon
  | marketCancelSaleByIDArgs => MarketCancelSaleByIDArgs.writeCarbon conv
  | marketBuyTokenArgs => MarketBuyTokenArgs.writeCarbon
  | marketBuyTokenByIDArgs => MarketBuyTokenByIDArgs.writeCarbon conv
  | marketGetTokenListingCountArgs => MarketGetTokenListingCountArgs.writeCarbon
  | marketGetTokenListingInfoArgs => MarketGetTokenListingInfoArgs.writeCarbon
  | marketGetTokenListingInfoByIDArgs => MarketGetTokenListingInfoByIDArgs.writeCarbon conv

def readCarbon : (type : ModuleType) → CarbonReader type.Value
  | chainConfig => ChainConfig.readCarbon
  | tokensConfig => TokensConfig.readCarbon
  | tokenSchemas => TokenSchemas.readCarbon
  | tokenInfo => TokenInfo.readCarbon
  | seriesInfo => SeriesInfo.readCarbon
  | nftMintInfo => NFTMintInfo.readCarbon
  | mintNonFungibleArgs => MintNonFungibleArgs.readCarbon
  | createTokenSeriesArgs => CreateTokenSeriesArgs.readCarbon
  | createMintedTokenSeriesArgs => CreateMintedTokenSeriesArgs.readCarbon
  | phantasmaNFTMintInfo => PhantasmaNFTMintInfo.readCarbon
  | mintPhantasmaNonFungibleArgs => MintPhantasmaNonFungibleArgs.readCarbon
  | phantasmaNFTMintResult => PhantasmaNFTMintResult.readCarbon
  | mintFungibleArgs => MintFungibleArgs.readCarbon
  | transferFungibleArgs => TransferFungibleArgs.readCarbon
  | transferNonFungibleArgs => TransferNonFungibleArgs.readCarbon
  | burnFungibleArgs => BurnFungibleArgs.readCarbon
  | burnNonFungibleArgs => BurnNonFungibleArgs.readCarbon
  | updateTokenMetadataArgs => UpdateTokenMetadataArgs.readCarbon
  | updateSeriesMetadataArgs => UpdateSeriesMetadataArgs.readCarbon
  | tokenListing => TokenListing.readCarbon
  | marketConfig => MarketConfig.readCarbon
  | marketSellTokenArgs => MarketSellTokenArgs.readCarbon
  | marketSellTokenByIDArgs => MarketSellTokenByIDArgs.readCarbon
  | marketCancelSaleArgs => MarketCancelSaleArgs.readCarbon
  | marketCancelSaleByIDArgs => MarketCancelSaleByIDArgs.readCarbon
  | marketBuyTokenArgs => MarketBuyTokenArgs.readCarbon
  | marketBuyTokenByIDArgs => MarketBuyTokenByIDArgs.readCarbon
  | marketGetTokenListingCountArgs => MarketGetTokenListingCountArgs.readCarbon
  | marketGetTokenListingInfoArgs => MarketGetTokenListingInfoArgs.readCarbon
  | marketGetTokenListingInfoByIDArgs => MarketGetTokenListingInfoByIDArgs.readCarbon

/-- The fields of the record have room on the wire, and what it nests is in normal form. -/
def InRange : (type : ModuleType) → type.Value → Prop
  | chainConfig => ChainConfig.InRange
  | tokensConfig => TokensConfig.InRange
  | tokenSchemas => TokenSchemas.InRange
  | tokenInfo => TokenInfo.InRange
  | seriesInfo => SeriesInfo.InRange
  | nftMintInfo => NFTMintInfo.InRange
  | mintNonFungibleArgs => MintNonFungibleArgs.InRange
  | createTokenSeriesArgs => CreateTokenSeriesArgs.InRange
  | createMintedTokenSeriesArgs => CreateMintedTokenSeriesArgs.InRange
  | phantasmaNFTMintInfo => PhantasmaNFTMintInfo.InRange
  | mintPhantasmaNonFungibleArgs => MintPhantasmaNonFungibleArgs.InRange
  | phantasmaNFTMintResult => PhantasmaNFTMintResult.InRange
  | mintFungibleArgs => MintFungibleArgs.InRange
  | transferFungibleArgs => TransferFungibleArgs.InRange
  | transferNonFungibleArgs => TransferNonFungibleArgs.InRange
  | burnFungibleArgs => BurnFungibleArgs.InRange
  | burnNonFungibleArgs => BurnNonFungibleArgs.InRange
  | updateTokenMetadataArgs => UpdateTokenMetadataArgs.InRange
  | updateSeriesMetadataArgs => UpdateSeriesMetadataArgs.InRange
  | tokenListing => TokenListing.InRange
  | marketConfig => MarketConfig.InRange
  | marketSellTokenArgs => MarketSellTokenArgs.InRange
  | marketSellTokenByIDArgs => MarketSellTokenByIDArgs.InRange
  | marketCancelSaleArgs => MarketCancelSaleArgs.InRange
  | marketCancelSaleByIDArgs => MarketCancelSaleByIDArgs.InRange
  | marketBuyTokenArgs => MarketBuyTokenArgs.InRange
  | marketBuyTokenByIDArgs => MarketBuyTokenByIDArgs.InRange
  | marketGetTokenListingCountArgs => MarketGetTokenListingCountArgs.InRange
  | marketGetTokenListingInfoArgs => MarketGetTokenListingInfoArgs.InRange
  | marketGetTokenListingInfoByIDArgs => MarketGetTokenListingInfoByIDArgs.InRange

theorem conveys (conv : Conversions) (type : ModuleType) (value : type.Value)
    (inRange : type.InRange value) :
    Conveys (type.writeCarbon conv value) () type.readCarbon value := by
  cases type with
  | chainConfig => exact ChainConfig.conveys inRange
  | tokensConfig => exact TokensConfig.conveys inRange
  | tokenSchemas => exact TokenSchemas.conveys inRange
  | tokenInfo => exact TokenInfo.conveys inRange
  | seriesInfo => exact SeriesInfo.conveys inRange
  | nftMintInfo => exact NFTMintInfo.conveys value inRange
  | mintNonFungibleArgs => exact MintNonFungibleArgs.conveys inRange
  | createTokenSeriesArgs => exact CreateTokenSeriesArgs.conveys inRange
  | createMintedTokenSeriesArgs => exact CreateMintedTokenSeriesArgs.conveys inRange
  | phantasmaNFTMintInfo => exact PhantasmaNFTMintInfo.conveys value inRange
  | mintPhantasmaNonFungibleArgs => exact MintPhantasmaNonFungibleArgs.conveys inRange
  | phantasmaNFTMintResult => exact PhantasmaNFTMintResult.conveys inRange
  | mintFungibleArgs => exact MintFungibleArgs.conveys inRange
  | transferFungibleArgs => exact TransferFungibleArgs.conveys inRange
  | transferNonFungibleArgs => exact TransferNonFungibleArgs.conveys inRange
  | burnFungibleArgs => exact BurnFungibleArgs.conveys inRange
  | burnNonFungibleArgs => exact BurnNonFungibleArgs.conveys inRange
  | updateTokenMetadataArgs => exact UpdateTokenMetadataArgs.conveys conv inRange
  | updateSeriesMetadataArgs => exact UpdateSeriesMetadataArgs.conveys inRange
  | tokenListing => exact TokenListing.conveys inRange
  | marketConfig => exact MarketConfig.conveys inRange
  | marketSellTokenArgs => exact MarketSellTokenArgs.conveys inRange
  | marketSellTokenByIDArgs => exact MarketSellTokenByIDArgs.conveys conv inRange
  | marketCancelSaleArgs => exact MarketCancelSaleArgs.conveys inRange
  | marketCancelSaleByIDArgs => exact MarketCancelSaleByIDArgs.conveys conv inRange
  | marketBuyTokenArgs => exact MarketBuyTokenArgs.conveys inRange
  | marketBuyTokenByIDArgs => exact MarketBuyTokenByIDArgs.conveys conv inRange
  | marketGetTokenListingCountArgs => exact MarketGetTokenListingCountArgs.conveys inRange
  | marketGetTokenListingInfoArgs => exact MarketGetTokenListingInfoArgs.conveys inRange
  | marketGetTokenListingInfoByIDArgs => exact MarketGetTokenListingInfoByIDArgs.conveys conv inRange

end ModuleType

/-- Every record in range comes back from its image. -/
theorem module_roundTrip (conv : Conversions) (type : ModuleType) (value : type.Value)
    (inRange : type.InRange value) :
    ∃ raw, serialize (type.writeCarbon conv value) = .ok raw ∧
      deserialize type.readCarbon raw = .ok value := by
  obtain ⟨raw, emits, parses⟩ := type.conveys conv value inRange
  exact ⟨raw, serialize_eq_ok.mpr emits, deserialize_eq_ok.mpr parses.yields⟩

/-- A listing of an instance that is named by a nested value. -/
def sampleSale : MarketSellTokenByIDArgs where
  fromAddress := ⟨List.replicate 32 11, List.length_replicate⟩
  symbol := idName
  instanceId := deck
  price := ⟨-57896044618658097711785492504343953926634992332820282019728792003956564819968⟩
  endDate := -1

theorem module_roundTrip_sale :
    ∃ raw, serialize (sampleSale.writeCarbon Conversions.none) = .ok raw ∧
      deserialize MarketSellTokenByIDArgs.readCarbon raw = .ok sampleSale := by
  have sorted : deck.normal = deck := by rfl
  exact module_roundTrip Conversions.none .marketSellTokenByIDArgs sampleSale
    ⟨⟨deck_holds.written, sorted⟩, by decide, by decide⟩

/-! ## Elements without bytes -/

/-- A schema whose one field is a struct without fields, so that its structs occupy no bytes. -/
def bodilessSchema : VMStructSchema := ⟨[⟨idName, ⟨.STRUCT, some ⟨[], 0⟩⟩⟩], 0⟩

def bodiless : VMDynamicStruct := ⟨[⟨idName, ⟨.STRUCT, .struct ⟨[]⟩⟩⟩]⟩

/-- Metadata with an array of a hundred structs that occupy no bytes. -/
def bodilessMetadata : UpdateTokenMetadataArgs where
  tokenId := 1
  metadata := ⟨[⟨powersName, ⟨.ARRAY_STRUCT,
    .structArray ⟨bodilessSchema, (List.replicate 100 bodiless).map .struct⟩⟩⟩]⟩

theorem bodiless_holds : Holds .STRUCT (some bodilessSchema) (.struct bodiless) := by
  have inner : Holds .STRUCT (some ⟨[], 0⟩) (.struct ⟨[]⟩) :=
    .boundStruct (fun _ => .none) (by decide) (by decide) (by simp) (by simp) (by simp [extras])
      (by simp [extras]) (by simp [extras])
  refine .boundStruct (fun _ => .struct ⟨[]⟩) (by decide) (by decide) ?_ ?_ ?_ ?_ ?_
  · simp [bodilessSchema, bodiless]
  · simpa [bodilessSchema] using inner
  · simp [extras, bodiless, bodilessSchema, VMStructSchema.hasField]
  · simp [extras, bodiless, bodilessSchema, VMStructSchema.hasField]
  · simp [extras, bodiless, bodilessSchema, VMStructSchema.hasField]

def bodilessImage : Bytes :=
  [1, 0, 0, 0, 0, 0, 0, 0, 1, 0, 0, 0, 6, 112, 111, 119, 101, 114, 115, 5, 100, 0, 0, 0,
    1, 0, 0, 0, 2, 105, 100, 4, 0, 0, 0, 0, 0, 0]

/-- The record is written, and its image is refused: the count of the array exceeds the bytes behind it. -/
theorem bodilessMetadata_refused :
    Unsigned 64 bodilessMetadata.tokenId ∧ bodilessSchema.Publishable ∧
      Holds .STRUCT (some bodilessSchema) (.struct bodiless) ∧
      bodilessMetadata.metadata.normal = bodilessMetadata.metadata ∧
      serialize (bodilessMetadata.writeCarbon Conversions.none) = .ok bodilessImage ∧
        ¬ ∃ value, deserialize UpdateTokenMetadataArgs.readCarbon bodilessImage = .ok value := by
  have publishable : bodilessSchema.Publishable :=
    ⟨⟨by decide, by decide, fun _ => ⟨by decide, by decide, trivial⟩, trivial⟩, ⟨rfl, trivial⟩, trivial⟩
  have written : serialize (bodilessMetadata.writeCarbon Conversions.none) = .ok bodilessImage :=
    toOption_eq_some.mp (by decide +kernel)
  have refused : (deserialize UpdateTokenMetadataArgs.readCarbon bodilessImage).isOk = false := by
    decide +kernel
  refine ⟨by decide, publishable, bodiless_holds, by rfl, written, ?_⟩
  rintro ⟨value, read⟩
  rw [read] at refused
  cases refused

end PhantasmaPy.Carbon
