import PhantasmaPy.Carbon.Dynamic

/-! # Market module

The listing and the configuration of the market, and the arguments of its methods, each with its writer
and its reader.
-/

namespace PhantasmaPy.Carbon

open Wire CarbonWriter CarbonReader

inductive ListingType where
  | FIXED_PRICE
  deriving DecidableEq

namespace ListingType

/-- The value of the enumeration member. -/
def toByte : ListingType → UInt8
  | FIXED_PRICE => 0

/-- The call `ListingType(value)`. -/
def ofByte : UInt8 → Except PyError ListingType
  | 0 => .ok FIXED_PRICE
  | _ => .error .valueError

def writeByte (self : ListingType) : CarbonWriter Unit := write1 self.toByte.toNat

def readByte : CarbonReader ListingType := do
  let byte ← read1
  Get.check (ofByte byte)

end ListingType

structure TokenListing where
  type : ListingType := .FIXED_PRICE
  seller : Bytes32 := EMPTY_BYTES32
  quoteTokenId : Int := 0
  price : IntX := ⟨0⟩
  startDate : Int := 0
  endDate : Int := 0
  deriving DecidableEq

namespace TokenListing

def writeCarbon (self : TokenListing) : CarbonWriter Unit := do
  self.type.writeByte
  write32 self.seller
  write8u self.quoteTokenId
  self.price.writeCarbon
  write8 self.startDate
  write8 self.endDate

def readCarbon : CarbonReader TokenListing := do
  let type ← ListingType.readByte
  let seller ← read32
  let quoteTokenId ← read8u
  let price ← IntX.readCarbon
  let startDate ← read8
  let endDate ← read8
  return { type, seller, quoteTokenId, price, startDate, endDate }

end TokenListing

def MARKET_MINIMUM_LISTING_TIME_MS : Int := 1000

def MARKET_MAXIMUM_LISTING_TIME_MS : Int := 1000 * 60 * 60 * 24 * 90

def MARKET_DELISTING_GRACE_MS : Int := 1000 * 60 * 60 * 24

/-- The default flags are `PRICE_REQUIRED | ENFORCE_ROYALTIES`. -/
structure MarketConfig where
  minimumListingTime : Int := MARKET_MINIMUM_LISTING_TIME_MS
  maximumListingTime : Int := MARKET_MAXIMUM_LISTING_TIME_MS
  delistingGrace : Int := MARKET_DELISTING_GRACE_MS
  flags : Int := 3
  deriving DecidableEq

namespace MarketConfig

def writeCarbon (self : MarketConfig) : CarbonWriter Unit := do
  write8u self.minimumListingTime
  write8u self.maximumListingTime
  write8u self.delistingGrace
  write4u self.flags

def readCarbon : CarbonReader MarketConfig := do
  let minimumListingTime ← read8u
  let maximumListingTime ← read8u
  let delistingGrace ← read8u
  let flags ← read4u
  return { minimumListingTime, maximumListingTime, delistingGrace, flags }

end MarketConfig

/-! ## Arguments -/

/-- The default of the instance ids that are given as dynamic values. -/
def defaultInstanceId : VMDynamicVariable := ⟨.INT64, .int 0⟩

structure MarketSellTokenArgs where
  fromAddress : Bytes32 := EMPTY_BYTES32
  tokenId : Int := 0
  instanceId : Int := 0
  quoteTokenId : Int := 0
  price : IntX := ⟨0⟩
  endDate : Int := 0
  deriving DecidableEq

namespace MarketSellTokenArgs

def writeCarbon (self : MarketSellTokenArgs) : CarbonWriter Unit := do
  write32 self.fromAddress
  write8u self.tokenId
  write8u self.instanceId
  write8u self.quoteTokenId
  self.price.writeCarbon
  write8 self.endDate

def readCarbon : CarbonReader MarketSellTokenArgs := do
  let fromAddress ← read32
  let tokenId ← read8u
  let instanceId ← read8u
  let quoteTokenId ← read8u
  let price ← IntX.readCarbon
  let endDate ← read8
  return { fromAddress, tokenId, instanceId, quoteTokenId, price, endDate }

end MarketSellTokenArgs

structure MarketSellTokenByIDArgs where
  fromAddress : Bytes32 := EMPTY_BYTES32
  symbol : SmallString := SmallString.empty
  instanceId : VMDynamicVariable := defaultInstanceId
  quoteSymbol : SmallString := SmallString.empty
  price : IntX := ⟨0⟩
  endDate : Int := 0

namespace MarketSellTokenByIDArgs

def writeCarbon (conv : Conversions) (self : MarketSellTokenByIDArgs) : CarbonWriter Unit := do
  write32 self.fromAddress
  self.symbol.writeCarbon
  self.instanceId.writeCarbon conv
  self.quoteSymbol.writeCarbon
  self.price.writeCarbon
  write8 self.endDate

def readCarbon : CarbonReader MarketSellTokenByIDArgs := do
  let fromAddress ← read32
  let symbol ← SmallString.readCarbon
  let instanceId ← VMDynamicVariable.readCarbon
  let quoteSymbol ← SmallString.readCarbon
  let price ← IntX.readCarbon
  let endDate ← read8
  return { fromAddress, symbol, instanceId, quoteSymbol, price, endDate }

end MarketSellTokenByIDArgs

structure MarketCancelSaleArgs where
  tokenId : Int := 0
  instanceId : Int := 0
  deriving DecidableEq

namespace MarketCancelSaleArgs

def writeCarbon (self : MarketCancelSaleArgs) : CarbonWriter Unit := do
  write8u self.tokenId
  write8u self.instanceId

def readCarbon : CarbonReader MarketCancelSaleArgs := do
  let tokenId ← read8u
  let instanceId ← read8u
  return { tokenId, instanceId }

end MarketCancelSaleArgs

structure MarketCancelSaleByIDArgs where
  symbol : SmallString := SmallString.empty
  instanceId : VMDynamicVariable := defaultInstanceId

namespace MarketCancelSaleByIDArgs

def writeCarbon (conv : Conversions) (self : MarketCancelSaleByIDArgs) : CarbonWriter Unit := do
  self.symbol.writeCarbon
  self.instanceId.writeCarbon conv

def readCarbon : CarbonReader MarketCancelSaleByIDArgs := do
  let symbol ← SmallString.readCarbon
  let instanceId ← VMDynamicVariable.readCarbon
  return { symbol, instanceId }

end MarketCancelSaleByIDArgs

structure MarketBuyTokenArgs where
  fromAddress : Bytes32 := EMPTY_BYTES32
  tokenId : Int := 0
  instanceId : Int := 0
  deriving DecidableEq

namespace MarketBuyTokenArgs

def writeCarbon (self : MarketBuyTokenArgs) : CarbonWriter Unit := do
  write32 self.fromAddress
  write8u self.tokenId
  write8u self.instanceId

def readCarbon : CarbonReader MarketBuyTokenArgs := do
  let fromAddress ← read32
  let tokenId ← read8u
  let instanceId ← read8u
  return { fromAddress, tokenId, instanceId }

end MarketBuyTokenArgs

structure MarketBuyTokenByIDArgs where
  fromAddress : Bytes32 := EMPTY_BYTES32
  symbol : SmallString := SmallString.empty
  instanceId : VMDynamicVariable := defaultInstanceId

namespace MarketBuyTokenByIDArgs

def writeCarbon (conv : Conversions) (self : MarketBuyTokenByIDArgs) : CarbonWriter Unit := do
  write32 self.fromAddress
  self.symbol.writeCarbon
  self.instanceId.writeCarbon conv

def readCarbon : CarbonReader MarketBuyTokenByIDArgs := do
  let fromAddress ← read32
  let symbol ← SmallString.readCarbon
  let instanceId ← VMDynamicVariable.readCarbon
  return { fromAddress, symbol, instanceId }

end MarketBuyTokenByIDArgs

structure MarketGetTokenListingCountArgs where
  tokenId : Int := 0
  deriving DecidableEq

namespace MarketGetTokenListingCountArgs

def writeCarbon (self : MarketGetTokenListingCountArgs) : CarbonWriter Unit := do
  write8u self.tokenId

def readCarbon : CarbonReader MarketGetTokenListingCountArgs := do
  let tokenId ← read8u
  return { tokenId }

end MarketGetTokenListingCountArgs

structure MarketGetTokenListingInfoArgs where
  tokenId : Int := 0
  instanceId : Int := 0
  deriving DecidableEq

namespace MarketGetTokenListingInfoArgs

def writeCarbon (self : MarketGetTokenListingInfoArgs) : CarbonWriter Unit := do
  write8u self.tokenId
  write8u self.instanceId

def readCarbon : CarbonReader MarketGetTokenListingInfoArgs := do
  let tokenId ← read8u
  let instanceId ← read8u
  return { tokenId, instanceId }

end MarketGetTokenListingInfoArgs

structure MarketGetTokenListingInfoByIDArgs where
  symbol : SmallString := SmallString.empty
  instanceId : VMDynamicVariable := defaultInstanceId

namespace MarketGetTokenListingInfoByIDArgs

def writeCarbon (conv : Conversions) (self : MarketGetTokenListingInfoByIDArgs) : CarbonWriter Unit := do
  self.symbol.writeCarbon
  self.instanceId.writeCarbon conv

def readCarbon : CarbonReader MarketGetTokenListingInfoByIDArgs := do
  let symbol ← SmallString.readCarbon
  let instanceId ← VMDynamicVariable.readCarbon
  return { symbol, instanceId }

end MarketGetTokenListingInfoByIDArgs

end PhantasmaPy.Carbon
