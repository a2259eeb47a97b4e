import PhantasmaPy.Rpc.Results

/-! # Queries

The methods of `PhantasmaRPC` that ask the node for something.  Each of them is one call and one decoder.
-/

namespace PhantasmaPy

open Wire

/-- What a method makes of the result of its call. -/
inductive Returns where
  | object (cls : ResultClass)
  | list (cls : ResultClass)
  | page (cls : ResultClass)
  | listPage (cls : ResultClass)
  | cursor (cls : ResultClass)
  | int
  | bool
  | str

/-- What a method returns. -/
inductive Answer where
  | value (value : ResultValue)
  | page (page : PaginatedResult)
  | cursor (page : CursorPaginatedResult)
  | int (number : Int)
  | bool (value : Bool)
  | str (text : Str)

def Returns.decode (rt : RpcRuntime) (result : Json) : Returns → Except CallError Answer
  | object cls => (decodeDataclass cls result).map .value
  | list cls => (decodeList cls result).map .value
  | page cls => (decodePaginated rt cls result).map .page
  | listPage cls => (decodePaginatedList rt cls result).map .page
  | cursor cls => (decodeCursor rt cls result).map .cursor
  | int => ((rt.coerceInt result).mapError CallError.ofPyError).map .int
  | bool => ((rt.coerceBool result).mapError CallError.ofPyError).map .bool
  | str => .ok (.str (result.toStr rt.interp.repr))

/-- The call of a method with its arguments, and what the method returns. -/
structure Query where
  method : Str
  params : List Json
  returns : Returns

/-- A text, or `None`. -/
def Json.ofText : Option Str → Json
  | some text => .str text
  | none => .null

/-- A truth value, or `None`. -/
def Json.ofFlag : Option Bool → Json
  | some value => .bool value
  | none => .null

/-- `Sequence[str] | str` -/
inductive TextInput where
  | one (text : Str)
  | many (texts : List Str)

/-- `texts if isinstance(texts, str) else ",".join(texts)` -/
def TextInput.joined : TextInput → Str
  | one text => text
  | many texts => List.intercalate (Str.ofString ",") texts

/-! ## Methods -/

namespace Query

open Returns

def getPlatforms : Query := ⟨Str.ofString "getPlatforms", [], list .PlatformResult⟩

section Accounts

variable (checkAddressReservedByte : Option Bool) (addressType : Option Str)

def getAccountInfo (address : Str) : Query :=
  ⟨Str.ofString "getAccountInfo",
    optionalParams [.str address, .ofFlag checkAddressReservedByte, .ofText addressType], object .AccountInfoResult⟩

/-- One text would be taken for a sequence of addresses of one character, and is refused. -/
def getAccountInfos : TextInput → Except PyError Query
  | .one _ => .error .typeError
  | .many addresses => .ok ⟨Str.ofString "getAccountInfos",
    optionalParams [.arr (addresses.map .str), .ofFlag checkAddressReservedByte, .ofText addressType],
    list .AccountInfoResult⟩

def getAccount (address : Str) (extended : Bool) : Query :=
  ⟨Str.ofString "getAccount",
    optionalParams [.str address, .bool extended, .ofFlag checkAddressReservedByte, .ofText addressType],
    object .AccountResult⟩

def getAccounts (addresses : TextInput) (extended : Bool) : Query :=
  ⟨Str.ofString "getAccounts",
    optionalParams [.str addresses.joined, .bool extended, .ofFlag checkAddressReservedByte, .ofText addressType],
    list .AccountResult⟩

def getTokenBalance (address symbol chain : Str) : Query :=
  ⟨Str.ofString "getTokenBalance",
    optionalParams [.str address, .str symbol, .str chain, .ofFlag checkAddressReservedByte, .ofText addressType],
    object .BalanceResult⟩

end Accounts

def lookupName (name : Str) : Query := ⟨Str.ofString "lookUpName", [.str name], str⟩

def getAddressTransactions (address : Str) (page pageSize : Int) : Query :=
  ⟨Str.ofString "getAddressTransactions", [.str address, .int page, .int pageSize], .page .AddressTransactionsResult⟩

def getAddressTransactionCount (address chain : Str) : Query :=
  ⟨Str.ofString "getAddressTransactionCount", [.str address, .str chain], int⟩

/-- The height is a number or a text. -/
def getBlockByHeight (chain : Str) (height : Json) : Query :=
  ⟨Str.ofString "getBlockByHeight", [.str chain, height], object .BlockResult⟩

def getBlockHeight (chain : Str) : Query := ⟨Str.ofString "getBlockHeight", [.str chain], int⟩

def getBlockTransactionCountByHash (blockHash chain : Str) : Query :=
  ⟨Str.ofString "getBlockTransactionCountByHash", [.str chain, .str blockHash], int⟩

def getBlockByHash (blockHash : Str) : Query :=
  ⟨Str.ofString "getBlockByHash", [.str blockHash], object .BlockResult⟩

def getLatestBlock (chain : Str) : Query := ⟨Str.ofString "getLatestBlock", [.str chain], object .BlockResult⟩

def getTransactionByBlockHashAndIndex (blockHash : Str) (index : Int) (chain : Str) : Query :=
  ⟨Str.ofString "getTransactionByBlockHashAndIndex", [.str chain, .str blockHash, .int index],
    object .TransactionResult⟩

def getTransaction (txHash : Str) : Query :=
  ⟨Str.ofString "getTransaction", [.str txHash], object .TransactionResult⟩

def getChains (extended : Bool) : Query := ⟨Str.ofString "getChains", [.bool extended], list .ChainResult⟩

def getChain (name : Str) (extended : Bool) : Query :=
  ⟨Str.ofString "getChain", [.str name, .bool extended], object .ChainResult⟩

def getGasConfig : Query := ⟨Str.ofString "getGasConfig", [], object .GasConfigResult⟩

def estimateTransaction (txData : Str) : Query :=
  ⟨Str.ofString "estimateTransaction", [.str txData], object .EstimateTransactionResult⟩

def getNexus (extended : Bool) : Query := ⟨Str.ofString "getNexus", [.bool extended], object .NexusResult⟩

def getContract (contractName chain : Str) : Query :=
  ⟨Str.ofString "getContract", [.str chain, .str contractName], object .ContractResult⟩

def getContractByAddress (chain contractAddress : Str) : Query :=
  ⟨Str.ofString "getContractByAddress", [.str chain, .str contractAddress], object .ContractResult⟩

def getContracts (chain : Str) (extended : Bool) : Query :=
  ⟨Str.ofString "getContracts", [.str chain, .bool extended], list .ContractResult⟩

def getOrganization (name : Str) (includeMemberCount : Bool) : Query :=
  ⟨Str.ofString "getOrganization", [.str name, .bool includeMemberCount], object .OrganizationResult⟩

def getOrganizations (pageSize : Int) (cursor : Str) (includeMemberCount : Bool) : Query :=
  ⟨Str.ofString "getOrganizations", [.int pageSize, .str cursor, .bool includeMemberCount],
    .cursor .OrganizationResult⟩

def getOrganizationMembers (name : Str) (pageSize : Int) (cursor : Str) (includeMemberTime : Bool) : Query :=
  ⟨Str.ofString "getOrganizationMembers", [.str name, .int pageSize, .str cursor, .bool includeMemberTime],
    .cursor .OrganizationMemberResult⟩

def getOrganizationMember (name address : Str) (checkAddressReservedByte : Bool) (addressType : Str) : Query :=
  ⟨Str.ofString "getOrganizationMember",
    [.str name, .str address, .bool checkAddressReservedByte, .str addressType], object .OrganizationMemberResult⟩

def getLeaderboard (name : Str) : Query := ⟨Str.ofString "getLeaderboard", [.str name], object .LeaderboardResult⟩

def getToken (symbol : Str) (extended : Bool) (carbonTokenId : Int) : Query :=
  ⟨Str.ofString "getToken", [.str symbol, .bool extended, .int carbonTokenId], object .TokenResult⟩

def getTokens (extended : Bool) (ownerAddress addressType : Option Str) : Query :=
  ⟨Str.ofString "getTokens", optionalParams [.bool extended, .ofText ownerAddress, .ofText addressType],
    list .TokenResult⟩

def getTokenData (symbol nftId : Str) : Query :=
  ⟨Str.ofString "getTokenData", [.str symbol, .str nftId], object .TokenDataResult⟩

def getTokenSeries (symbol : Str) (carbonTokenId pageSize : Int) (cursor : Str) : Query :=
  ⟨Str.ofString "getTokenSeries", [.str symbol, .int carbonTokenId, .int pageSize, .str cursor],
    .cursor .TokenSeriesResult⟩

def getTokenSeriesById (symbol : Str) (carbonTokenId : Int) (seriesId : Str) (carbonSeriesId : Int) : Query :=
  ⟨Str.ofString "getTokenSeriesById", [.str symbol, .int carbonTokenId, .str seriesId, .int carbonSeriesId],
    object .TokenSeriesResult⟩

def getTokenNfts (carbonTokenId carbonSeriesId : Int) (seriesId : Str) (pageSize : Int) (cursor : Str)
    (extended : Bool) : Query :=
  ⟨Str.ofString "getTokenNFTs",
    [.int carbonTokenId, .int carbonSeriesId, .int pageSize, .str cursor, .bool extended, .str seriesId],
    .cursor .TokenDataResult⟩

section Owned

variable (account tokenSymbol : Str) (carbonTokenId : Int) (pageSize : Int) (cursor : Str)
  (checkAddressReservedByte : Bool) (addressType : Option Str)

/-- The common arguments of three of the methods. -/
def ownedParams : List Json :=
  optionalParams [.str account, .str tokenSymbol, .int carbonTokenId, .int pageSize, .str cursor,
    .bool checkAddressReservedByte, .ofText addressType]

def getAccountFungibleTokens : Query :=
  ⟨Str.ofString "getAccountFungibleTokens",
    ownedParams account tokenSymbol carbonTokenId pageSize cursor checkAddressReservedByte addressType,
    .cursor .BalanceResult⟩

def getAccountNfts (carbonSeriesId : Int) (extended : Bool) : Query :=
  ⟨Str.ofString "getAccountNFTs",
    optionalParams [.str account, .str tokenSymbol, .int carbonTokenId, .int carbonSeriesId, .int pageSize,
      .str cursor, .bool extended, .bool checkAddressReservedByte, .ofText addressType],
    .cursor .TokenDataResult⟩

def getAccountOwnedTokens : Query :=
  ⟨Str.ofString "getAccountOwnedTokens",
    ownedParams account tokenSymbol carbonTokenId pageSize cursor checkAddressReservedByte addressType,
    .cursor .TokenResult⟩

def getAccountOwnedTokenSeries : Query :=
  ⟨Str.ofString "getAccountOwnedTokenSeries",
    ownedParams account tokenSymbol carbonTokenId pageSize cursor checkAddressReservedByte addressType,
    .cursor .TokenSeriesResult⟩

end Owned

def getAuctionsCount (chain symbol : Str) : Query :=
  ⟨Str.ofString "getAuctionsCount", [.str chain, .str symbol], int⟩

def getAuctions (chain symbol : Str) (page pageSize : Int) : Query :=
  ⟨Str.ofString "getAuctions", [.str chain, .str symbol, .int page, .int pageSize], listPage .AuctionResult⟩

def getAuction (chain symbol tokenId : Str) : Query :=
  ⟨Str.ofString "getAuction", [.str chain, .str symbol, .str tokenId], object .AuctionResult⟩

def getNft (symbol nftId : Str) (extended : Bool) : Query :=
  ⟨Str.ofString "getNFT", [.str symbol, .str nftId, .bool extended], object .TokenDataResult⟩

def getNfts (symbol : Str) (nftIds : TextInput) (extended : Bool) : Query :=
  ⟨Str.ofString "getNFTs", [.str symbol, .str nftIds.joined, .bool extended], list .TokenDataResult⟩

def getArchive (archiveHash : Str) : Query :=
  ⟨Str.ofString "getArchive", [.str archiveHash], object .ArchiveResult⟩

/-- The content is bytes, for which `base64` gives the text, or the text. -/
def writeArchive (base64 : Bytes → Str) (archiveHash : Str) (blockIndex : Int) (blockContent : Chunk) : Query :=
  let content :=
    match blockContent with
    | .bytes raw => base64 raw
    | .str text => text
  ⟨Str.ofString "writeArchive", [.str archiveHash, .int blockIndex, .str content], bool⟩

def readArchive (archiveHash : Str) (blockIndex : Int) : Query :=
  ⟨Str.ofString "readArchive", [.str archiveHash, .int blockIndex], str⟩

def invokeRawScript (chain scriptHex : Str) : Query :=
  ⟨Str.ofString "invokeRawScript", [.str chain, .str scriptHex], object .ScriptResult⟩

def getPhantasmaVmConfig (chain : Str) : Query :=
  ⟨Str.ofString "getPhantasmaVmConfig", [.str chain], object .PhantasmaVMConfigResult⟩

end Query

end PhantasmaPy
