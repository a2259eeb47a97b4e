import PhantasmaPy.Events.WireShapes

/-! # Arguments of special resolutions

The shapes of `special_resolution_arguments.py`, the table that chooses among them by module and method, and
the decoder.
-/

namespace PhantasmaPy.Events

open Wire

/-! ## Declarations -/

/-- The declaration `name: hint = default`. -/
def field (name : String) (hint : Hint) (default : Value) : Field Hint :=
  { name := Str.ofString name, hint, default := some default }

/-- `name: str = ""` -/
def text (name : String) : Field Hint := field name .str (.str [])

/-- `name: … | None = None` -/
def omittable (name : String) (item : Hint) : Field Hint := field name (.optional item) .none

/-- `name: list[…] = field(default_factory=list)` -/
def listOf (name : String) (item : Hint) : Field Hint := field name (.list item) (.list [])

/-- `name: dict[str, …] = field(default_factory=dict)` -/
def dictOf (name : String) (item : Hint) : Field Hint := field name (.dict item) (.dict [])

/-- `from_: str = field(default="", metadata={"wire": "from"})` -/
def from_ : Field Hint := { text "from_" with wire := some (Str.ofString "from") }

/-- The declaration `class name`; an inherited field stands before the class's own. -/
def dataclass (name : String) (fields : List (Field Hint)) : Shape := ⟨Str.ofString name, fields⟩

/-! ## Fallback shapes -/

def RawArguments : Shape := dataclass "RawArguments"
  [text "raw_args"]

/-! ## Governance module -/

def GasConfigArguments : Shape := dataclass "GasConfigArguments"
  [text "version", text "max_name_length", text "max_token_symbol_length", text "fee_shift",
    text "max_structure_size", text "fee_multiplier", text "gas_token_id", text "data_token_id",
    text "minimum_gas_offer", text "data_escrow_per_row", text "gas_fee_transfer",
    text "gas_fee_query", text "gas_fee_create_token_base", text "gas_fee_create_token_symbol",
    text "gas_fee_create_token_series", text "gas_fee_per_byte", text "gas_fee_register_name",
    text "gas_burn_ratio_mul", text "gas_burn_ratio_shift", omittable "minimum_gas_bill" .str,
    omittable "gas_producer_ratio_mul" .str, omittable "gas_producer_ratio_shift" .str,
    omittable "gas_dapp_ratio_mul" .str, omittable "gas_dapp_ratio_shift" .str,
    omittable "policy_fee_create_token_base" .str, omittable "policy_fee_create_token_symbol" .str,
    omittable "policy_fee_create_token_series" .str, omittable "policy_fee_register_name" .str,
    omittable "legacy_data_escrow_per_row" .str]

def ChainConfigArguments : Shape := dataclass "ChainConfigArguments"
  [text "version", text "reserved1", text "reserved2", text "reserved3", text "allowed_tx_types",
    text "expiry_window", text "block_rate_target"]

def NestedResolutionArguments : Shape := dataclass "NestedResolutionArguments"
  [text "resolution_id"]

def MetadataArguments : Shape := dataclass "MetadataArguments"
  [dictOf "metadata" .vmValue]

def ConsensusNode : Shape := dataclass "ConsensusNode"
  [text "id", text "type"]

def NodeConfigArguments : Shape := dataclass "NodeConfigArguments"
  [listOf "nodes" (.dataclass ConsensusNode)]

def RegisterNameArguments : Shape := dataclass "RegisterNameArguments"
  [text "address", text "name"]

def AddressArguments : Shape := dataclass "AddressArguments"
  [text "address"]

def NameArguments : Shape := dataclass "NameArguments"
  [text "name"]

/-! ## VM module -/

def ExecuteScriptArguments : Shape := dataclass "ExecuteScriptArguments"
  [text "max_gas", text "gas_from", text "script"]

def RegisterTokenContractArguments : Shape := dataclass "RegisterTokenContractArguments"
  [text "token_id", text "symbol", text "script", text "abi", omittable "token" .str]

def DeployContractArguments : Shape := dataclass "DeployContractArguments"
  [from_, text "contract_name", text "script", text "abi"]

def PhantasmaVmConfigArguments : Shape := dataclass "PhantasmaVmConfigArguments"
  [text "feature_level", text "gas_constructor", text "gas_nexus", text "gas_organization",
    text "gas_account", text "gas_leaderboard", text "gas_standard", text "gas_oracle",
    text "fuel_per_contract_deploy"]

def ContractStorageRow : Shape := dataclass "ContractStorageRow"
  [text "key", text "value"]

def ContractStorageTable : Shape := dataclass "ContractStorageTable"
  [text "name", listOf "rows" (.dataclass ContractStorageRow)]

def ImportedContract : Shape := dataclass "ImportedContract"
  [text "name", text "address", text "owner", text "script", text "abi",
    listOf "root_variables" (.dataclass ContractStorageRow),
    listOf "tables" (.dataclass ContractStorageTable)]

def ImportContractsArguments : Shape := dataclass "ImportContractsArguments"
  [field "contracts_count" .str (.str (Str.ofString "0")),
    listOf "contracts" (.dataclass ImportedContract)]

def SeriesSupplement : Shape := dataclass "SeriesSupplement"
  [text "token", text "token_id", text "phantasma_series_id", text "max_supply", text "mint_count",
    text "mode", text "script", text "abi", text "rom"]

def SeriesMintCountRepair : Shape := dataclass "SeriesMintCountRepair"
  [text "token", text "token_id", text "phantasma_series_id", text "imported_live_count",
    text "script", text "abi"]

def RepairSeriesArguments : Shape := dataclass "RepairSeriesArguments"
  [field "supplements_count" .str (.str (Str.ofString "0")),
    listOf "supplements" (.dataclass SeriesSupplement),
    field "repairs_count" .str (.str (Str.ofString "0")),
    listOf "repairs" (.dataclass SeriesMintCountRepair)]

def TokenRepair : Shape := dataclass "TokenRepair"
  [text "token", text "token_id", text "symbol", text "script", text "abi", text "token_flags",
    text "repair_mask"]

def RepairTokenArguments : Shape := dataclass "RepairTokenArguments"
  [field "repairs_count" .str (.str (Str.ofString "0")), listOf "repairs" (.dataclass TokenRepair)]

/-! ## Token module -/

def TokenReferenceArguments : Shape := dataclass "TokenReferenceArguments"
  [text "token", text "token_id"]

def TokenSeriesReferenceArguments : Shape := dataclass "TokenSeriesReferenceArguments" <| TokenReferenceArguments.fields ++
  [text "series_id"]

def SymbolArguments : Shape := dataclass "SymbolArguments"
  [text "symbol"]

def TransferFungibleArguments : Shape := dataclass "TransferFungibleArguments" <| TokenReferenceArguments.fields ++
  [from_, text "to", text "amount"]

def TransferNonFungibleArguments : Shape := dataclass "TransferNonFungibleArguments" <| TokenReferenceArguments.fields ++
  [from_, text "to", listOf "instance_ids" .str]

def MintFungibleArguments : Shape := dataclass "MintFungibleArguments" <| TokenReferenceArguments.fields ++
  [text "to", text "amount"]

def BurnFungibleArguments : Shape := dataclass "BurnFungibleArguments" <| TokenReferenceArguments.fields ++
  [from_, text "amount"]

def BalanceArguments : Shape := dataclass "BalanceArguments" <| TokenReferenceArguments.fields ++
  [text "address"]

def CreateTokenArguments : Shape := dataclass "CreateTokenArguments"
  [text "symbol", text "owner", text "max_supply", text "decimals", text "flags",
    omittable "metadata" (.dict .vmValue), omittable "token_schemas" .str]

def TokenSeriesArguments : Shape := dataclass "TokenSeriesArguments" <| TokenReferenceArguments.fields ++
  [text "owner", text "max_mint", text "max_supply", omittable "metadata" (.dict .vmValue),
    omittable "series_id" .str, omittable "metadata_raw" .str]

def CreateMintedTokenSeriesArguments : Shape := dataclass "CreateMintedTokenSeriesArguments" <| TokenSeriesArguments.fields ++
  [text "recipient", listOf "roms" .str, listOf "rams" .str]

def NftMint : Shape := dataclass "NftMint"
  [text "series_id", text "rom", text "ram"]

def PhantasmaNftMint : Shape := dataclass "PhantasmaNftMint"
  [text "phantasma_series_id", text "rom", text "ram"]

def MintNonFungibleArguments : Shape := dataclass "MintNonFungibleArguments" <| TokenReferenceArguments.fields ++
  [text "owner", listOf "tokens" (.dataclass NftMint)]

def MintPhantasmaNonFungibleArguments : Shape := dataclass "MintPhantasmaNonFungibleArguments" <| TokenReferenceArguments.fields ++
  [text "owner", listOf "tokens" (.dataclass PhantasmaNftMint)]

def BurnNonFungibleArguments : Shape := dataclass "BurnNonFungibleArguments" <| TokenReferenceArguments.fields ++
  [text "address", listOf "instance_ids" .str]

def NonFungibleInfoArguments : Shape := dataclass "NonFungibleInfoArguments" <| TokenReferenceArguments.fields ++
  [text "instance_id", text "get_schemas"]

def NonFungibleInfoByRomIdArguments : Shape := dataclass "NonFungibleInfoByRomIdArguments" <| TokenReferenceArguments.fields ++
  [text "rom_id", text "get_schemas"]

def SeriesInfoByMetaIdArguments : Shape := dataclass "SeriesInfoByMetaIdArguments" <| TokenReferenceArguments.fields ++
  [text "rom_id"]

def TokensConfigArguments : Shape := dataclass "TokensConfigArguments"
  [text "flags", listOf "flags_names" .str]

def UpdateTokenMetadataArguments : Shape := dataclass "UpdateTokenMetadataArguments" <| TokenReferenceArguments.fields ++
  [omittable "metadata" (.dict .vmValue)]

def UpdateSeriesMetadataArguments : Shape := dataclass "UpdateSeriesMetadataArguments" <| TokenReferenceArguments.fields ++
  [text "series_id", text "metadata"]

/-! ## Dispatch -/

/-- The shape of a call's arguments by its module and method. -/
def ARGUMENT_SHAPES : List (Str × List (Str × Shape)) :=
  [(Str.ofString "governance", [
    (Str.ofString "SetGasConfig", GasConfigArguments),
    (Str.ofString "SetChainConfig", ChainConfigArguments),
    (Str.ofString "SpecialResolution", NestedResolutionArguments),
    (Str.ofString "SetMetadata", MetadataArguments),
    (Str.ofString "SetNodeConfig", NodeConfigArguments),
    (Str.ofString "RegisterName", RegisterNameArguments),
    (Str.ofString "LookupName", AddressArguments),
    (Str.ofString "LookupAddress", NameArguments)]),
  (Str.ofString "phantasma_vm", [
    (Str.ofString "ExecuteScript", ExecuteScriptArguments),
    (Str.ofString "RegisterTokenContract", RegisterTokenContractArguments),
    (Str.ofString "DeployContract", DeployContractArguments),
    (Str.ofString "IsContractDeployed", NameArguments),
    (Str.ofString "SetConfig", PhantasmaVmConfigArguments),
    (Str.ofString "ImportContracts", ImportContractsArguments),
    (Str.ofString "RepairSeries", RepairSeriesArguments),
    (Str.ofString "RepairToken", RepairTokenArguments)]),
  (Str.ofString "token", [
    (Str.ofString "TransferFungible", TransferFungibleArguments),
    (Str.ofString "TransferNonFungible", TransferNonFungibleArguments),
    (Str.ofString "CreateToken", CreateTokenArguments),
    (Str.ofString "MintFungible", MintFungibleArguments),
    (Str.ofString "BurnFungible", BurnFungibleArguments),
    (Str.ofString "GetBalance", BalanceArguments),
    (Str.ofString "CreateTokenSeries", TokenSeriesArguments),
    (Str.ofString "DeleteTokenSeries", TokenSeriesReferenceArguments),
    (Str.ofString "MintNonFungible", MintNonFungibleArguments),
    (Str.ofString "BurnNonFungible", BurnNonFungibleArguments),
    (Str.ofString "GetNonFungibleInfo", NonFungibleInfoArguments),
    (Str.ofString "GetNonFungibleInfoByRomId", NonFungibleInfoByRomIdArguments),
    (Str.ofString "GetSeriesInfo", TokenSeriesReferenceArguments),
    (Str.ofString "GetSeriesInfoByMetaId", SeriesInfoByMetaIdArguments),
    (Str.ofString "GetTokenInfo", TokenReferenceArguments),
    (Str.ofString "GetTokenInfoBySymbol", SymbolArguments),
    (Str.ofString "GetTokenSupply", TokenReferenceArguments),
    (Str.ofString "GetSeriesSupply", TokenSeriesReferenceArguments),
    (Str.ofString "GetTokenIdBySymbol", SymbolArguments),
    (Str.ofString "GetBalances", AddressArguments),
    (Str.ofString "CreateMintedTokenSeries", CreateMintedTokenSeriesArguments),
    (Str.ofString "ApplyInflation", TokenReferenceArguments),
    (Str.ofString "UpdateTokenMetadata", UpdateTokenMetadataArguments),
    (Str.ofString "GetNextTokenInflation", TokenReferenceArguments),
    (Str.ofString "SetTokensConfig", TokensConfigArguments),
    (Str.ofString "UpdateSeriesMetadata", UpdateSeriesMetadataArguments),
    (Str.ofString "MintPhantasmaNonFungible", MintPhantasmaNonFungibleArguments)])]

/-- The shape for a module and method, if there is one: `ARGUMENT_SHAPES.get(module, {}).get(method)`. -/
def argumentShape (module method : Str) : Option Shape :=
  ((ARGUMENT_SHAPES.lookup module).getD []).lookup method

/-- The arguments as a modelled shape, or as they were answered. -/
inductive SpecialResolutionArguments where
  | shape (value : Value)
  | unrecognized (data : Json)

/-- The `rawArgs` key is looked for before the module and method are. -/
def decodeSpecialResolutionArguments (module method : Str) (raw : Json) :
    Except PyError (Option SpecialResolutionArguments) :=
  match raw with
  | .null => return none
  | .obj entries =>
    if (entries.lookup (Str.ofString "rawArgs")).isSome then do
      match ← tryShape RawArguments raw with
      | some value => return some (.shape value)
      | none => return some (.unrecognized raw)
    else
      match argumentShape module method with
      | none => return some (.unrecognized raw)
      | some shape => do
        match ← tryShape shape raw with
        | some value => return some (.shape value)
        | none => return some (.unrecognized raw)
  | raw => return some (.unrecognized raw)

/-- `shape_to_wire` on arguments, which writes preserved data through its own `to_wire`. -/
def SpecialResolutionArguments.toWire : SpecialResolutionArguments → Json
  | shape value => shapeToWire value
  | unrecognized data => data

end PhantasmaPy.Events
