import PhantasmaPy.Events.ExtendedEvents
import PhantasmaPy.Rpc.Client

/-! # Results

The result dataclasses of `rpc.py` and the decoder that builds them.  A dataclass is data here: its fields with
what the decoder looks at in their hints, and their defaults.
-/

namespace PhantasmaPy

open Wire

/-! ## Classes -/

/-- The dataclasses that are decoded field by field; the generic pages have decoders of their own. -/
inductive ResultClass where
  | BalanceResult
  | InteropResult
  | PlatformResult
  | GovernanceResult
  | OrganizationResult
  | OrganizationMemberResult
  | CrowdsaleResult
  | StakeResult
  | StorageResult
  | AccountInfoResult
  | AccountResult
  | AddressTransactionsResult
  | LeaderboardRowResult
  | LeaderboardResult
  | DappResult
  | ChainResult
  | GasConfigDataResult
  | GasConfigResult
  | EstimateTransactionResult
  | NexusResult
  | EventResult
  | OracleResult
  | SignatureResult
  | TransactionResult
  | BlockResult
  | TokenPropertyResult
  | TokenExternalResult
  | TokenPriceResult
  | VMVariableSchemaResult
  | VMNamedVariableSchemaResult
  | VMStructSchemaResult
  | TokenSchemasResult
  | TokenSeriesResult
  | TokenResult
  | TokenDataResult
  | ScriptResult
  | ArchiveResult
  | ABIParameterResult
  | ABIMethodResult
  | ABIEventResult
  | ContractResult
  | AuctionResult
  | ChannelResult
  | ReceiptResult
  | PeerResult
  | ValidatorResult
  | SwapResult
  | BuildInfoResult
  | PhantasmaVMConfigResult

/-- What a hint says of one value: it stays as it is, it decodes itself, or it is an instance of a dataclass. -/
inductive ItemType where
  | plain
  | vmValue
  | event
  | object (cls : ResultClass)

/-- A hint: `item`, `list[item]`, or one of them with `None`. -/
structure ResultType where
  item : ItemType
  isList : Bool := false
  isOptional : Bool := false

/-- A decoded value.  Of an instance there are the attributes under their names. -/
inductive ResultValue where
  | plain (value : Json)
  | vmValue (value : Events.VmValue)
  | event (event : Events.EventExResult)
  | list (items : List ResultValue)
  | object (cls : ResultClass) (attributes : List (Str × ResultValue))

/-- `None` -/
abbrev ResultValue.null : ResultValue := .plain .null

structure ResultField where
  name : Str
  type : ResultType
  default : ResultValue

namespace ResultField

/-- A value that the decoder does not look at. -/
def plain (name : String) (default : Json) : ResultField := ⟨Str.ofString name, { item := .plain }, .plain default⟩

/-- `name: str = ""` -/
def text (name : String) : ResultField := plain name (.str [])

/-- `name: str = "0"` -/
def amount (name : String) : ResultField := plain name (.str (Str.ofString "0"))

/-- `name: int = 0` -/
def number (name : String) : ResultField := plain name (.int 0)

/-- `name: bool = False` -/
def flag (name : String) : ResultField := plain name (.bool false)

/-- `name: item | None = None` -/
def optional (name : String) (item : ItemType) : ResultField :=
  ⟨Str.ofString name, { item, isOptional := true }, .null⟩

/-- `name: list[item] = field(default_factory=list)` -/
def list (name : String) (item : ItemType) : ResultField := ⟨Str.ofString name, { item, isList := true }, .list []⟩

/-- `name: list[item] | None = None` -/
def optionalList (name : String) (item : ItemType) : ResultField :=
  ⟨Str.ofString name, { item, isList := true, isOptional := true }, .null⟩

/-- `name: cls = field(default_factory=cls)`, for the fields of the class -/
def nested (name : String) (cls : ResultClass) (fields : List ResultField) : ResultField :=
  ⟨Str.ofString name, { item := .object cls }, .object cls (fields.map fun field => (field.name, field.default))⟩

end ResultField

namespace ResultClass

open ResultField

def stakeFields : List ResultField := [amount "amount", number "time", amount "unclaimed"]

def storageFields : List ResultField :=
  [number "available", number "used", text "avatar", list "archives" (.object ArchiveResult)]

def variableSchemaFields : List ResultField := [text "type", optional "schema" (.object VMStructSchemaResult)]

def structSchemaFields : List ResultField :=
  [list "fields" (.object VMNamedVariableSchemaResult), number "flags"]

/-- The fields of the class, in the order of the source. -/
def fields : ResultClass → List ResultField
  | BalanceResult =>
    [text "chain", amount "amount", text "symbol", number "decimals", optionalList "ids" .plain]
  | InteropResult => [text "local", text "external"]
  | PlatformResult =>
    [text "platform", text "chain", text "fuel", list "tokens" .plain, list "interop" (.object InteropResult)]
  | GovernanceResult => [text "name", text "value"]
  | OrganizationResult =>
    [optional "name" .plain, optional "owner" .plain, optional "carbon_owner" .plain,
      list "metadata" (.object TokenPropertyResult), optional "member_count" .plain]
  | OrganizationMemberResult =>
    [optional "address" .plain, optional "carbon_address" .plain, flag "is_member", optional "member_time" .plain]
  | CrowdsaleResult =>
    [text "hash", text "name", text "creator", text "flags", number "start_date", number "end_date",
      text "sell_symbol", text "receive_symbol", number "price", amount "global_soft_cap", amount "global_hard_cap",
      amount "user_soft_cap", amount "user_hard_cap"]
  | StakeResult => stakeFields
  | StorageResult => storageFields
  | AccountInfoResult => [text "address", text "name", nested "stake" StakeResult stakeFields]
  | AccountResult =>
    [text "address", text "name", nested "stakes" StakeResult stakeFields, amount "stake", amount "unclaimed",
      optional "relay" .plain, text "validator", nested "storage" StorageResult storageFields,
      list "balances" (.object BalanceResult), optionalList "txs" .plain]
  | AddressTransactionsResult => [text "address", list "txs" (.object TransactionResult)]
  | LeaderboardRowResult => [text "address", text "value"]
  | LeaderboardResult => [optional "name" .plain, optionalList "rows" (.object LeaderboardRowResult)]
  | DappResult => [text "name", text "address", text "chain"]
  | ChainResult =>
    [optional "name" .plain, optional "address" .plain, optional "parent" .plain, number "height",
      optional "organization" .plain, optionalList "contracts" .plain, optionalList "dapps" .plain]
  | GasConfigDataResult =>
    [number "version", number "max_name_length", number "max_token_symbol_length", number "fee_shift",
      number "max_structure_size", optional "fee_multiplier" .plain, optional "gas_token_id" .plain,
      optional "data_token_id" .plain, optional "minimum_gas_offer" .plain, optional "data_escrow_per_row" .plain,
      optional "gas_fee_transfer" .plain, optional "gas_fee_query" .plain,
      optional "gas_fee_create_token_base" .plain, optional "gas_fee_create_token_symbol" .plain,
      optional "gas_fee_create_token_series" .plain, optional "gas_fee_per_byte" .plain,
      optional "gas_fee_register_name" .plain, optional "gas_burn_ratio_mul" .plain, number "gas_burn_ratio_shift",
      optional "minimum_gas_bill" .plain, optional "gas_producer_ratio_mul" .plain,
      optional "gas_producer_ratio_shift" .plain, optional "gas_dapp_ratio_mul" .plain,
      optional "gas_dapp_ratio_shift" .plain, optional "policy_fee_create_token_base" .plain,
      optional "policy_fee_create_token_symbol" .plain, optional "policy_fee_create_token_series" .plain,
      optional "policy_fee_register_name" .plain, optional "legacy_data_escrow_per_row" .plain]
  | GasConfigResult =>
    [number "gas_model_version", optional "gas_config" (.object GasConfigDataResult), number "block_rate_target",
      number "expiry_window", optional "units_per_block_data_byte" .plain]
  | EstimateTransactionResult =>
    [flag "would_abort", text "abort_reason", optional "gas_bill_kcal_base" .plain, optional "data_rows" .plain,
      optional "data_escrow_atoms" .plain, optional "data_refund_atoms" .plain, optional "recommended_max_gas" .plain,
      optional "recommended_max_data" .plain]
  | NexusResult =>
    [optional "name" .plain, number "protocol", optionalList "platforms" (.object PlatformResult),
      optionalList "tokens" (.object TokenResult), optionalList "chains" (.object ChainResult),
      optionalList "governance" (.object GovernanceResult), optionalList "organizations" .plain]
  | EventResult => [text "address", text "contract", text "kind", text "name", text "data"]
  | OracleResult => [text "url", text "content"]
  | SignatureResult => [text "kind", text "data"]
  | TransactionResult =>
    [text "hash", text "chain_address", number "timestamp", number "block_height", text "block_hash", text "script",
      text "payload", number "carbon_tx_type", text "carbon_tx_data", optional "debug_comment" .plain,
      list "events" (.object EventResult), list "extended_events" .event, text "state", text "result", amount "fee",
      list "signatures" (.object SignatureResult), text "sender", text "gas_payer", text "gas_target",
      text "gas_price", text "gas_limit", number "expiration"]
  | BlockResult =>
    [text "hash", text "previous_hash", number "timestamp", number "height", text "chain_address", number "protocol",
      list "txs" (.object TransactionResult), text "validator_address", optional "producer_address" .plain,
      amount "reward", optionalList "events" (.object EventResult), optionalList "oracles" (.object OracleResult)]
  | TokenPropertyResult =>
    [text "key", ⟨Str.ofString "value", { item := .vmValue }, .vmValue (.text [])⟩]
  | TokenExternalResult => [text "platform", text "hash"]
  | TokenPriceResult => [number "timestamp", amount "open", amount "high", amount "low", amount "close"]
  | VMVariableSchemaResult => variableSchemaFields
  | VMNamedVariableSchemaResult => [text "name", nested "schema" VMVariableSchemaResult variableSchemaFields]
  | VMStructSchemaResult => structSchemaFields
  | TokenSchemasResult =>
    [nested "series_metadata" VMStructSchemaResult structSchemaFields,
      nested "rom" VMStructSchemaResult structSchemaFields, nested "ram" VMStructSchemaResult structSchemaFields]
  | TokenSeriesResult =>
    [text "series_id", text "carbon_token_id", text "carbon_series_id", text "owner_address", amount "max_mint",
      amount "mint_count", amount "current_supply", amount "max_supply", optional "burned_supply" .plain,
      optional "mode" .plain, optional "script" .plain, optionalList "methods" (.object ABIMethodResult),
      list "metadata" (.object TokenPropertyResult)]
  | TokenResult =>
    [text "symbol", text "name", number "decimals", amount "current_supply", amount "max_supply",
      amount "burned_supply", text "address", text "owner", text "flags", optional "script" .plain,
      list "series" (.object TokenSeriesResult), text "carbon_id",
      optionalList "metadata" (.object TokenPropertyResult), optional "token_schemas" (.object TokenSchemasResult),
      optionalList "external" (.object TokenExternalResult), optionalList "price" (.object TokenPriceResult)]
  | TokenDataResult =>
    [text "id", text "series", text "carbon_token_id", text "carbon_series_id", text "carbon_nft_address",
      text "mint", text "chain_name", text "owner_address", text "creator_address", text "ram", text "rom",
      text "status", list "infusion" (.object TokenPropertyResult), list "properties" (.object TokenPropertyResult)]
  | ScriptResult =>
    [list "events" (.object EventResult), optional "result" .plain, optional "error" .plain, list "results" .plain,
      list "oracles" (.object OracleResult), optional "state" .plain, optional "gas" .plain]
  | ArchiveResult =>
    [optional "name" .plain, optional "hash" .plain, number "time", number "size", optional "encryption" .plain,
      number "block_count", optionalList "missing_blocks" .plain, optionalList "owners" .plain]
  | ABIParameterResult => [text "name", text "type"]
  | ABIMethodResult => [text "name", text "return_type", list "parameters" (.object ABIParameterResult)]
  | ABIEventResult => [number "value", text "name", text "return_type", text "description"]
  | ContractResult =>
    [text "name", text "address", text "script", optional "owner" .plain,
      optionalList "methods" (.object ABIMethodResult), optionalList "events" (.object ABIEventResult)]
  | AuctionResult =>
    [text "creator_address", text "chain_address", number "start_date", number "end_date", text "base_symbol",
      text "quote_symbol", text "token_id", amount "price", amount "end_price", amount "extension_period",
      text "type", text "rom", text "ram", amount "listing_fee", text "current_winner"]
  | ChannelResult =>
    [text "creator_address", text "target_address", text "name", text "chain", number "creation_time", text "symbol",
      amount "fee", amount "balance", flag "active", number "index"]
  | ReceiptResult =>
    [text "nexus", text "channel", text "index", number "timestamp", text "sender", text "receiver", text "script"]
  | PeerResult => [text "url", text "version", text "flags", amount "fee", number "pow"]
  | ValidatorResult => [text "address", text "type"]
  | SwapResult =>
    [text "source_platform", text "source_chain", text "source_hash", text "source_address",
      text "destination_platform", text "destination_chain", text "destination_hash", text "destination_address",
      text "symbol", amount "value"]
  | BuildInfoResult => [text "version", text "commit", text "build_time_utc"]
  | PhantasmaVMConfigResult =>
    [flag "is_stored", number "feature_level", amount "gas_constructor", amount "gas_nexus",
      amount "gas_organization", amount "gas_account", amount "gas_leaderboard", amount "gas_standard",
      amount "gas_oracle", amount "fuel_per_contract_deploy"]

/-- `cls.__name__` -/
def name : ResultClass → String
  | BalanceResult => "BalanceResult"
  | InteropResult => "InteropResult"
  | PlatformResult => "PlatformResult"
  | GovernanceResult => "GovernanceResult"
  | OrganizationResult => "OrganizationResult"
  | OrganizationMemberResult => "OrganizationMemberResult"
  | CrowdsaleResult => "CrowdsaleResult"
  | StakeResult => "StakeResult"
  | StorageResult => "StorageResult"
  | AccountInfoResult => "AccountInfoResult"
  | AccountResult => "AccountResult"
  | AddressTransactionsResult => "AddressTransactionsResult"
  | LeaderboardRowResult => "LeaderboardRowResult"
  | LeaderboardResult => "LeaderboardResult"
  | DappResult => "DappResult"
  | ChainResult => "ChainResult"
  | GasConfigDataResult => "GasConfigDataResult"
  | GasConfigResult => "GasConfigResult"
  | EstimateTransactionResult => "EstimateTransactionResult"
  | NexusResult => "NexusResult"
  | EventResult => "EventResult"
  | OracleResult => "OracleResult"
  | SignatureResult => "SignatureResult"
  | TransactionResult => "TransactionResult"
  | BlockResult => "BlockResult"
  | TokenPropertyResult => "TokenPropertyResult"
  | TokenExternalResult => "TokenExternalResult"
  | TokenPriceResult => "TokenPriceResult"
  | VMVariableSchemaResult => "VMVariableSchemaResult"
  | VMNamedVariableSchemaResult => "VMNamedVariableSchemaResult"
  | VMStructSchemaResult => "VMStructSchemaResult"
  | TokenSchemasResult => "TokenSchemasResult"
  | TokenSeriesResult => "TokenSeriesResult"
  | TokenResult => "TokenResult"
  | TokenDataResult => "TokenDataResult"
  | ScriptResult => "ScriptResult"
  | ArchiveResult => "ArchiveResult"
  | ABIParameterResult => "ABIParameterResult"
  | ABIMethodResult => "ABIMethodResult"
  | ABIEventResult => "ABIEventResult"
  | ContractResult => "ContractResult"
  | AuctionResult => "AuctionResult"
  | ChannelResult => "ChannelResult"
  | ReceiptResult => "ReceiptResult"
  | PeerResult => "PeerResult"
  | ValidatorResult => "ValidatorResult"
  | SwapResult => "SwapResult"
  | BuildInfoResult => "BuildInfoResult"
  | PhantasmaVMConfigResult => "PhantasmaVMConfigResult"

end ResultClass

/-! ## Depth -/

namespace Json

mutual

/-- How deep arrays and objects are nested. -/
def depth : Json → Nat
  | arr items => depthItems items + 1
  | obj entries => depthEntries entries + 1
  | _ => 0

def depthItems : List Json → Nat
  | [] => 0
  | item :: items => max item.depth (depthItems items)

def depthEntries : List (Str × Json) → Nat
  | [] => 0
  | (_, value) :: entries => max value.depth (depthEntries entries)

end

theorem depth_item {items : List Json} {item : Json} (member : item ∈ items) : item.depth ≤ depthItems items := by
  induction member with
  | head => exact le_max_left _ _
  | tail _ _ ih => exact ih.trans (le_max_right _ _)

theorem depth_entry {entries : List (Str × Json)} {name : Str} {value : Json}
    (found : entries.lookup name = some value) : value.depth ≤ depthEntries entries := by
  induction entries with
  | nil => cases found
  | cons entry entries ih =>
    obtain ⟨key, first⟩ := entry
    rw [List.lookup_cons] at found
    rw [depthEntries]
    split at found
    · obtain rfl := Option.some.inj found
      exact le_max_left _ _
    · exact (ih found).trans (le_max_right _ _)

/-- `value is None` -/
def isNull : Json → Bool
  | null => true
  | _ => false

/-- What `for item in (value or [])` goes through. -/
def elements (value : Json) : Except CallError (List Json) :=
  if !value.truthy then .ok []
  else
    match value with
    | arr items => .ok items
    | str text => .ok (text.map fun c => str [c])
    | obj entries => .ok (entries.map fun entry => str entry.1)
    | _ => .error (.raised .typeError)

theorem depth_element {value item : Json} {items : List Json} (listed : value.elements = .ok items)
    (member : item ∈ items) : item.depth ≤ value.depth := by
  unfold elements at listed
  split at listed
  · obtain rfl := Except.ok.inj listed
    cases member
  · cases value with
    | arr elements =>
      obtain rfl := Except.ok.inj listed
      exact (depth_item member).trans (Nat.le_succ _)
    | str text =>
      obtain rfl := Except.ok.inj listed
      obtain ⟨c, -, rfl⟩ := List.mem_map.mp member
      exact Nat.zero_le _
    | obj entries =>
      obtain rfl := Except.ok.inj listed
      obtain ⟨entry, -, rfl⟩ := List.mem_map.mp member
      exact Nat.zero_le _
    | _ => cases listed

end Json

/-! ## Decoding -/

namespace ResultField

/-- The name of the field on the wire. -/
def wireKey (self : ResultField) : Str := Events.snakeToCamel self.name

/-- The value for the field: under its own name, else under that on the wire. -/
def present (self : ResultField) (entries : List (Str × Json)) : Option Json :=
  match entries.lookup self.name with
  | some value => some value
  | none => entries.lookup self.wireKey

theorem depth_present {self : ResultField} {entries : List (Str × Json)} {value : Json}
    (found : self.present entries = some value) : value.depth ≤ Json.depthEntries entries := by
  unfold present at found
  split at found
  next named =>
    obtain rfl := Option.some.inj found
    exact Json.depth_entry named
  next => exact Json.depth_entry found

end ResultField

mutual

/-- `_decode_dataclass`; a field that is not there keeps its default. -/
def decodeDataclass (cls : ResultClass) : Json → Except CallError ResultValue
  | .obj entries => do
    let attributes ← cls.fields.mapM fun field =>
      match found : field.present entries with
      | none => return (field.name, field.default)
      | some value => do
        have := ResultField.depth_present found
        return (field.name, ← decodeValue field.type value)
    return .object cls attributes
  | _ => .error (.plain (Str.ofString ("expected object for " ++ cls.name)))
termination_by value => 3 * value.depth
decreasing_by
  rw [Json.depth]
  omega

/-- `_decode_value` -/
def decodeValue (type : ResultType) (value : Json) : Except CallError ResultValue :=
  if type.isOptional && value.isNull then return .null
  else if type.isList then
    match listed : value.elements with
    | .error e => throw e
    | .ok items => do
      have (item : Json) := @Json.depth_element value item items listed
      return .list (← items.attach.mapM fun item => decodeItem type.item item.val)
  else decodeItem type.item value
termination_by 3 * value.depth + 2
decreasing_by
  · have shallower := this item.val item.property
    omega
  · omega

/-- The branches of `_decode_value` for one value. -/
def decodeItem (item : ItemType) (value : Json) : Except CallError ResultValue :=
  match item with
  | .plain => return .plain value
  | .vmValue => return .vmValue (Events.VmValue.fromWire value)
  | .event =>
    match Events.EventExResult.fromWire value with
    | .ok event => return .event event
    | .error e => throw (.raised e)
  | .object cls => decodeDataclass cls value
termination_by 3 * value.depth + 1

end

/-- `_decode_list` -/
def decodeList (cls : ResultClass) : Json → Except CallError ResultValue
  | .null => return .list []
  | .arr items => do return .list (← items.mapM (decodeDataclass cls))
  | _ => .error (.plain (Str.ofString s!"expected array for {cls.name} list"))

/-! ## Pages -/

structure PaginatedResult where
  page : Int
  pageSize : Int
  total : Int
  totalPages : Int
  result : ResultValue

structure CursorPaginatedResult where
  result : ResultValue
  cursor : Option Str

/-- An `RPCError` of a helper, or another exception. -/
def CallError.ofPyError : PyError → CallError
  | .rpcError message => .plain message
  | e => .raised e

/-- The common part of `_decode_paginated` and `_decode_paginated_list`, for the decoder of the result and what it
    gets where there is none. -/
def decodePage (rt : RpcRuntime) (decode : Json → Except CallError ResultValue) (absent : Json) :
    Json → Except CallError PaginatedResult
  | .obj entries => do
    let number (name : String) (other : Json) : Except CallError Int :=
      (rt.coerceInt ((entries.lookup (Str.ofString name)).getD other)).mapError CallError.ofPyError
    let page ← number "page" (.int 0)
    let pageSize ← number "pageSize" ((entries.lookup (Str.ofString "page_size")).getD (.int 0))
    let total ← number "total" (.int 0)
    let totalPages ← number "totalPages" ((entries.lookup (Str.ofString "total_pages")).getD (.int 0))
    let result ← decode ((entries.lookup (Str.ofString "result")).getD absent)
    return { page, pageSize, total, totalPages, result }
  | _ => .error (.plain (Str.ofString "expected object for paginated result"))

/-- `_decode_paginated` -/
def decodePaginated (rt : RpcRuntime) (cls : ResultClass) : Json → Except CallError PaginatedResult :=
  decodePage rt (decodeDataclass cls) (.obj [])

/-- `_decode_paginated_list` -/
def decodePaginatedList (rt : RpcRuntime) (cls : ResultClass) : Json → Except CallError PaginatedResult :=
  decodePage rt (decodeList cls) (.arr [])

/-- `_decode_cursor` -/
def decodeCursor (rt : RpcRuntime) (cls : ResultClass) : Json → Except CallError CursorPaginatedResult
  | .obj entries => do
    let result ← decodeList cls ((entries.lookup (Str.ofString "result")).getD (.arr []))
    let cursor :=
      match Json.get entries (Str.ofString "cursor") with
      | .null => none
      | cursor => some (cursor.toStr rt.interp.repr)
    return { result, cursor }
  | _ => .error (.plain (Str.ofString "expected object for cursor-paginated result"))

end PhantasmaPy
