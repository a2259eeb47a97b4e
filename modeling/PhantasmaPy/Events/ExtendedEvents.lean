import PhantasmaPy.Events.SpecialResolutionArguments

/-! # Extended events

The payloads of `extended_events.py` by the kind of their event, the nested calls of a special resolution,
and the envelope.
-/

namespace PhantasmaPy.Events

open Wire

/-! ## Event shapes -/

/-- `name: int = 0` -/
def number (name : String) : Field Hint := field name .int (.int 0)

/-- `name: bool = False` -/
def flag (name : String) : Field Hint := field name .bool (.bool false)

def TokenCreateData : Shape := dataclass "TokenCreateData"
  [text "symbol", text "max_supply", number "decimals", flag "is_non_fungible",
    number "carbon_token_id", dictOf "metadata" .str]

def TokenSeriesCreateData : Shape := dataclass "TokenSeriesCreateData"
  [text "symbol", text "series_id", number "max_mint", number "max_supply", text "owner",
    number "carbon_token_id", number "carbon_series_id", dictOf "metadata" .str]

def MarketOrderData : Shape := dataclass "MarketOrderData"
  [text "base_symbol", text "quote_symbol", text "token_id", number "carbon_base_token_id",
    number "carbon_quote_token_id", number "carbon_instance_id", text "seller", text "buyer",
    text "price", text "end_price", number "start_date", number "end_date", text "type"]

def EVENT_SHAPES : List (Str × Shape) :=
  [(Str.ofString "TokenCreate", TokenCreateData),
  (Str.ofString "TokenSeriesCreate", TokenSeriesCreateData),
  (Str.ofString "OrderCreated", MarketOrderData),
  (Str.ofString "OrderCancelled", MarketOrderData),
  (Str.ofString "OrderFilled", MarketOrderData)]

/-! ## Special resolutions -/

structure SpecialResolutionCall where
  moduleId : Int := 0
  module : Str := []
  methodId : Int := 0
  method : Str := []
  arguments : Option SpecialResolutionArguments := none
  calls : List SpecialResolutionCall := []

structure SpecialResolutionData where
  resolutionId : Int := 0
  description : Option Str := none
  calls : List SpecialResolutionCall := []

/-- `_wire_str` -/
def wireStr : Json → Str
  | .str text => text
  | _ => []

/-- `description if isinstance(description, str) else None` -/
def wireOptionalStr : Json → Option Str
  | .str text => some text
  | _ => none

/-- `_wire_int` -/
def wireInt : Json → Int
  | .int value => value
  | _ => 0

mutual

/-- `SpecialResolutionCall.from_wire` -/
def callFromWire : Json → Except PyError SpecialResolutionCall
  | .obj entries => do
    let module := wireStr (Json.get entries (Str.ofString "module"))
    let method := wireStr (Json.get entries (Str.ofString "method"))
    let arguments ← decodeSpecialResolutionArguments module method
      (Json.get entries (Str.ofString "arguments"))
    let calls ← callsEntry entries
    return {
      moduleId := wireInt (Json.get entries (Str.ofString "moduleId"))
      module
      methodId := wireInt (Json.get entries (Str.ofString "methodId"))
      method
      arguments
      calls }
  | _ => return {}

/-- `_wire_calls(raw.get("calls"))` -/
def callsEntry : List (Str × Json) → Except PyError (List SpecialResolutionCall)
  | [] => return []
  | (name, value) :: entries =>
    if name = Str.ofString "calls" then wireCalls value else callsEntry entries

/-- `_wire_calls` -/
def wireCalls : Json → Except PyError (List SpecialResolutionCall)
  | .arr items => callsFromWire items
  | _ => return []

def callsFromWire : List Json → Except PyError (List SpecialResolutionCall)
  | [] => return []
  | item :: items => do
    let call ← callFromWire item
    let calls ← callsFromWire items
    return call :: calls

end

mutual

/-- `SpecialResolutionCall.to_wire` -/
def SpecialResolutionCall.toWire : SpecialResolutionCall → Json
  | ⟨moduleId, module, methodId, method, arguments, calls⟩ =>
    .obj ([(Str.ofString "moduleId", .int moduleId), (Str.ofString "module", .str module),
        (Str.ofString "methodId", .int methodId), (Str.ofString "method", .str method)] ++
      (match arguments with
        | none => []
        | some arguments => [(Str.ofString "arguments", arguments.toWire)]) ++
      (match calls with
        | [] => []
        | call :: calls => [(Str.ofString "calls", .arr (call.toWire :: callsToWire calls))]))

def callsToWire : List SpecialResolutionCall → List Json
  | [] => []
  | call :: calls => call.toWire :: callsToWire calls

end

namespace SpecialResolutionData

def fromWire : Json → Except PyError SpecialResolutionData
  | .obj entries => do
    let calls ← wireCalls (Json.get entries (Str.ofString "calls"))
    return {
      resolutionId := wireInt (Json.get entries (Str.ofString "resolutionId"))
      description := wireOptionalStr (Json.get entries (Str.ofString "description"))
      calls }
  | _ => return {}

def toWire (self : SpecialResolutionData) : Json :=
  .obj ([(Str.ofString "resolutionId", .int self.resolutionId)] ++
    (match self.description with
      | none => []
      | some description => [(Str.ofString "description", .str description)]) ++
    [(Str.ofString "calls", .arr (callsToWire self.calls))])

end SpecialResolutionData

/-! ## Events -/

/-- The data of an event: an instance of a shape, a resolution, or the payload as it was answered. -/
inductive EventData where
  | shape (value : Value)
  | specialResolution (data : SpecialResolutionData)
  | unknown (data : Json)

def decodeEventData (kind : Str) (raw : Json) : Except PyError (Option EventData) :=
  match raw with
  | .null => return none
  | raw =>
    if kind = Str.ofString "SpecialResolution" then do
      return some (.specialResolution (← SpecialResolutionData.fromWire raw))
    else
      match EVENT_SHAPES.lookup kind with
      | none => return some (.unknown raw)
      | some shape => do
        match ← tryShape shape raw with
        | some value => return some (.shape value)
        | none => return some (.unknown raw)

/-- `shape_to_wire` on the data of an event -/
def EventData.toWire : EventData → Json
  | shape value => shapeToWire value
  | specialResolution data => data.toWire
  | unknown data => data

structure EventExResult where
  address : Str := []
  contract : Str := []
  kind : Str := []
  data : Option EventData := none

namespace EventExResult

def fromWire : Json → Except PyError EventExResult
  | .obj entries => do
    let kind := wireStr (Json.get entries (Str.ofString "kind"))
    let data ← decodeEventData kind (Json.get entries (Str.ofString "data"))
    return {
      address := wireStr (Json.get entries (Str.ofString "address"))
      contract := wireStr (Json.get entries (Str.ofString "contract"))
      kind
      data }
  | _ => return {}

def toWire (self : EventExResult) : Json :=
  .obj ([(Str.ofString "address", .str self.address), (Str.ofString "contract", .str self.contract),
      (Str.ofString "kind", .str self.kind)] ++
    match self.data with
    | none => []
    | some data => [(Str.ofString "data", data.toWire)])

end EventExResult

end PhantasmaPy.Events
