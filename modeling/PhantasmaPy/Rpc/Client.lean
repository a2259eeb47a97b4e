import PhantasmaPy.Rpc.Values
import PhantasmaPy.Wire.Feed

/-! # The JSON-RPC client

`JsonRpcClient` of `rpc.py`, with the reading of a response body up to a limit.  A response is what the HTTP
session hands out; the session itself is a parameter of a call.
-/

namespace PhantasmaPy

open Wire

/-- An exception of a call: an `RPCError` with its attributes, or another one. -/
inductive CallError where
  | rpcError (message : Str) (code : Option Int) (data : Json)
  | raised (error : PyError)

/-- An `RPCError` with no more than a message. -/
def CallError.plain (message : Str) : CallError := .rpcError message none .null

/-! ## Responses -/

/-- A piece of a body: bytes or, from sessions that decode, text. -/
inductive Chunk where
  | bytes (raw : Bytes)
  | str (text : Str)

namespace Chunk

/-- `not chunk` -/
def isEmpty : Chunk → Bool
  | bytes raw => raw.isEmpty
  | str text => text.isEmpty

/-- `chunk.encode("utf-8") if isinstance(chunk, str) else bytes(chunk)` -/
def raw : Chunk → Except PyError Bytes
  | bytes raw => .ok raw
  | str text => encodeText text

end Chunk

/-- The attributes of a response that the client looks for.  Headers are looked up by name, and `json` is the
    result of the method of that name. -/
structure Response where
  statusCode : Option Int := none
  headers : Option (Str → Option Str) := none
  iterContent : Option (Feed PyError Chunk) := none
  content : Option Chunk := none
  text : Option Str := none
  encoding : Option Str := none
  json : Except PyError Json := .error .attributeError

namespace Response

/-- `getattr(response, "status_code", 200)` -/
def status (self : Response) : Int := self.statusCode.getD 200

/-- The value of the header under either spelling, where an empty one does not count. -/
def contentLengthHeader (lookup : Str → Option Str) : Option Str :=
  match lookup (Str.ofString "content-length") with
  | some (c :: value) => some (c :: value)
  | _ => lookup (Str.ofString "Content-Length")

/-- `_content_length` -/
def contentLength (rt : RpcRuntime) (self : Response) : Option Int :=
  match self.headers with
  | none => none
  | some lookup =>
    match contentLengthHeader lookup with
    | none => none
    | some value => (rt.interp.int value).toOption

/-- `getattr(response, "encoding", None) or "utf-8"` -/
def codec (self : Response) : Str :=
  match self.encoding with
  | some (c :: encoding) => c :: encoding
  | _ => Str.ofString "utf-8"

end Response

def exceeds (maxResponseBytes : Int) : PyError :=
  rpcError s!"RPC response body exceeds {maxResponseBytes} bytes"

/-- `_ensure_response_size` -/
def ensureResponseSize (size maxResponseBytes : Int) : Except PyError Unit :=
  if size > maxResponseBytes then .error (exceeds maxResponseBytes) else .ok ()

/-- One round of the loop over the chunks, on the chunks that are kept and their size. -/
def keepChunk (maxResponseBytes : Int) (kept : List Bytes × Nat) (chunk : Chunk) :
    Except PyError (List Bytes × Nat) :=
  if chunk.isEmpty then .ok kept
  else do
    let raw ← chunk.raw
    let total := kept.2 + raw.length
    ensureResponseSize total maxResponseBytes
    return (kept.1 ++ [raw], total)

/-- `_read_response_text`, with the number of chunks that were taken from the response. -/
def readResponseText (rt : RpcRuntime) (response : Response) (maxResponseBytes : Int) :
    Except PyError (Option Str) × Nat :=
  let declared : Except PyError Unit :=
    match response.contentLength rt with
    | none => .ok ()
    | some size => ensureResponseSize size maxResponseBytes
  match declared with
  | .error e => (.error e, 0)
  | .ok _ =>
    match response.iterContent with
    | some feed =>
      let (kept, taken) := feed.fold (keepChunk maxResponseBytes) ([], 0)
      (do
        let (chunks, _) ← kept
        return some (← rt.decode response.codec chunks.flatten), taken)
    | none =>
      match response.content with
      | some content =>
        (do
          let raw ← content.raw
          ensureResponseSize raw.length maxResponseBytes
          return some (← rt.decode response.codec raw), 0)
      | none =>
        match response.text with
        | some text =>
          (do
            let raw ← encodeText text
            ensureResponseSize raw.length maxResponseBytes
            return some text, 0)
        | none => (.ok none, 0)

/-- `_read_response_json` -/
def readResponseJson (rt : RpcRuntime) (response : Response) (maxResponseBytes : Int) : Except PyError Json := do
  match ← (readResponseText rt response maxResponseBytes).1 with
  | none => response.json
  | some text => rt.loads text

/-! ## Calls -/

/-- What a call posts, apart from the timeout; the response is always streamed. -/
structure HttpRequest where
  url : Str
  json : Json
  headers : Option (List (Str × Str))

structure JsonRpcClient where
  endpoint : Str
  maxResponseBytes : Int
  apiKey : Option Str
  nextId : Nat := 0

namespace JsonRpcClient

/-- The constructor, which takes an empty key for none. -/
def new (endpoint : Str) (maxResponseBytes : Int) (apiKey : Option Str) : Except PyError JsonRpcClient :=
  if maxResponseBytes ≤ 0 then .error .valueError
  else .ok { endpoint, maxResponseBytes, apiKey := if apiKey = some [] then none else apiKey }

/-- `str(self._next_id)` -/
def requestId (self : JsonRpcClient) : Str := intText self.nextId

def request (self : JsonRpcClient) (method : Str) (params : List Json) : HttpRequest where
  url := self.endpoint
  json := .obj [(Str.ofString "jsonrpc", .str (Str.ofString "2.0")), (Str.ofString "id", .str self.requestId),
    (Str.ofString "method", .str method), (Str.ofString "params", .arr params)]
  headers := self.apiKey.map fun key => [(Str.ofString "X-Api-Key", key)]

/-- The answer to a body without an id, by the status of the response. -/
def withoutId (status : Int) (entries : List (Str × Json)) (requestId : Str) (rt : RpcRuntime) : CallError :=
  if status ≥ 400 then
    let error := Json.get entries (Str.ofString "error")
    let detail := if error.truthy then error else Json.get entries (Str.ofString "message")
    match detail with
    | .str detail => .plain (Str.ofString s!"HTTP {status}: " ++ detail)
    | _ => .plain (Str.ofString s!"HTTP {status} from RPC endpoint")
  else
    .plain (Str.ofString "RPC response missing id for request " ++ rt.interp.repr requestId)

/-- The exception for the error that the node reports. -/
def reported (rt : RpcRuntime) : Json → CallError
  | .obj entries =>
    let message := (entries.lookup (Str.ofString "message")).getD (.str (Str.ofString "RPC error"))
    match rt.optionalInt (Json.get entries (Str.ofString "code")) with
    | .ok code => .rpcError (message.toStr rt.interp.repr) code (Json.get entries (Str.ofString "data"))
    | .error e => .raised e
  | error => .plain (error.toStr rt.interp.repr)

/-- The checks of `call` on the parsed body. -/
def checkBody (rt : RpcRuntime) (requestId : Str) (status : Int) : Json → Except CallError Json
  | .obj entries =>
    match Json.get entries (Str.ofString "id") with
    | .null => .error (withoutId status entries requestId rt)
    | wireId =>
      if wireId.toStr rt.interp.repr ≠ requestId then
        .error (.plain (Str.ofString "RPC response id mismatch: got " ++ wireId.repr rt.interp.repr ++
          Str.ofString ", expected " ++ rt.interp.repr requestId))
      else
        let error := Json.get entries (Str.ofString "error")
        if error.truthy then .error (reported rt error)
        else
          match entries.lookup (Str.ofString "result") with
          | none => .error (.plain (Str.ofString "RPC response missing result"))
          | some result => .ok result
  | _ => .error (.plain (Str.ofString "RPC response must be an object"))

/-- The part of `call` after the response is there. -/
def finish (self : JsonRpcClient) (rt : RpcRuntime) (requestId : Str) (response : Response) : Except CallError Json :=
  match readResponseJson rt response self.maxResponseBytes with
  | .error (.rpcError message) => .error (.plain message)
  | .error _ =>
    if response.status ≥ 400 then
      .error (.plain (Str.ofString s!"HTTP {response.status} from RPC endpoint"))
    else
      .error (.plain (Str.ofString "RPC response is not valid JSON"))
  | .ok body => checkBody rt requestId response.status body

/-- `call`, with the client that it leaves; the counter goes up before anything can fail. -/
def call (self : JsonRpcClient) (rt : RpcRuntime) (post : HttpRequest → Except PyError Response) (method : Str)
    (params : List Json) : Except CallError Json × JsonRpcClient :=
  let after := { self with nextId := self.nextId + 1 }
  match post (self.request method params) with
  | .error e => (.error (.raised e), after)
  | .ok response => (after.finish rt self.requestId response, after)

end JsonRpcClient

end PhantasmaPy
