import PhantasmaPy.Carbon.Builders
import PhantasmaPy.HexText
import PhantasmaPy.Rpc.Client
import PhantasmaPy.VM.Transaction

/-! # Sending transactions

The methods of `PhantasmaRPC` that sign transactions and send them.  They pass on to the client that it holds.
-/

namespace PhantasmaPy

open Wire

/-- A transaction in the form that a caller has: an object, its bytes or a hex text. -/
inductive TxInput where
  | transaction (tx : VM.Transaction)
  | bytes (raw : Bytes)
  | str (text : Str)

def TxInput.payload : TxInput → Except PyError Str
  | transaction tx => do return encodeHex (← tx.toBytes true)
  | bytes raw => .ok (encodeHex raw)
  | str text => .ok text

namespace JsonRpcClient

variable (self : JsonRpcClient) (rt : RpcRuntime) (post : HttpRequest → Except PyError Response)

variable (scheme : Ed25519) (keys : PhantasmaKeys)

/-- The transaction that `sign_and_send_transaction` signs, for the time of the clock. -/
def newTransaction (now : Int) (nexus : Str) (script : Bytes) (chain : Str) (payload : Chunk)
    (expiration : Option Int) : Except PyError VM.Transaction := do
  let payload ← payload.raw
  let expiration :=
    match expiration with
    | some expiration => if expiration ≠ 0 then expiration else now + 20 * 60
    | none => now + 20 * 60
  return { nexusName := nexus, chainName := chain, script, expiration, payload }

end JsonRpcClient

end PhantasmaPy
