import PhantasmaPy.Crypto

/-! # VM transactions

`Transaction` of `transaction.py`: its wire form with and without signatures, and signing.
-/

namespace PhantasmaPy.VM

open Wire

structure Transaction where
  nexusName : Str
  chainName : Str
  script : Bytes
  expiration : Int
  payload : Bytes
  signatures : List Ed25519Signature := []
  deriving DecidableEq

namespace Transaction

/-! ## Wire form -/

/-- The fields that are signed. -/
def writeMessage (self : Transaction) : Writer Unit := do
  writeString self.nexusName
  writeString self.chainName
  writeVarBytes self.script
  writeU32LE self.expiration
  writeVarBytes self.payload

def writeSignature (signature : Ed25519Signature) : Writer Unit := do
  writeU8 signature.kind.toByte.toNat
  writeVarBytes signature.data

def writeSignatures (signatures : List Ed25519Signature) : Writer Unit := do
  writeVarUint signatures.length
  Put.each writeSignature signatures

def writer (self : Transaction) (withSignatures : Bool) : Writer Unit := do
  self.writeMessage
  if withSignatures then
    writeSignatures self.signatures
  else
    return ()

def toBytes (self : Transaction) (withSignatures : Bool) : Except PyError Bytes :=
  (self.writer withSignatures).bytes

def readMessage : Reader Transaction := do
  let nexusName ← readString
  let chainName ← readString
  let script ← readVarBytes
  let expiration ← readU32LE
  let payload ← readVarBytes
  return { nexusName, chainName, script, expiration, payload }

/-- One turn of the loop over the signatures. -/
def readSignature : Reader Ed25519Signature := do
  let byte ← readU8
  let kind ← Get.check (SignatureKind.ofByte byte)
  if kind ≠ .ED25519 then
    throw .valueError
  else
    let data ← readVarBytes
    Get.check (Ed25519Signature.new data)

def reader : Reader Transaction := do
  let tx ← readMessage
  let count ← readVarUint
  let signatures ← Get.times readSignature count.toNat
  return { tx with signatures }

def fromBytes (data : Bytes) : Except PyError Transaction := readAll reader data

/-! ## Signing -/

/-- `hash`, for a function in place of SHA-256. -/
def hash (digest : Bytes → Bytes) (self : Transaction) : Except PyError Bytes := do
  let message ← self.toBytes false
  return digest message

variable (scheme : Ed25519)

/-- The signature and the transaction that it was appended to. -/
def sign (keyPair : PhantasmaKeys) (self : Transaction) :
    Except PyError (Ed25519Signature × Transaction) := do
  let message ← self.toBytes false
  let signature ← keyPair.sign scheme message
  return (signature, { self with signatures := self.signatures ++ [signature] })

/-- The calls `sign(k1)`, …, `sign(kn)` one after the other. -/
def signAll : List PhantasmaKeys → Transaction → Except PyError Transaction
  | [], self => return self
  | keyPair :: keyPairs, self => do
    let (_, signed) ← self.sign scheme keyPair
    signAll keyPairs signed

/-- The address is computed for each signature, so a transaction without signatures needs none. -/
def isSignedBy (keyPair : PhantasmaKeys) (self : Transaction) : Except PyError Bool := do
  let message ← self.toBytes false
  self.signatures.anyM fun signature => do
    let address ← keyPair.address scheme
    return signature.verify scheme message [address]

end Transaction

end PhantasmaPy.VM
