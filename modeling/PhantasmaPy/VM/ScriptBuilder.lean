import PhantasmaPy.AddressText
import PhantasmaPy.VM.Object

/-! # The script builder

`ScriptBuilder` and its operations.  An operation may raise after it has changed the builder, and a
caller may go on with the builder, so operations return the new state also when they fail.
-/

namespace PhantasmaPy.VM

open Wire

inductive Opcode where
  | NOP
  | MOVE
  | COPY
  | PUSH
  | POP
  | SWAP
  | CALL
  | EXTCALL
  | JMP
  | JMPIF
  | JMPNOT
  | RET
  | THROW
  | LOAD
  | CAST
  | CAT
  | RANGE
  | LEFT
  | RIGHT
  | SIZE
  | COUNT
  | NOT
  | AND
  | OR
  | XOR
  | EQUAL
  | LT
  | GT
  | LTE
  | GTE
  | INC
  | DEC
  | SIGN
  | NEGATE
  | ABS
  | ADD
  | SUB
  | MUL
  | DIV
  | MOD
  | SHL
  | SHR
  | MIN
  | MAX
  | POW
  | CTX
  | SWITCH
  | PUT
  | GET
  | CLEAR
  | UNPACK
  | PACK
  | DEBUG
  | SUBSTR
  | REMOVE
  | EVM
  deriving DecidableEq

namespace Opcode

/-- The value of the enumeration member. -/
def toByte : Opcode → UInt8
  | NOP => 0
  | MOVE => 1
  | COPY => 2
  | PUSH => 3
  | POP => 4
  | SWAP => 5
  | CALL => 6
  | EXTCALL => 7
  | JMP => 8
  | JMPIF => 9
  | JMPNOT => 10
  | RET => 11
  | THROW => 12
  | LOAD => 13
  | CAST => 14
  | CAT => 15
  | RANGE => 16
  | LEFT => 17
  | RIGHT => 18
  | SIZE => 19
  | COUNT => 20
  | NOT => 21
  | AND => 22
  | OR => 23
  | XOR => 24
  | EQUAL => 25
  | LT => 26
  | GT => 27
  | LTE => 28
  | GTE => 29
  | INC => 30
  | DEC => 31
  | SIGN => 32
  | NEGATE => 33
  | ABS => 34
  | ADD => 35
  | SUB => 36
  | MUL => 37
  | DIV => 38
  | MOD => 39
  | SHL => 40
  | SHR => 41
  | MIN => 42
  | MAX => 43
  | POW => 44
  | CTX => 45
  | SWITCH => 46
  | PUT => 47
  | GET => 48
  | CLEAR => 49
  | UNPACK => 50
  | PACK => 51
  | DEBUG => 52
  | SUBSTR => 53
  | REMOVE => 54
  | EVM => 255

/-- The name of the enumeration member. -/
def name : Opcode → String
  | NOP => "NOP"
  | MOVE => "MOVE"
  | COPY => "COPY"
  | PUSH => "PUSH"
  | POP => "POP"
  | SWAP => "SWAP"
  | CALL => "CALL"
  | EXTCALL => "EXTCALL"
  | JMP => "JMP"
  | JMPIF => "JMPIF"
  | JMPNOT => "JMPNOT"
  | RET => "RET"
  | THROW => "THROW"
  | LOAD => "LOAD"
  | CAST => "CAST"
  | CAT => "CAT"
  | RANGE => "RANGE"
  | LEFT => "LEFT"
  | RIGHT => "RIGHT"
  | SIZE => "SIZE"
  | COUNT => "COUNT"
  | NOT => "NOT"
  | AND => "AND"
  | OR => "OR"
  | XOR => "XOR"
  | EQUAL => "EQUAL"
  | LT => "LT"
  | GT => "GT"
  | LTE => "LTE"
  | GTE => "GTE"
  | INC => "INC"
  | DEC => "DEC"
  | SIGN => "SIGN"
  | NEGATE => "NEGATE"
  | ABS => "ABS"
  | ADD => "ADD"
  | SUB => "SUB"
  | MUL => "MUL"
  | DIV => "DIV"
  | MOD => "MOD"
  | SHL => "SHL"
  | SHR => "SHR"
  | MIN => "MIN"
  | MAX => "MAX"
  | POW => "POW"
  | CTX => "CTX"
  | SWITCH => "SWITCH"
  | PUT => "PUT"
  | GET => "GET"
  | CLEAR => "CLEAR"
  | UNPACK => "UNPACK"
  | PACK => "PACK"
  | DEBUG => "DEBUG"
  | SUBSTR => "SUBSTR"
  | REMOVE => "REMOVE"
  | EVM => "EVM"

end Opcode

/-- What the builder uses of the interpreter: case conversion, the text of an exception, and the tables
    of characters. -/
structure Runtime where
  lower : Str → Str
  upper : Str → Str
  excText : PyError → Str
  interp : Interpreter

/-- `Address.from_text` on a text. -/
def Runtime.fromText (self : Runtime) (text : Str) : Except PyError Address :=
  Address.fromText self.interp self.upper (some text)

/-- An argument of a call.  Lists and tuples are treated alike; a point in time is given by its whole
    seconds since the epoch, and a value of any other class by the name of the class. -/
inductive Arg where
  | nil
  | address (value : Address)
  | str (value : Str)
  | bool (value : Bool)
  | bytes (value : Bytes)
  | int (value : Int)
  | datetime (unixSeconds : Int)
  | list (value : List Arg)
  | other (typeName : String)

/-- The fields of the builder; the tables are in the order of insertion. -/
structure ScriptBuilder where
  writer : Bytes := []
  jumpLocations : List (Nat × Str) := []
  labelLocations : List (Str × Nat) := []
  error : Option PyError := none
  deriving DecidableEq

/-- `dict[key] = value`. -/
def setEntry {κ ν : Type} [DecidableEq κ] (entries : List (κ × ν)) (key : κ) (value : ν) :
    List (κ × ν) :=
  if entries.any fun entry => entry.1 = key
  then entries.map fun entry => if entry.1 = key then (key, value) else entry
  else entries ++ [(key, value)]

/-- `dict.get`. -/
def getEntry {κ ν : Type} [DecidableEq κ] (entries : List (κ × ν)) (key : κ) : Option ν :=
  (entries.find? fun entry => entry.1 = key).map Prod.snd

/-- An operation on the builder. -/
abbrev Build (α : Type) := ExceptT PyError (StateM ScriptBuilder) α

namespace ScriptBuilder

def MAX_REGISTER_COUNT : Int := 32

def currentSize (self : ScriptBuilder) : Nat := self.writer.length

/-- Run a writer on the builder's buffer. -/
def append (w : Writer Unit) : Build Unit := ExceptT.mk fun self =>
  match w with
  | .wrote _ out => (.ok (), { self with writer := self.writer ++ out })
  | .failed e out => (.error e, { self with writer := self.writer ++ out })

/-- `_fail`: the first error is kept. -/
def fail (message : Str) : Build Unit := ExceptT.mk fun self =>
  (.ok (), { self with error := self.error.or (some (.builderError message)) })

/-- `_fail` with an integer in the message, which may have too many digits to be formed. -/
def failWith (value : Int) (message : String → String) : Build Unit := do
  let text ← ExceptT.mk (pure (formatInt value))
  fail (Str.ofString (message text))

/-- `_byte`. -/
def byte (value : Int) : Build Unit := append (writeU8 value)

def emit (opcode : Opcode) : Build Unit := append (writeU8 opcode.toByte.toNat)

def emitRaw (data : Bytes) : Build Unit := append (write data)

def emitPush (reg : Int) : Build Unit := do
  emit .PUSH
  byte reg

def emitPop (reg : Int) : Build Unit := do
  emit .POP
  byte reg

def emitThrow (reg : Int) : Build Unit := do
  emit .THROW
  byte reg

/-! ## Loads -/

def emitLoad (reg : Int) (data : Bytes) (vmType : VMType) : Build Unit := do
  if data.length > 0xFFFF then
    fail (Str.ofString s!"tried to load too much data: {data.length} bytes")
  else
    emit .LOAD
    byte reg
    byte vmType.toByte.toNat
    append (writeVarUint data.length)
    append (write data)

def emitLoadString (reg : Int) (value : Str) : Build Unit := do
  let raw ← ExceptT.mk (pure (encodeText value))
  emitLoad reg raw .STRING

def emitLoadBool (reg : Int) (value : Bool) : Build Unit :=
  emitLoad reg (if value then [0x01] else [0x00]) .BOOL

def emitLoadNumber (reg : Int) (value : Int) : Build Unit :=
  emitLoad reg (bigIntToCsharpBytes value) .NUMBER

def emitLoadTime (reg : Int) (unixSeconds : Int) : Build Unit :=
  if unixSeconds < 0 ∨ unixSeconds > 0xFFFFFFFF then
    failWith unixSeconds fun text => s!"timestamp out of VM uint32 range: {text}"
  else
    emitLoad reg (natToLE 4 unixSeconds.toNat) .TIMESTAMP

def emitExtCall (method : Str) (reg : Int) : Build Unit := do
  emitLoadString reg method
  emit .EXTCALL
  byte reg

def emitMove (srcReg dstReg : Int) : Build Unit := do
  emit .MOVE
  byte srcReg
  byte dstReg

def emitCopy (srcReg dstReg : Int) : Build Unit := do
  emit .COPY
  byte srcReg
  byte dstReg

def emitVarBytes (value : Int) : Build Unit := append (writeVarUint value)

/-! ## Labels and jumps -/

def emitLabel (rt : Runtime) (label : Str) : Build Unit := do
  emit .NOP
  modify fun self =>
    { self with labelLocations := setEntry self.labelLocations (rt.lower label) self.currentSize }

/-- The two operand bytes of a jump or call, and their entry in the table of jumps. -/
def jumpOperand (label : Str) : Build Unit := do
  let offset := (← get).currentSize
  append (writeU16LE 0)
  modify fun self => { self with jumpLocations := setEntry self.jumpLocations offset label }

def emitJump (opcode : Opcode) (label : Str) (reg : Int) : Build Unit := do
  if opcode ≠ .JMP ∧ opcode ≠ .JMPIF ∧ opcode ≠ .JMPNOT then
    fail (Str.ofString s!"invalid jump opcode: {opcode.toByte}")
  else
    emit opcode
    if opcode ≠ .JMP then
      byte reg
      jumpOperand label
    else
      jumpOperand label

def emitCall (label : Str) (registerCount : Int) : Build Unit := do
  if registerCount < 1 ∨ registerCount > MAX_REGISTER_COUNT then
    failWith registerCount fun text => s!"invalid number of registers: {text}"
  else
    emit .CALL
    byte registerCount
    jumpOperand label

def emitConditionalJump (opcode : Opcode) (srcReg : Int) (label : Str) : Build Unit :=
  if opcode ≠ .JMPIF ∧ opcode ≠ .JMPNOT then
    fail (Str.ofString s!"invalid conditional jump opcode: {opcode.name}")
  else
    emitJump opcode label srcReg

/-! ## Calls -/

mutual

/-- `_load_into_register`. -/
def loadIntoRegister (reg : Int) : Arg → Build Unit
  | .nil => fail (Str.ofString "unsupported nil argument")
  | .address value => do
    let raw ← ExceptT.mk (pure value.prefixedBytes)
    emitLoad reg raw .BYTES
  | .str value => emitLoadString reg value
  | .bool value => emitLoadBool reg value
  | .bytes value => emitLoad reg value .BYTES
  | .int value => emitLoadNumber reg value
  | .datetime unixSeconds => emitLoadTime reg unixSeconds
  | .list value => do
    if reg > MAX_REGISTER_COUNT - 3 then
      failWith reg fun text => s!"array load needs three registers starting at {text}"
    else
      emit .CAST
      byte reg
      byte reg
      byte VMType.NONE.toByte.toNat
      loadItems reg 0 value
  | .other typeName => fail (Str.ofString s!"unsupported type {typeName}")

/-- The loop over the items of a list, from a given index on. -/
def loadItems (reg : Int) (index : Nat) : List Arg → Build Unit
  | [] => pure ()
  | item :: items => do
    loadIntoRegister (reg + 1) item
    -- `_load_into_register` on an `int` index
    emitLoadNumber (reg + 2) index
    emit .PUT
    byte (reg + 1)
    byte reg
    byte (reg + 2)
    loadItems reg (index + 1) items

end

/-- The loop of `_insert_method_args` over the arguments in reverse. -/
def insertArgs : List Arg → Build Unit
  | [] => pure ()
  | arg :: args => do
    loadIntoRegister 0 arg
    emitPush 0
    insertArgs args

/-- `_insert_method_args`. -/
def insertMethodArgs (args : List Arg) : Build Unit := insertArgs args.reverse

def callInterop (method : Str) (args : List Arg) : Build Unit := do
  insertMethodArgs args
  emitLoadString 0 method
  emit .EXTCALL
  byte 0

def callContract (contractName method : Str) (args : List Arg) : Build Unit := do
  insertMethodArgs args
  emitLoadString 0 method
  emitPush 0
  emitLoadString 0 contractName
  emit .CTX
  byte 0
  byte 1
  emit .SWITCH
  byte 1

/-! ## Call helpers -/

/-- The helpers that call one method of one contract, under the names of the source.  The second
    group takes addresses as texts. -/
inductive Helper where
  | allowGas (fromAddress toAddress : Address) (gasPrice gasLimit : Int)
  | spendGas (address : Address)
  | transferTokens (symbol : Str) (fromAddress toAddress : Address) (amount : Int)
  | mintTokens (symbol : Str) (fromAddress toAddress : Address) (amount : Int)
  | transferBalance (symbol : Str) (fromAddress toAddress : Address)
  | transferNft (symbol : Str) (fromAddress toAddress : Address) (tokenId : Int)
  | crossTransferToken (destinationChain : Address) (symbol : Str) (fromAddress toAddress : Address)
      (amount : Int)
  | crossTransferNft (destinationChain : Address) (symbol : Str) (fromAddress toAddress : Address)
      (tokenId : Int)
  | stake (address : Address) (amount : Int)
  | unstake (address : Address) (amount : Int)
  | callNft (symbol : Str) (seriesId : Int) (method : Str) (args : List Arg)

inductive TextHelper where
  | allowGasText (fromAddress toAddress : Str) (gasPrice gasLimit : Int)
  | spendGasText (address : Str)
  | transferTokensText (symbol fromAddress toAddress : Str) (amount : Int)
  | mintTokensText (symbol fromAddress toAddress : Str) (amount : Int)
  | transferTokensToText (symbol : Str) (fromAddress : Address) (toAddress : Str) (amount : Int)
  | transferBalanceText (symbol fromAddress toAddress : Str)
  | transferNftText (symbol fromAddress toAddress : Str) (tokenId : Int)
  | transferNftToText (symbol : Str) (fromAddress : Address) (toAddress : Str) (tokenId : Int)
  | crossTransferTokenText (destinationChain symbol fromAddress toAddress : Str) (amount : Int)
  | crossTransferTokenToText (destinationChain : Address) (symbol : Str) (fromAddress : Address)
      (toAddress : Str) (amount : Int)
  | crossTransferNftText (destinationChain symbol fromAddress toAddress : Str) (tokenId : Int)
  | crossTransferNftToText (destinationChain : Address) (symbol : Str) (fromAddress : Address)
      (toAddress : Str) (tokenId : Int)
  | stakeText (address : Str) (amount : Int)
  | unstakeText (address : Str) (amount : Int)

def Helper.run : Helper → Build Unit
  | allowGas sender receiver gasPrice gasLimit =>
    callContract (Str.ofString "gas") (Str.ofString "AllowGas")
      [.address sender, .address receiver, .int gasPrice, .int gasLimit]
  | spendGas address => callContract (Str.ofString "gas") (Str.ofString "SpendGas") [.address address]
  | transferTokens symbol sender receiver amount =>
    callInterop (Str.ofString "Runtime.TransferTokens")
      [.address sender, .address receiver, .str symbol, .int amount]
  | mintTokens symbol sender receiver amount =>
    callInterop (Str.ofString "Runtime.MintTokens")
      [.address sender, .address receiver, .str symbol, .int amount]
  | transferBalance symbol sender receiver =>
    callInterop (Str.ofString "Runtime.TransferBalance") [.address sender, .address receiver, .str symbol]
  | transferNft symbol sender receiver tokenId =>
    callInterop (Str.ofString "Runtime.TransferToken")
      [.address sender, .address receiver, .str symbol, .int tokenId]
  | crossTransferToken destination symbol sender receiver amount =>
    callInterop (Str.ofString "Runtime.SendTokens")
      [.address destination, .address sender, .address receiver, .str symbol, .int amount]
  | crossTransferNft destination symbol sender receiver tokenId =>
    callInterop (Str.ofString "Runtime.SendToken")
      [.address destination, .address sender, .address receiver, .str symbol, .int tokenId]
  | stake address amount =>
    callContract (Str.ofString "stake") (Str.ofString "Stake") [.address address, .int amount]
  | unstake address amount =>
    callContract (Str.ofString "stake") (Str.ofString "Unstake") [.address address, .int amount]
  | callNft symbol seriesId method args => do
    let digits ← ExceptT.mk (pure (formatInt seriesId))
    callContract (symbol ++ Str.ofString s!"#{digits}") method args

/-- The `try` around a helper: an exception becomes the builder's error. -/
def attempt (rt : Runtime) (p : Build Unit) : Build Unit :=
  tryCatch p fun e => fail (rt.excText e)

/-- `Address.from_text` in an operation. -/
def parse (rt : Runtime) (text : Str) : Build Address := ExceptT.mk (pure (rt.fromText text))

def TextHelper.run (rt : Runtime) : TextHelper → Build Unit
  | allowGasText sender receiver gasPrice gasLimit => attempt rt do
    let sender ← parse rt sender
    let receiver ← parse rt receiver
    (Helper.allowGas sender receiver gasPrice gasLimit).run
  | spendGasText address => attempt rt do
    let address ← parse rt address
    (Helper.spendGas address).run
  | transferTokensText symbol sender receiver amount => attempt rt do
    let sender ← parse rt sender
    let receiver ← parse rt receiver
    (Helper.transferTokens symbol sender receiver amount).run
  | mintTokensText symbol sender receiver amount => attempt rt do
    let sender ← parse rt sender
    let receiver ← parse rt receiver
    (Helper.mintTokens symbol sender receiver amount).run
  | transferTokensToText symbol sender receiver amount => attempt rt do
    let receiver ← parse rt receiver
    (Helper.transferTokens symbol sender receiver amount).run
  | transferBalanceText symbol sender receiver => attempt rt do
    let sender ← parse rt sender
    let receiver ← parse rt receiver
    (Helper.transferBalance symbol sender receiver).run
  | transferNftText symbol sender receiver tokenId => attempt rt do
    let sender ← parse rt sender
    let receiver ← parse rt receiver
    (Helper.transferNft symbol sender receiver tokenId).run
  | transferNftToText symbol sender receiver tokenId => attempt rt do
    let receiver ← parse rt receiver
    (Helper.transferNft symbol sender receiver tokenId).run
  | crossTransferTokenText destination symbol sender receiver amount => attempt rt do
    let destination ← parse rt destination
    let sender ← parse rt sender
    let receiver ← parse rt receiver
    (Helper.crossTransferToken destination symbol sender receiver amount).run
  | crossTransferTokenToText destination symbol sender receiver amount => attempt rt do
    let receiver ← parse rt receiver
    (Helper.crossTransferToken destination symbol sender receiver amount).run
  | crossTransferNftText destination symbol sender receiver tokenId => attempt rt do
    let destination ← parse rt destination
    let sender ← parse rt sender
    let receiver ← parse rt receiver
    (Helper.crossTransferNft destination symbol sender receiver tokenId).run
  | crossTransferNftToText destination symbol sender receiver tokenId => attempt rt do
    let receiver ← parse rt receiver
    (Helper.crossTransferNft destination symbol sender receiver tokenId).run
  | stakeText address amount => attempt rt do
    let address ← parse rt address
    (Helper.stake address amount).run
  | unstakeText address amount => attempt rt do
    let address ← parse rt address
    (Helper.unstake address amount).run

/-! ## Scripts -/

/-- One round of the loop in `to_script`: write the target of a jump over its operand. -/
def patch (rt : Runtime) (labels : List (Str × Nat)) (script : Bytes) (jump : Nat × Str) :
    Except PyError Bytes :=
  match getEntry labels (rt.lower jump.2) with
  | none => .error (.builderError (Str.ofString "could not find label: " ++ jump.2))
  | some target =>
    if jump.1 + 1 ≥ script.length then
      .error (builderError s!"invalid jump patch offset: {jump.1}")
    else if target ≥ 2 ^ 16 then
      .error .overflowError
    else
      .ok (script.take jump.1 ++ natToLE 2 target ++ script.drop (jump.1 + 2))

def toScript (rt : Runtime) (self : ScriptBuilder) : Except PyError Bytes :=
  self.jumpLocations.foldlM (patch rt self.labelLocations) self.writer

/-- `end_script_with_error`, which emits the closing `RET`. -/
def endScriptWithError (rt : Runtime) (self : ScriptBuilder) : Bytes × Option PyError :=
  let self := ((emit .RET).run self).2
  match self.error with
  | some e => ([], some e)
  | none =>
    match toScript rt self with
    | .ok script => (script, none)
    | .error e => ([], some e)

/-- `end_script`, which raises the error instead. -/
def endScript (rt : Runtime) (self : ScriptBuilder) : Except PyError Bytes :=
  match endScriptWithError rt self with
  | (_, some e) => .error e
  | (script, none) => .ok script

end ScriptBuilder

end PhantasmaPy.VM
