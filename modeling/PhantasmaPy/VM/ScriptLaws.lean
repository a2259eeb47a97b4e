import PhantasmaPy.VM.Instructions
import PhantasmaPy.VM.Scripts

/-! # What scripts of calls mean

A chain of calls, by address or by text, finishes exactly if every call of it can be loaded, and the
finished script then does the invocations that the calls ask for, in order, on every executor and host.
-/

namespace PhantasmaPy.VM

open Wire

namespace ScriptBuilder

/-! ## Calls -/

/-- A call of a method of the runtime or of a contract. -/
inductive Call where
  | interop (method : Str) (args : List Arg)
  | contract (contractName method : Str) (args : List Arg)

def Call.run : Call → Build Unit
  | interop method args => callInterop method args
  | contract contractName method args => callContract contractName method args

/-- The call that a helper makes, if it can form the name of the contract. -/
def Helper.call : Helper → Except PyError Call
  | allowGas sender receiver gasPrice gasLimit =>
    return .contract (Str.ofString "gas") (Str.ofString "AllowGas")
      [.address sender, .address receiver, .int gasPrice, .int gasLimit]
  | spendGas address => return .contract (Str.ofString "gas") (Str.ofString "SpendGas") [.address address]
  | transferTokens symbol sender receiver amount =>
    return .interop (Str.ofString "Runtime.TransferTokens")
      [.address sender, .address receiver, .str symbol, .int amount]
  | mintTokens symbol sender receiver amount =>
    return .interop (Str.ofString "Runtime.MintTokens")
      [.address sender, .address receiver, .str symbol, .int amount]
  | transferBalance symbol sender receiver =>
    return .interop (Str.ofString "Runtime.TransferBalance") [.address sender, .address receiver, .str symbol]
  | transferNft symbol sender receiver tokenId =>
    return .interop (Str.ofString "Runtime.TransferToken")
      [.address sender, .address receiver, .str symbol, .int tokenId]
  | crossTransferToken destination symbol sender receiver amount =>
    return .interop (Str.ofString "Runtime.SendTokens")
      [.address destination, .address sender, .address receiver, .str symbol, .int amount]
  | crossTransferNft destination symbol sender receiver tokenId =>
    return .interop (Str.ofString "Runtime.SendToken")
      [.address destination, .address sender, .address receiver, .str symbol, .int tokenId]
  | stake address amount =>
    return .contract (Str.ofString "stake") (Str.ofString "Stake") [.address address, .int amount]
  | unstake address amount =>
    return .contract (Str.ofString "stake") (Str.ofString "Unstake") [.address address, .int amount]
  | callNft symbol seriesId method args => do
    let digits ← formatInt seriesId
    return .contract (symbol ++ Str.ofString s!"#{digits}") method args

/-- The helper by address for a helper by text, if the texts are addresses. -/
def TextHelper.resolve (rt : Runtime) : TextHelper → Except PyError Helper
  | allowGasText sender receiver gasPrice gasLimit => do
    let sender ← rt.fromText sender
    let receiver ← rt.fromText receiver
    return .allowGas sender receiver gasPrice gasLimit
  | spendGasText address => do
    let address ← rt.fromText address
    return .spendGas address
  | transferTokensText symbol sender receiver amount => do
    let sender ← rt.fromText sender
    let receiver ← rt.fromText receiver
    return .transferTokens symbol sender receiver amount
  | mintTokensText symbol sender receiver amount => do
    let sender ← rt.fromText sender
    let receiver ← rt.fromText receiver
    return .mintTokens symbol sender receiver amount
  | transferTokensToText symbol sender receiver amount => do
    let receiver ← rt.fromText receiver
    return .transferTokens symbol sender receiver amount
  | transferBalanceText symbol sender receiver => do
    let sender ← rt.fromText sender
    let receiver ← rt.fromText receiver
    return .transferBalance symbol sender receiver
  | transferNftText symbol sender receiver tokenId => do
    let sender ← rt.fromText sender
    let receiver ← rt.fromText receiver
    return .transferNft symbol sender receiver tokenId
  | transferNftToText symbol sender receiver tokenId => do
    let receiver ← rt.fromText receiver
    return .transferNft symbol sender receiver tokenId
  | crossTransferTokenText destination symbol sender receiver amount => do
    let destination ← rt.fromText destination
    let sender ← rt.fromText sender
    let receiver ← rt.fromText receiver
    return .crossTransferToken destination symbol sender receiver amount
  | crossTransferTokenToText destination symbol sender receiver amount => do
    let receiver ← rt.fromText receiver
    return .crossTransferToken destination symbol sender receiver amount
  | crossTransferNftText destination symbol sender receiver tokenId => do
    let destination ← rt.fromText destination
    let sender ← rt.fromText sender
    let receiver ← rt.fromText receiver
    return .crossTransferNft destination symbol sender receiver tokenId
  | crossTransferNftToText destination symbol sender receiver tokenId => do
    let receiver ← rt.fromText receiver
    return .crossTransferNft destination symbol sender receiver tokenId
  | stakeText address amount => do
    let address ← rt.fromText address
    return .stake address amount
  | unstakeText address amount => do
    let address ← rt.fromText address
    return .unstake address amount

/-- A pure computation in two parts. -/
theorem lift_bind {α β γ : Type} (first : Except PyError α) (f : α → Except PyError β) (g : β → Build γ) :
    (ExceptT.mk (pure (first >>= f)) >>= g : Build γ) =
      ExceptT.mk (pure first) >>= fun a => ExceptT.mk (pure (f a)) >>= g := by
  cases first <;> rfl

theorem lift_pure {α β : Type} (a : α) (g : α → Build β) :
    (ExceptT.mk (pure (pure a : Except PyError α)) >>= g : Build β) = g a := rfl

theorem Helper.run_eq (helper : Helper) : helper.run = ExceptT.mk (pure helper.call) >>= Call.run := by
  cases helper <;> simp only [Helper.call, lift_bind, lift_pure] <;> rfl

theorem TextHelper.run_eq (rt : Runtime) (helper : TextHelper) :
    helper.run rt = attempt rt (ExceptT.mk (pure (helper.resolve rt)) >>= Helper.run) := by
  cases helper <;> simp only [TextHelper.resolve, lift_bind, lift_pure] <;> rfl

/-! ## Chains of calls -/

/-- The operations that call. -/
def Op.Calls : Op → Prop
  | callInterop _ _ => True
  | callContract _ _ _ => True
  | helper _ => True
  | textHelper _ => True
  | _ => False

/-- The call of such an operation, if its texts are addresses and its series id can be printed. -/
def Op.call? (rt : Runtime) : Op → Option Call
  | callInterop method args => some (.interop method args)
  | callContract contractName method args => some (.contract contractName method args)
  | helper call => call.call.toOption
  | textHelper call => (call.resolve rt >>= Helper.call).toOption
  | _ => none

/-- Operations in a chain, which an exception ends. -/
def chain (rt : Runtime) : List Op → Build Unit
  | [] => pure ()
  | op :: ops => do
    op.run rt
    chain rt ops

/-- The script of a chain on a fresh builder. -/
def script (rt : Runtime) (ops : List Op) : Except PyError Bytes :=
  match exec (chain rt ops) {} with
  | (.ok _, s) => endScript rt s
  | (.error e, _) => .error e

/-! ## What a chain asks for -/

/-- The invocation that a call asks for: its target, and the values of its arguments in order; a
    contract has the name of the method on top of them. -/
inductive Call.Asks : Call → Invocation → Prop
  | interop {method : Str} {args : List Arg} {values : List Value} {name : Bytes}
      (denotes : Denotes args values) (encoded : method.encodeUtf8 = some name) :
      Asks (.interop method args) ⟨.interop name, values⟩
  | contract {contractName method : Str} {args : List Arg} {values : List Value} {contract name : Bytes}
      (denotes : Denotes args values) (encoded : method.encodeUtf8 = some name)
      (encodedContract : contractName.encodeUtf8 = some contract) :
      Asks (.contract contractName method args) ⟨.contract contract, .data .STRING name :: values⟩

def Op.Asks (rt : Runtime) (op : Op) (invocation : Invocation) : Prop :=
  ∃ call, op.call? rt = some call ∧ call.Asks invocation

theorem call_performs (call : Call) : Produces call.run fun instrs =>
    ∃ invocation, call.Asks invocation ∧ Performs [invocation] instrs := by
  cases call with
  | interop method args =>
    refine (callInterop_produces method args).mono ?_
    rintro instrs ⟨values, name, denotes, encoded, isCall⟩
    exact ⟨_, .interop denotes encoded, isCall.performs fun runs s => extcall_leaves runs s⟩
  | contract contractName method args =>
    refine (callContract_produces contractName method args).mono ?_
    rintro instrs ⟨values, name, contract, denotes, encoded, encodedContract, isCall⟩
    exact ⟨_, .contract denotes encoded encodedContract,
      isCall.performs fun runs s => switch_leaves runs s⟩

/-- A swallowed exception is an error of the builder. -/
theorem attempt_produces (rt : Runtime) {p : Build Unit} {P : List Instr → Prop} (produces : Produces p P) :
    Produces (attempt rt p) P := by
  intro s s' run noError
  unfold attempt at run
  rw [exec_tryCatch] at run
  rcases tried : exec p s with ⟨result, mid⟩
  rw [tried] at run
  cases result with
  | ok =>
    cases run
    exact produces s s' tried noError
  | error e =>
    cases run
    cases kept : mid.error <;> simp [kept] at noError

theorem op_performs (rt : Runtime) {op : Op} (calls : op.Calls) : Produces (op.run rt) fun instrs =>
    ∃ invocation, op.Asks rt invocation ∧ Performs [invocation] instrs := by
  -- every calling operation comes down to one of the two calls
  have asks (call : Call) (found : op.call? rt = some call) : Produces call.run fun instrs =>
      ∃ invocation, op.Asks rt invocation ∧ Performs [invocation] instrs :=
    (call_performs call).mono fun instrs ⟨invocation, asked, performs⟩ =>
      ⟨invocation, ⟨call, found, asked⟩, performs⟩
  cases op with
  | callInterop method args => exact asks (.interop method args) rfl
  | callContract contractName method args => exact asks (.contract contractName method args) rfl
  | helper call =>
    change Produces call.run _
    rw [call.run_eq]
    exact produces_check fun made named => asks made (by simp [Op.call?, named, Except.toOption])
  | textHelper call =>
    change Produces (call.run rt) _
    rw [call.run_eq]
    refine attempt_produces rt (produces_check fun found resolved => ?_)
    rw [found.run_eq]
    refine produces_check fun made named => asks made ?_
    change (call.resolve rt >>= Helper.call).toOption = some made
    rw [resolved]
    exact congrArg Except.toOption named
  | _ => exact calls.elim

theorem chain_performs (rt : Runtime) {ops : List Op} (calls : ∀ op ∈ ops, op.Calls) :
    Produces (chain rt ops) fun instrs => ∃ invocations,
      List.Forall₂ (Op.Asks rt) ops invocations ∧ Performs invocations instrs := by
  induction ops with
  | nil => exact produces_pure ⟨[], .nil, performs_nil⟩
  | cons op ops ih =>
    obtain ⟨here, later⟩ := List.forall_mem_cons.mp calls
    refine (op_performs rt here).seq (ih later) ?_
    rintro left right ⟨invocation, asked, first⟩ ⟨invocations, askedLater, rest⟩
    exact ⟨invocation :: invocations, .cons asked askedLater, first.append rest⟩

/-! ## Which chains are accepted -/

/-- The payload of a load is within its limit. -/
def Short (payload : Bytes) : Prop := payload.length ≤ 0xFFFF

/-- The text has a UTF-8 form within the limit of a load. -/
def ShortText (value : Str) : Prop := ∃ raw, value.encodeUtf8 = some raw ∧ Short raw

mutual

/-- The argument can be loaded into a register: payloads are short, and a list has two more registers
    for its items and their indices. -/
def Loadable (reg : Int) : Arg → Prop
  | .nil => False
  | .address _ => True
  | .str value => ShortText value
  | .bool _ => True
  | .bytes value => Short value
  | .int value => Short (bigIntToCsharpBytes value)
  | .datetime unixSeconds => Unsigned 32 unixSeconds
  | .list items => reg ≤ 29 ∧ LoadableItems reg 0 items
  | .other _ => False

def LoadableItems (reg : Int) (index : Nat) : List Arg → Prop
  | [] => True
  | item :: items => Loadable (reg + 1) item ∧ Short (bigIntToCsharpBytes index) ∧
      LoadableItems reg (index + 1) items

end

def Call.Loadable : Call → Prop
  | interop method args => (∀ arg ∈ args, ScriptBuilder.Loadable 0 arg) ∧ ShortText method
  | contract contractName method args =>
    (∀ arg ∈ args, ScriptBuilder.Loadable 0 arg) ∧ ShortText method ∧ ShortText contractName

/-- Texts of addresses are addresses, series ids can be printed, and the call can be loaded. -/
def Op.Loadable (rt : Runtime) (op : Op) : Prop := ∃ call, op.call? rt = some call ∧ call.Loadable

/-- The operation returns and leaves no error exactly if there was none before and the condition holds. -/
def Accepts (p : Build Unit) (condition : Prop) : Prop := ∀ s : ScriptBuilder,
  (∃ s', exec p s = (.ok (), s') ∧ s'.error = none) ↔ s.error = none ∧ condition

section Accepts

variable {p q : Build Unit} {P Q : Prop}

theorem Accepts.iff (accepts : Accepts p P) (same : P ↔ Q) : Accepts p Q := propext same ▸ accepts

theorem Accepts.seq (first : Accepts p P) (second : Accepts q Q) : Accepts (do p; q) (P ∧ Q) := by
  intro s
  have head := first s
  rw [exec_bind]
  rcases run : exec p s with ⟨result, mid⟩
  rw [run] at head
  cases result with
  | error e =>
    constructor
    · rintro ⟨s', absurd, -⟩
      cases absurd
    · rintro ⟨noError, here, -⟩
      obtain ⟨s', absurd, -⟩ := head.mpr ⟨noError, here⟩
      cases absurd
  | ok =>
    have tail := second mid
    dsimp only
    rw [tail]
    constructor
    · rintro ⟨noError, there⟩
      obtain ⟨clean, here⟩ := head.mp ⟨mid, rfl, noError⟩
      exact ⟨clean, here, there⟩
    · rintro ⟨clean, here, there⟩
      obtain ⟨s', same, noError⟩ := head.mpr ⟨clean, here⟩
      cases same
      exact ⟨noError, there⟩

theorem accepts_pure : Accepts (pure ()) True := by
  intro s
  simp

theorem accepts_fail (message : Str) : Accepts (fail message) False := by
  intro s
  rw [exec_fail]
  cases kept : s.error <;> simp

theorem accepts_failWith (value : Int) (message : String → String) : Accepts (failWith value message) False := by
  intro s
  rw [failWith, exec_bind, exec_mk_pure]
  cases formatInt value with
  | error e => simp
  | ok text => exact accepts_fail _ s

theorem accepts_appends {out : Bytes} (appends : Appends p out) : Accepts p True := by
  intro s
  rw [appends s]
  simp

/-- Bytes that are always written, in front of an operation. -/
theorem Accepts.after {out : Bytes} (second : Accepts q Q) (appends : Appends p out) :
    Accepts (do p; q) Q := ((accepts_appends appends).seq second).iff (iff_of_eq (true_and Q))

theorem accepts_check {α : Type} {result : Except PyError α} {f : α → Build Unit} {P : α → Prop}
    (accepts : ∀ a, result = .ok a → Accepts (f a) (P a)) :
    Accepts (ExceptT.mk (pure result) >>= f) (∃ a, result = .ok a ∧ P a) := by
  intro s
  rw [exec_bind, exec_mk_pure]
  cases result with
  | error e => simp
  | ok a =>
    dsimp only
    rw [accepts a rfl s]
    simp

/-- A swallowed exception is an error of the builder. -/
theorem accepts_attempt (rt : Runtime) (accepts : Accepts p P) : Accepts (attempt rt p) P := by
  intro s
  rw [← accepts s]
  unfold attempt
  rw [exec_tryCatch]
  rcases exec p s with ⟨result, mid⟩
  cases result with
  | ok => rfl
  | error e =>
    dsimp only
    rw [exec_fail]
    cases mid.error <;> simp

end Accepts

theorem accepts_load (reg : Register) (data : Bytes) (vmType : VMType) :
    Accepts (emitLoad reg.val data vmType) (Short data) := by
  unfold emitLoad Short
  split
  next long => exact (accepts_fail _).iff (by simpa using long)
  next small =>
    obtain ⟨size, emits, -⟩ := varUint_roundTrips data.length ⟨by positivity, by omega⟩
    have appendsSize : Appends (append (writeVarUint data.length)) size := exec_append_emits emits
    have appendsData : Appends (append (write data)) data := exec_append_emits (emits_write.mpr rfl)
    have appends := (appends_emit .LOAD).seq ((appends_byte reg).seq
      ((appends_vmType vmType).seq (appendsSize.seq appendsData)))
    exact (accepts_appends appends).iff (by simpa using small)

theorem accepts_loadString (reg : Register) (value : Str) :
    Accepts (emitLoadString reg.val value) (ShortText value) := by
  refine (accepts_check fun raw _ => accepts_load reg raw .STRING).iff ?_
  unfold ShortText
  simp only [encodeText_eq_ok]

theorem short_nat (width value : Nat) (narrow : width ≤ 0xFFFF) : Short (natToLE width value) := by
  unfold Short
  rwa [length_natToLE]

mutual

theorem accepts_loadIntoRegister (reg : Register) : ∀ arg,
    Accepts (loadIntoRegister reg.val arg) (Loadable reg.val arg)
  | .nil => accepts_fail _
  | .other typeName => accepts_fail _
  | .address value => by
    refine (accepts_check fun raw _ => accepts_load reg raw .BYTES).iff ?_
    rw [prefixedBytes_eq]
    simp [Loadable, Short, value.length_eq, ADDRESS_LENGTH]
  | .str value => accepts_loadString reg value
  | .bool value => (accepts_load reg _ .BOOL).iff (by cases value <;> simp [Loadable, Short])
  | .bytes value => accepts_load reg value .BYTES
  | .int value => accepts_load reg _ .NUMBER
  | .datetime unixSeconds => by
    change Accepts (emitLoadTime reg.val unixSeconds) (Unsigned 32 unixSeconds)
    unfold emitLoadTime Unsigned
    split
    next outside => exact (accepts_failWith _ _).iff (iff_of_false id (by omega))
    next inside =>
      refine (accepts_load reg _ .TIMESTAMP).iff ?_
      have short := short_nat 4 unixSeconds.toNat (by decide)
      simp only [short, true_iff]
      omega
  | .list items => by
    change Accepts (if (reg.val : Int) > MAX_REGISTER_COUNT - 3 then _ else _) (_ ∧ _)
    unfold MAX_REGISTER_COUNT
    -- the array needs two registers above its own
    split
    next full => exact (accepts_failWith _ _).iff (iff_of_false id fun ⟨room, _⟩ => by omega)
    next room =>
      have entries := accepts_loadItems reg ⟨reg.val + 1, by omega⟩ ⟨reg.val + 2, by omega⟩ rfl rfl 0 items
      have cast := (appends_emit .CAST).seq ((appends_byte reg).seq
        ((appends_byte reg).seq (appends_vmType .NONE)))
      have grouped := entries.after cast
      refine @Accepts.iff _ (LoadableItems reg.val 0 items) _ ?_ (iff_and_self.mpr fun _ => by omega)
      simpa only [bind_assoc] using grouped

theorem accepts_loadItems (reg value key : Register) (valueNext : value.val = reg.val + 1)
    (keyNext : key.val = reg.val + 2) (index : Nat) : ∀ items,
    Accepts (loadItems reg.val index items) (LoadableItems reg.val index items)
  | [] => accepts_pure
  | item :: items => by
    have valueOperand : (reg.val : Int) + 1 = value.val := by omega
    have keyOperand : (reg.val : Int) + 2 = key.val := by omega
    have put := (appends_emit .PUT).seq ((appends_byte value).seq ((appends_byte reg).seq (appends_byte key)))
    have rest := (accepts_loadItems reg value key valueNext keyNext (index + 1) items).after put
    have indexed := (accepts_load key (bigIntToCsharpBytes index) .NUMBER).seq rest
    have round := (accepts_loadIntoRegister value item).seq indexed
    rw [loadItems, LoadableItems, valueOperand, keyOperand]
    unfold emitLoadNumber
    simpa only [bind_assoc] using round

end

theorem accepts_insertArgs (args : List Arg) : Accepts (insertArgs args) (∀ arg ∈ args, Loadable 0 arg) := by
  induction args with
  | nil => exact accepts_pure.iff (by simp)
  | cons arg args ih =>
    have push := (appends_emit .PUSH).seq (appends_byte 0)
    have grouped := (accepts_loadIntoRegister 0 arg).seq (ih.after push)
    exact grouped.iff List.forall_mem_cons.symm

theorem accepts_insertMethodArgs (args : List Arg) :
    Accepts (insertMethodArgs args) (∀ arg ∈ args, Loadable 0 arg) :=
  (accepts_insertArgs args.reverse).iff (by simp only [List.mem_reverse])

theorem accepts_call (call : Call) : Accepts call.run call.Loadable := by
  cases call with
  | interop method args =>
    have leave := accepts_appends ((appends_emit .EXTCALL).seq (appends_byte 0))
    have named := (accepts_loadString 0 method).seq leave
    refine ((accepts_insertMethodArgs args).seq named).iff ?_
    rw [and_true]
    rfl
  | contract contractName method args =>
    have leave := accepts_appends ((appends_emit .CTX).seq ((appends_byte 0).seq ((appends_byte 1).seq
      ((appends_emit .SWITCH).seq (appends_byte 1)))))
    have push := (appends_emit .PUSH).seq (appends_byte 0)
    have contract := ((accepts_loadString 0 contractName).seq leave).after push
    have named := (accepts_loadString 0 method).seq contract
    refine ((accepts_insertMethodArgs args).seq named).iff ?_
    rw [and_true]
    rfl

/-- A call is made where the helper can form it. -/
theorem accepts_helper (helper : Helper) :
    Accepts helper.run (∃ call, helper.call = .ok call ∧ call.Loadable) := by
  rw [helper.run_eq]
  exact accepts_check fun call _ => accepts_call call

theorem accepts_op (rt : Runtime) {op : Op} (calls : op.Calls) : Accepts (op.run rt) (op.Loadable rt) := by
  have accepts (call : Call) (found : op.call? rt = some call) : Accepts call.run (op.Loadable rt) :=
    (accepts_call call).iff (by simp [Op.Loadable, found])
  cases op with
  | callInterop method args => exact accepts (.interop method args) rfl
  | callContract contractName method args => exact accepts (.contract contractName method args) rfl
  | helper helper =>
    refine (accepts_helper helper).iff (exists_congr fun call => and_congr_left' ?_)
    exact toOption_eq_some.symm
  | textHelper helper =>
    change Accepts (helper.run rt) _
    rw [helper.run_eq]
    refine accepts_attempt rt ((accepts_check fun found _ => accepts_helper found).iff ?_)
    change _ ↔ ∃ call, (helper.resolve rt >>= Helper.call).toOption = some call ∧ call.Loadable
    simp only [toOption_eq_some, except_bind_eq_ok]
    constructor
    · rintro ⟨found, resolved, call, named, loadable⟩
      exact ⟨call, ⟨found, resolved, named⟩, loadable⟩
    · rintro ⟨call, ⟨found, resolved, named⟩, loadable⟩
      exact ⟨found, resolved, call, named, loadable⟩
  | _ => exact calls.elim

theorem accepts_chain (rt : Runtime) {ops : List Op} (calls : ∀ op ∈ ops, op.Calls) :
    Accepts (chain rt ops) (∀ op ∈ ops, op.Loadable rt) := by
  induction ops with
  | nil => exact accepts_pure.iff (by simp)
  | cons op ops ih =>
    obtain ⟨here, later⟩ := List.forall_mem_cons.mp calls
    exact ((accepts_op rt here).seq (ih later)).iff List.forall_mem_cons.symm

/-! ## Finished scripts -/

/-- A chain without jumps and errors is finished by its `RET`. -/
theorem endScript_plain (rt : Runtime) (out : Bytes) :
    endScript rt { writer := out } = .ok (out ++ [Opcode.RET.toByte]) := by
  rw [endScript_eq]
  rfl

/-- A chain finishes if it returns without an error. -/
theorem script_iff {rt : Runtime} {ops : List Op} {bytes : Bytes} :
    script rt ops = .ok bytes ↔
      ∃ s, exec (chain rt ops) {} = (.ok (), s) ∧ s.error = none ∧ endScript rt s = .ok bytes := by
  unfold script
  rcases exec (chain rt ops) {} with ⟨result, s⟩
  cases result with
  | error e => simp
  | ok =>
    simp only [Prod.mk.injEq, true_and, exists_eq_left', iff_and_self]
    intro finished
    rw [endScript_eq] at finished
    cases kept : s.error with
    | none => rfl
    | some e =>
      rw [kept] at finished
      cases finished

theorem script_eq_ok {rt : Runtime} {ops : List Op} (calls : ∀ op ∈ ops, op.Calls) {bytes : Bytes} :
    script rt ops = .ok bytes ↔
      ∃ out, exec (chain rt ops) {} = (.ok (), { writer := out }) ∧ bytes = out ++ [Opcode.RET.toByte] := by
  constructor
  · intro finished
    obtain ⟨s, run, noError, ended⟩ := script_iff.mp finished
    obtain ⟨out, instrs, rfl, -⟩ := chain_performs rt calls {} s run noError
    rw [List.nil_append, endScript_plain] at ended
    exact ⟨out, run, (Except.ok.inj ended).symm⟩
  · rintro ⟨out, run, rfl⟩
    exact script_iff.mpr ⟨_, run, rfl, endScript_plain rt out⟩

/-- A chain of calls finishes exactly if all its calls can be loaded, and on every executor the host of
    the finished script sees the invocations that the calls ask for, in order, and nothing else. -/
theorem scripts_perform (rt : Runtime) (ops : List Op) (calls : ∀ op ∈ ops, op.Calls) :
    ((∃ bytes, script rt ops = .ok bytes) ↔ ∀ op ∈ ops, op.Loadable rt) ∧
      ∀ bytes, script rt ops = .ok bytes → ∃ invocations,
        List.Forall₂ (Op.Asks rt) ops invocations ∧
        ∀ {σ : Type} {host : Host σ} {vm : Executor σ}, vm.Runs host → ∀ s,
          (vm.execute bytes s).map vm.outcome =
            invocations.foldlM (Invocation.perform host) (vm.outcome s) := by
  constructor
  · constructor
    · rintro ⟨bytes, finished⟩
      obtain ⟨out, run, rfl⟩ := (script_eq_ok calls).mp finished
      exact ((accepts_chain rt calls {}).mp ⟨_, run, rfl⟩).2
    · intro loadable
      obtain ⟨s, run, noError⟩ := (accepts_chain rt calls {}).mpr ⟨rfl, loadable⟩
      obtain ⟨out, instrs, rfl, -⟩ := chain_performs rt calls {} s run noError
      exact ⟨_, (script_eq_ok calls).mpr ⟨out, run, rfl⟩⟩
  · intro bytes finished
    obtain ⟨out, run, rfl⟩ := (script_eq_ok calls).mp finished
    -- the chain wrote whole instructions, which the executor runs in order
    obtain ⟨out', instrs, same, assembled, -, invocations, asked, performs⟩ :=
      chain_performs rt calls {} _ run rfl
    obtain rfl : out = out' := congrArg ScriptBuilder.writer same
    refine ⟨invocations, asked, fun runs s => ?_⟩
    rw [runs.script s assembled]
    exact performs runs s

/-- Gas is allowed, a method is called with nested lists, and the gas is spent. -/
def sampleChain : List Op :=
  let payer : Address := ⟨List.replicate 34 1, rfl⟩
  [.helper (.allowGas payer payer 100000 21000), .callInterop (Str.ofString "m") sampleArgs,
    .helper (.spendGas payer)]

theorem scripts_perform_sample : ∃ bytes invocations, script asciiRuntime sampleChain = .ok bytes ∧
    List.Forall₂ (Op.Asks asciiRuntime) sampleChain invocations ∧
    ∀ {σ : Type} (host : Host σ) (p : Process σ),
      (p.runScript host bytes).map Process.outcome =
        invocations.foldlM (Invocation.perform host) p.outcome := by
  have calls : ∀ op ∈ sampleChain, op.Calls := by simp [sampleChain, Op.Calls]
  cases finished : script asciiRuntime sampleChain with
  | error e =>
    have succeeds : (script asciiRuntime sampleChain).isOk = true := by decide +kernel
    rw [finished] at succeeds
    cases succeeds
  | ok bytes =>
    obtain ⟨invocations, asked, performs⟩ :=
      (scripts_perform asciiRuntime sampleChain calls).2 bytes finished
    exact ⟨bytes, invocations, rfl, asked, fun host p => performs (Process.executor_runs host) p⟩

/-! ## Chains by text -/

/-- A helper by text whose texts are addresses, as the helper by address. -/
def Op.byAddress (rt : Runtime) : Op → Op
  | textHelper call =>
    match call.resolve rt with
    | .ok found => helper found
    | .error _ => textHelper call
  | op => op

/-- Operations that come to the same when they return without an error. -/
def SameRuns (p q : Build Unit) : Prop := ∀ s s', s'.error = none →
  (exec p s = (.ok (), s') ↔ exec q s = (.ok (), s'))

theorem sameRuns_attempt (rt : Runtime) (p : Build Unit) : SameRuns (attempt rt p) p := by
  intro s s' noError
  unfold attempt
  rw [exec_tryCatch]
  rcases exec p s with ⟨result, mid⟩
  cases result with
  | ok => rfl
  | error e =>
    refine iff_of_false (fun failed => ?_) (fun absurd => by cases absurd)
    cases failed
    cases kept : mid.error <;> simp [kept] at noError

theorem byAddress_same (rt : Runtime) (op : Op) : SameRuns (op.run rt) ((op.byAddress rt).run rt) := by
  cases op with
  | textHelper call =>
    cases resolved : call.resolve rt with
    | error e =>
      unfold Op.byAddress
      simp only [resolved]
      exact fun _ _ _ => Iff.rfl
    | ok found =>
      unfold Op.byAddress
      simp only [resolved]
      change SameRuns (call.run rt) found.run
      rw [call.run_eq, resolved]
      exact sameRuns_attempt rt _
  | _ => exact fun _ _ _ => Iff.rfl

theorem chain_retains (rt : Runtime) (ops : List Op) : Moves Retains (chain rt ops) := by
  induction ops with
  | nil => exact moves_pure ()
  | cons op ops ih =>
    have step : Moves Retains (op.run rt) := fun s => step_moves rt s op
    exact step.bind fun _ => ih

theorem SameRuns.seq {p p' q q' : Build Unit} (first : SameRuns p p') (second : SameRuns q q')
    (keeps : Moves Retains q) (keeps' : Moves Retains q') : SameRuns (do p; q) (do p'; q') := by
  -- an error between the two would still be there at the end
  have split {p q : Build Unit} (keeps : Moves Retains q) {s s' : ScriptBuilder} (noError : s'.error = none) :
      exec (do p; q) s = (.ok (), s') ↔
        ∃ mid, exec p s = (.ok (), mid) ∧ mid.error = none ∧ exec q mid = (.ok (), s') := by
    rw [exec_bind]
    rcases run : exec p s with ⟨result, mid⟩
    cases result with
    | error e => simp
    | ok =>
      simp only [Prod.mk.injEq, true_and, exists_eq_left', iff_and_self]
      intro rest
      by_contra failed
      have stays := Retains.kept (keeps mid) failed
      rw [rest] at stays
      exact stays noError
  intro s s' noError
  rw [split keeps noError, split keeps' noError]
  constructor
  · rintro ⟨mid, before, clean, after⟩
    exact ⟨mid, (first s mid clean).mp before, clean, (second mid s' noError).mp after⟩
  · rintro ⟨mid, before, clean, after⟩
    exact ⟨mid, (first s mid clean).mpr before, clean, (second mid s' noError).mpr after⟩

theorem chain_same (rt : Runtime) (ops : List Op) :
    SameRuns (chain rt ops) (chain rt (ops.map (Op.byAddress rt))) := by
  induction ops with
  | nil => exact fun _ _ _ => Iff.rfl
  | cons op ops ih => exact (byAddress_same rt op).seq ih (chain_retains rt ops) (chain_retains rt _)

/-- In a chain of any operations, the helpers by text may be exchanged for the helpers by the addresses
    that their texts stand for: the same script comes out, or none in both cases. -/
theorem texts_exchanged (rt : Runtime) (ops : List Op) (bytes : Bytes) :
    script rt ops = .ok bytes ↔ script rt (ops.map (Op.byAddress rt)) = .ok bytes := by
  rw [script_iff, script_iff]
  refine exists_congr fun s => ?_
  constructor
  · rintro ⟨run, noError, finished⟩
    exact ⟨(chain_same rt ops {} s noError).mp run, noError, finished⟩
  · rintro ⟨run, noError, finished⟩
    exact ⟨(chain_same rt ops {} s noError).mpr run, noError, finished⟩

end ScriptBuilder

end PhantasmaPy.VM
