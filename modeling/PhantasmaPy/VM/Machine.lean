import PhantasmaPy.VM.BuilderLaws

/-! # The machine that scripts are for

The instructions that calls emit, with their byte form and their meaning on 32 registers and a stack.
The meaning is an assumption about the virtual machine, which is not part of the source.
-/

namespace PhantasmaPy.VM

open Wire

/-! ## Values and machines -/

/-- A register value: a number, another typed payload, or a map from numbers. -/
inductive Value where
  | number (value : Int)
  | data (vmType : VMType) (payload : Bytes)
  | map (entries : List (Int × Value))

/-- The value that a load of a type and payload gives. -/
def typedValue (vmType : VMType) (payload : Bytes) : Value :=
  if vmType = .NUMBER then .number (intOfLE payload) else .data vmType payload

abbrev Register := Fin 32

structure Machine where
  regs : Register → Value
  stack : List Value

namespace Machine

def setReg (self : Machine) (reg : Register) (value : Value) : Machine :=
  { self with regs := Function.update self.regs reg value }

@[simp] theorem setReg_stack (m : Machine) (reg : Register) (value : Value) :
    (m.setReg reg value).stack = m.stack := rfl

@[simp] theorem setReg_same (m : Machine) (reg : Register) (value : Value) :
    (m.setReg reg value).regs reg = value := Function.update_self ..

theorem setReg_ne (m : Machine) {reg other : Register} (value : Value) (ne : other ≠ reg) :
    (m.setReg reg value).regs other = m.regs other := Function.update_of_ne ne ..

end Machine

/-- The register that an operand names. -/
def register? (operand : UInt8) : Option Register :=
  if bound : operand.toNat < 32 then some ⟨operand.toNat, bound⟩ else none

/-- The operand for a register. -/
def operandOf (reg : Register) : UInt8 := UInt8.ofNat reg.val

@[simp] theorem register?_operandOf (reg : Register) : register? (operandOf reg) = some reg := by
  revert reg
  decide

theorem operandOf_lt (reg : Register) : (operandOf reg).toNat < 32 := by
  revert reg
  decide

/-! ## Instructions -/

inductive Instr where
  | load (reg : UInt8) (vmType : VMType) (payload : Bytes)
  | cast (src dst : UInt8) (vmType : VMType)
  | put (value map key : UInt8)
  | push (reg : UInt8)
  | extcall (reg : UInt8)
  | ctx (src dst : UInt8)
  | switch (reg : UInt8)

namespace Instr

/-- The register operands. -/
def operands : Instr → List UInt8
  | load reg _ _ => [reg]
  | cast src dst _ => [src, dst]
  | put value map key => [value, map, key]
  | push reg => [reg]
  | extcall reg => [reg]
  | ctx src dst => [src, dst]
  | switch reg => [reg]

def InRange (self : Instr) : Prop := ∀ operand ∈ self.operands, operand.toNat < 32

def read : Reader Instr := do
  let opcode ← readU8
  match opcode with
  | 3 => return push (← readU8)
  | 7 => return extcall (← readU8)
  | 13 => do
    let reg ← readU8
    let vmType ← Get.check (VMType.ofByte (← readU8))
    let count ← readVarUint
    let payload ← PhantasmaPy.read count
    return load reg vmType payload
  | 14 => do
    let src ← readU8
    let dst ← readU8
    let vmType ← Get.check (VMType.ofByte (← readU8))
    return cast src dst vmType
  | 45 => do
    let src ← readU8
    let dst ← readU8
    return ctx src dst
  | 46 => return switch (← readU8)
  | 47 => do
    let value ← readU8
    let map ← readU8
    let key ← readU8
    return put value map key
  | _ => throw .valueError

/-- One instruction on the machine.  Calls and switches of context leave the machine, and only a cast
    of a register to itself and to no type is given a meaning. -/
def step (m : Machine) : Instr → Option Machine
  | load reg vmType payload => do
    let reg ← register? reg
    return m.setReg reg (typedValue vmType payload)
  | cast src dst vmType => do
    let src ← register? src
    let dst ← register? dst
    if src = dst ∧ vmType = .NONE then return m.setReg dst (.map []) else none
  | put value map key => do
    let value ← register? value
    let map ← register? map
    let key ← register? key
    match m.regs map, m.regs key with
    | .map entries, .number key => return m.setReg map (.map (setEntry entries key (m.regs value)))
    | _, _ => none
  | push reg => do
    let reg ← register? reg
    return { m with stack := m.regs reg :: m.stack }
  | extcall _ => none
  | ctx _ _ => none
  | switch _ => none

/-- Instructions in order. -/
def run (instrs : List Instr) (m : Machine) : Option Machine := instrs.foldlM step m

theorem run_append (first second : List Instr) (m : Machine) :
    run (first ++ second) m = (run first m).bind (run second) := List.foldlM_append

end Instr

/-- The bytes are the instructions, each recognised whole. -/
abbrev Assembled : Bytes → List Instr → Prop := Get.Segmented Instr.read

theorem Instr.read_ne_nil (instr : Instr) : ¬ Instr.read.Parses [] instr := by
  intro parses
  obtain ⟨opcode, rest, first, -⟩ := Get.yields_bind.mp (parses [])
  have consumed := read1_consumes first
  exact absurd consumed (Nat.not_lt_zero _)

/-- Bytes are the instructions of at most one list. -/
theorem Assembled.unique {out : Bytes} {instrs instrs' : List Instr} (left : Assembled out instrs)
    (right : Assembled out instrs') : instrs' = instrs :=
  Get.Segmented.unique Instr.read_ne_nil left right

end PhantasmaPy.VM
