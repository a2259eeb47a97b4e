import PhantasmaPy.VM.CallLaws
import PhantasmaPy.VM.Finalising

/-! # Scripts of calls

What the script of a chain of calls does on a machine that runs it.  The machine is not part of the source:
`Executor` stands for it, `Executor.Runs` states what is assumed of it beyond the meaning of the
instructions that stay within registers and stack, and `Process` is a machine of that kind.
-/

namespace PhantasmaPy.VM

open Wire

/-! ## Executors -/

/-- What leaves the machine: a method of the runtime, or a contract. -/
inductive Target where
  | interop (method : Bytes)
  | contract (name : Bytes)

/-- The host of a script: a call takes its world and the stack to what they are after it, or aborts. -/
abbrev Host (σ : Type) := Target → σ × List Value → Option (σ × List Value)

/-- What runs scripts.  Its states show the machine, the contexts that the registers hold, and the world of
    the host. -/
structure Executor (σ : Type) where
  State : Type
  machine : State → Machine
  contexts : State → Register → Option Bytes
  world : State → σ
  step : Instr → State → Option State
  execute : Bytes → State → Option State

namespace Executor

variable {σ : Type}

/-- What the host sees. -/
def outcome (self : Executor σ) (s : self.State) : σ × List Value := (self.world s, (self.machine s).stack)

/-- Instructions in order. -/
def run (self : Executor σ) (instrs : List Instr) (s : self.State) : Option self.State :=
  instrs.foldlM (fun s instr => self.step instr s) s

/-- What is assumed of an executor. -/
structure Runs (vm : Executor σ) (host : Host σ) : Prop where
  /-- An instruction that has a meaning on the machine alone does this and leaves the world as it is. -/
  onMachine : ∀ {s instr machine}, instr.step (vm.machine s) = some machine →
    ∃ s', vm.step instr s = some s' ∧ vm.machine s' = machine ∧ vm.world s' = vm.world s
  /-- `EXTCALL` calls the method of the runtime that the register names. -/
  extcall : ∀ {s reg method}, (vm.machine s).regs reg = .data .STRING method →
    (vm.step (.extcall (operandOf reg)) s).map vm.outcome = host (.interop method) (vm.outcome s)
  /-- `CTX` puts the context of the contract that a register names into another. -/
  ctx : ∀ {s src dst name}, (vm.machine s).regs src = .data .STRING name →
    ∃ s', vm.step (.ctx (operandOf src) (operandOf dst)) s = some s' ∧ vm.contexts s' dst = some name ∧
      vm.outcome s' = vm.outcome s
  /-- `SWITCH` calls the contract whose context the register holds. -/
  switch : ∀ {s reg name}, vm.contexts s reg = some name →
    (vm.step (.switch (operandOf reg)) s).map vm.outcome = host (.contract name) (vm.outcome s)
  /-- A script of whole instructions runs them in order and ends with its `RET`. -/
  script : ∀ {out instrs} s, Assembled out instrs →
    vm.execute (out ++ [Opcode.RET.toByte]) s = vm.run instrs s

theorem run_append (self : Executor σ) (first second : List Instr) (s : self.State) :
    self.run (first ++ second) s = (self.run first s).bind (self.run second) := List.foldlM_append

theorem run_cons (self : Executor σ) (instr : Instr) (instrs : List Instr) (s : self.State) :
    self.run (instr :: instrs) s = (self.step instr s).bind (self.run instrs) := List.foldlM_cons

theorem run_single (self : Executor σ) (instr : Instr) (s : self.State) :
    self.run [instr] s = self.step instr s := by
  unfold run
  simp

/-- Instructions that have a meaning on the machine alone. -/
theorem Runs.run_machine {vm : Executor σ} {host : Host σ} (runs : vm.Runs host) {instrs : List Instr}
    (s : vm.State) {machine : Machine} (run : Instr.run instrs (vm.machine s) = some machine) :
    ∃ s', vm.run instrs s = some s' ∧ vm.machine s' = machine ∧ vm.world s' = vm.world s := by
  induction instrs generalizing s with
  | nil =>
    cases run
    exact ⟨s, rfl, rfl, rfl⟩
  | cons instr instrs ih =>
    unfold Instr.run at run
    rw [List.foldlM_cons] at run
    obtain ⟨mid, stepped, rest⟩ := Option.bind_eq_some_iff.mp run
    obtain ⟨s₁, first, onMid, sameWorld⟩ := runs.onMachine stepped
    obtain ⟨s₂, last, onMachine, stillSame⟩ := ih s₁ (onMid ▸ rest)
    exact ⟨s₂, by rw [run_cons, first]; exact last, onMachine, stillSame.trans sameWorld⟩

end Executor

/-! ## A machine with contexts -/

/-- A machine, the contexts that its registers hold, and the world of the host. -/
structure Process (σ : Type) where
  machine : Machine
  contexts : Register → Option Bytes
  world : σ

/-- The text in a register. -/
def Value.text? : Value → Option Bytes
  | .data .STRING payload => some payload
  | _ => none

/-- The registers whose value an instruction replaces. -/
def Instr.writes : Instr → List UInt8
  | .load reg _ _ => [reg]
  | .cast _ dst _ => [dst]
  | .put _ map _ => [map]
  | _ => []

namespace Process

variable {σ : Type}

/-- What the host sees. -/
def outcome (self : Process σ) : σ × List Value := (self.world, self.machine.stack)

/-- The host answers a call. -/
def leave (host : Host σ) (self : Process σ) (target : Target) : Option (Process σ) := do
  let (world, stack) ← host target self.outcome
  return { self with world, machine := { self.machine with stack } }

/-- A new value takes the place of a context. -/
def kept (self : Process σ) (instr : Instr) (reg : Register) : Option Bytes :=
  if operandOf reg ∈ instr.writes then none else self.contexts reg

def step (host : Host σ) (self : Process σ) : Instr → Option (Process σ)
  | .extcall reg => do
    let reg ← register? reg
    let method ← (self.machine.regs reg).text?
    self.leave host (.interop method)
  | .ctx src dst => do
    let src ← register? src
    let dst ← register? dst
    let name ← (self.machine.regs src).text?
    return { self with contexts := Function.update self.contexts dst (some name) }
  | .switch reg => do
    let reg ← register? reg
    let name ← self.contexts reg
    self.leave host (.contract name)
  | instr => do
    let machine ← instr.step self.machine
    return { self with machine, contexts := self.kept instr }

/-- Instructions in order. -/
def run (host : Host σ) (instrs : List Instr) (self : Process σ) : Option (Process σ) :=
  instrs.foldlM (step host) self

/-- Instructions read from the bytes of a script up to a `RET`. -/
def interpret (host : Host σ) : Nat → Bytes → Process σ → Option (Process σ)
  | 0, _, _ => none
  | fuel + 1, script, self =>
    if script.head? = some Opcode.RET.toByte then some self
    else match Instr.read.run script with
      | .error _ => none
      | .ok (instr, rest) => (self.step host instr).bind (interpret host fuel rest)

/-- A whole script; every instruction takes a byte. -/
def runScript (host : Host σ) (script : Bytes) (self : Process σ) : Option (Process σ) :=
  interpret host script.length script self

/-- What has a meaning on the machine alone leaves the world as it is. -/
theorem step_machine (host : Host σ) (p : Process σ) {instr : Instr} {machine : Machine}
    (step : instr.step p.machine = some machine) :
    p.step host instr = some { p with machine, contexts := p.kept instr } := by
  cases instr with
  | extcall reg => simp [Instr.step] at step
  | ctx src dst => simp [Instr.step] at step
  | switch reg => simp [Instr.step] at step
  | load reg vmType payload => simp [Process.step, step]
  | cast src dst vmType => simp [Process.step, step]
  | put value map key => simp [Process.step, step]
  | push reg => simp [Process.step, step]

theorem leave_outcome (host : Host σ) (p : Process σ) (target : Target) :
    (p.leave host target).map outcome = host target p.outcome := by
  unfold leave
  cases host target p.outcome <;> rfl

theorem step_extcall (host : Host σ) (p : Process σ) {reg : Register} {method : Bytes}
    (named : p.machine.regs reg = .data .STRING method) :
    p.step host (.extcall (operandOf reg)) = p.leave host (.interop method) := by
  simp [step, named, Value.text?]

theorem step_ctx (host : Host σ) (p : Process σ) {src dst : Register} {name : Bytes}
    (named : p.machine.regs src = .data .STRING name) :
    p.step host (.ctx (operandOf src) (operandOf dst)) =
      some { p with contexts := Function.update p.contexts dst (some name) } := by
  simp [step, named, Value.text?]

theorem step_switch (host : Host σ) (p : Process σ) {reg : Register} {name : Bytes}
    (held : p.contexts reg = some name) :
    p.step host (.switch (operandOf reg)) = p.leave host (.contract name) := by
  simp [step, held]

/-- No instruction starts with the opcode that ends a script. -/
theorem read_ne_ret {rest rest' : Bytes} {instr : Instr} :
    ¬ Instr.read.Yields (Opcode.RET.toByte :: rest) instr rest' := by
  intro yields
  obtain ⟨opcode, mid, first, last⟩ := Get.yields_bind.mp yields
  obtain ⟨rfl, rfl⟩ := List.cons.inj (yields_read1 first)
  cases last

/-- Fuel for one more than the instructions takes a script to its `RET`. -/
theorem interpret_assembled (host : Host σ) {out : Bytes} {instrs : List Instr}
    (assembled : Assembled out instrs) {fuel : Nat} (enough : instrs.length < fuel) (p : Process σ) :
    interpret host fuel (out ++ [Opcode.RET.toByte]) p = p.run host instrs := by
  induction assembled generalizing fuel p with
  | nil =>
    obtain ⟨fuel, rfl⟩ := Nat.exists_eq_add_of_lt enough
    rfl
  | @cons image out instr instrs parses _ ih =>
    obtain ⟨fuel, rfl⟩ : ∃ smaller, fuel = smaller + 1 := ⟨fuel - 1, by omega⟩
    rw [List.length_cons] at enough
    have yields := parses (out ++ [Opcode.RET.toByte])
    -- no instruction of a call begins with the byte of `RET`
    have other : (image ++ (out ++ [Opcode.RET.toByte])).head? ≠ some Opcode.RET.toByte := by
      intro ret
      obtain ⟨rest, whole⟩ := List.head?_eq_some_iff.mp ret
      rw [whole] at yields
      exact read_ne_ret yields
    unfold Get.Yields at yields
    unfold interpret Process.run
    rw [List.append_assoc, if_neg other, yields, List.foldlM_cons]
    dsimp only
    congr 1
    funext q
    exact ih (by omega) q

/-- The processes of a host as an executor. -/
def executor (host : Host σ) : Executor σ where
  State := Process σ
  machine := machine
  contexts := contexts
  world := world
  step instr self := self.step host instr
  execute script self := runScript host script self

theorem executor_runs (host : Host σ) : (executor host).Runs host where
  onMachine {p instr machine} stepped := ⟨_, step_machine host p stepped, rfl, rfl⟩
  extcall {p reg method} named := by
    change ((p : Process σ).step host (.extcall (operandOf reg))).map outcome = _
    rw [step_extcall host p named]
    exact p.leave_outcome host _
  ctx {p src dst name} named := ⟨_, step_ctx host p named, Function.update_self .., rfl⟩
  switch {p reg name} held := by
    change ((p : Process σ).step host (.switch (operandOf reg))).map outcome = _
    rw [step_switch host p held]
    exact p.leave_outcome host _
  script {out instrs} p assembled := by
    have enough : instrs.length < (out ++ [Opcode.RET.toByte]).length := by
      have short := assembled.length_le Instr.read_ne_nil
      rw [List.length_append, List.length_singleton]
      omega
    exact interpret_assembled host assembled enough p

end Process

/-! ## Invocations -/

/-- What a call asks of the host: a target, with values on top of the stack. -/
structure Invocation where
  target : Target
  pushed : List Value

def Invocation.perform {σ : Type} (host : Host σ) (before : σ × List Value) (self : Invocation) :
    Option (σ × List Value) :=
  host self.target (before.1, self.pushed ++ before.2)

/-- On every executor, the instructions do the invocations in order and nothing else that the host sees. -/
def Performs (invocations : List Invocation) (instrs : List Instr) : Prop :=
  ∀ {σ : Type} {host : Host σ} {vm : Executor σ}, vm.Runs host → ∀ s,
    (vm.run instrs s).map vm.outcome = invocations.foldlM (Invocation.perform host) (vm.outcome s)

theorem performs_nil : Performs [] [] := fun _ _ => rfl

theorem Performs.append {first second : List Invocation} {left right : List Instr}
    (before : Performs first left) (after : Performs second right) :
    Performs (first ++ second) (left ++ right) := by
  intro σ host vm runs s
  have earlier := before runs s
  rw [Executor.run_append, List.foldlM_append, ← earlier]
  cases run : vm.run left s with
  | none => rfl
  | some s' => exact after runs s'

namespace ScriptBuilder

/-- Pushed values, the name of the target in the first register, and the instructions that leave. -/
theorem IsCall.performs {pushed : List Value} {name : Bytes} {last code : List Instr} {target : Target}
    (isCall : IsCall pushed name last code)
    (leaves : ∀ {σ : Type} {host : Host σ} {vm : Executor σ}, vm.Runs host → ∀ s,
      (vm.machine s).regs 0 = .data .STRING name →
        (vm.run last s).map vm.outcome = host target (vm.outcome s)) :
    Performs [⟨target, pushed⟩] code := by
  obtain ⟨body, rfl, pushes⟩ := isCall
  intro σ host vm runs s
  obtain ⟨m₁, runBody, onStack⟩ := pushes (vm.machine s)
  obtain ⟨m₂, runLoad, loaded⟩ := loadsInto_load 0 .STRING name m₁
  have runBoth : Instr.run (body ++ [.load 0 .STRING name]) (vm.machine s) = some m₂ := by
    rw [Instr.run_append, runBody, Option.bind_some]
    exact runLoad
  obtain ⟨s', first, onMachine, sameWorld⟩ := runs.run_machine s runBoth
  have left := leaves runs s' (onMachine ▸ loaded.value)
  have split : body ++ .load 0 .STRING name :: last = (body ++ [.load 0 .STRING name]) ++ last := by
    rw [List.append_assoc, List.singleton_append]
  rw [split, Executor.run_append, first, Option.bind_some, left]
  unfold Executor.outcome
  rw [sameWorld, onMachine, loaded.stack, onStack, List.foldlM_cons]
  unfold Invocation.perform
  cases host target (vm.world s, pushed ++ (vm.machine s).stack) <;> rfl

theorem extcall_leaves {σ : Type} {host : Host σ} {vm : Executor σ} (runs : vm.Runs host) (s : vm.State)
    {method : Bytes} (named : (vm.machine s).regs 0 = .data .STRING method) :
    (vm.run [.extcall 0] s).map vm.outcome = host (.interop method) (vm.outcome s) := by
  rw [Executor.run_single]
  exact runs.extcall named

theorem switch_leaves {σ : Type} {host : Host σ} {vm : Executor σ} (runs : vm.Runs host) (s : vm.State)
    {name : Bytes} (named : (vm.machine s).regs 0 = .data .STRING name) :
    (vm.run [.ctx 0 1, .switch 1] s).map vm.outcome = host (.contract name) (vm.outcome s) := by
  obtain ⟨s', entered, held, same⟩ := @Executor.Runs.ctx σ vm host runs s 0 1 name named
  have first : vm.step (.ctx 0 1) s = some s' := entered
  rw [Executor.run_cons, first, Option.bind_some, Executor.run_single, ← same]
  exact runs.switch held

end ScriptBuilder

end PhantasmaPy.VM
