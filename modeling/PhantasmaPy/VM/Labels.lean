import PhantasmaPy.VM.BuilderLaws

/-! # Label resolution

Runs of the builder over arbitrary sequences of its operations, and what the finished script has at
the operands of jumps and calls.
-/

namespace PhantasmaPy.VM

open Wire

namespace ScriptBuilder

/-- The operations of the builder. -/
inductive Op where
  | emit (opcode : Opcode)
  | emitRaw (data : Bytes)
  | emitPush (reg : Int)
  | emitPop (reg : Int)
  | emitThrow (reg : Int)
  | emitExtCall (method : Str) (reg : Int)
  | emitLoad (reg : Int) (data : Bytes) (vmType : VMType)
  | emitLoadString (reg : Int) (value : Str)
  | emitLoadBool (reg : Int) (value : Bool)
  | emitLoadNumber (reg : Int) (value : Int)
  | emitLoadTime (reg : Int) (unixSeconds : Int)
  | emitMove (srcReg dstReg : Int)
  | emitCopy (srcReg dstReg : Int)
  | emitVarBytes (value : Int)
  | emitLabel (label : Str)
  | emitJump (opcode : Opcode) (label : Str) (reg : Int)
  | emitCall (label : Str) (registerCount : Int)
  | emitConditionalJump (opcode : Opcode) (srcReg : Int) (label : Str)
  | callInterop (method : Str) (args : List Arg)
  | callContract (contractName method : Str) (args : List Arg)
  | helper (call : Helper)
  | textHelper (call : TextHelper)

def Op.run (rt : Runtime) : Op → Build Unit
  | emit opcode => ScriptBuilder.emit opcode
  | emitRaw data => ScriptBuilder.emitRaw data
  | emitPush reg => ScriptBuilder.emitPush reg
  | emitPop reg => ScriptBuilder.emitPop reg
  | emitThrow reg => ScriptBuilder.emitThrow reg
  | emitExtCall method reg => ScriptBuilder.emitExtCall method reg
  | emitLoad reg data vmType => ScriptBuilder.emitLoad reg data vmType
  | emitLoadString reg value => ScriptBuilder.emitLoadString reg value
  | emitLoadBool reg value => ScriptBuilder.emitLoadBool reg value
  | emitLoadNumber reg value => ScriptBuilder.emitLoadNumber reg value
  | emitLoadTime reg unixSeconds => ScriptBuilder.emitLoadTime reg unixSeconds
  | emitMove srcReg dstReg => ScriptBuilder.emitMove srcReg dstReg
  | emitCopy srcReg dstReg => ScriptBuilder.emitCopy srcReg dstReg
  | emitVarBytes value => ScriptBuilder.emitVarBytes value
  | emitLabel label => ScriptBuilder.emitLabel rt label
  | emitJump opcode label reg => ScriptBuilder.emitJump opcode label reg
  | emitCall label registerCount => ScriptBuilder.emitCall label registerCount
  | emitConditionalJump opcode srcReg label =>
    ScriptBuilder.emitConditionalJump opcode srcReg label
  | callInterop method args => ScriptBuilder.callInterop method args
  | callContract contractName method args => ScriptBuilder.callContract contractName method args
  | helper call => call.run
  | textHelper call => call.run rt

/-- The builder after an operation.  An exception leaves what was done before it, and the caller may
    go on. -/
def step (rt : Runtime) (s : ScriptBuilder) (op : Op) : ScriptBuilder := (exec (op.run rt) s).2

/-- The builder after a sequence of operations. -/
def build (rt : Runtime) (ops : List Op) : ScriptBuilder := ops.foldl (step rt) {}

/-! ## What a run emitted -/

/-- The offset of the operand that a jump emits at a given size, unless it is refused before. -/
def jumpOffset (size : Nat) (opcode : Opcode) (reg : Int) : Option Nat :=
  match opcode with
  | .JMP => some (size + 1)
  | .JMPIF | .JMPNOT => if Unsigned 8 reg then some (size + 2) else none
  | _ => none

/-- The operand offset and label of the jump or call that an operation emits. -/
def Op.jump (size : Nat) : Op → Option (Nat × Str)
  | emitJump opcode label reg => (jumpOffset size opcode reg).map fun offset => (offset, label)
  | emitConditionalJump .JMPIF srcReg label =>
    (jumpOffset size .JMPIF srcReg).map fun offset => (offset, label)
  | emitConditionalJump .JMPNOT srcReg label =>
    (jumpOffset size .JMPNOT srcReg).map fun offset => (offset, label)
  | emitCall label registerCount =>
    if 1 ≤ registerCount ∧ registerCount ≤ 32 then some (size + 2, label) else none
  | _ => none

/-- The folded label that an operation defines, and the offset just after its `NOP`. -/
def Op.label (rt : Runtime) (size : Nat) : Op → Option (Str × Nat)
  | emitLabel label => some (rt.lower label, size + 1)
  | _ => none

/-- The jumps and calls of a run from a given builder, in order. -/
def jumpsFrom (rt : Runtime) (s : ScriptBuilder) : List Op → List (Nat × Str)
  | [] => []
  | op :: ops => (op.jump s.currentSize).toList ++ jumpsFrom rt (step rt s op) ops

/-- The label definitions of a run from a given builder, in order. -/
def labelsFrom (rt : Runtime) (s : ScriptBuilder) : List Op → List (Str × Nat)
  | [] => []
  | op :: ops => (op.label rt s.currentSize).toList ++ labelsFrom rt (step rt s op) ops

def jumps (rt : Runtime) (ops : List Op) : List (Nat × Str) := jumpsFrom rt {} ops

/-- The offset just after the `NOP` of the last definition of a label, compared after case folding. -/
def lastLabel (rt : Runtime) (ops : List Op) (label : Str) : Option Nat :=
  getEntry (labelsFrom rt {} ops).reverse (rt.lower label)

/-! ## One operation -/

theorem exec_jumpOperand (label : Str) (s : ScriptBuilder) :
    exec (jumpOperand label) s = (.ok (), { s with
      writer := s.writer ++ [0, 0]
      jumpLocations := setEntry s.jumpLocations s.currentSize label }) := rfl

theorem exec_emitLabel (rt : Runtime) (label : Str) (s : ScriptBuilder) :
    exec (emitLabel rt label) s = (.ok (), { s with
      writer := s.writer ++ [Opcode.NOP.toByte]
      labelLocations := setEntry s.labelLocations (rt.lower label) (s.currentSize + 1) }) := by
  unfold emitLabel
  rw [exec_bind, exec_emit]
  simp [currentSize]

/-- What an operation does to the builder, given the jump it emits and the label it defines. -/
inductive Effect (s s' : ScriptBuilder) : Option (Nat × Str) → Option (Str × Nat) → Prop
  | quiet (out : Bytes) (error : Option PyError)
      (state : s' = { s with writer := s.writer ++ out, error := s.error.or error }) :
      Effect s s' none none
  | jump (front : Bytes) (label : Str)
      (state : s' = { s with
        writer := s.writer ++ front ++ [0, 0]
        jumpLocations := setEntry s.jumpLocations (s.currentSize + front.length) label }) :
      Effect s s' (some (s.currentSize + front.length, label)) none
  | label (name : Str)
      (state : s' = { s with
        writer := s.writer ++ [Opcode.NOP.toByte]
        labelLocations := setEntry s.labelLocations name (s.currentSize + 1) }) :
      Effect s s' none (some (name, s.currentSize + 1))

theorem Quiet.effect {α : Type} {p : Build α} (quiet : Quiet p) (s : ScriptBuilder) :
    Effect s (exec p s).2 none none := by
  obtain ⟨out, error, state⟩ := quiet s
  exact .quiet out error state

/-- An opcode with a register operand, then the operand of the jump. -/
theorem exec_registerJump {opcode : Opcode} {reg : Int} (range : Unsigned 8 reg) (label : Str)
    (s : ScriptBuilder) :
    Effect s (exec (do emit opcode; byte reg; jumpOperand label) s).2
      (some (s.currentSize + 2, label)) none := by
  refine .jump [opcode.toByte, UInt8.ofNat reg.toNat] label ?_
  rw [exec_bind, exec_emit]
  dsimp only
  rw [exec_bind, exec_byte range]
  dsimp only
  rw [exec_jumpOperand]
  simp [currentSize]

theorem exec_registerJump_refused {opcode : Opcode} {reg : Int} (outside : ¬ Unsigned 8 reg)
    (label : Str) (s : ScriptBuilder) :
    Effect s (exec (do emit opcode; byte reg; jumpOperand label) s).2 none none := by
  refine .quiet [opcode.toByte] none ?_
  rw [exec_bind, exec_emit]
  dsimp only
  obtain ⟨e, refused⟩ := exec_byte_refused outside { s with writer := s.writer ++ [opcode.toByte] }
  rw [exec_bind, refused, Option.or_none]

theorem emitJump_effect (opcode : Opcode) (label : Str) (reg : Int) (s : ScriptBuilder) :
    Effect s (exec (emitJump opcode label reg) s).2
      ((jumpOffset s.currentSize opcode reg).map fun offset => (offset, label)) none := by
  have register (opcode' : Opcode) :
      Effect s (exec (do emit opcode'; byte reg; jumpOperand label) s).2
        ((if Unsigned 8 reg then some (s.currentSize + 2) else none).map fun offset =>
          (offset, label)) none := by
    split
    next range => exact exec_registerJump range label s
    next outside => exact exec_registerJump_refused outside label s
  cases opcode with
  | JMP =>
    refine .jump [Opcode.JMP.toByte] label ?_
    change (exec (do emit .JMP; jumpOperand label) s).2 = _
    rw [exec_bind, exec_emit]
    dsimp only
    rw [exec_jumpOperand]
    simp [currentSize]
  | JMPIF => exact register .JMPIF
  | JMPNOT => exact register .JMPNOT
  | _ => exact (quiet_fail _).effect s

theorem emitCall_effect (label : Str) (registerCount : Int) (s : ScriptBuilder) :
    Effect s (exec (emitCall label registerCount) s).2
      (if 1 ≤ registerCount ∧ registerCount ≤ 32 then some (s.currentSize + 2, label) else none)
      none := by
  unfold emitCall MAX_REGISTER_COUNT
  split
  next outside =>
    rw [if_neg (by omega)]
    exact (quiet_failWith _ _).effect s
  next inside =>
    rw [if_pos (by omega)]
    exact exec_registerJump (by unfold Unsigned; omega) label s

/-- The operations that emit no jump or call and define no label. -/
def Op.Plain : Op → Prop
  | emitLabel _ => False
  | emitJump _ _ _ => False
  | emitCall _ _ => False
  | emitConditionalJump _ _ _ => False
  | _ => True

theorem plain_moves {R : ScriptBuilder → ScriptBuilder → Prop} [Appending R] (rt : Runtime) {op : Op}
    (plain : op.Plain) : Moves R (op.run rt) := by
  cases op with
  | emit opcode => exact moves_append _
  | emitRaw data => exact moves_append _
  | emitPush reg => exact emitByte_moves _ _
  | emitPop reg => exact emitByte_moves _ _
  | emitThrow reg => exact emitByte_moves _ _
  | emitExtCall method reg =>
    exact (emitLoadString_moves _ _).bind fun _ => emitByte_moves _ _
  | emitLoad reg data vmType => exact emitLoad_moves _ _ _
  | emitLoadString reg value => exact emitLoadString_moves _ _
  | emitLoadBool reg value => exact emitLoad_moves _ _ _
  | emitLoadNumber reg value => exact emitLoad_moves _ _ _
  | emitLoadTime reg unixSeconds => exact emitLoadTime_moves _ _
  | emitMove srcReg dstReg =>
    exact (moves_append _).bind fun _ => (moves_append _).bind fun _ => moves_append _
  | emitCopy srcReg dstReg =>
    exact (moves_append _).bind fun _ => (moves_append _).bind fun _ => moves_append _
  | emitVarBytes value => exact moves_append _
  | callInterop method args => exact callInterop_moves _ _
  | callContract contractName method args => exact callContract_moves _ _ _
  | helper call => exact helper_moves _
  | textHelper call => exact textHelper_moves _ _
  | emitLabel => exact plain.elim
  | emitJump => exact plain.elim
  | emitCall => exact plain.elim
  | emitConditionalJump => exact plain.elim

theorem step_effect (rt : Runtime) (s : ScriptBuilder) (op : Op) :
    Effect s (step rt s op) (op.jump s.currentSize) (op.label rt s.currentSize) := by
  have quiet (plain : op.Plain) : Effect s (step rt s op) none none :=
    Quiet.effect (@plain_moves _ appending_quiet rt op plain) s
  cases op with
  | emitLabel label =>
    refine .label (rt.lower label) ?_
    change (exec (ScriptBuilder.emitLabel rt label) s).2 = _
    rw [exec_emitLabel]
  | emitJump opcode label reg => exact emitJump_effect opcode label reg s
  | emitCall label registerCount => exact emitCall_effect label registerCount s
  | emitConditionalJump opcode srcReg label =>
    cases opcode with
    | JMPIF => exact emitJump_effect .JMPIF label srcReg s
    | JMPNOT => exact emitJump_effect .JMPNOT label srcReg s
    | _ => exact (quiet_fail _).effect s
  | _ => exact quiet trivial

/-! ## Whole runs -/

/-- The buffer and the two tables of a builder agree with the jumps and labels of the run so far. -/
structure Traced (s : ScriptBuilder) (sites : List (Nat × Str)) (labels : List (Str × Nat)) : Prop where
  jumpTable : s.jumpLocations = sites
  labelTable : ∀ name, getEntry s.labelLocations name = getEntry labels.reverse name
  inside : ∀ site ∈ sites, site.1 + 2 ≤ s.writer.length
  apart : sites.Pairwise fun first second => first.1 + 2 ≤ second.1
  nops : ∀ label ∈ labels, 0 < label.2 ∧ label.2 ≤ s.writer.length ∧
    s.writer[label.2 - 1]? = some Opcode.NOP.toByte
  clear : ∀ label ∈ labels, ∀ site ∈ sites, label.2 ≤ site.1 ∨ site.1 + 2 < label.2

theorem traced_begin : Traced {} [] [] where
  jumpTable := rfl
  labelTable _ := rfl
  inside _ member := absurd member List.not_mem_nil
  apart := List.Pairwise.nil
  nops _ member := absurd member List.not_mem_nil
  clear _ member := absurd member List.not_mem_nil

section Steps

variable {s s' : ScriptBuilder} {sites : List (Nat × Str)} {labels : List (Str × Nat)}

/-- An operation that only appends keeps everything about the tables. -/
theorem Traced.quiet (traced : Traced s sites labels) {out : Bytes} {error : Option PyError} :
    Traced { s with writer := s.writer ++ out, error := error } sites labels where
  jumpTable := traced.jumpTable
  labelTable := traced.labelTable
  inside site member := by
    have inside := traced.inside site member
    simp only [List.length_append]
    omega
  apart := traced.apart
  nops label member := by
    obtain ⟨positive, bound, nop⟩ := traced.nops label member
    refine ⟨positive, ?_, ?_⟩
    · simp only [List.length_append]
      omega
    · rw [List.getElem?_append_left (by omega), nop]
  clear := traced.clear

theorem Traced.jump (traced : Traced s sites labels) {front : Bytes} {label : Str} :
    Traced { s with
        writer := s.writer ++ front ++ [0, 0]
        jumpLocations := setEntry s.jumpLocations (s.currentSize + front.length) label }
      (sites ++ [(s.currentSize + front.length, label)]) labels := by
  -- the operand is appended, and only then entered under its offset
  have appended : Traced { s with writer := s.writer ++ (front ++ [0, 0]) } sites labels := traced.quiet
  have after (site : Nat × Str) (member : site ∈ sites) : site.1 + 2 ≤ s.currentSize + front.length :=
    le_trans (traced.inside site member) (Nat.le_add_right _ _)
  have fresh (site : Nat × Str) (member : site ∈ s.jumpLocations) :
      site.1 ≠ s.currentSize + front.length := by
    rw [traced.jumpTable] at member
    have before := after site member
    omega
  constructor
  case jumpTable =>
    dsimp only
    rw [setEntry_fresh fresh, traced.jumpTable]
  case labelTable => exact traced.labelTable
  case inside =>
    intro site member
    rcases List.mem_append.mp member with earlier | latest
    · have inside := appended.inside site earlier
      simpa using inside
    · rw [List.mem_singleton.mp latest]
      simp [currentSize, Nat.add_assoc]
  case apart =>
    refine List.pairwise_append.mpr ⟨traced.apart, List.pairwise_singleton _ _, ?_⟩
    intro site member latest isLatest
    rw [List.mem_singleton.mp isLatest]
    exact after site member
  case nops => simpa only [List.append_assoc] using appended.nops
  case clear =>
    intro label member site siteMember
    rcases List.mem_append.mp siteMember with earlier | latest
    · exact traced.clear label member site earlier
    · obtain ⟨-, bound, -⟩ := traced.nops label member
      rw [List.mem_singleton.mp latest]
      exact .inl (le_trans bound (Nat.le_add_right _ _))

theorem Traced.label (traced : Traced s sites labels) {name : Str} :
    Traced { s with
        writer := s.writer ++ [Opcode.NOP.toByte]
        labelLocations := setEntry s.labelLocations name (s.currentSize + 1) }
      sites (labels ++ [(name, s.currentSize + 1)]) := by
  have appended : Traced { s with writer := s.writer ++ [Opcode.NOP.toByte] } sites labels :=
    traced.quiet
  constructor
  case jumpTable => exact traced.jumpTable
  case labelTable =>
    intro name'
    rw [getEntry_setEntry, traced.labelTable]
    by_cases same : name' = name
    · simp [getEntry, same]
    · simp [getEntry, same, Ne.symm same]
  case inside => exact appended.inside
  case apart => exact traced.apart
  case nops =>
    intro label member
    rcases List.mem_append.mp member with earlier | latest
    · exact appended.nops label earlier
    · rw [List.mem_singleton.mp latest]
      simp [currentSize]
  case clear =>
    intro label member site siteMember
    rcases List.mem_append.mp member with earlier | latest
    · exact traced.clear label earlier site siteMember
    · -- the byte of the label itself lies between an operand and the offset of the label
      have inside := traced.inside site siteMember
      rw [List.mem_singleton.mp latest]
      exact .inr (Nat.lt_succ_of_le inside)

/-- One operation keeps the agreement. -/
theorem Traced.effect (traced : Traced s sites labels) {jump : Option (Nat × Str)}
    {label : Option (Str × Nat)} (effect : Effect s s' jump label) :
    Traced s' (sites ++ jump.toList) (labels ++ label.toList) := by
  cases effect with
  | quiet out error state =>
    subst state
    simpa using traced.quiet
  | jump front name state =>
    subst state
    simpa using traced.jump
  | label name state =>
    subst state
    simpa using traced.label

end Steps

/-- A run keeps the agreement. -/
theorem Traced.run (rt : Runtime) {s : ScriptBuilder} {sites : List (Nat × Str)}
    {labels : List (Str × Nat)} (traced : Traced s sites labels) (ops : List Op) :
    Traced (ops.foldl (step rt) s) (sites ++ jumpsFrom rt s ops) (labels ++ labelsFrom rt s ops) := by
  induction ops generalizing s sites labels with
  | nil => simpa [jumpsFrom, labelsFrom] using traced
  | cons op ops ih =>
    have after := ih (traced.effect (step_effect rt s op))
    simpa only [List.foldl_cons, jumpsFrom, labelsFrom, List.append_assoc] using after

theorem build_traced (rt : Runtime) (ops : List Op) :
    Traced (build rt ops) (jumps rt ops) (labelsFrom rt {} ops) :=
  traced_begin.run rt ops

/-! ## The patching loop -/

theorem patch_ok {rt : Runtime} {table : List (Str × Nat)} {script script' : Bytes}
    {jump : Nat × Str} (patched : patch rt table script jump = .ok script') :
    ∃ target, getEntry table (rt.lower jump.2) = some target ∧ target < 2 ^ 16 ∧
      jump.1 + 2 ≤ script.length ∧
      script' = script.take jump.1 ++ natToLE 2 target ++ script.drop (jump.1 + 2) := by
  unfold patch at patched
  split at patched
  next => contradiction
  next target found =>
    split at patched
    next => contradiction
    next inside =>
      split at patched
      next => contradiction
      next small =>
        rw [Except.ok.injEq] at patched
        exact ⟨target, found, by omega, by omega, patched.symm⟩

section Splice

variable {script front word : Bytes} {offset index : Nat}

/-- A splice of two bytes keeps the length. -/
theorem length_splice (inside : offset + 2 ≤ script.length) (two : word.length = 2) :
    (script.take offset ++ word ++ script.drop (offset + 2)).length = script.length := by
  simp only [List.length_append, List.length_take, List.length_drop, two]
  omega

theorem getElem?_splice (inside : offset + 2 ≤ script.length) (two : word.length = 2)
    (outside : index < offset ∨ offset + 2 ≤ index) :
    (script.take offset ++ word ++ script.drop (offset + 2))[index]? = script[index]? := by
  have taken : (script.take offset).length = offset := List.length_take_of_le (by omega)
  rcases outside with before | after
  · rw [List.append_assoc, List.getElem?_append_left (by omega), List.getElem?_take_of_lt before]
  · rw [List.getElem?_append_right (by simp only [List.length_append]; omega), List.getElem?_drop]
    congr 1
    simp only [List.length_append]
    omega

theorem operand_splice (inside : offset + 2 ≤ script.length) (two : word.length = 2) :
    ((script.take offset ++ word ++ script.drop (offset + 2)).drop offset).take 2 = word := by
  have taken : (script.take offset).length = offset := List.length_take_of_le (by omega)
  rw [List.append_assoc, List.drop_left' taken, List.take_left' two]

end Splice

/-- Equal bytes at an operand's two positions give equal operands. -/
theorem operand_congr {script script' : Bytes} {offset : Nat}
    (low : script'[offset]? = script[offset]?) (high : script'[offset + 1]? = script[offset + 1]?) :
    (script'.drop offset).take 2 = (script.drop offset).take 2 := by
  apply List.ext_getElem?
  intro index
  match index with
  | 0 => simpa using low
  | 1 => simpa using high
  | index + 2 => simp

/-- A finished loop found every label, wrote each target at its operand, and touched nothing else. -/
theorem patches_ok {rt : Runtime} {table : List (Str × Nat)} {sites : List (Nat × Str)}
    {script script' : Bytes} (patched : sites.foldlM (patch rt table) script = .ok script')
    (apart : sites.Pairwise fun first second => first.1 + 2 ≤ second.1) :
    script'.length = script.length ∧
      (∀ index, (∀ site ∈ sites, index < site.1 ∨ site.1 + 2 ≤ index) →
        script'[index]? = script[index]?) ∧
      ∀ site ∈ sites, site.1 + 2 ≤ script.length ∧ ∃ target,
        getEntry table (rt.lower site.2) = some target ∧ target < 2 ^ 16 ∧
        (script'.drop site.1).take 2 = natToLE 2 target := by
  induction sites generalizing script with
  | nil =>
    cases patched
    exact ⟨rfl, fun _ _ => rfl, fun _ member => absurd member List.not_mem_nil⟩
  | cons site sites ih =>
    rw [List.foldlM_cons] at patched
    cases first : patch rt table script site with
    | error e =>
      rw [first] at patched
      contradiction
    | ok middle =>
      rw [first] at patched
      obtain ⟨target, found, small, inside, rfl⟩ := patch_ok first
      have two : (natToLE 2 target).length = 2 := length_natToLE 2 target
      have same := length_splice inside two
      obtain ⟨later, apart⟩ := List.pairwise_cons.mp apart
      obtain ⟨length, frame, operands⟩ := ih patched apart
      refine ⟨length.trans same, ?_, ?_⟩
      · intro index outside
        rw [frame index fun other member => outside other (List.mem_cons_of_mem _ member)]
        exact getElem?_splice inside two (outside site List.mem_cons_self)
      · intro other member
        rcases List.mem_cons.mp member with rfl | member
        · refine ⟨inside, target, found, small, ?_⟩
          -- the rest of the loop writes after this operand
          rw [← operand_splice inside two]
          apply operand_congr
          · exact frame _ fun next member => .inl (by have := later next member; omega)
          · exact frame _ fun next member => .inl (by have := later next member; omega)
        · obtain ⟨bound, operand⟩ := operands other member
          exact ⟨same ▸ bound, operand⟩

/-! ## Finished scripts -/

/-- The builder that `end_script_with_error` hands to `to_script`. -/
def ended (rt : Runtime) (ops : List Op) : ScriptBuilder := step rt (build rt ops) (.emit .RET)

theorem ended_eq (rt : Runtime) (ops : List Op) :
    ended rt ops =
      { build rt ops with writer := (build rt ops).writer ++ [Opcode.RET.toByte] } := by
  unfold ended step
  change (exec (emit .RET) (build rt ops)).2 = _
  rw [exec_emit]

theorem ended_traced (rt : Runtime) (ops : List Op) :
    Traced (ended rt ops) (jumps rt ops) (labelsFrom rt {} ops) := by
  rw [ended_eq]
  exact (build_traced rt ops).quiet

/-- What a finished script of a run has at its jumps and calls, and elsewhere. -/
structure Resolved (rt : Runtime) (ops : List Op) (script : Bytes) : Prop where
  length_eq : script.length = (build rt ops).writer.length + 1
  frame : ∀ index, (∀ jump ∈ jumps rt ops, index < jump.1 ∨ jump.1 + 2 ≤ index) →
    script[index]? = ((build rt ops).writer ++ [Opcode.RET.toByte])[index]?
  operand : ∀ jump ∈ jumps rt ops, jump.1 + 2 ≤ script.length ∧ ∃ target,
    lastLabel rt ops jump.2 = some target ∧
    natOfLE ((script.drop jump.1).take 2) = target ∧
    0 < target ∧ target < script.length ∧ script[target - 1]? = some Opcode.NOP.toByte
  apart : (jumps rt ops).Pairwise fun first second => first.1 + 2 ≤ second.1

theorem toScript_resolved {rt : Runtime} {ops : List Op} {script : Bytes}
    (patched : toScript rt (ended rt ops) = .ok script) : Resolved rt ops script := by
  have traced := ended_traced rt ops
  have built := build_traced rt ops
  unfold toScript at patched
  rw [traced.jumpTable] at patched
  obtain ⟨length, frame, operands⟩ := patches_ok patched traced.apart
  have buffer : (ended rt ops).writer = (build rt ops).writer ++ [Opcode.RET.toByte] := by
    rw [ended_eq]
  have length_eq : script.length = (build rt ops).writer.length + 1 := by
    rw [length, buffer, List.length_append, List.length_singleton]
  constructor
  case length_eq => exact length_eq
  case frame =>
    intro index outside
    rw [frame index outside, buffer]
  case apart => exact traced.apart
  case operand =>
    intro jump member
    obtain ⟨inside, target, found, small, word⟩ := operands jump member
    refine ⟨length ▸ inside, target, ?_⟩
    rw [traced.labelTable] at found
    -- the last definition counts, and its byte is outside of all operands
    have defined := List.mem_reverse.mp (getEntry_mem found)
    obtain ⟨positive, bound, -⟩ := built.nops _ defined
    obtain ⟨-, -, nop⟩ := traced.nops _ defined
    refine ⟨found, ?_, positive, by omega, ?_⟩
    · rw [word, natOfLE_natToLE (by omega)]
    · rw [frame, nop]
      intro site siteMember
      have clear := traced.clear _ defined site siteMember
      omega

theorem endScriptWithError_eq (rt : Runtime) (s : ScriptBuilder) :
    endScriptWithError rt s =
      match s.error with
      | some e => ([], some e)
      | none =>
        match toScript rt { s with writer := s.writer ++ [Opcode.RET.toByte] } with
        | .ok script => (script, none)
        | .error e => ([], some e) := by
  have emitted : ((emit .RET).run s).2 = { s with writer := s.writer ++ [Opcode.RET.toByte] } := by
    change (exec (emit .RET) s).2 = _
    rw [exec_emit]
  exact congrArg (fun self : ScriptBuilder => match self.error with
    | some e => ([], some e)
    | none =>
      match toScript rt self with
      | .ok script => (script, none)
      | .error e => ([], some e)) emitted

theorem endScriptWithError_resolved {rt : Runtime} {ops : List Op} {script : Bytes}
    (finished : endScriptWithError rt (build rt ops) = (script, none)) : Resolved rt ops script := by
  rw [endScriptWithError_eq, ← ended_eq] at finished
  split at finished
  next => simp at finished
  next =>
    split at finished
    next patched =>
      cases finished
      exact toScript_resolved patched
    next => simp at finished

/-- An undefined label is an error, and the script is empty. -/
theorem endScriptWithError_missing {rt : Runtime} {ops : List Op} {jump : Nat × Str}
    (member : jump ∈ jumps rt ops) (missing : lastLabel rt ops jump.2 = none) :
    ∃ e, endScriptWithError rt (build rt ops) = ([], some e) := by
  rw [endScriptWithError_eq, ← ended_eq]
  split
  next e _ => exact ⟨e, rfl⟩
  next =>
    split
    next script patched =>
      obtain ⟨-, target, found, -⟩ := (toScript_resolved patched).operand jump member
      rw [missing] at found
      contradiction
    next e _ => exact ⟨e, rfl⟩

/-- Every offset that the loop reaches lies inside the script. -/
theorem patch_inside {rt : Runtime} {ops : List Op} {before after : List (Nat × Str)}
    {jump : Nat × Str} {script : Bytes}
    (sites : (ended rt ops).jumpLocations = before ++ jump :: after)
    (patched : before.foldlM (patch rt (ended rt ops).labelLocations) (ended rt ops).writer =
      .ok script) : jump.1 + 1 < script.length := by
  have traced := ended_traced rt ops
  have apart := traced.apart
  rw [traced.jumpTable] at sites
  rw [sites] at apart
  obtain ⟨length, -, -⟩ := patches_ok patched (List.pairwise_append.mp apart).1
  have inside := traced.inside jump (by rw [sites]; simp)
  omega

/-- Label resolution: a finished script has at each operand the offset after the last definition of
    the label and is the buffer elsewhere; an undefined label is an error; and the loop never meets an
    offset outside the script. -/
theorem labels_resolved (rt : Runtime) (ops : List Op) :
    (∀ script, endScriptWithError rt (build rt ops) = (script, none) → Resolved rt ops script) ∧
    ((∃ jump ∈ jumps rt ops, lastLabel rt ops jump.2 = none) →
      ∃ e, endScriptWithError rt (build rt ops) = ([], some e)) ∧
    ∀ before jump after script, (ended rt ops).jumpLocations = before ++ jump :: after →
      before.foldlM (patch rt (ended rt ops).labelLocations) (ended rt ops).writer = .ok script →
      ¬ jump.1 + 1 ≥ script.length := by
  refine ⟨fun script finished => endScriptWithError_resolved finished, ?_, ?_⟩
  · rintro ⟨jump, member, missing⟩
    exact endScriptWithError_missing member missing
  · intro before jump after script sites patched
    exact Nat.not_le.mpr (patch_inside sites patched)

/-- A runtime with the case and the digits of ASCII. -/
def asciiRuntime : Runtime where
  lower text := text.map fun c => if 65 ≤ c.val ∧ c.val ≤ 90 then c + 32 else c
  upper := asciiCasing.upper
  excText _ := []
  interp := latin1

/-- A jump ahead and a call back to labels of another letter case. -/
def sampleOps : List Op :=
  [.emitLabel (Str.ofString "Start"), .emitJump .JMPIF (Str.ofString "END") 3,
    .emitCall (Str.ofString "start") 2, .emitLabel (Str.ofString "end")]

theorem labels_resolved_sample :
    endScriptWithError asciiRuntime (build asciiRuntime sampleOps) =
      ([0, 9, 3, 10, 0, 6, 2, 1, 0, 0, 11], none) ∧
    Resolved asciiRuntime sampleOps [0, 9, 3, 10, 0, 6, 2, 1, 0, 0, 11] := by
  have finished : endScriptWithError asciiRuntime (build asciiRuntime sampleOps) =
      ([0, 9, 3, 10, 0, 6, 2, 1, 0, 0, 11], none) := by decide +kernel
  exact ⟨finished, (labels_resolved asciiRuntime sampleOps).1 _ finished⟩

end ScriptBuilder

end PhantasmaPy.VM
