import PhantasmaPy.VM.Labels

/-! # Finalising scripts

Which exceptions `end_script` raises: the retained errors of the builder and a missing label are
`BuilderError`s, and the conversion of a label's offset to two bytes is not.
-/

namespace PhantasmaPy.VM

open Wire

namespace ScriptBuilder

/-! ## Relations that steps keep -/

/-- A relation that changes of the two tables keep as well. -/
class Stepping (R : ScriptBuilder → ScriptBuilder → Prop) : Prop extends Appending R where
  tables : ∀ (s : ScriptBuilder) jumpLocations labelLocations, R s { s with jumpLocations, labelLocations }

section Stepping

variable {R : ScriptBuilder → ScriptBuilder → Prop} [Stepping R]

theorem jumpOperand_moves (label : Str) : Moves R (jumpOperand label) := by
  intro s
  rw [exec_jumpOperand]
  refine Appending.trans (Appending.append s [0, 0]) ?_
  exact Stepping.tables { s with writer := s.writer ++ [0, 0] } _ _

theorem emitLabel_moves (rt : Runtime) (label : Str) : Moves R (emitLabel rt label) := by
  intro s
  rw [exec_emitLabel]
  refine Appending.trans (Appending.append s [Opcode.NOP.toByte]) ?_
  exact Stepping.tables { s with writer := s.writer ++ [Opcode.NOP.toByte] } _ _

theorem emitJump_moves (opcode : Opcode) (label : Str) (reg : Int) : Moves R (emitJump opcode label reg) :=
  Moves.ite (moves_fail _) <| (moves_append _).bind fun _ =>
    Moves.ite ((moves_append _).bind fun _ => jumpOperand_moves _) (jumpOperand_moves _)

theorem emitCall_moves (label : Str) (registerCount : Int) : Moves R (emitCall label registerCount) :=
  Moves.ite (moves_failWith _ _) <| (moves_append _).bind fun _ => (moves_append _).bind fun _ =>
    jumpOperand_moves _

theorem step_moves (rt : Runtime) (s : ScriptBuilder) (op : Op) : R s (step rt s op) := by
  have plainly (plain : op.Plain) : R s (step rt s op) := plain_moves rt plain s
  cases op with
  | emitLabel label => exact emitLabel_moves rt label s
  | emitJump opcode label reg => exact emitJump_moves opcode label reg s
  | emitCall label registerCount => exact emitCall_moves label registerCount s
  | emitConditionalJump opcode srcReg label =>
    exact Moves.ite (moves_fail _) (emitJump_moves opcode label srcReg) s
  | _ => exact plainly trivial

theorem run_moves (rt : Runtime) (s : ScriptBuilder) (ops : List Op) : R s (ops.foldl (step rt) s) := by
  induction ops generalizing s with
  | nil => exact Appending.refl s
  | cons op ops ih => exact Appending.trans (step_moves rt s op) (ih _)

end Stepping

/-! ## The retained error -/

/-- The error stays what it was, or there was none and it has become a `BuilderError`. -/
def Retains (s s' : ScriptBuilder) : Prop :=
  s'.error = s.error ∨ s.error = none ∧ ∃ message, s'.error = some (.builderError message)

instance stepping_retains : Stepping Retains where
  refl _ := .inl rfl
  trans := by
    rintro s t u (same | ⟨fresh, message, failed⟩) (same' | ⟨fresh', failed'⟩)
    · exact .inl (same'.trans same)
    · exact .inr ⟨same ▸ fresh', failed'⟩
    · exact .inr ⟨fresh, message, same'.trans failed⟩
    · rw [failed] at fresh'
      contradiction
  append _ _ := .inl rfl
  fail s message := by
    unfold Retains
    cases s.error with
    | none => exact .inr ⟨rfl, message, rfl⟩
    | some e => exact .inl rfl
  tables _ _ _ := .inl rfl

/-- Only `BuilderError`s are retained. -/
theorem build_error (rt : Runtime) {ops : List Op} {e : PyError} (retained : (build rt ops).error = some e) :
    ∃ message, e = .builderError message := by
  have retains : Retains {} (build rt ops) := run_moves rt {} ops
  rcases retains with same | ⟨-, message, failed⟩
  · rw [same] at retained
    contradiction
  · rw [failed] at retained
    exact ⟨message, (Option.some.inj retained).symm⟩

/-! ## The first jump that cannot be patched -/

/-- What stops the loop at a jump whose operand lies inside the script. -/
def fault? (rt : Runtime) (labels : List (Str × Nat)) (jump : Nat × Str) : Option PyError :=
  match getEntry labels (rt.lower jump.2) with
  | none => some (.builderError (Str.ofString "could not find label: " ++ jump.2))
  | some target => if target ≥ 2 ^ 16 then some .overflowError else none

theorem patch_eq_error {rt : Runtime} {labels : List (Str × Nat)} {script : Bytes} {jump : Nat × Str}
    {e : PyError} (inside : jump.1 + 2 ≤ script.length) :
    patch rt labels script jump = .error e ↔ fault? rt labels jump = some e := by
  unfold patch fault?
  cases getEntry labels (rt.lower jump.2) with
  | none => simp
  | some target =>
    dsimp only
    rw [if_neg (by omega)]
    split <;> simp

/-- The loop raises what stops it first. -/
theorem patches_eq_error {rt : Runtime} {labels : List (Str × Nat)} {sites : List (Nat × Str)}
    {script : Bytes} {e : PyError} (inside : ∀ site ∈ sites, site.1 + 2 ≤ script.length) :
    sites.foldlM (patch rt labels) script = .error e ↔ sites.findSome? (fault? rt labels) = some e := by
  induction sites generalizing script with
  | nil => simp [pure, Except.pure]
  | cons site sites ih =>
    obtain ⟨here, later⟩ := List.forall_mem_cons.mp inside
    rw [List.foldlM_cons, List.findSome?_cons]
    cases first : patch rt labels script site with
    | error e' =>
      rw [(patch_eq_error here).mp first]
      simp [bind, Except.bind]
    | ok patched =>
      obtain ⟨target, -, -, -, rfl⟩ := patch_ok first
      have none : fault? rt labels site = none := by
        cases fault : fault? rt labels site with
        | none => rfl
        | some e' =>
          rw [(patch_eq_error here).mpr fault] at first
          contradiction
      rw [none]
      -- A patch keeps the length, so the later sites stay inside the script.
      exact ih (by rwa [length_splice here (length_natToLE 2 target)])

/-! ## Finished scripts -/

theorem endScript_eq (rt : Runtime) (s : ScriptBuilder) :
    endScript rt s =
      match s.error with
      | some e => .error e
      | none => toScript rt { s with writer := s.writer ++ [Opcode.RET.toByte] } := by
  unfold endScript
  rw [endScriptWithError_eq]
  generalize toScript rt { s with writer := s.writer ++ [Opcode.RET.toByte] } = result
  cases s.error with
  | some e => rfl
  | none => cases result <;> rfl

/-- What `to_script` raises is what stops it at the first jump of the run that it cannot patch. -/
theorem toScript_eq_error {rt : Runtime} {ops : List Op} {e : PyError} :
    toScript rt (ended rt ops) = .error e ↔
      (jumps rt ops).findSome? (fault? rt (labelsFrom rt {} ops).reverse) = some e := by
  have traced := ended_traced rt ops
  have same : fault? rt (ended rt ops).labelLocations = fault? rt (labelsFrom rt {} ops).reverse := by
    funext jump
    unfold fault?
    rw [traced.labelTable]
  unfold toScript
  rw [traced.jumpTable, patches_eq_error traced.inside, same]

/-- The label of the jump is defined, and its last definition lies below the limit of an operand. -/
def Near (rt : Runtime) (ops : List Op) (jump : Nat × Str) : Prop :=
  ∃ target, lastLabel rt ops jump.2 = some target ∧ target < 2 ^ 16

/-- The label of the jump is defined, and its last definition lies beyond that limit. -/
def TooFar (rt : Runtime) (ops : List Op) (jump : Nat × Str) : Prop :=
  ∃ target, lastLabel rt ops jump.2 = some target ∧ 2 ^ 16 ≤ target

theorem fault?_eq_none {rt : Runtime} {ops : List Op} {jump : Nat × Str} :
    fault? rt (labelsFrom rt {} ops).reverse jump = none ↔ Near rt ops jump := by
  unfold fault? Near lastLabel
  cases getEntry (labelsFrom rt {} ops).reverse (rt.lower jump.2) with
  | none => simp
  | some target => simp

theorem fault?_eq_some {rt : Runtime} {ops : List Op} {jump : Nat × Str} {e : PyError}
    (fault : fault? rt (labelsFrom rt {} ops).reverse jump = some e) :
    e = .overflowError ∧ TooFar rt ops jump ∨
      lastLabel rt ops jump.2 = none ∧ ∃ message, e = .builderError message := by
  unfold fault? at fault
  unfold TooFar lastLabel
  cases found : getEntry (labelsFrom rt {} ops).reverse (rt.lower jump.2) with
  | none =>
    rw [found] at fault
    exact .inr ⟨rfl, _, (Option.some.inj fault).symm⟩
  | some target =>
    rw [found] at fault
    dsimp only at fault
    split at fault
    next far => exact .inl ⟨(Option.some.inj fault).symm, target, rfl, far⟩
    next => contradiction

/-- `end_script` returns the patched script, or raises a `BuilderError`. -/
def FinalisesClosed (rt : Runtime) (ops : List Op) : Prop :=
  (∃ script, endScript rt (build rt ops) = .ok script ∧ Resolved rt ops script) ∨
    ∃ message, endScript rt (build rt ops) = .error (.builderError message)

/-- Nothing else escapes exactly if the builder has retained an error, or the first jump that cannot be
    patched, if there is one, is one without a label. -/
theorem finalisesClosed_iff (rt : Runtime) (ops : List Op) :
    FinalisesClosed rt ops ↔ (build rt ops).error ≠ none ∨
      ∀ before jump after, jumps rt ops = before ++ jump :: after →
        (∀ earlier ∈ before, Near rt ops earlier) → ¬ TooFar rt ops jump := by
  unfold FinalisesClosed
  rw [endScript_eq, ← ended_eq]
  cases retained : (build rt ops).error with
  | some e =>
    obtain ⟨message, rfl⟩ := build_error rt retained
    exact iff_of_true (.inr ⟨message, rfl⟩) (.inl (by simp))
  | none =>
    dsimp only
    constructor
    · intro closed
      refine .inr fun before jump after sites near far => ?_
      -- The loop reaches the jump and raises the conversion error there.
      have raises : toScript rt (ended rt ops) = .error .overflowError := by
        rw [toScript_eq_error, List.findSome?_eq_some_iff]
        refine ⟨before, jump, after, sites, ?_, fun earlier member => ?_⟩
        · obtain ⟨target, found, beyond⟩ := far
          unfold fault?
          unfold lastLabel at found
          rw [found]
          exact if_pos beyond
        · exact fault?_eq_none.mpr (near earlier member)
      rw [raises] at closed
      rcases closed with ⟨script, absurd, -⟩ | ⟨message, absurd⟩
      · cases absurd
      · cases absurd
    · rintro (absurd | patchable)
      · contradiction
      cases patched : toScript rt (ended rt ops) with
      | ok script => exact .inl ⟨script, rfl, toScript_resolved patched⟩
      | error e =>
        obtain ⟨before, jump, after, sites, fault, clear⟩ :=
          List.findSome?_eq_some_iff.mp (toScript_eq_error.mp patched)
        have near (earlier : Nat × Str) (member : earlier ∈ before) : Near rt ops earlier :=
          fault?_eq_none.mp (clear earlier member)
        rcases fault?_eq_some fault with ⟨-, far⟩ | ⟨-, message, rfl⟩
        · exact absurd far (patchable before jump after sites near)
        · exact .inr ⟨message, rfl⟩

/-- Data up to the limit, a label, and a jump to it: three calls that return normally. -/
theorem farLabel_overflows :
    ∃ s, exec (do
        emitRaw (List.replicate 65535 0)
        emitLabel asciiRuntime (Str.ofString "far")
        emitJump .JMP (Str.ofString "far") 0) {} = (.ok (), s) ∧
      endScript asciiRuntime s = .error .overflowError := by
  -- The bytes themselves do not matter, so that nothing below unfolds them.
  obtain ⟨data, filled⟩ : ∃ data : Bytes, data = List.replicate 65535 0 := ⟨_, rfl⟩
  have size : data.length = 65535 := by rw [filled, List.length_replicate]
  rw [← filled]
  have raw : exec (emitRaw data) {} = (.ok (), { writer := data }) :=
    exec_append_emits (emits_write.mpr rfl) {}
  have jump (s : ScriptBuilder) : exec (emitJump .JMP (Str.ofString "far") 0) s =
      exec (do emit .JMP; jumpOperand (Str.ofString "far")) s := rfl
  have overflow (s : ScriptBuilder) (length : s.writer.length = 65540)
      (jumps : s.jumpLocations = [(65537, Str.ofString "far")])
      (labels : s.labelLocations = [(Str.ofString "far", 65536)]) :
      toScript asciiRuntime s = .error .overflowError := by
    unfold toScript
    rw [jumps, labels]
    refine (patches_eq_error ?_).mpr (by decide +kernel)
    simp [length]
  have folded : asciiRuntime.lower (Str.ofString "far") = Str.ofString "far" := by decide +kernel
  rw [exec_bind, raw]
  dsimp only
  rw [exec_bind, exec_emitLabel]
  dsimp only
  rw [jump, exec_bind, exec_emit]
  dsimp only
  rw [exec_jumpOperand]
  refine ⟨_, rfl, ?_⟩
  rw [endScript_eq]
  dsimp only
  rw [overflow]
  · simp [size]
  · simp [currentSize, setEntry, size]
  · simp [currentSize, setEntry, size, folded]

end ScriptBuilder

end PhantasmaPy.VM
