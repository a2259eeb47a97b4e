import PhantasmaPy.VM.Finalising

/-! # Instruction layouts

What each emitting call of the builder writes, piece by piece, and what is left of it when one of its
operands is refused.
-/

namespace PhantasmaPy.VM

open Wire

/-- One step of an emitting call: bytes that are written as they are, or an operand that is checked
    against the width of its field first. -/
inductive Piece where
  | raw (bytes : Bytes)
  | operand (width : Nat) (value : Int)

namespace Piece

def Fits : Piece → Prop
  | raw _ => True
  | operand width value => Unsigned (8 * width) value

instance : DecidablePred Fits
  | raw _ => isTrue trivial
  | operand width value => inferInstanceAs (Decidable (Unsigned (8 * width) value))

def image : Piece → Bytes
  | raw bytes => bytes
  | operand width value => natToLE width value.toNat

end Piece

abbrev Layout := List Piece

namespace Layout

def Fits (layout : Layout) : Prop := ∀ piece ∈ layout, piece.Fits

instance : DecidablePred Fits := fun layout => inferInstanceAs (Decidable (∀ piece ∈ layout, piece.Fits))

/-- The complete encoding. -/
def bytes (layout : Layout) : Bytes := layout.flatMap Piece.image

/-- The pieces before the first one that is refused. -/
def leftover (layout : Layout) : Bytes := (layout.takeWhile fun piece => piece.Fits).flatMap Piece.image

theorem fits_operand {width : Nat} {value : Int} :
    Layout.Fits [.operand width value] ↔ Unsigned (8 * width) value := List.forall_mem_singleton

theorem fits_append {first second : Layout} : (first ++ second).Fits ↔ first.Fits ∧ second.Fits :=
  List.forall_mem_append

theorem bytes_append (first second : Layout) : (first ++ second).bytes = first.bytes ++ second.bytes :=
  List.flatMap_append

theorem leftover_append {first : Layout} (fits : first.Fits) (second : Layout) :
    (first ++ second).leftover = first.bytes ++ second.leftover := by
  unfold leftover bytes
  rw [List.takeWhile_append_of_pos fun piece member => decide_eq_true (fits piece member),
    List.flatMap_append]

theorem leftover_append_refused {first : Layout} (refused : ¬ first.Fits) (second : Layout) :
    (first ++ second).leftover = first.leftover := by
  unfold leftover
  rw [List.takeWhile_append, if_neg]
  intro whole
  refine refused fun piece member => of_decide_eq_true ?_
  exact List.takeWhile_eq_self_iff.mp ((List.takeWhile_prefix _).eq_of_length whole) piece member

/-- A call whose first piece is a marker or an opcode leaves at least that behind. -/
theorem leftover_ne_nil (first : UInt8) (rest : Bytes) (layout : Layout) :
    leftover (.raw (first :: rest) :: layout) ≠ [] := by
  unfold leftover
  rw [List.takeWhile_cons]
  exact List.cons_ne_nil first _

end Layout

namespace ScriptBuilder

/-! ## Sequences of checked writes -/

/-- The operation writes the layout, or stops with an exception at the first piece that is refused. -/
def Lays (p : Build Unit) (layout : Layout) : Prop := ∀ s : ScriptBuilder,
  (layout.Fits → exec p s = (.ok (), { s with writer := s.writer ++ layout.bytes })) ∧
    (¬ layout.Fits → ∃ e, exec p s = (.error e, { s with writer := s.writer ++ layout.leftover }))

/-- What such an operation has done to the builder; a complete one may have changed the tables too. -/
def Laid (layout : Layout) (s s' : ScriptBuilder) : Prop :=
  (layout.Fits → s'.writer = s.writer ++ layout.bytes ∧ s'.error = s.error) ∧
    (¬ layout.Fits → s' = { s with writer := s.writer ++ layout.leftover })

theorem lays_raw {w : Writer Unit} {out : Bytes} (emits : w.Emits () out) : Lays (append w) [.raw out] := by
  intro s
  have fits : Layout.Fits [.raw out] := List.forall_mem_singleton.mpr trivial
  refine ⟨fun _ => ?_, fun refused => absurd fits refused⟩
  rw [exec_append_emits emits]
  simp [Layout.bytes, Piece.image]

theorem lays_operand {w : Writer Unit} {width : Nat} {value : Int}
    (accepted : Unsigned (8 * width) value → w.Emits () (natToLE width value.toNat))
    (refused : ¬ Unsigned (8 * width) value → ∃ e, w = .failed e []) :
    Lays (append w) [.operand width value] := by
  intro s
  constructor
  · intro fits
    rw [exec_append_emits (accepted (Layout.fits_operand.mp fits))]
    simp [Layout.bytes, Piece.image]
  · intro outside
    have unfit : ¬ (Piece.operand width value).Fits := fun fits => outside (Layout.fits_operand.mpr fits)
    have nothing : Layout.leftover [.operand width value] = [] := by
      unfold Layout.leftover
      rw [List.takeWhile_cons_of_neg (by simpa using unfit)]
      rfl
    obtain ⟨e, rfl⟩ := refused unfit
    exact ⟨e, by rw [nothing]; rfl⟩

/-- Two writers on the buffer, one after the other. -/
theorem exec_append_bind (first second : Writer Unit) (s : ScriptBuilder) :
    exec (append (first >>= fun _ => second)) s = exec (append first >>= fun _ => append second) s := by
  rw [exec_bind]
  cases first with
  | failed e out => rfl
  | wrote _ out =>
    cases second with
    | failed e out' =>
      change (_, { s with writer := s.writer ++ (out ++ out') }) = _
      rw [← List.append_assoc]
      rfl
    | wrote _ out' =>
      change (_, { s with writer := s.writer ++ (out ++ out') }) = _
      rw [← List.append_assoc]
      rfl

theorem lays_emit (opcode : Opcode) : Lays (emit opcode) [.raw [opcode.toByte]] := by
  have bound := opcode.toByte.toNat_lt
  exact lays_raw (emits_write1.mpr ⟨⟨by positivity, by exact_mod_cast bound⟩,
    by rw [Int.toNat_natCast, UInt8.ofNat_toNat]⟩)

theorem lays_byte (value : Int) : Lays (byte value) [.operand 1 value] := by
  refine lays_operand (fun fits => emits_write1.mpr ⟨fits, rfl⟩) fun outside => ?_
  exact write1_refused outside

theorem lays_writeUnsigned (width : Nat) (value : Int) :
    Lays (append (writeUnsigned width value)) [.operand width value] := by
  refine lays_operand (fun fits => emits_writeUnsigned.mpr ⟨fits, rfl⟩) fun outside => ?_
  exact writeUnsigned_refused outside

theorem Lays.bind {p q : Build Unit} {first second : Layout} (lays : Lays p first) (after : Lays q second) :
    Lays (p >>= fun _ => q) (first ++ second) := by
  intro s
  by_cases fits : first.Fits
  · rw [exec_bind, (lays s).1 fits, Layout.bytes_append, Layout.leftover_append fits, Layout.fits_append]
    obtain ⟨complete, torn⟩ := after { s with writer := s.writer ++ first.bytes }
    simp only [List.append_assoc] at complete torn ⊢
    exact ⟨fun both => complete both.2, fun refused => torn fun rest => refused ⟨fits, rest⟩⟩
  · obtain ⟨e, failed⟩ := (lays s).2 fits
    rw [exec_bind, failed, Layout.leftover_append_refused fits]
    exact ⟨fun both => absurd (Layout.fits_append.mp both).1 fits, fun _ => ⟨e, rfl⟩⟩

theorem Lays.laid {p : Build Unit} {layout : Layout} (lays : Lays p layout) (s : ScriptBuilder) :
    Laid layout s (exec p s).2 := by
  constructor
  · intro fits
    rw [(lays s).1 fits]
    exact ⟨rfl, rfl⟩
  · intro refused
    obtain ⟨e, failed⟩ := (lays s).2 refused
    rw [failed]

/-- The last operation of a sequence may change the tables. -/
theorem Lays.bind_laid {p q : Build Unit} {first second : Layout} (lays : Lays p first)
    (after : ∀ s, Laid second s (exec q s).2) (s : ScriptBuilder) :
    Laid (first ++ second) s (exec (p >>= fun _ => q) s).2 := by
  by_cases fits : first.Fits
  · unfold Laid
    rw [exec_bind, (lays s).1 fits, Layout.bytes_append, Layout.leftover_append fits, Layout.fits_append]
    obtain ⟨complete, torn⟩ := after { s with writer := s.writer ++ first.bytes }
    simp only [List.append_assoc] at complete torn ⊢
    exact ⟨fun both => complete both.2, fun refused => torn fun rest => refused ⟨fits, rest⟩⟩
  · obtain ⟨e, failed⟩ := (lays s).2 fits
    unfold Laid
    rw [exec_bind, failed, Layout.leftover_append_refused fits]
    exact ⟨fun both => absurd (Layout.fits_append.mp both).1 fits, fun _ => rfl⟩

theorem jumpOperand_laid (label : Str) (s : ScriptBuilder) :
    Laid [.raw [0, 0]] s (exec (jumpOperand label) s).2 := by
  have fits : Layout.Fits [.raw [0, 0]] := List.forall_mem_singleton.mpr trivial
  rw [exec_jumpOperand]
  exact ⟨fun _ => ⟨rfl, rfl⟩, fun refused => absurd fits refused⟩

/-- The operation raises before it changes the builder, or leaves an error in it. -/
def Refuses (p : Build Unit) : Prop := ∀ s : ScriptBuilder,
  (∃ e, exec p s = (.error e, s)) ∨ (exec p s).2.error ≠ none

theorem refuses_fail (message : Str) : Refuses (fail message) := by
  intro s
  rw [exec_fail]
  cases s.error <;> exact .inr (by simp)

theorem refuses_raise {α : Type} (e : PyError) (f : α → Build Unit) :
    Refuses (ExceptT.mk (pure (.error e)) >>= f) := by
  intro s
  rw [exec_bind, exec_mk_pure]
  exact .inl ⟨e, rfl⟩

/-- A message that cannot be formed is raised. -/
theorem refuses_failWith (value : Int) (message : String → String) : Refuses (failWith value message) := by
  intro s
  rw [failWith, exec_bind, exec_mk_pure]
  cases formatInt value with
  | error e => exact .inl ⟨e, rfl⟩
  | ok text => exact refuses_fail _ s

/-- A recorded error stays. -/
theorem Retains.kept {s s' : ScriptBuilder} (retains : Retains s s') (recorded : s.error ≠ none) :
    s'.error ≠ none := by
  rcases retains with same | ⟨fresh, -⟩
  · rwa [same]
  · exact absurd fresh recorded

theorem Refuses.bind {p q : Build Unit} (refuses : Refuses p) (keeps : Moves Retains q) :
    Refuses (p >>= fun _ => q) := by
  intro s
  rw [exec_bind]
  rcases run : exec p s with ⟨result, s'⟩
  rcases refuses s with ⟨e, raised⟩ | recorded
  · rw [run, Prod.mk.injEq] at raised
    obtain ⟨rfl, rfl⟩ := raised
    exact .inl ⟨e, rfl⟩
  · rw [run] at recorded
    cases result with
    | error e => exact .inr recorded
    | ok a => exact .inr ((keeps s').kept recorded)

/-- The operation writes the layout, or there is none and the operation is refused. -/
inductive Follows (p : Build Unit) : Option Layout → Prop
  | lays {layout : Layout} (lays : Lays p layout) : Follows p (some layout)
  | refuses (refuses : Refuses p) : Follows p none

/-! ## Layouts of the calls -/

/-- `write_var_uint`; a negative value is refused at once. -/
def varUintLayout (value : Int) : Option Layout :=
  if value < 0 then none
  else if value < 0xFD then some [.operand 1 value]
  else if value ≤ 0xFFFF then some [.raw [0xFD], .operand 2 value]
  else if value ≤ 0xFFFFFFFF then some [.raw [0xFE], .operand 4 value]
  else some [.raw [0xFF], .operand 8 value]

def loadLayout (reg : Int) (data : Bytes) (vmType : VMType) : Option Layout :=
  if data.length > 0xFFFF then none
  else (varUintLayout data.length).map fun count =>
    [.raw [Opcode.LOAD.toByte]] ++ ([.operand 1 reg] ++
      ([.operand 1 vmType.toByte.toNat] ++ (count ++ [.raw data])))

def loadStringLayout (reg : Int) (value : Str) : Option Layout :=
  value.encodeUtf8.bind fun raw => loadLayout reg raw .STRING

def loadTimeLayout (reg unixSeconds : Int) : Option Layout :=
  if unixSeconds < 0 ∨ unixSeconds > 0xFFFFFFFF then none
  else loadLayout reg (natToLE 4 unixSeconds.toNat) .TIMESTAMP

def extCallLayout (method : Str) (reg : Int) : Option Layout :=
  (loadStringLayout reg method).map fun load =>
    load ++ ([.raw [Opcode.EXTCALL.toByte]] ++ [.operand 1 reg])

def callLayout (registerCount : Int) : Option Layout :=
  if registerCount < 1 ∨ registerCount > MAX_REGISTER_COUNT then none
  else some ([.raw [Opcode.CALL.toByte]] ++ ([.operand 1 registerCount] ++ [.raw [0, 0]]))

def jumpLayout (opcode : Opcode) (reg : Int) : Option Layout :=
  match opcode with
  | .JMP => some ([.raw [opcode.toByte]] ++ [.raw [0, 0]])
  | .JMPIF | .JMPNOT => some ([.raw [opcode.toByte]] ++ ([.operand 1 reg] ++ [.raw [0, 0]]))
  | _ => none

/-- The layout of an emitting call, unless it is refused before it writes anything.  The operands of
    jumps and calls are zero until the script is finished. -/
def Op.layout : Op → Option Layout
  | emitPush reg => some ([.raw [Opcode.PUSH.toByte]] ++ [.operand 1 reg])
  | emitPop reg => some ([.raw [Opcode.POP.toByte]] ++ [.operand 1 reg])
  | emitThrow reg => some ([.raw [Opcode.THROW.toByte]] ++ [.operand 1 reg])
  | emitMove srcReg dstReg =>
    some ([.raw [Opcode.MOVE.toByte]] ++ ([.operand 1 srcReg] ++ [.operand 1 dstReg]))
  | emitCopy srcReg dstReg =>
    some ([.raw [Opcode.COPY.toByte]] ++ ([.operand 1 srcReg] ++ [.operand 1 dstReg]))
  | emitLoad reg data vmType => loadLayout reg data vmType
  | emitLoadString reg value => loadStringLayout reg value
  | emitLoadBool reg value => loadLayout reg (if value then [0x01] else [0x00]) .BOOL
  | emitLoadNumber reg value => loadLayout reg (bigIntToCsharpBytes value) .NUMBER
  | emitLoadTime reg unixSeconds => loadTimeLayout reg unixSeconds
  | emitExtCall method reg => extCallLayout method reg
  | emitVarBytes value => varUintLayout value
  | emitLabel _ => some [.raw [Opcode.NOP.toByte]]
  | emitJump opcode _ reg => jumpLayout opcode reg
  | emitConditionalJump .JMPIF srcReg _ => jumpLayout .JMPIF srcReg
  | emitConditionalJump .JMPNOT srcReg _ => jumpLayout .JMPNOT srcReg
  | emitCall _ registerCount => callLayout registerCount
  | _ => none

/-- The calls that emit one instruction each. -/
def Op.Single : Op → Prop
  | emit _ => False
  | emitRaw _ => False
  | callInterop _ _ => False
  | callContract _ _ _ => False
  | helper _ => False
  | textHelper _ => False
  | _ => True

theorem varUint_follows (value : Int) : Follows (append (writeVarUint value)) (varUintLayout value) := by
  -- the marker goes out before the width is checked, so that it stays behind when the value is refused
  have marked (marker : UInt8) (width : Nat) :
      Lays (append (do writeU8 marker.toNat; writeUnsigned width value : Writer Unit))
        ([.raw [marker]] ++ [.operand width value]) := by
    have emits : (writeU8 marker.toNat).Emits () [marker] := by
      have bound := marker.toNat_lt
      exact emits_write1.mpr ⟨⟨by positivity, by exact_mod_cast bound⟩,
        by rw [Int.toNat_natCast, UInt8.ofNat_toNat]⟩
    intro s
    rw [exec_append_bind]
    exact (lays_raw emits).bind (lays_writeUnsigned width value) s
  unfold varUintLayout writeVarUint
  split
  next =>
    refine .refuses fun s => .inl ⟨serializationError "varuint cannot be negative", ?_⟩
    change (_, { s with writer := s.writer ++ [] }) = _
    rw [List.append_nil]
  next =>
    split
    next => exact .lays (lays_byte value)
    next =>
      split
      next => exact .lays (marked 0xFD 2)
      next =>
        split
        next => exact .lays (marked 0xFE 4)
        next => exact .lays (marked 0xFF 8)

theorem emitLoad_follows (reg : Int) (data : Bytes) (vmType : VMType) :
    Follows (emitLoad reg data vmType) (loadLayout reg data vmType) := by
  unfold emitLoad loadLayout
  split
  next => exact .refuses (refuses_fail _)
  next =>
    have count := varUint_follows data.length
    cases layout : varUintLayout data.length with
    | none =>
      unfold varUintLayout at layout
      rw [if_neg (by omega)] at layout
      split_ifs at layout
    | some length =>
      rw [layout] at count
      cases count with
      | lays count =>
        exact .lays <| (lays_emit .LOAD).bind <| (lays_byte reg).bind <| (lays_byte _).bind <|
          count.bind (lays_raw (emits_write.mpr rfl))

theorem emitLoadString_follows (reg : Int) (value : Str) :
    Follows (emitLoadString reg value) (loadStringLayout reg value) := by
  unfold emitLoadString loadStringLayout encodeText
  cases value.encodeUtf8 with
  | none => exact .refuses (refuses_raise _ _)
  | some raw => exact emitLoad_follows reg raw .STRING

theorem emitLoadTime_follows (reg unixSeconds : Int) :
    Follows (emitLoadTime reg unixSeconds) (loadTimeLayout reg unixSeconds) := by
  unfold emitLoadTime loadTimeLayout
  split
  next => exact .refuses (refuses_failWith _ _)
  next => exact emitLoad_follows _ _ _

theorem emitByte_lays (opcode : Opcode) (reg : Int) :
    Lays (do emit opcode; byte reg) ([.raw [opcode.toByte]] ++ [.operand 1 reg]) :=
  (lays_emit opcode).bind (lays_byte reg)

theorem emitExtCall_follows (method : Str) (reg : Int) :
    Follows (emitExtCall method reg) (extCallLayout method reg) := by
  have load := emitLoadString_follows reg method
  unfold emitExtCall extCallLayout
  cases layout : loadStringLayout reg method with
  | none =>
    rw [layout] at load
    cases load with
    | refuses refuses => exact .refuses (refuses.bind (emitByte_moves _ _))
  | some layout =>
    rw [layout] at load
    cases load with
    | lays lays => exact .lays (lays.bind (emitByte_lays .EXTCALL reg))

/-- How the builder after a call follows from the layout of the call. -/
inductive Written (s s' : ScriptBuilder) : Option Layout → Prop
  | laid {layout : Layout} (laid : Laid layout s s') : Written s s' (some layout)
  | refused (refused : s' = s ∨ s'.error ≠ none) : Written s s' none

theorem Follows.written {p : Build Unit} {layout : Option Layout} (follows : Follows p layout)
    (s : ScriptBuilder) : Written s (exec p s).2 layout := by
  cases follows with
  | lays lays => exact .laid (lays.laid s)
  | refuses refuses =>
    rcases refuses s with ⟨e, raised⟩ | recorded
    · exact .refused (.inl (by rw [raised]))
    · exact .refused (.inr recorded)

theorem written_fail (message : Str) (s : ScriptBuilder) : Written s (exec (fail message) s).2 none :=
  Follows.written (.refuses (refuses_fail message)) s

theorem written_failWith (value : Int) (message : String → String) (s : ScriptBuilder) :
    Written s (exec (failWith value message) s).2 none :=
  Follows.written (.refuses (refuses_failWith value message)) s

theorem emitJump_written (opcode : Opcode) (label : Str) (reg : Int) (s : ScriptBuilder) :
    Written s (exec (emitJump opcode label reg) s).2 (jumpLayout opcode reg) := by
  have register (opcode' : Opcode) :
      Written s (exec (do emit opcode'; byte reg; jumpOperand label) s).2
        (some ([.raw [opcode'.toByte]] ++ ([.operand 1 reg] ++ [.raw [0, 0]]))) :=
    .laid ((lays_emit opcode').bind_laid ((lays_byte reg).bind_laid (jumpOperand_laid label)) s)
  cases opcode with
  | JMP => exact .laid ((lays_emit .JMP).bind_laid (jumpOperand_laid label) s)
  | JMPIF => exact register .JMPIF
  | JMPNOT => exact register .JMPNOT
  | _ => exact written_fail _ s

theorem emitCall_written (label : Str) (registerCount : Int) (s : ScriptBuilder) :
    Written s (exec (emitCall label registerCount) s).2 (callLayout registerCount) := by
  unfold emitCall callLayout
  split
  next => exact written_failWith _ _ s
  next =>
    exact .laid ((lays_emit .CALL).bind_laid
      ((lays_byte registerCount).bind_laid (jumpOperand_laid label)) s)

theorem step_written (rt : Runtime) (s : ScriptBuilder) {op : Op} (single : op.Single) :
    Written s (step rt s op) op.layout := by
  cases op with
  | emitPush reg => exact Follows.written (.lays (emitByte_lays .PUSH reg)) s
  | emitPop reg => exact Follows.written (.lays (emitByte_lays .POP reg)) s
  | emitThrow reg => exact Follows.written (.lays (emitByte_lays .THROW reg)) s
  | emitMove srcReg dstReg =>
    exact Follows.written (.lays ((lays_emit .MOVE).bind ((lays_byte srcReg).bind (lays_byte dstReg)))) s
  | emitCopy srcReg dstReg =>
    exact Follows.written (.lays ((lays_emit .COPY).bind ((lays_byte srcReg).bind (lays_byte dstReg)))) s
  | emitLoad reg data vmType => exact (emitLoad_follows reg data vmType).written s
  | emitLoadString reg value => exact (emitLoadString_follows reg value).written s
  | emitLoadBool reg value => exact (emitLoad_follows _ _ _).written s
  | emitLoadNumber reg value => exact (emitLoad_follows _ _ _).written s
  | emitLoadTime reg unixSeconds => exact (emitLoadTime_follows reg unixSeconds).written s
  | emitExtCall method reg => exact (emitExtCall_follows method reg).written s
  | emitVarBytes value => exact (varUint_follows value).written s
  | emitLabel label =>
    have fits : Layout.Fits [.raw [Opcode.NOP.toByte]] := List.forall_mem_singleton.mpr trivial
    refine .laid ⟨fun _ => ?_, fun refused => absurd fits refused⟩
    unfold step Op.run
    rw [exec_emitLabel]
    exact ⟨rfl, rfl⟩
  | emitJump opcode label reg => exact emitJump_written opcode label reg s
  | emitCall label registerCount => exact emitCall_written label registerCount s
  | emitConditionalJump opcode srcReg label =>
    cases opcode with
    | JMPIF => exact emitJump_written .JMPIF label srcReg s
    | JMPNOT => exact emitJump_written .JMPNOT label srcReg s
    | _ => exact written_fail _ s
  | emit => exact single.elim
  | emitRaw => exact single.elim
  | callInterop => exact single.elim
  | callContract => exact single.elim
  | helper => exact single.elim
  | textHelper => exact single.elim

end ScriptBuilder

end PhantasmaPy.VM
