import PhantasmaPy.VM.Instructions
import Mathlib.Data.List.Dedup
import Mathlib.Data.List.Perm.Subperm
import Mathlib.Data.Set.List

/-! # Interrupted instructions

Which builders can still be finished, and which calls leave half an instruction in one that can.
-/

namespace PhantasmaPy.VM

open Wire

namespace ScriptBuilder

/-! ## The label table -/

/-- No label lies beyond the end, and no two labels lie at one offset. -/
structure Ordered (s : ScriptBuilder) : Prop where
  bound : ∀ {name target}, getEntry s.labelLocations name = some target → target ≤ s.currentSize
  apart : ∀ {name name' target}, getEntry s.labelLocations name = some target →
    getEntry s.labelLocations name' = some target → name = name'

/-- The later builder is no shorter, and its labels are old ones or lie beyond the earlier end. -/
structure Later (s s' : ScriptBuilder) : Prop where
  size : s.currentSize ≤ s'.currentSize
  labels : ∀ {name target}, getEntry s'.labelLocations name = some target →
    getEntry s.labelLocations name = some target ∨ s.currentSize < target

theorem ordered_begin : Ordered {} where
  bound found := by cases found
  apart found := by cases found

theorem Later.refl (s : ScriptBuilder) : Later s s where
  size := le_refl _
  labels found := .inl found

theorem Later.trans {s t u : ScriptBuilder} (first : Later s t) (second : Later t u) : Later s u where
  size := first.size.trans second.size
  labels found := by
    rcases second.labels found with old | new
    · exact first.labels old
    · exact .inr (lt_of_le_of_lt first.size new)

section Effects

variable {s s' : ScriptBuilder} {jump : Option (Nat × Str)} {label : Option (Str × Nat)}

theorem Effect.later (effect : Effect s s' jump label) : Later s s' := by
  cases effect with
  | quiet out error state =>
    subst state
    exact ⟨by simp [currentSize], .inl⟩
  | jump front name state =>
    subst state
    exact ⟨by simp [currentSize], .inl⟩
  | label name state =>
    subst state
    refine ⟨by simp [currentSize], fun found => ?_⟩
    rw [getEntry_setEntry] at found
    split at found
    · cases found
      exact .inr (Nat.lt_succ_self _)
    · exact .inl found

theorem Ordered.effect (ordered : Ordered s) (effect : Effect s s' jump label) : Ordered s' := by
  have size := effect.later.size
  cases effect with
  | quiet out error state =>
    subst state
    exact ⟨fun found => (ordered.bound found).trans size, ordered.apart⟩
  | jump front name state =>
    subst state
    exact ⟨fun found => (ordered.bound found).trans size, ordered.apart⟩
  | label name state =>
    subst state
    constructor
    case bound =>
      intro name' target found
      rw [getEntry_setEntry] at found
      split at found
      · cases found
        simp [currentSize]
      · exact (ordered.bound found).trans size
    case apart =>
      intro first second target found found'
      rw [getEntry_setEntry] at found found'
      -- The new label lies beyond all others.
      split at found
      next same =>
        cases found
        split at found'
        next same' => exact same.trans same'.symm
        next =>
          have bound := ordered.bound found'
          omega
      next =>
        split at found'
        next =>
          cases found'
          have bound := ordered.bound found
          omega
        next => exact ordered.apart found found'

end Effects

theorem run_later (rt : Runtime) (s : ScriptBuilder) (ops : List Op) :
    Later s (ops.foldl (step rt) s) := by
  induction ops generalizing s with
  | nil => exact Later.refl s
  | cons op ops ih => exact (step_effect rt s op).later.trans (ih _)

theorem Ordered.run (rt : Runtime) {s : ScriptBuilder} (ordered : Ordered s) (ops : List Op) :
    Ordered (ops.foldl (step rt) s) := by
  induction ops generalizing s with
  | nil => exact ordered
  | cons op ops ih => exact ih (ordered.effect (step_effect rt s op))

theorem build_ordered (rt : Runtime) (ops : List Op) : Ordered (build rt ops) := ordered_begin.run rt ops

theorem build_append (rt : Runtime) (ops later : List Op) :
    build rt (ops ++ later) = later.foldl (step rt) (build rt ops) := List.foldl_append

/-- Recorded jumps stay recorded. -/
theorem jumps_kept (rt : Runtime) (ops later : List Op) :
    (build rt ops).jumpLocations ⊆ (build rt (ops ++ later)).jumpLocations := by
  rw [build_append, ((build_traced rt ops).run rt later).jumpTable, (build_traced rt ops).jumpTable]
  exact List.subset_append_left _ _

/-! ## Builders that can be finished -/

/-- The label of the jump is in the table, below the limit of an operand. -/
def Patchable (rt : Runtime) (s : ScriptBuilder) (jump : Nat × Str) : Prop :=
  ∃ target, getEntry s.labelLocations (rt.lower jump.2) = some target ∧ target < 2 ^ 16

theorem fault?_eq_none_iff {rt : Runtime} {s : ScriptBuilder} {jump : Nat × Str} :
    fault? rt s.labelLocations jump = none ↔ Patchable rt s jump := by
  unfold fault? Patchable
  cases getEntry s.labelLocations (rt.lower jump.2) with
  | none => simp
  | some target => simp

/-- A builder finishes exactly if no error is recorded and each jump can be patched. -/
theorem finishes_iff (rt : Runtime) (ops : List Op) :
    (∃ e, endScriptWithError rt (build rt ops) = ([], some e)) ↔
      ¬ ((build rt ops).error = none ∧ ∀ jump ∈ (build rt ops).jumpLocations,
        Patchable rt (build rt ops) jump) := by
  have traced := build_traced rt ops
  -- A patch writes two bytes over its site, and every site was reserved while the script was built.
  have inside : ∀ site ∈ (build rt ops).jumpLocations,
      site.1 + 2 ≤ ((build rt ops).writer ++ [Opcode.RET.toByte]).length := by
    intro site member
    rw [traced.jumpTable] at member
    have inside := traced.inside site member
    rw [List.length_append]
    omega
  have raises (e : PyError) := @patches_eq_error rt (build rt ops).labelLocations _ _ e inside
  rw [endScriptWithError_eq]
  cases (build rt ops).error with
  | some e => simp
  | none =>
    dsimp only [toScript]
    cases patched : (build rt ops).jumpLocations.foldlM (patch rt (build rt ops).labelLocations)
        ((build rt ops).writer ++ [Opcode.RET.toByte]) with
    | error e =>
      obtain ⟨jump, member, fault⟩ := List.exists_of_findSome?_eq_some ((raises e).mp patched)
      refine iff_of_true ⟨e, rfl⟩ fun finishes => ?_
      rw [fault?_eq_none_iff.mpr (finishes.2 jump member)] at fault
      contradiction
    | ok script =>
      refine iff_of_false (by simp) (not_not.mpr ⟨rfl, fun jump member => ?_⟩)
      cases fault : (build rt ops).jumpLocations.findSome? (fault? rt (build rt ops).labelLocations) with
      | none => exact fault?_eq_none_iff.mp (List.findSome?_eq_none_iff.mp fault jump member)
      | some e =>
        rw [(raises e).mpr fault] at patched
        contradiction

/-! ## Builders that cannot be finished any more -/

/-- Whatever is called next, `end_script_with_error` returns an error. -/
def Hopeless (rt : Runtime) (s : ScriptBuilder) : Prop :=
  ∀ ops : List Op, ∃ e, endScriptWithError rt (ops.foldl (step rt) s) = ([], some e)

/-- The folded labels of recorded jumps that are not defined yet. -/
def missing (rt : Runtime) (s : ScriptBuilder) : List Str :=
  ((s.jumpLocations.map fun jump => rt.lower jump.2).dedup).filter fun name =>
    getEntry s.labelLocations name = none

/-- A recorded jump has its label beyond the limit of an operand, or the missing labels do not fit
    below that limit any more. -/
def Doomed (rt : Runtime) (s : ScriptBuilder) : Prop :=
  (∃ jump ∈ s.jumpLocations, ∃ target,
    getEntry s.labelLocations (rt.lower jump.2) = some target ∧ 2 ^ 16 ≤ target) ∨
  missing rt s ≠ [] ∧ 2 ^ 16 ≤ s.currentSize + (missing rt s).length

theorem mem_missing {rt : Runtime} {s : ScriptBuilder} {name : Str} :
    name ∈ missing rt s ↔ (∃ jump ∈ s.jumpLocations, rt.lower jump.2 = name) ∧
      getEntry s.labelLocations name = none := by
  unfold missing
  rw [List.mem_filter, List.mem_dedup, List.mem_map, decide_eq_true_eq]

theorem missing_nodup (rt : Runtime) (s : ScriptBuilder) : (missing rt s).Nodup :=
  (List.nodup_dedup _).filter _

theorem Hopeless.after {rt : Runtime} {s : ScriptBuilder} (hopeless : Hopeless rt s) (op : Op) :
    Hopeless rt (step rt s op) := fun ops => hopeless (op :: ops)

theorem hopeless_of_error {rt : Runtime} {s : ScriptBuilder} (recorded : s.error ≠ none) :
    Hopeless rt s := by
  intro ops
  have kept : (ops.foldl (step rt) s).error ≠ none :=
    (run_moves rt s ops : Retains s _).kept recorded
  rw [endScriptWithError_eq]
  cases error : (ops.foldl (step rt) s).error with
  | none => exact absurd error kept
  | some e => exact ⟨e, rfl⟩

/-- Distinct labels need distinct offsets between the end of the builder and the limit. -/
theorem missing_fit {rt : Runtime} {s s' : ScriptBuilder} (later : Later s s') (ordered : Ordered s')
    (patched : ∀ name ∈ missing rt s, ∃ target, getEntry s'.labelLocations name = some target ∧
      target < 2 ^ 16) (needed : missing rt s ≠ []) :
    s.currentSize + (missing rt s).length < 2 ^ 16 := by
  have beyond {name : Str} {target : Nat} (member : name ∈ missing rt s)
      (found : getEntry s'.labelLocations name = some target) : s.currentSize < target := by
    rcases later.labels found with old | new
    · rw [(mem_missing.mp member).2] at old
      contradiction
    · exact new
  have injective : ∀ first ∈ missing rt s, ∀ second ∈ missing rt s,
      getEntry s'.labelLocations first = getEntry s'.labelLocations second → first = second := by
    intro first member second _ same
    obtain ⟨target, found, -⟩ := patched first member
    exact ordered.apart found (same ▸ found)
  -- The entries differ and lie in an interval of offsets, whose length bounds their number.
  have room : (missing rt s).map (getEntry s'.labelLocations) ⊆
      (List.range' (s.currentSize + 1) (2 ^ 16 - 1 - s.currentSize)).map Option.some := by
    intro entry listed
    obtain ⟨name, member, rfl⟩ := List.mem_map.mp listed
    obtain ⟨target, found, small⟩ := patched name member
    have after := beyond member found
    rw [found]
    exact List.mem_map_of_mem (List.mem_range'_1.mpr ⟨after, by omega⟩)
  have count := ((missing_nodup rt s).map_on injective |>.subperm room).length_le
  rw [List.length_map, List.length_map, List.length_range'] at count
  obtain ⟨name, member⟩ := List.exists_mem_of_ne_nil _ needed
  obtain ⟨target, found, small⟩ := patched name member
  have after := beyond member found
  omega

theorem hopeless_of_doomed {rt : Runtime} {ops : List Op} (doomed : Doomed rt (build rt ops)) :
    Hopeless rt (build rt ops) := by
  intro later
  rw [← build_append, finishes_iff]
  rintro ⟨-, patchable⟩
  have kept := jumps_kept rt ops later
  have after : Later (build rt ops) (build rt (ops ++ later)) := by
    rw [build_append]
    exact run_later rt _ later
  rcases doomed with ⟨jump, member, target, found, far⟩ | ⟨needed, full⟩
  · obtain ⟨target', found', near⟩ := patchable jump (kept member)
    have bound := (build_ordered rt ops).bound found
    -- The entry stays where it is, or a new one lies even further on.
    rcases after.labels found' with old | new
    · rw [found] at old
      cases old
      omega
    · omega
  · have fit := missing_fit after (build_ordered rt _) (fun name member => by
      obtain ⟨⟨jump, recorded, rfl⟩, -⟩ := mem_missing.mp member
      exact patchable jump (kept recorded)) needed
    omega

/-! ## Rescuing a builder -/

/-- Emitting labels changes nothing but their entries. -/
theorem labels_run (rt : Runtime) (s : ScriptBuilder) (labels : List Str) :
    ((labels.map Op.emitLabel).foldl (step rt) s).error = s.error ∧
    ((labels.map Op.emitLabel).foldl (step rt) s).jumpLocations = s.jumpLocations ∧
    ∀ name,
      (name ∉ labels.map rt.lower →
        getEntry ((labels.map Op.emitLabel).foldl (step rt) s).labelLocations name =
          getEntry s.labelLocations name) ∧
      (name ∈ labels.map rt.lower → ∃ target,
        getEntry ((labels.map Op.emitLabel).foldl (step rt) s).labelLocations name = some target ∧
          target ≤ s.currentSize + labels.length) := by
  induction labels generalizing s with
  | nil => simp
  | cons label labels ih =>
    have emitted : step rt s (.emitLabel label) = { s with
        writer := s.writer ++ [Opcode.NOP.toByte]
        labelLocations := setEntry s.labelLocations (rt.lower label) (s.currentSize + 1) } := by
      change (exec (emitLabel rt label) s).2 = _
      rw [exec_emitLabel]
    rw [List.map_cons, List.map_cons, List.foldl_cons, emitted]
    obtain ⟨error, jumps, table⟩ := ih { s with
        writer := s.writer ++ [Opcode.NOP.toByte]
        labelLocations := setEntry s.labelLocations (rt.lower label) (s.currentSize + 1) }
    refine ⟨error, jumps, fun name => ?_⟩
    obtain ⟨others, these⟩ := table name
    have size : ({ s with
        writer := s.writer ++ [Opcode.NOP.toByte]
        labelLocations := setEntry s.labelLocations (rt.lower label) (s.currentSize + 1) } :
          ScriptBuilder).currentSize = s.currentSize + 1 := by simp [currentSize]
    constructor
    · intro outside
      obtain ⟨other, outside⟩ := not_or.mp (List.mem_cons.not.mp outside)
      rw [others outside, getEntry_setEntry, if_neg other]
    · intro listed
      by_cases again : name ∈ labels.map rt.lower
      · obtain ⟨target, found, bound⟩ := these again
        rw [size] at bound
        exact ⟨target, found, by rw [List.length_cons]; omega⟩
      · -- The first label is not emitted again.
        have same : name = rt.lower label := (List.mem_cons.mp listed).resolve_right again
        refine ⟨s.currentSize + 1, ?_, by rw [List.length_cons]; omega⟩
        rw [others again, getEntry_setEntry, if_pos same]

/-- A builder that has neither recorded an error nor run out of offsets can still be finished. -/
theorem rescued {rt : Runtime} {ops : List Op} (clean : (build rt ops).error = none)
    (free : ¬ Doomed rt (build rt ops)) : ¬ Hopeless rt (build rt ops) := by
  have folds : missing rt (build rt ops) ∈ Set.range (List.map rt.lower) := by
    rw [Set.range_list_map]
    intro name member
    obtain ⟨⟨jump, -, same⟩, -⟩ := mem_missing.mp member
    exact ⟨jump.2, same⟩
  obtain ⟨labels, folded⟩ := folds
  obtain ⟨error, jumps, table⟩ := labels_run rt (build rt ops) labels
  obtain ⟨near, fits⟩ := not_or.mp free
  intro hopeless
  -- What rescues the builder is to emit the missing labels at once.
  have stuck := hopeless (labels.map Op.emitLabel)
  rw [← build_append] at stuck error jumps table
  refine (finishes_iff rt _).mp stuck ⟨error.trans clean, fun jump recorded => ?_⟩
  rw [jumps] at recorded
  obtain ⟨others, these⟩ := table (rt.lower jump.2)
  rw [folded] at others these
  cases found : getEntry (build rt ops).labelLocations (rt.lower jump.2) with
  | some target =>
    have outside : rt.lower jump.2 ∉ missing rt (build rt ops) := by
      intro member
      rw [(mem_missing.mp member).2] at found
      contradiction
    refine ⟨target, (others outside).trans found, ?_⟩
    by_contra far
    exact near ⟨jump, recorded, target, found, Nat.not_lt.mp far⟩
  | none =>
    have member : rt.lower jump.2 ∈ missing rt (build rt ops) :=
      mem_missing.mpr ⟨⟨jump, recorded, rfl⟩, found⟩
    obtain ⟨target, defined, bound⟩ := these member
    refine ⟨target, defined, ?_⟩
    have count : labels.length = (missing rt (build rt ops)).length := by rw [← folded, List.length_map]
    have room : ¬ 2 ^ 16 ≤ (build rt ops).currentSize + (missing rt (build rt ops)).length :=
      fun full => fits ⟨List.ne_nil_of_mem member, full⟩
    omega

theorem hopeless_iff (rt : Runtime) (ops : List Op) :
    Hopeless rt (build rt ops) ↔ (build rt ops).error ≠ none ∨ Doomed rt (build rt ops) := by
  constructor
  · intro hopeless
    by_contra neither
    obtain ⟨clean, free⟩ := not_or.mp neither
    exact rescued (not_not.mp clean) free hopeless
  · rintro (recorded | doomed)
    · exact hopeless_of_error recorded
    · exact hopeless_of_doomed doomed

/-! ## Atomic calls -/

/-- The complete encoding of a call, if none of its operands is refused. -/
def Op.encoding (op : Op) : Option Bytes :=
  op.layout.bind fun layout => if layout.Fits then some layout.bytes else none

/-- The call appends its complete encoding, or leaves the buffer alone, or no script can be had from
    the builder any more. -/
def Atomic (rt : Runtime) (s : ScriptBuilder) (op : Op) : Prop :=
  (∃ out, op.encoding = some out ∧ (step rt s op).writer = s.writer ++ out) ∨
    (step rt s op).writer = s.writer ∨ Hopeless rt (step rt s op)

/-- The call begins to write, and one of its operands is refused: a register outside of a byte, or a
    number of 64 bits and more. -/
def Op.Torn (op : Op) (layout : Layout) : Prop := op.layout = some layout ∧ ¬ layout.Fits

/-- What makes a call atomic: no operand is refused after the first byte, or an error is recorded
    already, or what is left behind puts a missing label out of reach. -/
def Safe (rt : Runtime) (s : ScriptBuilder) (op : Op) : Prop :=
  ∀ layout, op.Torn layout →
    s.error ≠ none ∨ Doomed rt { s with writer := s.writer ++ layout.leftover }

/-- The layout starts with an opcode or a marker. -/
def Layout.Marked (layout : Layout) : Prop :=
  ∃ first rest after, layout = .raw (first :: rest) :: after

theorem loadLayout_marked {reg : Int} {data : Bytes} {vmType : VMType} {layout : Layout}
    (some : loadLayout reg data vmType = some layout) : Layout.Marked layout := by
  unfold loadLayout at some
  split at some
  next => contradiction
  next =>
    obtain ⟨count, -, rfl⟩ := Option.map_eq_some_iff.mp some
    exact ⟨_, _, _, rfl⟩

theorem loadStringLayout_marked {reg : Int} {value : Str} {layout : Layout}
    (some : loadStringLayout reg value = some layout) : Layout.Marked layout := by
  obtain ⟨raw, -, load⟩ := Option.bind_eq_some_iff.mp some
  exact loadLayout_marked load

theorem loadTimeLayout_marked {reg unixSeconds : Int} {layout : Layout}
    (some : loadTimeLayout reg unixSeconds = some layout) : Layout.Marked layout := by
  unfold loadTimeLayout at some
  split at some
  next => contradiction
  next => exact loadLayout_marked some

theorem callLayout_marked {registerCount : Int} {layout : Layout}
    (some : callLayout registerCount = some layout) : Layout.Marked layout := by
  unfold callLayout at some
  split at some
  next => contradiction
  next => cases some; exact ⟨_, _, _, rfl⟩

theorem jumpLayout_marked {opcode : Opcode} {reg : Int} {layout : Layout}
    (some : jumpLayout opcode reg = some layout) : Layout.Marked layout := by
  unfold jumpLayout at some
  split at some
  next => cases some; exact ⟨_, _, _, rfl⟩
  next => cases some; exact ⟨_, _, _, rfl⟩
  next => cases some; exact ⟨_, _, _, rfl⟩
  next => contradiction

/-- The numbers without a marker fit. -/
theorem varUintLayout_marked {value : Int} {layout : Layout} (some : varUintLayout value = some layout)
    (refused : ¬ layout.Fits) : Layout.Marked layout := by
  unfold varUintLayout at some
  split_ifs at some with negative small
  · cases some
    rw [Layout.fits_operand] at refused
    unfold Unsigned at refused
    omega
  all_goals
    cases some
    exact ⟨_, _, _, rfl⟩

/-- A torn call has written at least its first byte. -/
theorem torn_leftover {op : Op} {layout : Layout} (torn : op.Torn layout) : layout.leftover ≠ [] := by
  obtain ⟨some, refused⟩ := torn
  -- every layout that can be cut begins with an opcode or a marker, which is written before any operand
  have marked : Layout.Marked layout := by
    cases op with
    | emitPush => cases some; exact ⟨_, _, _, rfl⟩
    | emitPop => cases some; exact ⟨_, _, _, rfl⟩
    | emitThrow => cases some; exact ⟨_, _, _, rfl⟩
    | emitMove => cases some; exact ⟨_, _, _, rfl⟩
    | emitCopy => cases some; exact ⟨_, _, _, rfl⟩
    | emitLabel => cases some; exact ⟨_, _, _, rfl⟩
    | emitLoad => exact loadLayout_marked some
    | emitLoadString => exact loadStringLayout_marked some
    | emitLoadBool => exact loadLayout_marked some
    | emitLoadNumber => exact loadLayout_marked some
    | emitLoadTime => exact loadTimeLayout_marked some
    | emitExtCall =>
      obtain ⟨load, found, rfl⟩ := Option.map_eq_some_iff.mp some
      obtain ⟨first, rest, after, rfl⟩ := loadStringLayout_marked found
      exact ⟨_, _, _, rfl⟩
    | emitVarBytes => exact varUintLayout_marked some refused
    | emitJump => exact jumpLayout_marked some
    | emitCall => exact callLayout_marked some
    | emitConditionalJump opcode =>
      cases opcode with
      | JMPIF => exact @jumpLayout_marked .JMPIF _ _ some
      | JMPNOT => exact @jumpLayout_marked .JMPNOT _ _ some
      | _ => contradiction
    | _ => contradiction
  obtain ⟨first, rest, after, rfl⟩ := marked
  exact Layout.leftover_ne_nil first rest after

theorem encoding_eq_some {op : Op} {out : Bytes} :
    op.encoding = some out ↔ ∃ layout, op.layout = some layout ∧ layout.Fits ∧ layout.bytes = out := by
  unfold Op.encoding
  cases op.layout with
  | none => simp
  | some layout => simp

theorem step_encoding (rt : Runtime) (s : ScriptBuilder) {op : Op} (single : op.Single) {out : Bytes}
    (encoding : op.encoding = some out) : (step rt s op).writer = s.writer ++ out := by
  obtain ⟨layout, found, fits, rfl⟩ := encoding_eq_some.mp encoding
  have written := step_written rt s single
  rw [found] at written
  cases written with
  | laid laid => exact (laid.1 fits).1

theorem step_torn (rt : Runtime) (s : ScriptBuilder) {op : Op} (single : op.Single) {layout : Layout}
    (torn : op.Torn layout) : step rt s op = { s with writer := s.writer ++ layout.leftover } := by
  have written := step_written rt s single
  rw [torn.1] at written
  cases written with
  | laid laid => exact laid.2 torn.2

/-- A call is complete, or refused before it writes anything, or torn. -/
theorem call_cases (rt : Runtime) (s : ScriptBuilder) {op : Op} (single : op.Single) :
    (∃ out, op.encoding = some out) ∨
    (op.encoding = none ∧ (∀ layout, ¬ op.Torn layout) ∧
      (step rt s op = s ∨ (step rt s op).error ≠ none)) ∨
    op.encoding = none ∧ ∃ layout, op.Torn layout := by
  have written := step_written rt s single
  unfold Op.encoding Op.Torn
  cases found : op.layout with
  | none =>
    rw [found] at written
    cases written with
    | refused refused => exact .inr (.inl ⟨rfl, by simp, refused⟩)
  | some layout =>
    by_cases fits : layout.Fits
    · exact .inl ⟨layout.bytes, by simp [fits]⟩
    · exact .inr (.inr ⟨by simp [fits], layout, rfl, fits⟩)

theorem atomic_iff (rt : Runtime) (ops : List Op) {op : Op} (single : op.Single) :
    Atomic rt (build rt ops) op ↔ Safe rt (build rt ops) op := by
  rcases call_cases rt (build rt ops) single with ⟨out, encoding⟩ | ⟨-, whole, refused⟩ | ⟨missing, layout, torn⟩
  · refine iff_of_true (.inl ⟨out, encoding, step_encoding rt _ single encoding⟩) fun layout torn => ?_
    obtain ⟨layout', found, fits, -⟩ := encoding_eq_some.mp encoding
    rw [torn.1] at found
    cases found
    exact absurd fits torn.2
  · refine iff_of_true ?_ fun layout torn => absurd torn (whole layout)
    rcases refused with same | recorded
    · exact .inr (.inl (by rw [same]))
    · exact .inr (.inr (hopeless_of_error recorded))
  · -- A torn call is atomic only where no continuation can be finished any more.
    have stepped := step_torn rt (build rt ops) single torn
    have hopeless : Hopeless rt (step rt (build rt ops) op) ↔ (build rt ops).error ≠ none ∨
        Doomed rt { build rt ops with writer := (build rt ops).writer ++ layout.leftover } := by
      have reached : step rt (build rt ops) op = build rt (ops ++ [op]) := (build_append rt ops [op]).symm
      have after := hopeless_iff rt (ops ++ [op])
      rw [← reached, stepped] at after
      rwa [stepped]
    constructor
    · rintro (⟨out, encoding, -⟩ | same | lost)
      · rw [missing] at encoding
        contradiction
      · rw [stepped] at same
        exact absurd (by simpa using same) (torn_leftover torn)
      · intro layout' torn'
        obtain rfl : layout = layout' := Option.some.inj (torn.1.symm.trans torn'.1)
        exact hopeless.mp lost
    · exact fun safe => .inr (.inr (hopeless.mpr (safe layout torn)))

/-! ## Whole scripts -/

/-- The complete encodings of the calls of a run, in order. -/
def encodings (ops : List Op) : Bytes := (ops.filterMap Op.encoding).flatten

/-- The script is the encodings and the closing `RET`, but for the operands of jumps and calls. -/
structure Whole (rt : Runtime) (ops : List Op) (script : Bytes) : Prop where
  length_eq : script.length = (encodings ops).length + 1
  frame : ∀ index, (∀ jump ∈ jumps rt ops, index < jump.1 ∨ jump.1 + 2 ≤ index) →
    script[index]? = (encodings ops ++ [Opcode.RET.toByte])[index]?

/-- Each call of the run is safe in the builder that it meets. -/
def AllSafe (rt : Runtime) (ops : List Op) : Prop :=
  ∀ before op after, ops = before ++ op :: after → Safe rt (build rt before) op

theorem encodings_append (ops : List Op) (op : Op) :
    encodings (ops ++ [op]) = encodings ops ++ op.encoding.getD [] := by
  unfold encodings
  rw [List.filterMap_append, List.flatten_append]
  cases encoding : op.encoding <;> simp [encoding]

theorem build_snoc (rt : Runtime) (ops : List Op) (op : Op) :
    build rt (ops ++ [op]) = step rt (build rt ops) op := build_append rt ops [op]

/-- A run of safe calls cannot be finished, or has written complete encodings only. -/
theorem safe_run (rt : Runtime) {ops : List Op} (single : ∀ op ∈ ops, op.Single) (safe : AllSafe rt ops) :
    Hopeless rt (build rt ops) ∨ (build rt ops).writer = encodings ops := by
  induction ops using List.reverseRecOn with
  | nil => exact .inr rfl
  | append_singleton ops op ih =>
    obtain ⟨earlier, last⟩ := List.forall_mem_append.mp single
    have single := List.forall_mem_singleton.mp last
    have before := ih earlier fun front op' after split =>
      safe front op' (after ++ [op]) (by rw [split, List.append_assoc]; rfl)
    have atomic := (atomic_iff rt ops single).mpr (safe ops op [] rfl)
    rw [build_snoc, encodings_append]
    -- A builder that cannot be finished stays so, whatever the last call does.
    rcases before with hopeless | written
    · exact .inl (hopeless.after op)
    cases encoding : op.encoding with
    | some out => exact .inr (by rw [step_encoding rt _ single encoding, written]; rfl)
    | none =>
      rcases atomic with ⟨out, complete, -⟩ | same | hopeless
      · rw [encoding] at complete
        contradiction
      · exact .inr (by rw [same, written, Option.getD_none, List.append_nil])
      · exact .inl hopeless

/-- Without a recorded error a run has written all its encodings, and more after a torn call. -/
theorem clean_run (rt : Runtime) {ops : List Op} (single : ∀ op ∈ ops, op.Single)
    (clean : (build rt ops).error = none) : (encodings ops).length ≤ (build rt ops).writer.length ∧
      ((encodings ops).length = (build rt ops).writer.length →
        ∀ op ∈ ops, ∀ layout, ¬ op.Torn layout) := by
  induction ops using List.reverseRecOn with
  | nil => exact ⟨le_refl _, by simp⟩
  | append_singleton ops op ih =>
    obtain ⟨earlier, last⟩ := List.forall_mem_append.mp single
    have single := List.forall_mem_singleton.mp last
    rw [build_snoc] at clean ⊢
    rw [encodings_append]
    -- Errors are kept, so there was none before the last call.
    have clean_before : (build rt ops).error = none := by
      by_contra recorded
      exact (step_moves rt _ op : Retains _ _).kept recorded clean
    obtain ⟨shorter, whole⟩ := ih earlier clean_before
    simp only [List.forall_mem_append, List.forall_mem_singleton]
    rcases call_cases rt (build rt ops) single with ⟨out, encoding⟩ | ⟨missing, intact, refused⟩ |
      ⟨missing, layout, torn⟩
    · obtain ⟨layout, found, fits, -⟩ := encoding_eq_some.mp encoding
      rw [step_encoding rt _ single encoding, encoding, Option.getD_some]
      simp only [List.length_append]
      refine ⟨by omega, fun same => ⟨whole (by omega), fun layout' torn => ?_⟩⟩
      rw [torn.1] at found
      cases found
      exact torn.2 fits
    · have same := refused.resolve_right (not_not.mpr clean)
      rw [same, missing, Option.getD_none, List.append_nil]
      exact ⟨shorter, fun same => ⟨whole same, intact⟩⟩
    · have grown := List.length_pos_of_ne_nil (torn_leftover torn)
      rw [step_torn rt _ single torn, missing, Option.getD_none, List.append_nil]
      dsimp only
      rw [List.length_append]
      exact ⟨by omega, fun same => by omega⟩

theorem whole_iff {rt : Runtime} {ops : List Op} (single : ∀ op ∈ ops, op.Single) {script : Bytes}
    (finished : endScriptWithError rt (build rt ops) = (script, none)) :
    Whole rt ops script ↔ AllSafe rt ops := by
  have resolved := endScriptWithError_resolved finished
  have alive : ¬ Hopeless rt (build rt ops) := by
    intro hopeless
    obtain ⟨e, failed⟩ := hopeless []
    rw [List.foldl_nil, finished] at failed
    cases failed
  constructor
  · intro whole before op after split
    have clean : (build rt ops).error = none := by
      by_contra recorded
      exact alive (hopeless_of_error recorded)
    -- A torn call would make the script longer than its encodings.
    have length := whole.length_eq
    rw [resolved.length_eq] at length
    obtain ⟨-, intact⟩ := clean_run rt single clean
    exact fun layout torn => absurd torn (intact (by omega) op (by simp [split]) layout)
  · intro safe
    have written := (safe_run rt single safe).resolve_left alive
    exact ⟨by rw [resolved.length_eq, written], fun index outside => by
      rw [resolved.frame index outside, written]⟩

/-- A call either is complete, or leaves the buffer alone, or leaves a builder without a script exactly
    if it is safe; and a finished run is made of complete instructions exactly if all its calls were. -/
theorem callsAtomic_iff (rt : Runtime) (ops : List Op) :
    (∀ op : Op, op.Single → (Atomic rt (build rt ops) op ↔ Safe rt (build rt ops) op)) ∧
    ((∀ op ∈ ops, op.Single) → ∀ script, endScriptWithError rt (build rt ops) = (script, none) →
      (Whole rt ops script ↔ AllSafe rt ops)) :=
  ⟨fun _ single => atomic_iff rt ops single, fun single _ finished => whole_iff single finished⟩

theorem callsAtomic_iff_push :
    Safe asciiRuntime (build asciiRuntime []) (.emitPush 3) ∧ AllSafe asciiRuntime [.emitPush 3] := by
  have written : encodings [.emitPush 3] = [3, 3] := by decide +kernel
  have finished : endScriptWithError asciiRuntime (build asciiRuntime [.emitPush 3]) = ([3, 3, 11], none) := by
    decide +kernel
  have whole : Whole asciiRuntime [.emitPush 3] [3, 3, 11] :=
    ⟨by rw [written]; rfl, fun index _ => by rw [written]; rfl⟩
  constructor
  · exact ((callsAtomic_iff asciiRuntime []).1 (.emitPush 3) trivial).mp
      (.inl ⟨[3, 3], by decide +kernel, by decide +kernel⟩)
  · exact ((callsAtomic_iff asciiRuntime [.emitPush 3]).2 (List.forall_mem_singleton.mpr trivial) _
      finished).mp whole

/-- A refused register leaves the opcode of its call in the buffer, no error is recorded, and the
    finished script ends in the middle of an instruction. -/
theorem refusedPush_torn :
    ¬ Atomic asciiRuntime (build asciiRuntime []) (.emitPush 256) ∧
      endScriptWithError asciiRuntime (build asciiRuntime [.emitPush 256]) = ([3, 11], none) ∧
      ¬ Whole asciiRuntime [.emitPush 256] [3, 11] := by
  have finished : endScriptWithError asciiRuntime (build asciiRuntime [.emitPush 256]) = ([3, 11], none) := by
    decide +kernel
  refine ⟨?_, finished, fun whole => absurd whole.length_eq (by decide +kernel)⟩
  rintro (⟨out, encoding, -⟩ | same | hopeless)
  · have none : (Op.emitPush 256).encoding = none := by decide +kernel
    rw [none] at encoding
    contradiction
  · revert same
    decide +kernel
  · obtain ⟨e, failed⟩ := hopeless []
    rw [List.foldl_nil] at failed
    have both := finished.symm.trans failed
    simp at both

end ScriptBuilder

end PhantasmaPy.VM
