import PhantasmaPy.VM.ScriptBuilder

/-! # Laws of builder operations

The builder's dictionaries, how its state moves under the monad operations, and which operations leave
the tables of jumps and labels alone.
-/

namespace PhantasmaPy.VM

open Wire

namespace ScriptBuilder

/-! ## Dictionaries -/

section Entries

variable {κ ν : Type} [DecidableEq κ]

theorem getEntry_setEntry (entries : List (κ × ν)) (key key' : κ) (value : ν) :
    getEntry (setEntry entries key value) key' =
      if key' = key then some value else getEntry entries key' := by
  unfold setEntry
  split
  next found =>
    -- A stored key keeps its place, so the search by key stops at the same entry as before.
    have keys : (fun entry : κ × ν =>
        decide ((if entry.1 = key then (key, value) else entry).1 = key')) =
        fun entry => decide (entry.1 = key') := by
      funext entry
      split
      next same => rw [same]
      next => rfl
    unfold getEntry
    rw [List.find?_map]
    unfold Function.comp
    rw [keys]
    cases first : entries.find? fun entry => decide (entry.1 = key') with
    | none =>
      rw [List.find?_eq_none] at first
      obtain ⟨entry, member, same⟩ := List.any_eq_true.mp found
      rw [if_neg]
      · rfl
      · rintro rfl
        exact first entry member same
    | some entry =>
      have same := List.find?_some first
      rw [decide_eq_true_eq] at same
      subst same
      by_cases equal : entry.1 = key <;> simp [equal]
  next fresh =>
    unfold getEntry
    rw [List.find?_append]
    by_cases equal : key' = key
    · subst equal
      have none_before : entries.find? (fun entry => decide (entry.1 = key')) = none := by
        rw [List.find?_eq_none]
        intro entry member same
        exact fresh (List.any_eq_true.mpr ⟨entry, member, same⟩)
      rw [none_before]
      simp
    · rw [if_neg equal]
      have other : decide (key = key') = false := decide_eq_false (Ne.symm equal)
      simp [other]

theorem setEntry_fresh {entries : List (κ × ν)} {key : κ} {value : ν}
    (fresh : ∀ entry ∈ entries, entry.1 ≠ key) : setEntry entries key value = entries ++ [(key, value)] := by
  unfold setEntry
  rw [if_neg]
  rw [List.any_eq_true]
  rintro ⟨entry, member, same⟩
  exact fresh entry member (of_decide_eq_true same)

theorem getEntry_mem {entries : List (κ × ν)} {key : κ} {value : ν}
    (found : getEntry entries key = some value) : (key, value) ∈ entries := by
  unfold getEntry at found
  obtain ⟨entry, first, rfl⟩ := Option.map_eq_some_iff.mp found
  have same := List.find?_some first
  rw [decide_eq_true_eq] at same
  subst same
  exact List.mem_of_find?_eq_some first

end Entries

/-! ## Running an operation -/

variable {α β : Type}

/-- The result of an operation and the builder after it. -/
def exec (p : Build α) (s : ScriptBuilder) : Except PyError α × ScriptBuilder := p.run s

@[simp] theorem exec_pure (a : α) (s : ScriptBuilder) : exec (pure a) s = (.ok a, s) := rfl

@[simp] theorem exec_mk_pure (result : Except PyError α) (s : ScriptBuilder) :
    exec (ExceptT.mk (pure result)) s = (result, s) := rfl

@[simp] theorem exec_modify (f : ScriptBuilder → ScriptBuilder) (s : ScriptBuilder) :
    exec (modify f) s = (.ok (), f s) := rfl

@[simp] theorem exec_get (s : ScriptBuilder) : exec get s = (.ok s, s) := rfl

@[simp] theorem exec_fail (message : Str) (s : ScriptBuilder) :
    exec (fail message) s =
      (.ok (), { s with error := s.error.or (some (.builderError message)) }) := rfl

theorem exec_bind (p : Build α) (f : α → Build β) (s : ScriptBuilder) :
    exec (p >>= f) s =
      match exec p s with
      | (.ok a, s') => exec (f a) s'
      | (.error e, s') => (.error e, s') := by
  change ExceptT.run p s >>= (fun result : Except PyError α × ScriptBuilder =>
    ExceptT.bindCont f result.1 result.2) = _
  unfold exec
  rcases ExceptT.run p s with ⟨result, s'⟩
  cases result <;> rfl

theorem exec_tryCatch (p : Build α) (handler : PyError → Build α) (s : ScriptBuilder) :
    exec (tryCatch p handler) s =
      match exec p s with
      | (.ok a, s') => (.ok a, s')
      | (.error e, s') => exec (handler e) s' := by
  change ExceptT.run (ExceptT.tryCatch p handler) s = _
  unfold exec ExceptT.tryCatch
  rcases run : ExceptT.run p s with ⟨result, s'⟩
  change StateT.run (ExceptT.run p >>= _) s = _
  rw [StateT.run_bind]
  change (ExceptT.run p s >>= fun result : Except PyError α × ScriptBuilder => _) = _
  rw [run]
  cases result <;> rfl

/-- What a writer appends to the buffer, also when it fails. -/
def appended : Writer Unit → Bytes
  | .wrote _ out => out
  | .failed _ out => out

theorem exec_append (w : Writer Unit) (s : ScriptBuilder) :
    (exec (append w) s).2 = { s with writer := s.writer ++ appended w } := by
  cases w <;> rfl

theorem exec_append_emits {w : Writer Unit} {out : Bytes} (emits : w.Emits () out) (s : ScriptBuilder) :
    exec (append w) s = (.ok (), { s with writer := s.writer ++ out }) := by
  unfold Put.Emits at emits
  subst emits
  rfl

theorem exec_emit (opcode : Opcode) (s : ScriptBuilder) :
    exec (emit opcode) s = (.ok (), { s with writer := s.writer ++ [opcode.toByte] }) := by
  have bound := opcode.toByte.toNat_lt
  have emits : (writeU8 opcode.toByte.toNat).Emits () [opcode.toByte] :=
    emits_write1.mpr ⟨⟨by positivity, by exact_mod_cast bound⟩,
      by rw [Int.toNat_natCast, UInt8.ofNat_toNat]⟩
  exact exec_append_emits emits s

theorem exec_byte {value : Int} (range : Unsigned 8 value) (s : ScriptBuilder) :
    exec (byte value) s = (.ok (), { s with writer := s.writer ++ [UInt8.ofNat value.toNat] }) :=
  exec_append_emits (emits_write1.mpr ⟨range, rfl⟩) s

theorem exec_byte_refused {value : Int} (outside : ¬ Unsigned 8 value) (s : ScriptBuilder) :
    ∃ e, exec (byte value) s = (.error e, s) := by
  obtain ⟨e, refused⟩ := write1_refused outside
  refine ⟨e, ?_⟩
  unfold byte writeU8
  rw [refused]
  change (_, { s with writer := s.writer ++ [] }) = _
  rw [List.append_nil]

/-! ## Relations that operations keep -/

/-- A relation of the builder before to the builder after that an append and a recorded error keep. -/
class Appending (R : ScriptBuilder → ScriptBuilder → Prop) : Prop where
  refl : ∀ s, R s s
  trans : ∀ {s t u}, R s t → R t u → R s u
  append : ∀ s out, R s { s with writer := s.writer ++ out }
  fail : ∀ s message, R s { s with error := s.error.or (some (.builderError message)) }

/-- The builder before an operation is related to the builder after it, whatever its result. -/
def Moves (R : ScriptBuilder → ScriptBuilder → Prop) (p : Build α) : Prop := ∀ s, R s (exec p s).2

section Moves

variable {R : ScriptBuilder → ScriptBuilder → Prop} [Appending R]

theorem moves_mk_pure (result : Except PyError α) : Moves R (ExceptT.mk (pure result) : Build α) :=
  Appending.refl

theorem moves_pure (a : α) : Moves R (pure a : Build α) := Appending.refl

theorem moves_append (w : Writer Unit) : Moves R (append w) := by
  intro s
  rw [exec_append]
  exact Appending.append s _

theorem moves_fail (message : Str) : Moves R (fail message) := by
  intro s
  rw [exec_fail]
  exact Appending.fail s message

theorem Moves.bind {p : Build α} {f : α → Build β} (first : Moves R p) (second : ∀ a, Moves R (f a)) :
    Moves R (p >>= f) := by
  intro s
  have before := first s
  rw [exec_bind]
  rcases run : exec p s with ⟨result, s'⟩
  rw [run] at before
  cases result with
  | error e => exact before
  | ok a => exact Appending.trans before (second a s')

theorem moves_failWith (value : Int) (message : String → String) : Moves R (failWith value message) :=
  (moves_mk_pure _).bind fun _ => moves_fail _

theorem Moves.tryCatch {p : Build α} {handler : PyError → Build α} (first : Moves R p)
    (second : ∀ e, Moves R (handler e)) : Moves R (tryCatch p handler) := by
  intro s
  have before := first s
  rw [exec_tryCatch]
  rcases run : exec p s with ⟨result, s'⟩
  rw [run] at before
  cases result with
  | ok a => exact before
  | error e => exact Appending.trans before (second e s')

omit [Appending R] in
theorem Moves.ite {condition : Prop} [Decidable condition] {p q : Build α} (left : Moves R p)
    (right : Moves R q) : Moves R (if condition then p else q) := by
  split
  · exact left
  · exact right

theorem emitByte_moves (opcode : Opcode) (reg : Int) : Moves R (do emit opcode; byte reg : Build Unit) :=
  (moves_append _).bind fun _ => moves_append _

theorem emitLoad_moves (reg : Int) (data : Bytes) (vmType : VMType) : Moves R (emitLoad reg data vmType) :=
  Moves.ite (moves_fail _) <| (moves_append _).bind fun _ => (moves_append _).bind fun _ =>
    (moves_append _).bind fun _ => (moves_append _).bind fun _ => moves_append _

theorem emitLoadString_moves (reg : Int) (value : Str) : Moves R (emitLoadString reg value) :=
  (moves_mk_pure _).bind fun _ => emitLoad_moves _ _ _

theorem emitLoadTime_moves (reg unixSeconds : Int) : Moves R (emitLoadTime reg unixSeconds) :=
  Moves.ite (moves_failWith _ _) (emitLoad_moves _ _ _)

mutual

theorem loadIntoRegister_moves (reg : Int) : ∀ arg, Moves R (loadIntoRegister reg arg)
  | .nil => moves_fail _
  | .address _ => (moves_mk_pure _).bind fun _ => emitLoad_moves _ _ _
  | .str _ => emitLoadString_moves _ _
  | .bool _ => emitLoad_moves _ _ _
  | .bytes _ => emitLoad_moves _ _ _
  | .int _ => emitLoad_moves _ _ _
  | .datetime _ => emitLoadTime_moves _ _
  | .list items => Moves.ite (moves_failWith _ _) <| (moves_append _).bind fun _ =>
      (moves_append _).bind fun _ => (moves_append _).bind fun _ => (moves_append _).bind fun _ =>
        loadItems_moves reg 0 items
  | .other _ => moves_fail _

theorem loadItems_moves (reg : Int) (index : Nat) : ∀ items, Moves R (loadItems reg index items)
  | [] => moves_pure _
  | item :: items => (loadIntoRegister_moves (reg + 1) item).bind fun _ =>
      (emitLoad_moves _ _ _).bind fun _ => (moves_append _).bind fun _ => (moves_append _).bind fun _ =>
        (moves_append _).bind fun _ => (moves_append _).bind fun _ =>
          loadItems_moves reg (index + 1) items

end

theorem insertArgs_moves (args : List Arg) : Moves R (insertArgs args) := by
  induction args with
  | nil => exact moves_pure _
  | cons arg args ih =>
    exact (loadIntoRegister_moves 0 arg).bind fun _ => (emitByte_moves _ _).bind fun _ => ih

theorem callInterop_moves (method : Str) (args : List Arg) : Moves R (callInterop method args) :=
  (insertArgs_moves _).bind fun _ => (emitLoadString_moves _ _).bind fun _ => emitByte_moves _ _

theorem callContract_moves (contractName method : Str) (args : List Arg) :
    Moves R (callContract contractName method args) :=
  (insertArgs_moves _).bind fun _ => (emitLoadString_moves _ _).bind fun _ =>
    (emitByte_moves _ _).bind fun _ => (emitLoadString_moves _ _).bind fun _ =>
      (moves_append _).bind fun _ => (moves_append _).bind fun _ => (moves_append _).bind fun _ =>
        emitByte_moves _ _

theorem helper_moves (helper : Helper) : Moves R helper.run := by
  cases helper with
  | allowGas => exact callContract_moves _ _ _
  | spendGas => exact callContract_moves _ _ _
  | transferTokens => exact callInterop_moves _ _
  | mintTokens => exact callInterop_moves _ _
  | transferBalance => exact callInterop_moves _ _
  | transferNft => exact callInterop_moves _ _
  | crossTransferToken => exact callInterop_moves _ _
  | crossTransferNft => exact callInterop_moves _ _
  | stake => exact callContract_moves _ _ _
  | unstake => exact callContract_moves _ _ _
  | callNft => exact (moves_mk_pure _).bind fun _ => callContract_moves _ _ _

theorem attempt_moves (rt : Runtime) {p : Build Unit} (moves : Moves R p) : Moves R (attempt rt p) :=
  moves.tryCatch fun _ => moves_fail _

/-- A helper behind one, two or three parsed addresses. -/
theorem parse_moves (rt : Runtime) (text : Str) {f : Address → Build Unit}
    (moves : ∀ address, Moves R (f address)) : Moves R (parse rt text >>= f) :=
  (moves_mk_pure _).bind moves

theorem textHelper_moves (rt : Runtime) (helper : TextHelper) : Moves R (helper.run rt) := by
  cases helper <;> refine attempt_moves rt ?_ <;>
    repeat first | exact helper_moves _ | refine parse_moves rt _ fun _ => ?_

end Moves

/-! ## Quiet operations -/

/-- The operation appends to the buffer and may record an error, and does nothing else. -/
def Quiet (p : Build α) : Prop :=
  ∀ s : ScriptBuilder, ∃ out error,
    (exec p s).2 = { s with writer := s.writer ++ out, error := s.error.or error }

instance appending_quiet : Appending fun s s' : ScriptBuilder => ∃ out error,
    s' = { s with writer := s.writer ++ out, error := s.error.or error } where
  refl s := ⟨[], none, by simp⟩
  trans := by
    rintro s _ _ ⟨out, error, rfl⟩ ⟨out', error', rfl⟩
    exact ⟨out ++ out', error.or error', by rw [List.append_assoc, Option.or_assoc]⟩
  append s out := ⟨out, none, by rw [Option.or_none]⟩
  fail s message := ⟨[], some (.builderError message), by rw [List.append_nil]⟩

theorem quiet_fail (message : Str) : Quiet (fail message) := @moves_fail _ appending_quiet message

theorem quiet_failWith (value : Int) (message : String → String) : Quiet (failWith value message) :=
  @moves_failWith _ appending_quiet value message

end ScriptBuilder

end PhantasmaPy.VM
