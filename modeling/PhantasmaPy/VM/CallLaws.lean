import PhantasmaPy.VM.Machine
import Mathlib.Data.List.Forall2

/-! # What calls mean

`denote` gives the value that an argument stands for.  The code for an argument leaves that value in
its register and the registers below and the stack as they were, by induction over the nesting of
lists; the code for a call pushes the values of its arguments.
-/

namespace PhantasmaPy.VM

open Wire

namespace ScriptBuilder

/-! ## Values of arguments -/

mutual

/-- The value of an argument; the builder refuses the arguments without one. -/
def denote : Arg → Option Value
  | .nil => none
  | .address value => some (.data .BYTES (34 :: value.data))
  | .str value => value.encodeUtf8.map (.data .STRING)
  | .bool value => some (.data .BOOL [if value then 1 else 0])
  | .bytes value => some (.data .BYTES value)
  | .int value => some (.number value)
  | .datetime unixSeconds =>
    if Unsigned 32 unixSeconds then some (.data .TIMESTAMP (natToLE 4 unixSeconds.toNat)) else none
  | .list items => (denoteItems 0 items).map .map
  | .other _ => none

/-- The entries for the items of a list from an index on. -/
def denoteItems (index : Nat) : List Arg → Option (List (Int × Value))
  | [] => some []
  | item :: items =>
    match denote item, denoteItems (index + 1) items with
    | some value, some entries => some ((index, value) :: entries)
    | _, _ => none

end

/-- The values of arguments in order. -/
abbrev Denotes : List Arg → List Value → Prop :=
  List.Forall₂ fun arg value => denote arg = some value

/-! ## Code that an operation produces -/

/-- The operation succeeds on every builder and appends the bytes. -/
def Appends (p : Build Unit) (out : Bytes) : Prop :=
  ∀ s, exec p s = (.ok (), { s with writer := s.writer ++ out })

theorem Appends.seq {p q : Build Unit} {xs ys : Bytes} (first : Appends p xs) (second : Appends q ys) :
    Appends (do p; q) (xs ++ ys) := by
  intro s
  rw [exec_bind, first s]
  dsimp only
  rw [second, List.append_assoc]

theorem appends_emit (opcode : Opcode) : Appends (emit opcode) [opcode.toByte] := exec_emit opcode

theorem appends_byte (reg : Register) : Appends (byte reg.val) [operandOf reg] := by
  have bound := reg.isLt
  exact fun s => exec_byte ⟨by omega, by omega⟩ s

/-- If the operation leaves no error, it appended whole instructions with registers in range, and the
    instructions satisfy `spec`. -/
def Produces (p : Build Unit) (spec : List Instr → Prop) : Prop :=
  ∀ s s', exec p s = (.ok (), s') → s'.error = none →
    ∃ out instrs, s' = { s with writer := s.writer ++ out } ∧ Assembled out instrs ∧
      (∀ instr ∈ instrs, instr.InRange) ∧ spec instrs

section Produces

variable {p q : Build Unit} {P Q R : List Instr → Prop}

theorem Produces.mono (produces : Produces p P) (implies : ∀ instrs, P instrs → Q instrs) :
    Produces p Q := by
  intro s s' run noError
  obtain ⟨out, instrs, state, assembled, inRange, spec⟩ := produces s s' run noError
  exact ⟨out, instrs, state, assembled, inRange, implies instrs spec⟩

theorem Produces.seq (first : Produces p P) (second : Produces q Q)
    (combine : ∀ left right, P left → Q right → R (left ++ right)) : Produces (do p; q) R := by
  intro s s' run noError
  rw [exec_bind] at run
  rcases head : exec p s with ⟨result, mid⟩
  rw [head] at run
  cases result with
  | error e => simp at run
  | ok =>
    dsimp only at run
    obtain ⟨outRight, right, rfl, assembledRight, rangeRight, specRight⟩ := second mid s' run noError
    obtain ⟨outLeft, left, rfl, assembledLeft, rangeLeft, specLeft⟩ := first s mid head noError
    refine ⟨outLeft ++ outRight, left ++ right, ?_, assembledLeft.append assembledRight, ?_,
      combine left right specLeft specRight⟩
    · rw [List.append_assoc]
    · intro instr member
      rcases List.mem_append.mp member with inLeft | inRight
      · exact rangeLeft instr inLeft
      · exact rangeRight instr inRight

theorem produces_pure (spec : P []) : Produces (pure ()) P := by
  intro s s' run _
  cases run
  exact ⟨[], [], by rw [List.append_nil], .nil, fun _ member => absurd member List.not_mem_nil, spec⟩

/-- A failing operation leaves an error. -/
theorem produces_fail (message : Str) : Produces (fail message) P := by
  intro s s' run noError
  cases run
  cases kept : s.error <;> simp [kept] at noError

theorem produces_instr {out : Bytes} {instr : Instr} (appends : Appends p out)
    (parses : Instr.read.Parses out instr) (inRange : instr.InRange) :
    Produces p (· = [instr]) := by
  intro s s' run _
  rw [appends s] at run
  cases run
  refine ⟨out, [instr], rfl, .single parses, ?_, rfl⟩
  intro other member
  rwa [List.mem_singleton.mp member]

/-- A pure computation in front of an operation. -/
theorem produces_check {α : Type} {result : Except PyError α} {f : α → Build Unit}
    (produces : ∀ a, result = .ok a → Produces (f a) P) :
    Produces (ExceptT.mk (pure result) >>= f) P := by
  intro s s' run noError
  rw [exec_bind, exec_mk_pure] at run
  cases result with
  | error e => simp at run
  | ok a => exact produces a rfl s s' run noError

theorem produces_failWith (value : Int) (message : String → String) : Produces (failWith value message) P :=
  produces_check fun _ _ => produces_fail _

end Produces

/-! ## Single instructions -/

/-- Operands in range, one after the other. -/
theorem inRange_of_registers {instr : Instr} {registers : List Register}
    (operands : instr.operands = registers.map operandOf) : instr.InRange := by
  intro operand member
  rw [operands] at member
  obtain ⟨reg, -, rfl⟩ := List.mem_map.mp member
  exact operandOf_lt reg

theorem emitPush_produces (reg : Register) :
    Produces (emitPush reg.val) (· = [.push (operandOf reg)]) := by
  refine produces_instr ((appends_emit .PUSH).seq (appends_byte reg)) ?_
    (@inRange_of_registers _ [reg] rfl)
  exact (read1_parses 3).bind ((read1_parses _).map _)

theorem emitExtcall_produces (reg : Register) :
    Produces (do emit .EXTCALL; byte reg.val) (· = [.extcall (operandOf reg)]) := by
  refine produces_instr ((appends_emit .EXTCALL).seq (appends_byte reg)) ?_
    (@inRange_of_registers _ [reg] rfl)
  exact (read1_parses 7).bind ((read1_parses _).map _)

theorem emitSwitch_produces (reg : Register) :
    Produces (do emit .SWITCH; byte reg.val) (· = [.switch (operandOf reg)]) := by
  refine produces_instr ((appends_emit .SWITCH).seq (appends_byte reg)) ?_
    (@inRange_of_registers _ [reg] rfl)
  exact (read1_parses 46).bind ((read1_parses _).map _)

theorem emitCtx_produces (src dst : Register) :
    Produces (do emit .CTX; byte src.val; byte dst.val)
      (· = [.ctx (operandOf src) (operandOf dst)]) := by
  refine produces_instr ((appends_emit .CTX).seq ((appends_byte src).seq (appends_byte dst))) ?_
    (@inRange_of_registers _ [src, dst] rfl)
  exact (read1_parses 45).bind ((read1_parses _).bind ((read1_parses _).map _))

theorem emitPut_produces (value map key : Register) :
    Produces (do emit .PUT; byte value.val; byte map.val; byte key.val)
      (· = [.put (operandOf value) (operandOf map) (operandOf key)]) := by
  refine produces_instr ((appends_emit .PUT).seq ((appends_byte value).seq
    ((appends_byte map).seq (appends_byte key)))) ?_ (@inRange_of_registers _ [value, map, key] rfl)
  exact (read1_parses 47).bind ((read1_parses _).bind ((read1_parses _).bind ((read1_parses _).map _)))

theorem appends_vmType (vmType : VMType) : Appends (byte vmType.toByte.toNat) [vmType.toByte] := by
  cases vmType <;> exact fun s => exec_byte (by decide) s

/-- The type operand of a load or a cast. -/
theorem vmType_parses {β : Type} {f : VMType → Reader β} {out : Bytes} {result : β} (vmType : VMType)
    (parses : (f vmType).Parses out result) :
    (do f (← Get.check (VMType.ofByte (← readU8))) : Reader β).Parses ([vmType.toByte] ++ out)
      result := by
  refine (read1_parses vmType.toByte).bind ?_
  have checked : (Get.check (VMType.ofByte vmType.toByte) : Reader VMType).Parses [] vmType :=
    Get.Parses.check vmType.ofByte_toByte
  exact checked.bind parses

theorem emitCast_produces (src dst : Register) (vmType : VMType) :
    Produces (do emit .CAST; byte src.val; byte dst.val; byte vmType.toByte.toNat)
      (· = [.cast (operandOf src) (operandOf dst) vmType]) := by
  refine produces_instr ((appends_emit .CAST).seq ((appends_byte src).seq
    ((appends_byte dst).seq (appends_vmType vmType)))) ?_ (@inRange_of_registers _ [src, dst] rfl)
  refine (read1_parses 14).bind ((read1_parses _).bind ((read1_parses _).bind ?_))
  exact @vmType_parses _ _ [] _ vmType (Get.Parses.pure _)

theorem emitLoad_produces (reg : Register) (data : Bytes) (vmType : VMType) :
    Produces (emitLoad reg.val data vmType) (· = [.load (operandOf reg) vmType data]) := by
  unfold emitLoad
  split
  next => exact produces_fail _
  next small =>
    obtain ⟨size, emits, parses⟩ := varUint_roundTrips data.length ⟨by positivity, by omega⟩
    have appendsSize : Appends (append (writeVarUint data.length)) size := exec_append_emits emits
    have appendsData : Appends (append (write data)) data := exec_append_emits (emits_write.mpr rfl)
    refine produces_instr ((appends_emit .LOAD).seq ((appends_byte reg).seq
      ((appends_vmType vmType).seq (appendsSize.seq appendsData)))) ?_
      (@inRange_of_registers _ [reg] rfl)
    refine (read1_parses 13).bind ((read1_parses _).bind (vmType_parses vmType (parses.bind ?_)))
    exact (read_parses rfl).map _

theorem emitLoadString_produces (reg : Register) (value : Str) :
    Produces (emitLoadString reg.val value) fun instrs =>
      ∃ raw, value.encodeUtf8 = some raw ∧ instrs = [.load (operandOf reg) .STRING raw] := by
  refine produces_check fun raw encoded => (emitLoad_produces reg raw .STRING).mono ?_
  intro instrs same
  exact ⟨raw, encodeText_eq_ok.mp encoded, same⟩

/-! ## Code for arguments -/

/-- The register got the value; the registers below it and the stack are as they were. -/
structure Loaded (reg : Register) (value : Value) (m m' : Machine) : Prop where
  value : m'.regs reg = value
  below : ∀ other < reg, m'.regs other = m.regs other
  stack : m'.stack = m.stack

/-- On every machine the instructions load the value. -/
def LoadsInto (reg : Register) (value : Value) (instrs : List Instr) : Prop :=
  ∀ m, ∃ m', Instr.run instrs m = some m' ∧ Loaded reg value m m'

/-- The instructions add entries to a map in the register whose keys are smaller. -/
def ExtendsMap (reg : Register) (index : Nat) (added : List (Int × Value)) (instrs : List Instr) :
    Prop :=
  ∀ m entries, m.regs reg = .map entries → (∀ entry ∈ entries, entry.1 < (index : Int)) →
    ∃ m', Instr.run instrs m = some m' ∧ Loaded reg (.map (entries ++ added)) m m'

theorem Machine.setReg_loaded (m : Machine) (reg : Register) (value : Value) :
    Loaded reg value m (m.setReg reg value) where
  value := m.setReg_same reg value
  below _ below := m.setReg_ne value (Fin.ne_of_lt below)
  stack := rfl

theorem step_load (m : Machine) (reg : Register) (vmType : VMType) (payload : Bytes) :
    Instr.step m (.load (operandOf reg) vmType payload) =
      some (m.setReg reg (typedValue vmType payload)) := by
  simp [Instr.step]

theorem step_push (m : Machine) (reg : Register) :
    Instr.step m (.push (operandOf reg)) = some { m with stack := m.regs reg :: m.stack } := by
  simp [Instr.step]

theorem step_cast (m : Machine) (reg : Register) :
    Instr.step m (.cast (operandOf reg) (operandOf reg) .NONE) = some (m.setReg reg (.map [])) := by
  simp [Instr.step]

theorem step_put {m : Machine} {value map key : Register} {entries : List (Int × Value)} {number : Int}
    (isMap : m.regs map = .map entries) (isNumber : m.regs key = .number number) :
    Instr.step m (.put (operandOf value) (operandOf map) (operandOf key)) =
      some (m.setReg map (.map (setEntry entries number (m.regs value)))) := by
  simp [Instr.step, isMap, isNumber]

theorem loadsInto_load (reg : Register) (vmType : VMType) (payload : Bytes) :
    LoadsInto reg (typedValue vmType payload) [.load (operandOf reg) vmType payload] := by
  intro m
  refine ⟨_, ?_, Machine.setReg_loaded m reg _⟩
  unfold Instr.run
  rw [List.foldlM_cons, step_load]
  rfl

theorem emitLoad_loads (reg : Register) (data : Bytes) (vmType : VMType) :
    Produces (emitLoad reg.val data vmType) (LoadsInto reg (typedValue vmType data)) := by
  refine (emitLoad_produces reg data vmType).mono ?_
  rintro instrs rfl
  exact loadsInto_load reg vmType data

theorem typedValue_number (value : Int) :
    typedValue .NUMBER (bigIntToCsharpBytes value) = .number value := by
  unfold typedValue
  rw [if_pos rfl, intOfLE_bigIntToCsharpBytes]

theorem emitLoadNumber_loads (reg : Register) (value : Int) :
    Produces (emitLoadNumber reg.val value) (LoadsInto reg (.number value)) := by
  have loads := emitLoad_loads reg (bigIntToCsharpBytes value) .NUMBER
  rwa [typedValue_number] at loads

theorem emitLoadString_loads (reg : Register) (value : Str) :
    Produces (emitLoadString reg.val value) fun instrs =>
      ∃ raw, value.encodeUtf8 = some raw ∧ LoadsInto reg (.data .STRING raw) instrs := by
  refine (emitLoadString_produces reg value).mono ?_
  rintro instrs ⟨raw, encoded, rfl⟩
  exact ⟨raw, encoded, loadsInto_load reg .STRING raw⟩

/-- The var-bytes form of an address has a one-byte length. -/
theorem prefixedBytes_eq (value : Address) : value.prefixedBytes = .ok (34 :: value.data) := by
  unfold Address.prefixedBytes writeVarBytes
  rw [value.length_eq]
  rfl

/-- One round of the loop over the items: load the value, load its index, put. -/
theorem put_extends {reg value key : Register} (valueNext : value.val = reg.val + 1)
    (keyNext : key.val = reg.val + 2) {index : Nat} {item : Value} {loadItem loadKey : List Instr}
    (loadsItem : LoadsInto value item loadItem) (loadsKey : LoadsInto key (.number index) loadKey) :
    ExtendsMap reg index [((index : Int), item)]
      (loadItem ++ (loadKey ++ [.put (operandOf value) (operandOf reg) (operandOf key)])) := by
  intro m entries isMap smaller
  have regValue : reg < value := Fin.lt_def.mpr (by omega)
  have regKey : reg < key := Fin.lt_def.mpr (by omega)
  have valueKey : value < key := Fin.lt_def.mpr (by omega)
  obtain ⟨m₁, runItem, loadedItem⟩ := loadsItem m
  obtain ⟨m₂, runKey, loadedKey⟩ := loadsKey m₁
  have isMap₂ : m₂.regs reg = .map entries := by
    rw [loadedKey.below reg regKey, loadedItem.below reg regValue, isMap]
  have isItem₂ : m₂.regs value = item := by
    rw [loadedKey.below value valueKey, loadedItem.value]
  -- the index is larger than all before it, so that the entry is added last
  have fresh : setEntry entries (index : Int) item = entries ++ [((index : Int), item)] :=
    setEntry_fresh fun entry member => ne_of_lt (smaller entry member)
  refine ⟨m₂.setReg reg (.map (entries ++ [((index : Int), item)])), ?_, ?_⟩
  · rw [Instr.run_append, runItem, Option.bind_some, Instr.run_append, runKey, Option.bind_some]
    unfold Instr.run
    rw [List.foldlM_cons, step_put isMap₂ loadedKey.value, isItem₂, fresh]
    rfl
  · constructor
    case value => exact m₂.setReg_same reg _
    case stack => rw [Machine.setReg_stack, loadedKey.stack, loadedItem.stack]
    case below =>
      intro other below
      rw [m₂.setReg_ne _ (Fin.ne_of_lt below), loadedKey.below other (Fin.lt_trans below regKey),
        loadedItem.below other (Fin.lt_trans below regValue)]

theorem extendsMap_append {reg : Register} {index : Nat} {item : Value} {rest : List (Int × Value)}
    {left right : List Instr} (first : ExtendsMap reg index [((index : Int), item)] left)
    (second : ExtendsMap reg (index + 1) rest right) :
    ExtendsMap reg index (((index : Int), item) :: rest) (left ++ right) := by
  intro m entries isMap smaller
  obtain ⟨m₁, runLeft, loadedLeft⟩ := first m entries isMap smaller
  -- the keys are the indices in order, so that each is larger than those already there
  obtain ⟨m₂, runRight, loadedRight⟩ := second m₁ _ loadedLeft.value (by
    intro entry member
    rcases List.mem_append.mp member with earlier | latest
    · have before := smaller entry earlier
      push_cast
      omega
    · rw [List.mem_singleton.mp latest]
      push_cast
      omega)
  refine ⟨m₂, ?_, ?_⟩
  · rw [Instr.run_append, runLeft, Option.bind_some, runRight]
  · constructor
    case value => rw [loadedRight.value, List.append_assoc, List.singleton_append]
    case stack => rw [loadedRight.stack, loadedLeft.stack]
    case below =>
      intro other below
      rw [loadedRight.below other below, loadedLeft.below other below]

/-- The code for one item of a list, given the code for the value. -/
theorem putItem_extends {reg value key : Register} (valueNext : value.val = reg.val + 1)
    (keyNext : key.val = reg.val + 2) (index : Nat) {item : Arg}
    (loadItem : Produces (loadIntoRegister value.val item) fun instrs =>
      ∃ denoted, denote item = some denoted ∧ LoadsInto value denoted instrs) :
    Produces (do
        loadIntoRegister value.val item
        emitLoadNumber key.val index
        emit .PUT
        byte value.val
        byte reg.val
        byte key.val) fun instrs =>
      ∃ denoted, denote item = some denoted ∧
        ExtendsMap reg index [((index : Int), denoted)] instrs := by
  have keyAndPut : Produces (do
      emitLoadNumber key.val index
      emit .PUT
      byte value.val
      byte reg.val
      byte key.val) fun instrs => ∃ loadKey, LoadsInto key (.number index) loadKey ∧
        instrs = loadKey ++ [.put (operandOf value) (operandOf reg) (operandOf key)] := by
    refine (emitLoadNumber_loads key index).seq (emitPut_produces value reg key) ?_
    rintro left right loads rfl
    exact ⟨left, loads, rfl⟩
  refine loadItem.seq keyAndPut ?_
  rintro left right ⟨denoted, denotes, loads⟩ ⟨loadKey, loadsKey, rfl⟩
  exact ⟨denoted, denotes, put_extends valueNext keyNext loads loadsKey⟩

/-- An empty map, then the entries of a list. -/
theorem castAndItems_loads {reg : Register} {items : List Arg}
    (loadItems : Produces (loadItems reg.val 0 items) fun instrs =>
      ∃ added, denoteItems 0 items = some added ∧ ExtendsMap reg 0 added instrs) :
    Produces (do
        emit .CAST
        byte reg.val
        byte reg.val
        byte VMType.NONE.toByte.toNat
        ScriptBuilder.loadItems reg.val 0 items) fun instrs =>
      ∃ value, denote (.list items) = some value ∧ LoadsInto reg value instrs := by
  have grouped : Produces (do
      (do
        emit .CAST
        byte reg.val
        byte reg.val
        byte VMType.NONE.toByte.toNat)
      ScriptBuilder.loadItems reg.val 0 items) fun instrs =>
        ∃ value, denote (.list items) = some value ∧ LoadsInto reg value instrs := by
    refine (emitCast_produces reg reg .NONE).seq loadItems ?_
    rintro left right rfl ⟨added, denoted, extendsMap⟩
    refine ⟨.map added, by rw [denote, denoted]; rfl, fun m => ?_⟩
    -- the cast of a register to none leaves an empty map in it
    obtain ⟨m', run, loaded⟩ := extendsMap (m.setReg reg (.map [])) [] (m.setReg_same reg _)
      fun _ member => absurd member List.not_mem_nil
    refine ⟨m', ?_, loaded.value, fun other below => ?_, loaded.stack⟩
    · unfold Instr.run at run ⊢
      rw [List.singleton_append, List.foldlM_cons, step_cast]
      exact run
    · rw [loaded.below other below, m.setReg_ne _ (Fin.ne_of_lt below)]
  simpa only [bind_assoc] using grouped

mutual

/-- The code for an argument loads the value of the argument. -/
theorem loadIntoRegister_loads (reg : Register) : ∀ arg,
    Produces (loadIntoRegister reg.val arg) fun instrs =>
      ∃ value, denote arg = some value ∧ LoadsInto reg value instrs
  | .nil => produces_fail _
  | .other typeName => produces_fail _
  | .address value => produces_check fun raw encoded => by
    rw [prefixedBytes_eq] at encoded
    cases encoded
    exact (emitLoad_loads reg _ .BYTES).mono fun instrs loads => ⟨_, rfl, loads⟩
  | .str value => (emitLoadString_loads reg value).mono fun instrs ⟨raw, encoded, loads⟩ =>
    ⟨.data .STRING raw, by rw [denote, encoded]; rfl, loads⟩
  | .bool value => (emitLoad_loads reg _ .BOOL).mono fun instrs loads =>
    ⟨_, rfl, by cases value <;> exact loads⟩
  | .bytes value => (emitLoad_loads reg value .BYTES).mono fun instrs loads => ⟨_, rfl, loads⟩
  | .int value => (emitLoadNumber_loads reg value).mono fun instrs loads => ⟨_, rfl, loads⟩
  | .datetime unixSeconds => by
    change Produces (emitLoadTime reg.val unixSeconds) _
    unfold emitLoadTime
    split
    next => exact produces_failWith _ _
    next inside =>
      have range : Unsigned 32 unixSeconds := by
        unfold Unsigned
        omega
      exact (emitLoad_loads reg _ .TIMESTAMP).mono fun instrs loads =>
        ⟨_, by rw [denote, if_pos range]; rfl, loads⟩
  | .list items => by
    change Produces (if (reg.val : Int) > MAX_REGISTER_COUNT - 3 then _ else _) _
    unfold MAX_REGISTER_COUNT
    split
    next => exact produces_failWith _ _
    next room =>
      -- the values and the keys have the next two registers
      have items := loadItems_extends reg ⟨reg.val + 1, by omega⟩ ⟨reg.val + 2, by omega⟩ rfl rfl 0 items
      exact castAndItems_loads items

/-- The loop over the items of a list adds an entry for each item in order. -/
theorem loadItems_extends (reg value key : Register) (valueNext : value.val = reg.val + 1)
    (keyNext : key.val = reg.val + 2) (index : Nat) : ∀ items,
    Produces (loadItems reg.val index items) fun instrs =>
      ∃ added, denoteItems index items = some added ∧ ExtendsMap reg index added instrs
  | [] => produces_pure ⟨[], rfl, fun m entries isMap _ =>
      ⟨m, rfl, by rw [List.append_nil, isMap], fun _ _ => rfl, rfl⟩⟩
  | item :: items => by
    have round := putItem_extends valueNext keyNext index (loadIntoRegister_loads value item)
    have rest := loadItems_extends reg value key valueNext keyNext (index + 1) items
    have valueOperand : (reg.val : Int) + 1 = value.val := by omega
    have keyOperand : (reg.val : Int) + 2 = key.val := by omega
    have seq := @Produces.seq _ _ _ _ (fun instrs => ∃ added,
      denoteItems index (item :: items) = some added ∧ ExtendsMap reg index added instrs) round rest ?_
    · rw [loadItems, valueOperand, keyOperand]
      simpa only [bind_assoc] using seq
    · rintro left right ⟨denoted, denotes, extendsOne⟩ ⟨added, denotesRest, extendsRest⟩
      exact ⟨_, by rw [denoteItems, denotes, denotesRest], extendsMap_append extendsOne extendsRest⟩

end

/-! ## Code for calls -/

/-- On every machine the instructions put the values on the stack, the first on top. -/
def Pushes (values : List Value) (instrs : List Instr) : Prop :=
  ∀ m, ∃ m', Instr.run instrs m = some m' ∧ m'.stack = values ++ m.stack

/-- A value is loaded into the first register and pushed. -/
theorem pushes_cons {value : Value} {values : List Value} {left right : List Instr}
    (first : Pushes values left) (second : LoadsInto 0 value right) :
    Pushes (value :: values) (left ++ (right ++ [.push (operandOf 0)])) := by
  intro m
  obtain ⟨m₁, runLeft, pushed⟩ := first m
  obtain ⟨m₂, runRight, loaded⟩ := second m₁
  refine ⟨{ m₂ with stack := m₂.regs 0 :: m₂.stack }, ?_, ?_⟩
  · rw [Instr.run_append, runLeft, Option.bind_some, Instr.run_append, runRight, Option.bind_some]
    unfold Instr.run
    rw [List.foldlM_cons, step_push]
    rfl
  · dsimp only
    rw [loaded.value, loaded.stack, pushed, List.cons_append]

theorem pushes_append {upper lower : List Value} {left right : List Instr}
    (first : Pushes lower left) (second : Pushes upper right) :
    Pushes (upper ++ lower) (left ++ right) := by
  intro m
  obtain ⟨m₁, runLeft, pushedLeft⟩ := first m
  obtain ⟨m₂, runRight, pushedRight⟩ := second m₁
  refine ⟨m₂, ?_, ?_⟩
  · rw [Instr.run_append, runLeft, Option.bind_some, runRight]
  · rw [pushedRight, pushedLeft, List.append_assoc]

theorem insertArgs_pushes (args : List Arg) : Produces (insertArgs args) fun instrs =>
    ∃ values, Denotes args values ∧ Pushes values.reverse instrs := by
  induction args with
  | nil => exact produces_pure ⟨[], .nil, fun m => ⟨m, rfl, rfl⟩⟩
  | cons arg args ih =>
    have push : Produces (do loadIntoRegister 0 arg; emitPush 0) fun instrs =>
        ∃ value, denote arg = some value ∧ Pushes [value] instrs := by
      refine (loadIntoRegister_loads 0 arg).seq (emitPush_produces 0) ?_
      rintro left right ⟨value, denotes, loads⟩ rfl
      have nothing : Pushes [] [] := fun m => ⟨m, rfl, rfl⟩
      exact ⟨value, denotes, pushes_cons nothing loads⟩
    have grouped : Produces (do (do loadIntoRegister 0 arg; emitPush 0); insertArgs args) fun instrs =>
        ∃ values, Denotes (arg :: args) values ∧ Pushes values.reverse instrs := by
      refine push.seq ih ?_
      rintro left right ⟨value, denotes, pushes⟩ ⟨values, denotesRest, pushesRest⟩
      refine ⟨value :: values, .cons denotes denotesRest, ?_⟩
      rw [List.reverse_cons]
      exact pushes_append pushes pushesRest
    simpa only [bind_assoc, insertArgs] using grouped

/-- The arguments are pushed from the last to the first. -/
theorem insertMethodArgs_pushes (args : List Arg) : Produces (insertMethodArgs args) fun instrs =>
    ∃ values, Denotes args values ∧ Pushes values instrs := by
  refine (insertArgs_pushes args.reverse).mono ?_
  rintro instrs ⟨values, denotes, pushes⟩
  refine ⟨values.reverse, ?_, pushes⟩
  have reversed := List.forall₂_reverse_iff.mpr denotes
  rwa [List.reverse_reverse] at reversed

/-- The code for a call: `body` pushes the values, then the name of the target is loaded into the first
    register, and `last` leaves the machine. -/
def IsCall (pushed : List Value) (target : Bytes) (last code : List Instr) : Prop :=
  ∃ body, code = body ++ .load 0 .STRING target :: last ∧ Pushes pushed body

theorem callInterop_produces (method : Str) (args : List Arg) :
    Produces (callInterop method args) fun code => ∃ values methodRaw,
      Denotes args values ∧ method.encodeUtf8 = some methodRaw ∧
      IsCall values methodRaw [.extcall 0] code := by
  have named : Produces (do emitLoadString 0 method; emit .EXTCALL; byte 0) fun instrs =>
      ∃ methodRaw, method.encodeUtf8 = some methodRaw ∧
        instrs = [.load 0 .STRING methodRaw, .extcall 0] := by
    refine (emitLoadString_produces 0 method).seq (emitExtcall_produces 0) ?_
    rintro left right ⟨methodRaw, encoded, rfl⟩ rfl
    exact ⟨methodRaw, encoded, rfl⟩
  refine (insertMethodArgs_pushes args).seq named ?_
  rintro left right ⟨values, denotes, pushes⟩ ⟨methodRaw, encoded, rfl⟩
  exact ⟨values, methodRaw, denotes, encoded, left, rfl, pushes⟩

theorem callContract_produces (contractName method : Str) (args : List Arg) :
    Produces (callContract contractName method args) fun code => ∃ values methodRaw contractRaw,
      Denotes args values ∧ method.encodeUtf8 = some methodRaw ∧
      contractName.encodeUtf8 = some contractRaw ∧
      IsCall (.data .STRING methodRaw :: values) contractRaw [.ctx 0 1, .switch 1] code := by
  -- the call is put together from its end, and regrouped at last
  have leave : Produces (do (do emit .CTX; byte 0; byte 1); emit .SWITCH; byte 1)
      (· = [.ctx 0 1, .switch 1]) := by
    refine (emitCtx_produces 0 1).seq (emitSwitch_produces 1) ?_
    rintro left right rfl rfl
    rfl
  have contract : Produces (do
      emitLoadString 0 contractName
      (do emit .CTX; byte 0; byte 1)
      emit .SWITCH
      byte 1) fun instrs => ∃ contractRaw, contractName.encodeUtf8 = some contractRaw ∧
        instrs = .load 0 .STRING contractRaw :: [.ctx 0 1, .switch 1] := by
    refine (emitLoadString_produces 0 contractName).seq leave ?_
    rintro left right ⟨contractRaw, encoded, rfl⟩ rfl
    exact ⟨contractRaw, encoded, rfl⟩
  have methodPush : Produces (do emitLoadString 0 method; emitPush 0) fun instrs =>
      ∃ methodRaw, method.encodeUtf8 = some methodRaw ∧ Pushes [.data .STRING methodRaw] instrs := by
    refine (emitLoadString_loads 0 method).seq (emitPush_produces 0) ?_
    rintro left right ⟨methodRaw, encoded, loads⟩ rfl
    have nothing : Pushes [] [] := fun m => ⟨m, rfl, rfl⟩
    exact ⟨methodRaw, encoded, pushes_cons nothing loads⟩
  have afterArgs : Produces (do
      (do emitLoadString 0 method; emitPush 0)
      emitLoadString 0 contractName
      (do emit .CTX; byte 0; byte 1)
      emit .SWITCH
      byte 1) fun instrs => ∃ methodRaw contractRaw, method.encodeUtf8 = some methodRaw ∧
        contractName.encodeUtf8 = some contractRaw ∧
        IsCall [.data .STRING methodRaw] contractRaw [.ctx 0 1, .switch 1] instrs := by
    refine methodPush.seq contract ?_
    rintro left right ⟨methodRaw, encoded, pushes⟩ ⟨contractRaw, encodedContract, rfl⟩
    exact ⟨methodRaw, contractRaw, encoded, encodedContract, left, rfl, pushes⟩
  have whole : Produces (do
      insertMethodArgs args
      (do emitLoadString 0 method; emitPush 0)
      emitLoadString 0 contractName
      (do emit .CTX; byte 0; byte 1)
      emit .SWITCH
      byte 1) fun code => ∃ values methodRaw contractRaw,
        Denotes args values ∧ method.encodeUtf8 = some methodRaw ∧
        contractName.encodeUtf8 = some contractRaw ∧
        IsCall (.data .STRING methodRaw :: values) contractRaw [.ctx 0 1, .switch 1] code := by
    refine (insertMethodArgs_pushes args).seq afterArgs ?_
    rintro left right ⟨values, denotes, pushes⟩
      ⟨methodRaw, contractRaw, encoded, encodedContract, body, rfl, pushesMethod⟩
    refine ⟨values, methodRaw, contractRaw, denotes, encoded, encodedContract, left ++ body, ?_,
      pushes_append pushes pushesMethod⟩
    rw [List.append_assoc]
  simpa only [bind_assoc, callContract] using whole

/-- What a call appended: bytes that are instructions in exactly one way, with registers in range, that
    push the values and end with the name of the target in the first register. -/
structure CallCode (s s' : ScriptBuilder) (pushed : List Value) (target : Bytes) (last : List Instr)
    (out : Bytes) (body : List Instr) : Prop where
  appended : s' = { s with writer := s.writer ++ out }
  assembled : ∀ instrs, Assembled out instrs ↔ instrs = body ++ .load 0 .STRING target :: last
  inRange : ∀ instr ∈ body ++ .load 0 .STRING target :: last, instr.InRange
  means : ∀ m, ∃ m', Instr.run (body ++ [.load 0 .STRING target]) m = some m' ∧
    m'.regs 0 = .data .STRING target ∧ m'.stack = pushed ++ m.stack

/-- The code of a call, read as the claim of its meaning. -/
theorem IsCall.callCode {s s' : ScriptBuilder} {pushed : List Value} {target out : Bytes}
    {last code : List Instr} (isCall : IsCall pushed target last code)
    (appended : s' = { s with writer := s.writer ++ out }) (assembled : Assembled out code)
    (inRange : ∀ instr ∈ code, instr.InRange) : ∃ body, CallCode s s' pushed target last out body := by
  obtain ⟨body, rfl, pushes⟩ := isCall
  refine ⟨body, appended, ?_, inRange, ?_⟩
  · intro instrs
    constructor
    · exact assembled.unique
    · rintro rfl
      exact assembled
  · intro m
    obtain ⟨m₁, runBody, pushed⟩ := pushes m
    obtain ⟨m₂, runLoad, loaded⟩ := loadsInto_load 0 .STRING target m₁
    refine ⟨m₂, ?_, loaded.value, by rw [loaded.stack, pushed]⟩
    rw [Instr.run_append, runBody, Option.bind_some]
    exact runLoad

/-- Calls that leave no error mean what they say: the appended code pushes the values of the arguments,
    the first on top, and ends by calling the method, or by switching to the contract with the method
    name on top of the arguments. -/
theorem calls_mean (s s' : ScriptBuilder) (method : Str) (args : List Arg) (noError : s'.error = none) :
    (exec (callInterop method args) s = (.ok (), s') → ∃ values methodRaw out body,
      Denotes args values ∧ method.encodeUtf8 = some methodRaw ∧
      CallCode s s' values methodRaw [.extcall 0] out body) ∧
    ∀ contractName, exec (callContract contractName method args) s = (.ok (), s') →
      ∃ values methodRaw contractRaw out body, Denotes args values ∧
        method.encodeUtf8 = some methodRaw ∧ contractName.encodeUtf8 = some contractRaw ∧
        CallCode s s' (.data .STRING methodRaw :: values) contractRaw [.ctx 0 1, .switch 1] out body := by
  constructor
  · intro run
    obtain ⟨out, code, appended, assembled, inRange, values, methodRaw, denotes, encoded, isCall⟩ :=
      callInterop_produces method args s s' run noError
    obtain ⟨body, callCode⟩ := isCall.callCode appended assembled inRange
    exact ⟨values, methodRaw, out, body, denotes, encoded, callCode⟩
  · intro contractName run
    obtain ⟨out, code, appended, assembled, inRange, values, methodRaw, contractRaw, denotes, encoded,
      encodedContract, isCall⟩ := callContract_produces contractName method args s s' run noError
    obtain ⟨body, callCode⟩ := isCall.callCode appended assembled inRange
    exact ⟨values, methodRaw, contractRaw, out, body, denotes, encoded, encodedContract, callCode⟩

/-- A nested list among the arguments. -/
def sampleArgs : List Arg :=
  [.str (Str.ofString "a"), .list [.int (-1), .list [.bool true], .bytes []]]

/-- The builder after a call of an interop method with these arguments. -/
def sampleCalled : ScriptBuilder where
  writer := [14, 0, 0, 0,
    13, 1, 3, 1, 255, 13, 2, 3, 1, 0, 47, 1, 0, 2,
    14, 1, 1, 0, 13, 2, 6, 1, 1, 13, 3, 3, 1, 0, 47, 2, 1, 3, 13, 2, 3, 1, 1, 47, 1, 0, 2,
    13, 1, 2, 0, 13, 2, 3, 1, 2, 47, 1, 0, 2, 3, 0,
    13, 0, 4, 1, 97, 3, 0,
    13, 0, 4, 1, 109, 7, 0]

theorem calls_mean_sample : ∃ values methodRaw out body,
    Denotes sampleArgs values ∧ (Str.ofString "m").encodeUtf8 = some methodRaw ∧
    CallCode {} sampleCalled values methodRaw [.extcall 0] out body := by
  have run : exec (callInterop (Str.ofString "m") sampleArgs) {} = (.ok (), sampleCalled) := by
    decide +kernel
  exact (calls_mean {} sampleCalled (Str.ofString "m") sampleArgs rfl).1 run

end ScriptBuilder

end PhantasmaPy.VM
