import PhantasmaPy.VM.Casts
import PhantasmaPy.VM.ObjectLaws

/-! # Lossless casts of VM objects

Numbers survive the cast to bytes and to text, texts the cast to bytes and to a struct.
-/

namespace PhantasmaPy.VM

open Wire

namespace VMObject

variable {interp : Interpreter}

/-! ## Numbers -/

theorem number_bytes_number (n : Int) :
    (do (← (number n).castTo interp .BYTES).castTo interp .NUMBER) = .ok (number n) := by
  change Except.ok (number (vmBytesToBigInt (bigIntToVmBytes n))) = _
  rw [vmBytesToBigInt_bigIntToVmBytes]

theorem number_string_number (n : Int) :
    (do (← (number n).castTo interp.unlimited .STRING).castTo interp.unlimited .NUMBER) = .ok (number n) := by
  obtain ⟨text, printed⟩ := @Interpreter.str_unlimited interp.unlimited rfl n
  have cast : (number n).castTo interp.unlimited .STRING = .ok (string text) := by
    change (interp.unlimited.str n >>= fun text => .ok (string text)) = _
    rw [printed]
    rfl
  rw [cast]
  change (interp.unlimited.int text >>= fun n => .ok (number n)) = _
  rw [Interpreter.int_str printed]
  rfl

/-- A text of scalar values has a UTF-8 form, which decodes to it. -/
theorem string_bytes_string {s : Str} (scalar : s.Scalar) :
    (do (← (string s).castTo interp .BYTES).castTo interp .STRING) = .ok (string s) := by
  obtain ⟨raw, encoded⟩ := Str.encodeUtf8_scalar scalar
  have cast : (string s).castTo interp .BYTES = .ok (bytes raw) := by
    change (encodeText s >>= fun raw => .ok (bytes raw)) = _
    rw [encodeText_eq_ok.mpr encoded]
    rfl
  rw [cast]
  change (decodeText raw >>= fun s => .ok (string s)) = _
  rw [decodeText_iff_encodeText.mpr (encodeText_eq_ok.mpr encoded)]
  rfl

/-! ## Code units in a struct -/

/-- The entry for each code unit, under its index. -/
def unitItems (units : List Nat) : List (VMObject × VMObject) :=
  units.zipIdx.map fun (unit, index) => (number index, number unit)

theorem length_unitItems (units : List Nat) : (unitItems units).length = units.length := by
  rw [unitItems, List.length_map, List.length_zipIdx]

theorem unitItems_concat (units : List Nat) (unit : Nat) :
    unitItems (units ++ [unit]) = unitItems units ++ [(number units.length, number unit)] := by
  rw [unitItems, unitItems, List.zipIdx_append, List.map_append, Nat.zero_add]
  rfl

/-- A new index is no key yet. -/
theorem setItem_unitItems (units : List Nat) (unit : Nat) :
    setItem (unitItems units) (number units.length) (number unit) = .ok (unitItems (units ++ [unit])) := by
  rw [unitItems_concat]
  refine setItem_fresh rfl fun item member same => ?_
  obtain ⟨⟨other, index⟩, listed, rfl⟩ := List.mem_map.mp member
  have small := (List.mem_zipIdx listed).2.1
  have equal : (index : Int) = units.length := VMObject.number.inj same
  omega

/-- The lookup finds the unit under its index. -/
theorem getItem_unitItems {units : List Nat} {index unit : Nat} (found : units[index]? = .some unit) :
    getItem (unitItems units) (number index) = .some (number unit) := by
  have unique : ∀ item ∈ unitItems units, item.1.sameKey (number index) = true → item.2 = number unit := by
    intro item member same
    obtain ⟨⟨other, position⟩, listed, rfl⟩ := List.mem_map.mp member
    have equal : number position = number index := (sameKey_iff rfl).mp same
    have here := List.mk_mem_zipIdx_iff_getElem?.mp listed
    obtain rfl : position = index := by exact_mod_cast VMObject.number.inj equal
    rw [found] at here
    exact congrArg (fun unit : Nat => number unit) (Option.some.inj here).symm
  have present : (number index, number unit) ∈ unitItems units :=
    List.mem_map.mpr ⟨(unit, index), List.mk_mem_zipIdx_iff_getElem?.mpr found, rfl⟩
  unfold getItem
  cases search : (unitItems units).find? fun item => item.1.sameKey (number index) with
  | none => exact absurd ((sameKey_iff rfl).mpr rfl) (List.find?_eq_none.mp search _ present)
  | some item =>
    have same := List.find?_some search
    rw [Option.map_some, unique item (List.mem_of_find?_eq_some search) same]

/-- A loop over the positions of a list, each round of which adds the element there to what is before it. -/
theorem foldlM_positions {β : Type} {step : β → Nat → Except PyError β} {state : List Nat → β} (units : List Nat)
    (stride : Nat) (round : ∀ before unit after, before ++ unit :: after = units →
      step (state before) (stride * before.length) = .ok (state (before ++ [unit]))) :
    (List.range' 0 units.length stride).foldlM step (state []) = .ok (state units) := by
  -- The induction is on the elements that are left; those before them are in the state.
  have rest (before after : List Nat) (split : before ++ after = units) :
      (List.range' (stride * before.length) after.length stride).foldlM step (state before) = .ok (state units) := by
    induction after generalizing before with
    | nil =>
      rw [← split, List.append_nil]
      rfl
    | cons unit after ih =>
      have later := ih (before ++ [unit]) (by rw [List.append_assoc, List.singleton_append, split])
      rw [List.length_append, List.length_singleton, mul_add, mul_one] at later
      rw [List.length_cons, List.range'_succ, List.foldlM_cons, round before unit after split]
      exact later
  exact rest [] units rfl

/-- Nothing but numbers is found under the indices. -/
theorem detect_unitItems {units indices : List Nat} (inside : ∀ index ∈ indices, index < units.length) :
    detect (unitItems units) indices (.some .NUMBER) = .NUMBER := by
  induction indices with
  | nil => rfl
  | cons index indices ih =>
    obtain ⟨head, tail⟩ := List.forall_mem_cons.mp inside
    unfold detect
    rw [getItem_unitItems (List.getElem?_eq_getElem head)]
    dsimp only
    rw [if_neg (fun differs => differs.2 rfl)]
    exact ih tail

theorem arrayType_unitItems {units : List Nat} (some : units ≠ []) :
    (struct (unitItems units)).arrayType = .NUMBER := by
  cases units with
  | nil => contradiction
  | cons unit units =>
    change detect _ (List.range (unitItems (unit :: units)).length) .none = _
    rw [length_unitItems, List.length_cons, List.range_succ_eq_map]
    unfold detect
    rw [@getItem_unitItems (unit :: units) 0 unit rfl]
    dsimp only
    rw [if_neg (fun differs => differs.1 rfl)]
    -- The first round detects the type, and the later ones find the same.
    refine detect_unitItems fun index member => ?_
    obtain ⟨before, listed, rfl⟩ := List.mem_map.mp member
    exact Nat.succ_lt_succ (List.mem_range.mp listed)

/-- The loop that casts a text to a struct. -/
theorem castUnits_flatMap {units : List Nat} (small : ∀ unit ∈ units, unit < 0x10000) :
    castUnits (units.flatMap (natToLE 2)) = .ok (unitItems units) := by
  unfold castUnits
  rw [Str.length_flatMap_natToLE, show (2 * units.length + 1) / 2 = units.length by omega]
  refine @foldlM_positions _ _ unitItems units 2 fun before unit after split => ?_
  have value : natOfLE (((units.flatMap (natToLE 2)).drop (2 * before.length)).take 2) = unit := by
    rw [← split, List.flatMap_append, ← Str.length_flatMap_natToLE, List.drop_left, List.flatMap_cons]
    change natOfLE (natToLE 2 unit) = unit
    exact natOfLE_natToLE (small unit (by simp [← split]))
  unfold castUnit
  rw [value, Nat.mul_div_cancel_left _ (by decide), setItem_unitItems]

/-- The loop that collects the bytes of a number array. -/
theorem joinUnits_unitItems {units : List Nat} (small : ∀ unit ∈ units, unit < 0x10000) :
    joinUnits interp (unitItems units) = .ok (units.flatMap (natToLE 2)) := by
  unfold joinUnits
  rw [length_unitItems, List.range_eq_range']
  refine @foldlM_positions _ _ (fun before => before.flatMap (natToLE 2)) units 1 fun before unit after split => ?_
  have found : units[1 * before.length]? = .some unit := by simp [← split]
  have bound : unit < 256 ^ 2 := small unit (by simp [← split])
  unfold appendUnit
  rw [getItem_unitItems found, List.flatMap_append, List.flatMap_singleton]
  change (if _ then _ else intToBytes 2 unit >>= fun bytes => .ok (before.flatMap (natToLE 2) ++ bytes)) = _
  rw [if_neg (by omega), intToBytes_natCast bound]
  rfl

/-! ## Texts in a struct -/

theorem encodeUtf16_scalar {s : Str} (scalar : s.Scalar) :
    encodeUtf16 s = .ok ((s.flatMap CodePoint.utf16).flatMap (natToLE 2)) := by
  unfold encodeUtf16 Str.encodeUtf16LE Str.utf16
  rw [if_pos scalar, Option.map_some]

theorem string_struct {s : Str} (scalar : s.Scalar) :
    (string s).castTo interp .STRUCT = .ok (struct (unitItems (s.flatMap CodePoint.utf16))) := by
  change (encodeUtf16 s >>= fun units => castUnits units >>= fun items => .ok (struct items)) = _
  rw [encodeUtf16_scalar scalar]
  change (castUnits _ >>= fun items => .ok (struct items)) = _
  rw [castUnits_flatMap s.utf16_lt]
  rfl

theorem struct_string {s : Str} (scalar : s.Scalar) (some : s.flatMap CodePoint.utf16 ≠ []) :
    (struct (unitItems (s.flatMap CodePoint.utf16))).castTo interp .STRING = .ok (string s) := by
  have text : (struct (unitItems (s.flatMap CodePoint.utf16))).asString interp = .ok s := by
    rw [asString, if_pos (arrayType_unitItems some), joinUnits_unitItems s.utf16_lt]
    change decodeUtf16 _ = _
    unfold decodeUtf16
    rw [Str.decodeUtf16LE_utf16 scalar]
  change (asString interp _ >>= fun s => .ok (string s)) = _
  rw [text]
  rfl

theorem utf16_ne_nil {s : Str} (some : s ≠ []) : s.flatMap CodePoint.utf16 ≠ [] := by
  cases s with
  | nil => contradiction
  | cons c s =>
    rw [List.flatMap_cons]
    unfold CodePoint.utf16
    split
    next => exact List.cons_ne_nil _ _
    next => exact List.cons_ne_nil _ _

/-- The casts that lose nothing, the one of numbers to text without the limit on digits. -/
theorem casts_lossless (interp : Interpreter) :
    (∀ n, (do (← (number n).castTo interp .BYTES).castTo interp .NUMBER) = .ok (number n)) ∧
      (∀ n, (do (← (number n).castTo interp.unlimited .STRING).castTo interp.unlimited .NUMBER) =
        .ok (number n)) ∧
      (∀ s : Str, s.Scalar →
        (do (← (string s).castTo interp .BYTES).castTo interp .STRING) = .ok (string s)) ∧
      ∀ s : Str, s.Scalar → s ≠ [] → ∃ units, s.utf16 = some units ∧
        (string s).castTo interp .STRUCT = .ok (struct (unitItems units)) ∧
        (struct (unitItems units)).arrayType = .NUMBER ∧
        (unitItems units).length = units.length ∧
        (struct (unitItems units)).castTo interp .STRING = .ok (string s) := by
  refine ⟨number_bytes_number, number_string_number, fun s => string_bytes_string, ?_⟩
  intro s scalar nonempty
  have some := utf16_ne_nil nonempty
  exact ⟨_, if_pos scalar, string_struct scalar, arrayType_unitItems some, length_unitItems _,
    struct_string scalar some⟩

end VMObject

end PhantasmaPy.VM
