import PhantasmaPy.Wire.Text

/-! # UTF-16

The code units of a text, low byte first, and the strict decoder.  A text of scalar values has code units, two of
them beyond the basic plane, and the decoder reads them back.
-/

namespace PhantasmaPy.Wire

namespace CodePoint

/-- A code point that is no surrogate. -/
def Scalar (c : CodePoint) : Prop := c.val < 0xD800 ∨ 0xE000 ≤ c.val

instance (c : CodePoint) : Decidable c.Scalar := inferInstanceAs (Decidable (_ ∨ _))

/-- The code units of a scalar value. -/
def utf16 (c : CodePoint) : List Nat :=
  if c.val < 0x10000 then [c.val]
  else [0xD800 + (c.val - 0x10000) / 0x400, 0xDC00 + (c.val - 0x10000) % 0x400]

theorem utf16_lt (c : CodePoint) : ∀ unit ∈ c.utf16, unit < 0x10000 := by
  have bound := c.isLt
  unfold utf16
  intro unit member
  split at member
  next basic =>
    rw [List.mem_singleton.mp member]
    exact basic
  next =>
    rcases List.mem_cons.mp member with rfl | low
    · omega
    · rw [List.mem_singleton.mp low]
      omega

theorem toChar?_scalar {c : CodePoint} (scalar : c.Scalar) : ∃ char, c.toChar? = some char := by
  have bound := c.isLt
  have valid : c.val.isValidChar := by
    unfold Scalar at scalar
    unfold Nat.isValidChar
    omega
  unfold toChar?
  rw [dif_pos valid]
  exact ⟨_, rfl⟩

end CodePoint

namespace Str

/-- A text of scalar values. -/
def Scalar (s : Str) : Prop := ∀ c ∈ s, c.Scalar

instance (s : Str) : Decidable s.Scalar := List.decidableBAll _ s

/-- The code units of a text, which a text with a surrogate does not have. -/
def utf16 (s : Str) : Option (List Nat) := if s.Scalar then some (s.flatMap CodePoint.utf16) else none

/-- The text that code units encode; a surrogate must be high and have a low one after it. -/
def ofUtf16 : List Nat → Option Str
  | [] => some []
  | [unit] => if unit < 0xD800 ∨ 0xE000 ≤ unit then some [Fin.ofNat _ unit] else none
  | unit :: low :: units =>
    if unit < 0xD800 ∨ 0xE000 ≤ unit then
      (ofUtf16 (low :: units)).map fun s => Fin.ofNat _ unit :: s
    else if unit < 0xDC00 ∧ 0xDC00 ≤ low ∧ low < 0xE000 then
      (ofUtf16 units).map fun s => Fin.ofNat _ (0x10000 + (unit - 0xD800) * 0x400 + (low - 0xDC00)) :: s
    else none

/-- The code units in pairs of bytes. -/
def unitsLE : Bytes → Option (List Nat)
  | [] => some []
  | [_] => none
  | low :: high :: bs => (unitsLE bs).map fun units => natOfLE [low, high] :: units

def encodeUtf16LE (s : Str) : Option Bytes := s.utf16.map fun units => units.flatMap (natToLE 2)

def decodeUtf16LE (bs : Bytes) : Option Str := (unitsLE bs).bind ofUtf16

theorem encodeUtf8_scalar {s : Str} (scalar : s.Scalar) : ∃ bs, s.encodeUtf8 = some bs := by
  induction s with
  | nil => exact ⟨[], rfl⟩
  | cons c s ih =>
    obtain ⟨head, tail⟩ := List.forall_mem_cons.mp scalar
    obtain ⟨char, found⟩ := CodePoint.toChar?_scalar head
    obtain ⟨bs, encoded⟩ := ih tail
    obtain ⟨chars, same, -⟩ := encodeUtf8_eq_some.mp encoded
    refine ⟨_, encodeUtf8_eq_some.mpr ⟨char :: chars, ?_, rfl⟩⟩
    rw [List.map_cons, ← same, CodePoint.toChar?_eq_some.mp found]

/-- Code units in front are read first. -/
theorem ofUtf16_append {c : CodePoint} (scalar : c.Scalar) (units : List Nat) :
    ofUtf16 (c.utf16 ++ units) = (ofUtf16 units).map fun s => c :: s := by
  have bound := c.isLt
  unfold CodePoint.Scalar at scalar
  unfold CodePoint.utf16
  split
  next basic =>
    have same : Fin.ofNat 0x110000 c.val = c := Fin.ofNat_val_eq_self c
    cases units with
    | nil =>
      have single : ofUtf16 [c.val] = some [c] := by rw [ofUtf16, if_pos scalar, same]
      rw [List.append_nil, single]
      rfl
    | cons low units => rw [List.singleton_append, ofUtf16, if_pos scalar, same]
  next beyond =>
    -- A surrogate pair holds the ten high and the ten low bits of what is above the basic plane.
    have same : Fin.ofNat 0x110000 (0x10000 + (0xD800 + (c.val - 0x10000) / 0x400 - 0xD800) * 0x400 +
        (0xDC00 + (c.val - 0x10000) % 0x400 - 0xDC00)) = c := by
      apply Fin.ext
      rw [Fin.val_ofNat]
      omega
    rw [List.cons_append, List.singleton_append, ofUtf16, if_neg (by omega), if_pos (by omega), same]

theorem ofUtf16_utf16 {s : Str} (scalar : s.Scalar) : ofUtf16 (s.flatMap CodePoint.utf16) = some s := by
  induction s with
  | nil => rfl
  | cons c s ih =>
    obtain ⟨head, tail⟩ := List.forall_mem_cons.mp scalar
    rw [List.flatMap_cons, ofUtf16_append head, ih tail, Option.map_some]

theorem unitsLE_flatMap {units : List Nat} (small : ∀ unit ∈ units, unit < 0x10000) :
    unitsLE (units.flatMap (natToLE 2)) = some units := by
  induction units with
  | nil => rfl
  | cons unit units ih =>
    obtain ⟨head, tail⟩ := List.forall_mem_cons.mp small
    have value : natOfLE (natToLE 2 unit) = unit := natOfLE_natToLE (by omega)
    rw [List.flatMap_cons]
    change (unitsLE (units.flatMap (natToLE 2))).map (fun units => natOfLE (natToLE 2 unit) :: units) = _
    rw [ih tail, Option.map_some, value]

theorem length_flatMap_natToLE (units : List Nat) :
    (units.flatMap (natToLE 2)).length = 2 * units.length := by
  induction units with
  | nil => rfl
  | cons unit units ih =>
    rw [List.flatMap_cons, List.length_append, length_natToLE, ih, List.length_cons]
    omega

theorem utf16_lt (s : Str) : ∀ unit ∈ s.flatMap CodePoint.utf16, unit < 0x10000 := by
  intro unit member
  obtain ⟨c, -, inside⟩ := List.mem_flatMap.mp member
  exact c.utf16_lt unit inside

/-- A text of scalar values comes back. -/
theorem decodeUtf16LE_utf16 {s : Str} (scalar : s.Scalar) :
    decodeUtf16LE ((s.flatMap CodePoint.utf16).flatMap (natToLE 2)) = some s := by
  rw [decodeUtf16LE, unitsLE_flatMap s.utf16_lt, Option.bind_some, ofUtf16_utf16 scalar]

example : Str.utf16 [0x1F600, 0x61] = some [0xD83D, 0xDE00, 0x61] := by decide

end Str

end PhantasmaPy.Wire
