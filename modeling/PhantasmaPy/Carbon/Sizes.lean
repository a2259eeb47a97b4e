import PhantasmaPy.Carbon.BigIntLaws
import PhantasmaPy.Wire.Size

/-! # Sizes of the primitive images -/

namespace PhantasmaPy.Carbon

open Wire Put CarbonWriter

theorem within_write1 (value : Int) : Within 1 1 (write1 value) := by
  intro a out emits
  obtain ⟨-, rfl⟩ := emits_write1.mp emits
  simp

theorem within_writeUnsigned (width : Nat) (value : Int) :
    Within width width (writeUnsigned width value) := by
  intro a out emits
  obtain ⟨-, rfl⟩ := emits_writeUnsigned.mp emits
  simp

theorem within_writeSigned (width : Nat) (value : Int) :
    Within width width (writeSigned width value) := by
  intro a out emits
  obtain ⟨-, rfl⟩ := emits_writeSigned.mp emits
  simp

theorem within_write8u (value : Int) : Within 8 8 (write8u value) := within_writeUnsigned 8 value

theorem within_write8 (value : Int) : Within 8 8 (write8 value) := within_writeSigned 8 value

theorem within_write4u (value : Int) : Within 4 4 (write4u value) := within_writeUnsigned 4 value

theorem within_write4 (value : Int) : Within 4 4 (write4 value) := within_writeSigned 4 value

theorem within_writeCount (count : Nat) : Within 4 4 (writeCount count) := by
  intro a out emits
  obtain ⟨-, rfl⟩ := emits_count.mp emits
  simp

theorem within_write (data : Bytes) : Within data.length data.length (write data) := within_tell data

theorem within_write32 (value : Bytes32) : Within 32 32 (write32 value) := by
  have within := within_write value.raw
  rwa [value.length_eq] at within

theorem within_write64 (value : Bytes64) : Within 64 64 (write64 value) := by
  have within := within_write value.raw
  rwa [value.length_eq] at within

theorem within_writeByteArray (data : Bytes) :
    Within (4 + data.length) (4 + data.length) (writeByteArray data) :=
  (within_writeCount _).seq (within_write data)

theorem within_writeArray {α : Type} {item : α → CarbonWriter Unit} {low high : Nat}
    (within : ∀ a, Within low high (item a)) (values : List α) :
    Within (4 + low * values.length) (4 + high * values.length) (writeArray item values) :=
  (within_writeCount _).seq (Within.each within values)

/-- A text of at most 255 bytes under its length. -/
theorem SmallString.within (text : SmallString) : Within 1 256 text.writeCarbon := by
  obtain ⟨raw, encoded, short⟩ := text.fits
  refine Within.checked fun written accepted => ?_
  rw [encoded] at accepted
  obtain rfl := Except.ok.inj accepted
  exact ((within_write1 _).seq (within_write raw)).mono (by omega) (by omega)

theorem within_writeBigInt (value : Int) : Within 1 33 (writeBigInt value) := by
  unfold writeBigInt
  refine Within.ite (fun _ => (within_write1 0).mono (by omega) (by omega)) fun _ => ?_
  refine Within.checked fun word accepted => ?_
  have length : word.length = 32 := by
    unfold bigIntWord at accepted
    split at accepted
    · cases accepted
    · obtain rfl := Except.ok.inj accepted
      simp
  refine ((within_write1 _).seq (within_write _)).mono (by omega) ?_
  have short := (List.rdropWhile_prefix (p := fun b =>
    b = if word.getD 31 0 &&& 0x80 ≠ 0 then (0xFF : UInt8) else 0x00) (l := word)).length_le
  omega

theorem IntX.within (number : IntX) : Within 1 33 number.writeCarbon := by
  unfold writeCarbon
  refine Within.ite (fun _ => ?_) fun _ => within_writeBigInt _
  exact ((within_write1 _).seq (within_write8 _)).mono (by omega) (by omega)

end PhantasmaPy.Carbon
