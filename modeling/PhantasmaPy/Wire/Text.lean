import PhantasmaPy.Wire.LittleEndian
import Mathlib.Data.List.Lex

/-! # Text as code points

A string is a sequence of code points, lone surrogates included; only sequences of Unicode scalar
values have a UTF-8 form.  Encoding and strict decoding are converse partial functions.
-/

namespace PhantasmaPy.Wire

abbrev CodePoint := Fin 0x110000

instance codePointNeZero : NeZero 0x110000 := ⟨by decide⟩

/-- A string, ordered by code points. -/
abbrev Str := List CodePoint

namespace CodePoint

def ofChar (c : Char) : CodePoint :=
  ⟨c.toNat, by
    have valid := c.valid
    simp only [Char.toNat, UInt32.isValidChar, Nat.isValidChar] at valid ⊢
    omega⟩

/-- The scalar value at a code point; surrogates have none. -/
def toChar? (c : CodePoint) : Option Char :=
  if valid : c.val.isValidChar then some (Char.ofNatAux c.val valid) else none

theorem toChar?_eq_some {c : CodePoint} {char : Char} : c.toChar? = some char ↔ c = ofChar char := by
  unfold toChar?
  constructor
  · intro found
    by_cases valid : c.val.isValidChar
    · rw [dif_pos valid] at found
      obtain rfl := Option.some.inj found
      apply Fin.ext
      change c.val = (Char.ofNatAux c.val valid).toNat
      rfl
    · rw [dif_neg valid] at found
      cases found
  · rintro rfl
    have valid : (ofChar char).val.isValidChar := char.valid
    rw [dif_pos valid]
    rfl

theorem ofChar_injective : Function.Injective ofChar := by
  intro a b same
  have found := toChar?_eq_some.mpr (rfl : ofChar a = ofChar a)
  rw [same, toChar?_eq_some.mpr rfl] at found
  exact (Option.some.inj found).symm

end CodePoint

namespace Str

/-- The string that a Lean literal spells. -/
def ofString (s : String) : Str := s.toList.map CodePoint.ofChar

@[simp] theorem ofString_inj {s t : String} : ofString s = ofString t ↔ s = t := by
  unfold ofString
  rw [(List.map_injective_iff.mpr CodePoint.ofChar_injective).eq_iff, String.toList_inj]

/-- The UTF-8 form, which a string with a surrogate does not have. -/
def encodeUtf8 (s : Str) : Option Bytes :=
  (s.mapM CodePoint.toChar?).map fun chars => chars.flatMap String.utf8EncodeChar

/-- Strict UTF-8 decoding. -/
def decodeUtf8 (bs : Bytes) : Option Str :=
  bs.toByteArray.utf8Decode?.map fun chars => chars.toList.map CodePoint.ofChar

theorem mapM_toChar?_eq_some {s : Str} {chars : List Char} :
    s.mapM CodePoint.toChar? = some chars ↔ s = chars.map CodePoint.ofChar := by
  induction s generalizing chars with
  | nil => cases chars <;> simp
  | cons c s ih =>
    simp only [List.mapM_cons, Option.bind_eq_bind, Option.bind_eq_some_iff, Option.pure_def,
      Option.some.injEq]
    cases chars with
    | nil => simp
    | cons char chars =>
      simp only [List.map_cons, List.cons.injEq]
      constructor
      · rintro ⟨char', head, chars', tail, rfl, rfl⟩
        exact ⟨CodePoint.toChar?_eq_some.mp head, ih.mp tail⟩
      · rintro ⟨head, tail⟩
        exact ⟨char, CodePoint.toChar?_eq_some.mpr head, chars, ih.mpr tail, rfl, rfl⟩

theorem encodeUtf8_eq_some {s : Str} {bs : Bytes} :
    s.encodeUtf8 = some bs ↔
      ∃ chars : List Char, s = chars.map CodePoint.ofChar ∧
        bs = chars.flatMap String.utf8EncodeChar := by
  simp only [encodeUtf8, Option.map_eq_some_iff, mapM_toChar?_eq_some, eq_comm (a := bs)]

/-- ASCII characters take one byte each. -/
theorem encodeUtf8_ascii {s : Str} (ascii : ∀ c ∈ s, c.val < 128) :
    ∃ bs, s.encodeUtf8 = some bs ∧ bs.length = s.length := by
  induction s with
  | nil => exact ⟨[], rfl, rfl⟩
  | cons c s ih =>
    obtain ⟨_, encoded, length⟩ := ih fun later member => ascii later (List.mem_cons_of_mem _ member)
    obtain ⟨chars, rfl, rfl⟩ := encodeUtf8_eq_some.mp encoded
    have small := ascii c List.mem_cons_self
    have valid : c.val.isValidChar := .inl (by omega)
    have found : c.toChar? = some (Char.ofNatAux c.val valid) := dif_pos valid
    have one : (Char.ofNatAux c.val valid).utf8Size = 1 := by
      rw [Char.utf8Size_eq_one_iff]
      exact Nat.le_of_lt_succ small
    refine ⟨(Char.ofNatAux c.val valid :: chars).flatMap String.utf8EncodeChar, encodeUtf8_eq_some.mpr
      ⟨_, by rw [List.map_cons, ← CodePoint.toChar?_eq_some.mp found], rfl⟩, ?_⟩
    rw [List.flatMap_cons, List.length_append, String.length_utf8EncodeChar, one, length, List.length_cons,
      Nat.add_comm]

theorem decodeUtf8_eq_some {s : Str} {bs : Bytes} :
    decodeUtf8 bs = some s ↔
      ∃ chars : List Char, s = chars.map CodePoint.ofChar ∧
        bs = chars.flatMap String.utf8EncodeChar := by
  constructor
  · intro decoded
    obtain ⟨chars, found, rfl⟩ := Option.map_eq_some_iff.mp decoded
    refine ⟨chars.toList, rfl, ?_⟩
    have encoded := ByteArray.utf8Encode_get_utf8Decode?
      (b := bs.toByteArray) (h := by rw [found]; rfl)
    simp only [found, Option.get_some, List.utf8Encode] at encoded
    have lists := congrArg (fun array => array.data.toList) encoded
    simpa using lists.symm
  · rintro ⟨chars, rfl, rfl⟩
    have decoded := List.utf8Decode?_utf8Encode (l := chars)
    unfold List.utf8Encode at decoded
    rw [decodeUtf8, decoded]
    simp

/-- Encoding and decoding are converse to each other. -/
theorem encodeUtf8_iff_decodeUtf8 {s : Str} {bs : Bytes} :
    s.encodeUtf8 = some bs ↔ decodeUtf8 bs = some s := by
  rw [encodeUtf8_eq_some, decodeUtf8_eq_some]

end Str

end PhantasmaPy.Wire
