import PhantasmaPy.Python
import Mathlib.Data.List.Forall2

/-! # JSON values

The values that the JSON parser hands out, as Python sees them.
-/

namespace PhantasmaPy

open Wire

/-- A parsed JSON value.  A `float` is the text that `str` gives for it, and an `obj` is the list of the
    items of a `dict`. -/
inductive Json where
  | null
  | bool (value : Bool)
  | int (value : Int)
  | float (text : Str)
  | str (text : Str)
  | arr (items : List Json)
  | obj (entries : List (Str × Json))

namespace Json

/-- `type(value).__name__` -/
def typeName : Json → Str
  | null => Str.ofString "NoneType"
  | bool _ => Str.ofString "bool"
  | int _ => Str.ofString "int"
  | float _ => Str.ofString "float"
  | str _ => Str.ofString "str"
  | arr _ => Str.ofString "list"
  | obj _ => Str.ofString "dict"

/-- `raw.get(name)` on an object, with `None` for a missing key. -/
def get (entries : List (Str × Json)) (name : Str) : Json := (entries.lookup name).getD null

/-- A member of an array or of an object may be assumed to have the property. -/
theorem induction {motive : Json → Prop} (null : motive null) (bool : ∀ value, motive (bool value))
    (int : ∀ value, motive (int value)) (float : ∀ text, motive (float text))
    (str : ∀ text, motive (str text)) (arr : ∀ items, (∀ item ∈ items, motive item) → motive (arr items))
    (obj : ∀ entries, (∀ entry ∈ entries, motive entry.2) → motive (obj entries)) (value : Json) :
    motive value := by
  apply Json.rec (motive_1 := motive) (motive_2 := fun items => ∀ item ∈ items, motive item)
    (motive_3 := fun entries => ∀ entry ∈ entries, motive entry.2)
    (motive_4 := fun entry => motive entry.2) null bool int float str arr obj
  · simp
  · intro item items head tail
    exact List.forall_mem_cons.mpr ⟨head, tail⟩
  · simp
  · intro entry entries head tail
    exact List.forall_mem_cons.mpr ⟨head, tail⟩
  · intro name item inner
    exact inner

end Json

end PhantasmaPy
