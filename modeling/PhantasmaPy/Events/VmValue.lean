import PhantasmaPy.Json

/-! # VM values

`VmValue` of `vm_value.py`, and what it makes of a JSON value.
-/

namespace PhantasmaPy.Events

open Wire

/-- Exactly one of the three shapes. -/
inductive VmValue where
  | text (content : Str)
  | items (elements : List VmValue)
  | fields (entries : List (Str × VmValue))

namespace VmValue

/-! ## Wire form -/

mutual

def fromWire : Json → VmValue
  | .str content => .text content
  | .obj entries => .fields (fieldsFromWire entries)
  | .arr elements => .items (itemsFromWire elements)
  | .null => .text []
  | .bool value => .text (Str.ofString (if value then "true" else "false"))
  | .int value => .text (Str.ofString (toString value))
  | .float content => .text content

def itemsFromWire : List Json → List VmValue
  | [] => []
  | item :: elements => fromWire item :: itemsFromWire elements

def fieldsFromWire : List (Str × Json) → List (Str × VmValue)
  | [] => []
  | (name, item) :: entries => (name, fromWire item) :: fieldsFromWire entries

end

mutual

def toWire : VmValue → Json
  | .items elements => .arr (itemsToWire elements)
  | .fields entries => .obj (fieldsToWire entries)
  | .text content => .str content

def itemsToWire : List VmValue → List Json
  | [] => []
  | item :: elements => item.toWire :: itemsToWire elements

def fieldsToWire : List (Str × VmValue) → List (Str × Json)
  | [] => []
  | (name, item) :: entries => (name, item.toWire) :: fieldsToWire entries

end

/-! ## Laws -/

@[simp] theorem toWire_ne_null (value : VmValue) : value.toWire ≠ .null := by
  cases value <;> simp [toWire]

mutual

/-- A VM value comes back from its wire form. -/
theorem fromWire_toWire (value : VmValue) : fromWire value.toWire = value := by
  cases value with
  | text content => simp [toWire, fromWire]
  | items elements => simp [toWire, fromWire, itemsFromWire_itemsToWire elements]
  | fields entries => simp [toWire, fromWire, fieldsFromWire_fieldsToWire entries]

theorem itemsFromWire_itemsToWire (elements : List VmValue) :
    itemsFromWire (itemsToWire elements) = elements := by
  cases elements with
  | nil => simp [itemsToWire, itemsFromWire]
  | cons item elements =>
    simp [itemsToWire, itemsFromWire, fromWire_toWire item, itemsFromWire_itemsToWire elements]

theorem fieldsFromWire_fieldsToWire (entries : List (Str × VmValue)) :
    fieldsFromWire (fieldsToWire entries) = entries := by
  cases entries with
  | nil => simp [fieldsToWire, fieldsFromWire]
  | cons entry entries =>
    obtain ⟨name, item⟩ := entry
    simp [fieldsToWire, fieldsFromWire, fromWire_toWire item, fieldsFromWire_fieldsToWire entries]

end

/-- The second value is the first with every number, boolean and null of it turned into text. -/
inductive Normalized : Json → Json → Prop
  | str (content : Str) : Normalized (.str content) (.str content)
  | null : Normalized .null (.str [])
  | bool (value : Bool) : Normalized (.bool value) (.str (Str.ofString (if value then "true" else "false")))
  | int (value : Int) : Normalized (.int value) (.str (Str.ofString (toString value)))
  | float (content : Str) : Normalized (.float content) (.str content)
  | arr {items written : List Json} : List.Forall₂ Normalized items written →
      Normalized (.arr items) (.arr written)
  | obj {entries written : List (Str × Json)} : entries.map Prod.fst = written.map Prod.fst →
      List.Forall₂ Normalized (entries.map Prod.snd) (written.map Prod.snd) →
      Normalized (.obj entries) (.obj written)

theorem itemsToWire_itemsFromWire (items : List Json) :
    itemsToWire (itemsFromWire items) = items.map fun item => (fromWire item).toWire := by
  induction items with
  | nil => simp [itemsFromWire, itemsToWire]
  | cons item items ih => simp [itemsFromWire, itemsToWire, ih]

theorem fieldsToWire_fieldsFromWire (entries : List (Str × Json)) :
    fieldsToWire (fieldsFromWire entries) = entries.map fun entry => (entry.1, (fromWire entry.2).toWire) := by
  induction entries with
  | nil => simp [fieldsFromWire, fieldsToWire]
  | cons entry entries ih => simp [fieldsFromWire, fieldsToWire, ih]

/-- Reading and writing a JSON value only turns its scalars into text. -/
theorem normalized_toWire_fromWire (value : Json) : Normalized value (fromWire value).toWire := by
  induction value using Json.induction with
  | null => exact .null
  | bool value => exact .bool value
  | int value => exact .int value
  | float content => exact .float content
  | str content => exact .str content
  | arr items ih =>
    simp only [fromWire, toWire, itemsToWire_itemsFromWire]
    apply Normalized.arr
    rw [List.forall₂_map_right_iff, List.forall₂_same]
    exact ih
  | obj entries ih =>
    simp only [fromWire, toWire, fieldsToWire_fieldsFromWire]
    apply Normalized.obj
    · simp
    · simp only [List.map_map, List.forall₂_map_left_iff, List.forall₂_map_right_iff, List.forall₂_same]
      exact ih

end VmValue

end PhantasmaPy.Events
