import PhantasmaPy.Carbon.WriterMeaning

/-! # Data in normal form

Putting data in normal form changes the order of fields only, so that data is of the classes of its normal form.
-/

namespace PhantasmaPy.Carbon

open Wire CarbonWriter CarbonReader

/-! ## Values without nested values -/

/-- Data that is its own normal form whatever it holds. -/
def Data.isScalar : Data → Bool
  | .variable _ | .struct _ | .list _ | .structArray _ => false
  | _ => true

theorem eq_of_normal_scalar {data result : Data} (same : data.normal = result) (scalar : result.isScalar = true) :
    data = result := by
  cases data with
  | «variable» value | struct value | list items =>
    subst same
    cases scalar
  | structArray value =>
    obtain ⟨schema, structs⟩ := value
    subst same
    cases scalar
  | _ => exact same

/-- Items whose normal forms are of one class are of that class. -/
theorem normalItems_eq_map {α : Type} {inject : α → Data} {normal : α → α}
    (invert : ∀ {data : Data} {a : α}, data.normal = inject a →
      ∃ original, data = inject original ∧ normal original = a)
    {items : List Data} {xs : List α} (same : normalItems items = xs.map inject) :
    ∃ originals : List α, items = originals.map inject ∧ originals.map normal = xs := by
  induction items generalizing xs with
  | nil =>
    obtain rfl : xs = [] := by
      cases xs with
      | nil => rfl
      | cons x xs => cases same
    exact ⟨[], rfl, rfl⟩
  | cons item items ih =>
    cases xs with
    | nil => cases same
    | cons x xs =>
      obtain ⟨head, tail⟩ := List.cons.inj same
      obtain ⟨original, rfl, rfl⟩ := invert head
      obtain ⟨originals, rfl, rfl⟩ := ih tail
      exact ⟨original :: originals, rfl, rfl⟩

theorem Data.IsOf.of_normal {α : Type} {inject : α → Data} {domain : α → Prop} {data : Data}
    (scalar : ∀ a, (inject a).isScalar = true) (isOf : data.normal.IsOf inject domain) :
    data.IsOf inject domain := by
  obtain ⟨a, inside, same⟩ := isOf
  exact ⟨a, inside, eq_of_normal_scalar same (scalar a)⟩

theorem Data.IsListOf.of_normal {α : Type} {inject : α → Data} {domain : α → Prop} {data : Data}
    (scalar : ∀ a, (inject a).isScalar = true) (isListOf : data.normal.IsListOf inject domain) :
    data.IsListOf inject domain := by
  obtain ⟨xs, inside, same⟩ := isListOf
  obtain ⟨items, rfl, itemsSame⟩ := normal_eq_list same
  obtain ⟨originals, rfl, mapped⟩ := @normalItems_eq_map _ inject id
    (fun same => ⟨_, eq_of_normal_scalar same (scalar _), rfl⟩) _ _ itemsSame
  rw [List.map_id] at mapped
  exact ⟨originals, mapped ▸ inside, rfl⟩

theorem LeafData.of_normal {vmType : VMType} {data : Data} (leafData : LeafData vmType data.normal) :
    LeafData vmType data := by
  cases vmType <;>
    first
      | exact Data.IsOf.of_normal (fun _ => rfl) leafData
      | exact Data.IsListOf.of_normal (fun _ => rfl) leafData
      | exact leafData.elim

theorem normal_structs {data : Data} {schema : VMStructSchema} {structs : List VMDynamicStruct}
    (same : data.normal = .structArray ⟨schema, structs.map .struct⟩) :
    ∃ originals : List VMDynamicStruct, data = .structArray ⟨schema, originals.map .struct⟩ ∧
      originals.map VMDynamicStruct.normal = structs := by
  obtain ⟨items, rfl, itemsSame⟩ := normal_eq_structArray same
  obtain ⟨originals, rfl, mapped⟩ := normalItems_eq_map normal_eq_struct itemsSame
  exact ⟨originals, rfl, mapped⟩

theorem normal_fields_perm (fields : List VMNamedDynamicVariable) :
    (VMDynamicStruct.normal ⟨fields⟩).fields.Perm (fields.map VMNamedDynamicVariable.normal) := by
  rw [VMDynamicStruct.normal, normalFields_eq]
  exact sortFields_perm _

/-- Data is typed as its normal form is. -/
theorem Typed.of_normal {vmType : VMType} {schema : Option VMStructSchema} {result : Data}
    (typed : Typed vmType schema result) : ∀ {data : Data}, data.normal = result → Typed vmType schema data := by
  induction typed with
  | leaf leafData =>
    rintro data rfl
    exact .leaf leafData.of_normal
  | dynamic inner ih =>
    intro data same
    obtain ⟨⟨type, value⟩, rfl, rfl⟩ := normal_eq_variable same
    exact .dynamic (ih rfl)
  | dynamicArray each ih =>
    intro data same
    obtain ⟨items, rfl, itemsSame⟩ := normal_eq_list same
    obtain ⟨originals, rfl, rfl⟩ := normalItems_eq_map normal_eq_variable itemsSame
    refine .dynamicArray ?_
    rintro ⟨type, value⟩ member
    exact ih _ (List.mem_map_of_mem member) rfl
  | struct each ih =>
    intro data same
    obtain ⟨⟨fields⟩, rfl, rfl⟩ := normal_eq_struct same
    refine .struct ?_
    rintro ⟨name, type, value⟩ member
    exact ih _ ((normal_fields_perm fields).mem_iff.mpr (List.mem_map_of_mem member)) rfl
  | boundStruct declared others ih othersIh =>
    intro data same
    obtain ⟨⟨fields⟩, rfl, rfl⟩ := normal_eq_struct same
    have inNormal {field : VMNamedDynamicVariable} (member : field ∈ fields) :=
      (normal_fields_perm fields).mem_iff.mpr (List.mem_map_of_mem member)
    refine .boundStruct ?_ ?_
    · rintro declaration inSchema ⟨name, type, value⟩ member named typeSame
      exact ih declaration inSchema _ (inNormal member) named typeSame rfl
    · rintro ⟨name, type, value⟩ member unnamed
      exact othersIh _ (inNormal member) unnamed rfl
  | boundArray each ih =>
    intro data same
    obtain ⟨originals, rfl, rfl⟩ := normal_structs same
    exact .boundArray fun struct member => ih _ (List.mem_map_of_mem member) rfl
  | inlineArray publishable each ih =>
    intro data same
    obtain ⟨originals, rfl, rfl⟩ := normal_structs same
    exact .inlineArray publishable fun struct member => ih _ (List.mem_map_of_mem member) rfl

end PhantasmaPy.Carbon
