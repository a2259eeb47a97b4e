import PhantasmaPy.Rpc.Caller
import PhantasmaPy.Rpc.Queries
import PhantasmaPy.Rpc.ResultLaws

/-! # Answered queries

What a typed method returns for the result of its call, and what the node answered when the calls go over a network.
-/

namespace PhantasmaPy

open Wire

/-! ## Arguments -/

/-- A node that reads missing arguments as `null` gets the ones that were given. -/
theorem optionalParams_kept (values : List Json) (place : Nat) :
    (optionalParams values)[place]?.getD .null = values[place]?.getD .null := by
  unfold optionalParams
  induction values using List.reverseRecOn with
  | nil => rfl
  | append_singleton values value ih =>
    rw [List.rdropWhile_concat]
    cases value with
    | null =>
      rw [if_pos rfl, ih]
      rcases Nat.lt_trichotomy place values.length with inside | last | outside
      · rw [List.getElem?_append_left inside]
      · subst last
        rw [List.getElem?_concat_length, List.getElem?_eq_none le_rfl]
        rfl
      · rw [List.getElem?_eq_none outside.le, List.getElem?_eq_none (by simpa using outside)]
    | _ => rfl

/-! ## Lists -/

/-- The value is a list of instances of the class, and the JSON value stands for it; `null` does for none. -/
def ListRead (cls : ResultClass) (raw : Json) (value : ResultValue) : Prop :=
  ∃ raws, (raw = .arr raws ∨ raw = .null ∧ raws = []) ∧
    ReadFrom { item := .object cls, isList := true } (.arr raws) value

theorem decodeList_iff {cls : ResultClass} {raw : Json} {value : ResultValue} :
    decodeList cls raw = .ok value ↔ ListRead cls raw value := by
  have each : decodeDataclass cls = decodeItem (.object cls) := by
    funext raw
    rw [decodeItem]
  have array (raws : List Json) : decodeList cls (.arr raws) = .ok value ↔
      ReadFrom { item := .object cls, isList := true } (.arr raws) value := by
    rw [← decodeValue_iff, decodeValue_list Bool.noConfusion, Json.elements_arr, decodeList, each]
    rfl
  unfold ListRead
  cases raw with
  | null =>
    have none : decodeList cls .null = decodeList cls (.arr []) := rfl
    rw [none, array]
    simp
  | arr raws => simp [array]
  | _ => simp [decodeList]

/-! ## Scalars -/

/-- The JSON value is the number, or a text of its decimal digits, of which there are not too many. -/
inductive Json.IsNumber (rt : RpcRuntime) : Json → Int → Prop
  | int (number : Int) : IsNumber rt (.int number) number
  | digits {text : Str} {number : Nat} : rt.interp.Denotes text number → ¬ rt.interp.TooLong text.length →
      IsNumber rt (.str text) number
  | negative {text : Str} {number : Nat} : rt.interp.Denotes text number → ¬ rt.interp.TooLong text.length →
      IsNumber rt (.str (45 :: text)) (-number)

theorem Json.IsNumber.read {rt : RpcRuntime} {raw : Json} {number : Int} (given : raw.IsNumber rt number) :
    rt.coerceInt raw = .ok number := by
  have read : rt.int raw = .ok number := by
    cases given with
    | int number => rfl
    | digits denotes short =>
      obtain ⟨digits, some, values, length, rfl⟩ := denotes.length
      exact (Interpreter.int_digits some values).trans (if_neg (length ▸ short))
    | negative denotes short =>
      obtain ⟨digits, some, values, length, rfl⟩ := denotes.length
      exact (Interpreter.int_negative some values).trans (if_neg (length ▸ short))
  unfold RpcRuntime.coerceInt
  rw [read]

/-- The JSON value is the truth value, or its name or digit as a text, or a number that counts as it. -/
inductive Json.IsFlag (rt : RpcRuntime) : Json → Bool → Prop
  | bool (value : Bool) : IsFlag rt (.bool value) value
  | name {text : Str} {value : Bool} : rt.lower text = Str.ofString (if value then "true" else "false") →
      IsFlag rt (.str text) value
  | digit {text : Str} {value : Bool} : rt.lower text = Str.ofString (if value then "1" else "0") →
      IsFlag rt (.str text) value
  | zero : IsFlag rt (.int 0) false
  | nonzero {number : Int} : number ≠ 0 → IsFlag rt (.int number) true

theorem Json.IsFlag.read {rt : RpcRuntime} {raw : Json} {value : Bool} (given : raw.IsFlag rt value) :
    rt.coerceBool raw = .ok value := by
  cases given with
  | bool value => rfl
  | zero => rfl
  | nonzero some => simp [RpcRuntime.coerceBool, some]
  | name same =>
    unfold RpcRuntime.coerceBool
    dsimp only
    rw [same]
    cases value <;> rfl
  | digit same =>
    unfold RpcRuntime.coerceBool
    dsimp only
    rw [same]
    cases value <;> rfl

/-! ## Pages -/

/-- The entry under the first name, or under the second one. -/
def pageEntry (entries : List (Str × Json)) (name other : String) : Json :=
  (entries.lookup (Str.ofString name)).getD ((entries.lookup (Str.ofString other)).getD (.int 0))

/-- The numbers of the page are those of the object; what is not there is zero. -/
structure PaginatedResult.Numbered (rt : RpcRuntime) (page : PaginatedResult) (entries : List (Str × Json)) :
    Prop where
  number : ((entries.lookup (Str.ofString "page")).getD (.int 0)).IsNumber rt page.page
  size : (pageEntry entries "pageSize" "page_size").IsNumber rt page.pageSize
  total : ((entries.lookup (Str.ofString "total")).getD (.int 0)).IsNumber rt page.total
  pages : (pageEntry entries "totalPages" "total_pages").IsNumber rt page.totalPages

theorem PaginatedResult.Numbered.read {rt : RpcRuntime} {decode : Json → Except CallError ResultValue} {absent : Json}
    {entries : List (Str × Json)} {page : PaginatedResult} (numbered : page.Numbered rt entries)
    (result : decode ((entries.lookup (Str.ofString "result")).getD absent) = .ok page.result) :
    decodePage rt decode absent (.obj entries) = .ok page := by
  have number {raw : Json} {number : Int} (given : raw.IsNumber rt number) :
      (rt.coerceInt raw).mapError CallError.ofPyError = .ok number := mapError_eq_ok.mpr given.read
  refine except_bind_eq_ok.mpr ⟨page.page, number numbered.number, ?_⟩
  refine except_bind_eq_ok.mpr ⟨page.pageSize, number numbered.size, ?_⟩
  refine except_bind_eq_ok.mpr ⟨page.total, number numbered.total, ?_⟩
  refine except_bind_eq_ok.mpr ⟨page.totalPages, number numbered.pages, ?_⟩
  exact except_bind_eq_ok.mpr ⟨page.result, result, rfl⟩

/-- Where the list goes on, the object has the cursor as a text; where it ends, `null` or nothing. -/
def CursorPaginatedResult.Continued (page : CursorPaginatedResult) (entries : List (Str × Json)) : Prop :=
  Json.get entries (Str.ofString "cursor") = .ofText page.cursor

theorem CursorPaginatedResult.Continued.read {rt : RpcRuntime} {cls : ResultClass} {entries : List (Str × Json)}
    {page : CursorPaginatedResult} (continued : page.Continued entries)
    (listed : ListRead cls ((entries.lookup (Str.ofString "result")).getD (.arr [])) page.result) :
    decodeCursor rt cls (.obj entries) = .ok page := by
  obtain ⟨result, cursor⟩ := page
  refine except_bind_eq_ok.mpr ⟨result, decodeList_iff.mpr listed, ?_⟩
  rw [continued]
  cases cursor <;> rfl

/-! ## Answers -/

/-- The JSON value is the answer, for a method with this return type. -/
inductive Answers (rt : RpcRuntime) : Returns → Json → Answer → Prop
  | object {cls : ResultClass} {raw : Json} {value : ResultValue} :
      ReadFrom { item := .object cls } raw value → Answers rt (.object cls) raw (.value value)
  | list {cls : ResultClass} {raw : Json} {value : ResultValue} :
      ListRead cls raw value → Answers rt (.list cls) raw (.value value)
  | page {cls : ResultClass} {entries : List (Str × Json)} {page : PaginatedResult} : page.Numbered rt entries →
      ReadFrom { item := .object cls } ((entries.lookup (Str.ofString "result")).getD (.obj [])) page.result →
      Answers rt (.page cls) (.obj entries) (.page page)
  | listPage {cls : ResultClass} {entries : List (Str × Json)} {page : PaginatedResult} : page.Numbered rt entries →
      ListRead cls ((entries.lookup (Str.ofString "result")).getD (.arr [])) page.result →
      Answers rt (.listPage cls) (.obj entries) (.page page)
  | cursor {cls : ResultClass} {entries : List (Str × Json)} {page : CursorPaginatedResult} :
      page.Continued entries → ListRead cls ((entries.lookup (Str.ofString "result")).getD (.arr [])) page.result →
      Answers rt (.cursor cls) (.obj entries) (.cursor page)
  | int {raw : Json} {number : Int} : raw.IsNumber rt number → Answers rt .int raw (.int number)
  | bool {raw : Json} {value : Bool} : raw.IsFlag rt value → Answers rt .bool raw (.bool value)
  | str (text : Str) : Answers rt .str (.str text) (.str text)

theorem decodeDataclass_iff_readFrom {cls : ResultClass} {raw : Json} {value : ResultValue} :
    decodeDataclass cls raw = .ok value ↔ ReadFrom { item := .object cls } raw value := by
  rw [← decodeValue_iff, decodeValue_item Bool.noConfusion, decodeItem]

/-- What is an answer is decoded as it. -/
theorem Answers.decoded {rt : RpcRuntime} {returns : Returns} {raw : Json} {answer : Answer}
    (answers : Answers rt returns raw answer) : returns.decode rt raw = .ok answer := by
  cases answers with
  | object read => exact map_eq_ok.mpr ⟨_, decodeDataclass_iff_readFrom.mpr read, rfl⟩
  | list read => exact map_eq_ok.mpr ⟨_, decodeList_iff.mpr read, rfl⟩
  | page numbered read => exact map_eq_ok.mpr ⟨_, numbered.read (decodeDataclass_iff_readFrom.mpr read), rfl⟩
  | listPage numbered read => exact map_eq_ok.mpr ⟨_, numbered.read (decodeList_iff.mpr read), rfl⟩
  | cursor continued read => exact map_eq_ok.mpr ⟨_, continued.read read, rfl⟩
  | int given => exact map_eq_ok.mpr ⟨_, mapError_eq_ok.mpr given.read, rfl⟩
  | bool given => exact map_eq_ok.mpr ⟨_, mapError_eq_ok.mpr given.read, rfl⟩
  | str text => rfl

/-! ## Queries over the network -/

namespace Query

variable {σ : Type}

/-- The call that the query makes. -/
def Asks (self : Query) (method : Str) (params : List Json) : Prop := method = self.method ∧ params = self.params

end Query

end PhantasmaPy
