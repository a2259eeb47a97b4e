import PhantasmaPy.Json
import PhantasmaPy.Numerals

/-! # JSON values in conversions

What `bool`, `str`, `repr` and `int` make of a parsed JSON value, and the helpers of `rpc.py` that are built
on them.
-/

namespace PhantasmaPy

open Wire

/-- `str(number)` of a number that a conversion may have. -/
def intText (number : Int) : Str :=
  if number < 0 then 45 :: Interpreter.decimalText number.natAbs else Interpreter.decimalText number.natAbs

namespace Json

/-- Python's truth of a value. -/
def truthy : Json → Bool
  | null => false
  | bool value => value
  | int value => value ≠ 0
  | float text => text ≠ Str.ofString "0.0" && text ≠ Str.ofString "-0.0"
  | str text => text ≠ []
  | arr items => !items.isEmpty
  | obj entries => !entries.isEmpty

mutual

/-- `repr(value)`, given that of texts. -/
def repr (quote : Str → Str) : Json → Str
  | null => Str.ofString "None"
  | bool value => Str.ofString (if value then "True" else "False")
  | int value => intText value
  | float text => text
  | str text => quote text
  | arr items => Str.ofString "[" ++ List.intercalate (Str.ofString ", ") (reprItems quote items) ++ Str.ofString "]"
  | obj entries =>
    Str.ofString "\x7b" ++ List.intercalate (Str.ofString ", ") (reprEntries quote entries) ++ Str.ofString "\x7d"

def reprItems (quote : Str → Str) : List Json → List Str
  | [] => []
  | item :: items => item.repr quote :: reprItems quote items

def reprEntries (quote : Str → Str) : List (Str × Json) → List Str
  | [] => []
  | (name, value) :: entries => (quote name ++ Str.ofString ": " ++ value.repr quote) :: reprEntries quote entries

end

/-- `str(value)` -/
def toStr (quote : Str → Str) : Json → Str
  | str text => text
  | value => value.repr quote

end Json

/-- What the client uses from elsewhere: the interpreter, `int` of a float, the lower case of a text, the JSON
    parser and the text codecs. -/
structure RpcRuntime where
  interp : Interpreter
  floatInt : Str → Except PyError Int
  lower : Str → Str
  loads : Str → Except PyError Json
  decode : Str → Bytes → Except PyError Str

namespace RpcRuntime

variable (rt : RpcRuntime)

/-- `int(value)` -/
def int : Json → Except PyError Int
  | .null => .error .typeError
  | .bool value => .ok (if value then 1 else 0)
  | .int value => .ok value
  | .float text => rt.floatInt text
  | .str text => rt.interp.int text
  | .arr _ => .error .typeError
  | .obj _ => .error .typeError

/-- `_optional_int` -/
def optionalInt : Json → Except PyError (Option Int)
  | .null => .ok none
  | value =>
    match rt.int value with
    | .ok number => .ok (some number)
    | .error .typeError => .ok none
    | .error .valueError => .ok none
    | .error e => .error e

/-- `_coerce_int` -/
def coerceInt (value : Json) : Except PyError Int :=
  match rt.int value with
  | .error .typeError | .error .valueError =>
    .error (.rpcError (Str.ofString "expected integer-compatible RPC value, got " ++ value.repr rt.interp.repr))
  | result => result

/-- `_coerce_bool` -/
def coerceBool (value : Json) : Except PyError Bool :=
  let refused : Except PyError Bool :=
    .error (.rpcError (Str.ofString "expected boolean-compatible RPC value, got " ++ value.repr rt.interp.repr))
  match value with
  | .bool value => .ok value
  | .str text =>
    let lowered := rt.lower text
    if lowered = Str.ofString "true" ∨ lowered = Str.ofString "1" then .ok true
    else if lowered = Str.ofString "false" ∨ lowered = Str.ofString "0" then .ok false
    else refused
  | .int value => .ok (value ≠ 0)
  | _ => refused

end RpcRuntime

/-- `_optional_params`: the arguments without the `None`s at the end. -/
def optionalParams (values : List Json) : List Json :=
  values.rdropWhile fun value => match value with | .null => true | _ => false

/-! ## Numbers as texts -/

theorem intText_injective : Function.Injective intText := by
  intro left right same
  have unlimited (number : Int) : latin1.unlimited.str number = .ok (intText number) := by
    unfold Interpreter.str
    rw [if_neg fun long => long.1 rfl]
    rfl
  have read := Interpreter.int_str (unlimited left)
  rw [same] at read
  exact Except.ok.inj (read.symm.trans (Interpreter.int_str (unlimited right)))

end PhantasmaPy
