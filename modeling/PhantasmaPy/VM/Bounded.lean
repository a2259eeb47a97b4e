import PhantasmaPy.VM.ObjectLaws
import PhantasmaPy.Wire.Metered

/-! # What decoding costs

`VMObject.read` with a tally of its calls: however many entries the headers claim, the calls and the
decoded objects are bounded by the length of the input, and so are the entries of every struct.
-/

namespace PhantasmaPy.VM

open Wire Wire.Get

namespace VMObject

/-! ## The metered decoder -/

/-- `readItem` over a metered decoder. -/
def meteredItem (read : Metered PyError VMObject) (items : List (VMObject × VMObject)) :
    Metered PyError (List (VMObject × VMObject)) := do
  let key ← read
  let value ← read
  Metered.lift (Get.check (setItem items key value))

/-- What follows the type in `readBody`, over a metered decoder for nested objects. -/
def meteredRest (read : Metered PyError VMObject) (type : VMType) : Metered PyError VMObject :=
  match type with
  | .STRUCT => do
    let count ← Metered.lift readVarUint
    let items ← Metered.loop (meteredItem read) count.toNat []
    return struct items
  | type => Metered.lift (readPlain type)

/-- One call of the decoder with `depth` levels of nested ones. -/
def meteredLevels : Nat → Metered PyError VMObject
  | 0 => Metered.lift (throw .recursionError)
  | depth + 1 => Metered.call do
    let type ← Metered.lift VMType.read
    meteredRest (meteredLevels depth) type

/-- `VMObject.read` with a tally. -/
def meteredRead (bs : Bytes) : Except PyError (VMObject × Bytes) × Tally :=
  Metered.exec (meteredLevels (bs.length + 1)) bs ⟨0, 0⟩

theorem meteredItem_erases {metered : Metered PyError VMObject} {read : Reader VMObject}
    (erases : Metered.Erases metered read) (items : List (VMObject × VMObject)) :
    Metered.Erases (meteredItem metered items) (readItem read items) :=
  erases.bind fun _ => erases.bind fun _ => .lift _

theorem meteredLevels_erases (depth : Nat) :
    Metered.Erases (meteredLevels depth) (Get.iterate .recursionError readBody depth ()) := by
  induction depth with
  | zero => exact .lift _
  | succ depth ih =>
    refine .call ((Metered.Erases.lift VMType.read).bind fun type => ?_)
    cases type with
    | STRUCT =>
      refine (Metered.Erases.lift readVarUint).bind fun count => ?_
      exact (Metered.Erases.loop (meteredItem_erases ih) _ _).bind fun _ => .pure _
    | _ => exact .lift _

theorem meteredItem_paid {metered : Metered PyError VMObject} (paid : metered.Paid)
    (items : List (VMObject × VMObject)) : (meteredItem metered items).Paid :=
  paid.bind fun _ => paid.bind fun _ => .lift (Local.check _).shrinks

theorem meteredLevels_paid (depth : Nat) : (meteredLevels depth).Paid := by
  induction depth with
  | zero => exact .lift (Local.throw _).shrinks
  | succ depth ih =>
    refine .call VMType.read_consumes fun type => ?_
    have plain := Metered.Paid.lift (readPlain_shrinks type)
    cases type with
    | STRUCT =>
      refine (Metered.Paid.lift readVarUint_local.shrinks).bind fun count => ?_
      exact (Metered.Paid.loop (meteredItem_paid ih) _ _).bind fun _ => .pure _
    | _ => exact plain

theorem meteredRead_erases (bs : Bytes) : (meteredRead bs).1 = read.run bs :=
  meteredLevels_erases (bs.length + 1) bs ⟨0, 0⟩

/-! ## Sizes of the structs -/

/-- The objects inside an object: itself, and those inside its keys and values. -/
inductive Part : VMObject → VMObject → Prop where
  | self (object : VMObject) : Part object object
  | key {data : List (VMObject × VMObject)} {item : VMObject × VMObject} {object : VMObject}
      (member : item ∈ data) (part : Part item.1 object) : Part (struct data) object
  | value {data : List (VMObject × VMObject)} {item : VMObject × VMObject} {object : VMObject}
      (member : item ∈ data) (part : Part item.2 object) : Part (struct data) object

/-- The structs inside an object have at most half as many entries as there are bytes. -/
def Fits (bytes : Nat) (self : VMObject) : Prop := ∀ data, Part self (struct data) → 2 * data.length ≤ bytes

theorem read_consumes : read.Consumes := by
  rw [read_eq]
  refine VMType.read_consumes.bind_shrinks fun type => ?_
  have plain := readPlain_shrinks type
  cases type with
  | STRUCT =>
    exact readVarUint_local.shrinks.bind fun count =>
      (Get.Shrinks.loop (readItem_shrinks read_shrinks) _ _).bind fun _ => (Get.Local.pure _).shrinks
  | _ => exact plain

theorem setItem_length {items items' : List (VMObject × VMObject)} {key value : VMObject}
    (stored : setItem items key value = .ok items') : items'.length ≤ items.length + 1 := by
  unfold setItem at stored
  split at stored
  next =>
    cases stored
    split
    next => simp
    next => simp
  next => cases stored

/-- What holds of the entries before and of the new key and value holds of the entries after. -/
theorem setItem_holds {holds : VMObject → Prop} {items items' : List (VMObject × VMObject)} {key value : VMObject}
    (stored : setItem items key value = .ok items') (forKey : holds key) (forValue : holds value)
    (before : ∀ item ∈ items, holds item.1 ∧ holds item.2) : ∀ item ∈ items', holds item.1 ∧ holds item.2 := by
  unfold setItem at stored
  split at stored
  next =>
    cases stored
    split
    next =>
      intro item member
      obtain ⟨old, oldMember, rfl⟩ := List.mem_map.mp member
      split
      next => exact ⟨(before old oldMember).1, forValue⟩
      next => exact before old oldMember
    next =>
      intro item member
      rcases List.mem_append.mp member with old | new
      · exact before item old
      · rw [List.mem_singleton.mp new]
        exact ⟨forKey, forValue⟩
  next => cases stored

/-- Every round of the loop costs two bytes and adds at most one entry. -/
theorem loop_bound {holds : VMObject → Prop} {bound : Nat}
    (each : ∀ bs object rest, bs.length < bound → read.Yields bs object rest → holds object) (count : Nat)
    {acc items : List (VMObject × VMObject)} {bs rest : Bytes} (short : bs.length < bound)
    (yields : (Get.loop (readItem read) count acc).Yields bs items rest)
    (before : ∀ item ∈ acc, holds item.1 ∧ holds item.2) :
    items.length ≤ acc.length + count ∧ rest.length + 2 * count ≤ bs.length ∧
      ∀ item ∈ items, holds item.1 ∧ holds item.2 := by
  induction count generalizing acc bs with
  | zero =>
    obtain ⟨rfl, rfl⟩ := yields_pure.mp yields
    exact ⟨le_refl _, le_refl _, before⟩
  | succ count ih =>
    obtain ⟨acc', after, round, later⟩ := yields_bind.mp yields
    obtain ⟨key, mid, readKey, round⟩ := yields_bind.mp round
    obtain ⟨value, after', readValue, round⟩ := yields_bind.mp round
    obtain ⟨stored, rfl⟩ := yields_check.mp round
    -- Each of the two objects takes a byte, which pays for the round.
    have shorter := read_consumes readKey
    have shorter' := read_consumes readValue
    have entries := setItem_holds stored (each bs key mid short readKey)
      (each mid value _ (by omega) readValue) before
    obtain ⟨length, consumed, holdsAll⟩ := ih (by omega) later entries
    have added := setItem_length stored
    exact ⟨by omega, by omega, holdsAll⟩

theorem Fits.mono {bytes bytes' : Nat} {self : VMObject} (fits : Fits bytes self) (le : bytes ≤ bytes') :
    Fits bytes' self := fun data part => (fits data part).trans le

/-- Only a struct has parts other than itself. -/
theorem fits_plain {bytes : Nat} {self : VMObject} (plain : ∀ data, self ≠ struct data) : Fits bytes self := by
  intro data part
  cases part with
  | self => exact absurd rfl (plain data)
  | key member part => exact absurd rfl (plain _)
  | value member part => exact absurd rfl (plain _)

theorem fits_struct {bytes : Nat} {data : List (VMObject × VMObject)} (length : 2 * data.length ≤ bytes)
    (entries : ∀ item ∈ data, Fits bytes item.1 ∧ Fits bytes item.2) : Fits bytes (struct data) := by
  intro inner part
  cases part with
  | self => exact length
  | key member part => exact (entries _ member).1 inner part
  | value member part => exact (entries _ member).2 inner part

theorem readPlain_ensures {bytes : Nat} (type : VMType) (notStruct : type ≠ .STRUCT) :
    (readPlain type).Ensures (Fits bytes) := by
  have leaf {α : Type} {g : Reader α} {f : α → VMObject} (plain : ∀ a data, f a ≠ struct data) :
      (g >>= fun a => (pure (f a) : Reader VMObject)).Ensures (Fits bytes) :=
    Ensures.after fun a => Ensures.pure (fits_plain (plain a))
  cases type with
  | NONE => exact Ensures.pure (fits_plain nofun)
  | BOOL => exact leaf nofun
  | BYTES => exact leaf nofun
  | ENUM => exact leaf nofun
  | NUMBER => exact leaf nofun
  | STRING => exact leaf nofun
  | TIMESTAMP => exact leaf nofun
  | OBJECT =>
    refine Ensures.after fun payload => ?_
    split
    next => exact Ensures.pure (fits_plain nofun)
    next => exact Ensures.pure (fits_plain nofun)
  | STRUCT => exact absurd rfl notStruct

/-- What a struct's header claims is what the entries after it cost. -/
theorem rest_struct {bs rest : Bytes} {object : VMObject} {count : Int} {mid : Bytes}
    (header : readVarUint.Yields bs count mid)
    (yields : (do
      let count ← readVarUint
      let items ← Get.loop (readItem read) count.toNat []
      return struct items : Reader VMObject).Yields bs object rest) :
    ∃ items, object = struct items ∧ (Get.loop (readItem read) count.toNat []).Yields mid items rest := by
  obtain ⟨count', mid', header', yields⟩ := yields_bind.mp yields
  obtain ⟨rfl, rfl⟩ := header.unique header'
  obtain ⟨items, rest', loop, yields⟩ := yields_bind.mp yields
  obtain ⟨rfl, rfl⟩ := yields_pure.mp yields
  exact ⟨items, rfl, loop⟩

/-- Induction on the length of the input: a key or a value is read from a shorter one. -/
theorem read_fits {bs rest : Bytes} {object : VMObject} (yields : read.Yields bs object rest) :
    Fits bs.length object := by
  induction length : bs.length using Nat.strong_induction_on generalizing bs rest object with
  | _ bound ih =>
    rw [read_eq] at yields
    obtain ⟨type, tail, tag, yields⟩ := yields_bind.mp yields
    have shorter := VMType.read_consumes tag
    by_cases isStruct : type = .STRUCT
    · subst isStruct
      obtain ⟨count, mid, header, later⟩ := yields_bind.mp yields
      have shrinks := readVarUint_local.shrinks header
      obtain ⟨items, rfl, loop⟩ := rest_struct header yields
      have each (bs : Bytes) (object : VMObject) (rest : Bytes) (short : bs.length < bound)
          (nested : read.Yields bs object rest) : Fits bound object := (ih _ short nested rfl).mono short.le
      obtain ⟨few, consumed, entries⟩ := loop_bound each count.toNat (by omega) loop nofun
      -- The entries are at most as many as the rounds, and the rounds cost two bytes each.
      rw [List.length_nil] at few
      exact fits_struct (by omega) entries
    · have plain := @readPlain_ensures bound type isStruct
      cases type with
      | STRUCT => exact absurd rfl isStruct
      | _ => exact plain yields

/-- A header that claims more entries than half of the bytes after it. -/
theorem overclaimed {tail rest : Bytes} {count : Int} (header : readVarUint.Yields tail count rest)
    (claims : rest.length < 2 * count) (object : VMObject) (rest' : Bytes) :
    ¬ read.Yields (VMType.STRUCT.toByte :: tail) object rest' := by
  intro yields
  rw [read_eq] at yields
  obtain ⟨type, tail', tag, yields⟩ := yields_bind.mp yields
  obtain ⟨rfl, rfl⟩ := tag.unique (VMType.read_parses .STRUCT tail)
  obtain ⟨items, rfl, loop⟩ := rest_struct header yields
  obtain ⟨few, consumed, entries⟩ := @loop_bound (fun _ => True) (rest.length + 1) (fun _ _ _ _ _ => trivial)
    count.toNat [] items rest rest' (Nat.lt_succ_self _) loop nofun
  omega

/-- Whatever the headers claim, decoding terminates: the bound on the nesting is never met, the calls are counted
    by the bytes, and so are the decoded objects and the entries of every struct among them. -/
theorem decoding_bounded (bs : Bytes) :
    (∀ e, read = Get.fix e readBody ()) ∧
      (meteredRead bs).1 = read.run bs ∧
      (meteredRead bs).2.begun ≤ bs.length + 1 ∧
      (meteredRead bs).2.returned ≤ bs.length ∧
      (∀ object rest, read.Yields bs object rest →
        ∀ data, Part object (struct data) → 2 * data.length ≤ bs.length) ∧
      ∀ tail count rest, bs = VMType.STRUCT.toByte :: tail → readVarUint.Yields tail count rest →
        rest.length < 2 * count → ∀ object rest', ¬ read.Yields bs object rest' := by
  obtain ⟨begun, returned⟩ := (meteredLevels_paid (bs.length + 1)).total bs
  refine ⟨fun e => readBody_guarded.fix_eq_fix _ e (), meteredRead_erases bs, begun, returned, ?_, ?_⟩
  · intro object rest yields
    exact read_fits yields
  · intro tail count rest same header claims object rest'
    rw [same]
    exact overclaimed header claims object rest'

end VMObject

end PhantasmaPy.VM
