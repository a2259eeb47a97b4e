import PhantasmaPy.Wire.LittleEndian

/-! # Readers

A reader consumes a prefix of the bytes not yet read.  Three properties of a reader matter to the
formats built on it:

* `Parses`: the reader recognises one byte string in front of every suffix;
* `Local`: whenever it succeeds, it does so because of the bytes it consumed alone;
* `Steady`: bytes added at the end of the input never change a success, which also holds of
  readers that look at how much input remains.

Each is closed under the monad operations and under counted repetition.
-/

namespace PhantasmaPy.Wire

/-- A reader over the bytes not yet consumed. -/
abbrev Get (ε α : Type) := StateT Bytes (Except ε) α

namespace Get

variable {ε α β : Type}

/-- Consume `count` bytes, or fail with `e`. -/
def take (e : ε) (count : Nat) : Get ε Bytes := do
  let input ← get
  if count ≤ input.length then
    set (input.drop count)
    return input.take count
  else
    throw e

/-- The number of bytes not yet consumed. -/
def remaining : Get ε Nat := do
  let input ← get
  return input.length

/-- Continue with the result of a pure computation that may fail. -/
def check : Except ε α → Get ε α
  | .ok a => pure a
  | .error e => throw e

/-- Fail with `e` whatever the error of `g` was. -/
def failWith (e : ε) (g : Get ε α) : Get ε α := fun bs =>
  match g.run bs with
  | .ok result => .ok result
  | .error _ => .error e

/-- Run `item` `count` times and collect the results in order. -/
def times (item : Get ε α) : Nat → Get ε (List α)
  | 0 => pure []
  | count + 1 => do
    let head ← item
    let tail ← times item count
    return head :: tail

/-- On input `bs` the reader returns `a` and leaves `rest`. -/
def Yields (g : Get ε α) (bs : Bytes) (a : α) (rest : Bytes) : Prop := g.run bs = .ok (a, rest)

theorem Yields.unique {g : Get ε α} {bs rest rest' : Bytes} {a a' : α} (left : g.Yields bs a rest)
    (right : g.Yields bs a' rest') : a = a' ∧ rest = rest' := by
  unfold Yields at left right
  rw [left] at right
  injection right with equal
  exact Prod.mk.inj equal

@[simp] theorem yields_pure {a b : α} {bs rest : Bytes} :
    (pure a : Get ε α).Yields bs b rest ↔ a = b ∧ bs = rest := by
  change Except.ok (a, bs) = Except.ok (b, rest) ↔ _
  simp only [Except.ok.injEq, Prod.mk.injEq]

@[simp] theorem yields_throw {e : ε} {a : α} {bs rest : Bytes} :
    ¬ (throw e : Get ε α).Yields bs a rest := by
  intro yields
  cases yields

theorem yields_bind {g : Get ε α} {f : α → Get ε β} {bs rest : Bytes} {b : β} :
    (g >>= f).Yields bs b rest ↔ ∃ a mid, g.Yields bs a mid ∧ (f a).Yields mid b rest := by
  unfold Yields
  rw [StateT.run_bind]
  cases first : g.run bs with
  | error e =>
    constructor
    · intro yields
      cases yields
    · rintro ⟨a, mid, yields, _⟩
      cases yields
  | ok result =>
    obtain ⟨a, mid⟩ := result
    constructor
    · intro yields
      exact ⟨a, mid, rfl, yields⟩
    · rintro ⟨a', mid', same, yields⟩
      cases same
      exact yields

@[simp] theorem yields_take {e : ε} {count : Nat} {bs out rest : Bytes} :
    (take e count).Yields bs out rest ↔
      count ≤ bs.length ∧ out = bs.take count ∧ rest = bs.drop count := by
  by_cases enough : count ≤ bs.length
  · have run : (take e count).run bs = .ok (bs.take count, bs.drop count) := by
      simp only [take, StateT.run_bind, StateT.run_get, pure_bind, if_pos enough]
      rfl
    simp only [Yields, run, Except.ok.injEq, Prod.mk.injEq, enough, true_and, eq_comm]
  · have run : (take e count).run bs = .error e := by
      simp only [take, StateT.run_bind, StateT.run_get, pure_bind, if_neg enough]
      rfl
    simp only [Yields, run, enough, false_and, reduceCtorEq]

@[simp] theorem yields_remaining {bs rest : Bytes} {n : Nat} :
    (remaining : Get ε Nat).Yields bs n rest ↔ n = bs.length ∧ rest = bs := by
  change Except.ok (bs.length, bs) = Except.ok (n, rest) ↔ _
  simp only [Except.ok.injEq, Prod.mk.injEq, eq_comm]

@[simp] theorem yields_check {result : Except ε α} {bs rest : Bytes} {a : α} :
    (check result).Yields bs a rest ↔ result = .ok a ∧ bs = rest := by
  cases result with
  | error e => simp [check]
  | ok b => simp [check]

@[simp] theorem yields_failWith {e : ε} {g : Get ε α} {bs rest : Bytes} {a : α} :
    (failWith e g).Yields bs a rest ↔ g.Yields bs a rest := by
  change (match g.run bs with | .ok result => Except.ok result | .error _ => .error e) = _ ↔ g.run bs = _
  cases g.run bs with
  | error e' => simp
  | ok result => rfl

/-! ## Recognising one byte string -/

/-- The reader recognises `out` as `a`, whatever follows it. -/
def Parses (g : Get ε α) (out : Bytes) (a : α) : Prop := ∀ rest, g.Yields (out ++ rest) a rest

theorem Parses.yields {g : Get ε α} {out : Bytes} {a : α} (parses : g.Parses out a) :
    g.Yields out a [] := by
  simpa using parses []

theorem Parses.pure (a : α) : (pure a : Get ε α).Parses [] a := by
  intro rest
  simp

theorem Parses.bind {g : Get ε α} {f : α → Get ε β} {xs ys : Bytes} {a : α} {b : β}
    (first : g.Parses xs a) (second : (f a).Parses ys b) : (g >>= f).Parses (xs ++ ys) b := by
  intro rest
  rw [List.append_assoc]
  exact yields_bind.mpr ⟨a, ys ++ rest, first _, second rest⟩

theorem Parses.bind_nil {g : Get ε α} {f : α → Get ε β} {xs : Bytes} {a : α} {b : β}
    (first : g.Parses xs a) (second : (f a).Parses [] b) : (g >>= f).Parses xs b := by
  simpa using first.bind second

/-- The rule for a reader whose last step only builds the result. -/
theorem Parses.map {g : Get ε α} {xs : Bytes} {a : α} (parses : g.Parses xs a) (f : α → β) :
    (g >>= fun a => Pure.pure (f a)).Parses xs (f a) :=
  parses.bind_nil (Parses.pure _)

theorem Parses.take (e : ε) (bs : Bytes) : (take e bs.length).Parses bs bs := by
  intro rest
  simp

theorem Parses.check {result : Except ε α} {a : α} (ok : result = .ok a) :
    (Get.check result).Parses [] a := by
  intro rest
  simp [ok]

/-- What a reader recognises in front of every suffix is not ambiguous. -/
theorem Parses.split {g : Get ε α} {xs ys zs ws : Bytes} {a b : α} (left : g.Parses xs a)
    (right : g.Parses ys b) (same : xs ++ zs = ys ++ ws) : a = b ∧ xs = ys ∧ zs = ws := by
  have first := left zs
  rw [same] at first
  obtain ⟨value, tails⟩ := first.unique (right ws)
  subst tails
  exact ⟨value, List.append_cancel_right same, rfl⟩

/-- Repetition recognises the concatenation of what the item recognises. -/
theorem Parses.times {item : Get ε α} {images : List Bytes} {xs : List α}
    (items : List.Forall₂ item.Parses images xs) :
    (times item xs.length).Parses images.flatten xs := by
  induction items with
  | nil => exact Parses.pure []
  | cons head _ ih => exact head.bind (ih.map (List.cons _))

/-! ## Locality -/

/-- Every success is explained by the consumed bytes alone. -/
def Local (g : Get ε α) : Prop :=
  ∀ ⦃bs a rest⦄, g.Yields bs a rest → ∃ out, bs = out ++ rest ∧ g.Parses out a

theorem Local.pure (a : α) : (pure a : Get ε α).Local := by
  intro bs b rest yields
  obtain ⟨rfl, rfl⟩ := yields_pure.mp yields
  exact ⟨[], rfl, Parses.pure a⟩

theorem Local.throw (e : ε) : (throw e : Get ε α).Local := by
  intro bs a rest yields
  exact absurd yields yields_throw

theorem Local.bind {g : Get ε α} {f : α → Get ε β} (first : g.Local)
    (second : ∀ a, (f a).Local) : (g >>= f).Local := by
  intro bs b rest yields
  obtain ⟨a, mid, head, tail⟩ := yields_bind.mp yields
  obtain ⟨xs, rfl, parsesHead⟩ := first head
  obtain ⟨ys, rfl, parsesTail⟩ := second a tail
  exact ⟨xs ++ ys, by rw [List.append_assoc], parsesHead.bind parsesTail⟩

theorem Local.take (e : ε) (count : Nat) : (take e count).Local := by
  intro bs out rest yields
  obtain ⟨enough, rfl, rfl⟩ := yields_take.mp yields
  have length : (bs.take count).length = count := by simp [enough]
  refine ⟨bs.take count, (List.take_append_drop count bs).symm, ?_⟩
  have parses := Parses.take e (bs.take count)
  rwa [length] at parses

theorem Local.check (result : Except ε α) : (check result).Local := by
  cases result with
  | error e => exact Local.throw e
  | ok a => exact Local.pure a

theorem Local.ite {condition : Prop} [Decidable condition] {g h : Get ε α} (left : g.Local)
    (right : h.Local) : (if condition then g else h).Local := by
  split
  · exact left
  · exact right

theorem Local.times {item : Get ε α} (isLocal : item.Local) (count : Nat) :
    (times item count).Local := by
  induction count with
  | zero => exact Local.pure []
  | succ count ih => exact isLocal.bind fun _ => ih.bind fun _ => Local.pure _

/-! ## Steadiness -/

/-- The reader consumes a prefix, and more input at the end does not change a success. -/
structure Steady (g : Get ε α) : Prop where
  suffix : ∀ ⦃bs a rest⦄, g.Yields bs a rest → ∃ out, bs = out ++ rest
  extend : ∀ ⦃bs a rest⦄, g.Yields bs a rest → ∀ more, g.Yields (bs ++ more) a (rest ++ more)

theorem Local.steady {g : Get ε α} (isLocal : g.Local) : g.Steady where
  suffix bs a rest yields := by
    obtain ⟨out, equal, _⟩ := isLocal yields
    exact ⟨out, equal⟩
  extend bs a rest yields more := by
    obtain ⟨out, rfl, parses⟩ := isLocal yields
    rw [List.append_assoc]
    exact parses _

theorem Steady.bind {g : Get ε α} {f : α → Get ε β} (first : g.Steady)
    (second : ∀ a, (f a).Steady) : (g >>= f).Steady where
  suffix bs b rest yields := by
    obtain ⟨a, mid, head, tail⟩ := yields_bind.mp yields
    obtain ⟨xs, rfl⟩ := first.suffix head
    obtain ⟨ys, rfl⟩ := (second a).suffix tail
    exact ⟨xs ++ ys, by rw [List.append_assoc]⟩
  extend bs b rest yields more := by
    obtain ⟨a, mid, head, tail⟩ := yields_bind.mp yields
    exact yields_bind.mpr ⟨a, mid ++ more, first.extend head more, (second a).extend tail more⟩

theorem Steady.times {item : Get ε α} (steady : item.Steady) (count : Nat) :
    (Get.times item count).Steady := by
  induction count with
  | zero => exact (Local.pure []).steady
  | succ count ih => exact steady.bind fun _ => ih.bind fun _ => (Local.pure _).steady

/-- A reader that accepted all its input recognises that input. -/
theorem Steady.parses {g : Get ε α} (steady : g.Steady) {bs : Bytes} {a : α}
    (whole : g.Yields bs a []) : g.Parses bs a := by
  intro rest
  exact steady.extend whole rest

/-- Items that are converted one by one as they are read. -/
theorem yields_times_check {item : Get ε α} {convert : α → Except ε β} {count : Nat} {bs rest : Bytes}
    {ys : List β} : (times (item >>= fun a => Get.check (convert a)) count).Yields bs ys rest ↔
      ∃ xs, (times item count).Yields bs xs rest ∧ List.Forall₂ (fun x y => convert x = .ok y) xs ys := by
  induction count generalizing bs ys with
  | zero =>
    constructor
    · intro yields
      obtain ⟨rfl, rfl⟩ := yields_pure.mp yields
      exact ⟨[], yields_pure.mpr ⟨rfl, rfl⟩, .nil⟩
    · rintro ⟨xs, yields, related⟩
      obtain ⟨rfl, rfl⟩ := yields_pure.mp yields
      cases related
      exact yields_pure.mpr ⟨rfl, rfl⟩
  | succ count ih =>
    constructor
    · intro yields
      obtain ⟨y, mid, first, later⟩ := yields_bind.mp yields
      obtain ⟨ys', rest', tail, last⟩ := yields_bind.mp later
      obtain ⟨rfl, rfl⟩ := yields_pure.mp last
      obtain ⟨x, mid', read, converted⟩ := yields_bind.mp first
      obtain ⟨made, rfl⟩ := yields_check.mp converted
      obtain ⟨xs, reads, related⟩ := ih.mp tail
      exact ⟨x :: xs, yields_bind.mpr ⟨x, _, read, yields_bind.mpr ⟨xs, _, reads, yields_pure.mpr ⟨rfl, rfl⟩⟩⟩,
        .cons made related⟩
    · rintro ⟨xs, yields, related⟩
      obtain ⟨x, mid, read, later⟩ := yields_bind.mp yields
      obtain ⟨xs', rest', reads, last⟩ := yields_bind.mp later
      obtain ⟨rfl, rfl⟩ := yields_pure.mp last
      cases related with
      | @cons _ y _ ys' made related =>
        exact yields_bind.mpr ⟨y, mid, yields_bind.mpr ⟨x, mid, read, yields_check.mpr ⟨made, rfl⟩⟩,
          yields_bind.mpr ⟨ys', _, ih.mpr ⟨xs', reads, related⟩, yields_pure.mpr ⟨rfl, rfl⟩⟩⟩

/-! ## Postconditions -/

/-- Every result satisfies the postcondition. -/
def Ensures (g : Get ε α) (post : α → Prop) : Prop := ∀ ⦃bs a rest⦄, g.Yields bs a rest → post a

theorem Ensures.pure {post : α → Prop} {a : α} (holds : post a) : (pure a : Get ε α).Ensures post := by
  intro bs b rest yields
  obtain ⟨rfl, -⟩ := yields_pure.mp yields
  exact holds

theorem Ensures.throw (e : ε) (post : α → Prop) : (throw e : Get ε α).Ensures post := by
  intro bs a rest yields
  exact absurd yields yields_throw

theorem Ensures.bind {g : Get ε α} {f : α → Get ε β} {mid : α → Prop} {post : β → Prop}
    (first : g.Ensures mid) (second : ∀ a, mid a → (f a).Ensures post) : (g >>= f).Ensures post := by
  intro bs b rest yields
  obtain ⟨a, left, head, tail⟩ := yields_bind.mp yields
  exact second a (first head) tail

/-- What is read first need not be known. -/
theorem Ensures.after {g : Get ε α} {f : α → Get ε β} {post : β → Prop}
    (second : ∀ a, (f a).Ensures post) : (g >>= f).Ensures post := by
  intro bs b rest yields
  obtain ⟨a, left, -, tail⟩ := yields_bind.mp yields
  exact second a tail

theorem Ensures.map {g : Get ε α} {f : α → β} {mid : α → Prop} {post : β → Prop} (first : g.Ensures mid)
    (step : ∀ a, mid a → post (f a)) : (do return f (← g) : Get ε β).Ensures post :=
  first.bind fun a holds => Ensures.pure (step a holds)

theorem Ensures.times {item : Get ε α} {post : α → Prop} (each : item.Ensures post) (count : Nat) :
    (Get.times item count).Ensures fun xs => xs.length = count ∧ ∀ x ∈ xs, post x := by
  induction count with
  | zero => exact Ensures.pure ⟨rfl, by simp⟩
  | succ count ih =>
    refine each.bind fun head holds => ih.bind fun tail ⟨length, all⟩ => Ensures.pure ⟨?_, ?_⟩
    · rw [List.length_cons, length]
    · exact List.forall_mem_cons.mpr ⟨holds, all⟩

end Get

end PhantasmaPy.Wire
