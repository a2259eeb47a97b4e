import PhantasmaPy.Wire.Codec

/-! # Recursive readers

A reader for nested data calls itself on what follows the bytes it already consumed.  `Get.fix`
bounds the nesting by the length of the input; for a body that consumes something before each
recursive call the bound is never met, so the reader satisfies its own recursion equation.  The readers
of a mutual recursion are one reader with an index.
-/

namespace PhantasmaPy.Wire.Get

variable {ε α β : Type}

/-- The reader never leaves more than it was given. -/
def Shrinks (g : Get ε α) : Prop := ∀ ⦃bs a rest⦄, g.Yields bs a rest → rest.length ≤ bs.length

theorem Steady.shrinks {g : Get ε α} (steady : g.Steady) : g.Shrinks := by
  intro bs a rest yields
  obtain ⟨out, rfl⟩ := steady.suffix yields
  rw [List.length_append]
  omega

theorem Local.shrinks {g : Get ε α} (isLocal : g.Local) : g.Shrinks := isLocal.steady.shrinks

theorem Consumes.shrinks {g : Get ε α} (consumes : g.Consumes) : g.Shrinks :=
  fun _ _ _ yields => (consumes yields).le

theorem Shrinks.bind {g : Get ε α} {f : α → Get ε β} (first : g.Shrinks)
    (second : ∀ a, (f a).Shrinks) : (g >>= f).Shrinks := by
  intro bs b rest yields
  obtain ⟨a, mid, head, tail⟩ := yields_bind.mp yields
  exact (second a tail).trans (first head)

theorem Consumes.bind_shrinks {g : Get ε α} {f : α → Get ε β} (first : g.Consumes)
    (second : ∀ a, (f a).Shrinks) : (g >>= f).Consumes := by
  intro bs b rest yields
  obtain ⟨a, mid, head, tail⟩ := yields_bind.mp yields
  exact (second a tail).trans_lt (first head)

theorem Shrinks.bind_consumes {g : Get ε α} {f : α → Get ε β} (first : g.Shrinks)
    (second : ∀ a, (f a).Consumes) : (g >>= f).Consumes := by
  intro bs b rest yields
  obtain ⟨a, mid, head, tail⟩ := yields_bind.mp yields
  exact (second a tail).trans_le (first head)

theorem Shrinks.times {item : Get ε α} (shrinks : item.Shrinks) (count : Nat) :
    (Get.times item count).Shrinks := by
  induction count with
  | zero => exact (Local.pure []).shrinks
  | succ count ih => exact shrinks.bind fun _ => ih.bind fun _ => (Local.pure _).shrinks

/-- Run a step `count` times from a start value, as a loop that updates an accumulator. -/
def loop (step : β → Get ε β) : Nat → β → Get ε β
  | 0, acc => pure acc
  | count + 1, acc => do
    let acc ← step acc
    loop step count acc

theorem Shrinks.loop {step : β → Get ε β} (shrinks : ∀ acc, (step acc).Shrinks) (count : Nat) (acc : β) :
    (Get.loop step count acc).Shrinks := by
  induction count generalizing acc with
  | zero => exact (Local.pure acc).shrinks
  | succ count ih => exact (shrinks acc).bind fun acc => ih acc

/-! ## Agreement on short inputs -/

/-- The readers do the same on every input shorter than `n`. -/
def EqBelow (n : Nat) (f g : Get ε α) : Prop := ∀ ⦃bs : Bytes⦄, bs.length < n → f.run bs = g.run bs

theorem EqBelow.refl (n : Nat) (g : Get ε α) : EqBelow n g g := fun _ _ => rfl

theorem EqBelow.mono {n m : Nat} {f g : Get ε α} (agree : EqBelow n f g) (le : m ≤ n) :
    EqBelow m f g := fun _ short => agree (short.trans_le le)

theorem run_bind_congr {g g' : Get ε α} {k k' : α → Get ε β} {bs : Bytes}
    (first : g.run bs = g'.run bs)
    (second : ∀ a mid, g.Yields bs a mid → (k a).run mid = (k' a).run mid) :
    (g >>= k).run bs = (g' >>= k').run bs := by
  rw [StateT.run_bind, StateT.run_bind, ← first]
  cases run : g.run bs with
  | error e => rfl
  | ok result => exact second result.1 result.2 run

theorem EqBelow.bind {n : Nat} {g g' : Get ε α} {k k' : α → Get ε β} (first : EqBelow n g g')
    (shrinks : g.Shrinks) (second : ∀ a, EqBelow n (k a) (k' a)) :
    EqBelow n (g >>= k) (g' >>= k') := fun _ short =>
  run_bind_congr (first short) fun a _ yields => second a ((shrinks yields).trans_lt short)

/-- After a reader that consumes something, agreement is needed on shorter inputs only. -/
theorem EqBelow.consume {n : Nat} {g : Get ε α} {k k' : α → Get ε β} (consumes : g.Consumes)
    (second : ∀ a, EqBelow n (k a) (k' a)) : EqBelow (n + 1) (g >>= k) (g >>= k') := fun _ short =>
  run_bind_congr rfl fun a _ yields => second a (by have shorter := consumes yields; omega)

theorem EqBelow.times {n : Nat} {f g : Get ε α} (agree : EqBelow n f g) (shrinks : f.Shrinks)
    (count : Nat) : EqBelow n (Get.times f count) (Get.times g count) := by
  induction count with
  | zero => exact EqBelow.refl n _
  | succ count ih =>
    exact agree.bind shrinks fun _ => ih.bind (shrinks.times count) fun _ => EqBelow.refl n _

theorem EqBelow.loop {n : Nat} {f g : β → Get ε β} (agree : ∀ acc, EqBelow n (f acc) (g acc))
    (shrinks : ∀ acc, (f acc).Shrinks) (count : Nat) (acc : β) :
    EqBelow n (Get.loop f count acc) (Get.loop g count acc) := by
  induction count generalizing acc with
  | zero => exact EqBelow.refl n _
  | succ count ih => exact (agree acc).bind (shrinks acc) fun acc => ih acc

/-! ## The fixed point -/

section Fix

variable {κ : Type}

/-- The body with `depth` levels of recursive calls, the last of which fail with `e`. -/
def iterate (e : ε) (body : (κ → Get ε α) → κ → Get ε α) : Nat → κ → Get ε α
  | 0, _ => throw e
  | depth + 1, k => body (iterate e body depth) k

/-- The recursive readers, one for each `k`; no more levels are needed than there are bytes, and
    one. -/
def fix (e : ε) (body : (κ → Get ε α) → κ → Get ε α) (k : κ) : Get ε α := fun bs =>
  iterate e body (bs.length + 1) k bs

/-- A postcondition that the body preserves holds of the recursive readers. -/
theorem fix_ensures {e : ε} {body : (κ → Get ε α) → κ → Get ε α} {post : κ → α → Prop}
    (ensures : ∀ g : κ → Get ε α, (∀ k, (g k).Ensures (post k)) → ∀ k, (body g k).Ensures (post k)) (k : κ) :
    (fix e body k).Ensures (post k) := by
  have levels (depth : Nat) : ∀ k, (iterate e body depth k).Ensures (post k) := by
    induction depth with
    | zero => exact fun _ => Ensures.throw e _
    | succ depth ih => exact ensures _ ih
  intro bs a rest yields
  exact levels _ k yields

/-- The body consumes something before each recursive call. -/
structure Guarded (body : (κ → Get ε α) → κ → Get ε α) : Prop where
  shrinks : ∀ g, (∀ k, (g k).Shrinks) → ∀ k, (body g k).Shrinks
  agrees : ∀ n f g, (∀ k, (f k).Shrinks) → (∀ k, (g k).Shrinks) → (∀ k, EqBelow n (f k) (g k)) →
    ∀ k, EqBelow (n + 1) (body f k) (body g k)

namespace Guarded

variable {e : ε} {body : (κ → Get ε α) → κ → Get ε α}

theorem iterate_shrinks (guarded : Guarded body) (depth : Nat) :
    ∀ k, (iterate e body depth k).Shrinks := by
  induction depth with
  | zero => exact fun _ => (Local.throw e).shrinks
  | succ depth ih => exact guarded.shrinks _ ih

theorem iterate_agree (guarded : Guarded body) (n m : Nat) :
    ∀ k, EqBelow (min n m) (iterate e body n k) (iterate e body m k) := by
  induction n generalizing m with
  | zero =>
    intro k bs short
    omega
  | succ n ih =>
    cases m with
    | zero =>
      intro k bs short
      omega
    | succ m =>
      rw [Nat.succ_min_succ]
      exact guarded.agrees _ _ _ (guarded.iterate_shrinks n) (guarded.iterate_shrinks m) (ih m)

/-- Every depth above the length of the input gives the same run. -/
theorem fix_run (guarded : Guarded body) {bs : Bytes} {depth : Nat} (deep : bs.length < depth) (k : κ) :
    (fix e body k).run bs = (iterate e body depth k).run bs :=
  guarded.iterate_agree (bs.length + 1) depth k (by omega)

theorem fix_shrinks (guarded : Guarded body) (k : κ) : (fix e body k).Shrinks := fun bs _ _ yields =>
  guarded.iterate_shrinks (bs.length + 1) k yields

/-- The recursion equation. -/
theorem fix_eq (guarded : Guarded body) (k : κ) : fix e body k = body (fix e body) k := by
  funext bs
  refine guarded.agrees bs.length _ _ (guarded.iterate_shrinks _) guarded.fix_shrinks ?_ k
    (Nat.lt_succ_self _)
  intro k shorter short
  exact (guarded.fix_run short k).symm

/-- The error that stands for the bound does not matter, because the bound is never met. -/
theorem fix_eq_fix (guarded : Guarded body) (e e' : ε) (k : κ) : fix e body k = fix e' body k := by
  have agree (n : Nat) : ∀ k, EqBelow n (fix e body k) (fix e' body k) := by
    induction n with
    | zero =>
      intro k bs short
      omega
    | succ n ih =>
      intro k
      rw [guarded.fix_eq, guarded.fix_eq]
      exact guarded.agrees n _ _ guarded.fix_shrinks guarded.fix_shrinks ih k
  funext bs
  exact agree (bs.length + 1) k (Nat.lt_succ_self _)

end Guarded

end Fix

end PhantasmaPy.Wire.Get
