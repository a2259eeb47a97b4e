import PhantasmaPy.Wire.Fix

/-! # Metered readers

A reader that keeps a tally of its calls, also in a run that fails.  A metered reader erases to the plain reader
that it counts, and a call that consumes something for itself is paid for by the input, however often a loop in
its body repeats.
-/

namespace PhantasmaPy.Wire

/-- How many calls were begun, and how many of them have returned. -/
structure Tally where
  begun : Nat
  returned : Nat

/-- A reader over the bytes not yet consumed, with a tally of its calls. -/
abbrev Metered (ε α : Type) := StateT Bytes (ExceptT ε (StateM Tally)) α

namespace Metered

variable {ε α β : Type}

/-- What the reader does on an input, and the tally after it. -/
def exec (m : Metered ε α) (bs : Bytes) (tally : Tally) : Except ε (α × Bytes) × Tally :=
  ((m.run bs).run).run tally

/-- A reader without calls. -/
def lift (g : Get ε α) : Metered ε α := fun bs => ExceptT.mk (pure (g.run bs))

def count (change : Tally → Tally) : Metered ε Unit := fun bs =>
  ExceptT.mk fun tally => (.ok ((), bs), change tally)

/-- Count a call, at its begin and at its return. -/
def call (m : Metered ε α) : Metered ε α := do
  count fun tally => { tally with begun := tally.begun + 1 }
  let a ← m
  count fun tally => { tally with returned := tally.returned + 1 }
  return a

/-- Run a step `rounds` times from a start value. -/
def loop (step : β → Metered ε β) : Nat → β → Metered ε β
  | 0, acc => pure acc
  | rounds + 1, acc => do
    let acc ← step acc
    loop step rounds acc

@[simp] theorem exec_pure (a : α) (bs : Bytes) (tally : Tally) :
    exec (pure a : Metered ε α) bs tally = (.ok (a, bs), tally) := rfl

@[simp] theorem exec_lift (g : Get ε α) (bs : Bytes) (tally : Tally) :
    exec (lift g) bs tally = (g.run bs, tally) := rfl

@[simp] theorem exec_count (change : Tally → Tally) (bs : Bytes) (tally : Tally) :
    exec (count change : Metered ε Unit) bs tally = (.ok ((), bs), change tally) := rfl

theorem exec_bind (m : Metered ε α) (f : α → Metered ε β) (bs : Bytes) (tally : Tally) :
    exec (m >>= f) bs tally =
      match exec m bs tally with
      | (.ok (a, rest), tally') => exec (f a) rest tally'
      | (.error e, tally') => (.error e, tally') := by
  unfold exec
  rw [StateT.run_bind, ExceptT.run_bind, StateT.run_bind]
  rcases ((m.run bs).run).run tally with ⟨result, tally'⟩
  cases result <;> rfl

/-! ## Erasure -/

/-- Without its tally the metered reader is the plain one. -/
def Erases (m : Metered ε α) (g : Get ε α) : Prop := ∀ bs tally, (exec m bs tally).1 = g.run bs

theorem Erases.lift (g : Get ε α) : Erases (lift g) g := fun _ _ => rfl

theorem Erases.pure (a : α) : Erases (pure a : Metered ε α) (pure a) := fun _ _ => rfl

theorem Erases.bind {m : Metered ε α} {g : Get ε α} {f : α → Metered ε β} {k : α → Get ε β}
    (first : Erases m g) (second : ∀ a, Erases (f a) (k a)) : Erases (m >>= f) (g >>= k) := by
  intro bs tally
  have same := first bs tally
  rw [exec_bind, StateT.run_bind]
  rcases run : exec m bs tally with ⟨result, tally'⟩
  rw [run] at same
  rw [← same]
  cases result with
  | error e => rfl
  | ok result => exact second result.1 result.2 tally'

theorem Erases.call {m : Metered ε α} {g : Get ε α} (erases : Erases m g) : Erases (call m) g := by
  intro bs tally
  have same := erases bs { tally with begun := tally.begun + 1 }
  unfold Metered.call
  rw [exec_bind, exec_count]
  dsimp only
  rw [exec_bind]
  rcases run : exec m bs { tally with begun := tally.begun + 1 } with ⟨result, tally'⟩
  rw [run] at same
  rw [← same]
  cases result <;> rfl

theorem Erases.loop {step : β → Metered ε β} {step' : β → Get ε β} (erases : ∀ acc, Erases (step acc) (step' acc))
    (rounds : Nat) (acc : β) : Erases (loop step rounds acc) (Get.loop step' rounds acc) := by
  induction rounds generalizing acc with
  | zero => exact .pure acc
  | succ rounds ih => exact (erases acc).bind ih

/-! ## Calls paid for by the input -/

/-- The calls of a run are paid for by the bytes that it consumed; in one that fails, one more call may have begun
    than there are bytes. -/
def Settled (bs : Bytes) (tally : Tally) : Except ε (α × Bytes) × Tally → Prop
  | (.ok (_, rest), tally') => tally'.begun + rest.length ≤ tally.begun + bs.length ∧
      tally'.returned + rest.length ≤ tally.returned + bs.length
  | (.error _, tally') => tally'.begun ≤ tally.begun + bs.length + 1 ∧
      tally'.returned ≤ tally.returned + bs.length

def Paid (m : Metered ε α) : Prop := ∀ bs tally, Settled bs tally (exec m bs tally)

theorem Paid.lift {g : Get ε α} (shrinks : g.Shrinks) : Paid (lift g) := by
  intro bs tally
  rw [exec_lift]
  cases run : g.run bs with
  | error e => exact ⟨by omega, by omega⟩
  | ok result =>
    have shorter := shrinks (show g.Yields bs result.1 result.2 from run)
    exact ⟨by omega, by omega⟩

theorem Paid.pure (a : α) : Paid (pure a : Metered ε α) := fun _ _ => ⟨le_refl _, le_refl _⟩

/-- What a run has spent before adds to what the rest of it spends. -/
theorem Settled.after {bs mid : Bytes} {tally tally' : Tally} {a : α} {result : Except ε (β × Bytes) × Tally}
    (before : @Settled ε α bs tally (.ok (a, mid), tally'))
    (after : Settled mid tally' result) : Settled bs tally result := by
  obtain ⟨begun, returned⟩ := before
  obtain ⟨result, tally''⟩ := result
  cases result with
  | error e =>
    obtain ⟨begun', returned'⟩ := after
    exact ⟨by omega, by omega⟩
  | ok result =>
    obtain ⟨begun', returned'⟩ := after
    exact ⟨by omega, by omega⟩

theorem Paid.bind {m : Metered ε α} {f : α → Metered ε β} (first : Paid m) (second : ∀ a, Paid (f a)) :
    Paid (m >>= f) := by
  intro bs tally
  have before := first bs tally
  rw [exec_bind]
  rcases run : exec m bs tally with ⟨result, mid⟩
  rw [run] at before
  cases result with
  | error e => exact before
  | ok result => exact before.after (second result.1 result.2 mid)

theorem Paid.loop {step : β → Metered ε β} (paid : ∀ acc, Paid (step acc)) (rounds : Nat) (acc : β) :
    Paid (loop step rounds acc) := by
  induction rounds generalizing acc with
  | zero => exact .pure acc
  | succ rounds ih => exact (paid acc).bind ih

/-- A call that first consumes something pays for itself. -/
theorem Paid.call {g : Get ε α} {f : α → Metered ε β} (consumes : g.Consumes) (rest : ∀ a, Paid (f a)) :
    Paid (call (Metered.lift g >>= f)) := by
  intro bs tally
  unfold Metered.call
  rw [exec_bind, exec_count]
  dsimp only
  rw [exec_bind, exec_bind, exec_lift]
  cases run : g.run bs with
  | error e => exact ⟨by dsimp only; omega, by dsimp only; omega⟩
  | ok result =>
    obtain ⟨a, mid⟩ := result
    -- The byte that is consumed before the rest pays for the call itself.
    have shorter := consumes (show g.Yields bs a mid from run)
    have paid := rest a mid { tally with begun := tally.begun + 1 }
    dsimp only
    rcases run' : exec (f a) mid { tally with begun := tally.begun + 1 } with ⟨result', tally'⟩
    rw [run'] at paid
    cases result' with
    | error e =>
      obtain ⟨begun, returned⟩ := paid
      dsimp only at begun returned
      exact ⟨by omega, by omega⟩
    | ok result' =>
      obtain ⟨begun, returned⟩ := paid
      dsimp only at begun returned
      exact ⟨by dsimp only; omega, by dsimp only; omega⟩

/-- From an empty tally: no more calls return than there are bytes, and at most one more begins. -/
theorem Paid.total {m : Metered ε α} (paid : Paid m) (bs : Bytes) :
    (exec m bs ⟨0, 0⟩).2.begun ≤ bs.length + 1 ∧ (exec m bs ⟨0, 0⟩).2.returned ≤ bs.length := by
  have settled := paid bs ⟨0, 0⟩
  unfold Settled at settled
  split at settled
  next run =>
    rw [run]
    dsimp only at settled ⊢
    omega
  next run =>
    rw [run]
    dsimp only at settled ⊢
    omega

end Metered

end PhantasmaPy.Wire
