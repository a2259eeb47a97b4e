import PhantasmaPy.Wire.Put

/-! # Sizes of images

`Within low high` bounds the number of bytes of a writer that succeeds.  Its rules add up the bounds of
the fields of a record.
-/

namespace PhantasmaPy.Wire.Put

variable {ε α β : Type}

/-- Whatever the writer appends when it succeeds has between `low` and `high` bytes. -/
def Within (low high : Nat) (p : Put ε α) : Prop :=
  ∀ ⦃a out⦄, p.Emits a out → low ≤ out.length ∧ out.length ≤ high

variable {low high low' high' : Nat}

theorem Within.mono {p : Put ε α} (within : Within low high p) (lower : low' ≤ low)
    (higher : high ≤ high') : Within low' high' p := by
  intro a out emits
  obtain ⟨least, most⟩ := within emits
  omega

theorem Within.bind {p : Put ε α} {f : α → Put ε β} (first : Within low high p)
    (second : ∀ a, Within low' high' (f a)) : Within (low + low') (high + high') (p >>= f) := by
  intro b out emits
  obtain ⟨a, xs, ys, head, tail, rfl⟩ := emits_bind.mp emits
  have headBound := first head
  have tailBound := second a tail
  simp only [List.length_append]
  omega

theorem Within.seq {p : Put ε Unit} {q : Put ε β} (first : Within low high p)
    (second : Within low' high' q) : Within (low + low') (high + high') (do p; q) :=
  first.bind fun _ => second

theorem within_pure (a : α) : Within 0 0 (pure a : Put ε α) := by
  intro b out emits
  obtain ⟨-, rfl⟩ := emits_pure.mp emits
  simp

/-- What follows the writer appends nothing. -/
theorem Within.ending {p : Put ε α} {f : α → Put ε β} (first : Within low high p)
    (rest : ∀ a, Within 0 0 (f a)) : Within low high (p >>= f) :=
  first.bind rest

theorem within_tell (bs : Bytes) : Within bs.length bs.length (tell bs : Put ε Unit) := by
  intro a out emits
  obtain rfl := emits_tell.mp emits
  simp

/-- A checked value in front of what is written with it. -/
theorem Within.checked {result : Except ε α} {f : α → Put ε β}
    (within : ∀ a, result = .ok a → Within low high (f a)) : Within low high (check result >>= f) := by
  intro b out emits
  obtain ⟨a, accepted, written⟩ := emits_check_bind.mp emits
  exact within a accepted written

theorem Within.ite {condition : Prop} [Decidable condition] {p q : Put ε α}
    (left : condition → Within low high p) (right : ¬ condition → Within low high q) :
    Within low high (if condition then p else q) := by
  by_cases holds : condition
  · rw [if_pos holds]
    exact left holds
  · rw [if_neg holds]
    exact right holds

/-- The steps of a loop. -/
theorem Within.each {body : α → Put ε Unit} (within : ∀ a, Within low high (body a)) (xs : List α) :
    Within (low * xs.length) (high * xs.length) (Put.each body xs) := by
  induction xs with
  | nil => exact (within_pure ()).mono (by simp) (by simp)
  | cons x xs ih =>
    refine ((within x).seq ih).mono ?_ ?_ <;> simp [Nat.mul_add, Nat.add_comm]

end PhantasmaPy.Wire.Put
