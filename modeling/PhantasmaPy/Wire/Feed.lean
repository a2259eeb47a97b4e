import Mathlib.Data.List.Basic

/-! # Feeds that may fail

The items that an iterator hands out, which may break off with an error, and a loop over them whose rounds may
fail.  Such a loop takes no item after the round that failed.
-/

namespace PhantasmaPy.Wire

/-- The items of an iterator in order, and the error that it raises after them, if any. -/
structure Feed (ε α : Type) where
  items : List α
  failure : Option ε := none

namespace Feed

variable {ε α σ : Type} {step : σ → α → Except ε σ} {s s' : σ} {feed : Feed ε α}

/-- The loop over the items from a state on, with the number of items that it took. -/
def foldItems (step : σ → α → Except ε σ) (failure : Option ε) : σ → List α → Except ε σ × Nat
  | s, [] => (match failure with | none => .ok s | some e => .error e, 0)
  | s, item :: items =>
    match step s item with
    | .error e => (.error e, 1)
    | .ok s' =>
      let (result, taken) := foldItems step failure s' items
      (result, taken + 1)

def fold (step : σ → α → Except ε σ) (s : σ) (feed : Feed ε α) : Except ε σ × Nat :=
  foldItems step feed.failure s feed.items

/-- What a loop can come to: all rounds pass and the iterator ends, or breaks off, or one round fails. -/
inductive Folded (step : σ → α → Except ε σ) (s : σ) (feed : Feed ε α) : Except ε σ × Nat → Prop
  | finished {s' : σ} : feed.items.foldlM step s = .ok s' → feed.failure = none →
      Folded step s feed (.ok s', feed.items.length)
  | interrupted {s' : σ} {e : ε} : feed.items.foldlM step s = .ok s' → feed.failure = some e →
      Folded step s feed (.error e, feed.items.length)
  | stopped {before after : List α} {item : α} {s' : σ} {e : ε} : feed.items = before ++ item :: after →
      before.foldlM step s = .ok s' → step s' item = .error e →
      Folded step s feed (.error e, before.length + 1)

/-- A passed round is put in front of what the rest of the loop came to. -/
theorem Folded.cons {item : α} {items : List α} {failure : Option ε} {outcome : Except ε σ × Nat}
    (passed : step s item = .ok s') (rest : Folded step s' ⟨items, failure⟩ outcome) :
    Folded step s ⟨item :: items, failure⟩ (outcome.1, outcome.2 + 1) := by
  have first (xs : List α) : (item :: xs).foldlM step s = xs.foldlM step s' := by
    rw [List.foldlM_cons, passed]
    rfl
  cases rest with
  | finished ran ended => exact .finished ((first items).trans ran) ended
  | interrupted ran broken => exact .interrupted ((first items).trans ran) broken
  | @stopped before after last s'' e split ran failed =>
    have split : items = before ++ last :: after := split
    subst split
    exact .stopped rfl ((first before).trans ran) failed

theorem foldItems_folded (failure : Option ε) (items : List α) :
    Folded step s ⟨items, failure⟩ (foldItems step failure s items) := by
  induction items generalizing s with
  | nil =>
    cases failure with
    | none => exact .finished rfl rfl
    | some e => exact .interrupted rfl rfl
  | cons item items ih =>
    unfold foldItems
    cases round : step s item with
    | error e =>
      -- the first round fails, with nothing before it
      have split : item :: items = [] ++ item :: items := rfl
      have none : [].foldlM step s = .ok s := rfl
      exact .stopped split none round
    | ok s' => exact ih.cons round

theorem fold_folded (step : σ → α → Except ε σ) (s : σ) (feed : Feed ε α) :
    Folded step s feed (feed.fold step s) := foldItems_folded feed.failure feed.items

/-- What every passed round preserves holds of every state that the loop reaches, and of the items behind it. -/
theorem foldlM_ensures {inv : List α → σ → Prop}
    (next : ∀ seen item s s', inv seen s → step s item = .ok s' → inv (seen ++ [item]) s') {seen items : List α}
    (start : inv seen s) (ran : items.foldlM step s = .ok s') : inv (seen ++ items) s' := by
  -- on the items, with those before the loop got there as `seen`
  induction items generalizing s seen with
  | nil =>
    cases ran
    rwa [List.append_nil]
  | cons item items ih =>
    rw [List.foldlM_cons] at ran
    cases round : step s item with
    | error e =>
      rw [round] at ran
      cases ran
    | ok middle =>
      rw [round] at ran
      have rest := ih (next seen item s middle start round) ran
      rwa [List.append_assoc] at rest

end Feed

end PhantasmaPy.Wire
