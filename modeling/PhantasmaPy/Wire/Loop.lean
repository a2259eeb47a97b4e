import Mathlib.Logic.Basic

/-! # Loops

A loop whose rounds go down along a measure, so that it ends, and the rule that carries an invariant through its
rounds to what it returns.
-/

namespace PhantasmaPy.Wire

/-- A round gives the next state or ends the loop with a result. -/
structure Loop (σ α : Type) where
  step : σ → σ ⊕ α
  measure : σ → Nat
  decreases : ∀ {s s'}, step s = .inl s' → measure s' < measure s

namespace Loop

variable {σ α : Type} {loop : Loop σ α} {s s' : σ} {a : α}

def run (loop : Loop σ α) (s : σ) : α :=
  match _next : loop.step s with
  | .inl s' => loop.run s'
  | .inr a => a
termination_by loop.measure s
decreasing_by exact loop.decreases _next

theorem run_next (next : loop.step s = .inl s') : loop.run s = loop.run s' := by
  rw [run]
  split
  next next' =>
    rw [next] at next'
    rw [Sum.inl.inj next']
  next done =>
    rw [next] at done
    contradiction

theorem run_done (done : loop.step s = .inr a) : loop.run s = a := by
  rw [run]
  split
  next next =>
    rw [done] at next
    contradiction
  next done' =>
    rw [done] at done'
    exact (Sum.inr.inj done').symm

/-- What every round preserves holds when the loop ends. -/
theorem run_ensures {inv : σ → Prop} {post : α → Prop} (next : ∀ s s', inv s → loop.step s = .inl s' → inv s')
    (done : ∀ s a, inv s → loop.step s = .inr a → post a) (start : inv s) : post (loop.run s) := by
  induction measured : loop.measure s using Nat.strongRecOn generalizing s with
  | _ bound ih =>
    cases round : loop.step s with
    | inl s' =>
      rw [run_next round]
      exact ih _ (measured ▸ loop.decreases round) (next s s' start round) rfl
    | inr a =>
      rw [run_done round]
      exact done s a start round

end Loop

end PhantasmaPy.Wire
