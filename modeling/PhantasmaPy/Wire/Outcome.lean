import Mathlib.Data.List.Forall2

/-! # Outcomes of fallible steps

What a step that may fail makes of it: a condition on its result where it succeeds and one on its error
where it fails.  The conditions of a chain and of a traversal follow from those of their steps, and so do the
relations between the results of two chains.
-/

namespace PhantasmaPy.Wire

variable {ε α β : Type}

/-- A result of the step is good, and an error of the step is bad. -/
def Outcome (good : α → Prop) (bad : ε → Prop) : Except ε α → Prop
  | .ok a => good a
  | .error e => bad e

namespace Outcome

variable {good : α → Prop} {bad : ε → Prop}

theorem mono {good' : α → Prop} {bad' : ε → Prop} {step : Except ε α} (outcome : Outcome good bad step)
    (better : ∀ a, good a → good' a) (worse : ∀ e, bad e → bad' e) : Outcome good' bad' step := by
  cases step with
  | ok a => exact better a outcome
  | error e => exact worse e outcome

/-- The second step starts from a good result of the first. -/
theorem bind {good' : β → Prop} {bad' : ε → Prop} {step : Except ε α} {next : α → Except ε β}
    (first : Outcome good bad step) (worse : ∀ e, bad e → bad' e)
    (second : ∀ a, good a → Outcome good' bad' (next a)) : Outcome good' bad' (step >>= next) := by
  cases step with
  | ok a => exact second a first
  | error e => exact worse e first

theorem map {good' : β → Prop} {bad' : ε → Prop} {step : Except ε α} {f : α → β}
    (first : Outcome good bad step) (worse : ∀ e, bad e → bad' e) (better : ∀ a, good a → good' (f a)) :
    Outcome good' bad' (do return f (← step)) :=
  first.bind worse better

/-- A traversal relates every element to its result, or fails at one of the elements. -/
theorem mapM {related : α → β → Prop} {bad : α → ε → Prop} {f : α → Except ε β} {xs : List α}
    (each : ∀ x ∈ xs, Outcome (related x) (bad x) (f x)) :
    Outcome (List.Forall₂ related xs) (fun e => ∃ x ∈ xs, bad x e) (xs.mapM f) := by
  induction xs with
  | nil => exact .nil
  | cons x xs ih =>
    obtain ⟨first, rest⟩ := List.forall_mem_cons.mp each
    rw [List.mapM_cons]
    apply first.bind
    · intro e failed
      exact ⟨x, List.mem_cons_self, failed⟩
    · intro y held
      apply (ih rest).map
      · rintro e ⟨later, member, failed⟩
        exact ⟨later, List.mem_cons_of_mem x member, failed⟩
      · intro ys all
        exact .cons held all

end Outcome

/-! ## Related steps -/

/-- Where the first step succeeds, so does the second, with a related result. -/
def Follows (related : α → β → Prop) (first : Except ε α) (second : Except ε β) : Prop :=
  ∀ a, first = .ok a → ∃ b, second = .ok b ∧ related a b

namespace Follows

variable {γ δ : Type} {related : α → β → Prop} {first : Except ε α} {second : Except ε β}

theorem pure {a : α} {b : β} (held : related a b) :
    Follows related (Pure.pure a : Except ε α) (Pure.pure b : Except ε β) := by
  intro _ same
  obtain rfl := Except.ok.inj same
  exact ⟨b, rfl, held⟩

theorem error {e : ε} : Follows related (.error e) second := by
  intro _ same
  cases same

/-- Steps that follow each other from related results chain. -/
theorem bind {related' : γ → δ → Prop} {next : α → Except ε γ} {next' : β → Except ε δ}
    (follows : Follows related first second) (rest : ∀ a b, related a b → Follows related' (next a) (next' b)) :
    Follows related' (first >>= next) (second >>= next') := by
  intro c run
  cases first with
  | error e => cases run
  | ok a =>
    obtain ⟨b, rfl, held⟩ := follows a rfl
    exact rest a b held c run

/-- What is known of both results. -/
theorem results (follows : Follows related first second) {a : α} {b : β} (ran : first = .ok a)
    (ran' : second = .ok b) : related a b := by
  obtain ⟨_, same, held⟩ := follows a ran
  obtain rfl := Except.ok.inj (same.symm.trans ran')
  exact held

end Follows

/-- Steps for their effect succeed together when each of them does. -/
theorem forM_eq_ok {f : α → Except ε Unit} {xs : List α} : forM xs f = .ok () ↔ ∀ x ∈ xs, f x = .ok () := by
  induction xs with
  | nil => simp [pure, Except.pure]
  | cons x xs ih =>
    rw [List.forM_cons, List.forall_mem_cons, ← ih]
    cases f x with
    | error e => simp [bind, Except.bind]
    | ok => simp [bind, Except.bind]

/-- The first step that fails decides, whatever follows. -/
theorem forM_eq_error {f : α → Except ε Unit} {before after : List α} {x : α} {e : ε}
    (earlier : ∀ y ∈ before, f y = .ok ()) (failed : f x = .error e) : forM (before ++ x :: after) f = .error e := by
  rw [List.forM_append, forM_eq_ok.mpr earlier, List.forM_cons, failed]
  rfl

/-- A traversal succeeds when each of its steps does. -/
theorem mapM_eq_ok {f : α → Except ε β} {xs : List α} {ys : List β} :
    xs.mapM f = .ok ys ↔ List.Forall₂ (fun x y => f x = .ok y) xs ys := by
  induction xs generalizing ys with
  | nil => cases ys <;> simp [pure, Except.pure]
  | cons x xs ih =>
    rw [List.mapM_cons]
    cases step : f x with
    | error e => cases ys <;> simp [bind, Except.bind, step]
    | ok y =>
      cases rest : xs.mapM f with
      | error e =>
        have failed : ∀ ys, ¬ List.Forall₂ (fun x y => f x = .ok y) xs ys := by
          intro ys all
          cases rest.symm.trans (ih.mpr all)
        cases ys <;> simp [bind, Except.bind, step, failed]
      | ok results =>
        have same : ∀ ys, List.Forall₂ (fun x y => f x = .ok y) xs ys ↔ results = ys := by
          intro ys
          rw [← ih, rest]
          exact ⟨Except.ok.inj, congrArg Except.ok⟩
        cases ys <;> simp [bind, Except.bind, pure, Except.pure, step, same]

/-- A traversal raises the error of the first step that fails. -/
theorem mapM_eq_error {f : α → Except ε β} {xs : List α} {e : ε} :
    xs.mapM f = .error e ↔ ∃ before x after, xs = before ++ x :: after ∧
      (∀ earlier ∈ before, ∃ y, f earlier = .ok y) ∧ f x = .error e := by
  -- By induction on the list: the head either is the first step that fails or is put before those that ran.
  induction xs with
  | nil => simp [pure, Except.pure]
  | cons x xs ih =>
    rw [List.mapM_cons]
    cases step : f x with
    | error e' =>
      constructor
      · rintro ⟨⟩
        exact ⟨[], x, xs, rfl, by simp, step⟩
      · rintro ⟨before, y, after, split, fine, failed⟩
        cases before with
        | nil =>
          obtain ⟨rfl, -⟩ := List.cons.inj split
          cases step.symm.trans failed
          rfl
        | cons first before =>
          obtain ⟨rfl, -⟩ := List.cons.inj split
          obtain ⟨y, ran⟩ := fine x List.mem_cons_self
          rw [step] at ran
          contradiction
    | ok y =>
      have rest : (do let ys ← xs.mapM f; pure (y :: ys) : Except ε (List β)) = .error e ↔
          xs.mapM f = .error e := by
        cases xs.mapM f <;> simp [bind, Except.bind, pure, Except.pure]
      refine rest.trans (ih.trans ?_)
      constructor
      · rintro ⟨before, z, after, rfl, fine, failed⟩
        exact ⟨x :: before, z, after, rfl, List.forall_mem_cons.mpr ⟨⟨y, step⟩, fine⟩, failed⟩
      · rintro ⟨before, z, after, split, fine, failed⟩
        cases before with
        | nil =>
          obtain ⟨rfl, -⟩ := List.cons.inj split
          rw [step] at failed
          contradiction
        | cons first before =>
          obtain ⟨rfl, rfl⟩ := List.cons.inj split
          exact ⟨before, z, after, rfl, (List.forall_mem_cons.mp fine).2, failed⟩

theorem mapM_eq_some {f : α → Option β} {xs : List α} {ys : List β} :
    xs.mapM f = some ys ↔ List.Forall₂ (fun x y => f x = some y) xs ys := by
  induction xs generalizing ys with
  | nil => cases ys <;> simp
  | cons x xs ih =>
    rw [List.mapM_cons]
    cases ys with
    | nil => cases f x <;> cases xs.mapM f <;> simp
    | cons y ys =>
      rw [List.forall₂_cons, ← ih]
      cases f x <;> cases xs.mapM f <;> simp

/-- An element of the first list has a related one in the second. -/
theorem forall₂_exists_right {related : α → β → Prop} {xs : List α} {ys : List β}
    (all : List.Forall₂ related xs ys) {x : α} (member : x ∈ xs) : ∃ y ∈ ys, related x y := by
  induction all with
  | nil => cases member
  | cons head _ ih =>
    cases member with
    | head => exact ⟨_, List.mem_cons_self, head⟩
    | tail _ member =>
      obtain ⟨y, inside, held⟩ := ih member
      exact ⟨y, List.mem_cons_of_mem _ inside, held⟩

theorem forall₂_exists_left {related : α → β → Prop} {xs : List α} {ys : List β}
    (all : List.Forall₂ related xs ys) {y : β} (member : y ∈ ys) : ∃ x ∈ xs, related x y := by
  have flipped : List.Forall₂ (flip related) ys xs := all.flip
  exact forall₂_exists_right flipped member

end PhantasmaPy.Wire
