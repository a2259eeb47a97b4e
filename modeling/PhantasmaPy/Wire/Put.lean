import PhantasmaPy.Wire.LittleEndian

/-! # Writers

A writer returns a value or fails, and in both cases has appended some bytes.  `Emits` states what
a successful run of a writer produces; its rules follow the monad operations, so a proof about a
`do` block is read off the block.
-/

namespace PhantasmaPy.Wire

/-- A run of a writer: its result or an error, and the bytes it appended. -/
inductive Put (ε α : Type) where
  | wrote (result : α) (out : Bytes)
  | failed (error : ε) (out : Bytes)

namespace Put

variable {ε α β : Type}

/-- Run `p`, then the writer that its result selects. -/
def andThen : Put ε α → (α → Put ε β) → Put ε β
  | failed e xs, _ => failed e xs
  | wrote a xs, f =>
    match f a with
    | failed e ys => failed e (xs ++ ys)
    | wrote b ys => wrote b (xs ++ ys)

instance : Monad (Put ε) where
  pure a := wrote a []
  bind := andThen

instance : LawfulMonad (Put ε) := LawfulMonad.mk' _
  (fun p => by cases p <;> simp [Functor.map, andThen])
  (fun a f => by
    change andThen (wrote a []) f = f a
    cases step : f a <;> simp [andThen, step])
  (fun p f g => by
    change andThen (andThen p f) g = andThen p fun a => andThen (f a) g
    cases p with
    | failed e xs => rfl
    | wrote a xs =>
      cases step : f a with
      | failed e ys => simp [andThen, step]
      | wrote b ys => cases next : g b <;> simp [andThen, step, next])

instance : MonadExceptOf ε (Put ε) where
  throw e := failed e []
  tryCatch p handler :=
    match p with
    | failed e xs => andThen (wrote () xs) fun _ => handler e
    | wrote a xs => wrote a xs

/-- Append `bs`. -/
def tell (bs : Bytes) : Put ε Unit := wrote () bs

/-- Continue with the result of a pure computation that may fail. -/
def check : Except ε α → Put ε α
  | .ok a => wrote a []
  | .error e => failed e []

/-- Run the body on every element in order. -/
def each (body : α → Put ε Unit) : List α → Put ε Unit
  | [] => pure ()
  | x :: xs => do
    body x
    each body xs

/-- The bytes that a writer appends, or its error. -/
def bytes : Put ε α → Except ε Bytes
  | wrote _ out => .ok out
  | failed e _ => .error e

/-- The writer returns `a` and appends exactly `out`. -/
def Emits (p : Put ε α) (a : α) (out : Bytes) : Prop := p = wrote a out

/-- The writer fails with `e`. -/
def Fails (p : Put ε α) (e : ε) : Prop := ∃ out, p = failed e out

theorem Emits.unique {p : Put ε α} {a b : α} {xs ys : Bytes} (left : p.Emits a xs)
    (right : p.Emits b ys) : a = b ∧ xs = ys := by
  unfold Emits at left right
  rw [left] at right
  injection right with result out
  exact ⟨result, out⟩

theorem Emits.bytes {p : Put ε α} {a : α} {out : Bytes} (emits : p.Emits a out) :
    p.bytes = .ok out := by
  unfold Emits at emits
  rw [emits, Put.bytes]

theorem emits_of_bytes {p : Put ε α} {out : Bytes} (written : p.bytes = .ok out) :
    ∃ a, p.Emits a out := by
  cases p with
  | failed e out' => cases written
  | wrote a out' =>
    cases written
    exact ⟨a, rfl⟩

theorem bytes_eq_ok {p : Put ε Unit} {out : Bytes} : p.bytes = .ok out ↔ p.Emits () out := by
  constructor
  · intro written
    obtain ⟨_, emits⟩ := emits_of_bytes written
    exact emits
  · exact Emits.bytes

theorem Fails.bytes {p : Put ε α} {e : ε} (fails : p.Fails e) : p.bytes = .error e := by
  obtain ⟨out, rfl⟩ := fails
  rfl

theorem Fails.not_emits {p : Put ε α} {e : ε} {a : α} {out : Bytes} (fails : p.Fails e) :
    ¬ p.Emits a out := by
  intro emits
  obtain ⟨_, rfl⟩ := fails
  cases emits

/-- Every run either fails or emits. -/
theorem fails_or_emits (p : Put ε α) : (∃ e, p.Fails e) ∨ ∃ a out, p.Emits a out := by
  cases p with
  | failed e out => exact .inl ⟨e, out, rfl⟩
  | wrote a out => exact .inr ⟨a, out, rfl⟩

/-! ## Rules -/

@[simp] theorem emits_pure {a b : α} {out : Bytes} :
    (pure a : Put ε α).Emits b out ↔ a = b ∧ out = [] := by
  constructor
  · intro emits
    cases emits
    exact ⟨rfl, rfl⟩
  · rintro ⟨rfl, rfl⟩
    rfl

@[simp] theorem emits_tell {bs out : Bytes} :
    (tell bs : Put ε Unit).Emits () out ↔ out = bs := by
  constructor
  · intro emits
    cases emits
    rfl
  · rintro rfl
    rfl

@[simp] theorem emits_throw {e : ε} {a : α} {out : Bytes} :
    ¬ (throw e : Put ε α).Emits a out := by
  intro emits
  cases emits

@[simp] theorem emits_check {result : Except ε α} {a : α} {out : Bytes} :
    (check result).Emits a out ↔ result = .ok a ∧ out = [] := by
  cases result with
  | error e => constructor <;> (intro h; cases h; try contradiction)
  | ok b =>
    constructor
    · intro emits
      cases emits
      exact ⟨rfl, rfl⟩
    · rintro ⟨equal, rfl⟩
      cases equal
      rfl

theorem emits_bind {p : Put ε α} {f : α → Put ε β} {b : β} {out : Bytes} :
    (p >>= f).Emits b out ↔
      ∃ a xs ys, p.Emits a xs ∧ (f a).Emits b ys ∧ out = xs ++ ys := by
  change (p.andThen f).Emits b out ↔ _
  cases p with
  | failed e _ =>
    constructor
    · intro emits
      cases emits
    · rintro ⟨a, xs, ys, first, _⟩
      cases first
  | wrote a xs =>
    cases second : f a with
    | failed e _ =>
      simp only [andThen, second]
      constructor
      · intro emits
        cases emits
      · rintro ⟨a', xs', ys, first, rest, _⟩
        cases first
        rw [second] at rest
        cases rest
    | wrote b' ys =>
      simp only [andThen, second]
      constructor
      · intro emits
        cases emits
        exact ⟨a, xs, ys, rfl, second, rfl⟩
      · rintro ⟨a', xs', ys', first, rest, rfl⟩
        cases first
        rw [second] at rest
        cases rest
        rfl

theorem Emits.bind {p : Put ε α} {f : α → Put ε β} {a : α} {b : β} {xs ys : Bytes}
    (first : p.Emits a xs) (second : (f a).Emits b ys) : (p >>= f).Emits b (xs ++ ys) :=
  emits_bind.mpr ⟨a, xs, ys, first, second, rfl⟩

/-- The rule for a statement followed by another, where the first returns nothing. -/
theorem emits_seq {p : Put ε Unit} {q : Put ε β} {b : β} {out : Bytes} :
    (p >>= fun _ => q).Emits b out ↔
      ∃ xs ys, p.Emits () xs ∧ q.Emits b ys ∧ out = xs ++ ys := by
  rw [emits_bind]
  constructor
  · rintro ⟨_, xs, ys, first, second, rfl⟩
    exact ⟨xs, ys, first, second, rfl⟩
  · rintro ⟨xs, ys, first, second, rfl⟩
    exact ⟨(), xs, ys, first, second, rfl⟩

/-- Two statements have an image when both of them have. -/
theorem seq_written {p : Put ε Unit} {q : Put ε β} {b : β} : (∃ out, (p >>= fun _ => q).Emits b out) ↔
    (∃ out, p.Emits () out) ∧ ∃ out, q.Emits b out := by
  constructor
  · rintro ⟨_, emits⟩
    obtain ⟨xs, ys, first, second, -⟩ := emits_seq.mp emits
    exact ⟨⟨xs, first⟩, ys, second⟩
  · rintro ⟨⟨xs, first⟩, ys, second⟩
    exact ⟨_, first.bind second⟩

/-- The rule for a pure computation that may fail in front of a writer. -/
theorem emits_check_bind {result : Except ε α} {f : α → Put ε β} {b : β} {out : Bytes} :
    (check result >>= f).Emits b out ↔ ∃ a, result = .ok a ∧ (f a).Emits b out := by
  rw [emits_bind]
  simp only [emits_check]
  constructor
  · rintro ⟨a, _, ys, ⟨ok, rfl⟩, second, rfl⟩
    exact ⟨a, ok, second⟩
  · rintro ⟨a, ok, second⟩
    exact ⟨a, [], out, ⟨ok, rfl⟩, second, rfl⟩

theorem Fails.bind {p : Put ε α} {f : α → Put ε β} {e : ε} (fails : p.Fails e) :
    (p >>= f).Fails e := by
  obtain ⟨out, rfl⟩ := fails
  exact ⟨out, rfl⟩

theorem Emits.bind_fails {p : Put ε α} {f : α → Put ε β} {a : α} {xs : Bytes} {e : ε}
    (first : p.Emits a xs) (second : (f a).Fails e) : (p >>= f).Fails e := by
  unfold Emits at first
  obtain ⟨ys, second⟩ := second
  refine ⟨xs ++ ys, ?_⟩
  change p.andThen f = _
  rw [first, andThen, second]

theorem Fails.unique {p : Put ε α} {e e' : ε} (left : p.Fails e) (right : p.Fails e') : e = e' := by
  obtain ⟨_, rfl⟩ := left
  obtain ⟨_, same⟩ := right
  injection same

theorem fails_bind {p : Put ε α} {f : α → Put ε β} {e : ε} :
    (p >>= f).Fails e ↔ p.Fails e ∨ ∃ a xs, p.Emits a xs ∧ (f a).Fails e := by
  constructor
  · intro fails
    rcases fails_or_emits p with ⟨e', first⟩ | ⟨a, xs, first⟩
    · obtain rfl := first.bind.unique fails
      exact .inl first
    · refine .inr ⟨a, xs, first, ?_⟩
      rcases fails_or_emits (f a) with ⟨e', second⟩ | ⟨b, ys, second⟩
      · obtain rfl := (first.bind_fails second).unique fails
        exact second
      · exact absurd (first.bind second) fails.not_emits
  · rintro (first | ⟨a, xs, first, second⟩)
    · exact first.bind
    · exact first.bind_fails second

@[simp] theorem fails_throw {e e' : ε} : (throw e : Put ε α).Fails e' ↔ e = e' := by
  constructor
  · rintro ⟨_, same⟩
    cases same
    rfl
  · rintro rfl
    exact ⟨[], rfl⟩

@[simp] theorem fails_check {result : Except ε α} {e : ε} :
    (check result).Fails e ↔ result = .error e := by
  cases result with
  | error e' =>
    constructor
    · rintro ⟨_, same⟩
      cases same
      rfl
    · intro same
      cases same
      exact ⟨[], rfl⟩
  | ok a =>
    constructor
    · rintro ⟨_, same⟩
      cases same
    · intro same
      cases same

theorem not_fails_tell {bs : Bytes} {e : ε} : ¬ (tell bs : Put ε Unit).Fails e := by
  rintro ⟨_, same⟩
  cases same

theorem not_fails_pure {a : α} {e : ε} : ¬ (pure a : Put ε α).Fails e := by
  rintro ⟨_, same⟩
  cases same

theorem Emits.not_fails {p : Put ε α} {e : ε} {a : α} {out : Bytes} (emits : p.Emits a out) :
    ¬ p.Fails e := fun fails => fails.not_emits emits

@[simp] theorem emits_each_nil {body : α → Put ε Unit} {out : Bytes} :
    (each body []).Emits () out ↔ out = [] := by
  simp only [each, emits_pure, true_and]

theorem emits_each_cons {body : α → Put ε Unit} {x : α} {xs : List α} {out : Bytes} :
    (each body (x :: xs)).Emits () out ↔
      ∃ first rest, (body x).Emits () first ∧ (each body xs).Emits () rest ∧
        out = first ++ rest := by
  rw [each, emits_seq]

/-- A run over a list that succeeds does so on every element. -/
theorem emits_each_mem {body : α → Put ε Unit} {xs : List α} {out : Bytes} (emits : (each body xs).Emits () out) :
    ∀ x ∈ xs, ∃ out, (body x).Emits () out := by
  induction xs generalizing out with
  | nil => simp
  | cons x xs ih =>
    obtain ⟨first, rest, head, tail, -⟩ := emits_each_cons.mp emits
    rw [List.forall_mem_cons]
    exact ⟨⟨first, head⟩, ih tail⟩

theorem each_map (body : β → Put ε Unit) (f : α → β) (xs : List α) :
    each body (xs.map f) = each (fun x => body (f x)) xs := by
  induction xs with
  | nil => rfl
  | cons x xs ih => rw [List.map_cons, each, each, ih]

/-- A loop whose body always succeeds appends the concatenation of what its steps append. -/
theorem emits_each {body : α → Put ε Unit} {image : α → Bytes} {xs : List α}
    (emits : ∀ x ∈ xs, (body x).Emits () (image x)) :
    (each body xs).Emits () (xs.flatMap image) := by
  induction xs with
  | nil => exact emits_each_nil.mpr rfl
  | cons x xs ih =>
    rw [emits_each_cons]
    refine ⟨_, _, emits x List.mem_cons_self, ih ?_, rfl⟩
    intro y member
    exact emits y (List.mem_cons_of_mem _ member)

/-- A run over a list succeeds if its body does so on every element. -/
theorem emits_each_exists {body : α → Put ε Unit} {xs : List α} (emits : ∀ x ∈ xs, ∃ out, (body x).Emits () out) :
    ∃ out, (each body xs).Emits () out := by
  induction xs with
  | nil => exact ⟨[], emits_each_nil.mpr rfl⟩
  | cons x xs ih =>
    obtain ⟨first, head⟩ := emits x List.mem_cons_self
    obtain ⟨rest, tail⟩ := ih fun y member => emits y (List.mem_cons_of_mem _ member)
    exact ⟨first ++ rest, emits_each_cons.mpr ⟨first, rest, head, tail, rfl⟩⟩

theorem each_congr {body other : α → Put ε Unit} {xs : List α} (same : ∀ x ∈ xs, body x = other x) :
    each body xs = each other xs := by
  induction xs with
  | nil => rfl
  | cons x xs ih =>
    rw [each, each, same x List.mem_cons_self, ih fun y member => same y (List.mem_cons_of_mem _ member)]

/-- A run over a list fails on the first of its elements on which its body does. -/
theorem fails_each {body : α → Put ε Unit} {xs : List α} {e : ε} :
    (each body xs).Fails e ↔ ∃ before x after, xs = before ++ x :: after ∧
      (∀ y ∈ before, ∃ out, (body y).Emits () out) ∧ (body x).Fails e := by
  induction xs with
  | nil =>
    constructor
    · exact fun fails => absurd fails not_fails_pure
    · rintro ⟨before, x, after, split, -⟩
      simp at split
  | cons x xs ih =>
    rw [each, fails_bind]
    constructor
    · rintro (first | ⟨_, out, head, rest⟩)
      · exact ⟨[], x, xs, rfl, by simp, first⟩
      · obtain ⟨before, y, after, rfl, emits, fails⟩ := ih.mp rest
        exact ⟨x :: before, y, after, rfl, List.forall_mem_cons.mpr ⟨⟨out, head⟩, emits⟩, fails⟩
    · rintro ⟨before, y, after, split, emits, fails⟩
      cases before with
      | nil =>
        obtain ⟨rfl, -⟩ := List.cons.inj split
        exact .inl fails
      | cons z before =>
        obtain ⟨rfl, rfl⟩ := List.cons.inj split
        obtain ⟨⟨out, head⟩, emits⟩ := List.forall_mem_cons.mp emits
        exact .inr ⟨(), out, head, ih.mpr ⟨before, y, after, rfl, emits, fails⟩⟩

/-- If no image of an element starts with the image of another, the image of a list tells its order. -/
theorem each_order {body : α → Put ε Unit} {xs ys : List α} (perm : xs.Perm ys)
    (apart : ∀ x ∈ xs, ∀ y ∈ xs, ∀ first second rest other : Bytes, (body x).Emits () first →
      (body y).Emits () second → first ++ rest = second ++ other → x = y)
    {out : Bytes} (left : (each body xs).Emits () out) (right : (each body ys).Emits () out) : xs = ys := by
  induction xs generalizing ys out with
  | nil => exact perm.nil_eq
  | cons x xs ih =>
    cases ys with
    | nil => exact absurd perm.symm (by simp)
    | cons y ys =>
      obtain ⟨first, rest, head, tail, rfl⟩ := emits_each_cons.mp left
      obtain ⟨second, other, head', tail', same⟩ := emits_each_cons.mp right
      have inList : y ∈ x :: xs := perm.mem_iff.mpr List.mem_cons_self
      obtain rfl := apart x List.mem_cons_self y inList first second rest other head head' same
      obtain ⟨-, rfl⟩ := head.unique head'
      obtain rfl := List.append_cancel_left same
      congr 1
      apply ih perm.cons_inv _ tail tail'
      intro z inZ w inW
      exact apart z (List.mem_cons_of_mem _ inZ) w (List.mem_cons_of_mem _ inW)

/-! ## Results -/

/-- Whatever a successful run returns satisfies the postcondition. -/
def Ensures (p : Put ε α) (post : α → Prop) : Prop := ∀ ⦃a out⦄, p.Emits a out → post a

theorem Ensures.pure {post : α → Prop} {a : α} (holds : post a) : (pure a : Put ε α).Ensures post := by
  intro b out emits
  obtain ⟨rfl, -⟩ := emits_pure.mp emits
  exact holds

theorem Ensures.throw (e : ε) (post : α → Prop) : (throw e : Put ε α).Ensures post := by
  intro a out emits
  exact absurd emits emits_throw

theorem Ensures.bind {p : Put ε α} {f : α → Put ε β} {mid : α → Prop} {post : β → Prop}
    (first : p.Ensures mid) (second : ∀ a, mid a → (f a).Ensures post) : (p >>= f).Ensures post := by
  intro b out emits
  obtain ⟨a, _, _, head, tail, -⟩ := emits_bind.mp emits
  exact second a (first head) tail

/-- What is returned first need not be known. -/
theorem Ensures.after {p : Put ε α} {f : α → Put ε β} {post : β → Prop}
    (second : ∀ a, (f a).Ensures post) : (p >>= f).Ensures post := by
  intro b out emits
  obtain ⟨a, _, _, -, tail, -⟩ := emits_bind.mp emits
  exact second a tail

end Put

end PhantasmaPy.Wire
