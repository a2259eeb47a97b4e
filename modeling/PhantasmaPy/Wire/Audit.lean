import PhantasmaPy.Wire.Fix
import Mathlib.Logic.Basic

/-! # Audited readers

A reader refuses malformed input with errors of one kind.  `Reaches` follows a reader from left to right
through its parts to a field of one of given kinds that is bad.  An audited reader fails without refusing
only where it reaches a bad field, and on a shorter input it either does the same as on the whole one or
refuses.  Audits follow the construction of the reader, so that the audit of a record is inferred from those
of its fields.
-/

namespace PhantasmaPy.Wire.Get

variable {ε α β κ : Type}

/-- On input `bs` the reader fails with `e`. -/
def Fails (g : Get ε α) (bs : Bytes) (e : ε) : Prop := g.run bs = .error e

theorem yields_or_fails (g : Get ε α) (bs : Bytes) :
    (∃ a rest, g.Yields bs a rest) ∨ ∃ e, g.Fails bs e := by
  unfold Yields Fails
  cases g.run bs with
  | error e => exact .inr ⟨e, rfl⟩
  | ok result => exact .inl ⟨result.1, result.2, rfl⟩

theorem Fails.unique {g : Get ε α} {bs : Bytes} {e e' : ε} (left : g.Fails bs e)
    (right : g.Fails bs e') : e = e' := Except.error.inj (left.symm.trans right)

theorem Yields.not_fails {g : Get ε α} {bs rest : Bytes} {a : α} {e : ε} (yields : g.Yields bs a rest) :
    ¬ g.Fails bs e := by
  intro fails
  cases yields.symm.trans fails

theorem not_fails_pure {a : α} {bs : Bytes} {e : ε} : ¬ (pure a : Get ε α).Fails bs e := by
  intro fails
  cases fails

theorem fails_throw {e e' : ε} {bs : Bytes} : (throw e : Get ε α).Fails bs e' ↔ e = e' := by
  change Except.error e = Except.error e' ↔ _
  exact Except.error.injEq e e' ▸ Iff.rfl

theorem fails_bind {g : Get ε α} {f : α → Get ε β} {bs : Bytes} {e : ε} :
    (g >>= f).Fails bs e ↔ g.Fails bs e ∨ ∃ a mid, g.Yields bs a mid ∧ (f a).Fails mid e := by
  unfold Fails Yields
  rw [StateT.run_bind]
  cases first : g.run bs with
  | error e' => simp [bind, Except.bind]
  | ok result =>
    obtain ⟨a, mid⟩ := result
    simp [bind, Except.bind]

theorem fails_take {e e' : ε} {count : Nat} {bs : Bytes} :
    (take e count).Fails bs e' ↔ bs.length < count ∧ e = e' := by
  by_cases enough : count ≤ bs.length
  · have yields : (take e count).Yields bs (bs.take count) (bs.drop count) :=
      yields_take.mpr ⟨enough, rfl, rfl⟩
    refine iff_of_false yields.not_fails ?_
    omega
  · have run : (take e count).run bs = .error e := by
      simp only [take, StateT.run_bind, StateT.run_get, pure_bind, if_neg enough]
      rfl
    unfold Fails
    rw [run, Except.error.injEq]
    exact ⟨fun same => ⟨by omega, same⟩, fun both => both.2⟩

theorem fails_check {result : Except ε α} {bs : Bytes} {e : ε} :
    (check result).Fails bs e ↔ result = .error e := by
  cases result with
  | error e' => rw [check, fails_throw, Except.error.injEq]
  | ok a => exact iff_of_false not_fails_pure (by simp)

theorem fails_failWith {e e' : ε} {g : Get ε α} {bs : Bytes} :
    (failWith e g).Fails bs e' ↔ (∃ cause, g.Fails bs cause) ∧ e = e' := by
  unfold Fails failWith
  dsimp only [StateT.run]
  cases g bs with
  | error cause => simp
  | ok result => simp

/-- A loop fails in one of its rounds, after the rounds before it. -/
theorem fails_loop {step : β → Get ε β} {count : Nat} {acc : β} {bs : Bytes} {e : ε} :
    (loop step count acc).Fails bs e ↔ ∃ index, index < count ∧ ∃ acc' mid,
      (loop step index acc).Yields bs acc' mid ∧ (step acc').Fails mid e := by
  induction count generalizing acc bs with
  | zero => exact iff_of_false not_fails_pure (by simp)
  | succ count ih =>
    rw [loop, fails_bind]
    simp only [ih]
    constructor
    · rintro (first | ⟨next, mid, head, index, inside, acc', mid', yields, fails⟩)
      · exact ⟨0, count.succ_pos, acc, bs, yields_pure.mpr ⟨rfl, rfl⟩, first⟩
      · exact ⟨index + 1, Nat.succ_lt_succ inside, acc', mid',
          yields_bind.mpr ⟨next, mid, head, yields⟩, fails⟩
    · rintro ⟨index, inside, acc', mid', yields, fails⟩
      cases index with
      | zero =>
        obtain ⟨rfl, rfl⟩ := yields_pure.mp yields
        exact .inl fails
      | succ index =>
        obtain ⟨next, mid, head, yields⟩ := yields_bind.mp yields
        exact .inr ⟨next, mid, head, index, Nat.lt_of_succ_lt_succ inside, acc', mid', yields, fails⟩

/-! ## Refusals -/

/-- Every failure is a refusal. -/
def Refuses (refusal : ε → Prop) (g : Get ε α) : Prop := ∀ ⦃bs e⦄, g.Fails bs e → refusal e

namespace Refuses

variable {refusal : ε → Prop}

theorem pure (a : α) : Refuses refusal (Pure.pure a : Get ε α) := by
  intro bs e fails
  exact absurd fails not_fails_pure

theorem throw {e : ε} (refuses : refusal e) : Refuses refusal (MonadExcept.throw e : Get ε α) := by
  intro bs e' fails
  exact fails_throw.mp fails ▸ refuses

theorem bind {g : Get ε α} {f : α → Get ε β} (first : Refuses refusal g)
    (second : ∀ a, Refuses refusal (f a)) : Refuses refusal (g >>= f) := by
  intro bs e fails
  rcases fails_bind.mp fails with head | ⟨a, mid, -, tail⟩
  · exact first head
  · exact second a tail

theorem ite {condition : Prop} [Decidable condition] {g h : Get ε α} (left : Refuses refusal g)
    (right : Refuses refusal h) : Refuses refusal (if condition then g else h) := by
  split
  · exact left
  · exact right

theorem failWith {e : ε} {g : Get ε α} (refuses : refusal e) : Refuses refusal (Get.failWith e g) := by
  intro bs e' fails
  obtain ⟨-, rfl⟩ := fails_failWith.mp fails
  exact refuses

end Refuses

/-! ## Bad fields -/

/-- A kind of fields: readers, with the inputs that are bad for them. -/
abbrev Fields (ε : Type) := ∀ ⦃α : Type⦄, Get ε α → Bytes → Prop

/-- Reading from left to right, the reader reaches a bad field. -/
inductive Reaches (bad : Fields ε) : ∀ {α : Type}, Get ε α → Bytes → Prop
  /-- The reader is the one of a field that is bad. -/
  | here {α : Type} {g : Get ε α} {bs : Bytes} (isBad : bad g bs) : Reaches bad g bs
  /-- A bad field is in the first part of a sequence. -/
  | first {α β : Type} {g : Get ε α} {f : α → Get ε β} {bs : Bytes} (reached : Reaches bad g bs) :
      Reaches bad (g >>= f) bs
  /-- A bad field is in the second part, behind what the first part has read. -/
  | later {α β : Type} {g : Get ε α} {f : α → Get ε β} {bs rest : Bytes} {a : α} (before : g.Yields bs a rest)
      (reached : Reaches bad (f a) rest) : Reaches bad (g >>= f) bs
  /-- A bad field is in a recursive reader, unfolded as deep as its input is long. -/
  | recurse {α κ : Type} {e : ε} {body : (κ → Get ε α) → κ → Get ε α} {k : κ} {bs : Bytes}
      (reached : Reaches bad (iterate e body (bs.length + 1) k) bs) : Reaches bad (fix e body k) bs

/-- The reader fails without refusing. -/
def Escapes (refusal : ε → Prop) : Fields ε := fun _ g bs => ∃ e, g.Fails bs e ∧ ¬ refusal e

/-- If bad fields fail without a refusal, so does a reader that reaches one. -/
theorem Reaches.escapes {refusal : ε → Prop} {bad : Fields ε}
    (sound : ∀ {α : Type} {g : Get ε α} {bs : Bytes}, bad g bs → Escapes refusal g bs) {g : Get ε α} {bs : Bytes}
    (reached : Reaches bad g bs) : Escapes refusal g bs := by
  induction reached with
  | here isBad => exact sound isBad
  | first _ ih =>
    obtain ⟨e, fails, other⟩ := ih
    exact ⟨e, fails_bind.mpr (.inl fails), other⟩
  | later before _ ih =>
    obtain ⟨e, fails, other⟩ := ih
    exact ⟨e, fails_bind.mpr (.inr ⟨_, _, before, fails⟩), other⟩
  | recurse _ ih =>
    obtain ⟨e, fails, other⟩ := ih
    exact ⟨e, fails, other⟩

/-! ## Audits -/

/-- On a shorter input the reader does the same, as far as the input goes, or refuses. -/
def Truncates (refusal : ε → Prop) (g : Get ε α) : Prop :=
  ∀ ⦃bs more a rest⦄, g.Yields (bs ++ more) a rest →
    (∃ rest', rest = rest' ++ more ∧ g.Yields bs a rest') ∨ ∃ e, g.Fails bs e ∧ refusal e

/-- A reader whose failures are refusals, or due to a bad field that it reaches. -/
class Audited (refusal : ε → Prop) (bad : Fields ε) (g : Get ε α) : Prop where
  explained : ∀ ⦃bs e⦄, g.Fails bs e → refusal e ∨ Reaches bad g bs
  truncates : Truncates refusal g

/-- An input is accepted or refused exactly when it does not make the reader fail in another way. -/
theorem not_escapes_iff {refusal : ε → Prop} {g : Get ε α} {bs : Bytes} :
    ¬ Escapes refusal g bs ↔ (∃ a rest, g.Yields bs a rest) ∨ ∃ e, g.Fails bs e ∧ refusal e := by
  constructor
  · intro sound
    refine (g.yields_or_fails bs).imp_right ?_
    rintro ⟨e, fails⟩
    exact ⟨e, fails, by_contra fun other => sound ⟨e, fails, other⟩⟩
  · rintro (⟨a, rest, yields⟩ | ⟨e, fails, refuses⟩) ⟨e', fails', other⟩
    · exact yields.not_fails fails'
    · exact other (fails.unique fails' ▸ refuses)

/-- A reader escapes exactly where it reaches a bad field. -/
theorem Audited.escapes_iff {refusal : ε → Prop} {bad : Fields ε} {g : Get ε α} (audit : Audited refusal bad g)
    (sound : ∀ {α : Type} {g : Get ε α} {bs : Bytes}, bad g bs → Escapes refusal g bs) (bs : Bytes) :
    Escapes refusal g bs ↔ Reaches bad g bs := by
  constructor
  · rintro ⟨e, fails, other⟩
    exact (audit.explained fails).resolve_left other
  · exact Reaches.escapes sound

/-- What a strict prefix of an accepted input leads to. -/
theorem Truncates.refuses {refusal : ε → Prop} {g : Get ε α} (truncates : Truncates refusal g)
    {bs more : Bytes} {a : α} (whole : g.Yields (bs ++ more) a []) (strict : more ≠ []) :
    ∃ e, g.Fails bs e ∧ refusal e := by
  rcases truncates whole with ⟨rest, empty, _⟩ | refused
  · exact absurd (List.append_eq_nil_iff.mp empty.symm).2 strict
  · exact refused

/-- A step whose failures are refusals, or due to the field that it is. -/
class Explained (refusal : ε → Prop) (bad : Fields ε) (g : Get ε α) : Prop where
  explained : ∀ ⦃bs e⦄, g.Fails bs e → refusal e ∨ bad g bs

instance explained_throw {refusal : ε → Prop} {bad : Fields ε} (e : ε) [refuses : Fact (refusal e)] :
    Explained refusal bad (throw e : Get ε α) where
  explained _ _ fails := .inl (fails_throw.mp fails ▸ refuses.out)

/-- A conversion whose errors are all refusals. -/
class Refusing (refusal : ε → Prop) (result : Except ε α) : Prop where
  refuses : ∀ e, result = .error e → refusal e

instance explained_check {refusal : ε → Prop} {bad : Fields ε} (result : Except ε α)
    [refusing : Refusing refusal result] : Explained refusal bad (check result) where
  explained _ e fails := .inl (refusing.refuses e (fails_check.mp fails))

/-- Where every failure counts as bad, there is nothing to explain. -/
instance explained_escapes {refusal : ε → Prop} (g : Get ε α) : Explained refusal (Escapes refusal) g where
  explained _ e fails := or_iff_not_imp_left.mpr fun other => ⟨e, fails, other⟩

namespace Audited

variable {refusal : ε → Prop} {bad : Fields ε}

/-- The audit of an equal reader. -/
theorem congr {g h : Get ε α} (equal : h = g) (audit : Audited refusal bad g) : Audited refusal bad h :=
  equal ▸ audit

/-- A reader that is a field itself. -/
theorem ofField {g : Get ε α} (explained : Explained refusal bad g) (truncates : Truncates refusal g) :
    Audited refusal bad g where
  explained _ _ fails := (explained.explained fails).imp_right .here
  truncates := truncates

instance ofPure (a : α) : Audited refusal bad (pure a : Get ε α) where
  explained _ _ fails := absurd fails not_fails_pure
  truncates := by
    intro bs more b rest yields
    obtain ⟨rfl, rfl⟩ := yields_pure.mp yields
    exact .inl ⟨bs, rfl, yields_pure.mpr ⟨rfl, rfl⟩⟩

instance ofThrow (e : ε) [explained : Explained refusal bad (throw e : Get ε α)] :
    Audited refusal bad (throw e : Get ε α) :=
  ofField explained fun _ _ _ _ yields => absurd yields yields_throw

instance ofBind {g : Get ε α} {f : α → Get ε β} [first : Audited refusal bad g]
    [second : ∀ a, Audited refusal bad (f a)] : Audited refusal bad (g >>= f) where
  explained bs e fails := by
    rcases fails_bind.mp fails with head | ⟨a, rest, yields, tail⟩
    · exact (first.explained head).imp_right .first
    · exact ((second a).explained tail).imp_right (.later yields)
  truncates := by
    intro bs more b rest yields
    obtain ⟨a, mid, head, tail⟩ := yields_bind.mp yields
    rcases first.truncates head with ⟨mid', rfl, head'⟩ | ⟨e, fails, refuses⟩
    · rcases (second a).truncates tail with ⟨rest', rfl, tail'⟩ | ⟨e, fails, refuses⟩
      · exact .inl ⟨rest', rfl, yields_bind.mpr ⟨a, mid', head', tail'⟩⟩
      · exact .inr ⟨e, fails_bind.mpr (.inr ⟨a, mid', head', fails⟩), refuses⟩
    · exact .inr ⟨e, fails_bind.mpr (.inl fails), refuses⟩

instance ofIte {condition : Prop} [Decidable condition] {g h : Get ε α} [left : Audited refusal bad g]
    [right : Audited refusal bad h] : Audited refusal bad (if condition then g else h) := by
  split
  · exact left
  · exact right

/-- The end of the input is refused. -/
instance ofTake (e : ε) [refuses : Fact (refusal e)] (count : Nat) : Audited refusal bad (take e count) where
  explained _ _ fails := .inl ((fails_take.mp fails).2 ▸ refuses.out)
  truncates := by
    intro bs more out rest yields
    obtain ⟨-, rfl, rfl⟩ := yields_take.mp yields
    by_cases enough : count ≤ bs.length
    · refine .inl ⟨bs.drop count, List.drop_append_of_le_length enough, ?_⟩
      exact yields_take.mpr ⟨enough, List.take_append_of_le_length enough, rfl⟩
    · exact .inr ⟨e, fails_take.mpr ⟨by omega, rfl⟩, refuses.out⟩

/-- A conversion reads nothing. -/
theorem check_truncates (result : Except ε α) : Truncates refusal (check result) := by
  intro bs more a rest yields
  obtain ⟨accepted, rfl⟩ := yields_check.mp yields
  exact .inl ⟨bs, rfl, yields_check.mpr ⟨accepted, rfl⟩⟩

instance ofCheck (result : Except ε α) [explained : Explained refusal bad (check result)] :
    Audited refusal bad (check result) := ofField explained (check_truncates result)

/-- A reader whose errors are all replaced by one refusal. -/
instance ofFailWith {g : Get ε α} (e : ε) [refuses : Fact (refusal e)]
    [audit : Audited refusal (Escapes refusal) g] : Audited refusal bad (failWith e g) where
  explained _ _ fails := .inl (Refuses.failWith refuses.out fails)
  truncates := by
    intro bs more a rest yields
    rcases audit.truncates (yields_failWith.mp yields) with ⟨rest', rfl, yields'⟩ | ⟨cause, fails, -⟩
    · exact .inl ⟨rest', rfl, yields_failWith.mpr yields'⟩
    · exact .inr ⟨e, fails_failWith.mpr ⟨⟨cause, fails⟩, rfl⟩, refuses.out⟩

/-- A loop is audited round by round. -/
instance ofLoop {step : β → Get ε β} [audit : ∀ acc, Audited refusal bad (step acc)] (count : Nat) (acc : β) :
    Audited refusal bad (loop step count acc) := by
  induction count generalizing acc with
  | zero => exact ofPure acc
  | succ count ih => exact ofBind

/-- Repetition is audited element by element. -/
instance ofTimes {item : Get ε α} [audit : Audited refusal bad item] (count : Nat) :
    Audited refusal bad (times item count) := by
  induction count with
  | zero => exact ofPure []
  | succ count ih => exact ofBind

/-! ## Recursive readers -/

section Recursion

variable {e e' : ε} {body : (κ → Get ε α) → κ → Get ε α}

/-- The readers of every depth are audited, if what stands for the bound is a refusal. -/
theorem levels (refuses : refusal e')
    (step : ∀ g : κ → Get ε α, (∀ k, Audited refusal bad (g k)) → ∀ k, Audited refusal bad (body g k))
    (depth : Nat) : ∀ k, Audited refusal bad (iterate e' body depth k) := by
  have : Fact (refusal e') := ⟨refuses⟩
  induction depth with
  | zero => exact fun _ => ofThrow e'
  | succ depth ih => exact step _ ih

/-- A recursive reader is audited as the reader of the depth that its input needs. -/
theorem fix (guarded : Guarded body) (refuses : refusal e')
    (step : ∀ g : κ → Get ε α, (∀ k, Audited refusal bad (g k)) → ∀ k, Audited refusal bad (body g k)) (k : κ) :
    Audited refusal bad (Get.fix e body k) := by
  -- the bound is never met, so that its error may as well be a refusal
  rw [guarded.fix_eq_fix e e']
  constructor
  · intro bs err fails
    exact ((levels refuses step (bs.length + 1) k).explained fails).imp_right .recurse
  · intro bs more a rest yields
    have deep : bs.length < (bs ++ more).length + 1 := by
      rw [List.length_append]
      omega
    unfold Yields Fails at *
    rw [guarded.fix_run deep]
    exact (levels refuses step ((bs ++ more).length + 1) k).truncates yields

end Recursion

end Audited

end PhantasmaPy.Wire.Get
