import PhantasmaPy.Wire.Put
import PhantasmaPy.Wire.Get

/-! # Writers against readers

How a writer and a reader of the same values relate: the reader recognises what the writer appends
(`RoundTrips`), or the writer appends again what the reader consumed (`Restores`).
-/

namespace PhantasmaPy.Wire

variable {ε α β : Type}

/-- On every value of the domain the writer succeeds, and the reader recognises its output. -/
def RoundTrips (domain : α → Prop) (write : α → Put ε Unit) (read : Get ε α) : Prop :=
  ∀ a, domain a → ∃ out, (write a).Emits () out ∧ read.Parses out a

/-- The writer appends exactly the bytes from which the reader obtained a value. -/
def Restores (write : α → Put ε Unit) (read : Get ε α) : Prop :=
  ∀ ⦃bs a rest⦄, read.Yields bs a rest → ∃ out, bs = out ++ rest ∧ (write a).Emits () out

theorem RoundTrips.mono {domain smaller : α → Prop} {write : α → Put ε Unit} {read : Get ε α}
    (roundTrips : RoundTrips domain write read) (subset : ∀ a, smaller a → domain a) :
    RoundTrips smaller write read := fun a inside => roundTrips a (subset a inside)

/-- Values of the domain are equal if what follows their images makes them equal. -/
theorem RoundTrips.injective_append {domain : α → Prop} {write : α → Put ε Unit} {read : Get ε α}
    (roundTrips : RoundTrips domain write read) {a b : α} (left : domain a) (right : domain b)
    {xs ys rest other : Bytes} (emitsA : (write a).Emits () xs) (emitsB : (write b).Emits () ys)
    (same : xs ++ rest = ys ++ other) : a = b := by
  obtain ⟨outA, writtenA, parsesA⟩ := roundTrips a left
  obtain ⟨outB, writtenB, parsesB⟩ := roundTrips b right
  obtain rfl := (emitsA.unique writtenA).2
  obtain rfl := (emitsB.unique writtenB).2
  have yieldsB := parsesB other
  rw [← same] at yieldsB
  exact ((parsesA rest).unique yieldsB).1

/-- Values of the domain with equal images are equal. -/
theorem RoundTrips.injective {domain : α → Prop} {write : α → Put ε Unit} {read : Get ε α}
    (roundTrips : RoundTrips domain write read) {a b : α} (left : domain a) (right : domain b)
    {out : Bytes} (emitsA : (write a).Emits () out) (emitsB : (write b).Emits () out) : a = b :=
  roundTrips.injective_append left right emitsA emitsB (Eq.refl (out ++ []))

namespace Get

/-- Every success consumes at least one byte. -/
def Consumes (g : Get ε α) : Prop := ∀ ⦃bs a rest⦄, g.Yields bs a rest → rest.length < bs.length

theorem Consumes.bind {g : Get ε α} {f : α → Get ε β} (first : g.Consumes)
    (second : ∀ a, (f a).Steady) : (g >>= f).Consumes := by
  intro bs b rest yields
  obtain ⟨a, mid, head, tail⟩ := yields_bind.mp yields
  obtain ⟨out, rfl⟩ := (second a).suffix tail
  have shorter := first head
  rw [List.length_append] at shorter
  omega

theorem Consumes.pos {g : Get ε α} (consumes : g.Consumes) {out : Bytes} {a : α}
    (parses : g.Parses out a) : 0 < out.length := consumes parses.yields

theorem Consumes.not_parses_nil {g : Get ε α} (consumes : g.Consumes) (a : α) : ¬ g.Parses [] a :=
  fun parses => absurd (consumes.pos parses) (Nat.lt_irrefl 0)

theorem Consumes.length_le_times {item : Get ε α} (consumes : item.Consumes)
    {count : Nat} {bs rest : Bytes} {xs : List α} (yields : (times item count).Yields bs xs rest) :
    count + rest.length ≤ bs.length := by
  induction count generalizing bs xs with
  | zero =>
    obtain ⟨rfl, rfl⟩ := yields_pure.mp yields
    omega
  | succ count ih =>
    obtain ⟨a, mid, head, yields⟩ := yields_bind.mp yields
    obtain ⟨as, end', tail, yields⟩ := yields_bind.mp yields
    obtain ⟨rfl, rfl⟩ := yields_pure.mp yields
    have shorter := consumes head
    have bound := ih tail
    omega

end Get

/-- A loop over values of the domain is recognised by the repeated reader, and if the reader always
    consumes something, the image has at least one byte for each element. -/
theorem RoundTrips.each {domain : α → Prop} {write : α → Put ε Unit} {read : Get ε α}
    (roundTrips : RoundTrips domain write read) {xs : List α} (inside : ∀ x ∈ xs, domain x) :
    ∃ out, (Put.each write xs).Emits () out ∧ (Get.times read xs.length).Parses out xs ∧
      (read.Consumes → xs.length ≤ out.length) := by
  induction xs with
  | nil => exact ⟨[], Put.emits_each_nil.mpr rfl, Get.Parses.pure [], fun _ => Nat.le_refl 0⟩
  | cons x xs ih =>
    obtain ⟨first, written, parses⟩ := roundTrips x (inside x List.mem_cons_self)
    obtain ⟨rest, writtenRest, parsesRest, bound⟩ :=
      ih fun y member => inside y (List.mem_cons_of_mem _ member)
    refine ⟨first ++ rest, Put.emits_each_cons.mpr ⟨_, _, written, writtenRest, rfl⟩,
      parses.bind (parsesRest.map _), fun consumes => ?_⟩
    have nonempty := consumes.pos parses
    have length := bound consumes
    simp only [List.length_cons, List.length_append]
    omega

theorem Restores.times {write : α → Put ε Unit} {read : Get ε α} (restores : Restores write read)
    {count : Nat} {bs rest : Bytes} {xs : List α} (yields : (Get.times read count).Yields bs xs rest) :
    xs.length = count ∧ ∃ out, bs = out ++ rest ∧ (Put.each write xs).Emits () out := by
  induction count generalizing bs xs with
  | zero =>
    obtain ⟨rfl, rfl⟩ := Get.yields_pure.mp yields
    exact ⟨rfl, [], rfl, Put.emits_each_nil.mpr rfl⟩
  | succ count ih =>
    obtain ⟨a, mid, head, yields⟩ := Get.yields_bind.mp yields
    obtain ⟨as, end', tail, yields⟩ := Get.yields_bind.mp yields
    obtain ⟨rfl, rfl⟩ := Get.yields_pure.mp yields
    obtain ⟨first, rfl, written⟩ := restores head
    obtain ⟨length, out, rfl, writtenRest⟩ := ih tail
    exact ⟨by rw [List.length_cons, length], first ++ out, by rw [List.append_assoc],
      Put.emits_each_cons.mpr ⟨_, _, written, writtenRest, rfl⟩⟩

/-! ## Sequences of items -/

namespace Get

/-- The bytes are the items one after the other, each recognised whole. -/
inductive Segmented (item : Get ε α) : Bytes → List α → Prop
  | nil : Segmented item [] []
  | cons {image out : Bytes} {x : α} {xs : List α} (parses : item.Parses image x)
      (rest : Segmented item out xs) : Segmented item (image ++ out) (x :: xs)

namespace Segmented

variable {item : Get ε α} {out out' : Bytes} {xs xs' : List α}

theorem single {x : α} (parses : item.Parses out x) : Segmented item out [x] := by
  simpa using nil.cons parses

theorem append (left : Segmented item out xs) (right : Segmented item out' xs') :
    Segmented item (out ++ out') (xs ++ xs') := by
  induction left with
  | nil => exact right
  | cons parses _ ih =>
    rw [List.append_assoc]
    exact ih.cons parses

/-- Where no item is empty, bytes are segmented in at most one way. -/
theorem unique (nonempty : ∀ x, ¬ item.Parses [] x) (left : Segmented item out xs)
    (right : Segmented item out xs') : xs' = xs := by
  induction left generalizing xs' with
  | nil =>
    generalize whole : ([] : Bytes) = bytes at right
    cases right with
    | nil => rfl
    | cons parses rest =>
      obtain ⟨rfl, -⟩ := List.append_eq_nil_iff.mp whole.symm
      exact absurd parses (nonempty _)
  | @cons image out x xs parses rest ih =>
    generalize whole : image ++ out = bytes at right
    cases right with
    | nil =>
      obtain ⟨rfl, -⟩ := List.append_eq_nil_iff.mp whole
      exact absurd parses (nonempty _)
    | cons parses' rest' =>
      obtain ⟨rfl, rfl, rfl⟩ := parses.split parses' whole
      rw [ih rest']

/-- The repeated reader recognises what is segmented. -/
theorem times (segmented : Segmented item out xs) : (Get.times item xs.length).Parses out xs := by
  induction segmented with
  | nil => exact Parses.pure []
  | cons parses _ ih => exact parses.bind (ih.map _)

/-- Every item takes at least one byte. -/
theorem length_le (nonempty : ∀ x, ¬ item.Parses [] x) (segmented : Segmented item out xs) :
    xs.length ≤ out.length := by
  induction segmented with
  | nil => exact Nat.le_refl 0
  | @cons image out x xs parses _ ih =>
    have positive : 0 < image.length := by
      rw [List.length_pos_iff]
      rintro rfl
      exact nonempty x parses
    simp only [List.length_cons, List.length_append]
    omega

end Segmented

end Get

/-! ## Writers against readers of other values

A reader may give back a value in another form than the one that was written.
-/

/-- The writer returns `c`, and the reader recognises what it appended as `b`. -/
def Conveys {γ : Type} (write : Put ε γ) (c : γ) (read : Get ε β) (b : β) : Prop :=
  ∃ out, write.Emits c out ∧ read.Parses out b

/-- The writer appends the items one after the other. -/
def ConveysAll (write : Put ε Unit) (item : Get ε β) (bs : List β) : Prop :=
  ∃ out, write.Emits () out ∧ Get.Segmented item out bs

section Conveys

variable {γ δ : Type} {p : Put ε γ} {f : γ → Put ε δ} {c : γ} {d : δ}
  {g : Get ε α} {k : α → Get ε β} {a : α} {b : β}

theorem RoundTrips.conveys {domain : α → Prop} {write : α → Put ε Unit} {read : Get ε α}
    (roundTrips : RoundTrips domain write read) (inside : domain a) :
    Conveys (write a) () read a := roundTrips a inside

theorem Conveys.bind (first : Conveys p c g a) (second : Conveys (f c) d (k a) b) :
    Conveys (p >>= f) d (g >>= k) b := by
  obtain ⟨xs, emits, parses⟩ := first
  obtain ⟨ys, emits', parses'⟩ := second
  exact ⟨xs ++ ys, emits.bind emits', parses.bind parses'⟩

/-- A field in front of the rest of a record. -/
theorem Conveys.seq {q : Put ε δ} (first : Conveys p c g a) (second : Conveys q d (k a) b) :
    Conveys (do let _ ← p; q) d (g >>= k) b := first.bind second

theorem conveys_pure (c : γ) (b : β) :
    Conveys (pure c : Put ε γ) c (pure b : Get ε β) b :=
  ⟨[], Put.emits_pure.mpr ⟨rfl, rfl⟩, Get.Parses.pure b⟩

/-- The result of the reader is rebuilt. -/
theorem Conveys.map (conveys : Conveys p c g a) (h : α → β) :
    Conveys p c (do let x ← g; return h x) (h a) := by
  obtain ⟨out, emits, parses⟩ := conveys
  exact ⟨out, emits, parses.map h⟩

/-- The writer returns something else. -/
theorem Conveys.returning (conveys : Conveys p c g a) (d : δ) :
    Conveys (do let _ ← p; return d) d g a := by
  obtain ⟨out, emits, parses⟩ := conveys
  have emits' := emits.bind (f := fun _ => pure d) (Put.emits_pure.mpr ⟨rfl, rfl⟩)
  rw [List.append_nil] at emits'
  exact ⟨out, emits', parses⟩

/-- What is read under a wrapper is read without it. -/
theorem Conveys.unwrap {h : α → β} (injective : Function.Injective h)
    (conveys : Conveys p c (do let x ← g; return h x) b) : ∃ a, b = h a ∧ Conveys p c g a := by
  obtain ⟨out, emits, parses⟩ := conveys
  obtain ⟨a, _, -, pure⟩ := Get.yields_bind.mp (parses [])
  obtain ⟨rfl, -⟩ := Get.yields_pure.mp pure
  refine ⟨a, rfl, out, emits, fun rest => ?_⟩
  obtain ⟨x, mid, yields, pure⟩ := Get.yields_bind.mp (parses rest)
  obtain ⟨same, rfl⟩ := Get.yields_pure.mp pure
  rwa [← injective same]

theorem Conveys.unmap {h : α → β} (injective : Function.Injective h)
    (conveys : Conveys p c (do let x ← g; return h x) (h a)) : Conveys p c g a := by
  obtain ⟨x, same, conveys⟩ := conveys.unwrap injective
  rwa [injective same]

/-- One writer and one reader convey one value. -/
theorem Conveys.unique {a' : α} {c' : γ} (left : Conveys p c g a) (right : Conveys p c' g a') : a = a' := by
  obtain ⟨out, emits, parses⟩ := left
  obtain ⟨out', emits', parses'⟩ := right
  obtain ⟨-, rfl⟩ := emits.unique emits'
  exact (parses.yields.unique parses'.yields).1

/-- The result of the writer does not matter to what it appended. -/
theorem Conveys.unreturning (conveys : Conveys (do let _ ← p; return d) d g a) :
    ∃ c, Conveys p c g a := by
  obtain ⟨out, emits, parses⟩ := conveys
  obtain ⟨c, xs, ys, first, pure, rfl⟩ := Put.emits_bind.mp emits
  obtain ⟨-, rfl⟩ := Put.emits_pure.mp pure
  rw [List.append_nil] at parses
  exact ⟨c, xs, first, parses⟩

theorem conveysAll_nil {item : Get ε β} : ConveysAll (pure ()) item [] :=
  ⟨[], Put.emits_pure.mpr ⟨rfl, rfl⟩, .nil⟩

theorem ConveysAll.cons {q r : Put ε Unit} {item : Get ε β} {bs : List β}
    (first : Conveys q () item b) (rest : ConveysAll r item bs) :
    ConveysAll (do q; r) item (b :: bs) := by
  obtain ⟨xs, emits, parses⟩ := first
  obtain ⟨ys, emits', segmented⟩ := rest
  exact ⟨xs ++ ys, emits.bind emits', segmented.cons parses⟩

/-- A loop over values appends what the body appends for each. -/
theorem conveysAll_each {body : α → Put ε Unit} {item : Get ε β} {view : α → β} {xs : List α}
    (conveys : ∀ x ∈ xs, Conveys (body x) () item (view x)) :
    ConveysAll (Put.each body xs) item (xs.map view) := by
  induction xs with
  | nil => exact conveysAll_nil
  | cons x xs ih =>
    exact ConveysAll.cons (conveys x List.mem_cons_self)
      (ih fun y member => conveys y (List.mem_cons_of_mem _ member))

end Conveys

end PhantasmaPy.Wire
