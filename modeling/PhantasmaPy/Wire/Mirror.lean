import PhantasmaPy.Wire.Codec

/-! # Images in front of other bytes

A reader may ask how many bytes are left, so that it takes an image in one place and refuses it in another.
`Mirrors` says what a reader makes of an image in front of other bytes; its rules follow the writer.
-/

namespace PhantasmaPy.Wire

variable {ε α β γ δ : Type}

/-- The number of bytes that the writer appends. -/
def Put.size : Put ε α → Nat
  | .wrote _ out => out.length
  | .failed _ out => out.length

theorem Put.Emits.size {p : Put ε α} {a : α} {out : Bytes} (emits : p.Emits a out) : p.size = out.length := by
  unfold Put.Emits at emits
  rw [emits, Put.size]

/-- The readers of the values, one after the other. -/
def Get.inTurn (item : α → Get ε β) : List α → Get ε (List β)
  | [] => pure []
  | x :: xs => do
    let head ← item x
    let tail ← inTurn item xs
    return head :: tail

theorem Get.times_eq_inTurn (item : Get ε β) (xs : List α) :
    Get.times item xs.length = Get.inTurn (fun _ => item) xs := by
  induction xs with
  | nil => rfl
  | cons x xs ih => rw [List.length_cons, Get.times, Get.inTurn, ih]

/-- What the writer appends, in front of other bytes, is read as what the relation has for their number, and no
    byte behind it is taken. -/
def Mirrors (write : Put ε γ) (read : Get ε β) (related : Nat → β → Prop) : Prop :=
  ∀ ⦃c out⦄, write.Emits c out → ∀ rest b left,
    read.Yields (out ++ rest) b left ↔ left = rest ∧ related rest.length b

namespace Mirrors

variable {write p : Put ε γ} {read : Get ε β} {related other : Nat → β → Prop}

/-- Relations that agree wherever there is an image. -/
theorem congr_emits (mirrors : Mirrors write read related)
    (same : ∀ c out, write.Emits c out → ∀ after b, related after b ↔ other after b) : Mirrors write read other := by
  intro c out emits rest b left
  rw [mirrors emits, same c out emits]

theorem congr (mirrors : Mirrors write read related) (same : ∀ after b, related after b ↔ other after b) :
    Mirrors write read other := mirrors.congr_emits fun _ _ _ => same

/-- An image that is read in the same way in all places. -/
theorem of_parses {b : β} (parses : ∀ ⦃c out⦄, write.Emits c out → read.Parses out b) :
    Mirrors write read fun _ result => result = b := by
  intro c out emits rest result left
  constructor
  · intro yields
    obtain ⟨rfl, rfl⟩ := yields.unique (parses emits rest)
    exact ⟨rfl, rfl⟩
  · rintro ⟨rfl, rfl⟩
    exact parses emits left

theorem of_conveys {c : γ} {b : β} (conveys : Conveys write c read b) :
    Mirrors write read fun _ result => result = b := by
  obtain ⟨out, emits, parses⟩ := conveys
  apply of_parses
  intro c' out' emits'
  obtain ⟨-, rfl⟩ := emits.unique emits'
  exact parses

/-- Two images in turn: behind the first one stand the second and what follows. -/
theorem bind {f : γ → Put ε δ} {g : Get ε α} {k : α → Get ε β} {first : Nat → α → Prop}
    {second : α → Nat → β → Prop} (head : Mirrors p g first)
    (tail : ∀ c out, p.Emits c out → ∀ a, Mirrors (f c) (k a) (second a)) (size : Nat)
    (length : ∀ c xs d ys, p.Emits c xs → (f c).Emits d ys → ys.length = size) :
    Mirrors (p >>= f) (g >>= k) fun after b => ∃ a, first (size + after) a ∧ second a after b := by
  intro d out emits rest b left
  obtain ⟨c, xs, ys, emitsHead, emitsTail, rfl⟩ := Put.emits_bind.mp emits
  rw [List.append_assoc, Get.yields_bind]
  have behind : (ys ++ rest).length = size + rest.length := by
    rw [List.length_append, length c xs d ys emitsHead emitsTail]
  constructor
  · rintro ⟨a, mid, yieldsHead, yieldsTail⟩
    obtain ⟨rfl, isFirst⟩ := (head emitsHead _ a mid).mp yieldsHead
    obtain ⟨rfl, isSecond⟩ := (tail c xs emitsHead a emitsTail _ b left).mp yieldsTail
    exact ⟨rfl, a, behind ▸ isFirst, isSecond⟩
  · rintro ⟨rfl, a, isFirst, isSecond⟩
    exact ⟨a, ys ++ left, (head emitsHead _ a _).mpr ⟨rfl, behind.symm ▸ isFirst⟩,
      (tail c xs emitsHead a emitsTail _ b left).mpr ⟨rfl, isSecond⟩⟩

/-- An image in front of which stands a header that is read in the same way in all places. -/
theorem after_header {q : Put ε δ} {g : Get ε α} {k : α → Get ε β} {a : α}
    (header : ∀ ⦃c out⦄, p.Emits c out → g.Parses out a) (tail : Mirrors q (k a) related) :
    Mirrors (do let _ ← p; q) (g >>= k) related := by
  intro d out emits rest b left
  obtain ⟨c, xs, ys, emitsHead, emitsTail, rfl⟩ := Put.emits_bind.mp emits
  rw [List.append_assoc, ← tail emitsTail, Get.yields_bind]
  constructor
  · rintro ⟨a', mid, yieldsHead, yieldsTail⟩
    obtain ⟨rfl, rfl⟩ := yieldsHead.unique (header emitsHead _)
    exact yieldsTail
  · intro yieldsTail
    exact ⟨a, ys ++ rest, header emitsHead _, yieldsTail⟩

/-- The result of the reader is rebuilt. -/
theorem map (mirrors : Mirrors write read related) (h : β → α) :
    Mirrors write (do let b ← read; return h b) fun after a => ∃ b, related after b ∧ a = h b := by
  intro c out emits rest a left
  rw [Get.yields_bind]
  constructor
  · rintro ⟨b, mid, yields, made⟩
    obtain ⟨rfl, rfl⟩ := Get.yields_pure.mp made
    obtain ⟨rfl, holds⟩ := (mirrors emits rest b mid).mp yields
    exact ⟨rfl, b, holds, rfl⟩
  · rintro ⟨rfl, b, holds, rfl⟩
    exact ⟨b, left, (mirrors emits left b left).mpr ⟨rfl, holds⟩, Get.yields_pure.mpr ⟨rfl, rfl⟩⟩

/-- What is read under a wrapper is read without it. -/
theorem unmap {h : β → α} (injective : Function.Injective h) {related : Nat → α → Prop}
    (mirrors : Mirrors write (do let b ← read; return h b) related) :
    Mirrors write read fun after b => related after (h b) := by
  intro c out emits rest b left
  rw [← mirrors emits rest (h b) left, Get.yields_bind]
  constructor
  · intro yields
    exact ⟨b, left, yields, Get.yields_pure.mpr ⟨rfl, rfl⟩⟩
  · rintro ⟨b', mid, yields, made⟩
    obtain ⟨same, rfl⟩ := Get.yields_pure.mp made
    rwa [← injective same]

/-- Another writer that has an image where this one has it, and the same. -/
theorem of_emits {q : Put ε δ} (mirrors : Mirrors q read related)
    (emits : ∀ ⦃c out⦄, write.Emits c out → ∃ d, q.Emits d out) : Mirrors write read related := by
  intro c out written
  obtain ⟨d, written⟩ := emits written
  exact mirrors written

/-- The writer returns something else. -/
theorem returning (mirrors : Mirrors write read related) (d : δ) :
    Mirrors (do let _ ← write; return d) read related := by
  intro d' out emits
  obtain ⟨c, xs, ys, written, made, rfl⟩ := Put.emits_bind.mp emits
  obtain ⟨-, rfl⟩ := Put.emits_pure.mp made
  rw [List.append_nil]
  exact mirrors written

end Mirrors

/-! ## Loops -/

/-- The relation holds between the values in turn, each in front of the later ones. -/
def InTurn (size : List α → Nat) (related : α → Nat → β → Prop) (after : Nat) (xs : List α) (ys : List β) : Prop :=
  ys.length = xs.length ∧
    ∀ i x y, xs[i]? = some x → ys[i]? = some y → related x (size (xs.drop (i + 1)) + after) y

theorem inTurn_nil {size : List α → Nat} {related : α → Nat → β → Prop} {after : Nat} {ys : List β} :
    InTurn size related after [] ys ↔ ys = [] := by
  constructor
  · rintro ⟨length, -⟩
    exact List.length_eq_zero_iff.mp length
  · rintro rfl
    exact ⟨rfl, by simp⟩

theorem inTurn_cons {size : List α → Nat} {related : α → Nat → β → Prop} {after : Nat} {x : α} {xs : List α}
    {ys : List β} : InTurn size related after (x :: xs) ys ↔
      ∃ head tail, ys = head :: tail ∧ related x (size xs + after) head ∧ InTurn size related after xs tail := by
  constructor
  · rintro ⟨length, each⟩
    cases ys with
    | nil => cases length
    | cons head tail =>
      refine ⟨head, tail, rfl, each 0 x head rfl rfl, Nat.succ.inj length, fun i x y inXs inYs => ?_⟩
      exact each (i + 1) x y inXs inYs
  · rintro ⟨head, tail, rfl, first, length, each⟩
    refine ⟨congrArg Nat.succ length, fun i y z inXs inYs => ?_⟩
    cases i with
    | zero =>
      obtain rfl := Option.some.inj inXs
      obtain rfl := Option.some.inj inYs
      exact first
    | succ i => exact each i y z inXs inYs

/-- The values that a relation builds from others. -/
theorem inTurn_exists {size : List α → Nat} {related : α → Nat → γ → Prop} {build : α → γ → β} {after : Nat}
    {xs : List α} {ys : List β} :
    InTurn size (fun x after y => ∃ z, related x after z ∧ y = build x z) after xs ys ↔
      ∃ zs, InTurn size related after xs zs ∧ ys = List.zipWith build xs zs := by
  induction xs generalizing ys with
  | nil => simp [inTurn_nil]
  | cons x xs ih =>
    simp only [inTurn_cons, ih]
    constructor
    · rintro ⟨_, _, rfl, ⟨z, isHead, rfl⟩, zs, isTail, rfl⟩
      exact ⟨z :: zs, ⟨z, zs, rfl, isHead, isTail⟩, rfl⟩
    · rintro ⟨_, ⟨z, zs, rfl, isHead, isTail⟩, rfl⟩
      exact ⟨_, _, rfl, ⟨z, isHead, rfl⟩, zs, isTail, rfl⟩

/-- A value for each place of a list. -/
theorem exists_inTurn {holds : Nat → α → β → Prop} {xs : List α}
    (each : ∀ i x, xs[i]? = some x → ∃ y, holds i x y) :
    ∃ ys : List β, ys.length = xs.length ∧ ∀ i x y, xs[i]? = some x → ys[i]? = some y → holds i x y := by
  choose value holds_value using fun i : Fin xs.length => each i xs[i] (List.getElem?_eq_getElem i.isLt)
  refine ⟨List.ofFn value, List.length_ofFn, fun i x y inXs inYs => ?_⟩
  obtain ⟨small, rfl⟩ := List.getElem?_eq_some_iff.mp inXs
  rw [List.getElem?_ofFn, dif_pos small] at inYs
  obtain rfl := Option.some.inj inYs
  exact holds_value ⟨i, small⟩

/-- A loop of writers against the readers in turn. -/
theorem Mirrors.inTurn {body : α → Put ε Unit} {item : α → Get ε β} {related : α → Nat → β → Prop} {xs : List α}
    (each : ∀ x ∈ xs, Mirrors (body x) (item x) (related x)) :
    Mirrors (Put.each body xs) (Get.inTurn item xs)
      fun after ys => InTurn (fun later => (Put.each body later).size) related after xs ys := by
  induction xs with
  | nil =>
    intro c out emits rest ys left
    obtain rfl := Put.emits_each_nil.mp emits
    rw [Get.inTurn, List.nil_append, Get.yields_pure]
    simp only [inTurn_nil]
    exact ⟨fun ⟨empty, same⟩ => ⟨same.symm, empty.symm⟩, fun ⟨same, empty⟩ => ⟨empty.symm, same.symm⟩⟩
  | cons x xs ih =>
    intro c out emits rest ys left
    obtain ⟨first, others, emitsHead, emitsTail, rfl⟩ := Put.emits_each_cons.mp emits
    rw [List.append_assoc, Get.inTurn, Get.yields_bind]
    simp only [inTurn_cons]
    have behind : (others ++ rest).length = (Put.each body xs).size + rest.length := by
      rw [List.length_append, emitsTail.size]
    have tail := ih (fun y member => each y (List.mem_cons_of_mem _ member)) emitsTail rest
    have head := each x List.mem_cons_self emitsHead (others ++ rest)
    constructor
    · rintro ⟨y, mid, yieldsHead, yields⟩
      obtain ⟨zs, mid', yieldsTail, made⟩ := Get.yields_bind.mp yields
      obtain ⟨rfl, rfl⟩ := Get.yields_pure.mp made
      obtain ⟨rfl, isHead⟩ := (head y mid).mp yieldsHead
      obtain ⟨rfl, isTail⟩ := (tail zs mid').mp yieldsTail
      exact ⟨rfl, y, zs, rfl, behind ▸ isHead, isTail⟩
    · rintro ⟨rfl, y, zs, rfl, isHead, isTail⟩
      refine ⟨y, others ++ left, (head y _).mpr ⟨rfl, behind.symm ▸ isHead⟩, ?_⟩
      exact Get.yields_bind.mpr ⟨zs, left, (tail zs left).mpr ⟨rfl, isTail⟩, Get.yields_pure.mpr ⟨rfl, rfl⟩⟩

end PhantasmaPy.Wire
