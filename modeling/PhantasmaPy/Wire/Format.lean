import PhantasmaPy.Wire.Codec

/-! # Formats of records

A record is written field by field and read back field by field.  `Lossless` states everything the
formats need of one such writer and reader, relative to what the fields already read have fixed
about the record (`known`); its rules follow the fields.

`Marked` is the same for a record with pieces that the reader accepts in more than one spelling: a
scanner collects the spellings of those pieces, and the writer restores the bytes that were read
exactly when every collected piece is canonical.
-/

namespace PhantasmaPy.Wire

variable {ε α β : Type}

/-- The writer and the reader are converse to each other, and an image has `least` bytes or more. -/
structure Lossless (least : Nat) (domain known : α → Prop) (write : α → Put ε Unit)
    (read : Get ε α) : Prop where
  emits : ∀ a, domain a → known a → ∃ out, (write a).Emits () out ∧ read.Parses out a
  yields : ∀ ⦃bs a rest⦄, read.Yields bs a rest →
    known a ∧ ∃ out, bs = out ++ rest ∧ least ≤ out.length ∧ (write a).Emits () out ∧
      read.Parses out a

namespace Lossless

variable {least : Nat} {domain known : α → Prop} {write : α → Put ε Unit} {read : Get ε α}

theorem of (roundTrips : RoundTrips domain write read) (restores : Restores write read)
    (isLocal : read.Local) (bound : ∀ ⦃out a⦄, read.Parses out a → least ≤ out.length) :
    Lossless least domain (fun _ => True) write read where
  emits a inside _ := roundTrips a inside
  yields bs a rest yields := by
    obtain ⟨out, rfl, parses⟩ := isLocal yields
    obtain ⟨out', same, emits⟩ := restores yields
    obtain rfl := List.append_cancel_right same
    exact ⟨trivial, out, rfl, bound parses, emits, parses⟩

theorem mono {domain' : α → Prop} (format : Lossless least domain known write read)
    (subset : ∀ a, domain' a → domain a) : Lossless least domain' known write read where
  emits a inside := format.emits a (subset a inside)
  yields := format.yields

theorem roundTrips (format : Lossless least domain (fun _ => True) write read) :
    RoundTrips domain write read := fun a inside => format.emits a inside trivial

theorem restores (format : Lossless least domain known write read) : Restores write read := by
  intro bs a rest yields
  obtain ⟨_, out, equal, _, emits, _⟩ := format.yields yields
  exact ⟨out, equal, emits⟩

theorem isLocal (format : Lossless least domain known write read) : read.Local := by
  intro bs a rest yields
  obtain ⟨_, out, equal, _, _, parses⟩ := format.yields yields
  exact ⟨out, equal, parses⟩

theorem consumes (format : Lossless least domain known write read) (positive : 0 < least) :
    read.Consumes := by
  intro bs a rest yields
  obtain ⟨_, out, rfl, bound, _⟩ := format.yields yields
  rw [List.length_append]
  omega

/-- A field in front of the fields that the rest of the record consists of. -/
theorem field {first more : Nat} {inner : β → Prop} {writeField : β → Put ε Unit}
    {readField : Get ε β} {readRest : β → Get ε α} (get : α → β)
    (head : Lossless first inner (fun _ => True) writeField readField)
    (tail : ∀ x, Lossless more domain (fun a => known a ∧ get a = x) write (readRest x)) :
    Lossless (first + more) (fun a => inner (get a) ∧ domain a) known
      (fun a => do writeField (get a); write a) (readField >>= readRest) where
  emits a := by
    rintro ⟨inside, rest⟩ isKnown
    have first : Conveys _ _ _ _ := head.emits (get a) inside trivial
    exact first.seq ((tail (get a)).emits a rest ⟨isKnown, rfl⟩)
  yields bs a rest yields := by
    obtain ⟨x, mid, first, second⟩ := Get.yields_bind.mp yields
    obtain ⟨_, out, rfl, bound, emits, parses⟩ := head.yields first
    obtain ⟨⟨isKnown, rfl⟩, out', rfl, bound', emits', parses'⟩ := (tail x).yields second
    refine ⟨isKnown, out ++ out', by rw [List.append_assoc], ?_, emits.bind emits',
      parses.bind parses'⟩
    rw [List.length_append]
    omega

/-- The last field, with which the record is built. -/
theorem last {inner : β → Prop} {writeField : β → Put ε Unit} {readField : Get ε β}
    {build : β → α} (get : α → β) (field : Lossless least inner (fun _ => True) writeField readField)
    (built : ∀ a x, known a ∧ get a = x ↔ a = build x) :
    Lossless least (fun a => inner (get a)) known (fun a => writeField (get a))
      (do let x ← readField; return build x) where
  emits a inside isKnown := by
    obtain ⟨out, emits, parses⟩ := field.emits (get a) inside trivial
    have equal := (built a (get a)).mp ⟨isKnown, rfl⟩
    refine ⟨out, emits, ?_⟩
    conv_rhs => rw [equal]
    exact parses.map build
  yields bs a rest yields := by
    obtain ⟨x, mid, first, second⟩ := Get.yields_bind.mp yields
    obtain ⟨rfl, rfl⟩ := Get.yields_pure.mp second
    obtain ⟨_, out, rfl, bound, emits, parses⟩ := field.yields first
    obtain ⟨isKnown, same⟩ := (built (build x) x).mpr rfl
    refine ⟨isKnown, out, rfl, bound, ?_, parses.map build⟩
    rwa [same]

end Lossless

/-- The reader accepts marked pieces in several spellings, of which the writer knows one. -/
structure Marked (canonical : Bytes → Prop) (least : Nat) (domain known : α → Prop)
    (write : α → Put ε Unit) (read : Get ε α) (scan : Get ε (List Bytes)) : Prop where
  emits : ∀ a, domain a → known a → ∃ out, (write a).Emits () out ∧ read.Parses out a
  yields : ∀ ⦃bs a rest⦄, read.Yields bs a rest →
    known a ∧ ∃ image out pieces, bs = image ++ rest ∧ least ≤ image.length ∧
      read.Parses image a ∧ (write a).Emits () out ∧ read.Parses out a ∧
      scan.Parses image pieces ∧ ((∀ piece ∈ pieces, canonical piece) ↔ out = image)

/-- Pass over what `read` reads. -/
def Get.skip (read : Get ε α) : Get ε (List Bytes) := do
  let _ ← read
  return []

/-- Collect the pieces of two scanners, one after the other. -/
def Get.both (first second : Get ε (List Bytes)) : Get ε (List Bytes) := do
  let left ← first
  let right ← second
  return left ++ right

namespace Marked

variable {canonical : Bytes → Prop} {least : Nat} {domain known : α → Prop}
  {write : α → Put ε Unit} {read : Get ε α} {scan : Get ε (List Bytes)}

theorem of_lossless (format : Lossless least domain known write read) :
    Marked canonical least domain known write read read.skip where
  emits := format.emits
  yields bs a rest yields := by
    obtain ⟨isKnown, out, equal, bound, emits, parses⟩ := format.yields yields
    refine ⟨isKnown, out, out, [], equal, bound, parses, emits, parses, parses.map _, ?_⟩
    simp

theorem mono {domain' : α → Prop} (format : Marked canonical least domain known write read scan)
    (subset : ∀ a, known a → domain' a → domain a) :
    Marked canonical least domain' known write read scan where
  emits a inside isKnown := format.emits a (subset a isKnown inside) isKnown
  yields := format.yields

theorem atLeast {fewer : Nat} (format : Marked canonical least domain known write read scan)
    (bound : fewer ≤ least) : Marked canonical fewer domain known write read scan where
  emits := format.emits
  yields bs a rest yields := by
    obtain ⟨isKnown, image, out, pieces, equal, length, rest⟩ := format.yields yields
    exact ⟨isKnown, image, out, pieces, equal, bound.trans length, rest⟩

theorem roundTrips (format : Marked canonical least domain (fun _ => True) write read scan) :
    RoundTrips domain write read := fun a inside => format.emits a inside trivial

theorem isLocal (format : Marked canonical least domain known write read scan) : read.Local := by
  intro bs a rest yields
  obtain ⟨_, image, _, _, equal, _, parses, _⟩ := format.yields yields
  exact ⟨image, equal, parses⟩

theorem consumes (format : Marked canonical least domain known write read scan)
    (positive : 0 < least) : read.Consumes := by
  intro bs a rest yields
  obtain ⟨_, image, _, _, rfl, bound, _⟩ := format.yields yields
  rw [List.length_append]
  omega

/-- A field that may have marked pieces. -/
theorem field {first more : Nat} {inner : β → Prop} {writeField : β → Put ε Unit}
    {readField : Get ε β} {readRest : β → Get ε α} {scanField : Get ε (List Bytes)} (get : α → β)
    (head : Marked canonical first inner (fun _ => True) writeField readField scanField)
    (tail : ∀ x, Marked canonical more domain (fun a => known a ∧ get a = x) write (readRest x) scan) :
    Marked canonical (first + more) (fun a => inner (get a) ∧ domain a) known
      (fun a => do writeField (get a); write a) (readField >>= readRest)
      (scanField.both scan) where
  emits a := by
    rintro ⟨inside, rest⟩ isKnown
    have first : Conveys _ _ _ _ := head.emits (get a) inside trivial
    exact first.seq ((tail (get a)).emits a rest ⟨isKnown, rfl⟩)
  yields bs a rest yields := by
    obtain ⟨x, mid, first, second⟩ := Get.yields_bind.mp yields
    obtain ⟨_, image, out, pieces, rfl, bound, parses, emits, parsesOut, scans, stable⟩ :=
      head.yields first
    obtain ⟨⟨isKnown, rfl⟩, image', out', pieces', rfl, bound', parses', emits', parsesOut', scans',
      stable'⟩ := (tail x).yields second
    refine ⟨isKnown, image ++ image', out ++ out', pieces ++ pieces', by rw [List.append_assoc], ?_,
      parses.bind parses', emits.bind emits', parsesOut.bind parsesOut',
      scans.bind (scans'.map _), ?_⟩
    · rw [List.length_append]
      omega
    · rw [List.forall_mem_append, stable, stable']
      constructor
      · rintro ⟨rfl, rfl⟩
        rfl
      · intro same
        -- the reader recognises both images of the field, so they end at the same place
        obtain ⟨_, rfl, rfl⟩ := parsesOut.split parses same
        exact ⟨rfl, rfl⟩

/-- A field without marked pieces, on which the layout of the rest may depend. -/
theorem plain {first more : Nat} {inner : β → Prop} {writeField : β → Put ε Unit}
    {readField : Get ε β} {readRest : β → Get ε α} {scanRest : β → Get ε (List Bytes)} (get : α → β)
    (head : Lossless first inner (fun _ => True) writeField readField)
    (tail : ∀ x, Marked canonical more domain (fun a => known a ∧ get a = x) write (readRest x)
      (scanRest x)) :
    Marked canonical (first + more) (fun a => inner (get a) ∧ domain a) known
      (fun a => do writeField (get a); write a) (readField >>= readRest)
      (readField >>= scanRest) where
  emits a := by
    rintro ⟨inside, rest⟩ isKnown
    have first : Conveys _ _ _ _ := head.emits (get a) inside trivial
    exact first.seq ((tail (get a)).emits a rest ⟨isKnown, rfl⟩)
  yields bs a rest yields := by
    obtain ⟨x, mid, first, second⟩ := Get.yields_bind.mp yields
    obtain ⟨_, out, rfl, bound, emits, parses⟩ := head.yields first
    obtain ⟨⟨isKnown, rfl⟩, image', out', pieces', rfl, bound', parses', emits', parsesOut', scans',
      stable'⟩ := (tail x).yields second
    refine ⟨isKnown, out ++ image', out ++ out', pieces', by rw [List.append_assoc], ?_,
      parses.bind parses', emits.bind emits', parses.bind parsesOut', parses.bind scans', ?_⟩
    · rw [List.length_append]
      omega
    · rw [stable', List.append_cancel_left_eq]

/-- The last field, with which the record is built. -/
theorem last {inner : β → Prop} {writeField : β → Put ε Unit} {readField : Get ε β}
    {build : β → α} (get : α → β) (field : Marked canonical least inner (fun _ => True) writeField readField scan)
    (built : ∀ a x, known a ∧ get a = x ↔ a = build x) :
    Marked canonical least (fun a => inner (get a)) known (fun a => writeField (get a))
      (do let x ← readField; return build x) scan where
  emits a inside isKnown := by
    obtain ⟨out, emits, parses⟩ := field.emits (get a) inside trivial
    have equal := (built a (get a)).mp ⟨isKnown, rfl⟩
    refine ⟨out, emits, ?_⟩
    conv_rhs => rw [equal]
    exact parses.map build
  yields bs a rest yields := by
    obtain ⟨x, mid, first, second⟩ := Get.yields_bind.mp yields
    obtain ⟨rfl, rfl⟩ := Get.yields_pure.mp second
    obtain ⟨_, image, out, pieces, rfl, bound, parses, emits, parsesOut, scans, stable⟩ :=
      field.yields first
    obtain ⟨isKnown, same⟩ := (built (build x) x).mpr rfl
    refine ⟨isKnown, image, out, pieces, rfl, bound, parses.map build, ?_, parsesOut.map build, scans,
      stable⟩
    rwa [same]

/-- A record that is one alternative of a union. -/
theorem alternative {inner : β → Prop} {writeInner : β → Put ε Unit} {readInner : Get ε β}
    (wrap : β → α) (format : Marked canonical least inner (fun _ => True) writeInner readInner scan)
    (writes : ∀ b, write (wrap b) = writeInner b) :
    Marked canonical least (fun a => ∃ b, a = wrap b ∧ inner b) (fun _ => True) write
      (do let b ← readInner; return wrap b) scan where
  emits := by
    rintro _ ⟨b, rfl, inside⟩ -
    obtain ⟨out, emits, parses⟩ := format.emits b inside trivial
    refine ⟨out, ?_, parses.map wrap⟩
    rwa [writes]
  yields bs a rest yields := by
    obtain ⟨b, mid, first, second⟩ := Get.yields_bind.mp yields
    obtain ⟨rfl, rfl⟩ := Get.yields_pure.mp second
    obtain ⟨_, image, out, pieces, rfl, bound, parses, emits, parsesOut, scans, stable⟩ :=
      format.yields first
    refine ⟨trivial, image, out, pieces, rfl, bound, parses.map wrap, ?_, parsesOut.map wrap, scans,
      stable⟩
    rwa [writes]

/-- Repetition collects the pieces of all elements. -/
theorem times (format : Marked canonical least domain (fun _ => True) write read scan) {count : Nat}
    {bs rest : Bytes} {xs : List α} (yields : (Get.times read count).Yields bs xs rest) :
    xs.length = count ∧ ∃ image out pieces, bs = image ++ rest ∧
      (Get.times read count).Parses image xs ∧ (Put.each write xs).Emits () out ∧
      (Get.times read count).Parses out xs ∧
      (Get.times scan count).Parses image pieces ∧
      ((∀ piece ∈ pieces.flatten, canonical piece) ↔ out = image) := by
  induction count generalizing bs xs with
  | zero =>
    obtain ⟨rfl, rfl⟩ := Get.yields_pure.mp yields
    exact ⟨rfl, [], [], [], rfl, Get.Parses.pure [], Put.emits_each_nil.mpr rfl, Get.Parses.pure [],
      Get.Parses.pure [], by simp⟩
  | succ count ih =>
    obtain ⟨a, mid, head, yields⟩ := Get.yields_bind.mp yields
    obtain ⟨as, end', tail, yields⟩ := Get.yields_bind.mp yields
    obtain ⟨rfl, rfl⟩ := Get.yields_pure.mp yields
    obtain ⟨_, image, out, pieces, rfl, _, parses, emits, parsesOut, scans, stable⟩ :=
      format.yields head
    obtain ⟨length, image', out', pieces', rfl, parses', emits', parsesOut', scans', stable'⟩ :=
      ih tail
    refine ⟨by rw [List.length_cons, length], image ++ image', out ++ out', pieces :: pieces',
      by rw [List.append_assoc], parses.bind (parses'.map _),
      Put.emits_each_cons.mpr ⟨_, _, emits, emits', rfl⟩, parsesOut.bind (parsesOut'.map _),
      scans.bind (scans'.map _), ?_⟩
    rw [List.flatten_cons, List.forall_mem_append, stable, stable']
    constructor
    · rintro ⟨rfl, rfl⟩
      rfl
    · intro same
      -- equal wholes split at the same place, since the reader of an item does not look ahead
      obtain ⟨_, rfl, rfl⟩ := parsesOut.split parses same
      exact ⟨rfl, rfl⟩

end Marked

end PhantasmaPy.Wire
