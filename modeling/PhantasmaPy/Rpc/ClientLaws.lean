import PhantasmaPy.Rpc.Client
import PhantasmaPy.Wire.Outcome

/-! # Reading responses

A body is read whole or refused, whatever the chunks that it comes in, and never held beyond the limit.
-/

namespace PhantasmaPy

open Wire

variable {rt : RpcRuntime} {response : Response} {feed : Feed PyError Chunk} {limit : Int}

/-! ## Chunks -/

/-- The bytes of the chunks, one by one. -/
def Converts (chunks : List Chunk) (raws : List Bytes) : Prop :=
  List.Forall₂ (fun chunk raw => chunk.raw = .ok raw) chunks raws

theorem Chunk.raw_of_isEmpty {chunk : Chunk} (empty : chunk.isEmpty) : chunk.raw = .ok [] := by
  cases chunk with
  | bytes raw => rw [Chunk.raw, List.isEmpty_iff.mp empty]
  | str text =>
    rw [Chunk.raw, List.isEmpty_iff.mp empty]
    rfl

theorem Converts.concat {chunks : List Chunk} {raws : List Bytes} {chunk : Chunk} {raw : Bytes}
    (converts : Converts chunks raws) (converted : chunk.raw = .ok raw) :
    Converts (chunks ++ [chunk]) (raws ++ [raw]) :=
  List.rel_append converts (.cons converted .nil)

/-- The bytes of a chunk among others lie between those of the chunks around it. -/
theorem Converts.around {before after : List Chunk} {chunk : Chunk} {raws : List Bytes}
    (converts : Converts (before ++ chunk :: after) raws) :
    ∃ left raw right, raws = left ++ raw :: right ∧ Converts before left ∧ chunk.raw = .ok raw := by
  induction before generalizing raws with
  | nil =>
    obtain ⟨raw, right, converted, -, rfl⟩ := List.forall₂_cons_left_iff.mp converts
    exact ⟨[], raw, right, rfl, .nil, converted⟩
  | cons first before ih =>
    obtain ⟨head, rest, converted, others, rfl⟩ := List.forall₂_cons_left_iff.mp converts
    obtain ⟨left, raw, right, rfl, front, inner⟩ := ih others
    exact ⟨head :: left, raw, right, rfl, .cons converted front, inner⟩

theorem Converts.unique {chunks : List Chunk} {raws raws' : List Bytes} (left : Converts chunks raws)
    (right : Converts chunks raws') : raws = raws' := by
  have same : .ok raws = (.ok raws' : Except PyError (List Bytes)) :=
    (mapM_eq_ok.mpr left).symm.trans (mapM_eq_ok.mpr right)
  exact Except.ok.inj same

theorem ensureResponseSize_eq_ok {size : Int} : ensureResponseSize size limit = .ok () ↔ size ≤ limit := by
  unfold ensureResponseSize
  split
  next large => simp [large]
  next small => simp [not_lt.mp small]

theorem ensureResponseSize_eq_error {size : Int} (large : limit < size) :
    ensureResponseSize size limit = .error (exceeds limit) := by
  unfold ensureResponseSize
  rw [if_pos large]

/-- What is kept are the bytes of the chunks seen so far, with their size, which fits. -/
def Kept (limit : Int) (seen : List Chunk) (kept : List Bytes × Nat) : Prop :=
  ∃ raws, Converts seen raws ∧ kept.1.flatten = raws.flatten ∧ kept.2 = raws.flatten.length ∧
    (raws.flatten.length : Int) ≤ limit

theorem keepChunk_empty {chunk : Chunk} (empty : chunk.isEmpty) (kept : List Bytes × Nat) :
    keepChunk limit kept chunk = .ok kept := by
  unfold keepChunk
  rw [if_pos empty]

theorem keepChunk_raw {chunk : Chunk} (some : ¬ chunk.isEmpty) {raw : Bytes} (converted : chunk.raw = .ok raw)
    (kept : List Bytes × Nat) :
    keepChunk limit kept chunk =
      (ensureResponseSize (kept.2 + raw.length : Nat) limit).map fun _ => (kept.1 ++ [raw], kept.2 + raw.length) := by
  unfold keepChunk
  rw [if_neg some, converted]
  change (ensureResponseSize _ _ >>= _) = _
  cases ensureResponseSize (kept.2 + raw.length : Nat) limit <;> rfl

/-- A round keeps what it may keep. -/
theorem Kept.next {seen : List Chunk} {chunk : Chunk} {kept kept' : List Bytes × Nat} (held : Kept limit seen kept)
    (round : keepChunk limit kept chunk = .ok kept') : Kept limit (seen ++ [chunk]) kept' := by
  obtain ⟨raws, converts, flat, size, fits⟩ := held
  by_cases empty : chunk.isEmpty
  · rw [keepChunk_empty empty] at round
    obtain rfl := Except.ok.inj round
    -- an empty chunk is skipped, and adds no bytes to the whole
    refine ⟨raws ++ [[]], converts.concat (Chunk.raw_of_isEmpty empty), ?_⟩
    have same : (raws ++ [[]]).flatten = raws.flatten := by simp
    rw [same]
    exact ⟨flat, size, fits⟩
  · cases converted : chunk.raw with
    | error e =>
      unfold keepChunk at round
      rw [if_neg empty, converted] at round
      cases round
    | ok raw =>
      rw [keepChunk_raw empty converted] at round
      cases checked : ensureResponseSize (kept.2 + raw.length : Nat) limit with
      | error e =>
        rw [checked] at round
        cases round
      | ok _ =>
        rw [checked] at round
        obtain rfl := Except.ok.inj round
        have small := ensureResponseSize_eq_ok.mp checked
        refine ⟨raws ++ [raw], converts.concat converted, ?_, ?_, ?_⟩
        · rw [List.flatten_append, flat, List.flatten_append]
        · rw [List.flatten_append, List.length_append, ← size, List.flatten_singleton]
        · rwa [List.flatten_append, List.length_append, ← size, List.flatten_singleton]

/-- A round that the limit stops, or a chunk without bytes. -/
theorem keepChunk_eq_error {chunk : Chunk} {kept : List Bytes × Nat} {e : PyError}
    (refused : keepChunk limit kept chunk = .error e) :
    chunk.raw = .error e ∨ ∃ raw, chunk.raw = .ok raw ∧ limit < (kept.2 + raw.length : Nat) ∧ e = exceeds limit := by
  by_cases empty : chunk.isEmpty
  · rw [keepChunk_empty empty] at refused
    cases refused
  · cases converted : chunk.raw with
    | error e' =>
      unfold keepChunk at refused
      rw [if_neg empty, converted] at refused
      obtain rfl := Except.error.inj refused
      -- a text with a surrogate has no bytes
      exact .inl rfl
    | ok raw =>
      rw [keepChunk_raw empty converted] at refused
      rcases le_or_gt ((kept.2 + raw.length : Nat) : Int) limit with small | large
      · rw [ensureResponseSize_eq_ok.mpr small] at refused
        cases refused
      · rw [ensureResponseSize_eq_error large] at refused
        obtain rfl := Except.error.inj refused
        exact .inr ⟨raw, rfl, large, rfl⟩

/-! ## Bodies -/

/-- What a loop over the chunks comes to: the whole body within the limit, or an error of the connection or of a
    chunk after a part within the limit, or the refusal of the first chunk that does not fit. -/
inductive BodyRead (limit : Int) (feed : Feed PyError Chunk) : Except PyError (List Bytes × Nat) × Nat → Prop
  | whole {raws : List Bytes} {kept : List Bytes × Nat} : Converts feed.items raws →
      (raws.flatten.length : Int) ≤ limit → feed.failure = none → kept.1.flatten = raws.flatten →
      BodyRead limit feed (.ok kept, feed.items.length)
  | broken {raws : List Bytes} {e : PyError} : Converts feed.items raws → (raws.flatten.length : Int) ≤ limit →
      feed.failure = some e → BodyRead limit feed (.error e, feed.items.length)
  | illegible {before after : List Chunk} {chunk : Chunk} {raws : List Bytes} {e : PyError} :
      feed.items = before ++ chunk :: after → Converts before raws → (raws.flatten.length : Int) ≤ limit →
      chunk.raw = .error e → BodyRead limit feed (.error e, before.length + 1)
  | oversized {before after : List Chunk} {chunk : Chunk} {raws : List Bytes} {raw : Bytes} :
      feed.items = before ++ chunk :: after → Converts before raws → (raws.flatten.length : Int) ≤ limit →
      chunk.raw = .ok raw → limit < raws.flatten.length + raw.length →
      BodyRead limit feed (.error (exceeds limit), before.length + 1)

theorem fold_bodyRead (nonneg : 0 ≤ limit) (feed : Feed PyError Chunk) :
    BodyRead limit feed (feed.fold (keepChunk limit) ([], 0)) := by
  have start : Kept limit [] ([], 0) := ⟨[], .nil, rfl, rfl, nonneg⟩
  have reached {items : List Chunk} {kept : List Bytes × Nat}
      (ran : items.foldlM (keepChunk limit) ([], 0) = .ok kept) : Kept limit items kept :=
    Feed.foldlM_ensures (fun _ _ _ _ held round => held.next round) start ran
  have folded := feed.fold_folded (keepChunk limit) ([], 0)
  generalize feed.fold (keepChunk limit) ([], 0) = outcome at folded ⊢
  -- the loop keeps its invariant up to where it ends, breaks off or is stopped
  cases folded with
  | finished ran ended =>
    obtain ⟨raws, converts, flat, -, fits⟩ := reached ran
    exact .whole converts fits ended flat
  | interrupted ran broken =>
    obtain ⟨raws, converts, -, -, fits⟩ := reached ran
    exact .broken converts fits broken
  | stopped split ran failed =>
    obtain ⟨raws, converts, -, size, fits⟩ := reached ran
    rcases keepChunk_eq_error failed with illegible | ⟨raw, converted, large, rfl⟩
    · exact .illegible split converts fits illegible
    · exact .oversized split converts fits converted (by rw [size] at large; exact_mod_cast large)

/-- All chunks but the last one taken were within the limit. -/
theorem BodyRead.held {outcome : Except PyError (List Bytes × Nat) × Nat} (read : BodyRead limit feed outcome) :
    ∃ raws, Converts (feed.items.take (outcome.2 - 1)) raws ∧ (raws.flatten.length : Int) ≤ limit := by
  have front {raws : List Bytes} (converts : Converts feed.items raws) (fits : (raws.flatten.length : Int) ≤ limit)
      (count : Nat) : ∃ raws, Converts (feed.items.take count) raws ∧ (raws.flatten.length : Int) ≤ limit := by
    have shorter := (List.take_sublist count raws).flatten.length_le
    exact ⟨raws.take count, List.forall₂_take count converts, by omega⟩
  have before {earlier after : List Chunk} {chunk : Chunk} (split : feed.items = earlier ++ chunk :: after) :
      feed.items.take (earlier.length + 1 - 1) = earlier := by
    rw [split, Nat.add_sub_cancel, List.take_left]
  cases read with
  | whole converts fits _ _ => exact front converts fits _
  | broken converts fits _ => exact front converts fits _
  | illegible split converts fits _ => exact ⟨_, by rwa [before split], fits⟩
  | oversized split converts fits _ _ => exact ⟨_, by rwa [before split], fits⟩

/-- A body whose chunks are all there is kept whole within the limit, and refused beyond it. -/
theorem BodyRead.agrees {outcome : Except PyError (List Bytes × Nat) × Nat} (read : BodyRead limit feed outcome)
    {raws : List Bytes} (converts : Converts feed.items raws) (ended : feed.failure = none) :
    outcome.1.map (fun kept => kept.1.flatten) =
      (ensureResponseSize raws.flatten.length limit).map fun _ => raws.flatten := by
  cases read with
  | whole converts' fits _ flat =>
    obtain rfl := converts.unique converts'
    rw [ensureResponseSize_eq_ok.mpr fits, ← flat]
    rfl
  | broken _ _ failed =>
    rw [ended] at failed
    cases failed
  -- a chunk without bytes is none that converts
  | illegible split _ _ failed =>
    rw [split] at converts
    obtain ⟨left, raw, right, -, -, converted⟩ := converts.around
    rw [failed] at converted
    cases converted
  | oversized split converts' _ converted large =>
    rw [split] at converts
    obtain ⟨left, raw, right, rfl, front, converted'⟩ := converts.around
    obtain rfl := front.unique converts'
    obtain rfl := Except.ok.inj (converted'.symm.trans converted)
    -- what does not fit after the first chunks does not fit after all of them
    have exceeded : limit < ((left ++ raw :: right).flatten.length : Int) := by
      rw [List.flatten_append, List.flatten_cons, List.length_append, List.length_append]
      omega
    rw [ensureResponseSize_eq_error exceeded]
    rfl

/-- The response with its body in one piece. -/
def Response.unsplit (self : Response) (raw : Bytes) : Response :=
  { self with iterContent := none, content := some (.bytes raw) }

/-- The size that the headers declare is over the limit. -/
def Response.DeclaresTooMuch (rt : RpcRuntime) (self : Response) (limit : Int) : Prop :=
  ∃ size, self.contentLength rt = some size ∧ limit < size

theorem readResponseText_declared (declares : response.DeclaresTooMuch rt limit) :
    readResponseText rt response limit = (.error (exceeds limit), 0) := by
  obtain ⟨size, declared, large⟩ := declares
  unfold readResponseText
  rw [declared]
  dsimp only
  rw [ensureResponseSize_eq_error large]

theorem readResponseText_streamed (admits : ¬ response.DeclaresTooMuch rt limit)
    (streamed : response.iterContent = some feed) :
    readResponseText rt response limit =
      (do
        let (chunks, _) ← (feed.fold (keepChunk limit) ([], 0)).1
        return some (← rt.decode response.codec chunks.flatten),
      (feed.fold (keepChunk limit) ([], 0)).2) := by
  unfold readResponseText
  rw [streamed]
  cases declared : response.contentLength rt with
  | none => rfl
  | some size =>
    have small : size ≤ limit := le_of_not_gt fun large => admits ⟨size, declared, large⟩
    dsimp only
    rw [ensureResponseSize_eq_ok.mpr small]

theorem readResponseText_unsplit (admits : ¬ response.DeclaresTooMuch rt limit) (raw : Bytes) :
    (readResponseText rt (response.unsplit raw) limit).1 = (do
      ensureResponseSize raw.length limit
      return some (← rt.decode response.codec raw)) := by
  have same : (response.unsplit raw).contentLength rt = response.contentLength rt := rfl
  unfold readResponseText
  rw [same]
  cases declared : response.contentLength rt with
  | none => rfl
  | some size =>
    have small : size ≤ limit := le_of_not_gt fun large => admits ⟨size, declared, large⟩
    dsimp only
    rw [ensureResponseSize_eq_ok.mpr small]
    rfl

/-- The bytes of the first chunks are the first ones of the bytes of all that follow them up. -/
theorem Converts.front_le {before middle : List Chunk} {front raws : List Bytes} (first : Converts before front)
    (whole : Converts (before ++ middle) raws) : front.flatten.length ≤ raws.flatten.length := by
  obtain ⟨left, right, rfl, converts⟩ : ∃ left right, raws = left ++ right ∧ Converts before left := by
    have taken := List.forall₂_take before.length whole
    rw [List.take_left] at taken
    exact ⟨_, _, (List.take_append_drop before.length raws).symm, taken⟩
  obtain rfl := first.unique converts
  rw [List.flatten_append, List.length_append]
  exact Nat.le_add_right _ _

/-- When the first chunks are over the limit, the loop ends among them with its refusal. -/
theorem BodyRead.stopped {outcome : Except PyError (List Bytes × Nat) × Nat} (read : BodyRead limit feed outcome)
    {before after : List Chunk} {front : List Bytes} (split : feed.items = before ++ after)
    (converts : Converts before front) (large : limit < front.flatten.length) :
    outcome.1 = .error (exceeds limit) ∧ outcome.2 ≤ before.length := by
  have larger {raws : List Bytes} (fits : (raws.flatten.length : Int) ≤ limit) (middle : List Chunk) :
      ¬ Converts (before ++ middle) raws := by
    intro whole
    have shorter := converts.front_le whole
    omega
  -- chunks within the limit do not reach as far as those beyond it
  have past {earlier later : List Chunk} {chunk : Chunk} {raws : List Bytes}
      (split' : feed.items = earlier ++ chunk :: later) (within : Converts earlier raws)
      (fits : (raws.flatten.length : Int) ≤ limit) : ∃ middle, before = earlier ++ chunk :: middle := by
    rcases List.append_eq_append_iff.mp (split.symm.trans split') with ⟨middle, rfl, _⟩ | ⟨middle, same, rest⟩
    · exact absurd within (larger fits middle)
    · cases middle with
      | nil =>
        have whole : before ++ [] = earlier := by rw [same, List.append_nil, List.append_nil]
        exact absurd (whole ▸ within) (larger fits [])
      | cons first middle =>
        obtain ⟨rfl, -⟩ := List.cons.inj rest
        exact ⟨middle, same⟩
  cases read with
  | whole all fits _ _ => exact absurd (split ▸ all) (larger fits after)
  | broken all fits _ => exact absurd (split ▸ all) (larger fits after)
  | illegible split' within fits failed =>
    obtain ⟨middle, rfl⟩ := past split' within fits
    obtain ⟨_, _, _, -, -, converted⟩ := converts.around
    rw [failed] at converted
    cases converted
  | oversized split' within fits _ _ =>
    obtain ⟨middle, rfl⟩ := past split' within fits
    exact ⟨rfl, by simp⟩

/-- A streamed body is read as the same body in one piece would be, however it is split: its text is returned
    exactly if no size over the limit is declared and the whole body is there, fits and decodes.  A declared size
    over the limit is refused with no chunk taken, a larger body among the chunks that first pass the limit, and the
    chunks before the last one taken are within the limit. -/
theorem streamed_reading (rt : RpcRuntime) (response : Response) (feed : Feed PyError Chunk) (limit : Int)
    (nonneg : 0 ≤ limit) (streamed : response.iterContent = some feed) :
    (∀ text, (readResponseText rt response limit).1 = .ok (some text) ↔
      ¬ response.DeclaresTooMuch rt limit ∧ ∃ raws, Converts feed.items raws ∧ feed.failure = none ∧
        (raws.flatten.length : Int) ≤ limit ∧ rt.decode response.codec raws.flatten = .ok text) ∧
    (response.DeclaresTooMuch rt limit → readResponseText rt response limit = (.error (exceeds limit), 0)) ∧
    (∀ before after raws, feed.items = before ++ after → Converts before raws → limit < raws.flatten.length →
      (readResponseText rt response limit).1 = .error (exceeds limit) ∧
        (readResponseText rt response limit).2 ≤ before.length) ∧
    (∀ raws, Converts feed.items raws → feed.failure = none →
      (readResponseText rt response limit).1 = (readResponseText rt (response.unsplit raws.flatten) limit).1) ∧
    ∃ raws, Converts (feed.items.take ((readResponseText rt response limit).2 - 1)) raws ∧
      (raws.flatten.length : Int) ≤ limit := by
  -- a declared size over the limit is refused before the body is looked at, in both forms alike
  by_cases declares : response.DeclaresTooMuch rt limit
  · have refused := readResponseText_declared declares
    refine ⟨?_, fun _ => refused, ?_, ?_, ?_⟩
    · intro text
      rw [refused]
      exact ⟨nofun, fun returned => absurd declares returned.1⟩
    · intro before after raws _ _ _
      rw [refused]
      exact ⟨rfl, Nat.zero_le _⟩
    · intro raws converts ended
      have same : (response.unsplit raws.flatten).DeclaresTooMuch rt limit := declares
      rw [refused, readResponseText_declared same]
    · rw [refused]
      exact ⟨[], .nil, nonneg⟩
  · rw [readResponseText_streamed declares streamed]
    have read := fold_bodyRead nonneg feed
    generalize feed.fold (keepChunk limit) ([], 0) = outcome at read ⊢
    have text : (do
        let (chunks, _) ← outcome.1
        return some (← rt.decode response.codec chunks.flatten)) =
        outcome.1.map (fun kept => kept.1.flatten) >>= fun whole => (rt.decode response.codec whole).map some := by
      cases outcome.1 <;> rfl
    refine ⟨?_, fun declared => absurd declared declares, ?_, ?_, read.held⟩
    · intro whole
      rw [text]
      constructor
      · intro returned
        obtain ⟨raw, joined, mapped⟩ := except_bind_eq_ok.mp returned
        obtain ⟨text', decoded, same⟩ := map_eq_ok.mp mapped
        obtain rfl : text' = whole := Option.some.inj same
        refine ⟨declares, ?_⟩
        cases read with
        | whole converts fits ended flat =>
          obtain rfl := Except.ok.inj joined
          exact ⟨_, converts, ended, fits, flat ▸ decoded⟩
        | broken _ _ _ => cases joined
        | illegible _ _ _ _ => cases joined
        | oversized _ _ _ _ _ => cases joined
      · rintro ⟨-, raws, converts, ended, fits, decoded⟩
        rw [read.agrees converts ended, ensureResponseSize_eq_ok.mpr fits]
        change (rt.decode response.codec raws.flatten).map some = .ok (some whole)
        rw [decoded]
        rfl
    · intro before after raws split converts large
      obtain ⟨refused, taken⟩ := read.stopped split converts large
      rw [text, refused]
      exact ⟨rfl, taken⟩
    · intro raws converts ended
      -- the text is made of the same bytes, after a check that comes to the same
      have inOnePiece : (do
          ensureResponseSize raws.flatten.length limit
          return some (← rt.decode response.codec raws.flatten)) =
          (ensureResponseSize raws.flatten.length limit).map (fun _ => raws.flatten) >>= fun whole =>
            (rt.decode response.codec whole).map some := by
        cases ensureResponseSize raws.flatten.length limit <;> rfl
      rw [readResponseText_unsplit declares, inOnePiece, ← read.agrees converts ended]
      exact text

/-- A runtime without tables of its own, for bodies that come as UTF-8 or parsed. -/
def plainRuntime : RpcRuntime where
  interp := latin1
  floatInt _ := .error .valueError
  lower := id
  loads _ := .error .valueError
  decode _ := decodeText

/-- A body in three chunks, one of them empty and one of them text. -/
def splitFeed : Feed PyError Chunk := { items := [.bytes [123], .bytes [], .str (Str.ofString "\x7d")] }

theorem streamed_reading_split :
    (readResponseText plainRuntime { iterContent := some splitFeed } 2).1 =
      (readResponseText plainRuntime { content := some (.bytes [123, 125]) } 2).1 := by
  have converts : Converts splitFeed.items [[123], [], [125]] :=
    .cons rfl (.cons rfl (.cons (by decide +kernel) .nil))
  obtain ⟨-, -, -, agrees, -⟩ := streamed_reading plainRuntime { iterContent := some splitFeed } splitFeed 2 (by decide) rfl
  exact agrees _ converts rfl

end PhantasmaPy
