import PhantasmaPy.VM.Transaction
import PhantasmaPy.Wire.Loop
import Mathlib.Data.Nat.Bitwise

/-! # Proof of work

`Transaction.mine`: what it returns, what it leaves behind when it raises, and how often it sets the payload.
-/

namespace PhantasmaPy

open Wire

/-! ## Difficulty -/

namespace Hash

theorem and_shiftLeft_ne_zero {n bit : Nat} : n &&& (1 <<< bit) ≠ 0 ↔ n / 2 ^ bit % 2 = 1 := by
  rw [Nat.one_shiftLeft, Nat.and_two_pow, Nat.testBit_eq_decide_div_mod_eq]
  by_cases set : n / 2 ^ bit % 2 = 1
  · simp [set]
  · simp [set]

/-- The scan of the low bits finds the highest one that is set. -/
theorem scanBits (n start last bits : Nat) :
    (List.range bits).foldl (fun last bit => if n &&& (1 <<< bit) ≠ 0 then 1 + start + bit else last) last =
      if n % 2 ^ bits = 0 then last else start + bitLength (n % 2 ^ bits : Nat) := by
  induction bits with
  | zero => simp [Nat.mod_one]
  | succ bits ih =>
    have digits := @Nat.mod_pow_succ n 2 bits
    have small : n % 2 ^ bits < 2 ^ bits := Nat.mod_lt _ (Nat.two_pow_pos bits)
    rw [List.range_succ, List.foldl_append, ih, List.foldl_cons, List.foldl_nil]
    by_cases set : n / 2 ^ bits % 2 = 1
    · have one : bitLength (1 : Nat) = 1 := by decide
      have high := bitLength_add_mul small Nat.one_ne_zero
      have positive := Nat.two_pow_pos bits
      rw [set] at digits
      rw [if_pos (and_shiftLeft_ne_zero.mpr set), digits, if_neg (by omega), high, one]
      omega
    · rw [show n / 2 ^ bits % 2 = 0 by omega, mul_zero, add_zero] at digits
      rw [if_neg (mt and_shiftLeft_ne_zero.mp set), digits]

theorem scanByte_eq (last : Nat) (byte : UInt8) (index : Nat) :
    scanByte last (byte, index) = if byte.toNat = 0 then last else 8 * index + bitLength byte.toNat := by
  have whole : byte.toNat % 2 ^ 8 = byte.toNat := Nat.mod_eq_of_lt byte.toNat_lt
  have scan := scanBits byte.toNat (index <<< 3) last 8
  have shift : index <<< 3 = 8 * index := by rw [Nat.shiftLeft_eq, mul_comm]
  rw [whole] at scan
  rw [← shift]
  exact scan

theorem lastSetBit_eq (data : Bytes) : data.zipIdx.foldl scanByte 0 = bitLength (natOfLE data) := by
  induction data using List.reverseRecOn with
  | nil => rfl
  | append_singleton data byte ih =>
    have value : natOfLE (data ++ [byte]) = natOfLE data + 2 ^ (8 * data.length) * byte.toNat := by
      rw [natOfLE_append, pow_mul]
      rfl
    have small : natOfLE data < 2 ^ (8 * data.length) := by
      rw [pow_mul]
      exact natOfLE_lt data
    rw [List.zipIdx_append, List.foldl_append, ih, zero_add, List.zipIdx_singleton, List.foldl_cons,
      List.foldl_nil, scanByte_eq, value]
    split
    next zero => rw [zero, mul_zero, add_zero]
    next nonzero => rw [bitLength_add_mul small nonzero]

theorem difficulty_eq (self : Hash) : self.difficulty = 256 - bitLength (natOfLE self.data) := by
  unfold difficulty
  rw [lastSetBit_eq]

/-- A difficulty is reached by the hashes below a power of two, and none above 256. -/
theorem le_difficulty_iff {self : Hash} {difficulty : Int} : difficulty ≤ self.difficulty ↔
    difficulty ≤ 256 ∧ natOfLE self.data < 2 ^ (256 - difficulty).toNat := by
  rw [difficulty_eq, ← bitLength_natCast_le]
  omega

end Hash

namespace VM

/-! ## Mining -/

/-- The state of the search: the transaction, the nonce, and how often the payload was set. -/
structure Search where
  tx : Transaction
  nonce : Nat
  changes : Nat

/-- How a call of `mine` ended, the transaction after it, and how often its payload was set. -/
structure Mining where
  result : Except PyError Unit
  tx : Transaction
  changes : Nat

namespace Transaction

/-- `hash` as a `Hash`. -/
def hashObject (digest : Bytes → Bytes) (self : Transaction) : Except PyError Hash := do
  Hash.new (← self.hash digest)

/-- The test of the loop of `mine`, and its body. -/
def mineStep (digest : Bytes → Bytes) (difficulty : Int) (search : Search) : Search ⊕ Mining :=
  match search.tx.hashObject digest with
  | .error e => .inr { result := .error e, tx := search.tx, changes := search.changes }
  | .ok hash =>
    if hash.difficulty < difficulty then
      match intToBytes 4 (search.nonce + 1 : Nat) with
      -- The encoding raises before the payload is assigned.
      | .error e => .inr { result := .error e, tx := search.tx, changes := search.changes }
      | .ok payload =>
        .inl { tx := { search.tx with payload }, nonce := search.nonce + 1, changes := search.changes + 1 }
    else .inr { result := .ok (), tx := search.tx, changes := search.changes }

/-- The transaction has a hash of that difficulty. -/
def Qualifies (digest : Bytes → Bytes) (difficulty : Int) (self : Transaction) : Prop :=
  ∃ hash, self.hashObject digest = .ok hash ∧ difficulty ≤ hash.difficulty

/-- The transaction with the encoding of a nonce for a payload. -/
def withNonce (self : Transaction) (nonce : Nat) : Transaction := { self with payload := natToLE 4 nonce }

variable {digest : Bytes → Bytes} {difficulty : Int} {search search' : Search} {mining : Mining}

/-- A round that goes on has tried a transaction and takes the next nonce, which has four bytes. -/
theorem mineStep_next (next : mineStep digest difficulty search = .inl search') :
    ¬ search.tx.Qualifies digest difficulty ∧ search.nonce + 1 < 2 ^ 32 ∧
      search' = { tx := search.tx.withNonce (search.nonce + 1), nonce := search.nonce + 1,
                  changes := search.changes + 1 } := by
  unfold mineStep at next
  split at next
  next => cases next
  next hash hashed =>
    split at next
    next easy =>
      split at next
      next => cases next
      next payload encoded =>
        obtain ⟨small, rfl⟩ := intToBytes_natCast_eq_ok.mp encoded
        refine ⟨?_, small, (Sum.inl.inj next).symm⟩
        rintro ⟨hash', hashed', hard⟩
        obtain rfl := Except.ok.inj (hashed.symm.trans hashed')
        omega
    next => cases next

/-- A round that ends the search leaves the transaction, and returns only when it qualifies. -/
theorem mineStep_done (done : mineStep digest difficulty search = .inr mining) :
    mining.tx = search.tx ∧ mining.changes = search.changes ∧
      (mining.result = .ok () → search.tx.Qualifies digest difficulty) := by
  unfold mineStep at done
  split at done
  next =>
    obtain rfl := Sum.inr.inj done
    exact ⟨rfl, rfl, nofun⟩
  next hash hashed =>
    split at done
    next =>
      split at done
      next =>
        obtain rfl := Sum.inr.inj done
        exact ⟨rfl, rfl, nofun⟩
      next => cases done
    next hard =>
      obtain rfl := Sum.inr.inj done
      exact ⟨rfl, rfl, fun _ => ⟨hash, hashed, not_lt.mp hard⟩⟩

/-- The loop of `mine`; the width of the nonce is what bounds it. -/
def mineLoop (digest : Bytes → Bytes) (difficulty : Int) : Loop Search Mining where
  step := mineStep digest difficulty
  measure search := 2 ^ 32 - search.nonce
  decreases := by
    intro search search' next
    obtain ⟨-, small, rfl⟩ := mineStep_next next
    dsimp only
    omega

def mine (digest : Bytes → Bytes) (difficulty : Int) (self : Transaction) : Mining :=
  if difficulty ≤ 0 then { result := .ok (), tx := self, changes := 0 }
  else (mineLoop digest difficulty).run { tx := self, nonce := 0, changes := 0 }

/-- How far the search is: no transaction before the present one qualifies. -/
structure Tried (digest : Bytes → Bytes) (difficulty : Int) (start : Transaction) (search : Search) : Prop where
  changes : search.changes = search.nonce
  small : search.nonce < 2 ^ 32
  tx : search.tx = if search.nonce = 0 then start else start.withNonce search.nonce
  original : 0 < search.nonce → ¬ start.Qualifies digest difficulty
  earlier : ∀ nonce, 1 ≤ nonce → nonce < search.nonce → ¬ (start.withNonce nonce).Qualifies digest difficulty

theorem Tried.next {start : Transaction} (tried : Tried digest difficulty start search)
    (next : mineStep digest difficulty search = .inl search') : Tried digest difficulty start search' := by
  obtain ⟨fails, small, rfl⟩ := mineStep_next next
  have same := tried.tx
  refine ⟨congrArg (· + 1) tried.changes, small, ?_, ?_, ?_⟩
  · rw [if_neg (Nat.succ_ne_zero _), same]
    split
    next => rfl
    next => rfl
  · intro _
    by_cases zero : search.nonce = 0
    · rwa [same, if_pos zero] at fails
    · exact tried.original (Nat.pos_of_ne_zero zero)
  · intro nonce positive before
    -- The nonce before this one is the one that the round has tried.
    rcases Nat.lt_succ_iff_lt_or_eq.mp before with earlier | rfl
    · exact tried.earlier nonce positive earlier
    · rwa [same, if_neg (by omega)] at fails

/-- What `mine` leaves behind, whether it returns or raises. -/
structure Mined (digest : Bytes → Bytes) (difficulty : Int) (start : Transaction) (mining : Mining) : Prop where
  few : mining.changes ≤ 2 ^ 32
  frame : ∃ payload, mining.tx = { start with payload }
  qualifies : mining.result = .ok () → mining.tx.Qualifies digest difficulty
  least : mining.result = .ok () → mining.tx = start ∨ ¬ start.Qualifies digest difficulty ∧
    ∃ found, 1 ≤ found ∧ found < 2 ^ 32 ∧ mining.tx = start.withNonce found ∧
      ∀ earlier, 1 ≤ earlier → earlier < found → ¬ (start.withNonce earlier).Qualifies digest difficulty

theorem Tried.done {start : Transaction} (tried : Tried digest difficulty start search)
    (done : mineStep digest difficulty search = .inr mining) : Mined digest difficulty start mining := by
  obtain ⟨tx, changes, qualifies⟩ := mineStep_done done
  have same := tried.tx
  rw [← tx] at same
  refine ⟨?_, ?_, fun returned => tx ▸ qualifies returned, fun returned => ?_⟩
  · have := tried.changes
    have := tried.small
    omega
  · split at same
    next => exact ⟨start.payload, same⟩
    next => exact ⟨_, same⟩
  · split at same
    next => exact .inl same
    next positive =>
      exact .inr ⟨tried.original (Nat.pos_of_ne_zero positive), search.nonce, Nat.pos_of_ne_zero positive,
        tried.small, same, tried.earlier⟩

theorem mined (self : Transaction) (positive : 0 < difficulty) :
    Mined digest difficulty self (self.mine digest difficulty) := by
  unfold mine
  rw [if_neg (by omega)]
  refine Loop.run_ensures (fun search search' tried next => Tried.next tried next)
    (fun search mining tried done => Tried.done tried done) ?_
  exact ⟨rfl, Nat.two_pow_pos 32, rfl, nofun, fun nonce positive before => absurd before (Nat.not_lt_zero _)⟩

/-- Mining ends, and what it returns has the difficulty, with the least nonce unless the original payload has it;
    it raises when no payload that it tries has it, and touches nothing but the payload. -/
theorem mine_sound (digest : Bytes → Bytes) (self : Transaction) {difficulty : Int} (positive : 0 < difficulty) :
    (self.mine digest difficulty).changes ≤ 2 ^ 32 ∧
      ((self.mine digest difficulty).result = .ok () →
        (∃ hash, (self.mine digest difficulty).tx.hashObject digest = .ok hash ∧ difficulty ≤ 256 ∧
          natOfLE hash.data < 2 ^ (256 - difficulty).toNat) ∧
        ((self.mine digest difficulty).tx = self ∨ ¬ self.Qualifies digest difficulty ∧
          ∃ nonce, 1 ≤ nonce ∧ nonce < 2 ^ 32 ∧ (self.mine digest difficulty).tx = self.withNonce nonce ∧
            ∀ earlier, 1 ≤ earlier → earlier < nonce → ¬ (self.withNonce earlier).Qualifies digest difficulty)) ∧
      (¬ self.Qualifies digest difficulty →
        (∀ nonce, 1 ≤ nonce → nonce < 2 ^ 32 → ¬ (self.withNonce nonce).Qualifies digest difficulty) →
        ∃ e, (self.mine digest difficulty).result = .error e) ∧
      (256 < difficulty → ∃ e, (self.mine digest difficulty).result = .error e) ∧
      (∃ payload, (self.mine digest difficulty).tx = { self with payload }) ∧
      ∀ hash : Hash, hash.difficulty = 256 - bitLength (natOfLE hash.data) := by
  have mined : Mined digest difficulty self (self.mine digest difficulty) := mined self positive
  have reached (returned : (self.mine digest difficulty).result = .ok ()) :
      ∃ hash, (self.mine digest difficulty).tx.hashObject digest = .ok hash ∧ difficulty ≤ 256 ∧
        natOfLE hash.data < 2 ^ (256 - difficulty).toNat := by
    obtain ⟨hash, hashed, hard⟩ := mined.qualifies returned
    exact ⟨hash, hashed, Hash.le_difficulty_iff.mp hard⟩
  refine ⟨mined.few, fun returned => ⟨reached returned, mined.least returned⟩, ?_, ?_, mined.frame,
    Hash.difficulty_eq⟩
  -- A return would leave the original payload or a tried one behind, and neither has the difficulty.
  · intro original nonces
    cases result : (self.mine digest difficulty).result with
    | error e => exact ⟨e, rfl⟩
    | ok _ =>
      have qualifies := mined.qualifies result
      rcases mined.least result with same | ⟨-, nonce, low, high, same, -⟩
      · exact absurd (same ▸ qualifies) original
      · exact absurd (same ▸ qualifies) (nonces nonce low high)
  · intro large
    cases result : (self.mine digest difficulty).result with
    | error e => exact ⟨e, rfl⟩
    | ok _ =>
      obtain ⟨hash, -, small, -⟩ := reached result
      omega

/-- A transaction without the difficulty 1, which the first nonce gives it. -/
def mineSample : Transaction :=
  { nexusName := [], chainName := [], script := [], expiration := 6, payload := [] }

/-- The SHA-256 digests of the two messages. -/
def mineSampleDigest (message : Bytes) : Bytes :=
  if message = [0, 0, 0, 6, 0, 0, 0, 0] then
    [206, 167, 59, 175, 88, 239, 145, 200, 20, 173, 212, 59, 22, 4, 220, 146, 62, 205, 106, 96, 34, 127, 88, 163,
      244, 90, 40, 207, 235, 160, 27, 164]
  else
    [255, 127, 69, 150, 244, 236, 179, 46, 66, 144, 242, 113, 230, 141, 54, 76, 119, 37, 7, 167, 114, 24, 50, 63,
      2, 0, 55, 200, 187, 208, 163, 87]

theorem mine_mineSample : mineSample.mine mineSampleDigest 1 =
    { result := .ok (), tx := mineSample.withNonce 1, changes := 1 } := by
  have first : (mineLoop mineSampleDigest 1).step { tx := mineSample, nonce := 0, changes := 0 } =
      .inl { tx := mineSample.withNonce 1, nonce := 1, changes := 1 } := rfl
  have second : (mineLoop mineSampleDigest 1).step { tx := mineSample.withNonce 1, nonce := 1, changes := 1 } =
      .inr { result := .ok (), tx := mineSample.withNonce 1, changes := 1 } := rfl
  unfold mine
  rw [if_neg (by decide), Loop.run_next first, Loop.run_done second]

theorem mine_sound_sample : (mineSample.mine mineSampleDigest 1).result = .ok () ∧
    ∃ hash, (mineSample.withNonce 1).hashObject mineSampleDigest = .ok hash ∧ natOfLE hash.data < 2 ^ 255 := by
  have sound := mine_sound mineSampleDigest mineSample (by decide : (0 : Int) < 1)
  rw [mine_mineSample] at sound ⊢
  obtain ⟨hash, hashed, -, below⟩ := (sound.2.1 rfl).1
  exact ⟨rfl, hash, hashed, below⟩

end Transaction

end VM

end PhantasmaPy
