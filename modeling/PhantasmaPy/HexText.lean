import PhantasmaPy.Encoding
import PhantasmaPy.Crypto
import Mathlib.Tactic.IntervalCases

/-! # Hex text and bytes

`encode_hex` and the hex form of hashes.  The decoder takes every spelling of the digits: either case, a
marker in front, and spaces around them and between the bytes; and it takes nothing else.
-/

namespace PhantasmaPy

open Wire

/-- A digit as `bytes.hex` writes it. -/
def hexChar (digit : Nat) : CodePoint :=
  if digit < 10 then Fin.ofNat _ (48 + digit) else Fin.ofNat _ (87 + digit)

/-- A digit as `str.upper` leaves it. -/
def hexCharUpper (digit : Nat) : CodePoint :=
  if digit < 10 then Fin.ofNat _ (48 + digit) else Fin.ofNat _ (55 + digit)

/-- `encode_hex`, which is `bytes.hex`. -/
def encodeHex (data : Bytes) : Str :=
  data.flatMap fun byte => [hexChar (byte.toNat / 16), hexChar (byte.toNat % 16)]

/-- `bytes.hex().upper()`. -/
def encodeHexUpper (data : Bytes) : Str :=
  data.flatMap fun byte => [hexCharUpper (byte.toNat / 16), hexCharUpper (byte.toNat % 16)]

namespace Hash

/-- `from_hex`, which has the built-in decoder and its exception. -/
def fromHex (text : Str) : Except PyError Hash := do
  let raw ← PhantasmaPy.fromHex text
  new raw

def hex (self : Hash) : Str := encodeHexUpper self.data

end Hash

/-! ## Spellings -/

/-- The text is the digits of the bytes, with spaces in front of a byte or at the end. -/
inductive HexSpelling : Str → Bytes → Prop
  | nil : HexSpelling [] []
  | space {c : CodePoint} {text : Str} {raw : Bytes} (isSpace : isHexSpace c = true)
      (rest : HexSpelling text raw) : HexSpelling (c :: text) raw
  | byte {c d : CodePoint} {byte : UInt8} {text : Str} {raw : Bytes}
      (high : hexDigit? c = some (byte.toNat / 16)) (low : hexDigit? d = some (byte.toNat % 16))
      (rest : HexSpelling text raw) : HexSpelling (c :: d :: text) (byte :: raw)

theorem hexDigit?_lt {c : CodePoint} {digit : Nat} (found : hexDigit? c = some digit) : digit < 16 := by
  unfold hexDigit? at found
  split_ifs at found <;> cases found <;> omega

/-- A digit is no space. -/
theorem hexDigit?_space {c : CodePoint} (isSpace : isHexSpace c = true) : hexDigit? c = none := by
  unfold isHexSpace at isSpace
  unfold hexDigit?
  simp only [Bool.or_eq_true, Bool.and_eq_true, decide_eq_true_eq] at isSpace
  split_ifs <;> first | rfl | omega

/-- Two digits are the digits of one byte. -/
theorem byte_of_digits {high low : Nat} (highSmall : high < 16) (lowSmall : low < 16) :
    (UInt8.ofNat (16 * high + low)).toNat / 16 = high ∧ (UInt8.ofNat (16 * high + low)).toNat % 16 = low := by
  rw [UInt8.toNat_ofNat']
  omega

theorem digits_of_byte (byte : UInt8) : UInt8.ofNat (16 * (byte.toNat / 16) + byte.toNat % 16) = byte := by
  rw [show 16 * (byte.toNat / 16) + byte.toNat % 16 = byte.toNat by omega, UInt8.ofNat_toNat]

theorem fromHex_eq_ok {text : Str} {raw : Bytes} : fromHex text = .ok raw ↔ HexSpelling text raw := by
  constructor
  · intro decoded
    induction text using fromHex.induct generalizing raw with
    | case1 =>
      cases decoded
      exact .nil
    | case2 c isSpace =>
      rw [fromHex, if_pos isSpace] at decoded
      cases decoded
      exact .space isSpace .nil
    | case3 c noSpace =>
      rw [fromHex, if_neg noSpace] at decoded
      cases decoded
    | case4 c d text isSpace ih =>
      rw [fromHex, if_pos isSpace] at decoded
      exact .space isSpace (ih decoded)
    | case5 c d text noSpace high low foundLow foundHigh ih =>
      rw [fromHex, if_neg noSpace, foundHigh, foundLow] at decoded
      obtain ⟨rest, read, same⟩ := except_bind_eq_ok.mp decoded
      cases same
      obtain ⟨highDigit, lowDigit⟩ := byte_of_digits (hexDigit?_lt foundHigh) (hexDigit?_lt foundLow)
      exact .byte (by rw [highDigit, foundHigh]) (by rw [lowDigit, foundLow]) (ih read)
    | case6 c d text noSpace missing =>
      rw [fromHex, if_neg noSpace] at decoded
      split at decoded
      next high low foundHigh foundLow => exact absurd foundLow (missing high low foundHigh)
      next => cases decoded
  · intro spelling
    induction spelling with
    | nil => rfl
    | @space c text raw isSpace rest ih =>
      cases text with
      | nil =>
        cases rest
        rw [fromHex, if_pos isSpace]
      | cons d text => rw [fromHex, if_pos isSpace, ih]
    | @byte c d byte text raw high low _ ih =>
      -- a digit is no space, so that the reader takes the pair
      have noSpace : ¬ isHexSpace c = true := by
        intro isSpace
        rw [hexDigit?_space isSpace] at high
        cases high
      rw [fromHex, if_neg noSpace, high, low, ih]
      exact congrArg (fun byte => Except.ok (byte :: raw)) (digits_of_byte byte)

/-! ## The decoder -/

/-- A marker in front of the digits, or none. -/
def HexPrefix (start : Str) : Prop := start = [] ∨ start = Str.ofString "0x" ∨ start = Str.ofString "0X"

/-- The text has no space at either end. -/
def Stripped (text : Str) : Prop :=
  (∀ c, text.head? = some c → isSpace c = false) ∧ ∀ c, text.getLast? = some c → isSpace c = false

theorem dropWhile_front {front text : Str} (spaces : ∀ c ∈ front, isSpace c = true)
    (head : ∀ c, text.head? = some c → isSpace c = false) :
    (front ++ text).dropWhile isSpace = text := by
  rw [List.dropWhile_append_of_pos spaces]
  cases text with
  | nil => rfl
  | cons c text => exact List.dropWhile_cons_of_neg (by rw [head c rfl]; exact Bool.false_ne_true)

/-- Spaces around a text without spaces at its ends. -/
theorem strip_around {front core back : Str} (stripped : Stripped core)
    (before : ∀ c ∈ front, isSpace c = true) (after : ∀ c ∈ back, isSpace c = true) :
    strip (front ++ (core ++ back)) = core := by
  unfold strip
  cases core with
  | nil =>
    rw [List.nil_append, List.dropWhile_append_of_pos before, List.dropWhile_eq_nil_iff.mpr after]
    rfl
  | cons c core =>
    have reversed : ∀ d, (c :: core).reverse.head? = some d → isSpace d = false := by
      intro d last
      rw [List.head?_reverse] at last
      exact stripped.2 d last
    rw [dropWhile_front before (by simpa using stripped.1), List.reverse_append,
      dropWhile_front (fun d member => after d (List.mem_reverse.mp member)) reversed, List.reverse_reverse]

/-- The text without a marker in front. -/
def unmarked (text : Str) : Str :=
  if (Str.ofString "0x").isPrefixOf text || (Str.ofString "0X").isPrefixOf text then text.drop 2 else text

theorem decodeHex_iff {text : Str} {raw : Bytes} : decodeHex text = .ok raw ↔
    (unmarked (strip text)).length % 2 = 0 ∧ fromHex (unmarked (strip text)) = .ok raw := by
  have marks : (if (Str.ofString "0x").isPrefixOf (strip text) || (Str.ofString "0X").isPrefixOf (strip text)
      then (strip text).drop 2 else strip text) = unmarked (strip text) := rfl
  unfold decodeHex
  dsimp only
  rw [marks]
  by_cases even : (unmarked (strip text)).length % 2 = 0
  · rw [if_neg (not_not.mpr even)]
    cases fromHex (unmarked (strip text)) with
    | error e => exact iff_of_false (fun absurd => by cases absurd) fun absurd => by cases absurd.2
    | ok other => exact ⟨fun same => ⟨even, same⟩, fun same => same.2⟩
  · rw [if_pos even]
    exact iff_of_false (fun absurd => by cases absurd) fun absurd => even absurd.1

/-- The letter of a marker is no digit, so that digits do not start with one. -/
theorem spelling_unmarked {body : Str} {raw : Bytes} (spelling : HexSpelling body raw) :
    unmarked body = body := by
  -- the letter of the mark is no hex digit, so that the mark is no pair of digits
  have plain (letter : CodePoint) (noDigit : hexDigit? letter = none) :
      [48, letter].isPrefixOf body = false := by
    cases spelling with
    | nil => rfl
    | @space c text raw isSpace rest =>
      have other : ((48 : CodePoint) == c) = false := by
        by_contra same
        rw [Bool.not_eq_false, beq_iff_eq] at same
        subst same
        revert isSpace
        decide
      simp [List.isPrefixOf, other]
    | @byte c d byte text raw high low rest =>
      have other : (letter == d) = false := by
        by_contra same
        rw [Bool.not_eq_false, beq_iff_eq] at same
        subst same
        rw [noDigit] at low
        cases low
      simp [List.isPrefixOf, other]
  unfold unmarked
  rw [show Str.ofString "0x" = [48, 120] from rfl, show Str.ofString "0X" = [48, 88] from rfl,
    plain 120 (by decide), plain 88 (by decide)]
  rfl

theorem unmarked_marked {start body : Str} {raw : Bytes} (marked : HexPrefix start)
    (spelling : HexSpelling body raw) : unmarked (start ++ body) = body := by
  rcases marked with rfl | rfl | rfl
  · exact spelling_unmarked spelling
  · rfl
  · rfl

/-- A text comes apart into a marker, if it has one, and the rest. -/
theorem unmarked_split (text : Str) : ∃ start, HexPrefix start ∧ start ++ unmarked text = text := by
  unfold unmarked
  split
  next marked =>
    rcases Bool.or_eq_true_iff.mp marked with lower | upper
    · obtain ⟨rest, rfl⟩ := List.isPrefixOf_iff_prefix.mp lower
      exact ⟨_, .inr (.inl rfl), rfl⟩
    · obtain ⟨rest, rfl⟩ := List.isPrefixOf_iff_prefix.mp upper
      exact ⟨_, .inr (.inr rfl), rfl⟩
  next => exact ⟨[], .inl rfl, rfl⟩

theorem dropWhile_head {text : Str} {c : CodePoint} (first : (text.dropWhile isSpace).head? = some c) :
    isSpace c = false := by
  have nonempty : text.dropWhile isSpace ≠ [] := by
    intro empty
    rw [empty] at first
    cases first
  have stopped := List.head_dropWhile_not isSpace nonempty
  rw [List.head?_eq_some_head nonempty] at first
  rwa [Option.some.inj first] at stopped

theorem strip_split (text : Str) : ∃ front back, text = front ++ (strip text ++ back) ∧
    (∀ c ∈ front, isSpace c = true) ∧ (∀ c ∈ back, isSpace c = true) ∧ Stripped (strip text) := by
  obtain ⟨inner, same⟩ : ∃ inner, inner = text.dropWhile isSpace := ⟨_, rfl⟩
  have whole : text = text.takeWhile isSpace ++ inner := by rw [same, List.takeWhile_append_dropWhile]
  have stripped : strip text = (inner.reverse.dropWhile isSpace).reverse := by rw [same]; rfl
  have rest : inner = strip text ++ (inner.reverse.takeWhile isSpace).reverse := by
    rw [stripped, ← List.reverse_append, List.takeWhile_append_dropWhile, List.reverse_reverse]
  refine ⟨_, _, whole.trans (congrArg _ rest), fun c member => List.mem_takeWhile_imp member,
    fun c member => List.mem_takeWhile_imp (List.mem_reverse.mp member), fun c first => ?_, fun c last => ?_⟩
  · -- the front of the rest is the front of what is left of it
    have head : inner.head? = some c := by
      rw [rest, List.head?_append, first]
      rfl
    rw [same] at head
    exact dropWhile_head head
  · rw [stripped, List.getLast?_reverse] at last
    exact dropWhile_head last

/-! ## Exactness -/

/-- The spellings of bytes that the decoder takes. -/
def HexTextOf (text : Str) (raw : Bytes) : Prop :=
  ∃ front start body back, text = front ++ ((start ++ body) ++ back) ∧
    (∀ c ∈ front, isSpace c = true) ∧ (∀ c ∈ back, isSpace c = true) ∧ Stripped (start ++ body) ∧
    HexPrefix start ∧ body.length % 2 = 0 ∧ HexSpelling body raw

theorem decodeHex_eq_ok {text : Str} {raw : Bytes} : decodeHex text = .ok raw ↔ HexTextOf text raw := by
  rw [decodeHex_iff, fromHex_eq_ok]
  constructor
  · rintro ⟨even, spelling⟩
    obtain ⟨front, back, whole, before, after, stripped⟩ := strip_split text
    obtain ⟨start, marked, parts⟩ := unmarked_split (strip text)
    refine ⟨front, start, unmarked (strip text), back, ?_, before, after, ?_, marked, even, spelling⟩
    · rwa [parts]
    · rwa [parts]
  · rintro ⟨front, start, body, back, rfl, before, after, stripped, marked, even, spelling⟩
    rw [strip_around stripped before after, unmarked_marked marked spelling]
    exact ⟨even, spelling⟩

theorem hexDigit?_hexChar {digit : Nat} (small : digit < 16) : hexDigit? (hexChar digit) = some digit := by
  interval_cases digit <;> rfl

theorem hexDigit?_hexCharUpper {digit : Nat} (small : digit < 16) :
    hexDigit? (hexCharUpper digit) = some digit := by
  interval_cases digit <;> rfl

/-- Digits written by a function that keeps their values. -/
theorem spelling_flatMap {write : Nat → CodePoint}
    (reads : ∀ digit < 16, hexDigit? (write digit) = some digit) (raw : Bytes) :
    HexSpelling (raw.flatMap fun byte => [write (byte.toNat / 16), write (byte.toNat % 16)]) raw := by
  induction raw with
  | nil => exact .nil
  | cons byte raw ih =>
    have bound := byte.toNat_lt
    exact .byte (reads _ (by omega)) (reads _ (by omega)) ih

theorem encodeHex_spelling (raw : Bytes) : HexSpelling (encodeHex raw) raw :=
  spelling_flatMap (fun _ small => hexDigit?_hexChar small) raw

theorem encodeHexUpper_spelling (raw : Bytes) : HexSpelling (encodeHexUpper raw) raw :=
  spelling_flatMap (fun _ small => hexDigit?_hexCharUpper small) raw

theorem isSpace_of_isHexSpace {c : CodePoint} (space : isHexSpace c = true) : isSpace c = true := by
  unfold isHexSpace at space
  unfold isSpace
  simp only [Bool.or_eq_true, Bool.and_eq_true, decide_eq_true_eq] at space ⊢
  omega

theorem isSpace_hexDigit {c : CodePoint} {digit : Nat} (found : hexDigit? c = some digit) :
    isSpace c = false := by
  unfold hexDigit? at found
  unfold isSpace
  simp only [Bool.or_eq_false_iff, Bool.and_eq_false_iff, decide_eq_false_iff_not]
  split_ifs at found <;> omega

/-- Digits without spaces are two for each byte. -/
theorem HexSpelling.length {text : Str} {raw : Bytes} (spelling : HexSpelling text raw)
    (plain : ∀ c ∈ text, isSpace c = false) : text.length = 2 * raw.length := by
  induction spelling with
  | nil => rfl
  | @space c text raw space rest ih =>
    have solid := plain c List.mem_cons_self
    rw [isSpace_of_isHexSpace space] at solid
    cases solid
  | byte high low rest ih =>
    have later := ih fun c member => plain c (List.mem_cons_of_mem _ (List.mem_cons_of_mem _ member))
    simp only [List.length_cons]
    omega

/-- Digits without spaces are read as they are. -/
theorem decodeHex_digits {text : Str} {raw : Bytes} (spelling : HexSpelling text raw)
    (plain : ∀ c ∈ text, isSpace c = false) : decodeHex text = .ok raw := by
  refine decodeHex_eq_ok.mpr ⟨[], [], text, [], (List.append_nil text).symm, ?_, ?_, ⟨?_, ?_⟩, .inl rfl, ?_, spelling⟩
  · exact fun _ member => absurd member List.not_mem_nil
  · exact fun _ member => absurd member List.not_mem_nil
  · exact fun c first => plain c (List.mem_of_head? first)
  · exact fun c last => plain c (List.mem_of_getLast? last)
  · rw [spelling.length plain]
    omega

theorem decodeHex_encodeHex (raw : Bytes) : decodeHex (encodeHex raw) = .ok raw := by
  refine decodeHex_digits (encodeHex_spelling raw) fun c member => ?_
  obtain ⟨byte, -, digit⟩ := List.mem_flatMap.mp member
  have bound := byte.toNat_lt
  rcases List.mem_pair.mp digit with rfl | rfl
  · exact isSpace_hexDigit (hexDigit?_hexChar (by omega))
  · exact isSpace_hexDigit (hexDigit?_hexChar (by omega))

/-- Whatever is wrong with a text, the error is of one class. -/
theorem decodeHex_eq_error {text : Str} {e : PyError} (failed : decodeHex text = .error e) :
    ∃ message, e = .encodingError message := by
  have marks : (if (Str.ofString "0x").isPrefixOf (strip text) || (Str.ofString "0X").isPrefixOf (strip text)
      then (strip text).drop 2 else strip text) = unmarked (strip text) := rfl
  unfold decodeHex at failed
  dsimp only at failed
  rw [marks] at failed
  by_cases even : (unmarked (strip text)).length % 2 = 0
  · rw [if_neg (not_not.mpr even)] at failed
    cases read : fromHex (unmarked (strip text)) with
    | error _ =>
      rw [read] at failed
      exact ⟨_, (Except.error.inj failed).symm⟩
    | ok raw =>
      rw [read] at failed
      cases failed
  · rw [if_pos even] at failed
    exact ⟨_, (Except.error.inj failed).symm⟩

/-- The decoder takes exactly the spellings of bytes and returns what they spell; it takes what the encoder writes,
    and refuses everything else with an `EncodingError`. -/
theorem decodeHex_exact :
    (∀ text raw, decodeHex text = .ok raw ↔ HexTextOf text raw) ∧
      (∀ raw, decodeHex (encodeHex raw) = .ok raw) ∧
      ∀ text, (∀ raw, ¬ HexTextOf text raw) → ∃ message, decodeHex text = .error (.encodingError message) := by
  refine ⟨fun text raw => decodeHex_eq_ok, decodeHex_encodeHex, fun text spellsNothing => ?_⟩
  cases outcome : decodeHex text with
  | ok raw => exact absurd (decodeHex_eq_ok.mp outcome) (spellsNothing raw)
  | error e =>
    obtain ⟨message, rfl⟩ := decodeHex_eq_error outcome
    exact ⟨message, rfl⟩

theorem Hash.fromHex_hex (self : Hash) : Hash.fromHex self.hex = .ok self := by
  unfold Hash.fromHex Hash.hex
  rw [fromHex_eq_ok.mpr (encodeHexUpper_spelling self.data)]
  change Hash.new self.data = .ok self
  unfold Hash.new
  rw [dif_pos self.length_eq]

end PhantasmaPy
