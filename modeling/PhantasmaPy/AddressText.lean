import PhantasmaPy.Base58
import PhantasmaPy.Crypto

/-! # Addresses as text

`Address.text` and `Address.from_text` of `crypto.py`.  The printer tells the kinds of addresses apart by a letter in
front, and the reader asks for the kind that the letter stands for.
-/

namespace PhantasmaPy

open Wire

/-! ## Case -/

/-- `str.upper` of an ASCII character. -/
def upperAscii (c : CodePoint) : CodePoint := if 97 ≤ c.val ∧ c.val ≤ 122 then c - 32 else c

/-- `str.upper`, by what it does to ASCII text. -/
structure Casing where
  upper : Str → Str
  upper_ascii : ∀ text : Str, (∀ c ∈ text, c.val < 128) → upper text = text.map upperAscii

/-- The case of ASCII characters only. -/
def asciiCasing : Casing where
  upper text := text.map upperAscii
  upper_ascii _ _ := rfl

def nullText : Str := Str.ofString "NULL"

theorem Casing.upper_nullText (self : Casing) : self.upper nullText = nullText := by
  have ascii : ∀ c ∈ nullText, c.val < 128 := @of_decide_eq_true _ (List.decidableBAll _ _) rfl
  rw [self.upper_ascii _ ascii]
  rfl

namespace Address

/-! ## The printer and the reader -/

/-- `Address.null()`. -/
def null : Address := ⟨List.replicate ADDRESS_LENGTH 0, List.length_replicate⟩

/-- The letter in front of an address: `P` unless it is of the system or of another chain. -/
def letter (self : Address) : CodePoint :=
  if self.kind = .SYSTEM then 83
  else if self.kind = .INTEROP then 88
  else 80

/-- `text`, which raises nothing. -/
def text (self : Address) : Str :=
  if self.isNull then nullText else self.letter :: encodeBase58 self.data

/-- The checks of `from_text` on the letter and the address behind it. -/
def checkLetter (letter : CodePoint) (address : Address) : Except PyError Address :=
  if letter = 80 ∧ address.kind ≠ .USER then .error (cryptoError "address has to be of type User")
  else if letter = 83 ∧ address.kind ≠ .SYSTEM then .error (cryptoError "address has to be of type System")
  else if letter = 88 ∧ address.kind ≠ .INTEROP then .error (cryptoError "address has to be of type Interop")
  else if letter ≠ 80 ∧ letter ≠ 83 ∧ letter ≠ 88 then
    .error (.cryptoError (Str.ofString "unknown address prefix: " ++ [letter]))
  else .ok address

def fromText (interp : Interpreter) (upper : Str → Str) : Option Str → Except PyError Address
  | none => .ok null
  | some [] => .ok null
  | some (letter :: digits) =>
    if upper (letter :: digits) = nullText then .ok null
    -- The test for fewer than two characters.
    else if digits = [] then .error (cryptoError "address text is too short")
    else do
      let data ← decodeBase58 interp digits
      let address ← new data
      checkLetter letter address

/-! ## Letters -/

theorem new_data (self : Address) : new self.data = .ok self := by
  unfold new
  rw [dif_pos self.length_eq]

theorem new_eq_ok {data : Bytes} {address : Address} : new data = .ok address ↔ address.data = data := by
  constructor
  · intro made
    by_cases length : data.length = ADDRESS_LENGTH
    · rw [new, dif_pos length] at made
      obtain rfl := Except.ok.inj made
      rfl
    · rw [new, dif_neg length] at made
      cases made
  · rintro rfl
    exact address.new_data

theorem data_ne_nil (self : Address) : self.data ≠ [] := by
  have length := self.length_eq
  intro empty
  rw [empty] at length
  contradiction

/-- The reader takes an address behind its own letter only, and no invalid one. -/
theorem checkLetter_eq_ok {letter : CodePoint} {address again : Address} :
    checkLetter letter address = .ok again ↔
      again = address ∧ letter = address.letter ∧ address.kind ≠ .INVALID := by
  unfold checkLetter Address.letter
  by_cases user : letter = 80
  · subst user
    cases kind : address.kind <;> simp [eq_comm]
  · by_cases system : letter = 83
    · subst system
      cases kind : address.kind <;> simp [eq_comm]
    · by_cases interop : letter = 88
      · subst interop
        cases kind : address.kind <;> simp [eq_comm]
      · cases kind : address.kind <;> simp [user, system, interop]

/-- The addresses that are neither null nor of a known kind start with a zero. -/
theorem kind_eq_invalid {self : Address} :
    self.kind = .INVALID ↔ self.isNull = false ∧ self.data.getD 0 0 = 0 := by
  have interop : AddressKind.INTEROP.toByte = 3 := rfl
  have system : AddressKind.SYSTEM.toByte = 2 := rfl
  have user : AddressKind.USER.toByte = 1 := rfl
  unfold kind
  cases self.isNull with
  | true => simp
  | false =>
    generalize self.data.getD 0 0 = first
    by_cases large : first ≥ AddressKind.INTEROP.toByte
    · simp only [large, Bool.false_eq_true, if_false, if_true, reduceCtorEq, true_and, false_iff]
      grind
    · by_cases two : first = AddressKind.SYSTEM.toByte
      · simp [two, interop, system]
      · by_cases one : first = AddressKind.USER.toByte
        · simp [one, interop, system, user]
        · simp only [large, two, one, Bool.false_eq_true, if_false, true_and, true_iff]
          grind

/-! ## Accepted texts -/

theorem fromText_null (interp : Interpreter) {upper : Str → Str} {text : Str} (spelled : upper text = nullText) :
    fromText interp upper (some text) = .ok null := by
  cases text with
  | nil => rfl
  | cons letter digits => rw [fromText, if_pos spelled]

/-- The Base58 text of an address is read up to the checks on the letter. -/
theorem fromText_decoded (interp : Interpreter) {upper : Str → Str} {letter : CodePoint} {address : Address}
    (notNull : upper (letter :: encodeBase58 address.data) ≠ nullText) :
    fromText interp upper (some (letter :: encodeBase58 address.data)) = checkLetter letter address := by
  rw [fromText, if_neg notNull, if_neg (encodeBase58_ne_nil address.data_ne_nil),
    decodeBase58_encodeBase58 interp address.data_ne_nil]
  change (new address.data >>= fun address => checkLetter letter address) = _
  rw [address.new_data]
  rfl

/-- An accepted text that does not spell the null address is the letter and the Base58 text of its address. -/
theorem fromText_eq_ok (interp : Interpreter) {upper : Str → Str} {letter : CodePoint} {digits : Str}
    (notNull : upper (letter :: digits) ≠ nullText) {address : Address} :
    fromText interp upper (some (letter :: digits)) = .ok address ↔
      letter = address.letter ∧ digits = encodeBase58 address.data ∧ address.kind ≠ .INVALID := by
  rw [fromText, if_neg notNull]
  by_cases short : digits = []
  · rw [if_pos short, short, eq_comm]
    simp [encodeBase58_ne_nil address.data_ne_nil]
  · rw [if_neg short]
    constructor
    · intro accepted
      obtain ⟨data, decoded, accepted⟩ := except_bind_eq_ok.mp accepted
      obtain ⟨made, built, accepted⟩ := except_bind_eq_ok.mp accepted
      obtain ⟨rfl, same, valid⟩ := checkLetter_eq_ok.mp accepted
      obtain rfl := new_eq_ok.mp built
      exact ⟨same, ((decodeBase58_eq_ok interp).mp decoded).2.symm, valid⟩
    · rintro ⟨same, rfl, valid⟩
      rw [← checkLetter_eq_ok.mpr ⟨rfl, same, valid⟩, ← fromText_decoded interp notNull, fromText, if_neg notNull,
        if_neg short]

/-- The text of an accepted address that is not null is the text that was read. -/
theorem text_of_fromText (interp : Interpreter) {upper : Str → Str} {text : Str} {address : Address}
    (accepted : fromText interp upper (some text) = .ok address) (notNull : address.isNull = false) :
    address.text = text := by
  cases text with
  | nil =>
    obtain rfl := Except.ok.inj accepted
    contradiction
  | cons letter digits =>
    by_cases spelled : upper (letter :: digits) = nullText
    · obtain rfl := Except.ok.inj ((fromText_null interp spelled).symm.trans accepted)
      contradiction
    · obtain ⟨rfl, rfl, -⟩ := (fromText_eq_ok interp spelled).mp accepted
      simp [Address.text, notNull]

/-! ## Printed addresses -/

/-- The kind that the reader asks for behind a letter. -/
def kindOfLetter (letter : CodePoint) : Option AddressKind :=
  if letter = 80 then some .USER
  else if letter = 83 then some .SYSTEM
  else if letter = 88 then some .INTEROP
  else none

/-- The text of the address is read as the address, and its letter is the letter of its kind. -/
def ReadsBack (interp : Interpreter) (upper : Str → Str) (self : Address) : Prop :=
  fromText interp upper (some self.text) = .ok self ∧
    ∀ letter digits, self.isNull = false → self.text = letter :: digits → kindOfLetter letter = some self.kind

theorem isNull_iff {self : Address} : self.isNull = true ↔ self = null := by
  unfold isNull
  rw [decide_eq_true_iff]
  constructor
  · intro zeros
    cases self
    cases zeros
    rfl
  · rintro rfl
    rfl

/-- No text of an address that is not null spells `NULL` in any case: it starts with another letter. -/
theorem upper_text_ne (casing : Casing) (self : Address) :
    casing.upper (self.letter :: encodeBase58 self.data) ≠ nullText := by
  have letters : self.letter = 83 ∨ self.letter = 88 ∨ self.letter = 80 := by
    unfold letter
    cases self.kind <;> simp
  have ascii : ∀ c ∈ self.letter :: encodeBase58 self.data, c.val < 128 := by
    refine List.forall_mem_cons.mpr ⟨?_, encodeBase58_ascii self.data⟩
    rcases letters with same | same | same <;> rw [same] <;> decide
  rw [casing.upper_ascii _ ascii, List.map_cons]
  intro same
  -- The letter in upper case would be the `N` of `NULL`.
  have first : upperAscii self.letter = 78 := (List.cons.inj same).1
  rcases letters with same | same | same <;> rw [same] at first <;> cases first

/-- An address is read back from its text exactly if it is not invalid. -/
theorem readsBack_iff_kind (interp : Interpreter) (casing : Casing) (self : Address) :
    self.ReadsBack interp casing.upper ↔ self.kind ≠ .INVALID := by
  by_cases null : self.isNull = true
  · -- The null address is spelled out, and is not invalid although it starts with a zero.
    obtain rfl := isNull_iff.mp null
    have read : fromText interp casing.upper (some nullText) = .ok Address.null :=
      fromText_null interp casing.upper_nullText
    have valid : Address.null.kind ≠ .INVALID := by decide
    have nullary : Address.null.isNull = true := isNull_iff.mpr rfl
    refine iff_of_true ⟨read, ?_⟩ valid
    intro letter digits notNull
    cases nullary.symm.trans notNull
  · rw [Bool.not_eq_true] at null
    have printed : self.text = self.letter :: encodeBase58 self.data := by simp [text, null]
    rw [ReadsBack, printed, fromText_eq_ok interp (upper_text_ne casing self)]
    constructor
    · intro readsBack
      exact readsBack.1.2.2
    · intro valid
      refine ⟨⟨rfl, rfl, valid⟩, ?_⟩
      rintro letter digits - same
      obtain ⟨rfl, rfl⟩ := List.cons.inj same
      unfold kindOfLetter Address.letter
      cases kind : self.kind <;> simp_all

/-- An address is read back from its text exactly if it is null or does not start with a zero. -/
theorem readsBack_iff (interp : Interpreter) (casing : Casing) (self : Address) :
    self.ReadsBack interp casing.upper ↔ self.isNull = true ∨ self.data.getD 0 0 ≠ 0 := by
  rw [readsBack_iff_kind, Ne, kind_eq_invalid]
  cases self.isNull <;> simp

/-- An address of no kind. -/
def unclassified : Address := ⟨0 :: List.replicate 33 1, rfl⟩

/-- It is printed with the letter of users, which the reader refuses. -/
theorem unclassified_refused :
    unclassified.text = 80 :: encodeBase58 unclassified.data ∧ unclassified.kind = .INVALID ∧
      fromText latin1 asciiCasing.upper (some unclassified.text) =
        .error (cryptoError "address has to be of type User") ∧
      ¬ unclassified.ReadsBack latin1 asciiCasing.upper := by
  have printed : unclassified.text = unclassified.letter :: encodeBase58 unclassified.data := rfl
  have invalid : unclassified.kind = .INVALID := rfl
  refine ⟨printed, invalid, ?_, fun readsBack => (readsBack_iff_kind _ _ _).mp readsBack invalid⟩
  rw [printed, fromText_decoded latin1 (upper_text_ne asciiCasing unclassified)]
  rfl

/-- Address text is not malleable: an accepted text of an address that is not null is the text of the address, so that
    each such address has one accepted spelling at most, and different accepted texts are of different addresses. -/
theorem text_canonical (interp : Interpreter) (upper : Str → Str) :
    (∀ (text : Str) (address : Address), fromText interp upper (some text) = .ok address →
      address.isNull = false → address.text = text) ∧
    (∀ address : Address, address.isNull = false →
      {text | fromText interp upper (some text) = .ok address}.Subsingleton) ∧
    ∀ (text text' : Str) (address address' : Address), fromText interp upper (some text) = .ok address →
      fromText interp upper (some text') = .ok address' → address.isNull = false → text ≠ text' →
      address ≠ address' := by
  refine ⟨fun text address => text_of_fromText interp, ?_, ?_⟩
  · intro address notNull text accepted text' accepted'
    exact (text_of_fromText interp accepted notNull).symm.trans (text_of_fromText interp accepted' notNull)
  · rintro text text' address address' accepted accepted' notNull different rfl
    exact different
      ((text_of_fromText interp accepted notNull).symm.trans (text_of_fromText interp accepted' notNull))

end Address

end PhantasmaPy
