import PhantasmaPy.Base58
import PhantasmaPy.Crypto
import PhantasmaPy.Wire.Outcome

/-! # Keys as text

`PhantasmaKeys.from_wif` and `PhantasmaKeys.to_wif` of `crypto.py`: the Base58 text of a version byte, the key, a flag
and the first bytes of the digest of the digest.
-/

namespace PhantasmaPy

open Wire

/-- A function in place of SHA-256. -/
structure Sha256 where
  digest : Bytes → Bytes
  length_digest : ∀ data, (digest data).length = 32

namespace Sha256

/-- `_double_sha256` -/
def double (self : Sha256) (data : Bytes) : Bytes := self.digest (self.digest data)

/-- The bytes of the double digest that a WIF text ends with. -/
def checksum (self : Sha256) (payload : Bytes) : Bytes := (self.double payload).take 4

theorem length_checksum (self : Sha256) (payload : Bytes) : (self.checksum payload).length = 4 := by
  rw [checksum, List.length_take, double, self.length_digest]
  rfl

end Sha256

namespace PhantasmaKeys

/-- A `CryptoError` of some message. -/
def IsCryptoError (e : PyError) : Prop := ∃ message, e = .cryptoError message

/-- The constructor with its `__post_init__` check. -/
def new (privateKey : Bytes) : Except PyError PhantasmaKeys :=
  let raw := if privateKey.length = 64 then privateKey.take PRIVATE_KEY_LENGTH else privateKey
  if length : raw.length = PRIVATE_KEY_LENGTH then .ok ⟨raw, length⟩
  else .error (cryptoError s!"private key length must be {PRIVATE_KEY_LENGTH}, got {raw.length}")

def payload (self : PhantasmaKeys) : Bytes := [0x80] ++ self.privateKey ++ [0x01]

variable (sha256 : Sha256)

def toWif (self : PhantasmaKeys) : Str := encodeBase58 (self.payload ++ sha256.checksum self.payload)

/-- The checks of `from_wif` on the decoded bytes. -/
def fromWifData (data : Bytes) : Except PyError PhantasmaKeys :=
  if data.length ≠ 38 then .error (cryptoError "invalid WIF length")
  else
    let payload := data.take (data.length - 4)
    if sha256.checksum payload ≠ data.drop (data.length - 4) then .error (cryptoError "invalid WIF checksum")
    else if payload.length ≠ 34 ∨ payload.head? ≠ some 0x80 ∨ payload.getLast? ≠ some 0x01 then
      .error (cryptoError "invalid compressed Ed25519 WIF payload")
    else new ((payload.drop 1).take 32)

def fromWif (interp : Interpreter) (wif : Str) : Except PyError PhantasmaKeys :=
  if wif = [] then .error (cryptoError "WIF is required")
  else do
    let data ← decodeBase58 interp wif
    fromWifData sha256 data

/-! ## Accepted data -/

theorem new_privateKey (self : PhantasmaKeys) : new self.privateKey = .ok self := by
  have other : ¬ self.privateKey.length = 64 := by
    rw [self.length_eq]
    decide
  simp only [new, if_neg other, dif_pos self.length_eq]

/-- A key of 32 bytes is kept as it is. -/
theorem new_eq_ok {privateKey : Bytes} (length : privateKey.length = PRIVATE_KEY_LENGTH) {keys : PhantasmaKeys} :
    new privateKey = .ok keys ↔ keys.privateKey = privateKey := by
  constructor
  · intro made
    obtain rfl := Except.ok.inj ((new_privateKey ⟨privateKey, length⟩).symm.trans made)
    rfl
  · rintro rfl
    exact keys.new_privateKey

theorem length_payload (self : PhantasmaKeys) : self.payload.length = 34 := by
  simp [payload, self.length_eq, PRIVATE_KEY_LENGTH]

/-- The version byte, the key and the flag of a payload. -/
theorem payload_parts {payload : Bytes} (length : payload.length = 34) (version : payload.head? = some 0x80)
    (flag : payload.getLast? = some 0x01) : [0x80] ++ (payload.drop 1).take 32 ++ [0x01] = payload := by
  cases payload with
  | nil => cases version
  | cons first rest =>
    obtain rfl : first = 0x80 := Option.some.inj version
    have count : rest.length = 33 := by simpa using length
    have last : rest.getLast? = some 0x01 := by
      cases rest with
      | nil => cases count
      | cons second rest => simpa using flag
    have front := List.dropLast_append_getLast? _ last
    rw [List.dropLast_eq_take, count] at front
    simp only [List.drop_one, List.tail_cons, List.cons_append]
    exact congrArg (List.cons 0x80) front

/-- The checks on a payload with four bytes behind it. -/
theorem fromWifData_append {payload sum : Bytes} (length : payload.length = 34) (four : sum.length = 4) :
    fromWifData sha256 (payload ++ sum) =
      if sha256.checksum payload ≠ sum then .error (cryptoError "invalid WIF checksum")
      else if payload.head? ≠ some 0x80 ∨ payload.getLast? ≠ some 0x01 then
        .error (cryptoError "invalid compressed Ed25519 WIF payload")
      else new ((payload.drop 1).take 32) := by
  have whole : (payload ++ sum).length = 38 := by rw [List.length_append, length, four]
  have front : (payload ++ sum).take (38 - 4) = payload := List.take_left' length
  have back : (payload ++ sum).drop (38 - 4) = sum := List.drop_left' length
  simp only [fromWifData, whole, front, back, length, ne_eq, not_true_eq_false, if_false, false_or]

/-- The checks accept the payload of the key that they return, followed by its checksum. -/
theorem fromWifData_eq_ok {data : Bytes} {keys : PhantasmaKeys} :
    fromWifData sha256 data = .ok keys ↔ data = keys.payload ++ sha256.checksum keys.payload := by
  constructor
  · intro accepted
    have whole : data.length = 38 := by
      by_contra other
      rw [fromWifData, if_pos other] at accepted
      cases accepted
    have length : (data.take 34).length = 34 := by simp [whole]
    have four : (data.drop 34).length = 4 := by simp [whole]
    -- The checks see the data as a payload and four bytes.
    rw [← List.take_append_drop 34 data] at accepted ⊢
    generalize data.take 34 = payload at accepted length ⊢
    generalize data.drop 34 = sum at accepted four ⊢
    rw [fromWifData_append sha256 length four] at accepted
    split at accepted
    next => cases accepted
    next same =>
      split at accepted
      next => cases accepted
      next flagged =>
        simp only [not_or, ne_eq, not_not] at same flagged
        have parts := payload_parts length flagged.1 flagged.2
        obtain rfl : keys.payload = payload := by
          have middle : ((payload.drop 1).take 32).length = PRIVATE_KEY_LENGTH := by simp [length, PRIVATE_KEY_LENGTH]
          rw [PhantasmaKeys.payload, (new_eq_ok middle).mp accepted, parts]
        rw [same]
  · rintro rfl
    rw [fromWifData_append sha256 keys.length_payload (sha256.length_checksum _)]
    have middle : (keys.payload.drop 1).take 32 = keys.privateKey := List.take_left' keys.length_eq
    have version : keys.payload.head? = some 0x80 := rfl
    have flag : keys.payload.getLast? = some 0x01 := List.getLast?_concat
    simp only [version, flag, middle, ne_eq, not_true_eq_false, or_self, if_false, keys.new_privateKey]

/-! ## Accepted texts -/

theorem fromWif_eq_ok (interp : Interpreter) {wif : Str} {keys : PhantasmaKeys} :
    fromWif sha256 interp wif = .ok keys ↔ keys.toWif sha256 = wif := by
  have some : keys.payload ++ sha256.checksum keys.payload ≠ [] := by simp [payload]
  constructor
  · intro accepted
    by_cases empty : wif = []
    · rw [fromWif, if_pos empty] at accepted
      cases accepted
    · rw [fromWif, if_neg empty] at accepted
      obtain ⟨data, decoded, accepted⟩ := except_bind_eq_ok.mp accepted
      obtain rfl := (fromWifData_eq_ok sha256).mp accepted
      exact ((decodeBase58_eq_ok interp).mp decoded).2
  · rintro rfl
    rw [toWif, fromWif, if_neg (encodeBase58_ne_nil some)]
    exact except_bind_eq_ok.mpr ⟨_, decodeBase58_encodeBase58 interp some, (fromWifData_eq_ok sha256).mpr rfl⟩

theorem new_outcome (privateKey : Bytes) : Outcome (fun _ => True) IsCryptoError (new privateKey) := by
  unfold new
  generalize (if privateKey.length = 64 then privateKey.take PRIVATE_KEY_LENGTH else privateKey) = raw
  dsimp only
  split
  next => trivial
  next => exact ⟨_, rfl⟩

theorem fromWifData_outcome (data : Bytes) : Outcome (fun _ => True) IsCryptoError (fromWifData sha256 data) := by
  unfold fromWifData
  dsimp only
  split
  next => exact ⟨_, rfl⟩
  next =>
    split
    next => exact ⟨_, rfl⟩
    next =>
      split
      next => exact ⟨_, rfl⟩
      next => exact new_outcome _

/-- Reading a text fails with the errors of Base58 and of the checks. -/
theorem fromWif_outcome (interp : Interpreter) (wif : Str) :
    Outcome (fun _ => True) (fun e => IsCryptoError e ∨ ∃ message, e = .encodingError message)
      (fromWif sha256 interp wif) := by
  unfold fromWif
  split
  next => exact .inl ⟨_, rfl⟩
  next =>
    refine Outcome.bind (decodeBase58_outcome interp wif) (fun e failed => .inr failed) fun data _ => ?_
    exact (fromWifData_outcome sha256 data).mono (fun _ _ => trivial) fun e failed => .inl failed

/-- The text is `PhantasmaKeys(key).to_wif()` of a key of 32 bytes. -/
def Spells (key : Bytes) (wif : Str) : Prop :=
  key.length = PRIVATE_KEY_LENGTH ∧ ∃ keys, new key = .ok keys ∧ keys.toWif sha256 = wif

theorem spells_iff {keys : PhantasmaKeys} {wif : Str} :
    Spells sha256 keys.privateKey wif ↔ keys.toWif sha256 = wif := by
  constructor
  · rintro ⟨-, made, built, printed⟩
    obtain rfl := Except.ok.inj (keys.new_privateKey.symm.trans built)
    exact printed
  · intro printed
    exact ⟨keys.length_eq, keys, keys.new_privateKey, printed⟩

/-- The reader of keys accepts exactly the texts of the printer, each of one key, which it returns. -/
theorem wif_exact (interp : Interpreter) (wif : Str) :
    (∀ keys, fromWif sha256 interp wif = .ok keys ↔ Spells sha256 keys.privateKey wif) ∧
      {key | Spells sha256 key wif}.Subsingleton ∧
      ((∀ key, ¬ Spells sha256 key wif) →
        (∃ message, fromWif sha256 interp wif = .error (.cryptoError message)) ∨
          ∃ message, fromWif sha256 interp wif = .error (.encodingError message)) := by
  have accepted (keys : PhantasmaKeys) : fromWif sha256 interp wif = .ok keys ↔ Spells sha256 keys.privateKey wif := by
    rw [fromWif_eq_ok, spells_iff]
  refine ⟨accepted, ?_, ?_⟩
  · rintro key ⟨length, keys, made, printed⟩ key' ⟨length', keys', made', printed'⟩
    obtain rfl := (new_eq_ok length).mp made
    obtain rfl := (new_eq_ok length').mp made'
    -- Both keys are what the reader returns.
    have read := (fromWif_eq_ok sha256 interp).mpr printed
    have read' := (fromWif_eq_ok sha256 interp).mpr printed'
    rw [Except.ok.inj (read.symm.trans read')]
  · intro other
    cases result : fromWif sha256 interp wif with
    | ok keys => exact absurd ((accepted keys).mp result) (other _)
    | error e =>
      have refused := fromWif_outcome sha256 interp wif
      rw [result] at refused
      rcases refused with ⟨message, rfl⟩ | ⟨message, rfl⟩
      · exact .inl ⟨message, rfl⟩
      · exact .inr ⟨message, rfl⟩

/-- The digests that the text below needs: of its payload, and of that digest. -/
def vectorSha256 : Sha256 where
  digest data :=
    if data.length = 34 then
      [214, 141, 144, 61, 101, 254, 139, 31, 113, 130, 149, 21, 222, 97, 185, 88, 222, 17, 103, 176, 221, 107, 76, 12, 99,
        84, 40, 106, 241, 103, 230, 121]
    else
      [190, 229, 50, 85, 18, 191, 238, 244, 218, 110, 189, 114, 114, 12, 254, 9, 82, 92, 198, 208, 137, 209, 1, 37, 145,
        138, 251, 76, 176, 97, 228, 250]
  length_digest data := by split <;> rfl

example : fromWif vectorSha256 latin1 (Str.ofString "KxMn2TgXukYaNXx7tEdjh7qB2YaMgeuKy47j4rvKigHhBuZWeP3r") =
    .ok ⟨[33, 252, 170, 43, 13, 207, 27, 99, 192, 217, 188, 3, 47, 198, 120, 88, 30, 158, 113, 215, 103, 95, 183, 12, 99,
      136, 219, 253, 53, 196, 56, 164], rfl⟩ := by
  decide +kernel

end PhantasmaKeys

end PhantasmaPy
