import PhantasmaPy.VM.Binary

/-! # Keys, addresses, hashes and signatures

The part of `crypto.py` that signs and verifies, and the difficulty of hashes.  The Ed25519 implementation and the digest come from
other packages and are parameters.
-/

namespace PhantasmaPy

open Wire

def ADDRESS_LENGTH : Nat := 34

def PRIVATE_KEY_LENGTH : Nat := 32

def PUBLIC_KEY_LENGTH : Nat := 32

def SIGNATURE_LENGTH : Nat := 64

/-- The functions of the signature package on raw keys. -/
structure Ed25519 where
  /-- The public key of a private key. -/
  publicKey : Bytes → Bytes
  /-- The signature of a message under a private key. -/
  sign : Bytes → Bytes → Bytes
  /-- Whether a signature of a message verifies under a public key. -/
  verify : Bytes → Bytes → Bytes → Bool
  length_publicKey : ∀ key, (publicKey key).length = PUBLIC_KEY_LENGTH
  length_sign : ∀ key message, (sign key message).length = SIGNATURE_LENGTH

/-- What a key signs verifies under its public key. -/
def Ed25519.Correct (scheme : Ed25519) : Prop :=
  ∀ key message, key.length = PRIVATE_KEY_LENGTH →
    scheme.verify (scheme.publicKey key) (scheme.sign key message) message = true

/-! ## Addresses -/

inductive AddressKind where
  | INVALID
  | USER
  | SYSTEM
  | INTEROP
  deriving DecidableEq

def AddressKind.toByte : AddressKind → UInt8
  | INVALID => 0
  | USER => 1
  | SYSTEM => 2
  | INTEROP => 3

structure Address where
  data : Bytes
  length_eq : data.length = ADDRESS_LENGTH
  deriving DecidableEq

namespace Address

/-- The constructor with its `__post_init__` check. -/
def new (data : Bytes) : Except PyError Address :=
  if length : data.length = ADDRESS_LENGTH then .ok ⟨data, length⟩
  else .error (cryptoError s!"address length must be {ADDRESS_LENGTH}, got {data.length}")

def fromPublicKey (publicKey : Bytes) : Except PyError Address :=
  if publicKey.length = PUBLIC_KEY_LENGTH then new ([AddressKind.USER.toByte, 0] ++ publicKey)
  else if publicKey.length = PUBLIC_KEY_LENGTH + 1 then new ([AddressKind.USER.toByte] ++ publicKey)
  else if publicKey.length = 64 then
    new ([AddressKind.USER.toByte, 0] ++ publicKey.take PUBLIC_KEY_LENGTH)
  else .error (cryptoError s!"invalid public key length: {publicKey.length}")

def isNull (self : Address) : Bool := self.data = List.replicate ADDRESS_LENGTH 0

def kind (self : Address) : AddressKind :=
  if self.isNull then .SYSTEM
  else if self.data.getD 0 0 ≥ AddressKind.INTEROP.toByte then .INTEROP
  else if self.data.getD 0 0 = AddressKind.SYSTEM.toByte then .SYSTEM
  else if self.data.getD 0 0 = AddressKind.USER.toByte then .USER
  else .INVALID

/-- `public_key` of a user address. -/
def publicKey (self : Address) : Bytes := self.data.drop 2

/-- The var-bytes form of an address. -/
def prefixedBytes (self : Address) : Except PyError Bytes := (VM.writeVarBytes self.data).bytes

theorem fromPublicKey_eq {publicKey : Bytes} (length : publicKey.length = PUBLIC_KEY_LENGTH) :
    ∃ address, fromPublicKey publicKey = .ok address ∧ address.kind = .USER ∧
      address.publicKey = publicKey := by
  have whole : ([AddressKind.USER.toByte, 0] ++ publicKey).length = ADDRESS_LENGTH := by
    rw [List.length_append, length]
    rfl
  refine ⟨⟨_, whole⟩, ?_, ?_, rfl⟩
  · unfold fromPublicKey new
    rw [if_pos length, dif_pos whole]
  · have notNull : isNull ⟨_, whole⟩ = false := by
      simp [isNull, AddressKind.toByte, ADDRESS_LENGTH, List.replicate_succ]
    unfold kind
    rw [notNull]
    rfl

end Address

/-! ## Hashes -/

structure Hash where
  data : Bytes
  length_eq : data.length = 32
  deriving DecidableEq

namespace Hash

/-- The constructor with its `__post_init__` check. -/
def new (data : Bytes) : Except PyError Hash :=
  if length : data.length = 32 then .ok ⟨data, length⟩
  else .error (cryptoError s!"hash length must be 32, got {data.length}")

/-- The inner loop of `difficulty`, over the bits of a byte. -/
def scanByte (lastSetBit : Nat) (byte : UInt8 × Nat) : Nat :=
  (List.range 8).foldl (fun lastSetBit bitIndex =>
    if byte.1.toNat &&& (1 <<< bitIndex) ≠ 0 then 1 + (byte.2 <<< 3) + bitIndex else lastSetBit) lastSetBit

def difficulty (self : Hash) : Int := 256 - self.data.zipIdx.foldl scanByte 0

end Hash

/-! ## Signatures -/

inductive SignatureKind where
  | NONE
  | ED25519
  | ECDSA
  | RING
  deriving DecidableEq

namespace SignatureKind

/-- The value of the enumeration member. -/
def toByte : SignatureKind → UInt8
  | NONE => 0
  | ED25519 => 1
  | ECDSA => 2
  | RING => 3

/-- The call `SignatureKind(value)`. -/
def ofByte : UInt8 → Except PyError SignatureKind
  | 0 => .ok NONE
  | 1 => .ok ED25519
  | 2 => .ok ECDSA
  | 3 => .ok RING
  | _ => .error .valueError

end SignatureKind

structure Ed25519Signature where
  data : Bytes
  length_eq : data.length = SIGNATURE_LENGTH
  deriving DecidableEq

namespace Ed25519Signature

/-- The constructor with its `__post_init__` check. -/
def new (data : Bytes) : Except PyError Ed25519Signature :=
  if length : data.length = SIGNATURE_LENGTH then .ok ⟨data, length⟩
  else .error (cryptoError s!"signature length must be {SIGNATURE_LENGTH}, got {data.length}")

def kind (_ : Ed25519Signature) : SignatureKind := .ED25519

/-- Addresses that are not of users are passed over. -/
def verify (scheme : Ed25519) (self : Ed25519Signature) (message : Bytes) (addresses : List Address) :
    Bool :=
  addresses.any fun address =>
    address.kind = .USER && scheme.verify address.publicKey self.data message

theorem new_data (self : Ed25519Signature) : new self.data = .ok self := by
  unfold new
  rw [dif_pos self.length_eq]

end Ed25519Signature

/-! ## Keys -/

structure PhantasmaKeys where
  privateKey : Bytes
  length_eq : privateKey.length = PRIVATE_KEY_LENGTH
  deriving DecidableEq

namespace PhantasmaKeys

variable (scheme : Ed25519)

def publicKey (self : PhantasmaKeys) : Bytes := scheme.publicKey self.privateKey

def address (self : PhantasmaKeys) : Except PyError Address :=
  Address.fromPublicKey (self.publicKey scheme)

def sign (self : PhantasmaKeys) (message : Bytes) : Except PyError Ed25519Signature :=
  Ed25519Signature.new (scheme.sign self.privateKey message)

/-- A key signs every message, and under a correct scheme the signature verifies under its address. -/
theorem sign_verifies {scheme : Ed25519} (correct : scheme.Correct) (self : PhantasmaKeys)
    (message : Bytes) :
    ∃ signature address, self.sign scheme message = .ok signature ∧ self.address scheme = .ok address ∧
      signature.verify scheme message [address] = true := by
  obtain ⟨address, made, user, key⟩ :=
    Address.fromPublicKey_eq (scheme.length_publicKey self.privateKey)
  refine ⟨⟨_, scheme.length_sign self.privateKey message⟩, address, ?_, made, ?_⟩
  · unfold sign Ed25519Signature.new
    rw [dif_pos (scheme.length_sign self.privateKey message)]
  · simp [Ed25519Signature.verify, user, key, correct self.privateKey message self.length_eq]

end PhantasmaKeys

end PhantasmaPy
