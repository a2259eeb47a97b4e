import PhantasmaPy.Carbon.SigningLaws
import PhantasmaPy.Rpc.Caller
import PhantasmaPy.Rpc.Sending
import PhantasmaPy.VM.SigningLaws

/-! # Submitted transactions

What a call that signs and sends a transaction posts, and what the hash that it returns is the answer to, when the
calls go over a network.
-/

namespace PhantasmaPy

open Wire

/-- The bytes are the transaction with one more signature, which is one of the keys. -/
def VM.Transaction.SignedBytes (scheme : Ed25519) (keys : PhantasmaKeys) (tx : VM.Transaction) (raw : Bytes) : Prop :=
  ∃ signature, fromBytes raw = .ok { tx with signatures := tx.signatures ++ [signature] } ∧
    isSignedBy scheme keys { tx with signatures := tx.signatures ++ [signature] } = .ok true ∧
    ∀ digest, hash digest { tx with signatures := tx.signatures ++ [signature] } = tx.hash digest

/-- A call that signs and sends. -/
inductive Submission where
  | transaction (keys : PhantasmaKeys) (now : Int) (nexus : Str) (script : Bytes) (chain : Str) (payload : Chunk)
      (expiration : Option Int)
  | built (keys : PhantasmaKeys) (tx : VM.Transaction)
  | carbon (keys : PhantasmaKeys) (msg : Carbon.TxMsg)

namespace Submission

variable (scheme : Ed25519)

def method : Submission → Str
  | transaction .. => Str.ofString "sendRawTransaction"
  | built .. => Str.ofString "sendRawTransaction"
  | carbon .. => Str.ofString "sendCarbonTransaction"

/-- The bytes that go out. -/
def image : Submission → Except PyError Bytes
  | transaction keys now nexus script chain payload expiration => do
    let tx ← JsonRpcClient.newTransaction now nexus script chain payload expiration
    let (_, signed) ← tx.sign scheme keys
    signed.toBytes true
  | built keys tx => do
    let (_, signed) ← tx.sign scheme keys
    signed.toBytes true
  | carbon keys msg => Carbon.signAndSerializeTxMsg scheme msg keys

/-- The fields are in the ranges of the wire form. -/
def Sendable : Submission → Prop
  | transaction _ now nexus script chain payload expiration =>
    ∃ tx, JsonRpcClient.newTransaction now nexus script chain payload expiration = .ok tx ∧ tx.Encodable
  | built _ tx => tx.Encodable ∧ tx.signatures.length + 1 < 2 ^ 64
  | carbon keys msg => msg.WellFormed ∧ msg.Signable scheme keys

/-- The bytes are what the call was to sign, and signed by its keys. -/
def SignedIn (raw : Bytes) : Submission → Prop
  | transaction keys now nexus script chain payload expiration =>
    ∃ tx, JsonRpcClient.newTransaction now nexus script chain payload expiration = .ok tx ∧
      tx.SignedBytes scheme keys raw
  | built keys tx => tx.SignedBytes scheme keys raw
  | carbon keys msg => Carbon.SignedBytes scheme keys msg raw

variable {scheme}

theorem built_image (correct : scheme.Correct) (keys : PhantasmaKeys) {tx : VM.Transaction}
    (encodable : tx.Encodable) (room : tx.signatures.length + 1 < 2 ^ 64) :
    ∃ raw, image scheme (built keys tx) = .ok raw ∧ tx.SignedBytes scheme keys raw := by
  obtain ⟨message, -, emits, -⟩ := VM.Transaction.message_prefix encodable
  obtain ⟨signature, appended, signs⟩ := VM.Transaction.sign_appends correct keys emits
  have unchanged := tx.toBytes_signatures (tx.signatures ++ [signature])
  have again : VM.Transaction.Encodable { tx with signatures := tx.signatures ++ [signature] } :=
    { encodable with signatures := by rwa [List.length_append, List.length_singleton] }
  obtain ⟨raw, written, read⟩ := VM.Transaction.fromBytes_toBytes again
  refine ⟨raw, except_bind_eq_ok.mpr ⟨_, appended, written⟩, signature, read, ?_, fun digest => ?_⟩
  · exact VM.Transaction.isSignedBy_of_signs (unchanged.trans emits)
      (List.mem_append_right _ (List.mem_singleton.mpr rfl)) signs
  · unfold VM.Transaction.hash
    rw [unchanged]

/-- What is in range is signed and sent. -/
theorem Sendable.signed (correct : scheme.Correct) {self : Submission} (sendable : self.Sendable scheme) :
    ∃ raw, self.image scheme = .ok raw ∧ self.SignedIn scheme raw := by
  cases self with
  | transaction keys now nexus script chain payload expiration =>
    obtain ⟨tx, made, encodable⟩ := sendable
    have room : tx.signatures.length + 1 < 2 ^ 64 := by
      obtain ⟨raw, -, same⟩ := except_bind_eq_ok.mp made
      obtain rfl := Except.ok.inj same
      change 0 + 1 < 2 ^ 64
      decide
    obtain ⟨raw, written, signed⟩ := built_image correct keys encodable room
    exact ⟨raw, except_bind_eq_ok.mpr ⟨tx, made, written⟩, tx, made, signed⟩
  | built keys tx => exact built_image correct keys sendable.1 sendable.2
  | carbon keys msg =>
    obtain ⟨raw, written⟩ := Carbon.signAndSerialize_signs sendable.1 sendable.2
    exact ⟨raw, written, (Carbon.signAndSerialize_signed correct sendable.1 written).2⟩

end Submission

/-! ## Submissions over the network -/

namespace Submission

variable {σ : Type}

/-- The call that the submission makes. -/
def Asks (scheme : Ed25519) (self : Submission) (method : Str) (params : List Json) : Prop :=
  ∃ raw, self.image scheme = .ok raw ∧ method = self.method ∧ params = [.str (encodeHex raw)]

end Submission

end PhantasmaPy
