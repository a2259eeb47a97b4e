import PhantasmaPy.Carbon.Builders
import PhantasmaPy.Carbon.TransactionLaws

/-! # Signed by one key

`sign_and_serialize_tx_msg` puts the one witness of a key on a transaction.  Which layouts that one
witness fills, and what the bytes then say.
-/

namespace PhantasmaPy.Carbon

open Wire CarbonWriter CarbonReader

section Signing

variable {scheme : Ed25519} {keys : PhantasmaKeys} {msg : TxMsg}

/-- The public key, as the address of a witness. -/
def keyAddress (scheme : Ed25519) (keys : PhantasmaKeys) : Bytes32 :=
  ⟨keys.publicKey scheme, scheme.length_publicKey keys.privateKey⟩

/-- The witness of a key for a message. -/
def keyWitness (scheme : Ed25519) (keys : PhantasmaKeys) (message : Bytes) : Witness where
  address := keyAddress scheme keys
  signature := ⟨scheme.sign keys.privateKey message, scheme.length_sign keys.privateKey message⟩

theorem bytes32FromPublicKey_eq (scheme : Ed25519) (keys : PhantasmaKeys) :
    bytes32FromPublicKey (keys.publicKey scheme) = .ok (keyAddress scheme keys) := by
  unfold bytes32FromPublicKey
  exact dif_pos (scheme.length_publicKey keys.privateKey)

/-- The address of a key and its public key stand for the same 32 bytes. -/
theorem bytes32FromPhantasmaAddress_eq (scheme : Ed25519) (keys : PhantasmaKeys) :
    ∃ address, keys.address scheme = .ok address ∧
      bytes32FromPhantasmaAddress address = .ok (keyAddress scheme keys) := by
  obtain ⟨address, made, user, key⟩ := Address.fromPublicKey_eq (scheme.length_publicKey keys.privateKey)
  refine ⟨address, made, ?_⟩
  unfold bytes32FromPhantasmaAddress
  rw [if_neg fun other => other.1 user]
  unfold keyAddress
  congr 2

theorem signTxMsg_eq {message : Bytes} (written : serialize msg.writeCarbon = .ok message) :
    signTxMsg scheme msg keys = .ok { msg, witnesses := [keyWitness scheme keys message] } := by
  have signed : keys.sign scheme message =
      .ok ⟨_, scheme.length_sign keys.privateKey message⟩ := Ed25519Signature.new_data ⟨_, _⟩
  have signature := FixedBytes.new_raw (keyWitness scheme keys message).signature
  unfold signTxMsg
  simp only [except_bind_eq_ok]
  exact ⟨message, written, _, signed, _, bytes32FromPublicKey_eq scheme keys, _, signature, rfl⟩

theorem signAndSerialize_eq_ok {raw : Bytes} : signAndSerializeTxMsg scheme msg keys = .ok raw ↔
    ∃ message, serialize msg.writeCarbon = .ok message ∧
      serialize (SignedTxMsg.writeCarbon { msg, witnesses := [keyWitness scheme keys message] }) = .ok raw := by
  unfold signAndSerializeTxMsg
  rw [except_bind_eq_ok]
  constructor
  · rintro ⟨signed, made, written⟩
    obtain ⟨message, first, -⟩ := except_bind_eq_ok.mp made
    rw [signTxMsg_eq first] at made
    cases made
    exact ⟨message, first, written⟩
  · rintro ⟨message, first, written⟩
    exact ⟨_, signTxMsg_eq first, written⟩

/-- The layouts of witnesses that one witness of the key fills. -/
def TxMsg.Signable (scheme : Ed25519) (keys : PhantasmaKeys) (self : TxMsg) : Prop :=
  match self.type.witnessLayout with
  | .single => self.gasFrom = keyAddress scheme keys
  | .counted => True
  | .gasPayer => False
  | .absent => False

theorem writeWitnesses_one (msg : TxMsg) (message : Bytes) :
    (∃ out, (SignedTxMsg.mk msg [keyWitness scheme keys message]).writeWitnesses.Emits () out) ↔
      msg.Signable scheme keys := by
  unfold TxMsg.Signable SignedTxMsg.writeWitnesses
  cases layout : msg.type.witnessLayout with
  | single =>
    dsimp only
    split
    next foreign =>
      exact iff_of_false (fun ⟨_, emits⟩ => Put.emits_throw emits) fun same => foreign same.symm
    next same => exact iff_of_true ⟨_, SignedTxMsg.emits_write64.mpr rfl⟩ (not_not.mp same).symm
  | gasPayer => exact iff_of_false (fun ⟨_, emits⟩ => Put.emits_throw emits) id
  | counted =>
    exact iff_of_true
      (writeArray_written.mpr ⟨by simp, fun witness _ => ⟨_, SignedTxMsg.emits_witness witness⟩⟩) trivial
  | absent => exact iff_of_false (fun ⟨_, emits⟩ => Put.emits_throw emits) id

/-- The bytes are the message with one witness of the key, whose signature verifies over the image of the
    message, and that image is their front. -/
def SignedBytes (scheme : Ed25519) (keys : PhantasmaKeys) (msg : TxMsg) (raw : Bytes) : Prop :=
  ∃ message signature, serialize msg.writeCarbon = .ok message ∧ message <+: raw ∧
    deserialize SignedTxMsg.readCarbon raw =
      .ok { msg, witnesses := [{ address := keyAddress scheme keys, signature }] } ∧
    scheme.verify (keys.publicKey scheme) signature.raw message = true

theorem rebuilt_one (msg : TxMsg) (witness : Witness) :
    (SignedTxMsg.mk msg [witness]).rebuilt = [witness] := by
  unfold SignedTxMsg.rebuilt
  cases msg.type.witnessLayout <;> rfl

/-- A failure to sign a message that has an image is one to write the witness. -/
theorem signAndSerialize_refused {message : Bytes} (written : serialize msg.writeCarbon = .ok message)
    (refused : ¬ msg.Signable scheme keys) :
    ∃ text, signAndSerializeTxMsg scheme msg keys = .error (.serializationError text) := by
  have nothing := mt (writeWitnesses_one msg message).mp refused
  rcases Put.fails_or_emits (SignedTxMsg.mk msg [keyWitness scheme keys message]).writeWitnesses with
    ⟨e, fails⟩ | ⟨_, out, emits⟩
  · obtain ⟨text, rfl⟩ := SignedTxMsg.writeWitnesses_fails fails
    refine ⟨text, ?_⟩
    unfold signAndSerializeTxMsg
    rw [signTxMsg_eq written]
    exact ((serialize_eq_ok.mp written).bind_fails fails).bytes
  · exact absurd ⟨out, emits⟩ nothing

theorem signAndSerialize_signs (wellFormed : msg.WellFormed) (signable : msg.Signable scheme keys) :
    ∃ raw, signAndSerializeTxMsg scheme msg keys = .ok raw := by
  obtain ⟨message, emits, -⟩ := TxMsg.marked.roundTrips msg wellFormed
  have written := serialize_eq_ok.mpr emits
  obtain ⟨out, emitsWitness⟩ := (writeWitnesses_one msg message).mpr signable
  exact ⟨_, signAndSerialize_eq_ok.mpr ⟨message, written, serialize_eq_ok.mpr (emits.bind emitsWitness)⟩⟩

theorem signAndSerialize_signed (correct : scheme.Correct) (wellFormed : msg.WellFormed) {raw : Bytes}
    (signed : signAndSerializeTxMsg scheme msg keys = .ok raw) :
    msg.Signable scheme keys ∧ SignedBytes scheme keys msg raw := by
  obtain ⟨message, emits, parses⟩ := TxMsg.marked.roundTrips msg wellFormed
  have written := serialize_eq_ok.mpr emits
  obtain ⟨message', written', serialized⟩ := signAndSerialize_eq_ok.mp signed
  obtain rfl := Except.ok.inj (written.symm.trans written')
  obtain ⟨front, out, emitsFront, emitsWitness, rfl⟩ := Put.emits_seq.mp (serialize_eq_ok.mp serialized)
  obtain rfl := (emits.unique emitsFront).2
  have read := SignedTxMsg.readCarbon_yields parses.yields emitsWitness
  rw [rebuilt_one] at read
  refine ⟨(writeWitnesses_one msg message).mp ⟨out, emitsWitness⟩, message, _, written, List.prefix_append _ _,
    deserialize_eq_ok.mpr read, ?_⟩
  exact correct keys.privateKey message keys.length_eq

/-- A message in the ranges of the wire is signed exactly if one witness fills its layout, and is refused
    with a `SerializationError` otherwise; the signed bytes say what was signed and who signed it. -/
theorem signing_exact (scheme : Ed25519) (correct : scheme.Correct) (keys : PhantasmaKeys) (msg : TxMsg)
    (wellFormed : msg.WellFormed) :
    (msg.Signable scheme keys → ∃ raw, signAndSerializeTxMsg scheme msg keys = .ok raw) ∧
    (∀ raw, signAndSerializeTxMsg scheme msg keys = .ok raw →
      msg.Signable scheme keys ∧ SignedBytes scheme keys msg raw) ∧
    (¬ msg.Signable scheme keys →
      ∃ text, signAndSerializeTxMsg scheme msg keys = .error (.serializationError text)) := by
  obtain ⟨message, emits, -⟩ := TxMsg.marked.roundTrips msg wellFormed
  refine ⟨signAndSerialize_signs wellFormed, fun raw signed => ?_, ?_⟩
  · exact signAndSerialize_signed correct wellFormed signed
  · exact signAndSerialize_refused (serialize_eq_ok.mpr emits)

end Signing

/-- The public key of the private key of zeros. -/
def zeroPublicKey : Bytes32 where
  raw := [59, 106, 39, 188, 206, 182, 164, 45, 98, 163, 168, 208, 42, 111, 13, 115, 101, 50, 21, 119, 29,
    226, 67, 166, 58, 192, 72, 161, 139, 89, 218, 41]
  length_eq := rfl

/-- The image of a mint of an empty instance by that key. -/
def mintImage : Bytes :=
  [12, 1, 0, 0, 0, 0, 0, 0, 0, 128, 150, 152, 0, 0, 0, 0, 0, 0, 225, 245, 5, 0, 0, 0, 0] ++
    zeroPublicKey.raw ++ [0, 1, 0, 0, 0, 0, 0, 0, 0] ++ List.replicate 44 0

/-- The private key of zeros with its public key and its signature of one message; any other key and message have
zeros instead. -/
def zeroKeyScheme (signed : Bytes) (signature : Bytes64) : Ed25519 :=
  let publicKeyOf (key : Bytes) : Bytes :=
    if key = List.replicate 32 0 then zeroPublicKey.raw else List.replicate 32 0
  let signatureOf (key message : Bytes) : Bytes :=
    if key = zeroPublicKey.raw ∧ message = signed then signature.raw else List.replicate 64 0
  { publicKey := publicKeyOf
    sign := fun key message => signatureOf (publicKeyOf key) message
    verify := fun key signature message => signature = signatureOf key message
    length_publicKey := fun key => by
      dsimp only [publicKeyOf]
      split <;> rfl
    length_sign := fun key message => by
      dsimp only [signatureOf]
      split
      next => exact signature.length_eq
      next => rfl }

theorem zeroKeyScheme_correct (signed : Bytes) (signature : Bytes64) :
    (zeroKeyScheme signed signature).Correct := by
  intro key message _
  exact decide_eq_true rfl

/-- The signature of that image by the key of zeros. -/
def mintSignature : Bytes64 where
  raw := [82, 39, 138, 138, 149, 121, 7, 147, 178, 87, 95, 8, 233, 60, 62, 175, 215, 193, 158, 66, 70, 53, 66, 21,
    62, 179, 18, 76, 45, 41, 82, 8, 59, 232, 185, 67, 9, 30, 91, 197, 170, 48, 164, 109, 209, 173, 221, 163, 24, 249,
    83, 84, 46, 43, 21, 177, 100, 60, 98, 200, 4, 44, 144, 5]
  length_eq := rfl

def mintScheme : Ed25519 := zeroKeyScheme mintImage mintSignature

theorem mintScheme_correct : mintScheme.Correct := zeroKeyScheme_correct mintImage mintSignature

def zeroKeys : PhantasmaKeys := ⟨List.replicate 32 0, rfl⟩

def mintMsg : TxMsg where
  type := .MINT_NON_FUNGIBLE
  expiry := 1
  maxGas := 10000000
  maxData := 100000000
  gasFrom := zeroPublicKey
  payload := SmallString.empty
  msg := .mintNonFungible { tokenId := 1, toAddress := EMPTY_BYTES32, seriesId := 0, rom := [] }

theorem shortBytes_nil : ShortBytes [] := by
  unfold ShortBytes
  decide

theorem signing_exact_mint : serialize mintMsg.writeCarbon = .ok mintImage ∧
    ∃ raw, signAndSerializeTxMsg mintScheme mintMsg zeroKeys = .ok raw ∧
      SignedBytes mintScheme zeroKeys mintMsg raw := by
  have wellFormed : mintMsg.WellFormed :=
    ⟨rfl, by decide, by decide, by decide, by decide, by decide, shortBytes_nil, shortBytes_nil⟩
  obtain ⟨signs, bytes, -⟩ := signing_exact mintScheme mintScheme_correct zeroKeys mintMsg wellFormed
  obtain ⟨raw, signed⟩ := signs rfl
  exact ⟨by decide +kernel, raw, signed, (bytes raw signed).2⟩

end PhantasmaPy.Carbon
