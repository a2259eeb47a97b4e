import PhantasmaPy.VM.Transaction

/-! # Signed transactions

A transaction comes back from its wire form, the signed part determines the fields, and a run of signing
leaves every signature valid.
-/

namespace PhantasmaPy.VM

open Wire

namespace Transaction

/-! ## Wire form -/

/-- The names have a UTF-8 form, no field is too large for the reader, and the expiration has room.  The
    length of a list in memory is below `2 ^ 64`. -/
structure Encodable (tx : Transaction) : Prop where
  nexus : StorableText tx.nexusName
  chain : StorableText tx.chainName
  script : Storable tx.script
  expiration : Unsigned 32 tx.expiration
  payload : Storable tx.payload
  signatures : tx.signatures.length < 2 ^ 64

theorem conveys_message {self : Transaction} (encodable : self.Encodable) :
    Conveys self.writeMessage () readMessage { self with signatures := [] } :=
  (string_roundTrips.conveys encodable.nexus).seq ((string_roundTrips.conveys encodable.chain).seq
    ((varBytes_roundTrips.conveys encodable.script).seq
      (((unsigned_roundTrips 4).conveys encodable.expiration).seq
        ((varBytes_roundTrips.conveys encodable.payload).map _))))

theorem signature_roundTrips : RoundTrips (fun _ => True) writeSignature readSignature := by
  intro signature _
  have storable : Storable signature.data := by
    unfold Storable
    rw [signature.length_eq]
    decide
  obtain ⟨out, emits, parses⟩ := varBytes_roundTrips signature.data storable
  have byte : Unsigned 8 (SignatureKind.ED25519.toByte.toNat : Int) := by decide
  refine ⟨[1] ++ out, Put.Emits.bind (emits_write1.mpr ⟨byte, rfl⟩) emits, (read1_parses 1).bind ?_⟩
  have kind : (Get.check (SignatureKind.ofByte 1) : Reader SignatureKind).Parses [] .ED25519 :=
    Get.Parses.check rfl
  change Get.Parses _ ([] ++ out) signature
  apply kind.bind
  rw [if_neg (by decide)]
  exact parses.bind_nil (Get.Parses.check signature.new_data)

theorem conveys_signatures (self : Transaction) (room : self.signatures.length < 2 ^ 64) :
    Conveys (writeSignatures self.signatures) ()
      (do
        let count ← readVarUint
        let signatures ← Get.times readSignature count.toNat
        return { self with signatures }) self := by
  obtain ⟨out, emits, parses⟩ :=
    varUint_roundTrips self.signatures.length ⟨by positivity, by exact_mod_cast room⟩
  obtain ⟨items, written, read, -⟩ :=
    signature_roundTrips.each fun signature (_ : signature ∈ self.signatures) => trivial
  exact ⟨out ++ items, emits.bind written, parses.bind
    (read.map fun signatures => ({ self with signatures } : Transaction))⟩

theorem conveys {self : Transaction} (encodable : self.Encodable) :
    Conveys (self.writer true) () reader self := by
  unfold writer
  rw [if_pos rfl]
  exact (conveys_message encodable).seq
    (conveys_signatures { self with signatures := self.signatures } encodable.signatures)

theorem toBytes_eq_ok {self : Transaction} {withSignatures : Bool} {raw : Bytes} :
    self.toBytes withSignatures = .ok raw ↔ (self.writer withSignatures).Emits () raw := Put.bytes_eq_ok

theorem emits_writer_false {self : Transaction} {raw : Bytes} :
    (self.writer false).Emits () raw ↔ self.writeMessage.Emits () raw := by
  unfold writer
  rw [if_neg (by decide), Put.emits_seq]
  constructor
  · rintro ⟨message, rest, emits, pure, rfl⟩
    obtain ⟨-, rfl⟩ := Put.emits_pure.mp pure
    rwa [List.append_nil]
  · intro emits
    exact ⟨raw, [], emits, Put.emits_pure.mpr ⟨rfl, rfl⟩, (List.append_nil raw).symm⟩

theorem fromBytes_toBytes {self : Transaction} (encodable : self.Encodable) :
    ∃ raw, self.toBytes true = .ok raw ∧ fromBytes raw = .ok self := by
  obtain ⟨raw, emits, parses⟩ := conveys encodable
  exact ⟨raw, toBytes_eq_ok.mpr emits, readAll_eq_ok.mpr parses.yields⟩

/-- What is signed is the front of the wire form. -/
theorem message_prefix {self : Transaction} (encodable : self.Encodable) :
    ∃ message raw, self.toBytes false = .ok message ∧ self.toBytes true = .ok raw ∧ message <+: raw := by
  obtain ⟨message, emits, -⟩ := conveys_message encodable
  obtain ⟨signatures, emitsSignatures, -⟩ := conveys_signatures self encodable.signatures
  refine ⟨message, message ++ signatures, toBytes_eq_ok.mpr (emits_writer_false.mpr emits),
    toBytes_eq_ok.mpr ?_, List.prefix_append _ _⟩
  unfold writer
  rw [if_pos rfl]
  exact emits.bind emitsSignatures

theorem message_injective {left right : Transaction} (leftEncodable : left.Encodable)
    (rightEncodable : right.Encodable) {message : Bytes} (leftBytes : left.toBytes false = .ok message)
    (rightBytes : right.toBytes false = .ok message) :
    { left with signatures := [] } = { right with signatures := [] } := by
  obtain ⟨leftOut, leftEmits, leftParses⟩ := conveys_message leftEncodable
  obtain ⟨rightOut, rightEmits, rightParses⟩ := conveys_message rightEncodable
  obtain rfl := (leftEmits.unique (emits_writer_false.mp (toBytes_eq_ok.mp leftBytes))).2
  obtain rfl := (rightEmits.unique (emits_writer_false.mp (toBytes_eq_ok.mp rightBytes))).2
  exact (leftParses.yields.unique rightParses.yields).1

/-! ## Signing -/

section Signing

variable {scheme : Ed25519}

/-- The signature verifies under the address of the key. -/
def Signs (scheme : Ed25519) (signature : Ed25519Signature) (keyPair : PhantasmaKeys) (message : Bytes) :
    Prop :=
  ∃ address, keyPair.address scheme = .ok address ∧ signature.verify scheme message [address] = true

/-- The signatures do not enter the signed part. -/
theorem toBytes_signatures (self : Transaction) (signatures : List Ed25519Signature) :
    toBytes { self with signatures } false = self.toBytes false := by
  have same : writeMessage { self with signatures } = self.writeMessage := by
    unfold writeMessage
    rfl
  unfold toBytes writer
  rw [if_neg (by decide), if_neg (by decide), same]

/-- One call of `sign` appends a signature of the key. -/
theorem sign_appends (correct : scheme.Correct) (keyPair : PhantasmaKeys) {self : Transaction}
    {message : Bytes} (signed : self.toBytes false = .ok message) :
    ∃ signature, self.sign scheme keyPair =
        .ok (signature, { self with signatures := self.signatures ++ [signature] }) ∧
      Signs scheme signature keyPair message := by
  obtain ⟨signature, address, made, addressed, verifies⟩ := keyPair.sign_verifies correct message
  refine ⟨signature, ?_, address, addressed, verifies⟩
  unfold sign
  rw [signed]
  exact except_bind_eq_ok.mpr ⟨message, rfl, except_bind_eq_ok.mpr ⟨signature, made, rfl⟩⟩

/-- A run of signing appends one signature for each key and changes nothing else. -/
theorem signAll_appends (correct : scheme.Correct) (keyPairs : List PhantasmaKeys) {self : Transaction}
    {message : Bytes} (signed : self.toBytes false = .ok message) :
    ∃ added, signAll scheme keyPairs self =
        .ok { self with signatures := self.signatures ++ added } ∧
      added.length = keyPairs.length ∧
      ∀ keyPair ∈ keyPairs, ∃ signature ∈ added, Signs scheme signature keyPair message := by
  induction keyPairs generalizing self with
  | nil => exact ⟨[], by simp [signAll, pure, Except.pure], rfl, by simp⟩
  | cons keyPair keyPairs ih =>
    obtain ⟨signature, appended, signs⟩ := sign_appends correct keyPair signed
    -- The signed bytes leave the signatures out, so the next key signs the same message.
    obtain ⟨added, run, length, all⟩ :=
      ih ((self.toBytes_signatures (self.signatures ++ [signature])).trans signed)
    refine ⟨signature :: added, ?_, by rw [List.length_cons, length, List.length_cons], ?_⟩
    · unfold signAll
      refine except_bind_eq_ok.mpr ⟨_, appended, ?_⟩
      simpa using run
    · intro other member
      rcases List.mem_cons.mp member with rfl | later
      · exact ⟨signature, List.mem_cons_self, signs⟩
      · obtain ⟨found, inAdded, signsOther⟩ := all other later
        exact ⟨found, List.mem_cons_of_mem _ inAdded, signsOther⟩

theorem anyM_ok {α : Type} {test : α → Except PyError Bool} {result : α → Bool}
    (total : ∀ a, test a = .ok (result a)) (xs : List α) : xs.anyM test = .ok (xs.any result) := by
  induction xs with
  | nil => rfl
  | cons x xs ih =>
    rw [List.anyM, total]
    cases found : result x with
    | true => simp [found, bind, Except.bind, pure, Except.pure]
    | false => simpa [found, bind, Except.bind] using ih

/-- A transaction with a valid signature of the key is signed by it. -/
theorem isSignedBy_of_signs {keyPair : PhantasmaKeys} {self : Transaction} {message : Bytes}
    (signed : self.toBytes false = .ok message) {signature : Ed25519Signature}
    (member : signature ∈ self.signatures) (signs : Signs scheme signature keyPair message) :
    self.isSignedBy scheme keyPair = .ok true := by
  obtain ⟨address, addressed, verifies⟩ := signs
  unfold isSignedBy
  rw [signed]
  refine except_bind_eq_ok.mpr ⟨message, rfl, ?_⟩
  have valid : self.signatures.any (fun signature => signature.verify scheme message [address]) = true :=
    List.any_eq_true.mpr ⟨signature, member, verifies⟩
  rw [addressed, ← valid]
  exact anyM_ok (fun _ => rfl) self.signatures

/-- After a run of signing the hash is the same and every key of the run is found. -/
theorem signAll_isSignedBy (correct : scheme.Correct) (digest : Bytes → Bytes)
    (keyPairs : List PhantasmaKeys) {self : Transaction} (encodable : self.Encodable)
    (room : self.signatures.length + keyPairs.length < 2 ^ 64) :
    ∃ signed, signAll scheme keyPairs self = .ok signed ∧ signed.Encodable ∧
      signed.hash digest = self.hash digest ∧
      ∀ keyPair ∈ keyPairs, signed.isSignedBy scheme keyPair = .ok true := by
  obtain ⟨message, -, emits, -⟩ := message_prefix encodable
  obtain ⟨added, run, length, all⟩ := signAll_appends correct keyPairs emits
  have unchanged := self.toBytes_signatures (self.signatures ++ added)
  refine ⟨_, run, { encodable with signatures := ?_ }, ?_, ?_⟩
  · rw [List.length_append, length]
    exact room
  · unfold hash
    rw [unchanged]
  · intro keyPair member
    obtain ⟨signature, inAdded, signs⟩ := all keyPair member
    exact isSignedBy_of_signs (unchanged.trans emits) (List.mem_append_right _ inAdded) signs

/-- A transaction survives its wire form, its signed part is a prefix of that form and determines the
    fields, and a run of signing keeps the hash and is found by every key, also after the wire form. -/
theorem signing (scheme : Ed25519) (correct : scheme.Correct) (digest : Bytes → Bytes) :
    (∀ tx : Transaction, tx.Encodable →
      (∃ raw, tx.toBytes true = .ok raw ∧ fromBytes raw = .ok tx) ∧
      ∃ message raw, tx.toBytes false = .ok message ∧ tx.toBytes true = .ok raw ∧ message <+: raw) ∧
    (∀ left right : Transaction, left.Encodable → right.Encodable →
      left.toBytes false = right.toBytes false →
      left.nexusName = right.nexusName ∧ left.chainName = right.chainName ∧
        left.script = right.script ∧ left.expiration = right.expiration ∧
        left.payload = right.payload) ∧
    ∀ (tx : Transaction) (keyPairs : List PhantasmaKeys), tx.Encodable →
      tx.signatures.length + keyPairs.length < 2 ^ 64 →
      ∃ signed, signAll scheme keyPairs tx = .ok signed ∧ signed.hash digest = tx.hash digest ∧
        (∀ keyPair ∈ keyPairs, signed.isSignedBy scheme keyPair = .ok true) ∧
        ∃ raw decoded, signed.toBytes true = .ok raw ∧ fromBytes raw = .ok decoded ∧
          decoded.hash digest = tx.hash digest ∧
          ∀ keyPair ∈ keyPairs, decoded.isSignedBy scheme keyPair = .ok true := by
  refine ⟨fun tx encodable => ⟨fromBytes_toBytes encodable, message_prefix encodable⟩, ?_, ?_⟩
  · intro left right leftEncodable rightEncodable same
    obtain ⟨message, -, leftBytes, -⟩ := message_prefix leftEncodable
    -- the message has every field but the signatures
    have fields := message_injective leftEncodable rightEncodable leftBytes (same.symm.trans leftBytes)
    simpa using fields
  · intro tx keyPairs encodable room
    obtain ⟨signed, run, again, hashed, found⟩ := signAll_isSignedBy correct digest keyPairs encodable room
    obtain ⟨raw, written, read⟩ := fromBytes_toBytes again
    exact ⟨signed, run, hashed, found, raw, signed, written, read, hashed, found⟩

/-- A scheme that answers as Ed25519 does for the zero key and the message of `signing_zeroKey`. -/
def zeroKeyScheme : Ed25519 :=
  let publicKey : Bytes := [59, 106, 39, 188, 206, 182, 164, 45, 98, 163, 168, 208, 42, 111, 13, 115,
    101, 50, 21, 119, 29, 226, 67, 166, 58, 192, 72, 161, 139, 89, 218, 41]
  let signature : Bytes := [148, 224, 190, 55, 29, 100, 81, 148, 9, 209, 248, 255, 146, 36, 188, 53,
    58, 38, 209, 105, 242, 240, 139, 103, 122, 252, 112, 119, 41, 73, 41, 163, 144, 9, 209, 7, 121,
    132, 224, 60, 29, 97, 50, 114, 27, 254, 167, 233, 38, 174, 11, 0, 128, 57, 144, 197, 76, 61, 181,
    148, 9, 195, 177, 9]
  let publicKeyOf (key : Bytes) : Bytes :=
    if key = List.replicate 32 0 then publicKey else List.replicate 32 0
  let signatureOf (key message : Bytes) : Bytes :=
    if key = publicKey ∧ message = [1, 110, 1, 109, 0, 0, 0, 0, 0, 0] then signature
    else List.replicate 64 0
  { publicKey := publicKeyOf
    sign := fun key message => signatureOf (publicKeyOf key) message
    verify := fun key signature message => signature = signatureOf key message
    length_publicKey := fun key => by
      dsimp only [publicKeyOf]
      split <;> rfl
    length_sign := fun key message => by
      dsimp only [signatureOf]
      split <;> rfl }

/-- The message `[1, 110, 1, 109, 0, 0, 0, 0, 0, 0]` is the signed part of this transaction. -/
def zeroKeyTransaction : Transaction :=
  { nexusName := Str.ofString "n", chainName := Str.ofString "m", script := [], expiration := 0, payload := [] }

theorem signing_zeroKey :
    zeroKeyTransaction.toBytes false = .ok [1, 110, 1, 109, 0, 0, 0, 0, 0, 0] ∧
    ∃ signed, signAll zeroKeyScheme [⟨List.replicate 32 0, rfl⟩] zeroKeyTransaction = .ok signed ∧
      signed.hash id = zeroKeyTransaction.hash id ∧
      signed.isSignedBy zeroKeyScheme ⟨List.replicate 32 0, rfl⟩ = .ok true := by
  have correct : zeroKeyScheme.Correct := by
    intro key message _
    simp [zeroKeyScheme]
  have encodable : zeroKeyTransaction.Encodable :=
    { nexus := ⟨[110], by decide +kernel, by simp [Storable, MAX_ARRAY_SIZE]⟩
      chain := ⟨[109], by decide +kernel, by simp [Storable, MAX_ARRAY_SIZE]⟩
      script := by simp [zeroKeyTransaction, Storable]
      expiration := by decide
      payload := by simp [zeroKeyTransaction, Storable]
      signatures := by decide }
  obtain ⟨-, -, runs⟩ := signing zeroKeyScheme correct id
  obtain ⟨signed, run, hashed, found, -⟩ :=
    runs zeroKeyTransaction [⟨List.replicate 32 0, rfl⟩] encodable (by decide)
  exact ⟨by decide +kernel, signed, run, hashed, found _ List.mem_cons_self⟩

end Signing

end Transaction

end PhantasmaPy.VM
