import PhantasmaPy.Carbon.SigningLaws
import PhantasmaPy.Carbon.WrittenRecords

/-! # Built transactions

The operations that the builders put on the wire: when a built and signed transaction comes out, and that
its bytes say who does what, down to the arguments.
-/

namespace PhantasmaPy.Carbon

open Wire CarbonWriter CarbonReader

/-! ## Operations -/

/-- What the builders build, with the fee options of each. -/
inductive TokenOperation where
  | createToken (tokenInfo : TokenInfo) (fees : CreateTokenFeeOptions)
  | createTokenSeries (tokenId : Int) (seriesInfo : SeriesInfo) (fees : CreateSeriesFeeOptions)
  | mintNonFungible (tokenId seriesId : Int) (receiver : Bytes32) (rom ram : Bytes) (fees : MintNFTFeeOptions)
  | mintPhantasmaNonFungible (tokenId : Int) (receiver : Bytes32) (tokens : List PhantasmaNFTMintInfo)
      (fees : MintNFTFeeOptions)
  | mintPhantasmaNonFungibleSingle (tokenId phantasmaSeriesId : Int) (receiver : Bytes32) (publicRom ram : Bytes)
      (fees : MintNFTFeeOptions)

namespace TokenOperation

/-- The builder of the operation. -/
def build (now : Int) (self : TokenOperation) (sender : Bytes32) (maxData expiry : Int) :
    Except PyError TxMsg :=
  match self with
  | createToken tokenInfo fees => buildCreateTokenTx now tokenInfo sender fees maxData expiry
  | createTokenSeries tokenId seriesInfo fees =>
    buildCreateTokenSeriesTx now tokenId seriesInfo sender fees maxData expiry
  | mintNonFungible tokenId seriesId receiver rom ram fees =>
    buildMintNonFungibleTx now tokenId seriesId sender receiver rom ram fees maxData expiry
  | mintPhantasmaNonFungible tokenId receiver tokens fees =>
    buildMintPhantasmaNonFungibleTx now tokenId sender receiver tokens fees maxData expiry
  | mintPhantasmaNonFungibleSingle tokenId phantasmaSeriesId receiver publicRom ram fees =>
    buildMintPhantasmaNonFungibleSingleTx now tokenId phantasmaSeriesId sender receiver publicRom ram fees maxData
      expiry

/-- The builder of the operation with the signature of the sender. -/
def buildAndSign (now : Int) (scheme : Ed25519) (self : TokenOperation) (signer : PhantasmaKeys)
    (maxData expiry : Int) : Except PyError Bytes :=
  match self with
  | createToken tokenInfo fees => buildCreateTokenTxAndSign now scheme tokenInfo signer fees maxData expiry
  | createTokenSeries tokenId seriesInfo fees =>
    buildCreateTokenSeriesTxAndSign now scheme tokenId seriesInfo signer fees maxData expiry
  | mintNonFungible tokenId seriesId receiver rom ram fees =>
    buildMintNonFungibleTxAndSign now scheme tokenId seriesId signer receiver rom ram fees maxData expiry
  | mintPhantasmaNonFungible tokenId receiver tokens fees =>
    buildMintPhantasmaNonFungibleTxAndSign now scheme tokenId signer receiver tokens fees maxData expiry
  | mintPhantasmaNonFungibleSingle tokenId phantasmaSeriesId receiver publicRom ram fees =>
    buildMintPhantasmaNonFungibleSingleTxAndSign now scheme tokenId phantasmaSeriesId signer receiver publicRom ram
      fees maxData expiry

/-- The gas that the fee options offer. -/
def maxGas : TokenOperation → Except PyError Int
  | createToken tokenInfo fees => fees.calculateMaxGasForSymbol tokenInfo.symbol
  | createTokenSeries _ _ fees => fees.calculateMaxGas 1
  | mintNonFungible _ _ _ _ _ fees => fees.calculateMaxGas 1
  | mintPhantasmaNonFungible _ _ tokens fees => fees.calculateMaxGas tokens.length
  | mintPhantasmaNonFungibleSingle _ _ _ _ _ fees => fees.calculateMaxGas 1

/-- The payload with the arguments in their wire form. -/
def payload : TokenOperation → Except PyError TxPayload
  | createToken tokenInfo _ => do
    let args ← serialize tokenInfo.writeCarbon
    return .call { moduleId := 1, methodId := 2, args }
  | createTokenSeries tokenId info _ => do
    let args ← serialize (CreateTokenSeriesArgs.writeCarbon { tokenId, info })
    return .call { moduleId := 1, methodId := 6, args }
  | mintNonFungible tokenId seriesId toAddress rom ram _ =>
    .ok (.mintNonFungible { tokenId, toAddress, seriesId, rom, ram })
  | mintPhantasmaNonFungible tokenId address tokens _ => do
    let args ← serialize (MintPhantasmaNonFungibleArgs.writeCarbon { tokenId, address, tokens })
    return .call { moduleId := 1, methodId := 27, args }
  | mintPhantasmaNonFungibleSingle tokenId phantasmaSeriesId address rom ram _ => do
    let token : PhantasmaNFTMintInfo := { phantasmaSeriesId := ⟨phantasmaSeriesId⟩, rom, ram }
    let args ← serialize (MintPhantasmaNonFungibleArgs.writeCarbon { tokenId, address, tokens := [token] })
    return .call { moduleId := 1, methodId := 27, args }

/-- The numbers and the byte strings among the arguments are in the ranges of their fields. -/
def Fits : TokenOperation → Prop
  | createToken tokenInfo _ => tokenInfo.Writable
  | createTokenSeries tokenId info _ => Unsigned 64 tokenId ∧ info.Writable
  | mintNonFungible tokenId seriesId _ rom ram _ =>
    Unsigned 64 tokenId ∧ Unsigned 32 seriesId ∧ ShortBytes rom ∧ ShortBytes ram
  | mintPhantasmaNonFungible tokenId _ tokens _ =>
    Unsigned 64 tokenId ∧ ArrayOf PhantasmaNFTMintInfo.Writable tokens
  | mintPhantasmaNonFungibleSingle tokenId phantasmaSeriesId _ rom ram _ =>
    Unsigned 64 tokenId ∧ IntX.InWord ⟨phantasmaSeriesId⟩ ∧ ShortBytes rom ∧ ShortBytes ram

/-- The writer of the arguments of a call. -/
def arguments : TokenOperation → CarbonWriter Unit
  | createToken tokenInfo _ => tokenInfo.writeCarbon
  | createTokenSeries tokenId info _ => CreateTokenSeriesArgs.writeCarbon { tokenId, info }
  | mintNonFungible _ _ _ _ _ _ => return ()
  | mintPhantasmaNonFungible tokenId address tokens _ =>
    MintPhantasmaNonFungibleArgs.writeCarbon { tokenId, address, tokens }
  | mintPhantasmaNonFungibleSingle tokenId phantasmaSeriesId address rom ram _ =>
    MintPhantasmaNonFungibleArgs.writeCarbon
      { tokenId, address, tokens := [{ phantasmaSeriesId := ⟨phantasmaSeriesId⟩, rom, ram }] }

/-- The arguments of a call take fewer than `2 ^ 31` bytes in all. -/
def Short (self : TokenOperation) : Prop := ∀ out, self.arguments.Emits () out → ShortBytes out

/-- The records among the arguments come back from the wire as they are. -/
def InRange : TokenOperation → Prop
  | createToken tokenInfo _ => tokenInfo.InRange
  | createTokenSeries tokenId info _ => CreateTokenSeriesArgs.InRange { tokenId, info }
  | mintNonFungible _ _ _ _ _ _ => True
  | mintPhantasmaNonFungible tokenId address tokens _ =>
    MintPhantasmaNonFungibleArgs.InRange { tokenId, address, tokens }
  | mintPhantasmaNonFungibleSingle tokenId phantasmaSeriesId address rom ram _ =>
    MintPhantasmaNonFungibleArgs.InRange
      { tokenId, address, tokens := [{ phantasmaSeriesId := ⟨phantasmaSeriesId⟩, rom, ram }] }

/-- The payload is that of the operation: a call whose arguments are read as the records, or the fields
    of a mint. -/
inductive Carried : TokenOperation → TxPayload → Prop
  | createToken {tokenInfo : TokenInfo} {fees : CreateTokenFeeOptions} {args : Bytes}
      (read : deserialize TokenInfo.readCarbon args = .ok tokenInfo) :
      Carried (.createToken tokenInfo fees) (.call { moduleId := 1, methodId := 2, args })
  | createTokenSeries {tokenId : Int} {info : SeriesInfo} {fees : CreateSeriesFeeOptions} {args : Bytes}
      (read : deserialize CreateTokenSeriesArgs.readCarbon args = .ok { tokenId, info }) :
      Carried (.createTokenSeries tokenId info fees) (.call { moduleId := 1, methodId := 6, args })
  | mintNonFungible {tokenId seriesId : Int} {toAddress : Bytes32} {rom ram : Bytes}
      {fees : MintNFTFeeOptions} :
      Carried (.mintNonFungible tokenId seriesId toAddress rom ram fees)
        (.mintNonFungible { tokenId, toAddress, seriesId, rom, ram })
  | mintPhantasmaNonFungible {tokenId : Int} {address : Bytes32} {tokens : List PhantasmaNFTMintInfo}
      {fees : MintNFTFeeOptions} {args : Bytes}
      (read : deserialize MintPhantasmaNonFungibleArgs.readCarbon args = .ok { tokenId, address, tokens }) :
      Carried (.mintPhantasmaNonFungible tokenId address tokens fees)
        (.call { moduleId := 1, methodId := 27, args })
  | mintPhantasmaNonFungibleSingle {tokenId phantasmaSeriesId : Int} {address : Bytes32} {rom ram : Bytes}
      {fees : MintNFTFeeOptions} {args : Bytes} (read : deserialize MintPhantasmaNonFungibleArgs.readCarbon args =
        .ok { tokenId, address, tokens := [{ phantasmaSeriesId := ⟨phantasmaSeriesId⟩, rom, ram }] }) :
      Carried (.mintPhantasmaNonFungibleSingle tokenId phantasmaSeriesId address rom ram fees)
        (.call { moduleId := 1, methodId := 27, args })

/-- The transaction around a payload. -/
def message (now : Int) (sender : Bytes32) (gas maxData expiry : Int) (payload : TxPayload) : TxMsg where
  type := payload.type
  expiry := expiryOr now expiry
  maxGas := gas
  maxData := maxData
  gasFrom := sender
  payload := SmallString.empty
  msg := payload

/-- A builder of a call asks for the gas and writes the arguments. -/
theorem call_eq_ok {gas : Except PyError Int} {args : Except PyError Bytes} {call : Bytes → TxPayload}
    {f : Int → TxPayload → TxMsg} {msg : TxMsg} :
    (do let gas ← gas; let args ← args; return f gas (call args)) = .ok msg ↔
      ∃ offer payload, gas = .ok offer ∧ args.map call = .ok payload ∧ msg = f offer payload := by
  simp only [except_bind_eq_ok, map_eq_ok]
  constructor
  · rintro ⟨offer, offered, args, written, built⟩
    exact ⟨offer, _, offered, ⟨args, written, rfl⟩, (Except.ok.inj built).symm⟩
  · rintro ⟨offer, _, offered, ⟨args, written, rfl⟩, rfl⟩
    exact ⟨offer, offered, args, written, rfl⟩

theorem build_eq_ok {now : Int} {self : TokenOperation} {sender : Bytes32} {maxData expiry : Int} {msg : TxMsg} :
    self.build now sender maxData expiry = .ok msg ↔
      ∃ gas payload, self.maxGas = .ok gas ∧ self.payload = .ok payload ∧
        msg = message now sender gas maxData expiry payload := by
  have mints {tokenId : Int} {address : Bytes32} (fees : MintNFTFeeOptions) (tokens : List PhantasmaNFTMintInfo) :=
    @call_eq_ok (fees.calculateMaxGas tokens.length)
      (serialize (MintPhantasmaNonFungibleArgs.writeCarbon { tokenId, address, tokens }))
      (fun args => .call { moduleId := 1, methodId := 27, args }) (fun gas => message now sender gas maxData expiry) msg
  cases self with
  | createToken tokenInfo fees =>
    exact @call_eq_ok (fees.calculateMaxGasForSymbol tokenInfo.symbol) (serialize tokenInfo.writeCarbon)
      (fun args => .call { moduleId := 1, methodId := 2, args }) (fun gas => message now sender gas maxData expiry) msg
  | createTokenSeries tokenId info fees =>
    change buildCreateTokenSeriesTx now tokenId info sender fees maxData expiry = _ ↔ _
    unfold buildCreateTokenSeriesTx maxGas payload
    simp only [except_bind_eq_ok]
    -- the arguments come before the fees
    constructor
    · rintro ⟨args, written, gas, offered, built⟩
      exact ⟨gas, _, offered, ⟨args, written, rfl⟩, (Except.ok.inj built).symm⟩
    · rintro ⟨gas, _, offered, ⟨args, written, same⟩, rfl⟩
      cases same
      exact ⟨args, written, gas, offered, rfl⟩
  | mintNonFungible tokenId seriesId receiver rom ram fees =>
    change buildMintNonFungibleTx now tokenId seriesId sender receiver rom ram fees maxData expiry = _ ↔ _
    unfold buildMintNonFungibleTx maxGas payload
    simp only [except_bind_eq_ok]
    constructor
    · rintro ⟨gas, offered, built⟩
      exact ⟨gas, _, offered, rfl, (Except.ok.inj built).symm⟩
    · rintro ⟨gas, _, offered, same, rfl⟩
      cases same
      exact ⟨gas, offered, rfl⟩
  | mintPhantasmaNonFungible tokenId address tokens fees => exact mints fees tokens
  | mintPhantasmaNonFungibleSingle tokenId phantasmaSeriesId address rom ram fees =>
    exact mints fees [{ phantasmaSeriesId := ⟨phantasmaSeriesId⟩, rom, ram }]

/-- Every operation is a call or a mint, whose layout the witness of the sender fills. -/
theorem payload_layout {self : TokenOperation} {payload : TxPayload} (made : self.payload = .ok payload) :
    payload.type.witnessLayout = .counted ∨ payload.type.witnessLayout = .single := by
  cases self with
  | mintNonFungible tokenId seriesId receiver rom ram fees =>
    cases made
    exact .inr rfl
  | _ =>
    obtain ⟨args, -, same⟩ := except_bind_eq_ok.mp made
    cases same
    exact .inl rfl

theorem payload_inRange {self : TokenOperation} {payload : TxPayload} (made : self.payload = .ok payload)
    (written : ∃ out, payload.writeCarbon.Emits () out) : payload.InRange := by
  cases self with
  | mintNonFungible tokenId seriesId receiver rom ram fees =>
    cases made
    exact TxMsgMintNonFungible.written.mp written
  | _ =>
    obtain ⟨args, -, same⟩ := except_bind_eq_ok.mp made
    cases same
    exact TxMsgCall.written.mp written

/-- The payload of a call is made and written when its arguments are written and short. -/
theorem call_written {moduleId methodId : Int} {args : CarbonWriter Unit} (ids : Unsigned 32 moduleId ∧ Unsigned 32 methodId) :
    (∃ payload, (do let args ← serialize args; return .call { moduleId, methodId, args }) = Except.ok payload ∧
      ∃ out, (TxPayload.writeCarbon payload).Emits () out) ↔
        (∃ out, args.Emits () out) ∧ ∀ out, args.Emits () out → ShortBytes out := by
  constructor
  · rintro ⟨payload, made, written⟩
    obtain ⟨out, wrote, same⟩ := except_bind_eq_ok.mp made
    cases same
    refine ⟨⟨out, serialize_eq_ok.mp wrote⟩, fun out' emits => ?_⟩
    obtain rfl := (emits.unique (serialize_eq_ok.mp wrote)).2
    exact (TxMsgCall.written.mp written).2.2
  · rintro ⟨⟨out, emits⟩, short⟩
    exact ⟨_, except_bind_eq_ok.mpr ⟨out, serialize_eq_ok.mpr emits, rfl⟩,
      TxMsgCall.written.mpr ⟨ids.1, ids.2, short out emits⟩⟩

/-- The payload has an image when the arguments fit their fields and the length of them all fits its own. -/
theorem payload_written {self : TokenOperation} :
    (∃ payload, self.payload = .ok payload ∧ ∃ out, payload.writeCarbon.Emits () out) ↔ self.Fits ∧ self.Short := by
  cases self with
  | createToken tokenInfo fees => exact (call_written (by decide)).trans (and_congr_left' TokenInfo.written)
  | createTokenSeries tokenId info fees =>
    exact (call_written (by decide)).trans (and_congr_left' CreateTokenSeriesArgs.written)
  | mintNonFungible tokenId seriesId receiver rom ram fees =>
    constructor
    · rintro ⟨_, made, written⟩
      cases made
      refine ⟨TxMsgMintNonFungible.written.mp written, fun out emits => ?_⟩
      obtain ⟨-, rfl⟩ := Put.emits_pure.mp emits
      exact shortBytes_nil
    · exact fun fits => ⟨_, rfl, TxMsgMintNonFungible.written.mpr fits.1⟩
  | mintPhantasmaNonFungible tokenId receiver tokens fees =>
    exact (call_written (by decide)).trans (and_congr_left' MintPhantasmaNonFungibleArgs.written)
  | mintPhantasmaNonFungibleSingle tokenId phantasmaSeriesId receiver rom ram fees =>
    refine (call_written (by decide)).trans (and_congr_left' ?_)
    rw [MintPhantasmaNonFungibleArgs.written]
    simp [ArrayOf, Fits, PhantasmaNFTMintInfo.Writable]

theorem read_written {α : Type} {writer : CarbonWriter Unit} {reader : CarbonReader α} {value : α} {raw : Bytes}
    (conveys : Conveys writer () reader value) (written : serialize writer = .ok raw) :
    deserialize reader raw = .ok value := by
  obtain ⟨out, emits, parses⟩ := conveys
  obtain rfl := (emits.unique (serialize_eq_ok.mp written)).2
  exact deserialize_eq_ok.mpr parses.yields

theorem carried {self : TokenOperation} (inRange : self.InRange) {payload : TxPayload}
    (made : self.payload = .ok payload) : self.Carried payload := by
  cases self with
  | createToken tokenInfo fees =>
    obtain ⟨args, written, same⟩ := except_bind_eq_ok.mp made
    cases same
    exact .createToken (read_written (TokenInfo.conveys inRange) written)
  | createTokenSeries tokenId info fees =>
    obtain ⟨args, written, same⟩ := except_bind_eq_ok.mp made
    cases same
    exact .createTokenSeries (read_written (CreateTokenSeriesArgs.conveys inRange) written)
  | mintNonFungible tokenId seriesId receiver rom ram fees =>
    cases made
    exact .mintNonFungible
  | mintPhantasmaNonFungible tokenId receiver tokens fees =>
    obtain ⟨args, written, same⟩ := except_bind_eq_ok.mp made
    cases same
    exact .mintPhantasmaNonFungible (read_written (MintPhantasmaNonFungibleArgs.conveys inRange) written)
  | mintPhantasmaNonFungibleSingle tokenId phantasmaSeriesId receiver rom ram fees =>
    obtain ⟨args, written, same⟩ := except_bind_eq_ok.mp made
    cases same
    exact .mintPhantasmaNonFungibleSingle (read_written (MintPhantasmaNonFungibleArgs.conveys inRange) written)

/-- A built transaction with an image is in the ranges of the wire, and one for its sender to sign. -/
theorem message_signable {now : Int} {scheme : Ed25519} {self : TokenOperation} {signer : PhantasmaKeys}
    {gas maxData expiry : Int} {payload : TxPayload} (made : self.payload = .ok payload) {out : Bytes}
    (emits : (message now (keyAddress scheme signer) gas maxData expiry payload).writeCarbon.Emits () out) :
    (message now (keyAddress scheme signer) gas maxData expiry payload).WellFormed ∧
      (message now (keyAddress scheme signer) gas maxData expiry payload).Signable scheme signer := by
  obtain ⟨deadline, offer, data, written⟩ := TxMsg.written.mp ⟨out, emits⟩
  refine ⟨⟨rfl, deadline, offer, data, payload_inRange made written⟩, ?_⟩
  unfold TxMsg.Signable message
  rcases payload_layout made with counted | single
  · rw [counted]
    trivial
  · rw [single]

theorem buildAndSign_eq_ok {now : Int} {scheme : Ed25519} {self : TokenOperation} {signer : PhantasmaKeys}
    {maxData expiry : Int} {raw : Bytes} :
    self.buildAndSign now scheme signer maxData expiry = .ok raw ↔
      ∃ msg, self.build now (keyAddress scheme signer) maxData expiry = .ok msg ∧
        signAndSerializeTxMsg scheme msg signer = .ok raw := by
  have spec (build : Bytes32 → Except PyError TxMsg) :
      Carbon.buildAndSign scheme signer build = .ok raw ↔
        ∃ msg, build (keyAddress scheme signer) = .ok msg ∧ signAndSerializeTxMsg scheme msg signer = .ok raw := by
    unfold Carbon.buildAndSign
    rw [bytes32FromPublicKey_eq]
    change (build _ >>= _) = _ ↔ _
    rw [except_bind_eq_ok]
  cases self <;> exact spec _

theorem signed_carried {now : Int} {scheme : Ed25519} (correct : scheme.Correct) {self : TokenOperation}
    (inRange : self.InRange) {signer : PhantasmaKeys} {maxData expiry : Int} {raw : Bytes}
    (sent : self.buildAndSign now scheme signer maxData expiry = .ok raw) :
    ∃ msg, SignedBytes scheme signer msg raw ∧ self.Carried msg.msg ∧ msg.gasFrom.raw = signer.publicKey scheme ∧
      self.maxGas = .ok msg.maxGas ∧ msg.maxData = maxData ∧ msg.expiry = expiryOr now expiry := by
  obtain ⟨msg, built, signed⟩ := buildAndSign_eq_ok.mp sent
  obtain ⟨gas, payload, offered, made, rfl⟩ := build_eq_ok.mp built
  obtain ⟨image, written, -⟩ := signAndSerialize_eq_ok.mp signed
  obtain ⟨wellFormed, -⟩ := message_signable made (serialize_eq_ok.mp written)
  exact ⟨_, (signAndSerialize_signed correct wellFormed signed).2, carried inRange made, rfl, offered, rfl, rfl⟩

/-- When an operation is built and signed. -/
theorem buildAndSign_iff {now : Int} {scheme : Ed25519} {self : TokenOperation} {signer : PhantasmaKeys}
    {maxData expiry : Int} : (∃ raw, self.buildAndSign now scheme signer maxData expiry = .ok raw) ↔
      (self.Fits ∧ self.Short) ∧ (∃ gas, self.maxGas = .ok gas ∧ Unsigned 64 gas) ∧ Unsigned 64 maxData ∧
        Signed 64 (expiryOr now expiry) := by
  rw [← payload_written]
  constructor
  · rintro ⟨raw, sent⟩
    obtain ⟨msg, built, signed⟩ := buildAndSign_eq_ok.mp sent
    obtain ⟨gas, payload, offered, made, rfl⟩ := build_eq_ok.mp built
    obtain ⟨image, written, -⟩ := signAndSerialize_eq_ok.mp signed
    obtain ⟨deadline, offer, data, written⟩ := TxMsg.written.mp ⟨image, serialize_eq_ok.mp written⟩
    exact ⟨⟨payload, made, written⟩, ⟨gas, offered, offer⟩, data, deadline⟩
  · rintro ⟨⟨payload, made, written⟩, ⟨gas, offered, offer⟩, data, deadline⟩
    obtain ⟨image, emits⟩ := (@TxMsg.written
      (message now (keyAddress scheme signer) gas maxData expiry payload)).mpr ⟨deadline, offer, data, written⟩
    obtain ⟨wellFormed, signable⟩ := message_signable made emits
    obtain ⟨raw, signed⟩ := signAndSerialize_signs wellFormed signable
    exact ⟨raw, buildAndSign_eq_ok.mpr ⟨_, build_eq_ok.mpr ⟨gas, payload, offered, made, rfl⟩, signed⟩⟩

end TokenOperation

end PhantasmaPy.Carbon
