import PhantasmaPy.Carbon.BuilderLaws
import PhantasmaPy.Carbon.MetadataKept
import PhantasmaPy.Carbon.SchemaChecks
import PhantasmaPy.Carbon.TokenBuildingLaws

/-! # New tokens and series

From the fields, the schemas and the description that a caller gives to what is signed, and back to what a reader
of the transaction finds.
-/

namespace PhantasmaPy.Carbon

open Wire CarbonWriter CarbonReader

namespace TokenInfo

/-- The description as it is on the wire, which has no schemas for a fungible token. -/
def onWire (self : TokenInfo) : TokenInfo :=
  if nonFungible self.flags then self else { self with tokenSchemas := [] }

theorem onWire_writeCarbon (self : TokenInfo) : self.onWire.writeCarbon = self.writeCarbon := by
  unfold onWire
  split
  next => rfl
  next fungible =>
    unfold writeCarbon
    dsimp only
    rw [if_neg fungible, if_neg fungible]

theorem onWire_symbol (self : TokenInfo) : self.onWire.symbol = self.symbol := by
  unfold onWire
  split <;> rfl

theorem onWire_inRange {self : TokenInfo} (supply : Signed 256 self.maxSupply.value) {out : Bytes}
    (emits : self.writeCarbon.Emits () out) : self.onWire.InRange := by
  obtain ⟨_, _, -, emits, -⟩ := Put.emits_seq.mp emits
  obtain ⟨_, _, flags, emits, -⟩ := Put.emits_seq.mp emits
  obtain ⟨_, _, decimals, emits, -⟩ := Put.emits_seq.mp emits
  obtain ⟨_, _, -, emits, -⟩ := Put.emits_seq.mp emits
  obtain ⟨_, _, -, emits, -⟩ := Put.emits_seq.mp emits
  obtain ⟨_, _, metadata, emits, -⟩ := Put.emits_seq.mp emits
  have flags := (emits_write1.mp flags).1
  have decimals := (emits_write1.mp decimals).1
  have metadata := (emits_writeByteArray.mp metadata).1
  unfold onWire InRange
  split
  next unique =>
    rw [if_pos unique] at emits
    exact ⟨supply, flags, decimals, metadata, (emits_writeByteArray.mp emits).1⟩
  next => exact ⟨supply, flags, decimals, metadata, rfl⟩

end TokenInfo

/-! ## Tokens -/

/-- The supply of a token of instances is checked to fit 64 bits. -/
theorem buildTokenInfo_supply {symbol : Str} {maxSupply : IntX} {isNft : Bool} {decimals : Int} {owner : Bytes32}
    {metadata : Option Bytes} {tokenSchemas : Bytes} {info : TokenInfo}
    (made : buildTokenInfo symbol maxSupply isNft decimals owner metadata tokenSchemas = .ok info)
    (fungible : isNft = false → Signed 256 maxSupply.value) : Signed 256 maxSupply.value := by
  cases isNft with
  | false => exact fungible rfl
  | true =>
    obtain ⟨-, needs, -⟩ := buildTokenInfo_eq_ok.mp made
    obtain ⟨low, high⟩ := IntX.is8ByteSafe_iff.mp (needs rfl).1
    exact ⟨by omega, by omega⟩

/-- The bytes are a transaction that the signer pays for, a call of the token module. -/
def Calls (scheme : Ed25519) (signer : PhantasmaKeys) (raw : Bytes) (methodId : Int) (args : Bytes) : Prop :=
  ∃ msg, SignedBytes scheme signer msg raw ∧ msg.gasFrom.raw = signer.publicKey scheme ∧
    msg.msg = .call { moduleId := 1, methodId, args }

/-- Schemas that do not go out make no difference to the transaction. -/
theorem buildCreateToken_onWire (now : Int) (scheme : Ed25519) (info : TokenInfo) (signer : PhantasmaKeys)
    (fees : CreateTokenFeeOptions) (maxData expiry : Int) :
    buildCreateTokenTxAndSign now scheme info.onWire signer fees maxData expiry =
      buildCreateTokenTxAndSign now scheme info signer fees maxData expiry := by
  have built (sender : Bytes32) : buildCreateTokenTx now info.onWire sender fees maxData expiry =
      buildCreateTokenTx now info sender fees maxData expiry := by
    unfold buildCreateTokenTx
    rw [info.onWire_writeCarbon, info.onWire_symbol]
  unfold buildCreateTokenTxAndSign
  simp only [built]

/-- The transaction creates a token of that description, as a reader finds it. -/
def Creates (scheme : Ed25519) (signer : PhantasmaKeys) (raw : Bytes) (created : TokenInfo) : Prop :=
  ∃ args, Calls scheme signer raw 2 args ∧ deserialize TokenInfo.readCarbon args = .ok created

theorem creates_onWire {now : Int} {scheme : Ed25519} (correct : scheme.Correct) {info : TokenInfo}
    (supply : Signed 256 info.maxSupply.value) {signer : PhantasmaKeys} {fees : CreateTokenFeeOptions}
    {maxData expiry : Int} {raw : Bytes}
    (sent : buildCreateTokenTxAndSign now scheme info signer fees maxData expiry = .ok raw) :
    Creates scheme signer raw info.onWire := by
  have inRange : info.onWire.InRange := by
    obtain ⟨msg, built, -⟩ := (@TokenOperation.buildAndSign_eq_ok now scheme (.createToken info fees) signer maxData
      expiry raw).mp sent
    obtain ⟨gas, payload, -, made, -⟩ := TokenOperation.build_eq_ok.mp built
    obtain ⟨args, written, -⟩ := except_bind_eq_ok.mp made
    exact TokenInfo.onWire_inRange supply (serialize_eq_ok.mp written)
  rw [← buildCreateToken_onWire] at sent
  obtain ⟨msg, signed, carried, sender, -⟩ := @TokenOperation.signed_carried now scheme correct
    (.createToken info.onWire fees) inRange signer maxData expiry raw sent
  generalize payload : msg.msg = held at carried
  cases carried with
  | createToken read => exact ⟨_, ⟨msg, signed, sender, payload⟩, read⟩

/-- What a caller says about a token is what a reader of the signed transaction finds: the symbol, the supply, the
kind, every field of the metadata, and for a token of instances its schemas, which pass the check again where they
were built from fields. -/
theorem token_created (now : Int) (scheme : Ed25519) (correct : scheme.Correct) (conv : Conversions)
    (validBase64 : Str → Bool) (lower : Str → Str) (fields : TextFields) (symbol : Str) (maxSupply : IntX)
    (isNft : Bool) (decimals : Int) (owner : Bytes32) (tokenSchemas metadata raw : Bytes) (info : TokenInfo)
    (signer : PhantasmaKeys) (fees : CreateTokenFeeOptions) (maxData expiry : Int)
    (described : buildTokenMetadata conv validBase64 fields = .ok metadata)
    (made : buildTokenInfo symbol maxSupply isNft decimals owner (some metadata) tokenSchemas = .ok info)
    (supply : isNft = false → Signed 256 maxSupply.value)
    (sent : buildCreateTokenTxAndSign now scheme info signer fees maxData expiry = .ok raw) :
    ∃ created, Creates scheme signer raw created ∧ created.symbol.value = symbol ∧ created.maxSupply = maxSupply ∧
      created.decimals = decimals ∧ created.owner = owner ∧ TokenInfo.nonFungible created.flags = isNft ∧
      (∃ struct, deserialize VMDynamicStruct.readCarbon created.metadata = .ok struct ∧
        ∀ name, struct.get name = (fields.get name).map fun text => ⟨.STRING, .str text⟩) ∧
      created.tokenSchemas = (if isNft then tokenSchemas else []) ∧
      ∀ seriesMetadata rom ram schemas, isNft = true →
        buildTokenSchemasFromFields lower seriesMetadata rom ram = .ok schemas →
        serialize schemas.writeCarbon = .ok tokenSchemas →
        ∃ again, deserialize TokenSchemas.readCarbon created.tokenSchemas = .ok again ∧
          verifyTokenSchemas lower again = .ok () := by
  obtain ⟨-, -, spelled, given, rfl, rfl, rfl, rfl, flags⟩ := buildTokenInfo_eq_ok.mp made
  obtain rfl := Option.some.inj given
  have kind : TokenInfo.nonFungible info.flags = isNft := by
    rw [flags]
    cases isNft with
    | true => rfl
    | false => cases info.maxSupply.is8ByteSafe <;> rfl
  have creates := creates_onWire correct (buildTokenInfo_supply made supply) sent
  have read := TextFields.reads described
  cases isNft with
  | false =>
    have wire : info.onWire = { info with tokenSchemas := [] } := if_neg (Bool.eq_false_iff.mp kind)
    rw [wire] at creates
    exact ⟨_, creates, spelled, rfl, rfl, rfl, kind, read, rfl, fun _ _ _ _ => nofun⟩
  | true =>
    have wire : info.onWire = info := if_pos kind
    rw [wire] at creates
    refine ⟨_, creates, spelled, rfl, rfl, rfl, kind, read, rfl, ?_⟩
    intro seriesMetadata rom ram schemas _ built written
    obtain ⟨seriesBare, romBare, ramBare⟩ := buildTokenSchemasFromFields_bare built
    exact ⟨schemas.published, TokenSchemas.publishes seriesBare romBare ramBare written,
      (verifyTokenSchemas_published lower schemas).trans (buildTokenSchemasFromFields_verified built)⟩

/-- The fields of a token with an icon of one byte. -/
def sampleFields : TextFields where
  items := [("name", "Coin"), ("icon", "data:image/png;base64,AA=="), ("url", "coin"), ("description", "A coin")].map
    fun item => (Str.ofString item.1, Str.ofString item.2)
  distinct := by decide +kernel

/-- The image of the creation of a fungible token of these fields by the key of zeros. -/
def coinImage : Bytes :=
  [0, 1, 0, 0, 0, 0, 0, 0, 0, 0, 105, 127, 120, 81, 102, 0, 0, 0, 225, 245, 5, 0, 0, 0, 0] ++ zeroPublicKey.raw ++
    [0, 1, 0, 0, 0, 2, 0, 0, 0, 130, 0, 0, 0, 8, 100, 0, 0, 0, 0, 0, 0, 0, 0, 8] ++ List.replicate 32 0 ++
    [4, 67, 79, 73, 78, 78, 0, 0, 0, 4, 0, 0, 0, 11, 100, 101, 115, 99, 114, 105, 112, 116, 105, 111, 110, 22, 65, 32,
      99, 111, 105, 110, 0, 4, 105, 99, 111, 110, 22, 100, 97, 116, 97, 58, 105, 109, 97, 103, 101, 47, 112, 110, 103,
      59, 98, 97, 115, 101, 54, 52, 44, 65, 65, 61, 61, 0, 4, 110, 97, 109, 101, 22, 67, 111, 105, 110, 0, 3, 117, 114,
      108, 22, 99, 111, 105, 110, 0]

/-- The signature of that image by the key of zeros. -/
def coinSignature : Bytes64 where
  raw := [197, 7, 48, 228, 169, 55, 50, 126, 167, 113, 52, 87, 1, 166, 39, 221, 194, 114, 132, 150, 198, 211, 240, 250,
    74, 215, 144, 10, 20, 76, 63, 98, 63, 87, 120, 21, 224, 49, 4, 198, 190, 113, 129, 187, 73, 125, 194, 198, 199, 218,
    192, 248, 155, 180, 122, 126, 10, 235, 212, 232, 231, 32, 110, 10]
  length_eq := rfl

def coinScheme : Ed25519 := zeroKeyScheme coinImage coinSignature

/-- A fungible token of these fields, signed by the key of zeros. -/
def coinTransaction : Except PyError Bytes := do
  let metadata ← buildTokenMetadata .none isBase64 sampleFields
  let info ← buildTokenInfo (Str.ofString "COIN") ⟨100⟩ false 8 EMPTY_BYTES32 (some metadata)
  buildCreateTokenTxAndSign 0 coinScheme info zeroKeys {} defaultMaxData 1

theorem coinTransaction_eq : coinTransaction =
    .ok (coinImage ++ [1, 0, 0, 0] ++ zeroPublicKey.raw ++ coinSignature.raw) :=
  toOption_eq_some.mp (by decide +kernel)

theorem token_created_coin : ∃ created,
    Creates coinScheme zeroKeys (coinImage ++ [1, 0, 0, 0] ++ zeroPublicKey.raw ++ coinSignature.raw) created ∧
      created.symbol.value = Str.ofString "COIN" ∧ created.maxSupply = ⟨100⟩ := by
  obtain ⟨metadata, described, rest⟩ := except_bind_eq_ok.mp coinTransaction_eq
  obtain ⟨info, made, sent⟩ := except_bind_eq_ok.mp rest
  obtain ⟨created, creates, symbol, supply, -⟩ := token_created 0 coinScheme (zeroKeyScheme_correct _ _) .none
    isBase64 id sampleFields (Str.ofString "COIN") ⟨100⟩ false 8 EMPTY_BYTES32 [] metadata _ info zeroKeys {}
    defaultMaxData 1 described made (fun _ => by decide) sent
  exact ⟨created, creates, symbol, supply⟩

end PhantasmaPy.Carbon
