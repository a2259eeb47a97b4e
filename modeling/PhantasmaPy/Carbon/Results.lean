import PhantasmaPy.Carbon.BuilderLaws
import PhantasmaPy.HexText

/-! # Results of token operations

The parsers for what the chain returns in hex, and the addresses of instances.  A parser returns a value
exactly for the spellings of the one image of the value, and an address stands for one instance.
-/

namespace PhantasmaPy.Carbon

open Wire CarbonWriter CarbonReader

def getNftAddress (carbonTokenId instanceId : Int) : Except PyError Bytes32 := do
  let token ← intToBytes 8 carbonTokenId
  let inst ← intToBytes 8 instanceId
  FixedBytes.new 32 (List.replicate 15 0 ++ [1] ++ token ++ inst)

/-- The series and the number in the series. -/
def unpackNftInstanceId (instanceId : Int) : Int × Int :=
  (instanceId % 2 ^ 32, instanceId / 2 ^ 32 % 2 ^ 32)

def parseCreateTokenResult (resultHex : Str) : Except PyError Int := do
  let raw ← decodeHex resultHex
  deserialize read8u raw

def parseCreateTokenSeriesResult (resultHex : Str) : Except PyError Int := do
  let raw ← decodeHex resultHex
  deserialize read4u raw

/-- One item of the list comprehension of `parse_mint_non_fungible_result`. -/
def readNftAddress (carbonTokenId : Int) : CarbonReader Bytes32 := do
  let instanceId ← read8u
  Get.check (getNftAddress carbonTokenId instanceId)

def parseMintNonFungibleResult (carbonTokenId : Int) (resultHex : Str) : Except PyError (List Bytes32) := do
  let raw ← decodeHex resultHex
  deserialize (readArray (readNftAddress carbonTokenId)) raw

def parseMintPhantasmaNonFungibleResult (resultHex : Str) : Except PyError (List PhantasmaNFTMintResult) := do
  let raw ← decodeHex resultHex
  deserialize (readArray PhantasmaNFTMintResult.readCarbon) raw

/-! ## Addresses -/

theorem getNftAddress_eq_ok {token instanceId : Int} {address : Bytes32} :
    getNftAddress token instanceId = .ok address ↔ Unsigned 64 token ∧ Unsigned 64 instanceId ∧
      address.raw = List.replicate 15 0 ++ [1] ++ natToLE 8 token.toNat ++ natToLE 8 instanceId.toNat := by
  unfold getNftAddress intToBytes
  by_cases tokenRange : Unsigned (8 * 8) token
  · by_cases instanceRange : Unsigned (8 * 8) instanceId
    · rw [if_pos tokenRange, if_pos instanceRange]
      change FixedBytes.new 32
        (List.replicate 15 0 ++ [1] ++ natToLE 8 token.toNat ++ natToLE 8 instanceId.toNat) = .ok address ↔ _
      rw [FixedBytes.new_eq_ok (by simp)]
      exact ⟨fun same => ⟨tokenRange, instanceRange, same⟩, fun same => same.2.2⟩
    · rw [if_pos tokenRange, if_neg instanceRange]
      exact iff_of_false (fun absurd => by cases absurd) fun absurd => instanceRange absurd.2.1
  · rw [if_neg tokenRange]
    exact iff_of_false (fun absurd => by cases absurd) fun absurd => tokenRange absurd.1

/-- Numbers of the same eight bytes. -/
theorem natToLE_eight_inj {left right : Int} (leftRange : Unsigned 64 left) (rightRange : Unsigned 64 right)
    (same : natToLE 8 left.toNat = natToLE 8 right.toNat) : left = right := by
  have leftSmall : left.toNat < 256 ^ 8 := @Unsigned.toNat_lt 8 _ leftRange
  have rightSmall : right.toNat < 256 ^ 8 := @Unsigned.toNat_lt 8 _ rightRange
  have values := congrArg natOfLE same
  rw [natOfLE_natToLE leftSmall, natOfLE_natToLE rightSmall] at values
  obtain ⟨leftNonneg, -⟩ := leftRange
  obtain ⟨rightNonneg, -⟩ := rightRange
  omega

/-- An address stands for one instance of one token. -/
theorem getNftAddress_injective {token token' instanceId instanceId' : Int} {address : Bytes32}
    (left : getNftAddress token instanceId = .ok address) (right : getNftAddress token' instanceId' = .ok address) :
    token = token' ∧ instanceId = instanceId' := by
  obtain ⟨tokenRange, instanceRange, raw⟩ := getNftAddress_eq_ok.mp left
  obtain ⟨tokenRange', instanceRange', raw'⟩ := getNftAddress_eq_ok.mp right
  obtain ⟨front, back⟩ := List.append_inj (raw.symm.trans raw') (by simp)
  exact ⟨natToLE_eight_inj tokenRange tokenRange' (List.append_cancel_left front),
    natToLE_eight_inj instanceRange instanceRange' back⟩

/-! ## Parsers -/

/-- A format whose every written value is in its domain is read exactly from what it writes. -/
theorem deserialize_iff_serialize {α : Type} {least : Nat} {domain : α → Prop} {write : α → CarbonWriter Unit}
    {read : CarbonReader α} (format : Lossless least domain (fun _ => True) write read)
    (written : ∀ a out, (write a).Emits () out → domain a) {raw : Bytes} {a : α} :
    deserialize read raw = .ok a ↔ serialize (write a) = .ok raw := by
  rw [deserialize_eq_ok, serialize_eq_ok]
  constructor
  · intro yields
    obtain ⟨-, out, rfl, -, emits, -⟩ := format.yields yields
    rwa [List.append_nil]
  · intro emits
    obtain ⟨out, emits', parses⟩ := format.roundTrips a (written a raw emits)
    obtain rfl := (emits'.unique emits).2
    exact parses.yields

theorem array_written {α : Type} {domain : α → Prop} {item : α → CarbonWriter Unit}
    (written : ∀ a out, (item a).Emits () out → domain a) (xs : List α) (out : Bytes)
    (emits : (writeArray item xs).Emits () out) : ArrayOf domain xs := by
  obtain ⟨count, images⟩ := writeArray_written.mp ⟨out, emits⟩
  refine ⟨count, fun x member => ?_⟩
  obtain ⟨image, emits'⟩ := images x member
  exact written x image emits'

theorem unsigned_written (width : Nat) (value : Int) (out : Bytes)
    (emits : (writeUnsigned width value).Emits () out) : Unsigned (8 * width) value :=
  (emits_writeUnsigned.mp emits).1

namespace PhantasmaNFTMintResult

theorem lossless : Lossless 40 InRange (fun _ => True) writeCarbon readCarbon := by
  refine Lossless.mono (Lossless.field phantasmaNftId write32_lossless fun _ =>
    Lossless.last carbonInstanceId write8u_lossless fun self value => ?_) fun self range => ⟨trivial, range⟩
  cases self
  simp

theorem written (self : PhantasmaNFTMintResult) (out : Bytes) (emits : self.writeCarbon.Emits () out) :
    self.InRange := by
  obtain ⟨_, _, -, instanceEmits, -⟩ := Put.emits_seq.mp emits
  exact unsigned_written 8 _ _ instanceEmits

end PhantasmaNFTMintResult

/-- What an operation on a token returns. -/
inductive TokenResult where
  | token
  | series
  | instances (carbonTokenId : Int)
  | originals

namespace TokenResult

abbrev Value : TokenResult → Type
  | token => Int
  | series => Int
  | instances _ => List Bytes32
  | originals => List PhantasmaNFTMintResult

def parse : (kind : TokenResult) → Str → Except PyError kind.Value
  | token => parseCreateTokenResult
  | series => parseCreateTokenSeriesResult
  | instances carbonTokenId => parseMintNonFungibleResult carbonTokenId
  | originals => parseMintPhantasmaNonFungibleResult

/-- The bytes that the chain returns for the value. -/
def Returned : (kind : TokenResult) → kind.Value → Bytes → Prop
  | token, tokenId, raw => serialize (write8u tokenId) = .ok raw
  | series, seriesId, raw => serialize (write4u seriesId) = .ok raw
  | instances carbonTokenId, addresses, raw => ∃ ids, serialize (writeIntArray ids 8 false) = .ok raw ∧
      List.Forall₂ (fun instanceId address => getNftAddress carbonTokenId instanceId = .ok address) ids addresses
  | originals, results, raw => serialize (writeArray PhantasmaNFTMintResult.writeCarbon results) = .ok raw

theorem parse_bytes {α : Type} {read : CarbonReader α} {text : Str} {a : α} :
    (do let raw ← decodeHex text; deserialize read raw) = .ok a ↔
      ∃ raw, HexTextOf text raw ∧ deserialize read raw = .ok a := by
  simp only [except_bind_eq_ok, decodeHex_eq_ok]

/-- Addresses that are made while the instances are read. -/
theorem deserialize_addresses {carbonTokenId : Int} {raw : Bytes} {addresses : List Bytes32} :
    deserialize (readArray (readNftAddress carbonTokenId)) raw = .ok addresses ↔
      ∃ ids, deserialize (readIntArray 8 false) raw = .ok ids ∧
        List.Forall₂ (fun instanceId address => getNftAddress carbonTokenId instanceId = .ok address)
          ids addresses := by
  simp only [deserialize_eq_ok]
  constructor
  · intro yields
    obtain ⟨count, mid, length, items⟩ := Get.yields_bind.mp yields
    obtain ⟨ids, reads, made⟩ := Get.yields_times_check.mp items
    exact ⟨ids, Get.yields_bind.mpr ⟨count, mid, length, reads⟩, made⟩
  · rintro ⟨ids, yields, made⟩
    obtain ⟨count, mid, length, items⟩ := Get.yields_bind.mp yields
    exact Get.yields_bind.mpr ⟨count, mid, length, Get.yields_times_check.mpr ⟨ids, items, made⟩⟩

theorem parse_eq_ok (kind : TokenResult) {text : Str} {value : kind.Value} :
    kind.parse text = .ok value ↔ ∃ raw, HexTextOf text raw ∧ kind.Returned value raw := by
  cases kind with
  | token =>
    refine parse_bytes.trans (exists_congr fun raw => and_congr_right fun _ => ?_)
    exact deserialize_iff_serialize write8u_lossless (unsigned_written 8)
  | series =>
    refine parse_bytes.trans (exists_congr fun raw => and_congr_right fun _ => ?_)
    exact deserialize_iff_serialize write4u_lossless (unsigned_written 4)
  | instances carbonTokenId =>
    refine parse_bytes.trans (exists_congr fun raw => and_congr_right fun _ => ?_)
    refine deserialize_addresses.trans (exists_congr fun ids => and_congr_left fun _ => ?_)
    exact deserialize_iff_serialize intArray_lossless (array_written (unsigned_written 8))
  | originals =>
    refine parse_bytes.trans (exists_congr fun raw => and_congr_right fun _ => ?_)
    exact deserialize_iff_serialize (array_lossless PhantasmaNFTMintResult.lossless (by decide))
      (array_written PhantasmaNFTMintResult.written)

/-- The addresses give the instances away. -/
theorem instances_unique {carbonTokenId : Int} {ids ids' : List Int} {addresses : List Bytes32}
    (left : List.Forall₂ (fun instanceId address => getNftAddress carbonTokenId instanceId = .ok address)
      ids addresses)
    (right : List.Forall₂ (fun instanceId address => getNftAddress carbonTokenId instanceId = .ok address)
      ids' addresses) : ids = ids' := by
  induction left generalizing ids' with
  | nil =>
    cases right
    rfl
  | cons made _ ih =>
    cases right with
    | cons made' rest' =>
      rw [(getNftAddress_injective made made').2, ih rest']

theorem Returned.unique (kind : TokenResult) {value : kind.Value} {raw raw' : Bytes}
    (left : kind.Returned value raw) (right : kind.Returned value raw') : raw = raw' := by
  cases kind with
  | token => exact Except.ok.inj (left.symm.trans right)
  | series => exact Except.ok.inj (left.symm.trans right)
  | instances carbonTokenId =>
    obtain ⟨ids, written, made⟩ := left
    obtain ⟨ids', written', made'⟩ := right
    obtain rfl := instances_unique made made'
    exact Except.ok.inj (written.symm.trans written')
  | originals => exact Except.ok.inj (left.symm.trans right)

end TokenResult

/-- A text is parsed to a value exactly if it spells bytes that the chain returns for the value, and it
returns no others for it. -/
theorem results_exact (kind : TokenResult) (value : kind.Value) :
    (∀ text, kind.parse text = .ok value ↔ ∃ raw, HexTextOf text raw ∧ kind.Returned value raw) ∧
      (∀ raw raw', kind.Returned value raw → kind.Returned value raw' → raw = raw') ∧
      (∀ raw, kind.Returned value raw → kind.parse (encodeHex raw) = .ok value) := by
  refine ⟨fun text => kind.parse_eq_ok, fun raw raw' => TokenResult.Returned.unique kind, fun raw returned => ?_⟩
  exact kind.parse_eq_ok.mpr ⟨raw, decodeHex_eq_ok.mp (decodeHex_encodeHex raw), returned⟩

/-! ## Instances -/

/-- A series and a number in it. -/
theorem unpackNftInstanceId_eq {instanceId series number : Int} (range : Unsigned 64 instanceId) :
    unpackNftInstanceId instanceId = (series, number) ↔
      Unsigned 32 series ∧ Unsigned 32 number ∧ instanceId = series + 2 ^ 32 * number := by
  unfold Unsigned at *
  unfold unpackNftInstanceId
  simp only [Prod.mk.injEq]
  omega

end PhantasmaPy.Carbon
