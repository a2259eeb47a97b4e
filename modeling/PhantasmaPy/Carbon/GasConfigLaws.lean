import PhantasmaPy.Carbon.Configs
import PhantasmaPy.Carbon.MessageLaws
import PhantasmaPy.Carbon.Sizes

/-! # The two wire forms of a gas configuration

A configuration of version 0 is written without the ten fields of the second gas model, one of any later
version with them.  The head is the same in both forms.
-/

namespace PhantasmaPy.Carbon

open Wire CarbonWriter CarbonReader

namespace GasConfig

/-- The configuration with the fields of the second gas model set to zero. -/
def withoutExtension (self : GasConfig) : GasConfig :=
  { self with
    minimumGasBill := 0, gasProducerRatioMul := 0, gasProducerRatioShift := 0, gasDappRatioMul := 0,
    gasDappRatioShift := 0, policyFeeCreateTokenBase := 0, policyFeeCreateTokenSymbol := 0,
    policyFeeCreateTokenSeries := 0, policyFeeRegisterName := 0, legacyDataEscrowPerRow := 0 }

/-- The fields of the head have room on the wire. -/
def HeadInRange (self : GasConfig) : Prop :=
  Unsigned 8 self.maxNameLength ∧ Unsigned 8 self.maxTokenSymbolLength ∧ Unsigned 8 self.feeShift ∧
    Unsigned 32 self.maxStructureSize ∧ Unsigned 64 self.feeMultiplier ∧ Unsigned 64 self.gasTokenId ∧
    Unsigned 64 self.dataTokenId ∧ Unsigned 64 self.minimumGasOffer ∧
    Unsigned 64 self.dataEscrowPerRow ∧ Unsigned 64 self.gasFeeTransfer ∧
    Unsigned 64 self.gasFeeQuery ∧ Unsigned 64 self.gasFeeCreateTokenBase ∧
    Unsigned 64 self.gasFeeCreateTokenSymbol ∧ Unsigned 64 self.gasFeeCreateTokenSeries ∧
    Unsigned 64 self.gasFeePerByte ∧ Unsigned 64 self.gasFeeRegisterName ∧
    Unsigned 64 self.gasBurnRatioMul ∧ Unsigned 8 self.gasBurnRatioShift

/-- The fields of the second gas model have room on the wire. -/
def TailInRange (self : GasConfig) : Prop :=
  Unsigned 64 self.minimumGasBill ∧ Unsigned 64 self.gasProducerRatioMul ∧
    Unsigned 8 self.gasProducerRatioShift ∧ Unsigned 64 self.gasDappRatioMul ∧
    Unsigned 8 self.gasDappRatioShift ∧ Unsigned 64 self.policyFeeCreateTokenBase ∧
    Unsigned 64 self.policyFeeCreateTokenSymbol ∧ Unsigned 64 self.policyFeeCreateTokenSeries ∧
    Unsigned 64 self.policyFeeRegisterName ∧ Unsigned 64 self.legacyDataEscrowPerRow

def InRange (self : GasConfig) : Prop :=
  Unsigned 8 self.version ∧ self.HeadInRange ∧ self.TailInRange

/-! ## Formats -/

theorem head_lossless (version : Int) :
    Lossless 112 HeadInRange (fun self => self.withoutExtension = self ∧ self.version = version)
      writeHead (readHead version) := by
  refine Lossless.field maxNameLength byte_lossless fun _ =>
    Lossless.field maxTokenSymbolLength byte_lossless fun _ =>
    Lossless.field feeShift byte_lossless fun _ =>
    Lossless.field maxStructureSize write4u_lossless fun _ =>
    Lossless.field feeMultiplier write8u_lossless fun _ =>
    Lossless.field gasTokenId write8u_lossless fun _ =>
    Lossless.field dataTokenId write8u_lossless fun _ =>
    Lossless.field minimumGasOffer write8u_lossless fun _ =>
    Lossless.field dataEscrowPerRow write8u_lossless fun _ =>
    Lossless.field gasFeeTransfer write8u_lossless fun _ =>
    Lossless.field gasFeeQuery write8u_lossless fun _ =>
    Lossless.field gasFeeCreateTokenBase write8u_lossless fun _ =>
    Lossless.field gasFeeCreateTokenSymbol write8u_lossless fun _ =>
    Lossless.field gasFeeCreateTokenSeries write8u_lossless fun _ =>
    Lossless.field gasFeePerByte write8u_lossless fun _ =>
    Lossless.field gasFeeRegisterName write8u_lossless fun _ =>
    Lossless.field gasBurnRatioMul write8u_lossless fun _ =>
    Lossless.last gasBurnRatioShift byte_lossless fun self value => ?_
  -- the fields determine the head, and none of the extension is read
  cases self
  simp only [withoutExtension, mk.injEq]
  grind

theorem tail_lossless (config : GasConfig) :
    Lossless 66 TailInRange (fun self => self.withoutExtension = config.withoutExtension) writeTail
      (readTail config) := by
  refine Lossless.field minimumGasBill write8u_lossless fun _ =>
    Lossless.field gasProducerRatioMul write8u_lossless fun _ =>
    Lossless.field gasProducerRatioShift byte_lossless fun _ =>
    Lossless.field gasDappRatioMul write8u_lossless fun _ =>
    Lossless.field gasDappRatioShift byte_lossless fun _ =>
    Lossless.field policyFeeCreateTokenBase write8u_lossless fun _ =>
    Lossless.field policyFeeCreateTokenSymbol write8u_lossless fun _ =>
    Lossless.field policyFeeCreateTokenSeries write8u_lossless fun _ =>
    Lossless.field policyFeeRegisterName write8u_lossless fun _ =>
    Lossless.last legacyDataEscrowPerRow write8u_lossless fun self value => ?_
  cases self
  simp only [withoutExtension, mk.injEq]
  grind

/-! ## Images -/

theorem within_writeHead (self : GasConfig) : Put.Within 112 112 self.writeHead :=
  (within_write1 _).seq ((within_write1 _).seq ((within_write1 _).seq ((within_write4u _).seq
    ((within_write8u _).seq ((within_write8u _).seq ((within_write8u _).seq ((within_write8u _).seq
    ((within_write8u _).seq ((within_write8u _).seq ((within_write8u _).seq ((within_write8u _).seq
    ((within_write8u _).seq ((within_write8u _).seq ((within_write8u _).seq ((within_write8u _).seq
    ((within_write8u _).seq (within_write1 _)))))))))))))))))

theorem within_writeTail (self : GasConfig) : Put.Within 66 66 self.writeTail :=
  (within_write8u _).seq ((within_write8u _).seq ((within_write1 _).seq ((within_write8u _).seq
    ((within_write1 _).seq ((within_write8u _).seq ((within_write8u _).seq ((within_write8u _).seq
    ((within_write8u _).seq (within_write8u _)))))))))

/-- An image is the version, the head, and from version 1 on the tail. -/
theorem emits_writeCarbon {self : GasConfig} {out : Bytes} :
    self.writeCarbon.Emits () out ↔
      Unsigned 8 self.version ∧ ∃ head tail, self.writeHead.Emits () head ∧
        (if self.version = 0 then tail = [] else self.writeTail.Emits () tail) ∧
        out = UInt8.ofNat self.version.toNat :: (head ++ tail) := by
  unfold writeCarbon
  simp only [Put.emits_seq, emits_write1]
  constructor
  · rintro ⟨_, _, ⟨range, rfl⟩, ⟨head, tail, headEmits, tailEmits, rfl⟩, rfl⟩
    refine ⟨range, head, tail, headEmits, ?_, rfl⟩
    split
    next zero =>
      rw [if_pos zero] at tailEmits
      exact (Put.emits_pure.mp tailEmits).2
    next later => rwa [if_neg later] at tailEmits
  · rintro ⟨range, head, tail, headEmits, tailEmits, rfl⟩
    refine ⟨_, _, ⟨range, rfl⟩, ⟨head, tail, headEmits, ?_, rfl⟩, rfl⟩
    split
    next zero =>
      rw [if_pos zero] at tailEmits
      exact Put.emits_pure.mpr ⟨rfl, tailEmits⟩
    next later => rwa [if_neg later] at tailEmits

theorem length_image {self : GasConfig} {out : Bytes} (emits : self.writeCarbon.Emits () out) :
    out.length = if self.version = 0 then 113 else 179 := by
  obtain ⟨-, head, tail, headEmits, tailEmits, rfl⟩ := emits_writeCarbon.mp emits
  obtain ⟨headLeast, headMost⟩ := self.within_writeHead headEmits
  simp only [List.length_cons, List.length_append]
  split at tailEmits
  next zero =>
    rw [if_pos zero, tailEmits, List.length_nil]
    omega
  next later =>
    obtain ⟨tailLeast, tailMost⟩ := self.within_writeTail tailEmits
    rw [if_neg later]
    omega

/-- What is read back: all of the configuration, or its head under version 0. -/
def readBack (self : GasConfig) : GasConfig := if self.version = 0 then self.withoutExtension else self

/-- The two configurations differ at most in the version and in the fields of the second gas model. -/
def SameHead (left right : GasConfig) : Prop :=
  left.withoutExtension = { right.withoutExtension with version := left.version }

theorem SameHead.writeHead_eq {left right : GasConfig} (same : SameHead left right) :
    left.writeHead = right.writeHead := by
  have heads := congrArg writeHead same
  exact heads

theorem conveys {self : GasConfig} (inRange : self.InRange) :
    Conveys self.writeCarbon () readCarbon self.readBack := by
  obtain ⟨version, head, tail⟩ := inRange
  obtain ⟨first, firstEmits, firstParses⟩ := byte_lossless.roundTrips self.version version
  obtain ⟨headOut, headEmits, headParses⟩ :=
    (head_lossless self.version).emits self.withoutExtension head ⟨rfl, rfl⟩
  unfold readBack
  by_cases zero : self.version = 0
  · refine ⟨first ++ (headOut ++ []), firstEmits.bind (headEmits.bind ?_),
      firstParses.bind (headParses.bind ?_)⟩
    · rw [if_pos zero]
      exact Put.emits_pure.mpr ⟨rfl, rfl⟩
    · rw [if_pos zero, if_pos (show self.withoutExtension.version = 0 from zero)]
      exact Get.Parses.pure _
  · obtain ⟨tailOut, tailEmits, tailParses⟩ :=
      (tail_lossless self.withoutExtension).emits self tail rfl
    refine ⟨first ++ (headOut ++ tailOut), firstEmits.bind (headEmits.bind ?_),
      firstParses.bind (headParses.bind ?_)⟩
    · rw [if_neg zero]
      exact tailEmits
    · rw [if_neg zero, if_neg (show ¬ self.withoutExtension.version = 0 from zero)]
      exact tailParses

/-- The writer gives back every image that the reader accepts. -/
theorem restores : Restores writeCarbon readCarbon := by
  intro bs self rest yields
  obtain ⟨version, mid, first, afterVersion⟩ := Get.yields_bind.mp yields
  obtain ⟨config, mid', head, afterHead⟩ := Get.yields_bind.mp afterVersion
  obtain ⟨-, firstOut, rfl, -, firstEmits, -⟩ := byte_lossless.yields first
  obtain ⟨⟨plain, sameVersion⟩, headOut, rfl, -, headEmits, -⟩ := (head_lossless version).yields head
  subst sameVersion
  -- The version that has been read decides whether a tail follows, in the reader and in the writer.
  split at afterHead
  next zero =>
    obtain ⟨rfl, rfl⟩ := Get.yields_pure.mp afterHead
    refine ⟨firstOut ++ (headOut ++ []), by simp, firstEmits.bind (headEmits.bind ?_)⟩
    rw [if_pos zero]
    exact Put.emits_pure.mpr ⟨rfl, rfl⟩
  next later =>
    obtain ⟨same, tailOut, rfl, -, tailEmits, -⟩ := (tail_lossless config).yields afterHead
    have versions := congrArg GasConfig.version same
    have heads := congrArg writeHead same
    change self.version = config.version at versions
    change self.writeHead = config.writeHead at heads
    refine ⟨firstOut ++ (headOut ++ tailOut), by simp, ?_⟩
    unfold writeCarbon
    rw [versions, heads, if_neg later]
    exact firstEmits.bind (headEmits.bind tailEmits)

/-! ## Wire versions -/

/-- The image of a configuration, what is read back from it, what it depends on, and that only such
    images are accepted. -/
theorem wire_versions :
    (∀ self : GasConfig, self.InRange → ∃ raw, serialize self.writeCarbon = .ok raw ∧
      raw.length = (if self.version = 0 then 113 else 179) ∧
      deserialize readCarbon raw = .ok self.readBack) ∧
    (∀ left right : GasConfig, SameHead left right → ∀ raw raw',
      serialize left.writeCarbon = .ok raw → serialize right.writeCarbon = .ok raw' →
      (raw.drop 1).take 112 = (raw'.drop 1).take 112) ∧
    (∀ left right : GasConfig, left.version = 0 → left.withoutExtension = right.withoutExtension →
      serialize left.writeCarbon = serialize right.writeCarbon) ∧
    ∀ raw self, deserialize readCarbon raw = .ok self →
      raw.length = (if raw.head? = some 0 then 113 else 179) ∧ serialize self.writeCarbon = .ok raw := by
  refine ⟨?_, ?_, ?_, ?_⟩
  · intro self inRange
    obtain ⟨raw, emits, parses⟩ := conveys inRange
    exact ⟨raw, serialize_eq_ok.mpr emits, length_image emits, deserialize_eq_ok.mpr parses.yields⟩
  · intro left right same raw raw' written written'
    obtain ⟨-, head, tail, headEmits, -, rfl⟩ := emits_writeCarbon.mp (serialize_eq_ok.mp written)
    obtain ⟨-, head', tail', headEmits', -, rfl⟩ := emits_writeCarbon.mp (serialize_eq_ok.mp written')
    -- The 112 bytes behind the version are the head, and the two heads are written alike.
    rw [same.writeHead_eq] at headEmits
    obtain ⟨-, rfl⟩ := headEmits.unique headEmits'
    obtain ⟨least, most⟩ := right.within_writeHead headEmits
    have length : head.length = 112 := by omega
    simp [length]
  · intro left right zero same
    have version : right.version = 0 := (congrArg GasConfig.version same).symm.trans zero
    have heads := congrArg writeHead same
    change left.writeHead = right.writeHead at heads
    unfold writeCarbon
    rw [zero, version, heads, if_pos rfl, if_pos rfl]
  · intro raw self accepted
    obtain ⟨out, equal, emits⟩ := restores (deserialize_eq_ok.mp accepted)
    rw [List.append_nil] at equal
    subst equal
    refine ⟨?_, serialize_eq_ok.mpr emits⟩
    -- The first byte is the version, and a version in range is zero as soon as its byte is.
    rw [length_image emits]
    obtain ⟨⟨nonneg, small⟩, head, tail, -, -, rfl⟩ := emits_writeCarbon.mp emits
    have first : UInt8.ofNat self.version.toNat = 0 ↔ self.version = 0 := by
      rw [← UInt8.toNat_inj, UInt8.toNat_ofNat', Nat.mod_eq_of_lt (by omega)]
      simp
      omega
    simp [first]

/-- A configuration of the second gas model. -/
def sample : GasConfig where
  version := 1
  feeShift := 4
  feeMultiplier := 10000
  minimumGasOffer := 2 ^ 64 - 1
  gasFeeTransfer := 100
  gasBurnRatioShift := 255
  minimumGasBill := 500
  legacyDataEscrowPerRow := 7

theorem sample_inRange : sample.InRange := by
  unfold InRange HeadInRange TailInRange
  decide

theorem wire_versions_sample : ∃ raw, serialize sample.writeCarbon = .ok raw ∧
    raw.length = (if sample.version = 0 then 113 else 179) ∧
    deserialize readCarbon raw = .ok sample.readBack :=
  wire_versions.1 sample sample_inRange

end GasConfig

end PhantasmaPy.Carbon
