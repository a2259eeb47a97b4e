import PhantasmaPy.Carbon.FeeLaws

/-! # Estimates are monotone

Arguments that ask for no more in any respect are never estimated higher.  Both gas models are chains of steps that
follow each other, and the arguments of the estimator bear on them one by one.
-/

namespace PhantasmaPy.Carbon

open Wire

/-! ## Steps -/

theorem dvd_roundUp (value step : Int) : step ∣ roundUp value step := by
  have floor : step ∣ value - value % step := Int.dvd_self_sub_emod
  simp only [roundUp]
  split
  next exactly => simpa [exactly] using floor
  next =>
    have next : value + (step - value % step) = (value - value % step) + step := by omega
    rw [next]
    exact dvd_add_self_right.mpr floor

theorem roundUp_lt {value step : Int} (positive : 0 < step) : roundUp value step < value + step := by
  have remainder := Int.emod_nonneg value positive.ne'
  simp only [roundUp]
  split <;> omega

theorem roundUp_mono {value value' step : Int} (positive : 0 < step) (le : value ≤ value') :
    roundUp value step ≤ roundUp value' step := by
  have above : value' ≤ roundUp value' step := le_roundUp positive
  have below : roundUp value step < value + step := roundUp_lt positive
  by_contra larger
  -- two multiples of the step are a step apart
  have apart : step ≤ roundUp value step - roundUp value' step :=
    Int.le_of_dvd (by omega) (dvd_sub (dvd_roundUp value step) (dvd_roundUp value' step))
  omega

/-- A price shifted further is no higher. -/
theorem shiftRight_further {price shift shift' : Int} (nonneg : 0 ≤ price) (shiftNonneg : 0 ≤ shift')
    (le : shift' ≤ shift) : Follows (· ≤ ·) (shiftRight price shift) (shiftRight price shift') := by
  intro result shifted
  obtain ⟨-, rfl⟩ := shiftRight_eq_ok.mp shifted
  refine ⟨_, shiftRight_eq_ok.mpr ⟨shiftNonneg, rfl⟩, ?_⟩
  have powers : (2 : Int) ^ shift.toNat = 2 ^ shift'.toNat * 2 ^ (shift.toNat - shift'.toNat) := by
    rw [← pow_add, Nat.add_sub_cancel' (Int.toNat_le_toNat le)]
  have quotient : 0 ≤ price / 2 ^ shift'.toNat := Int.ediv_nonneg nonneg (by positivity)
  rw [powers, ← Int.ediv_ediv_of_nonneg (by positivity)]
  exact Int.ediv_le_self _ quotient

/-- The second of two lengths asks for a shorter name, or for the same one. -/
def Shortens (length length' : Int) : Prop := length' = length ∨ 1 ≤ length' ∧ length' ≤ length

theorem symbolShift_eq_ok {length maxLength shift : Int} {paramName : String} :
    symbolShift length maxLength paramName = .ok shift ↔
      0 ≤ length ∧ shift = max (length - 1) 0 ∧ (length = 0 ∨ maxLength = 0 ∨ shift < maxLength) := by
  unfold symbolShift valueError
  split
  next negative =>
    simp only [reduceCtorEq, false_iff]
    omega
  next =>
    split
    next zero =>
      rw [Except.ok.injEq]
      omega
    next =>
      dsimp only
      split
      next tooLong =>
        simp only [reduceCtorEq, false_iff]
        omega
      next =>
        rw [Except.ok.injEq]
        omega

theorem symbolShift_follows {length length' : Int} (shorter : Shortens length length') (maxLength : Int)
    (paramName : String) : Follows (fun shift shift' => 0 ≤ shift' ∧ shift' ≤ shift)
      (symbolShift length maxLength paramName) (symbolShift length' maxLength paramName) := by
  intro shift shifted
  obtain ⟨nonneg, rfl, admitted⟩ := symbolShift_eq_ok.mp shifted
  unfold Shortens at shorter
  refine ⟨_, symbolShift_eq_ok.mpr ⟨by omega, rfl, by omega⟩, by omega, by omega⟩

theorem Shortens.pos_iff {length length' : Int} (shorter : Shortens length length') : 0 < length ↔ 0 < length' := by
  unfold Shortens at shorter
  omega

/-! ## Estimates -/

/-- The second arguments ask for as much as the first in every respect, or for more. -/
structure FeeArguments.Within (kind : NativeFeeKind) (config : GasConfig) (arguments arguments' : FeeArguments) :
    Prop where
  count : arguments.count ≤ arguments'.count
  symbolLength : Shortens arguments.symbolLength arguments'.symbolLength
  nameLength : Shortens arguments.nameLength arguments'.nameLength
  payloadBytes : arguments.payloadBytes ≤ arguments'.payloadBytes
  scriptUnitsAllowance : arguments.scriptUnitsAllowance ≤ arguments'.scriptUnitsAllowance
  rows : arguments.rows kind ≤ arguments'.rows kind
  -- the first gas model has no envelope term
  envelope : config.hasGasModelV2 = true → arguments.envelope kind ≤ arguments'.envelope kind

instance : LE NativeFeeEstimate where
  le self other :=
    self.maxGas ≤ other.maxGas ∧ self.maxData ≤ other.maxData ∧ self.expectedGasBill ≤ other.expectedGasBill

section Estimates

variable {kind : NativeFeeKind} {config : GasConfig} {arguments arguments' : FeeArguments}

theorem operationFees_follows (head : config.HeadInRange) (tail : config.TailInRange)
    (within : arguments.Within kind config arguments') :
    Follows (· ≤ ·) (operationFees kind config arguments) (operationFees kind config arguments') := by
  obtain ⟨-, -, -, -, -, -, -, -, -, ⟨transfer, -⟩, -, -, ⟨symbol, -⟩, -, -, ⟨name, -⟩, -, -⟩ := head
  obtain ⟨-, -, -, -, -, -, ⟨policySymbol, -⟩, -, ⟨policyName, -⟩, -⟩ := tail
  cases kind with
  | transferFungible | mintFungible | burnFungible | createTokenSeries => exact .pure le_rfl
  | transferNonFungible | mintNonFungible | burnNonFungible =>
    exact .pure (Prod.mk_le_mk.mpr ⟨mul_le_mul_of_nonneg_left within.count transfer, le_rfl⟩)
  | createToken =>
    apply (symbolShift_follows within.symbolLength _ _).bind
    rintro shift shift' ⟨shiftNonneg, further⟩
    -- a price of the symbol is due in both or in neither
    have named := within.symbolLength.pos_iff
    by_cases v2 : config.hasGasModelV2 = true
    · rw [if_pos v2, if_pos v2]
      by_cases positive : 0 < arguments.symbolLength
      · rw [if_pos positive, if_pos (named.mp positive)]
        apply (shiftRight_further policySymbol shiftNonneg further).bind
        intro price price' priceLe
        exact .pure (Prod.mk_le_mk.mpr ⟨le_rfl, add_le_add_right priceLe _⟩)
      · rw [if_neg positive, if_neg (mt named.mpr positive)]
        exact .pure le_rfl
    · rw [if_neg v2, if_neg v2]
      by_cases positive : 0 < arguments.symbolLength
      · rw [if_pos positive, if_pos (named.mp positive)]
        apply (shiftRight_further symbol shiftNonneg further).bind
        intro price price' priceLe
        exact .pure (Prod.mk_le_mk.mpr ⟨add_le_add_right priceLe _, le_rfl⟩)
      · rw [if_neg positive, if_neg (mt named.mpr positive)]
        exact .pure le_rfl
  | registerName =>
    have named := within.nameLength.pos_iff
    simp only [operationFees]
    by_cases missing : arguments.nameLength ≤ 0
    · rw [if_pos missing]
      exact .error
    · rw [if_neg missing, if_neg (by omega)]
      apply (symbolShift_follows within.nameLength _ _).bind
      rintro shift shift' ⟨shiftNonneg, further⟩
      by_cases v2 : config.hasGasModelV2 = true
      · rw [if_pos v2, if_pos v2]
        apply (shiftRight_further policyName shiftNonneg further).bind
        intro price price' priceLe
        exact .pure (Prod.mk_le_mk.mpr ⟨le_rfl, priceLe⟩)
      · rw [if_neg v2, if_neg v2]
        apply (shiftRight_further name shiftNonneg further).bind
        intro price price' priceLe
        exact .pure (Prod.mk_le_mk.mpr ⟨priceLe, le_rfl⟩)
  | script => exact .pure (Prod.mk_le_mk.mpr ⟨within.scriptUnitsAllowance, le_rfl⟩)

theorem offerV2_follows {workUnits workUnits' envelope envelope' rows rows' policyFee policyFee' : Int}
    (multiplierNonneg : 0 ≤ config.feeMultiplier) (work : workUnits ≤ workUnits') (data : envelope ≤ envelope')
    (eventBytes : Int) (rowsLe : rows ≤ rows') (policy : policyFee ≤ policyFee') :
    Follows (· ≤ ·) (offerV2 workUnits envelope eventBytes rows policyFee config)
      (offerV2 workUnits' envelope' eventBytes rows' policyFee' config) := by
  have rounded : roundUp envelope 128 ≤ roundUp envelope' 128 := roundUp_mono (by decide) data
  apply (billV2_follows multiplierNonneg work data eventBytes rowsLe policy).bind
  intro expected expected' expectedLe
  apply (billV2_follows multiplierNonneg work rounded eventBytes rowsLe policy).bind
  intro padded padded' paddedLe
  have headroom : padded + padded / 4 ≤ padded' + padded' / 4 :=
    add_le_add paddedLe (Int.ediv_le_ediv (by decide) paddedLe)
  exact .pure (Prod.mk_le_mk.mpr
    ⟨expectedLe, max_le_max_right _ (max_le_max_right _ (min_le_min_right _ headroom))⟩)

theorem offerV1_follows {workUnits workUnits' payloadBytes payloadBytes' rows rows' : Int}
    (multiplierNonneg : 0 ≤ config.feeMultiplier) (price : 0 ≤ config.gasFeePerByte) (work : workUnits ≤ workUnits')
    (payload : payloadBytes ≤ payloadBytes') (eventBytes : Int) (rowsLe : rows ≤ rows') :
    Follows (· ≤ ·) (offerV1 workUnits payloadBytes eventBytes rows config)
      (offerV1 workUnits' payloadBytes' eventBytes rows' config) := by
  have data : payloadBytes + eventBytes + rows ≤ payloadBytes' + eventBytes + rows' := by omega
  apply (mulShift_follows work multiplierNonneg config.feeShift).bind
  intro scaled scaled' scaledLe
  have billed := mul_le_mul_of_nonneg_right data price
  -- the flat allowance keeps the order of the data
  have allowed := mul_le_mul_of_nonneg_right (max_le_max_right 1024 data) price
  exact .pure (Prod.mk_le_mk.mpr
    ⟨min_le_min_right _ (add_le_add scaledLe billed),
      min_le_min_right _ (add_le_add (add_le_add_right scaledLe _) allowed)⟩)

theorem offer_follows (head : config.HeadInRange) (within : arguments.Within kind config arguments')
    {workUnits workUnits' policyFee policyFee' : Int} (work : workUnits ≤ workUnits') (policy : policyFee ≤ policyFee') :
    Follows (· ≤ ·) (offer kind config arguments workUnits policyFee)
      (offer kind config arguments' workUnits' policyFee') := by
  obtain ⟨-, -, -, -, ⟨multiplier, -⟩, -, -, -, -, -, -, -, -, -, ⟨price, -⟩, -⟩ := head
  unfold offer
  by_cases v2 : config.hasGasModelV2 = true
  · rw [if_pos v2, if_pos v2]
    exact offerV2_follows multiplier work (within.envelope v2) kind.eventBytes within.rows policy
  · rw [if_neg v2, if_neg v2]
    exact offerV1_follows multiplier price work within.payloadBytes kind.eventBytes within.rows

/-- Arguments within others are estimated where the others are, and no higher. -/
theorem estimateNativeFee_follows (head : config.HeadInRange) (tail : config.TailInRange)
    (within : 1 ≤ arguments.count → arguments.Within kind config arguments') :
    Follows (· ≤ ·) (estimateNativeFee kind config arguments) (estimateNativeFee kind config arguments') := by
  unfold estimateNativeFee
  by_cases missing : arguments.count < 1
  · rw [if_pos missing]
    exact .error
  · -- what counts from here on has a positive count
    have within := within (by omega)
    have counted : ¬ arguments'.count < 1 := by
      have countLe := within.count
      omega
    have escrow : arguments.rows kind * config.dataEscrowPerRow ≤ arguments'.rows kind * config.dataEscrowPerRow := by
      obtain ⟨-, -, -, -, -, -, -, -, ⟨escrowPerRow, -⟩, -⟩ := head
      exact mul_le_mul_of_nonneg_right within.rows escrowPerRow
    rw [if_neg missing, if_neg counted]
    apply (operationFees_follows head tail within).bind
    rintro ⟨workUnits, policyFee⟩ ⟨workUnits', policyFee'⟩ fees
    obtain ⟨work, policy⟩ := Prod.mk_le_mk.mp fees
    apply (offer_follows head within work policy).bind
    rintro ⟨expected, maxGas⟩ ⟨expected', maxGas'⟩ offers
    obtain ⟨expectedLe, maxGasLe⟩ := Prod.mk_le_mk.mp offers
    exact .pure ⟨maxGasLe, min_le_min_right _ escrow, expectedLe⟩

end Estimates

/-! ## One argument at a time -/

/-- The sizes that the defaults of a mint multiply by the count are not negative. -/
def CountRaises (kind : NativeFeeKind) (config : GasConfig) (arguments : FeeArguments) : Prop :=
  kind = .mintNonFungible → (arguments.freshRows < 0 → -3071 ≤ arguments.romRamBytes) ∧
    (config.hasGasModelV2 = true → arguments.envelopeBytes ≤ 0 → -64 ≤ arguments.romRamBytes)

theorem defaultFreshRows_count {kind : NativeFeeKind} {count count' romRamBytes : Int} (le : count ≤ count')
    (carried : kind = .mintNonFungible → -3071 ≤ romRamBytes) :
    defaultFreshRows kind count romRamBytes ≤ defaultFreshRows kind count' romRamBytes := by
  cases kind with
  | transferNonFungible => exact add_le_add_left le 1
  | mintNonFungible =>
    have perInstance : 0 ≤ 2 + (romRamBytes + 1023) / 1024 := by
      have least := carried rfl
      omega
    exact add_le_add_left (mul_le_mul_of_nonneg_right le perInstance) 1
  | _ => exact le_rfl

theorem defaultFreshRows_carried {kind : NativeFeeKind} {count romRamBytes romRamBytes' : Int} (counted : 1 ≤ count)
    (le : romRamBytes ≤ romRamBytes') :
    defaultFreshRows kind count romRamBytes ≤ defaultFreshRows kind count romRamBytes' := by
  cases kind with
  | mintNonFungible =>
    have perInstance : 2 + (romRamBytes + 1023) / 1024 ≤ 2 + (romRamBytes' + 1023) / 1024 := by omega
    exact add_le_add_left (mul_le_mul_of_nonneg_left perInstance (by omega)) 1
  | _ => exact le_rfl

theorem defaultEnvelopeBytes_count {kind : NativeFeeKind} {count count' romRamBytes : Int} (le : count ≤ count')
    (carried : kind = .mintNonFungible → -64 ≤ romRamBytes) :
    defaultEnvelopeBytes kind count romRamBytes ≤ defaultEnvelopeBytes kind count' romRamBytes := by
  cases kind with
  | transferNonFungible | burnNonFungible => exact add_le_add_right (mul_le_mul_of_nonneg_left le (by decide)) 512
  | mintNonFungible =>
    have perInstance : 0 ≤ 64 + romRamBytes := by
      have least := carried rfl
      omega
    exact add_le_add_right (mul_le_mul_of_nonneg_right le perInstance) 512
  | _ => exact le_rfl

theorem defaultEnvelopeBytes_carried {kind : NativeFeeKind} {count romRamBytes romRamBytes' : Int}
    (counted : 1 ≤ count) (le : romRamBytes ≤ romRamBytes') :
    defaultEnvelopeBytes kind count romRamBytes ≤ defaultEnvelopeBytes kind count romRamBytes' := by
  cases kind with
  | mintNonFungible =>
    have perInstance : 64 + romRamBytes ≤ 64 + romRamBytes' := add_le_add_right le 64
    exact add_le_add_right (mul_le_mul_of_nonneg_left perInstance (by omega)) 512
  | _ => exact le_rfl

namespace FeeArguments

variable {kind : NativeFeeKind} {config : GasConfig} (arguments : FeeArguments)

theorem Within.refl : arguments.Within kind config arguments where
  count := le_rfl
  symbolLength := .inl rfl
  nameLength := .inl rfl
  payloadBytes := le_rfl
  scriptUnitsAllowance := le_rfl
  rows := le_rfl
  envelope := fun _ => le_rfl

theorem within_count {count count' : Int} (le : count ≤ count') (raises : CountRaises kind config arguments) :
    Within kind config { arguments with count } { arguments with count := count' } where
  __ := @Within.refl kind config arguments
  count := le
  rows := by
    unfold rows
    dsimp only
    split
    · exact le_rfl
    · exact defaultFreshRows_count le fun minted => (raises minted).1 (by omega)
  envelope := by
    intro v2
    unfold envelope
    dsimp only
    split
    · exact le_rfl
    · exact defaultEnvelopeBytes_count le fun minted => (raises minted).2 v2 (by omega)

theorem within_romRamBytes {romRamBytes romRamBytes' : Int} (counted : 1 ≤ arguments.count)
    (le : romRamBytes ≤ romRamBytes') :
    Within kind config { arguments with romRamBytes } { arguments with romRamBytes := romRamBytes' } where
  __ := @Within.refl kind config arguments
  rows := by
    unfold rows
    dsimp only
    split
    · exact le_rfl
    · exact defaultFreshRows_carried counted le
  envelope := by
    intro _
    unfold envelope
    dsimp only
    split
    · exact le_rfl
    · exact defaultEnvelopeBytes_carried counted le

theorem within_payloadBytes {payloadBytes payloadBytes' : Int} (le : payloadBytes ≤ payloadBytes') :
    Within kind config { arguments with payloadBytes } { arguments with payloadBytes := payloadBytes' } where
  __ := @Within.refl kind config arguments
  payloadBytes := le

theorem within_scriptUnitsAllowance {allowance allowance' : Int} (le : allowance ≤ allowance') :
    Within kind config { arguments with scriptUnitsAllowance := allowance }
      { arguments with scriptUnitsAllowance := allowance' } where
  __ := @Within.refl kind config arguments
  scriptUnitsAllowance := le

theorem within_freshRows {freshRows freshRows' : Int} (given : 0 ≤ freshRows) (le : freshRows ≤ freshRows') :
    Within kind config { arguments with freshRows } { arguments with freshRows := freshRows' } where
  __ := @Within.refl kind config arguments
  rows := by
    unfold rows
    rw [if_pos given, if_pos (given.trans le)]
    exact le

theorem within_envelopeBytes {envelopeBytes envelopeBytes' : Int} (given : 1 ≤ envelopeBytes)
    (le : envelopeBytes ≤ envelopeBytes') :
    Within kind config { arguments with envelopeBytes } { arguments with envelopeBytes := envelopeBytes' } where
  __ := @Within.refl kind config arguments
  envelope := by
    intro _
    have first : envelopeBytes > 0 := given
    have second : envelopeBytes' > 0 := given.trans le
    unfold envelope
    rw [if_pos first, if_pos second]
    exact le

theorem within_symbolLength {symbolLength symbolLength' : Int} (given : 1 ≤ symbolLength')
    (shorter : symbolLength' ≤ symbolLength) :
    Within kind config { arguments with symbolLength } { arguments with symbolLength := symbolLength' } where
  __ := @Within.refl kind config arguments
  symbolLength := .inr ⟨given, shorter⟩

theorem within_nameLength {nameLength nameLength' : Int} (given : 1 ≤ nameLength')
    (shorter : nameLength' ≤ nameLength) :
    Within kind config { arguments with nameLength } { arguments with nameLength := nameLength' } where
  __ := @Within.refl kind config arguments
  nameLength := .inr ⟨given, shorter⟩

end FeeArguments

/-- An estimate rises with each argument that asks for more and falls with the lengths of names, and none is lost on
    the way. -/
theorem estimateNativeFee_monotone (kind : NativeFeeKind) (config : GasConfig) (head : config.HeadInRange)
    (tail : config.TailInRange) (arguments : FeeArguments) :
    (∀ count count', count ≤ count' → CountRaises kind config arguments →
      Follows (· ≤ ·) (estimateNativeFee kind config { arguments with count })
        (estimateNativeFee kind config { arguments with count := count' })) ∧
    (∀ romRamBytes romRamBytes', romRamBytes ≤ romRamBytes' →
      Follows (· ≤ ·) (estimateNativeFee kind config { arguments with romRamBytes })
        (estimateNativeFee kind config { arguments with romRamBytes := romRamBytes' })) ∧
    (∀ payloadBytes payloadBytes', payloadBytes ≤ payloadBytes' →
      Follows (· ≤ ·) (estimateNativeFee kind config { arguments with payloadBytes })
        (estimateNativeFee kind config { arguments with payloadBytes := payloadBytes' })) ∧
    (∀ allowance allowance', allowance ≤ allowance' →
      Follows (· ≤ ·) (estimateNativeFee kind config { arguments with scriptUnitsAllowance := allowance })
        (estimateNativeFee kind config { arguments with scriptUnitsAllowance := allowance' })) ∧
    (∀ freshRows freshRows', 0 ≤ freshRows → freshRows ≤ freshRows' →
      Follows (· ≤ ·) (estimateNativeFee kind config { arguments with freshRows })
        (estimateNativeFee kind config { arguments with freshRows := freshRows' })) ∧
    (∀ envelopeBytes envelopeBytes', 1 ≤ envelopeBytes → envelopeBytes ≤ envelopeBytes' →
      Follows (· ≤ ·) (estimateNativeFee kind config { arguments with envelopeBytes })
        (estimateNativeFee kind config { arguments with envelopeBytes := envelopeBytes' })) ∧
    (∀ symbolLength symbolLength', 1 ≤ symbolLength' → symbolLength' ≤ symbolLength →
      Follows (· ≤ ·) (estimateNativeFee kind config { arguments with symbolLength })
        (estimateNativeFee kind config { arguments with symbolLength := symbolLength' })) ∧
    ∀ nameLength nameLength', 1 ≤ nameLength' → nameLength' ≤ nameLength →
      Follows (· ≤ ·) (estimateNativeFee kind config { arguments with nameLength })
        (estimateNativeFee kind config { arguments with nameLength := nameLength' }) := by
  -- each of them raises the arguments in the order that the estimate follows
  refine ⟨?_, ?_, ?_, ?_, ?_, ?_, ?_, ?_⟩
  · intro _ _ le raises
    exact estimateNativeFee_follows head tail fun _ => arguments.within_count le raises
  · intro _ _ le
    exact estimateNativeFee_follows head tail fun counted => arguments.within_romRamBytes counted le
  · intro _ _ le
    exact estimateNativeFee_follows head tail fun _ => arguments.within_payloadBytes le
  · intro _ _ le
    exact estimateNativeFee_follows head tail fun _ => arguments.within_scriptUnitsAllowance le
  · intro _ _ given le
    exact estimateNativeFee_follows head tail fun _ => arguments.within_freshRows given le
  · intro _ _ given le
    exact estimateNativeFee_follows head tail fun _ => arguments.within_envelopeBytes given le
  · intro _ _ given shorter
    exact estimateNativeFee_follows head tail fun _ => arguments.within_symbolLength given shorter
  · intro _ _ given shorter
    exact estimateNativeFee_follows head tail fun _ => arguments.within_nameLength given shorter

theorem estimateNativeFee_monotone_sample : ∃ estimate,
    estimateNativeFee .mintNonFungible GasConfig.sample { count := 3, romRamBytes := 100 } = .ok estimate ∧
      13359375 ≤ estimate.expectedGasBill := by
  have two : estimateNativeFee .mintNonFungible GasConfig.sample { count := 2, romRamBytes := 100 } =
      .ok ⟨2 ^ 64 - 1, 0, 13359375⟩ := by decide
  obtain ⟨estimate, three, -, -, billLe⟩ :=
    (estimateNativeFee_monotone .mintNonFungible GasConfig.sample GasConfig.sample_inRange.2.1
      GasConfig.sample_inRange.2.2 { romRamBytes := 100 }).1 2 3 (by decide)
      (fun _ => ⟨fun _ => by decide, fun _ _ => by decide⟩) _ two
  exact ⟨estimate, three, billLe⟩

/-- Instances of less than no bytes: the second makes the default envelope smaller than the two that each costs. -/
theorem negativeBytes_lower : GasConfig.sample.InRange ∧
    (∃ one two, estimateNativeFee .mintNonFungible GasConfig.sample { count := 1, romRamBytes := -128 } = .ok one ∧
      estimateNativeFee .mintNonFungible GasConfig.sample { count := 2, romRamBytes := -128 } = .ok two ∧
      two.expectedGasBill < one.expectedGasBill) :=
  ⟨GasConfig.sample_inRange, ⟨2 ^ 64 - 1, 0, 7109375⟩, ⟨2 ^ 64 - 1, 0, 6203125⟩, by decide, by decide, by decide⟩

end PhantasmaPy.Carbon
