import Mathlib.Tactic.Linarith
import Mathlib.Tactic.Positivity
import PhantasmaPy.Carbon.Fees
import PhantasmaPy.Carbon.GasConfigLaws
import PhantasmaPy.Wire.Outcome

/-! # Offers cover their bills

Both gas models price monotonically and clamp to 64 bits: an offer is at least the bill it was made for,
at least the chain's minimum, and fits its field on the wire.
-/

namespace PhantasmaPy.Carbon

open Wire

/-! ## Scaling -/

theorem shiftRight_eq_ok {value shift result : Int} :
    shiftRight value shift = .ok result ↔ 0 ≤ shift ∧ result = value / 2 ^ shift.toNat := by
  unfold shiftRight valueError
  split
  next negative =>
    simp only [reduceCtorEq, false_iff]
    omega
  next nonneg =>
    rw [Except.ok.injEq, Int.shiftRight_eq_div_pow, eq_comm]
    push_cast
    exact ⟨fun equal => ⟨by omega, equal⟩, fun both => both.2⟩

theorem shiftRight_nonneg {value shift result : Int} (nonneg : 0 ≤ value)
    (shifted : shiftRight value shift = .ok result) : 0 ≤ result := by
  obtain ⟨-, rfl⟩ := shiftRight_eq_ok.mp shifted
  exact Int.ediv_nonneg nonneg (by positivity)

/-- A scaled value is zero under an oversized shift and the clamped product otherwise. -/
theorem mulShift_eq_ok {value multiplier shift result : Int} :
    mulShift value multiplier shift = .ok result ↔
      if shift ≥ 64 then result = 0
      else 0 ≤ shift ∧ result = min (value * multiplier / 2 ^ shift.toNat) U64_MAX := by
  unfold mulShift
  split
  next oversized => simp [eq_comm]
  next =>
    simp only [except_bind_eq_ok, shiftRight_eq_ok, pure, Except.pure, Except.ok.injEq]
    constructor
    · rintro ⟨_, ⟨nonneg, rfl⟩, rfl⟩
      exact ⟨nonneg, rfl⟩
    · rintro ⟨nonneg, rfl⟩
      exact ⟨_, ⟨nonneg, rfl⟩, rfl⟩

theorem mulShift_bounds {value multiplier shift result : Int} (nonneg : 0 ≤ value)
    (multiplierNonneg : 0 ≤ multiplier) (scaled : mulShift value multiplier shift = .ok result) :
    0 ≤ result ∧ result ≤ U64_MAX := by
  have top : (0 : Int) ≤ U64_MAX := by decide
  have scaled := mulShift_eq_ok.mp scaled
  split at scaled
  · omega
  · obtain ⟨-, rfl⟩ := scaled
    have product : 0 ≤ value * multiplier / 2 ^ shift.toNat :=
      Int.ediv_nonneg (mul_nonneg nonneg multiplierNonneg) (by positivity)
    exact ⟨le_min product top, min_le_right _ _⟩

theorem shiftRight_follows {value value' : Int} (le : value ≤ value') (shift : Int) :
    Follows (· ≤ ·) (shiftRight value shift) (shiftRight value' shift) := by
  intro result shifted
  obtain ⟨nonneg, rfl⟩ := shiftRight_eq_ok.mp shifted
  exact ⟨_, shiftRight_eq_ok.mpr ⟨nonneg, rfl⟩, Int.ediv_le_ediv (by positivity) le⟩

theorem mulShift_follows {value value' multiplier : Int} (le : value ≤ value') (multiplierNonneg : 0 ≤ multiplier)
    (shift : Int) : Follows (· ≤ ·) (mulShift value multiplier shift) (mulShift value' multiplier shift) := by
  have product : value * multiplier ≤ value' * multiplier := mul_le_mul_of_nonneg_right le multiplierNonneg
  unfold mulShift
  split
  next => exact .pure le_rfl
  next =>
    apply (shiftRight_follows product shift).bind
    intro scaled scaled' scaledLe
    exact .pure (min_le_min_right _ scaledLe)

theorem le_roundUp {value step : Int} (positive : 0 < step) : value ≤ roundUp value step := by
  have remainder := Int.emod_lt_of_pos value positive
  simp only [roundUp]
  split <;> omega

/-! ## Bills -/

/-- Sums of non-negative prices and shares of them are non-negative. -/
theorem operationFees_nonneg {kind : NativeFeeKind} {config : GasConfig} {arguments : FeeArguments}
    {workUnits policyFee : Int} (head : config.HeadInRange) (tail : config.TailInRange)
    (counted : 1 ≤ arguments.count) (allowance : 0 ≤ arguments.scriptUnitsAllowance)
    (priced : operationFees kind config arguments = .ok (workUnits, policyFee)) :
    0 ≤ workUnits ∧ 0 ≤ policyFee := by
  obtain ⟨-, -, -, -, -, -, -, -, -, ⟨transfer, -⟩, -, ⟨base, -⟩, ⟨symbol, -⟩, ⟨series, -⟩, -, ⟨name, -⟩, -, -⟩ :=
    head
  obtain ⟨-, -, -, -, -, ⟨policyBase, -⟩, ⟨policySymbol, -⟩, ⟨policySeries, -⟩, ⟨policyName, -⟩, -⟩ := tail
  have repeated : 0 ≤ config.gasFeeTransfer * arguments.count := mul_nonneg transfer (by omega)
  -- A price is a configured one, that price times a count, or a share of it that a shift makes.
  cases kind with
  | transferFungible | mintFungible | burnFungible =>
    cases priced
    exact ⟨transfer, le_refl 0⟩
  | transferNonFungible | mintNonFungible | burnNonFungible =>
    cases priced
    exact ⟨repeated, le_refl 0⟩
  | createToken =>
    obtain ⟨shift, -, priced⟩ := except_bind_eq_ok.mp priced
    split at priced
    · split at priced
      · obtain ⟨price, shifted, priced⟩ := except_bind_eq_ok.mp priced
        cases priced
        have priceNonneg := shiftRight_nonneg policySymbol shifted
        omega
      · cases priced
        exact ⟨le_refl 0, policyBase⟩
    · split at priced
      · obtain ⟨price, shifted, priced⟩ := except_bind_eq_ok.mp priced
        cases priced
        have priceNonneg := shiftRight_nonneg symbol shifted
        omega
      · cases priced
        exact ⟨base, le_refl 0⟩
  | createTokenSeries =>
    cases priced
    constructor
    · split <;> omega
    · split <;> omega
  | registerName =>
    simp only [operationFees] at priced
    split at priced
    · cases priced
    · obtain ⟨shift, -, priced⟩ := except_bind_eq_ok.mp priced
      split at priced
      · obtain ⟨price, shifted, priced⟩ := except_bind_eq_ok.mp priced
        cases priced
        exact ⟨le_refl 0, shiftRight_nonneg policyName shifted⟩
      · obtain ⟨price, shifted, priced⟩ := except_bind_eq_ok.mp priced
        cases priced
        exact ⟨shiftRight_nonneg name shifted, le_refl 0⟩
  | script =>
    cases priced
    exact ⟨allowance, le_refl 0⟩

theorem billV2_eq_ok {workUnits envelope eventBytes rows policyFee bill : Int} {config : GasConfig} :
    billV2 workUnits envelope eventBytes rows policyFee config = .ok bill ↔
      ∃ scaled, mulShift (workUnits + (envelope + eventBytes + rows) * GAS_MODEL_V2_UNITS_PER_BLOCK_DATA_BYTE)
          config.feeMultiplier config.feeShift = .ok scaled ∧
        bill = max (min (scaled + policyFee) U64_MAX) config.minimumGasBill := by
  unfold billV2
  simp only [except_bind_eq_ok, pure, Except.pure, Except.ok.injEq]
  simp only [@eq_comm _ bill]

theorem billV2_bounds {workUnits envelope eventBytes rows policyFee bill : Int} {config : GasConfig}
    (minimum : Unsigned 64 config.minimumGasBill)
    (billed : billV2 workUnits envelope eventBytes rows policyFee config = .ok bill) :
    config.minimumGasBill ≤ bill ∧ bill ≤ U64_MAX := by
  obtain ⟨scaled, -, rfl⟩ := billV2_eq_ok.mp billed
  have most : config.minimumGasBill ≤ U64_MAX := Int.le_sub_one_of_lt minimum.2
  exact ⟨le_max_right _ _, max_le (min_le_right _ _) most⟩

/-- More work, data or policy is never billed less. -/
theorem billV2_follows {workUnits workUnits' envelope envelope' rows rows' policyFee policyFee' : Int}
    {config : GasConfig} (multiplierNonneg : 0 ≤ config.feeMultiplier) (work : workUnits ≤ workUnits')
    (data : envelope ≤ envelope') (eventBytes : Int) (rowsLe : rows ≤ rows') (policy : policyFee ≤ policyFee') :
    Follows (· ≤ ·) (billV2 workUnits envelope eventBytes rows policyFee config)
      (billV2 workUnits' envelope' eventBytes rows' policyFee' config) := by
  have units : workUnits + (envelope + eventBytes + rows) * GAS_MODEL_V2_UNITS_PER_BLOCK_DATA_BYTE ≤
      workUnits' + (envelope' + eventBytes + rows') * GAS_MODEL_V2_UNITS_PER_BLOCK_DATA_BYTE := by
    unfold GAS_MODEL_V2_UNITS_PER_BLOCK_DATA_BYTE
    omega
  apply (mulShift_follows units multiplierNonneg config.feeShift).bind
  intro scaled scaled' scaledLe
  exact .pure (max_le_max_right _ (min_le_min_right _ (add_le_add scaledLe policy)))

/-! ## Offers -/

theorem offerV2_covers {workUnits envelope eventBytes rows policyFee expected maxGas : Int}
    {config : GasConfig} (head : config.HeadInRange) (minimumBill : Unsigned 64 config.minimumGasBill)
    (offered : offerV2 workUnits envelope eventBytes rows policyFee config = .ok (expected, maxGas)) :
    0 ≤ expected ∧ expected ≤ maxGas ∧ maxGas ≤ U64_MAX ∧ config.minimumGasOffer ≤ maxGas ∧
      config.minimumGasBill ≤ expected := by
  obtain ⟨-, -, -, -, ⟨multiplier, -⟩, -, -, ⟨-, minimumOffer⟩, -⟩ := head
  obtain ⟨bill, billed, offered⟩ := except_bind_eq_ok.mp offered
  obtain ⟨padded, paddedBilled, offered⟩ := except_bind_eq_ok.mp offered
  obtain ⟨rfl, rfl⟩ := Prod.mk.inj (Except.ok.inj offered)
  obtain ⟨billLeast, billMost⟩ := billV2_bounds minimumBill billed
  obtain ⟨paddedLeast, paddedMost⟩ := billV2_bounds minimumBill paddedBilled
  -- the padded bill is for a larger envelope
  have covers : bill ≤ padded :=
    (billV2_follows multiplier le_rfl (le_roundUp (by decide)) eventBytes le_rfl le_rfl).results billed paddedBilled
  obtain ⟨billNonneg, minimumBillMost⟩ := minimumBill
  unfold U64_MAX at *
  omega

theorem offerV1_covers {workUnits payloadBytes eventBytes rows expected maxGas : Int} {config : GasConfig}
    (head : config.HeadInRange) (work : 0 ≤ workUnits) (payload : 0 ≤ payloadBytes)
    (events : 0 ≤ eventBytes) (rowsNonneg : 0 ≤ rows)
    (offered : offerV1 workUnits payloadBytes eventBytes rows config = .ok (expected, maxGas)) :
    0 ≤ expected ∧ expected ≤ maxGas ∧ maxGas ≤ U64_MAX ∧ config.minimumGasOffer ≤ maxGas := by
  obtain ⟨-, -, -, -, ⟨multiplier, -⟩, -, -, ⟨offerNonneg, minimumOffer⟩, -, -, -, -, -, -, ⟨price, -⟩, -⟩ :=
    head
  obtain ⟨scaled, multiplied, offered⟩ := except_bind_eq_ok.mp offered
  obtain ⟨rfl, rfl⟩ := Prod.mk.inj (Except.ok.inj offered)
  obtain ⟨scaledNonneg, -⟩ := mulShift_bounds work multiplier multiplied
  have billed : 0 ≤ (payloadBytes + eventBytes + rows) * config.gasFeePerByte :=
    mul_nonneg (by omega) price
  -- the allowance of the offer is at least the block data of the bill
  have allowed : (payloadBytes + eventBytes + rows) * config.gasFeePerByte ≤
      max (payloadBytes + eventBytes + rows) 1024 * config.gasFeePerByte :=
    mul_le_mul_of_nonneg_right (le_max_left _ _) price
  unfold U64_MAX at *
  omega

theorem rows_nonneg {kind : NativeFeeKind} {arguments : FeeArguments} (counted : 1 ≤ arguments.count)
    (carried : 0 ≤ arguments.romRamBytes) : 0 ≤ arguments.rows kind := by
  unfold FeeArguments.rows
  split
  next given => exact given
  next =>
    have states : 0 ≤ (arguments.romRamBytes + 1023) / 1024 := by omega
    have perInstance : 0 ≤ arguments.count * (2 + (arguments.romRamBytes + 1023) / 1024) :=
      mul_nonneg (by omega) (by omega)
    cases kind <;> simp only [defaultFreshRows] <;> omega

theorem eventBytes_nonneg (kind : NativeFeeKind) : 0 ≤ kind.eventBytes := by
  cases kind <;> decide

theorem estimateNativeFee_eq_ok {kind : NativeFeeKind} {config : GasConfig} {arguments : FeeArguments}
    {estimate : NativeFeeEstimate} :
    estimateNativeFee kind config arguments = .ok estimate ↔
      1 ≤ arguments.count ∧ ∃ workUnits policyFee,
        operationFees kind config arguments = .ok (workUnits, policyFee) ∧
        offer kind config arguments workUnits policyFee =
          .ok (estimate.expectedGasBill, estimate.maxGas) ∧
        estimate.maxData = min (arguments.rows kind * config.dataEscrowPerRow) U64_MAX := by
  obtain ⟨maxGas, maxData, expectedGasBill⟩ := estimate
  unfold estimateNativeFee valueError
  split
  next missing =>
    simp only [reduceCtorEq, false_iff]
    omega
  next counted =>
    simp only [except_bind_eq_ok, Prod.exists, pure, Except.pure, Except.ok.injEq,
      NativeFeeEstimate.mk.injEq]
    constructor
    · rintro ⟨workUnits, policyFee, priced, _, _, offered, rfl, rfl, rfl⟩
      exact ⟨by omega, workUnits, policyFee, priced, offered, rfl⟩
    · rintro ⟨-, workUnits, policyFee, priced, offered, data⟩
      exact ⟨workUnits, policyFee, priced, _, _, offered, rfl, data.symm, rfl⟩

/-- An estimate covers its own bill and the minimum offer, and all of it fits 64 bits. -/
theorem estimateNativeFee_covers (kind : NativeFeeKind) (config : GasConfig) (head : config.HeadInRange)
    (tail : config.TailInRange) (arguments : FeeArguments) (counted : 1 ≤ arguments.count)
    (payload : 0 ≤ arguments.payloadBytes) (carried : 0 ≤ arguments.romRamBytes)
    (allowance : 0 ≤ arguments.scriptUnitsAllowance) (estimate : NativeFeeEstimate)
    (estimated : estimateNativeFee kind config arguments = .ok estimate) :
    0 ≤ estimate.expectedGasBill ∧ estimate.expectedGasBill ≤ estimate.maxGas ∧
      estimate.maxGas ≤ U64_MAX ∧ config.minimumGasOffer ≤ estimate.maxGas ∧
      (1 ≤ config.version → config.minimumGasBill ≤ estimate.expectedGasBill) ∧
      0 ≤ estimate.maxData ∧ estimate.maxData ≤ U64_MAX := by
  obtain ⟨-, workUnits, policyFee, priced, offered, data⟩ := estimateNativeFee_eq_ok.mp estimated
  obtain ⟨work, -⟩ := operationFees_nonneg head tail counted allowance priced
  have rows : 0 ≤ arguments.rows kind := rows_nonneg counted carried
  have escrow : 0 ≤ arguments.rows kind * config.dataEscrowPerRow := by
    obtain ⟨-, -, -, -, -, -, -, -, ⟨escrowPerRow, -⟩, -⟩ := head
    exact mul_nonneg rows escrowPerRow
  have dataBounds : 0 ≤ estimate.maxData ∧ estimate.maxData ≤ U64_MAX := by
    rw [data]
    exact ⟨le_min escrow (by decide), min_le_right _ _⟩
  have second : config.hasGasModelV2 = true ↔ 1 ≤ config.version := by simp [GasConfig.hasGasModelV2]
  unfold offer at offered
  -- the two gas models have offers of their own, and only the second one a minimum bill
  by_cases v2 : 1 ≤ config.version
  · rw [if_pos (second.mpr v2)] at offered
    obtain ⟨nonneg, covered, most, offer, minimum⟩ := offerV2_covers head tail.1 offered
    exact ⟨nonneg, covered, most, offer, fun _ => minimum, dataBounds⟩
  · rw [if_neg (mt second.mp v2)] at offered
    obtain ⟨nonneg, covered, most, offer⟩ :=
      offerV1_covers head work payload (eventBytes_nonneg kind) rows offered
    exact ⟨nonneg, covered, most, offer, fun later => absurd later v2, dataBounds⟩

/-- A transfer under a configuration whose minimum offer is the largest there is. -/
theorem estimateNativeFee_covers_sample : ∃ estimate,
    estimateNativeFee .transferFungible GasConfig.sample {} = .ok estimate ∧
      estimate.expectedGasBill ≤ estimate.maxGas ∧ estimate.maxGas ≤ U64_MAX := by
  refine ⟨⟨2 ^ 64 - 1, 0, 8078125⟩, by decide, ?_⟩
  have covers := estimateNativeFee_covers .transferFungible GasConfig.sample GasConfig.sample_inRange.2.1
    GasConfig.sample_inRange.2.2 {} (by decide) (by decide) (by decide) (by decide)
    ⟨2 ^ 64 - 1, 0, 8078125⟩ (by decide)
  exact ⟨covers.2.1, covers.2.2.1⟩

end PhantasmaPy.Carbon
