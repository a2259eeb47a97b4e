import PhantasmaPy.Rpc
import PhantasmaPy.Carbon.GasConfigLaws
import PhantasmaPy.Wire.Outcome

/-! # Fee parameters from a node

When the conversions of responses are exact or refused: the test of a field's characters and the parser of its
number disagree on some texts, and nothing compares the number with the width of its field.
-/

namespace PhantasmaPy

open Wire Carbon

/-- A field of a response, with its name in messages. -/
abbrev Field := Option Str × String

/-! ## One field -/

/-- The field holds decimal digits, and not too many for a conversion. -/
def Legible (interp : Interpreter) (value : Option Str) : Prop :=
  ∃ text, value = some text ∧ interp.isdigit text ∧ interp.Convertible text

/-- The field holds digits, but one of them has no decimal value, or there are too many. -/
def Illegible (interp : Interpreter) (value : Option Str) : Prop :=
  ∃ text, value = some text ∧ interp.isdigit text ∧ ¬ interp.Convertible text

section Fields

variable {interp : Interpreter} {method name : String} {value : Option Str}

theorem parseField_digits {text : Str} (digits : interp.isdigit text) :
    parseField interp method (some text) name = interp.int text := by
  unfold parseField
  dsimp only
  rw [if_neg, if_neg (not_not.mpr digits)]
  rintro rfl
  contradiction

theorem parseField_illegible (illegible : Illegible interp value) :
    parseField interp method value name = .error .valueError := by
  obtain ⟨text, rfl, digits, odd⟩ := illegible
  rw [parseField_digits digits, Interpreter.int_unconvertible digits odd]

theorem parseField_legible (legible : Legible interp value) :
    ∃ text n, value = some text ∧ interp.Denotes text n ∧ parseField interp method value name = .ok n := by
  obtain ⟨text, rfl, digits, convertible⟩ := legible
  obtain ⟨n, denotes, converted⟩ := Interpreter.int_convertible digits convertible
  exact ⟨text, n, rfl, denotes, (parseField_digits digits).trans converted⟩

/-- All other fields are refused. -/
theorem parseField_refused (legible : ¬ Legible interp value) (illegible : ¬ Illegible interp value) :
    ∃ message, parseField interp method value name = .error (.rpcError message) := by
  unfold parseField
  cases value with
  | none => exact ⟨_, rfl⟩
  | some text =>
    dsimp only
    split
    next => exact ⟨_, rfl⟩
    next =>
      split
      next => exact ⟨_, rfl⟩
      next digits =>
        have digits := not_not.mp digits
        by_cases convertible : interp.Convertible text
        · exact absurd ⟨text, rfl, digits, convertible⟩ legible
        · exact absurd ⟨text, rfl, digits, convertible⟩ illegible

theorem parseField_eq_ok {number : Int} :
    parseField interp method value name = .ok number ↔
      Legible interp value ∧ ∃ text n, value = some text ∧ interp.Denotes text n ∧ number = n := by
  constructor
  · intro parsed
    by_cases legible : Legible interp value
    · obtain ⟨text, n, found, denotes, converted⟩ := @parseField_legible _ method name _ legible
      exact ⟨legible, text, n, found, denotes, Except.ok.inj (parsed.symm.trans converted)⟩
    · by_cases illegible : Illegible interp value
      · rw [parseField_illegible illegible] at parsed
        contradiction
      · obtain ⟨message, refused⟩ := @parseField_refused _ method name _ legible illegible
        rw [refused] at parsed
        contradiction
  · rintro ⟨legible, text, n, rfl, denotes, rfl⟩
    obtain ⟨_, m, found, same, converted⟩ := @parseField_legible _ method name _ legible
    cases found
    rw [converted, denotes.unique same]

end Fields

/-! ## A sequence of fields -/

/-- Each value is the number that its field's text denotes, and fits in 64 bits. -/
def Exact (interp : Interpreter) : List Field → List Int → Prop :=
  List.Forall₂ fun field value =>
    ∃ text n, field.1 = some text ∧ interp.Denotes text n ∧ value = n ∧ n < 2 ^ 64

/-- No field before the first refused one is illegible, and numbers that are all accepted fit in 64 bits. -/
structure Sound (interp : Interpreter) (fields : List Field) (complete : Prop) : Prop where
  legible : ∀ before field after, fields = before ++ field :: after →
    (∀ earlier ∈ before, Legible interp earlier.1) → ¬ Illegible interp field.1
  small : complete → (∀ field ∈ fields, Legible interp field.1) →
    ∀ field ∈ fields, ∀ text n, field.1 = some text → interp.Denotes text n → n < 2 ^ 64

def parseFields (interp : Interpreter) (method : String) (fields : List Field) : Except PyError (List Int) :=
  fields.mapM fun field => parseField interp method field.1 field.2

/-- The conversion of a response reads its fields in order and then puts their values together, which is
    refused if something else is missing. -/
def Assembles {α : Type} (interp : Interpreter) (method : String) (fields : List Field) (complete : Prop)
    (values : α → List Int) (conversion : Except PyError α) : Prop :=
  ∃ finish : List Int → Except PyError α, conversion = parseFields interp method fields >>= finish ∧
    ∀ numbers, numbers.length = fields.length →
      (complete → ∃ result, finish numbers = .ok result ∧ values result = numbers) ∧
      (¬ complete → ∃ message, finish numbers = .error (.rpcError message))

/-- The conversion is refused, or all its values are exact. -/
def ExactOrRefused {α : Type} (interp : Interpreter) (fields : List Field) (values : α → List Int)
    (conversion : Except PyError α) : Prop :=
  (∃ message, conversion = .error (.rpcError message)) ∨
    ∃ result, conversion = .ok result ∧ Exact interp fields (values result)

section Sequences

variable {interp : Interpreter} {method : String} {fields : List Field}

theorem parseFields_eq_ok {numbers : List Int} :
    parseFields interp method fields = .ok numbers ↔
      (∀ field ∈ fields, Legible interp field.1) ∧
        List.Forall₂ (fun (field : Field) (number : Int) =>
          ∃ text n, field.1 = some text ∧ interp.Denotes text n ∧ number = n) fields numbers := by
  unfold parseFields
  rw [mapM_eq_ok, ← List.forall₂_and_left]
  simp only [parseField_eq_ok]

theorem parseFields_legible (legible : ∀ field ∈ fields, Legible interp field.1) :
    ∃ numbers, parseFields interp method fields = .ok numbers := by
  cases parsed : parseFields interp method fields with
  | ok numbers => exact ⟨numbers, rfl⟩
  | error e =>
    obtain ⟨before, field, after, rfl, -, failed⟩ := mapM_eq_error.mp parsed
    obtain ⟨text, n, -, -, converted⟩ :=
      @parseField_legible interp method field.2 _ (legible field (by simp))
    rw [converted] at failed
    contradiction

theorem exactOrRefused_iff {α : Type} {complete : Prop} {values : α → List Int}
    {conversion : Except PyError α} (assembles : Assembles interp method fields complete values conversion) :
    ExactOrRefused interp fields values conversion ↔ Sound interp fields complete := by
  obtain ⟨finish, rfl, finished⟩ := assembles
  constructor
  · intro outcome
    constructor
    case legible =>
      intro before field after split earlier illegible
      -- The fields before it convert, so the conversion error of this one escapes.
      have escapes : parseFields interp method fields = .error .valueError := by
        refine mapM_eq_error.mpr ⟨before, field, after, split, fun other member => ?_,
          parseField_illegible illegible⟩
        obtain ⟨-, n, -, -, converted⟩ := @parseField_legible interp method other.2 _ (earlier other member)
        exact ⟨n, converted⟩
      unfold ExactOrRefused at outcome
      rw [escapes] at outcome
      rcases outcome with ⟨message, absurd⟩ | ⟨result, absurd, -⟩
      · cases absurd
      · cases absurd
    case small =>
      intro whole legible field member text n found denotes
      obtain ⟨numbers, parsed⟩ := @parseFields_legible interp method fields legible
      have length := (parseFields_eq_ok.mp parsed).2.length_eq
      obtain ⟨result, assembled, same⟩ := (finished numbers length.symm).1 whole
      unfold ExactOrRefused at outcome
      rw [parsed, show Except.ok numbers >>= finish = finish numbers from rfl, assembled] at outcome
      rcases outcome with ⟨message, absurd⟩ | ⟨_, ran, exacts⟩
      · cases absurd
      · cases ran
        rw [same] at exacts
        obtain ⟨value, -, text', m, found', denotes', -, small⟩ := forall₂_exists_right exacts member
        rw [found, Option.some.injEq] at found'
        subst found'
        rwa [denotes.unique denotes']
  · intro sound
    cases parsed : parseFields interp method fields with
    | error e =>
      -- The first field that fails decides the error.
      obtain ⟨before, field, after, split, fine, failed⟩ := mapM_eq_error.mp parsed
      have legible : ∀ earlier ∈ before, Legible interp earlier.1 := by
        intro earlier member
        obtain ⟨number, converted⟩ := fine earlier member
        exact (parseField_eq_ok.mp converted).1
      have illegible := sound.legible before field after split legible
      have refused : ¬ Legible interp field.1 := by
        intro legible
        obtain ⟨-, n, -, -, converted⟩ := @parseField_legible interp method field.2 _ legible
        rw [converted] at failed
        contradiction
      obtain ⟨message, same⟩ := @parseField_refused interp method field.2 _ refused illegible
      cases failed.symm.trans same
      exact .inl ⟨message, rfl⟩
    | ok numbers =>
      obtain ⟨legible, denoted⟩ := parseFields_eq_ok.mp parsed
      obtain ⟨assembled, refused⟩ := finished numbers denoted.length_eq.symm
      by_cases whole : complete
      · obtain ⟨result, ran, same⟩ := assembled whole
        refine .inr ⟨result, ran, ?_⟩
        rw [same]
        refine ((List.forall₂_and_left _ _).mpr ⟨sound.small whole legible, denoted⟩).imp ?_
        rintro field number ⟨small, text, n, found, denotes, rfl⟩
        exact ⟨text, n, found, denotes, rfl, small text n found denotes⟩
      · exact .inl (refused whole)

end Sequences

/-! ## Gas configuration -/

namespace GasConfigDataResult

def headFields (data : GasConfigDataResult) : List Field := [
  (data.feeMultiplier, "feeMultiplier"),
  (data.gasTokenId, "gasTokenId"),
  (data.dataTokenId, "dataTokenId"),
  (data.minimumGasOffer, "minimumGasOffer"),
  (data.dataEscrowPerRow, "dataEscrowPerRow"),
  (data.gasFeeTransfer, "gasFeeTransfer"),
  (data.gasFeeQuery, "gasFeeQuery"),
  (data.gasFeeCreateTokenBase, "gasFeeCreateTokenBase"),
  (data.gasFeeCreateTokenSymbol, "gasFeeCreateTokenSymbol"),
  (data.gasFeeCreateTokenSeries, "gasFeeCreateTokenSeries"),
  (data.gasFeePerByte, "gasFeePerByte"),
  (data.gasFeeRegisterName, "gasFeeRegisterName"),
  (data.gasBurnRatioMul, "gasBurnRatioMul")]

def tailFields (data : GasConfigDataResult) : List Field := [
  (data.minimumGasBill, "minimumGasBill"),
  (data.gasProducerRatioMul, "gasProducerRatioMul"),
  (data.gasDappRatioMul, "gasDappRatioMul"),
  (data.policyFeeCreateTokenBase, "policyFeeCreateTokenBase"),
  (data.policyFeeCreateTokenSymbol, "policyFeeCreateTokenSymbol"),
  (data.policyFeeCreateTokenSeries, "policyFeeCreateTokenSeries"),
  (data.policyFeeRegisterName, "policyFeeRegisterName"),
  (data.legacyDataEscrowPerRow, "legacyDataEscrowPerRow")]

/-- The 64-bit fields that a response of its version must have, in the order in which they are read. -/
def requiredFields (data : GasConfigDataResult) : List Field :=
  data.headFields ++ if data.version ≥ 1 then data.tailFields else []

/-- Both shifts of the tail are there, if the version calls for them. -/
def Complete (data : GasConfigDataResult) : Prop :=
  data.version ≥ 1 → data.gasProducerRatioShift ≠ none ∧ data.gasDappRatioShift ≠ none

/-- The integer fields lie in their ranges on the wire. -/
structure InWireRange (data : GasConfigDataResult) : Prop where
  version : Unsigned 8 data.version
  maxNameLength : Unsigned 8 data.maxNameLength
  maxTokenSymbolLength : Unsigned 8 data.maxTokenSymbolLength
  feeShift : Unsigned 8 data.feeShift
  maxStructureSize : Unsigned 32 data.maxStructureSize
  gasBurnRatioShift : Unsigned 8 data.gasBurnRatioShift
  gasProducerRatioShift : ∀ shift, data.gasProducerRatioShift = some shift → Unsigned 8 shift
  gasDappRatioShift : ∀ shift, data.gasDappRatioShift = some shift → Unsigned 8 shift

/-- The configuration without its tail, from the values of the fields in order. -/
def assembleHead (data : GasConfigDataResult) (numbers : List Int) : GasConfig where
  version := data.version
  maxNameLength := data.maxNameLength
  maxTokenSymbolLength := data.maxTokenSymbolLength
  feeShift := data.feeShift
  maxStructureSize := data.maxStructureSize
  feeMultiplier := numbers.getD 0 0
  gasTokenId := numbers.getD 1 0
  dataTokenId := numbers.getD 2 0
  minimumGasOffer := numbers.getD 3 0
  dataEscrowPerRow := numbers.getD 4 0
  gasFeeTransfer := numbers.getD 5 0
  gasFeeQuery := numbers.getD 6 0
  gasFeeCreateTokenBase := numbers.getD 7 0
  gasFeeCreateTokenSymbol := numbers.getD 8 0
  gasFeeCreateTokenSeries := numbers.getD 9 0
  gasFeePerByte := numbers.getD 10 0
  gasFeeRegisterName := numbers.getD 11 0
  gasBurnRatioMul := numbers.getD 12 0
  gasBurnRatioShift := data.gasBurnRatioShift

def assembleTail (data : GasConfigDataResult) (numbers : List Int) (producerShift dappShift : Int) :
    GasConfig :=
  { data.assembleHead numbers with
    minimumGasBill := numbers.getD 13 0
    gasProducerRatioMul := numbers.getD 14 0
    gasProducerRatioShift := producerShift
    gasDappRatioMul := numbers.getD 15 0
    gasDappRatioShift := dappShift
    policyFeeCreateTokenBase := numbers.getD 16 0
    policyFeeCreateTokenSymbol := numbers.getD 17 0
    policyFeeCreateTokenSeries := numbers.getD 18 0
    policyFeeRegisterName := numbers.getD 19 0
    legacyDataEscrowPerRow := numbers.getD 20 0 }

/-- The part of `to_gas_config` after the fields have been parsed. -/
def finish (data : GasConfigDataResult) (numbers : List Int) : Except PyError GasConfig :=
  if data.version ≥ 1 then
    match data.gasProducerRatioShift, data.gasDappRatioShift with
    | none, _ => .error (rpcError "getGasConfig field gasProducerRatioShift is missing")
    | some _, none => .error (rpcError "getGasConfig field gasDappRatioShift is missing")
    | some producerShift, some dappShift => .ok (data.assembleTail numbers producerShift dappShift)
  else .ok (data.assembleHead numbers)

end GasConfigDataResult

/-- The 64-bit fields of a configuration of its version, in the same order. -/
def gasConfigValues (config : GasConfig) : List Int :=
  [config.feeMultiplier, config.gasTokenId, config.dataTokenId, config.minimumGasOffer,
    config.dataEscrowPerRow, config.gasFeeTransfer, config.gasFeeQuery, config.gasFeeCreateTokenBase,
    config.gasFeeCreateTokenSymbol, config.gasFeeCreateTokenSeries, config.gasFeePerByte,
    config.gasFeeRegisterName, config.gasBurnRatioMul] ++
  if config.version ≥ 1 then
    [config.minimumGasBill, config.gasProducerRatioMul, config.gasDappRatioMul,
      config.policyFeeCreateTokenBase, config.policyFeeCreateTokenSymbol, config.policyFeeCreateTokenSeries,
      config.policyFeeRegisterName, config.legacyDataEscrowPerRow]
  else []

theorem getD_range {numbers : List Int} {count : Nat} (length : numbers.length = count) :
    (List.range count).map (fun index => numbers.getD index 0) = numbers := by
  apply List.ext_getElem
  · simp [length]
  · intro index inside inside'
    simp [inside']

theorem toGasConfig_eq (data : GasConfigDataResult) (interp : Interpreter) :
    (GasConfigResult.mk (some data)).toGasConfig interp =
      parseFields interp "getGasConfig" data.requiredFields >>= data.finish := by
  unfold GasConfigResult.toGasConfig GasConfigDataResult.headConfig
  simp only [bind_assoc, pure_bind]
  unfold parseFields GasConfigDataResult.requiredFields GasConfigDataResult.headFields
    GasConfigDataResult.finish
  by_cases extended : data.version ≥ 1
  · simp only [if_pos extended]
    unfold GasConfigDataResult.extendConfig GasConfigDataResult.tailFields
    simp only [List.cons_append, List.nil_append, List.mapM_cons, List.mapM_nil, bind_assoc, pure_bind]
    rfl
  · simp only [if_neg extended, List.append_nil, List.mapM_cons, List.mapM_nil, bind_assoc, pure_bind]
    rfl

theorem toGasConfig_assembles (data : GasConfigDataResult) (interp : Interpreter) :
    Assembles interp "getGasConfig" data.requiredFields data.Complete gasConfigValues
      ((GasConfigResult.mk (some data)).toGasConfig interp) := by
  refine ⟨data.finish, toGasConfig_eq data interp, fun numbers length => ?_⟩
  unfold GasConfigDataResult.finish GasConfigDataResult.Complete
  -- the extension adds eight numbers and two shifts to the thirteen of the head
  by_cases extended : data.version ≥ 1
  · have count : numbers.length = 21 := by
      rw [length, GasConfigDataResult.requiredFields, if_pos extended]
      rfl
    rw [if_pos extended]
    cases data.gasProducerRatioShift with
    | none => exact ⟨fun complete => absurd rfl (complete extended).1, fun _ => ⟨_, rfl⟩⟩
    | some producerShift =>
      cases data.gasDappRatioShift with
      | none => exact ⟨fun complete => absurd rfl (complete extended).2, fun _ => ⟨_, rfl⟩⟩
      | some dappShift =>
        refine ⟨fun _ => ⟨data.assembleTail numbers producerShift dappShift, rfl, ?_⟩,
          fun missing => absurd (fun _ => ⟨by simp, by simp⟩) missing⟩
        unfold gasConfigValues
        rw [if_pos (show (data.assembleTail numbers producerShift dappShift).version ≥ 1 from extended)]
        exact getD_range count
  · have count : numbers.length = 13 := by
      rw [length, GasConfigDataResult.requiredFields, if_neg extended]
      rfl
    rw [if_neg extended]
    refine ⟨fun _ => ⟨data.assembleHead numbers, rfl, ?_⟩,
      fun missing => absurd (fun later => absurd later extended) missing⟩
    unfold gasConfigValues
    rw [if_neg (show ¬ (data.assembleHead numbers).version ≥ 1 from extended)]
    exact getD_range count

/-- The integer fields of the head come from the response unchanged. -/
def Copied (data : GasConfigDataResult) (config : GasConfig) : Prop :=
  config.version = data.version ∧ config.maxNameLength = data.maxNameLength ∧
    config.maxTokenSymbolLength = data.maxTokenSymbolLength ∧ config.feeShift = data.feeShift ∧
    config.maxStructureSize = data.maxStructureSize ∧ config.gasBurnRatioShift = data.gasBurnRatioShift

/-- The configuration is what the response says, and fits the wire. -/
structure ExactConfig (interp : Interpreter) (data : GasConfigDataResult) (config : GasConfig) : Prop where
  values : Exact interp data.requiredFields (gasConfigValues config)
  copied : Copied data config
  shifts : data.version ≥ 1 → data.gasProducerRatioShift = some config.gasProducerRatioShift ∧
    data.gasDappRatioShift = some config.gasDappRatioShift
  zeros : data.version = 0 → config = config.withoutExtension
  writable : ∃ out, config.writeCarbon.Emits () out

theorem Exact.unsigned {interp : Interpreter} {fields : List Field} {values : List Int}
    (exact : Exact interp fields values) : ∀ value ∈ values, Unsigned 64 value := by
  intro value member
  obtain ⟨field, -, text, n, -, -, rfl, small⟩ := forall₂_exists_left exact member
  exact ⟨by positivity, by exact_mod_cast small⟩

theorem headInRange {data : GasConfigDataResult} {config : GasConfig} (ranges : data.InWireRange)
    (copied : Copied data config) (wide : ∀ value ∈ gasConfigValues config, Unsigned 64 value) :
    config.HeadInRange := by
  obtain ⟨-, nameLength, symbolLength, feeShift, structureSize, burnShift⟩ := copied
  unfold gasConfigValues at wide
  obtain ⟨wide, -⟩ := List.forall_mem_append.mp wide
  simp only [List.forall_mem_cons] at wide
  obtain ⟨w0, w1, w2, w3, w4, w5, w6, w7, w8, w9, w10, w11, w12, -⟩ := wide
  exact ⟨nameLength ▸ ranges.maxNameLength, symbolLength ▸ ranges.maxTokenSymbolLength,
    feeShift ▸ ranges.feeShift, structureSize ▸ ranges.maxStructureSize, w0, w1, w2, w3, w4, w5, w6, w7, w8,
    w9, w10, w11, w12, burnShift ▸ ranges.gasBurnRatioShift⟩

theorem tailInRange {config : GasConfig} (extended : config.version ≥ 1)
    (wide : ∀ value ∈ gasConfigValues config, Unsigned 64 value)
    (producer : Unsigned 8 config.gasProducerRatioShift) (dapp : Unsigned 8 config.gasDappRatioShift) :
    config.TailInRange := by
  unfold gasConfigValues at wide
  rw [if_pos extended] at wide
  obtain ⟨-, wide⟩ := List.forall_mem_append.mp wide
  simp only [List.forall_mem_cons] at wide
  obtain ⟨w0, w1, w2, w3, w4, w5, w6, w7, -⟩ := wide
  exact ⟨w0, w1, producer, w2, dapp, w3, w4, w5, w6, w7⟩

theorem writable {config : GasConfig} (inRange : config.InRange) : ∃ out, config.writeCarbon.Emits () out := by
  obtain ⟨raw, written, -, -⟩ := GasConfig.wire_versions.1 config inRange
  exact ⟨raw, serialize_eq_ok.mp written⟩

theorem exactConfig {interp : Interpreter} {data : GasConfigDataResult} {config : GasConfig}
    (ranges : data.InWireRange)
    (converted : (GasConfigResult.mk (some data)).toGasConfig interp = .ok config)
    (values : Exact interp data.requiredFields (gasConfigValues config)) : ExactConfig interp data config := by
  have wide := values.unsigned
  rw [toGasConfig_eq] at converted
  obtain ⟨numbers, -, finished⟩ := except_bind_eq_ok.mp converted
  unfold GasConfigDataResult.finish at finished
  split at finished
  next extended =>
    cases producer : data.gasProducerRatioShift with
    | none => simp [producer] at finished
    | some producerShift =>
      cases dapp : data.gasDappRatioShift with
      | none => simp [producer, dapp] at finished
      | some dappShift =>
        simp only [producer, dapp, Except.ok.injEq] at finished
        subst finished
        have copied : Copied data (data.assembleTail numbers producerShift dappShift) :=
          ⟨rfl, rfl, rfl, rfl, rfl, rfl⟩
        refine ⟨values, copied, fun _ => ⟨producer, dapp⟩, fun zero => by omega, writable ⟨ranges.version, ?_, ?_⟩⟩
        · exact headInRange ranges copied wide
        · exact tailInRange extended wide (ranges.gasProducerRatioShift _ producer)
            (ranges.gasDappRatioShift _ dapp)
  -- without an extension its fields are zeros
  next old =>
    obtain rfl := Except.ok.inj finished
    have copied : Copied data (data.assembleHead numbers) := ⟨rfl, rfl, rfl, rfl, rfl, rfl⟩
    have zero : Unsigned 64 (0 : Int) ∧ Unsigned 8 (0 : Int) := by decide
    refine ⟨values, copied, fun extended => absurd extended old, fun _ => rfl, writable ⟨ranges.version, ?_, ?_⟩⟩
    · exact headInRange ranges copied wide
    · exact ⟨zero.1, zero.1, zero.2, zero.1, zero.2, zero.1, zero.1, zero.1, zero.1, zero.1⟩

/-! ## Both conversions -/

namespace GasConfigResult

/-- `to_gas_config` raises `RPCError` or returns the exact configuration. -/
def ConvertsExactly (self : GasConfigResult) (interp : Interpreter) : Prop :=
  (∃ message, self.toGasConfig interp = .error (.rpcError message)) ∨
    ∃ data config, self.gasConfig = some data ∧ self.toGasConfig interp = .ok config ∧
      ExactConfig interp data config

theorem convertsExactly_iff {self : GasConfigResult} {interp : Interpreter}
    (ranges : ∀ data, self.gasConfig = some data → data.InWireRange) :
    self.ConvertsExactly interp ↔
      ∀ data, self.gasConfig = some data → Sound interp data.requiredFields data.Complete := by
  obtain ⟨section'⟩ := self
  cases section' with
  | none => exact iff_of_true (.inl ⟨_, rfl⟩) (by simp)
  | some data =>
    have outcome := exactOrRefused_iff (toGasConfig_assembles data interp)
    constructor
    · rintro (refused | ⟨_, config, found, converted, exact⟩) data' same
      · cases same
        exact outcome.mp (.inl refused)
      · cases same
        cases found
        exact outcome.mp (.inr ⟨config, converted, exact.values⟩)
    · intro sound
      rcases outcome.mpr (sound data rfl) with refused | ⟨config, converted, values⟩
      · exact .inl refused
      · exact .inr ⟨data, config, rfl, converted, exactConfig (ranges data rfl) converted values⟩

end GasConfigResult

namespace EstimateTransactionResult

/-- The fields of an estimate, in the order in which they are read. -/
def requiredFields (self : EstimateTransactionResult) : List Field :=
  [(self.recommendedMaxGas, "recommendedMaxGas"), (self.recommendedMaxData, "recommendedMaxData"),
    (self.gasBillKcalBase, "gasBillKcalBase")]

def values (estimate : NativeFeeEstimate) : List Int :=
  [estimate.maxGas, estimate.maxData, estimate.expectedGasBill]

/-- `to_fee_estimate` raises `RPCError` or returns the three exact numbers. -/
def ConvertsExactly (self : EstimateTransactionResult) (interp : Interpreter) : Prop :=
  ExactOrRefused interp self.requiredFields values (self.toFeeEstimate interp)

theorem toFeeEstimate_assembles {self : EstimateTransactionResult} (completed : self.wouldAbort = false)
    (interp : Interpreter) :
    Assembles interp "estimateTransaction" self.requiredFields True values (self.toFeeEstimate interp) := by
  refine ⟨fun numbers => .ok ⟨numbers.getD 0 0, numbers.getD 1 0, numbers.getD 2 0⟩, ?_, fun numbers length =>
    ⟨fun _ => ⟨_, rfl, getD_range length⟩, fun missing => absurd trivial missing⟩⟩
  unfold toFeeEstimate parseFields requiredFields
  rw [if_neg (by simp [completed])]
  simp only [List.mapM_cons, List.mapM_nil, bind_assoc, pure_bind]
  rfl

theorem convertsExactly_iff (self : EstimateTransactionResult) (interp : Interpreter) :
    self.ConvertsExactly interp ↔ self.wouldAbort = true ∨ Sound interp self.requiredFields True := by
  cases aborts : self.wouldAbort with
  | true =>
    refine iff_of_true (.inl ⟨Str.ofString "estimateTransaction reported the transaction would abort: " ++
      self.abortReason, ?_⟩) (.inl rfl)
    unfold toFeeEstimate
    rw [if_pos aborts]
    rfl
  | false =>
    rw [ConvertsExactly, exactOrRefused_iff (toFeeEstimate_assembles aborts interp)]
    simp

end EstimateTransactionResult

/-- Both conversions are exact or refused exactly for sound fields. -/
theorem feeParameters_exact_iff (interp : Interpreter) :
    (∀ result : GasConfigResult, (∀ data, result.gasConfig = some data → data.InWireRange) →
      (result.ConvertsExactly interp ↔
        ∀ data, result.gasConfig = some data → Sound interp data.requiredFields data.Complete)) ∧
    ∀ result : EstimateTransactionResult, result.ConvertsExactly interp ↔
      result.wouldAbort = true ∨ Sound interp result.requiredFields True :=
  ⟨fun _ ranges => GasConfigResult.convertsExactly_iff ranges,
    fun result => result.convertsExactly_iff interp⟩

/-- A response of the first version with one price and ones elsewhere. -/
def priced (feeMultiplier : Str) : GasConfigDataResult where
  feeMultiplier := some feeMultiplier
  gasTokenId := some [49]
  dataTokenId := some [49]
  minimumGasOffer := some [49]
  dataEscrowPerRow := some [49]
  gasFeeTransfer := some [49]
  gasFeeQuery := some [49]
  gasFeeCreateTokenBase := some [49]
  gasFeeCreateTokenSymbol := some [49]
  gasFeeCreateTokenSeries := some [49]
  gasFeePerByte := some [49]
  gasFeeRegisterName := some [49]
  gasBurnRatioMul := some [49]

theorem priced_inWireRange (feeMultiplier : Str) : (priced feeMultiplier).InWireRange := by
  have zero : Unsigned 8 (0 : Int) ∧ Unsigned 32 (0 : Int) := by decide
  exact ⟨zero.1, zero.1, zero.1, zero.1, zero.2, zero.1, by simp [priced], by simp [priced]⟩

theorem priced_sound : Sound latin1 (priced [50]).requiredFields (priced [50]).Complete := by
  have texts : ∀ field ∈ (priced [50]).requiredFields, field.1 = some [50] ∨ field.1 = some [49] := by
    simp [GasConfigDataResult.requiredFields, GasConfigDataResult.headFields, priced]
  have two : latin1.Convertible [50] ∧ latin1.Denotes [50] 2 :=
    ⟨⟨List.forall_mem_singleton.mpr (by decide), by decide⟩, [2], by simp, by decide, by decide⟩
  have one : latin1.Convertible [49] ∧ latin1.Denotes [49] 1 :=
    ⟨⟨List.forall_mem_singleton.mpr (by decide), by decide⟩, [1], by simp, by decide, by decide⟩
  constructor
  case legible =>
    rintro before field after split - ⟨text, found, -, odd⟩
    rcases texts field (by simp [split]) with same | same
    · cases found.symm.trans same
      exact odd two.1
    · cases found.symm.trans same
      exact odd one.1
  case small =>
    intro _ _ field member text n found denotes
    rcases texts field member with same | same
    · cases found.symm.trans same
      rw [denotes.unique two.2]
      decide
    · cases found.symm.trans same
      rw [denotes.unique one.2]
      decide

theorem feeParameters_exact_priced : (GasConfigResult.mk (some (priced [50]))).ConvertsExactly latin1 := by
  refine ((feeParameters_exact_iff latin1).1 ⟨some (priced [50])⟩ ?_).mpr ?_
  · rintro data ⟨⟩
    exact priced_inWireRange _
  · rintro data ⟨⟩
    exact priced_sound

/-- A price of 2^64 is accepted although its field has no room for it, and a superscript is a digit for the
    test and none for the parser. -/
theorem overflow_and_superscript :
    ¬ (GasConfigResult.mk (some (priced (Str.ofString "18446744073709551616")))).ConvertsExactly latin1 ∧
    (EstimateTransactionResult.mk false [] (some [49]) (some [0xB2]) (some [49])).toFeeEstimate latin1 =
      .error .valueError := by
  have ran : (GasConfigResult.mk (some (priced (Str.ofString "18446744073709551616")))).toGasConfig latin1 =
      .ok ((priced []).assembleHead (2 ^ 64 :: List.replicate 12 1)) := by
    rfl
  refine ⟨?_, by rfl⟩
  rintro (⟨message, refused⟩ | ⟨data, config, found, converted, exact⟩)
  · rw [ran] at refused
    cases refused
  · cases found
    rw [ran] at converted
    obtain rfl := Except.ok.inj converted
    have wide := exact.values.unsigned (2 ^ 64) List.mem_cons_self
    exact absurd wide (by decide)

end PhantasmaPy
