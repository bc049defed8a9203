import SmartAccountKit.HostOrder
import SmartAccountKit.Lib.DoubleText
import SmartAccountKit.Policies
import Mathlib.Data.List.Pairwise

/-!
# Weighted thresholds

The builder of weighted-threshold parameters adds up the weights of a `Map`,
whose keys are signer objects. The encoding has one entry for each object too,
and is only accepted if the signers differ.
-/

namespace SmartAccountKit
open Lib

/-! ## The builder -/

/-- The parameters of a weighted threshold. The map has an entry for each signer object, in
insertion order. -/
structure WeightedThresholdAccountParams where
  signerWeights : List (Signer × JsNumber)
  threshold : JsNumber
deriving DecidableEq

/-- Add a checked weight to the total. -/
def addWeight (totalWeight : JsNumber) (entry : Signer × JsNumber) : Except JsError JsNumber := do
  throwIf (entry.2.lt (.ofNat 1) = true ∨ integerNumber entry.2 = none) (JsError.validation
    "All weights must be positive integers" .INVALID_INPUT [("weight", .number entry.2)])
  return totalWeight.add entry.2

def createWeightedThresholdParams (threshold : JsNumber)
    (signerWeights : List (Signer × JsNumber)) :
    Except JsError WeightedThresholdAccountParams := do
  throwIf (threshold.lt (.ofNat 1) = true) (JsError.validation "Threshold must be at least 1"
    .INVALID_INPUT [("threshold", .number threshold)])
  throwIf (integerNumber threshold = none) (JsError.validation "Threshold must be an integer"
    .INVALID_INPUT [("threshold", .number threshold)])
  throwIf (signerWeights.isEmpty = true)
    (JsError.validation "At least one signer weight must be provided")
  let totalWeight ← signerWeights.foldlM addWeight (.ofNat 0)
  throwIf (totalWeight.lt threshold = true) (JsError.validation
    ("Sum of weights (" ++ numberText totalWeight ++ ") must be >= threshold (" ++
      numberText threshold ++ ")") .INVALID_INPUT
    [("threshold", .number threshold), ("totalWeight", .number totalWeight)])
  return { signerWeights, threshold }

/-- `convertPolicyParams("weighted_threshold", params)`. -/
def WeightedThresholdAccountParams.convert (params : WeightedThresholdAccountParams) :
    Except JsError ScVal :=
  convertPolicyParams "weighted_threshold" (encodeWeightedThresholdParams
    (some (params.signerWeights.map fun entry => (entry.1, .number entry.2)))
    (.number params.threshold))

/-! ## Sums -/

/-- The running total of checked weights. -/
def weightTotal (start : JsNumber) (weights : List (Signer × JsNumber)) : JsNumber :=
  weights.foldl (fun total entry => JsNumber.add total entry.2) start

theorem foldlM_addWeight {weights : List (Signer × JsNumber)} {start total : JsNumber}
    (h : weights.foldlM addWeight start = .ok total) : total = weightTotal start weights := by
  induction weights generalizing start with
  | nil => exact (Except.ok.inj h).symm
  | cons entry weights ih =>
    rw [List.foldlM_cons] at h
    obtain ⟨next, hnext, hrest⟩ := except_bind_eq_ok.mp h
    obtain ⟨-, hadd⟩ := throwIf_bind_eq_ok.mp hnext
    rw [ih hrest, ← Except.ok.inj hadd]
    rfl

/-- The weights as the builder takes them. -/
def numberWeights (weights : List (Signer × UInt32)) : List (Signer × JsNumber) :=
  weights.map fun entry => (entry.1, .ofU32 entry.2)

/-- The sum of the weights of signers. -/
def weightSum (weights : List (Signer × UInt32)) : ℕ := (weights.map (·.2.toNat)).sum

/-- A total that is safe is the exact sum. -/
theorem weightTotal_ofU32 {weights : List (Signer × UInt32)} {n : ℕ}
    (h : n + weightSum weights < 2 ^ 53) :
    weightTotal (.ofNat n) (numberWeights weights) = .ofNat (n + weightSum weights) := by
  induction weights generalizing n with
  | nil => rfl
  | cons entry weights ih =>
    have hsum : weightSum (entry :: weights) = entry.2.toNat + weightSum weights := List.sum_cons
    have hnext : (JsNumber.ofNat n).add (.ofU32 entry.2) = .ofNat (n + entry.2.toNat) :=
      add_ofNat (by omega)
    show weightTotal ((JsNumber.ofNat n).add (.ofU32 entry.2)) (numberWeights weights) = _
    rw [hnext, ih (by omega), hsum, Nat.add_assoc]

/-- An accepted threshold is at most the sum of the weights, if it is a 32-bit integer. -/
theorem threshold_le_sum {weights : List (Signer × UInt32)} {threshold : UInt32}
    {params : WeightedThresholdAccountParams}
    (h : createWeightedThresholdParams (.ofU32 threshold) (numberWeights weights) = .ok params) :
    threshold.toNat ≤ weightSum weights := by
  unfold createWeightedThresholdParams at h
  simp only [throwIf_bind_eq_ok] at h
  obtain ⟨-, -, -, h⟩ := h
  obtain ⟨total, htotal, h⟩ := except_bind_eq_ok.mp h
  obtain ⟨hreached, -⟩ := throwIf_bind_eq_ok.mp h
  rw [foldlM_addWeight htotal] at hreached
  by_contra hlow
  -- a sum below the threshold is safe, so it was computed exactly
  have hthreshold := threshold.toNat_lt
  have hsafe : 0 + weightSum weights < 2 ^ 53 := by omega
  rw [weightTotal_ofU32 hsafe, Nat.zero_add] at hreached
  apply hreached
  have hlt : (weightSum weights : ℚ) < threshold.toNat := by
    exact_mod_cast not_le.mp hlow
  exact decide_eq_true hlt

/-! ## The encoding -/

theorem requireU32_number {value : JsNumber} {field : String} {u : UInt32}
    (h : requireU32 (.number value) field = .ok u) : value = .ofU32 u := by
  cases value with
  | finite value =>
    by_cases hden : value.den = 1
    · simp only [requireU32, integerNumber, if_pos hden] at h
      split_ifs at h with hrange
      obtain rfl := Except.ok.inj h
      apply JsNumber.toU32_eq_some.mp
      rw [JsNumber.toU32, if_pos ⟨hden, by omega, by omega⟩]
    · simp only [requireU32, integerNumber, if_neg hden] at h
      cases h
  | infinite negative => cases h
  | nan => cases h

/-- The encoded parameters. -/
def weightedParams (weightEntries : List (ScVal × ScVal)) (threshold : UInt32) : ScVal :=
  .map (some [symbolEntry "signer_weights" (.map (some weightEntries)),
    symbolEntry "threshold" (.u32 threshold)])

/-- The entry of a signer and a weight. -/
def IsWeightEntry (weight : Signer × UInt32) (entry : ScVal × ScVal) : Prop :=
  signerToScVal weight.1 = .ok entry.1 ∧ entry.2 = .u32 weight.2

/-- Weights that are encoded are 32-bit integers. -/
theorem exists_weights {signerWeights : List (Signer × JsNumber)} {entries : List (ScVal × ScVal)}
    (h : List.Forall₂ (fun weight entry => signerToScVal weight.1 = .ok entry.1 ∧
      ∃ u, weight.2 = .ofU32 u ∧ entry.2 = .u32 u) signerWeights entries) :
    ∃ weights, signerWeights = numberWeights weights ∧
      List.Forall₂ IsWeightEntry weights entries := by
  induction h with
  | nil => exact ⟨[], rfl, List.Forall₂.nil⟩
  | @cons weight entry _ _ hentry _ ih =>
    obtain ⟨weights, hweights, hforall⟩ := ih
    obtain ⟨hkey, u, hu, hvalue⟩ := hentry
    refine ⟨(weight.1, u) :: weights, ?_, List.Forall₂.cons ⟨hkey, hvalue⟩ hforall⟩
    rw [hweights, numberWeights, numberWeights, List.map_cons, ← hu]

theorem convert_eq_ok {params : WeightedThresholdAccountParams} {encoded : ScVal}
    (h : params.convert = .ok encoded) :
    ∃ weights threshold entries, params.signerWeights = numberWeights weights ∧
      params.threshold = .ofU32 threshold ∧ List.Forall₂ IsWeightEntry weights entries ∧
        encoded = weightedParams (sortBy compareKeys entries) threshold := by
  have hencode : encodeWeightedThresholdParams
      (some (params.signerWeights.map fun entry => (entry.1, .number entry.2)))
      (.number params.threshold) = .ok encoded := by
    unfold WeightedThresholdAccountParams.convert convertPolicyParams at h
    split at h
    · rename_i value hvalue
      rw [hvalue, ← Except.ok.inj h]
    · cases h
  obtain ⟨entries, hentries, hrest⟩ := except_bind_eq_ok.mp hencode
  obtain ⟨threshold, hthreshold, hencoded⟩ := except_bind_eq_ok.mp hrest
  have hread := mapM_eq_ok.mp hentries
  rw [List.forall₂_map_left_iff] at hread
  obtain ⟨weights, hweights, hforall⟩ := exists_weights (hread.imp fun entry e he => by
    obtain ⟨key, hkey, he⟩ := except_bind_eq_ok.mp he
    obtain ⟨weight, hweight, he⟩ := except_bind_eq_ok.mp he
    obtain rfl := Except.ok.inj he
    exact ⟨hkey, weight, requireU32_number hweight, rfl⟩)
  exact ⟨weights, threshold, entries, hweights, requireU32_number hthreshold, hforall,
    (Except.ok.inj hencoded).symm⟩

/-! ## Validity -/

/-- The weight of an entry. -/
def entryWeight : ScVal × ScVal → ℕ
  | (_, .u32 weight) => weight.toNat
  | _ => 0

/-- The sum of the weights over the distinct signers of an encoded map. -/
def distinctWeight (entries : List (ScVal × ScVal)) : ℕ :=
  ((entries.pwFilter fun a b => compareKeys a b ≠ 0).map entryWeight).sum

/-- The host accepts the map of weights, and its signers can reach the threshold. -/
def ValidWeightedThreshold (encoded : ScVal) : Prop :=
  ∃ entries threshold, encoded = weightedParams entries threshold ∧
    (entries.Pairwise fun a b => hostOrder a.1 b.1 = .lt) ∧
      threshold.toNat ≤ distinctWeight entries

theorem weightedParams_inj {entries entries' : List (ScVal × ScVal)} {threshold threshold' : UInt32}
    (h : weightedParams entries threshold = weightedParams entries' threshold') :
    entries = entries' ∧ threshold = threshold' := by
  simp only [weightedParams, symbolEntry, ScVal.map.injEq, Option.some.injEq, List.cons.injEq,
    Prod.mk.injEq, ScVal.u32.injEq, true_and, and_true] at h
  exact h

section entries

variable {weights : List (Signer × UInt32)} {entries : List (ScVal × ScVal)}

/-- Entries of different signers do not tie. -/
theorem entries_pairwise (h : List.Forall₂ IsWeightEntry weights entries)
    (hdistinct : (weights.map (·.1)).Nodup) :
    entries.Pairwise fun a b => compareKeys a b ≠ 0 := by
  induction h with
  | nil => exact List.Pairwise.nil
  | cons hentry hrest ih =>
    rw [List.map_cons, List.nodup_cons] at hdistinct
    refine List.pairwise_cons.mpr ⟨fun e he hzero => hdistinct.1 ?_, ih hdistinct.2⟩
    obtain ⟨weight, hmem, hweight⟩ := exists_of_forall₂_right hrest he
    rw [eq_of_compareScVal_eq_zero hentry.1 hweight.1 hzero]
    exact List.mem_map_of_mem hmem

/-- Entries with different keys are those of different signers. -/
theorem nodup_of_entries (h : List.Forall₂ IsWeightEntry weights entries)
    (hkeys : (entries.map (·.1)).Nodup) : (weights.map (·.1)).Nodup := by
  induction h with
  | nil => exact List.nodup_nil
  | @cons weight entry weights entries hentry hrest ih =>
    rw [List.map_cons, List.nodup_cons] at hkeys ⊢
    refine ⟨fun hmem => hkeys.1 ?_, ih hkeys.2⟩
    obtain ⟨weight', hmem', hsigner⟩ := List.mem_map.mp hmem
    obtain ⟨entry', hentry', hweight'⟩ := exists_of_forall₂_left hrest hmem'
    have hkey : entry'.1 = entry.1 := by
      have hsame := hweight'.1
      rw [hsigner, hentry.1] at hsame
      exact (Except.ok.inj hsame).symm
    exact hkey ▸ List.mem_map_of_mem hentry'

theorem hostKey_of_entry (h : List.Forall₂ IsWeightEntry weights entries) {entry : ScVal × ScVal}
    (hmem : entry ∈ sortBy compareKeys entries) : HostKey entry.1 := by
  obtain ⟨weight, -, hweight⟩ := exists_of_forall₂_right h (mem_sortBy.mp hmem)
  exact hostKey_of_signerToScVal hweight.1

theorem hostOrder_self {key : ScVal} (h : HostKey key) : hostOrder key key ≠ .lt := by
  rw [← toOrdering_compareScVal h h, (compareScVal_lawfulAt key).refl]
  decide

theorem sum_entryWeight (h : List.Forall₂ IsWeightEntry weights entries) :
    (entries.map entryWeight).sum = weightSum weights := by
  induction h with
  | nil => rfl
  | @cons weight entry weights entries hentry hrest ih =>
    have hweight : entryWeight entry = weight.2.toNat := by
      obtain ⟨key, value⟩ := entry
      obtain rfl : value = .u32 weight.2 := hentry.2
      rfl
    rw [List.map_cons, List.sum_cons, ih, hweight]
    exact List.sum_cons.symm

/-- Valid parameters have different signers. -/
theorem nodup_of_valid {threshold : UInt32} (h : List.Forall₂ IsWeightEntry weights entries)
    (hvalid : ValidWeightedThreshold (weightedParams (sortBy compareKeys entries) threshold)) :
    (weights.map (·.1)).Nodup := by
  obtain ⟨sorted, threshold', hencoded, hstrict, -⟩ := hvalid
  obtain ⟨rfl, -⟩ := weightedParams_inj hencoded
  have hne : (sortBy compareKeys entries).Pairwise fun a b => a.1 ≠ b.1 := by
    refine hstrict.imp_of_mem fun {a b} ha _ hlt heq => ?_
    rw [← heq] at hlt
    exact hostOrder_self (hostKey_of_entry h ha) hlt
  have hkeys : ((sortBy compareKeys entries).map (·.1)).Nodup := List.pairwise_map.mpr hne
  exact nodup_of_entries h (((sortBy_perm entries).map _).nodup_iff.mp hkeys)

end entries

theorem numberWeights_signers (weights : List (Signer × UInt32)) :
    (numberWeights weights).map (·.1) = weights.map (·.1) := by
  rw [numberWeights, List.map_map]
  rfl

/-- Accepted and encoded parameters are valid exactly if the signers of the map differ. -/
theorem weightedThreshold_valid_iff {threshold : JsNumber}
    {signerWeights : List (Signer × JsNumber)} {params : WeightedThresholdAccountParams}
    {encoded : ScVal} (hcreate : createWeightedThresholdParams threshold signerWeights = .ok params)
    (hconvert : params.convert = .ok encoded) :
    ValidWeightedThreshold encoded ↔ (signerWeights.map (·.1)).Nodup := by
  have hparams : params = { signerWeights, threshold } := by
    unfold createWeightedThresholdParams at hcreate
    simp only [throwIf_bind_eq_ok] at hcreate
    obtain ⟨-, -, -, h⟩ := hcreate
    obtain ⟨total, -, h⟩ := except_bind_eq_ok.mp h
    exact (Except.ok.inj (throwIf_bind_eq_ok.mp h).2).symm
  subst hparams
  obtain ⟨weights, threshold, entries, rfl, rfl, hentries, rfl⟩ := convert_eq_ok hconvert
  rw [numberWeights_signers]
  constructor
  · exact nodup_of_valid hentries
  · intro hdistinct
    have hpairwise := entries_pairwise hentries hdistinct
    have hstrict := sortBy_strict compareKeys_lawfulAt hpairwise
    refine ⟨_, threshold, rfl, ?_, ?_⟩
    · refine hstrict.imp_of_mem fun {a b} ha hb hlt => ?_
      rw [← toOrdering_compareScVal (hostKey_of_entry hentries ha) (hostKey_of_entry hentries hb),
        toOrdering_eq_lt]
      exact hlt
    · have hall : (sortBy compareKeys entries).pwFilter (fun a b => compareKeys a b ≠ 0) =
          sortBy compareKeys entries :=
        List.pwFilter_eq_self.mpr (hstrict.imp fun hlt => ne_of_lt hlt)
      rw [distinctWeight, hall, ((sortBy_perm entries).map entryWeight).sum_eq,
        sum_entryWeight hentries]
      exact threshold_le_sum hcreate

/-! ## Samples -/

/-- The weights of two sample signers. -/
def sampleWeights (n : UInt8) : List (Signer × JsNumber) :=
  [(sampleSigner 1, .ofNat 1), (sampleSigner n, .ofNat 1)]

theorem sampleWeights_create (n : UInt8) :
    createWeightedThresholdParams (.ofNat 2) (sampleWeights n) =
      .ok { signerWeights := sampleWeights n, threshold := .ofNat 2 } := by
  have htotal : (sampleWeights n).foldlM addWeight (.ofNat 0) =
      (.ok (.ofNat 2) : Except JsError JsNumber) := by
    have hcheck : ¬((JsNumber.ofNat 1).lt (.ofNat 1) = true ∨ integerNumber (.ofNat 1) = none) := by
      decide
    have hfirst : ∀ signer, addWeight (.ofNat 0) (signer, .ofNat 1) = .ok (.ofNat 1) := by
      intro signer
      exact throwIf_bind_eq_ok.mpr ⟨hcheck, congrArg Except.ok (add_ofNat (by omega))⟩
    have hsecond : ∀ signer, addWeight (.ofNat 1) (signer, .ofNat 1) = .ok (.ofNat 2) := by
      intro signer
      exact throwIf_bind_eq_ok.mpr ⟨hcheck, congrArg Except.ok (add_ofNat (by omega))⟩
    rw [sampleWeights, List.foldlM_cons, hfirst, except_ok_bind, List.foldlM_cons, hsecond]
    rfl
  unfold createWeightedThresholdParams
  simp only [throwIf_bind_eq_ok]
  refine ⟨by decide, by decide, Bool.false_ne_true, ?_⟩
  have hreached : ¬(JsNumber.ofNat 2).lt (.ofNat 2) = true := by decide
  exact except_bind_eq_ok.mpr ⟨_, htotal, throwIf_bind_eq_ok.mpr ⟨hreached, rfl⟩⟩

theorem sampleWeights_convert (n : UInt8) : ∃ encoded,
    WeightedThresholdAccountParams.convert
      { signerWeights := sampleWeights n, threshold := .ofNat 2 } = .ok encoded := by
  have hone : requireU32 (.number (.ofNat 1)) "signer weight" = .ok 1 := by decide
  have htwo : requireU32 (.number (.ofNat 2)) "threshold" = .ok 2 := by decide
  simp only [WeightedThresholdAccountParams.convert, sampleWeights, List.map_cons, List.map_nil,
    encodeWeightedThresholdParams, List.mapM_cons, List.mapM_nil, sampleSigner_key, hone, htwo]
  exact ⟨_, rfl⟩

theorem weightedThreshold_valid_iff_sample : ∃ encoded,
    WeightedThresholdAccountParams.convert
        { signerWeights := sampleWeights 2, threshold := .ofNat 2 } = .ok encoded ∧
      ValidWeightedThreshold encoded := by
  obtain ⟨encoded, hconvert⟩ := sampleWeights_convert 2
  exact ⟨encoded, hconvert,
    (weightedThreshold_valid_iff (sampleWeights_create 2) hconvert).mpr
      (by set_option maxRecDepth 20000 in decide)⟩

/-- The weights of two objects for one signer are added up. -/
theorem weightedThreshold_duplicates : ∃ params encoded,
    createWeightedThresholdParams (.ofNat 2) (sampleWeights 1) = .ok params ∧
      params.convert = .ok encoded ∧ ¬ValidWeightedThreshold encoded := by
  obtain ⟨encoded, hconvert⟩ := sampleWeights_convert 1
  refine ⟨_, encoded, sampleWeights_create 1, hconvert, fun hvalid => ?_⟩
  obtain ⟨weights, threshold, entries, hweights, -, hentries, rfl⟩ := convert_eq_ok hconvert
  have hnodup := nodup_of_valid hentries hvalid
  rw [← numberWeights_signers, ← hweights] at hnodup
  exact absurd hnodup (by set_option maxRecDepth 20000 in decide)

end SmartAccountKit
