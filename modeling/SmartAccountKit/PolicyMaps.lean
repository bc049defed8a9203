import SmartAccountKit.HostOrder
import SmartAccountKit.PolicyTheorems
import SmartAccountKit.Provenance

/-!
# Canonical policy maps

The four ways in which the kit makes a policy map: the constructor's map, the
sorted map of the rule manager, the explicit `ScVal` and the map that a birth is
checked against. Whatever the order of the policies, they have the same keys and
encode to the same bytes.
-/

namespace SmartAccountKit
open Lib

/-! ## The explicit map -/

/-- The types of policies. -/
inductive PolicyType where
  | threshold
  | spending_limit
  | weighted_threshold
  | custom
deriving DecidableEq

/-- The field `threshold` of install parameters. -/
def InstallParams.thresholdField : InstallParams → NumericInput
  | threshold value => value
  | weightedThreshold _ value => value
  | _ => .other

/-- The fields `period_ledgers` and `spending_limit`. -/
def InstallParams.spendingFields : InstallParams → NumericInput × NumericInput
  | spendingLimit periodLedgers value => (periodLedgers, value)
  | _ => (.other, .other)

/-- The field `signer_weights`. -/
def InstallParams.signerWeights : InstallParams → Option (List (Signer × NumericInput))
  | weightedThreshold signerWeights _ => signerWeights
  | _ => none

/-- Install parameters where a custom value is expected. -/
def InstallParams.customInput : InstallParams → CustomInput
  | custom value => value
  | _ => .other

/-- What the policy maps use of the wallet's contract client: the conversion of its spec, if it has
one. -/
structure SpecClient where
  nativeToScVal : Option (InstallParams → Except String ScVal)

/-- The conversion of custom parameters that are no `ScVal`. -/
def SpecClient.convert (wallet : SpecClient) (address : String) (params : InstallParams) :
    Except JsError ScVal :=
  match wallet.nativeToScVal with
  | none => .error (JsError.validation
      ("Policy " ++ address ++ ": custom policy params could not be converted — provide " ++
        "installParams as an xdr.ScVal or set a known policy 'type'. " ++
        "An xdr.ScVal from a different @stellar/stellar-sdk copy must still provide toXDR().")
      .INVALID_INPUT [("address", .text address)])
  | some nativeToScVal =>
    match nativeToScVal params with
    | .ok value => .ok value
    | .error cause => .error (JsError.validation
        ("Policy " ++ address ++ ": failed to convert custom policy params into an ScVal. " ++
          "If you passed an xdr.ScVal, it may come from a different @stellar/stellar-sdk copy.")
        .INVALID_INPUT [("address", .text address), ("cause", .text cause)])

/-- The value of a policy in the explicit map. -/
def policyScParams (wallet : SpecClient) (policyTypes : List (String × PolicyType))
    (address : String) (params : InstallParams) : Except JsError ScVal :=
  match policyTypes.lookup address with
  | some .threshold => convertPolicyParams "threshold" (encodeThresholdParams params.thresholdField)
  | some .spending_limit => convertPolicyParams "spending_limit"
      (encodeSpendingLimitParams params.spendingFields.1 params.spendingFields.2)
  | some .weighted_threshold => convertPolicyParams "weighted_threshold"
      (encodeWeightedThresholdParams params.signerWeights params.thresholdField)
  | _ => do
    match ← toKitScVal params.customInput address with
    | some customScVal => return customScVal
    | none => wallet.convert address params

def buildPoliciesScVal (wallet : Option SpecClient) (policies : List (String × InstallParams))
    (policyTypes : List (String × PolicyType)) : Except JsError ScVal :=
  match wallet with
  | none => .error (JsError.walletNotConnected none)
  | some wallet => do
    let entries ← policies.mapM fun e => do
      let scAddress ← policyAddressToScVal e.1
      return (scAddress, ← policyScParams wallet policyTypes e.1 e.2)
    return .map (some (sortBy compareKeys entries))

/-- The `ScMap` with the entries of a map, in the order of the map. -/
def PolicyMap.toScVal (map : PolicyMap) : Except JsError ScVal := do
  let entries ← map.mapM fun e => do return (← policyAddressToScVal e.1, e.2)
  return .map (some entries)

/-! ## Corresponding maps -/

/-- The type of install parameters. -/
def InstallParams.type : InstallParams → PolicyType
  | threshold _ => .threshold
  | spendingLimit _ _ => .spending_limit
  | weightedThreshold _ _ => .weighted_threshold
  | custom _ => .custom

/-- A map of types gives each policy its type; custom policies may have none. -/
def TypesFit (policyTypes : List (String × PolicyType)) (policies : List PolicyConfig) : Prop :=
  ∀ policy ∈ policies, policyTypes.lookup policy.address = some policy.installParams.type ∨
    policy.installParams.type = .custom ∧ policyTypes.lookup policy.address = none

/-- The install parameters of policies by their addresses. -/
def paramsMap (policies : List PolicyConfig) : List (String × InstallParams) :=
  policies.map fun policy => (policy.address, policy.installParams)

/-- What the constructor arguments of a deployment with these policies hash to: the vector of the
signers, and the policies as the constructor's map. -/
def deploymentArgsHash (signers : ScVal) (policies : List PolicyConfig) : Except JsError String := do
  let map ← buildConstructorPolicies policies
  let scMap ← map.toScVal
  return constructorArgsHash [signers, scMap]

/-- One address stands before another in the order of the host. -/
def AddressBefore (s s' : String) : Prop :=
  ∃ a b : ScAddress, a.toStrkey = some s ∧ b.toStrkey = some s' ∧
    hostOrder (.address a) (.address b) = .lt

/-- The value of a policy in the explicit map is the one in the constructor's map. -/
theorem policyScParams_of_fit {wallet : SpecClient} {policyTypes : List (String × PolicyType)}
    {policies : List PolicyConfig} (hfit : TypesFit policyTypes policies) {policy : PolicyConfig}
    (hpolicy : policy ∈ policies) {value : ScVal} (h : policy.scParams = .ok value) :
    policyScParams wallet policyTypes policy.address policy.installParams = .ok value := by
  have hlookup := hfit policy hpolicy
  unfold policyScParams
  unfold PolicyConfig.scParams at h
  cases hparams : policy.installParams with
  | custom input =>
    rw [hparams] at h hlookup
    -- constructor policies refuse custom parameters that are no `ScVal`
    obtain ⟨found, hfound, hvalue⟩ := except_bind_eq_ok.mp h
    have hread : toKitScVal (InstallParams.custom input).customInput policy.address = .ok found :=
      hfound
    have hcustom : policyTypes.lookup policy.address = some .custom ∨
        policyTypes.lookup policy.address = none := hlookup.imp_right And.right
    rcases hcustom with htype | htype
    all_goals
      rw [htype]
      show (toKitScVal (InstallParams.custom input).customInput policy.address >>= _) = _
      rw [hread, except_ok_bind]
      cases found with
      | none => exact absurd hvalue (by simp [throw, throwThe, MonadExceptOf.throw])
      | some custom => exact hvalue
  | _ =>
    rw [hparams] at h hlookup
    have htype := hlookup.resolve_right fun hcustom => by
      cases hcustom.1
    rw [htype]
    exact h

/-! ## Sorted keys -/

section keys

variable {T : Type}

/-- Addresses are valid when each is the strkey of an address. -/
theorem sortPolicyMap_ok {policies : List (String × T)}
    (hvalid : ∀ e ∈ policies, ∃ a : ScAddress, a.toStrkey = some e.1) :
    ∃ sorted, sortPolicyMap policies = .ok sorted := by
  have hkey : ∀ e ∈ policies, ∃ k : ScVal × (String × T), ∃ a : ScAddress,
      a.toStrkey = some e.1 ∧ k = (.address a, e) := by
    intro e he
    obtain ⟨a, ha⟩ := hvalid e he
    exact ⟨_, a, ha, rfl⟩
  obtain ⟨keyed, hkeyed⟩ := exists_forall₂ hkey
  exact ⟨_, except_bind_eq_ok.mpr ⟨keyed, keyedPolicies_eq_ok.mpr hkeyed, rfl⟩⟩

/-- The sorted map has the keys of its entries in the order of the host, none twice. -/
theorem sortPolicyMap_strict {policies sorted : List (String × T)}
    (hdistinct : (policies.map (·.1)).Nodup) (h : sortPolicyMap policies = .ok sorted) :
    (sorted.map (·.1)).Pairwise AddressBefore := by
  obtain ⟨keyed, hkeyed, hsorted⟩ := except_bind_eq_ok.mp h
  have hlawful : ∀ k : ScVal × (String × T), LawfulAt (fun a b => compareScVal a.1 b.1) k :=
    fun k => comap_lawfulAt Prod.fst (compareScVal_lawfulAt k.1)
  have hstrict := sortBy_strict hlawful (keyedPolicies_pairwise hkeyed hdistinct)
  have haddress : ∀ k ∈ keyed, ∃ a : ScAddress, a.toStrkey = some k.2.1 ∧ k.1 = .address a := by
    intro k hk
    obtain ⟨e, -, a, ha, rfl⟩ := exists_of_forall₂_right (keyedPolicies_eq_ok.mp hkeyed) hk
    exact ⟨a, ha, rfl⟩
  rw [← Except.ok.inj hsorted, List.map_map, List.pairwise_map]
  refine hstrict.imp_of_mem fun {k l} hk hl hlt => ?_
  obtain ⟨a, ha, hka⟩ := haddress k (mem_sortBy.mp hk)
  obtain ⟨b, hb, hlb⟩ := haddress l (mem_sortBy.mp hl)
  refine ⟨a, b, ha, hb, ?_⟩
  rw [hka, hlb] at hlt
  rw [← toOrdering_compareScVal .address .address, toOrdering_eq_lt]
  exact hlt

theorem AddressBefore.asymm {s s' : String} (h : AddressBefore s s') : ¬AddressBefore s' s := by
  rintro ⟨b', a', hb', ha', hba⟩
  obtain ⟨a, b, ha, hb, hab⟩ := h
  rw [ScAddress.toStrkey_inj ha' ha, ScAddress.toStrkey_inj hb' hb] at hba
  rw [← toOrdering_compareScVal .address .address, toOrdering_eq_lt] at hab hba
  have hpos := ((compareScVal_lawfulAt (.address a)).neg_iff (.address b)).mp hba
  omega

/-- Addresses have one order that is strictly increasing. -/
theorem keys_unique {keys keys' : List String} (hperm : keys.Perm keys')
    (h : keys.Pairwise AddressBefore) (h' : keys'.Pairwise AddressBefore) : keys = keys' :=
  hperm.eq_of_pairwise (fun _ _ _ _ hab hba => absurd hba hab.asymm) h h'

end keys

/-! ## Entries under their keys -/

/-- An entry of a map and the entry of the `ScMap` that it becomes. -/
def KeyedEntry (e : String × ScVal) (k : ScVal × ScVal) : Prop :=
  ∃ a : ScAddress, a.toStrkey = some e.1 ∧ k = (.address a, e.2)

section entries

variable {es es' : PolicyMap} {ks ks' : List (ScVal × ScVal)}

theorem keyedEntry_unique : Relator.RightUnique KeyedEntry := by
  rintro e k k' ⟨a, ha, rfl⟩ ⟨b, hb, rfl⟩
  rw [ScAddress.toStrkey_inj ha hb]

/-- The same entries in any order become one sorted `ScMap`. -/
theorem sortBy_keyedEntries (hperm : es.Perm es') (hdistinct : (es.map (·.1)).Nodup)
    (h : List.Forall₂ KeyedEntry es ks) (h' : List.Forall₂ KeyedEntry es' ks') :
    sortBy compareKeys ks = sortBy compareKeys ks' := by
  obtain ⟨ks'', hperm', hks''⟩ := forall₂_perm_left h hperm
  have hsame : ks'' = ks' := List.right_unique_forall₂' keyedEntry_unique hks'' h'
  rw [← hsame]
  refine sortBy_eq_of_perm compareKeys_lawfulAt hperm' ?_
  refine addressKeys_pairwise (fun e k hk => ?_) h hdistinct
  obtain ⟨a, ha, rfl⟩ := hk
  exact ⟨a, ha, rfl⟩

/-- A sorted map becomes a sorted `ScMap`. -/
theorem sortPolicyMap_entries {map : PolicyMap} (h : sortPolicyMap es = .ok map) :
    ∃ ks, List.Forall₂ KeyedEntry map ks ∧ sortBy compareKeys ks = ks := by
  obtain ⟨keyed, hkeyed, hsorted⟩ := except_bind_eq_ok.mp h
  obtain rfl := Except.ok.inj hsorted
  have hlawful : ∀ k : ScVal × (String × ScVal), LawfulAt (fun a b => compareScVal a.1 b.1) k :=
    fun k => comap_lawfulAt Prod.fst (compareScVal_lawfulAt k.1)
  refine ⟨(sortBy (fun a b => compareScVal a.1 b.1) keyed).map fun k => (k.1, k.2.2), ?_, ?_⟩
  · rw [List.forall₂_map_left_iff, List.forall₂_map_right_iff, List.forall₂_same]
    intro k hk
    obtain ⟨e, -, a, ha, rfl⟩ :=
      exists_of_forall₂_right (keyedPolicies_eq_ok.mp hkeyed) (mem_sortBy.mp hk)
    exact ⟨a, ha, rfl⟩
  · apply sortBy_of_pairwise
    rw [List.pairwise_map]
    exact sortBy_pairwise hlawful keyed

/-- The `ScMap` of a map under its keys. -/
theorem toScVal_eq_ok {map : PolicyMap} (h : List.Forall₂ KeyedEntry map ks) :
    map.toScVal = .ok (.map (some ks)) := by
  refine except_bind_eq_ok.mpr ⟨ks, mapM_eq_ok.mpr (h.imp fun e k hk => ?_), rfl⟩
  obtain ⟨a, ha, rfl⟩ := hk
  exact except_bind_eq_ok.mpr ⟨_, policyAddressToScVal_eq_ok.mpr ⟨a, ha, rfl⟩, rfl⟩

/-- The verifier expects the sorted entries of the constructor's map. -/
theorem expectedPoliciesScVal_of_built {policies : List PolicyConfig} {map : PolicyMap}
    (hbuilt : buildConstructorPolicies policies = .ok map)
    (h : List.Forall₂ KeyedEntry map ks) :
    expectedPoliciesScVal policies = .ok (.map (some (sortBy compareKeys ks))) := by
  have hentries : (map.mapM fun e => do
      return (ScVal.address (← toScAddress e.1), e.2)) = .ok ks := by
    refine mapM_eq_ok.mpr (h.imp fun e k hk => ?_)
    obtain ⟨a, ha, rfl⟩ := hk
    exact except_bind_eq_ok.mpr ⟨a, toScAddress_eq_ok.mpr ha, rfl⟩
  rw [expectedPoliciesScVal, hbuilt, except_ok_bind]
  exact except_bind_eq_ok.mpr ⟨ks, hentries, rfl⟩

/-- The explicit map has the sorted entries of the policies. -/
theorem buildPoliciesScVal_of_entries {policies : List PolicyConfig}
    (hentries : policies.mapM PolicyConfig.entry = .ok es) (h : List.Forall₂ KeyedEntry es ks)
    {wallet : SpecClient} {policyTypes : List (String × PolicyType)}
    (hfit : TypesFit policyTypes policies) :
    buildPoliciesScVal (some wallet) (paramsMap policies) policyTypes =
      .ok (.map (some (sortBy compareKeys ks))) := by
  refine except_bind_eq_ok.mpr ⟨ks, mapM_eq_ok.mpr ?_, rfl⟩
  rw [paramsMap, List.forall₂_map_left_iff]
  have hpolicies := mapM_eq_ok.mp hentries
  clear hentries
  -- each policy is converted under its own type
  induction hpolicies generalizing ks with
  | nil =>
    rw [List.forall₂_nil_left_iff] at h
    rw [h]
    exact List.Forall₂.nil
  | @cons policy e policies es hentry _ ih =>
    obtain ⟨k, ks, hk, hks, rfl⟩ := List.forall₂_cons_left_iff.mp h
    have hrest : TypesFit policyTypes policies := fun p hp => hfit p (List.mem_cons_of_mem _ hp)
    refine List.Forall₂.cons ?_ (ih hks hrest)
    obtain ⟨haddress, hvalue⟩ := PolicyConfig.entry_eq_ok.mp hentry
    obtain ⟨a, ha, rfl⟩ := hk
    rw [haddress] at ha
    refine except_bind_eq_ok.mpr ⟨_, policyAddressToScVal_eq_ok.mpr ⟨a, ha, rfl⟩, ?_⟩
    refine except_bind_eq_ok.mpr ⟨e.2, ?_, rfl⟩
    exact policyScParams_of_fit hfit List.mem_cons_self hvalue

end entries

/-- The explicit map does not depend on the order of its entries, whatever their types. -/
theorem buildPoliciesScVal_congr {wallet : Option SpecClient}
    {policies policies' : List (String × InstallParams)}
    {policyTypes : List (String × PolicyType)} {scMap : ScVal} (hperm : policies.Perm policies')
    (hdistinct : (policies.map (·.1)).Nodup)
    (h : buildPoliciesScVal wallet policies policyTypes = .ok scMap) :
    buildPoliciesScVal wallet policies' policyTypes = .ok scMap := by
  cases wallet with
  | none => exact h
  | some wallet =>
    obtain ⟨ks, hks, hscMap⟩ := except_bind_eq_ok.mp h
    obtain ⟨ks', hperm', hks'⟩ := forall₂_perm_left (mapM_eq_ok.mp hks) hperm
    refine except_bind_eq_ok.mpr ⟨ks', mapM_eq_ok.mpr hks', ?_⟩
    have hties : ks.Pairwise fun a b => compareKeys a b ≠ 0 := by
      refine addressKeys_pairwise (fun e k hk => ?_) (mapM_eq_ok.mp hks) hdistinct
      obtain ⟨key, hkey, hrest⟩ := except_bind_eq_ok.mp hk
      obtain ⟨value, -, hpair⟩ := except_bind_eq_ok.mp hrest
      obtain ⟨a, ha, rfl⟩ := policyAddressToScVal_eq_ok.mp hkey
      exact ⟨a, ha, congrArg Prod.fst (Except.ok.inj hpair).symm⟩
    rw [← hscMap, sortBy_eq_of_perm compareKeys_lawfulAt hperm' hties]

/-! ## All orders of a list of policies -/

/-- The entries of the constructor's map are those of the policies. -/
theorem buildConstructorPolicies_entries {policies : List PolicyConfig} {map : PolicyMap}
    (hdistinct : (policies.map (·.address)).Nodup)
    (h : buildConstructorPolicies policies = .ok map) :
    ∃ es, policies.mapM PolicyConfig.entry = .ok es ∧ sortPolicyMap es = .ok map ∧
      es.Perm map ∧ (es.map (·.1)).Nodup := by
  obtain ⟨es, hes, hsorted⟩ := (buildConstructorPolicies_eq_ok hdistinct).mp h
  refine ⟨es, hes, hsorted, (sortPolicyMap_perm hsorted).symm, ?_⟩
  rw [mapM_entry_addresses hes]
  exact hdistinct

/-- Policies at pairwise different valid addresses have one sequence of keys, strictly increasing
for the host. In whatever order they are listed, every sorted map has these keys; and where the
constructor's map can be built it is the same for every order, with one `ScMap` that is the
explicit map, the map a verifier expects and the one that is hashed. -/
theorem policyMaps_canonical (policies : List PolicyConfig)
    (hdistinct : (policies.map (·.address)).Nodup)
    (hvalid : ∀ policy ∈ policies, ∃ a : ScAddress, a.toStrkey = some policy.address) :
    ∃ keys : List String, keys.Perm (policies.map (·.address)) ∧ keys.Pairwise AddressBefore ∧
      ∀ policies' : List PolicyConfig, policies.Perm policies' →
        (∀ (T : Type) (value : String → T), ∃ sorted,
          sortPolicyMap (policies'.map fun policy => (policy.address, value policy.address)) =
            .ok sorted ∧ sorted.map (·.1) = keys) ∧
        (∀ map, buildConstructorPolicies policies' = .ok map ↔
          buildConstructorPolicies policies = .ok map) ∧
        (∀ wallet policyTypes scMap,
          buildPoliciesScVal wallet (paramsMap policies') policyTypes = .ok scMap ↔
            buildPoliciesScVal wallet (paramsMap policies) policyTypes = .ok scMap) ∧
        (∀ signers argsHash, deploymentArgsHash signers policies' = .ok argsHash ↔
          deploymentArgsHash signers policies = .ok argsHash) ∧
        ∀ map, buildConstructorPolicies policies = .ok map → map.map (·.1) = keys ∧
          ∃ scMap, map.toScVal = .ok scMap ∧ expectedPoliciesScVal policies' = .ok scMap ∧
            (∀ wallet policyTypes, TypesFit policyTypes policies →
              buildPoliciesScVal (some wallet) (paramsMap policies') policyTypes = .ok scMap) ∧
            ∀ signers,
              deploymentArgsHash signers policies' = .ok (constructorArgsHash [signers, scMap]) := by
  -- the keys are those of the map without values
  have haddresses : ∀ (T : Type) (value : String → T) (ps : List PolicyConfig),
      (ps.map fun policy => (policy.address, value policy.address)).map (·.1) =
        ps.map (·.address) := fun T value ps => by rw [List.map_map]; rfl
  have hsort : ∀ (T : Type) (value : String → T) (ps : List PolicyConfig), policies.Perm ps →
      ∃ sorted, sortPolicyMap (ps.map fun policy => (policy.address, value policy.address)) =
        .ok sorted ∧ (sorted.map (·.1)).Perm (policies.map (·.address)) ∧
        (sorted.map (·.1)).Pairwise AddressBefore := by
    intro T value ps hperm
    have hvalid' : ∀ e ∈ ps.map fun policy => (policy.address, value policy.address),
        ∃ a : ScAddress, a.toStrkey = some e.1 := by
      intro e he
      obtain ⟨policy, hpolicy, rfl⟩ := List.mem_map.mp he
      exact hvalid policy (hperm.mem_iff.mpr hpolicy)
    obtain ⟨sorted, hsorted⟩ := sortPolicyMap_ok hvalid'
    refine ⟨sorted, hsorted, ?_, ?_⟩
    · have hkeys := (sortPolicyMap_perm hsorted).map Prod.fst
      rw [haddresses] at hkeys
      exact hkeys.trans (hperm.map _).symm
    · refine sortPolicyMap_strict ?_ hsorted
      rw [haddresses]
      exact (hperm.map _).nodup_iff.mp hdistinct
  obtain ⟨sorted, -, hkeys, hincreasing⟩ := hsort Unit (fun _ => ()) policies (List.Perm.refl _)
  refine ⟨sorted.map (·.1), hkeys, hincreasing, fun policies' hperm => ?_⟩
  have hdistinct' : (policies'.map (·.address)).Nodup := (hperm.map _).nodup_iff.mp hdistinct
  have hbuild : ∀ map, buildConstructorPolicies policies' = .ok map ↔
      buildConstructorPolicies policies = .ok map := fun map =>
    ⟨buildConstructorPolicies_congr hperm.symm hdistinct',
      buildConstructorPolicies_congr hperm hdistinct⟩
  refine ⟨fun T value => ?_, hbuild, fun wallet policyTypes scMap => ?_, fun signers argsHash => ?_,
    fun map hmap => ?_⟩
  · obtain ⟨sorted', hsorted', hkeys', hincreasing'⟩ := hsort T value policies' hperm
    exact ⟨sorted', hsorted', keys_unique (hkeys'.trans hkeys.symm) hincreasing' hincreasing⟩
  · have hparams : ∀ ps : List PolicyConfig, (paramsMap ps).map (·.1) = ps.map (·.address) :=
      fun ps => by rw [paramsMap, List.map_map]; rfl
    constructor
    · exact buildPoliciesScVal_congr (hperm.symm.map _) (by rw [hparams]; exact hdistinct')
    · exact buildPoliciesScVal_congr (hperm.map _) (by rw [hparams]; exact hdistinct)
  · simp only [deploymentArgsHash, except_bind_eq_ok, hbuild]
  · obtain ⟨es, hes, hsorted, hesmap, hesdistinct⟩ :=
      buildConstructorPolicies_entries hdistinct hmap
    obtain ⟨ks, hks, hsortedKeys⟩ := sortPolicyMap_entries hsorted
    refine ⟨?_, .map (some ks), toScVal_eq_ok hks, ?_, ?_, fun signers => ?_⟩
    · refine keys_unique ?_ (sortPolicyMap_strict hesdistinct hsorted) hincreasing
      exact (buildConstructorPolicies_addresses hdistinct hmap).trans hkeys.symm
    · rw [expectedPoliciesScVal_of_built ((hbuild map).mpr hmap) hks, hsortedKeys]
    · intro wallet policyTypes hfit
      -- the explicit map sorts the entries of the other order
      obtain ⟨es', hes', -, hesmap', hesdistinct'⟩ :=
        buildConstructorPolicies_entries hdistinct' ((hbuild map).mpr hmap)
      obtain ⟨ks', -, hks'⟩ := forall₂_perm_left hks hesmap'.symm
      have hfit' : TypesFit policyTypes policies' := fun p hp => hfit p (hperm.mem_iff.mpr hp)
      rw [buildPoliciesScVal_of_entries hes' hks' hfit',
        sortBy_keyedEntries hesmap' hesdistinct' hks' hks, hsortedKeys]
    · rw [deploymentArgsHash, (hbuild map).mpr hmap, except_ok_bind, toScVal_eq_ok hks]
      rfl

theorem policyMaps_canonical_sample :
    ∃ keys map scMap, keys.Perm (samplePolicies.map (·.address)) ∧ keys.Pairwise AddressBefore ∧
      buildConstructorPolicies samplePolicies.reverse = .ok map ∧ map.map (·.1) = keys ∧
      expectedPoliciesScVal samplePolicies.reverse = .ok scMap ∧
      buildPoliciesScVal (some ⟨none⟩) (paramsMap samplePolicies.reverse)
        [(sampleContractId 8, .threshold)] = .ok scMap := by
  have hvalid : ∀ policy ∈ samplePolicies, ∃ a : ScAddress, a.toStrkey = some policy.address := by
    intro policy hpolicy
    rcases List.mem_pair.mp hpolicy with rfl | rfl
    · exact ⟨sampleContract 8, rfl⟩
    · exact ⟨sampleContract 7, rfl⟩
  have hdistinct : (samplePolicies.map (·.address)).Nodup := samplePolicies_distinct
  have hfit : TypesFit [(sampleContractId 8, .threshold)] samplePolicies := by
    intro policy hpolicy
    rcases List.mem_pair.mp hpolicy with rfl | rfl
    · exact Or.inl (by set_option maxRecDepth 20000 in decide)
    · exact Or.inr ⟨rfl, by set_option maxRecDepth 20000 in decide⟩
  obtain ⟨keys, hperm, hincreasing, hall⟩ :=
    policyMaps_canonical samplePolicies hdistinct hvalid
  obtain ⟨-, hbuild, -, -, hmaps⟩ := hall _ (List.reverse_perm _).symm
  obtain ⟨hkeys, scMap, -, hexpected, hexplicit, -⟩ := hmaps _ samplePolicies_build
  exact ⟨keys, _, scMap, hperm, hincreasing, (hbuild _).mpr samplePolicies_build, hkeys,
    hexpected, hexplicit ⟨none⟩ _ hfit⟩

end SmartAccountKit
