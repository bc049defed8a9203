import SmartAccountKit.AuthPayloadTheorems
import SmartAccountKit.Policies

/-!
# The order of constructor policies

Policies at distinct addresses give one constructor map, in whatever order they
are listed: each keeps its value, and the host order of the keys has no ties.
-/

namespace SmartAccountKit
open Lib

/-! ## Keys of distinct addresses -/

/-- The keys of texts that differ pairwise do not tie in the host order. -/
theorem addressKeys_pairwise {α β : Type} {R : α → β → Prop} {text : α → String} {key : β → ScVal}
    (hkey : ∀ x y, R x y → ∃ a : ScAddress, a.toStrkey = some (text x) ∧ key y = .address a)
    {xs : List α} {ys : List β} (h : List.Forall₂ R xs ys) (hne : (xs.map text).Nodup) :
    ys.Pairwise fun y z => compareScVal (key y) (key z) ≠ 0 := by
  induction h with
  | nil => exact List.Pairwise.nil
  | cons hxy hrest ih =>
    rw [List.map_cons, List.nodup_cons] at hne
    rw [List.pairwise_cons]
    refine ⟨fun z hz hzero => hne.1 ?_, ih hne.2⟩
    obtain ⟨x', hx', hx'z⟩ := exists_of_forall₂_right hrest hz
    obtain ⟨a, ha, hya⟩ := hkey _ _ hxy
    obtain ⟨b, hb, hzb⟩ := hkey _ _ hx'z
    rw [hya, hzb] at hzero
    rw [eq_of_compareScVal_address ha hb hzero]
    exact List.mem_map_of_mem hx'

/-- The addresses of policies are strkeys. -/
theorem policyAddressToScVal_eq_ok {address : String} {key : ScVal} :
    policyAddressToScVal address = .ok key ↔
      ∃ a : ScAddress, a.toStrkey = some address ∧ key = .address a := by
  simp only [← addressFromString_eq_some]
  unfold policyAddressToScVal
  cases addressFromString address with
  | none => simp
  | some a => simp [eq_comm]

/-! ## The map of a list of policies -/

/-- The entry of a policy in the map. -/
def PolicyConfig.entry (policy : PolicyConfig) : Except JsError (String × ScVal) := do
  return (policy.address, ← policy.scParams)

theorem PolicyConfig.entry_eq_ok {policy : PolicyConfig} {e : String × ScVal} :
    policy.entry = .ok e ↔ e.1 = policy.address ∧ policy.scParams = .ok e.2 := by
  rw [PolicyConfig.entry, except_bind_eq_ok]
  constructor
  · intro ⟨value, hvalue, he⟩
    obtain rfl := Except.ok.inj he
    exact ⟨rfl, hvalue⟩
  · intro ⟨haddress, hvalue⟩
    exact ⟨e.2, hvalue, congrArg _ (Prod.ext haddress.symm rfl)⟩

/-- A new address stands at the end of the map. -/
theorem PolicyMap.set_new {policies : PolicyMap} {address : String} {value : ScVal}
    (h : address ∉ policies.map (·.1)) : policies.set address value = policies ++ [(address, value)] := by
  rw [PolicyMap.set, if_neg]
  intro hany
  obtain ⟨e, he, hsame⟩ := List.any_eq_true.mp hany
  exact h (beq_iff_eq.mp hsame ▸ List.mem_map_of_mem he)

/-- Setting policies at new and distinct addresses appends their entries. -/
theorem foldlM_set_eq_ok {policies : List PolicyConfig} {before map : PolicyMap}
    (hdistinct : (before.map (·.1) ++ policies.map (·.address)).Nodup) :
    policies.foldlM (fun map policy => do
        return PolicyMap.set map policy.address (← policy.scParams)) before = .ok map ↔
      ∃ entries, policies.mapM PolicyConfig.entry = .ok entries ∧ map = before ++ entries := by
  induction policies generalizing before with
  | nil =>
    rw [List.foldlM_nil, List.mapM_nil]
    constructor
    · intro h
      exact ⟨[], rfl, by rw [List.append_nil, Except.ok.inj h]⟩
    · rintro ⟨entries, hentries, hmap⟩
      rw [← Except.ok.inj hentries, List.append_nil] at hmap
      rw [hmap]
      rfl
  | cons policy policies ih =>
    have hnew : policy.address ∉ before.map (·.1) := by
      intro hmem
      exact List.disjoint_of_nodup_append hdistinct hmem List.mem_cons_self
    rw [List.foldlM_cons, List.mapM_cons]
    simp only [except_bind_eq_ok, except_pure_eq_ok]
    have hstep : ∀ value : ScVal, ((before ++ [(policy.address, value)]).map (·.1) ++
        policies.map (·.address)).Nodup := by
      intro value
      rw [List.map_append, List.append_assoc]
      exact hdistinct
    constructor
    · rintro ⟨next, ⟨value, hvalue, hnext⟩, hrest⟩
      rw [← hnext, PolicyMap.set_new hnew, ih (hstep value)] at hrest
      obtain ⟨entries, hentries, hmap⟩ := hrest
      refine ⟨_, ⟨(policy.address, value), PolicyConfig.entry_eq_ok.mpr ⟨rfl, hvalue⟩, entries,
        hentries, rfl⟩, ?_⟩
      rw [hmap, List.append_assoc]
      rfl
    · rintro ⟨_, ⟨entry, hentry, entries, hentries, hall⟩, hmap⟩
      obtain ⟨haddress, hvalue⟩ := PolicyConfig.entry_eq_ok.mp hentry
      refine ⟨_, ⟨entry.2, hvalue, rfl⟩, ?_⟩
      rw [PolicyMap.set_new hnew, ih (hstep entry.2)]
      refine ⟨entries, hentries, ?_⟩
      rw [hmap, ← hall, List.append_assoc, ← haddress]
      rfl

/-! ## The sorted map -/

section sorted

variable {T : Type}

theorem keyedPolicies_eq_ok {policies : List (String × T)} {keyed : List (ScVal × (String × T))} :
    keyedPolicies policies = .ok keyed ↔ List.Forall₂ (fun e k => ∃ a : ScAddress,
      a.toStrkey = some e.1 ∧ k = (.address a, e)) policies keyed := by
  have hkey : ∀ (e : String × T) (k : ScVal × (String × T)),
      (do return (← policyAddressToScVal e.1, e) : Except JsError _) = .ok k ↔
        ∃ a : ScAddress, a.toStrkey = some e.1 ∧ k = (.address a, e) := by
    intro e k
    simp only [except_bind_eq_ok, policyAddressToScVal_eq_ok, except_pure_eq_ok]
    constructor
    · rintro ⟨_, ⟨a, ha, rfl⟩, hk⟩
      exact ⟨a, ha, hk.symm⟩
    · rintro ⟨a, ha, hk⟩
      exact ⟨_, ⟨a, ha, rfl⟩, hk.symm⟩
  rw [keyedPolicies, mapM_eq_ok]
  simp only [hkey]

/-- The keyed entries of distinct addresses do not tie. -/
theorem keyedPolicies_pairwise {policies : List (String × T)} {keyed : List (ScVal × (String × T))}
    (h : keyedPolicies policies = .ok keyed) (hdistinct : (policies.map (·.1)).Nodup) :
    keyed.Pairwise fun a b => compareScVal a.1 b.1 ≠ 0 :=
  addressKeys_pairwise (fun _ _ ⟨a, ha, hk⟩ => ⟨a, ha, congrArg Prod.fst hk⟩)
    (keyedPolicies_eq_ok.mp h) hdistinct

/-- The keyed entries in any order are those of the policies in some order. -/
theorem map_keyedPolicies {policies : List (String × T)} {keyed : List (ScVal × (String × T))}
    (h : keyedPolicies policies = .ok keyed) : keyed.map (·.2) = policies := by
  have hkeyed := keyedPolicies_eq_ok.mp h
  clear h
  induction hkeyed with
  | nil => rfl
  | cons hk hrest ih =>
    obtain ⟨a, -, rfl⟩ := hk
    rw [List.map_cons, ih]

/-- The sorted map has the entries of the unsorted one. -/
theorem sortPolicyMap_perm {policies sorted : List (String × T)}
    (h : sortPolicyMap policies = .ok sorted) : sorted.Perm policies := by
  obtain ⟨keyed, hkeyed, hsorted⟩ := except_bind_eq_ok.mp h
  rw [← Except.ok.inj hsorted]
  have hperm : (sortBy (fun a b => compareScVal a.1 b.1) keyed).Perm keyed := sortBy_perm keyed
  have hentries := hperm.map Prod.snd
  rwa [map_keyedPolicies hkeyed] at hentries

/-- Maps with the same entries at distinct addresses have one sorted map. -/
theorem sortPolicyMap_congr {policies policies' sorted : List (String × T)}
    (hperm : policies.Perm policies') (hdistinct : (policies.map (·.1)).Nodup)
    (h : sortPolicyMap policies = .ok sorted) : sortPolicyMap policies' = .ok sorted := by
  obtain ⟨keyed, hkeyed, hsorted⟩ := except_bind_eq_ok.mp h
  obtain ⟨keyed', hperm', hforall⟩ := forall₂_perm_left (keyedPolicies_eq_ok.mp hkeyed) hperm
  rw [sortPolicyMap, keyedPolicies_eq_ok.mpr hforall, except_ok_bind, ← hsorted]
  have hlawful : ∀ k : ScVal × (String × T), LawfulAt (fun a b => compareScVal a.1 b.1) k :=
    fun k => comap_lawfulAt Prod.fst (compareScVal_lawfulAt k.1)
  rw [sortBy_eq_of_perm hlawful hperm' (keyedPolicies_pairwise hkeyed hdistinct)]

end sorted

/-! ## The constructor map -/

section build

variable {policies policies' : List PolicyConfig} {map : PolicyMap}

theorem buildConstructorPolicies_eq_ok (hdistinct : (policies.map (·.address)).Nodup) :
    buildConstructorPolicies policies = .ok map ↔
      ∃ entries, policies.mapM PolicyConfig.entry = .ok entries ∧
        sortPolicyMap entries = .ok map := by
  rw [buildConstructorPolicies, except_bind_eq_ok]
  have hdistinct' : ((([] : PolicyMap).map (·.1)) ++ policies.map (·.address)).Nodup := hdistinct
  simp only [foldlM_set_eq_ok hdistinct', List.nil_append, exists_eq_right']

theorem mapM_entry_addresses {entries : PolicyMap}
    (h : policies.mapM PolicyConfig.entry = .ok entries) :
    entries.map (·.1) = policies.map (·.address) := by
  have hentries := mapM_eq_ok.mp h
  clear h
  induction hentries with
  | nil => rfl
  | cons hentry hrest ih =>
    rw [List.map_cons, List.map_cons, ih, (PolicyConfig.entry_eq_ok.mp hentry).1]

/-- The map has the addresses of the policies. -/
theorem buildConstructorPolicies_addresses (hdistinct : (policies.map (·.address)).Nodup)
    (h : buildConstructorPolicies policies = .ok map) :
    (map.map (·.1)).Perm (policies.map (·.address)) := by
  obtain ⟨entries, hentries, hsorted⟩ := (buildConstructorPolicies_eq_ok hdistinct).mp h
  rw [← mapM_entry_addresses hentries]
  exact (sortPolicyMap_perm hsorted).map Prod.fst

/-- The order in which policies are listed does not matter. -/
theorem buildConstructorPolicies_congr (hperm : policies.Perm policies')
    (hdistinct : (policies.map (·.address)).Nodup)
    (h : buildConstructorPolicies policies = .ok map) :
    buildConstructorPolicies policies' = .ok map := by
  obtain ⟨entries, hentries, hsorted⟩ := (buildConstructorPolicies_eq_ok hdistinct).mp h
  obtain ⟨entries', hperm', hforall⟩ := forall₂_perm_left (mapM_eq_ok.mp hentries) hperm
  have hdistinct' : (policies'.map (·.address)).Nodup := (hperm.map _).nodup_iff.mp hdistinct
  refine (buildConstructorPolicies_eq_ok hdistinct').mpr ⟨entries', mapM_eq_ok.mpr hforall, ?_⟩
  refine sortPolicyMap_congr hperm' ?_ hsorted
  rw [mapM_entry_addresses hentries]
  exact hdistinct

end build

/-! ## Sample policies -/

/-- Two sample policies, the second address before the first for the host. -/
def samplePolicies : List PolicyConfig :=
  [{ address := sampleContractId 8, installParams := .threshold (.bigint 2) },
    { address := sampleContractId 7, installParams := .custom (.scVal .void) }]

/-- The parameters of the first one. -/
def sampleThreshold : ScVal := .map (some [symbolEntry "threshold" (.u32 2)])

theorem samplePolicies_distinct : (samplePolicies.map (·.address)).Nodup := by
  set_option maxRecDepth 20000 in decide

theorem samplePolicies_build : buildConstructorPolicies samplePolicies =
    .ok [(sampleContractId 7, .void), (sampleContractId 8, sampleThreshold)] := by
  have hkeyed : keyedPolicies [(sampleContractId 8, sampleThreshold), (sampleContractId 7, .void)] =
      .ok [(.address (sampleContract 8), (sampleContractId 8, sampleThreshold)),
        (.address (sampleContract 7), (sampleContractId 7, .void))] :=
    keyedPolicies_eq_ok.mpr (.cons ⟨_, sampleContract_toStrkey 8, rfl⟩
      (.cons ⟨_, sampleContract_toStrkey 7, rfl⟩ .nil))
  refine (buildConstructorPolicies_eq_ok samplePolicies_distinct).mpr
    ⟨[(sampleContractId 8, sampleThreshold), (sampleContractId 7, .void)], rfl, ?_⟩
  rw [sortPolicyMap, hkeyed, except_ok_bind]
  rfl

end SmartAccountKit
