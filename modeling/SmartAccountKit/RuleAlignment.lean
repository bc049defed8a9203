import SmartAccountKit.ContextRulesTheorems

/-!
# Rule ids and the invocation tree

The contract matches the rule ids of an entry to its invocations by position.
The ids that are resolved follow the tree in pre-order, one for each invocation,
and do not depend on the order of the rules or of the selected signers.
-/

namespace SmartAccountKit
open Lib

/-! ## Invocations without a context -/

/-- No wasm hash and no convertible reference can be taken from an executable. -/
def ContractExecutable.NoContext : ContractExecutable → Prop
  | .wasm _ => False
  | .stellarAsset => True
  | .externalRef executableOwner _ => executableOwner.toStrkey = none

/-- An invocation has no context: its target or the executable it creates from has none. -/
def SorobanAuthorizedInvocation.NoContext (invocation : SorobanAuthorizedInvocation) : Prop :=
  match invocation.function with
  | .contractFn args => args.contractAddress.toStrkey = none
  | .createContractHostFn args => args.executable.NoContext
  | .createContractV2HostFn args => args.executable.NoContext

theorem extractCreateContractContextType_ne_ok {executable : ContractExecutable}
    (h : executable.NoContext) (contextType : ContextRuleType) :
    extractCreateContractContextType executable ≠ .ok contextType := by
  cases executable with
  | wasm wasmHash => exact absurd h id
  | stellarAsset => exact fun hok => nomatch hok
  | externalRef executableOwner tag =>
    intro hok
    obtain ⟨owner, howner, -⟩ := except_bind_eq_ok.mp hok
    rw [scAddressToString_eq_ok, show executableOwner.toStrkey = none from h] at howner
    exact nomatch howner

theorem invocationContextType_ne_ok {invocation : SorobanAuthorizedInvocation}
    (h : invocation.NoContext) (contextType : ContextRuleType) :
    invocationContextType invocation ≠ .ok contextType := by
  unfold SorobanAuthorizedInvocation.NoContext at h
  unfold invocationContextType
  cases hfunction : invocation.function with
  | contractFn args =>
    rw [hfunction] at h
    intro hok
    obtain ⟨address, haddress, -⟩ := except_bind_eq_ok.mp hok
    rw [scAddressToString_eq_ok, show args.contractAddress.toStrkey = none from h] at haddress
    exact nomatch haddress
  | createContractHostFn args =>
    rw [hfunction] at h
    exact extractCreateContractContextType_ne_ok h contextType
  | createContractV2HostFn args =>
    rw [hfunction] at h
    exact extractCreateContractContextType_ne_ok h contextType

/-! ## Alignment -/

theorem mem_of_mem_preferSpecific {rules : List ContextRule} {rule : ContextRule}
    (h : rule ∈ preferSpecific rules) : rule ∈ rules := by
  unfold preferSpecific at h
  dsimp only at h
  split_ifs at h
  · exact h
  · exact List.mem_of_mem_filter h

/-- The rule that a resolved id belongs to fits the context. -/
theorem resolveContextRuleId_rule {rules : List ContextRule} {selectedSigners : List Signer}
    {contextType : ContextRuleType} {id : UInt32}
    (h : resolveContextRuleId rules selectedSigners contextType = .ok id) :
    ∃ rule ∈ rules, rule.id = id ∧ contextRuleTypeMatches rule.contextType contextType = true := by
  obtain ⟨rule, hid, hstage⟩ := resolveContextRuleId_eq_ok h
  have hcandidate : rule ∈ candidateRules rules contextType := by
    have hsub : ∀ test : ContextRule → Bool,
        preferSpecific ((candidateRules rules contextType).filter test) = [rule] →
          rule ∈ candidateRules rules contextType := by
      intro test hprefer
      have hmem := List.mem_singleton_self rule
      rw [← hprefer] at hmem
      exact List.mem_of_mem_filter (mem_of_mem_preferSpecific hmem)
    rcases hstage with hone | hexact | ⟨-, hsubset⟩
    · rw [hone]
      exact List.mem_singleton_self rule
    · exact hsub _ hexact
    · exact hsub _ hsubset
  have hmem := mem_candidateRules.mp hcandidate
  exact ⟨rule, hmem.1, hid, hmem.2⟩

/-- An id fits an invocation: it is the id of a `Default` rule or of a rule with the type key of
the invocation's context. -/
def RuleIdFits (rules : List ContextRule) (invocation : SorobanAuthorizedInvocation)
    (id : JsNumber) : Prop :=
  ∃ contextType, invocationContextType invocation = .ok contextType ∧
    ∃ rule ∈ rules, id = .ofU32 rule.id ∧ (rule.contextType = .default ∨
      contextRuleTypeKey rule.contextType = contextRuleTypeKey contextType)

/-- The resolved ids fit the invocations of the tree one by one, in pre-order. -/
theorem resolveContextRuleIdsForEntry_forall₂ {entry : SorobanAuthorizationEntry}
    {selectedSigners : List Signer} {rules : List ContextRule} {ids : List JsNumber}
    (h : resolveContextRuleIdsForEntry entry selectedSigners rules = .ok ids) :
    List.Forall₂ (RuleIdFits rules) entry.rootInvocation.nodes ids := by
  obtain ⟨contexts, hcontexts, hids⟩ := except_bind_eq_ok.mp h
  rw [mapM_eq_ok] at hids
  refine forall₂_trans (fun invocation contextType id hcontext hid => ?_)
    (buildInvocationContextTypes_eq_ok.mp hcontexts) hids
  obtain ⟨n, hn, rfl⟩ := except_map_eq_ok.mp hid
  obtain ⟨rule, hrule, rfl, hmatch⟩ := resolveContextRuleId_rule hn
  refine ⟨contextType, hcontext, rule, hrule, rfl, ?_⟩
  simpa [contextRuleTypeMatches] using hmatch

/-- An invocation without a context makes the call fail, wherever it stands in the tree. -/
theorem resolveContextRuleIdsForEntry_noContext {entry : SorobanAuthorizationEntry}
    {invocation : SorobanAuthorizedInvocation} (hmem : invocation ∈ entry.rootInvocation.nodes)
    (hnone : invocation.NoContext) (selectedSigners : List Signer) (rules : List ContextRule) :
    (resolveContextRuleIdsForEntry entry selectedSigners rules).toOption = none := by
  cases h : resolveContextRuleIdsForEntry entry selectedSigners rules with
  | error e => rfl
  | ok ids =>
    obtain ⟨id, -, contextType, hcontext, -⟩ :=
      exists_of_forall₂_left (resolveContextRuleIdsForEntry_forall₂ h) hmem
    exact absurd hcontext (invocationContextType_ne_ok hnone contextType)

/-! ## Order independence -/

theorem preferSpecific_perm {rules rules' : List ContextRule} (h : rules'.Perm rules) :
    (preferSpecific rules').Perm (preferSpecific rules) := by
  have hspecific := h.filter fun rule => decide (rule.contextType ≠ .default)
  unfold preferSpecific
  dsimp only
  rw [hspecific.isEmpty_eq]
  split_ifs
  · exact h
  · exact hspecific

/-- Whether a rule passes a stage does not depend on the order of the selected signers. -/
theorem ruleSignersSelected_perm {selected selected' : List Signer}
    (h : selected'.Perm selected) (rule : ContextRule) :
    ruleSignersSelected selected' rule = ruleSignersSelected selected rule := by
  unfold ruleSignersSelected
  congr 1
  funext ruleSigner
  exact h.any_eq

theorem isExactSignerMatch_perm {selected selected' : List Signer}
    (h : selected'.Perm selected) (rule : ContextRule) :
    isExactSignerMatch selected' rule = isExactSignerMatch selected rule := by
  have hall : selectedSignersInRule selected' rule = selectedSignersInRule selected rule :=
    h.all_eq
  rw [isExactSignerMatch, isExactSignerMatch, h.length_eq, hall, ruleSignersSelected_perm h]

theorem isSignerSubsetMatch_perm {selected selected' : List Signer}
    (h : selected'.Perm selected) (rule : ContextRule) :
    isSignerSubsetMatch selected' rule = isSignerSubsetMatch selected rule := by
  rw [isSignerSubsetMatch, isSignerSubsetMatch, ruleSignersSelected_perm h]

/-- The outcome for one context, failures aside, is the only member of the first stage that has
one member. -/
theorem resolveContextRuleId_toOption (rules : List ContextRule) (selectedSigners : List Signer)
    (contextType : ContextRuleType) :
    (resolveContextRuleId rules selectedSigners contextType).toOption =
      ((onlyMember? (candidateRules rules contextType)).or
        ((onlyMember? (preferSpecific ((candidateRules rules contextType).filter
            (isExactSignerMatch selectedSigners)))).or
          (onlyMember? (preferSpecific ((candidateRules rules contextType).filter
            (isSignerSubsetMatch selectedSigners)))))).map ContextRule.id := by
  unfold resolveContextRuleId
  dsimp only
  rw [← candidateRules]
  split
  · rename_i candidate hcandidate
    rw [hcandidate]
    rfl
  · rename_i hcandidates
    rw [onlyMember?_eq_none hcandidates]
    split
    · rename_i rule hrule
      rw [hrule]
      rfl
    · rename_i hexact
      rw [onlyMember?_eq_none hexact]
      split
      · rename_i rule hrule
        rw [hrule]
        rfl
      · rename_i hsubset
        rw [onlyMember?_eq_none hsubset]
        rfl

/-- The rule for a context does not depend on the order of the rules or of the signers. -/
theorem resolveContextRuleId_perm {rules rules' : List ContextRule}
    {selected selected' : List Signer} (hrules : rules'.Perm rules)
    (hselected : selected'.Perm selected) (contextType : ContextRuleType) :
    (resolveContextRuleId rules' selected' contextType).toOption =
      (resolveContextRuleId rules selected contextType).toOption := by
  have hcandidates : (candidateRules rules' contextType).Perm (candidateRules rules contextType) :=
    hrules.filter _
  have hexact := funext (isExactSignerMatch_perm hselected)
  have hsubset := funext (isSignerSubsetMatch_perm hselected)
  rw [resolveContextRuleId_toOption, resolveContextRuleId_toOption, hexact, hsubset,
    onlyMember?_perm hcandidates,
    onlyMember?_perm (preferSpecific_perm (hcandidates.filter (isExactSignerMatch selected))),
    onlyMember?_perm (preferSpecific_perm (hcandidates.filter (isSignerSubsetMatch selected)))]

theorem resolveContextRuleIdsForEntry_perm {entry : SorobanAuthorizationEntry}
    {rules rules' : List ContextRule} {selected selected' : List Signer}
    (hrules : rules'.Perm rules) (hselected : selected'.Perm selected) :
    (resolveContextRuleIdsForEntry entry selected' rules').toOption =
      (resolveContextRuleIdsForEntry entry selected rules).toOption := by
  unfold resolveContextRuleIdsForEntry
  cases buildInvocationContextTypes entry with
  | error e =>
    -- the steps that are not reached differ
    show (none : Option (List JsNumber)) = none
    rfl
  | ok contexts =>
    apply mapM_toOption_congr
    intro contextType _
    have hid := resolveContextRuleId_perm hrules hselected contextType
    cases h : resolveContextRuleId rules selected contextType with
    | error e =>
      cases h' : resolveContextRuleId rules' selected' contextType with
      | error e' => rfl
      | ok id => rw [h, h'] at hid; exact nomatch hid
    | ok id =>
      rw [h] at hid
      rw [toOption_eq_some.mp hid]

/-- The resolved ids line up with the invocation tree: there are as many as invocations, the id at
each position belongs to a rule that fits the invocation at that position, the outcome depends
neither on the order of the snapshot nor on that of the signers, and an invocation without a
context is never skipped. -/
theorem resolveContextRuleIdsForEntry_aligned (entry : SorobanAuthorizationEntry)
    (selectedSigners : List Signer) (rules : List ContextRule) :
    (∀ ids, resolveContextRuleIdsForEntry entry selectedSigners rules = .ok ids →
      ids.length = entry.rootInvocation.nodes.length ∧
      ∀ (k : ℕ) (invocation : SorobanAuthorizedInvocation) (id : JsNumber),
        entry.rootInvocation.nodes[k]? = some invocation → ids[k]? = some id →
          RuleIdFits rules invocation id) ∧
    (∀ rules' selectedSigners', rules'.Perm rules → selectedSigners'.Perm selectedSigners →
      (resolveContextRuleIdsForEntry entry selectedSigners' rules').toOption =
        (resolveContextRuleIdsForEntry entry selectedSigners rules).toOption) ∧
    ∀ invocation ∈ entry.rootInvocation.nodes, invocation.NoContext →
      (resolveContextRuleIdsForEntry entry selectedSigners rules).toOption = none := by
  refine ⟨fun ids hids => ?_, fun rules' selectedSigners' hrules hselected => ?_, ?_⟩
  · have hfits := resolveContextRuleIdsForEntry_forall₂ hids
    refine ⟨hfits.length_eq.symm, fun k invocation id hinvocation hid => ?_⟩
    exact forall₂_getElem? hfits hinvocation hid
  · exact resolveContextRuleIdsForEntry_perm hrules hselected
  · intro invocation hmem hnone
    exact resolveContextRuleIdsForEntry_noContext hmem hnone selectedSigners rules

end SmartAccountKit
