import SmartAccountKit.AuthEntry
import SmartAccountKit.ContextRules
import SmartAccountKit.Lib.Lists

/-!
# Theorems about the choice of context rules

Which rule each stage of the choice settles on, and exactly when a rule scoped
to a context is chosen over a `Default` rule.
-/

namespace SmartAccountKit
open Lib

/-! ## The walk over the tree -/

mutual

/-- The walk adds the contexts of the nodes in pre-order. -/
theorem walkInvocation_eq (invocation : SorobanAuthorizedInvocation)
    (contexts : List ContextRuleType) :
    walkInvocation invocation contexts =
      (contexts ++ ·) <$> invocation.nodes.mapM invocationContextType := by
  cases invocation with
  | node function subs =>
    rw [walkInvocation, SorobanAuthorizedInvocation.nodes, List.mapM_cons]
    cases invocationContextType (.node function subs) with
    | error e => rfl
    | ok contextType =>
      rw [except_ok_bind, except_ok_bind, walkInvocations_eq subs]
      cases (SorobanAuthorizedInvocation.nodesOfAll subs).mapM invocationContextType with
      | error e => rfl
      | ok rest =>
        show Except.ok (contexts ++ [contextType] ++ rest) = .ok (contexts ++ contextType :: rest)
        rw [List.append_assoc, List.singleton_append]

theorem walkInvocations_eq (invocations : List SorobanAuthorizedInvocation)
    (contexts : List ContextRuleType) :
    walkInvocations invocations contexts =
      (contexts ++ ·) <$>
        (SorobanAuthorizedInvocation.nodesOfAll invocations).mapM invocationContextType := by
  cases invocations with
  | nil =>
    rw [walkInvocations, SorobanAuthorizedInvocation.nodesOfAll]
    show Except.ok contexts = .ok (contexts ++ [])
    rw [List.append_nil]
  | cons sub subs =>
    rw [walkInvocations, walkInvocation_eq sub, SorobanAuthorizedInvocation.nodesOfAll,
      List.mapM_append]
    cases sub.nodes.mapM invocationContextType with
    | error e => rfl
    | ok first =>
      show walkInvocations subs (contexts ++ first) = _
      rw [walkInvocations_eq subs, except_ok_bind]
      cases (SorobanAuthorizedInvocation.nodesOfAll subs).mapM invocationContextType with
      | error e => rfl
      | ok rest =>
        show Except.ok (contexts ++ first ++ rest) = .ok (contexts ++ (first ++ rest))
        rw [List.append_assoc]

end

/-- An entry has one context for each node of its tree, in pre-order. -/
theorem buildInvocationContextTypes_eq_ok {entry : SorobanAuthorizationEntry}
    {contexts : List ContextRuleType} :
    buildInvocationContextTypes entry = .ok contexts ↔
      List.Forall₂ (fun invocation contextType => invocationContextType invocation = .ok contextType)
        entry.rootInvocation.nodes contexts := by
  rw [← mapM_eq_ok, buildInvocationContextTypes, walkInvocation_eq]
  cases entry.rootInvocation.nodes.mapM invocationContextType with
  | error e => exact Iff.rfl
  | ok found =>
    show Except.ok ([] ++ found) = .ok contexts ↔ _
    rw [List.nil_append]

/-! ## The three stages -/

/-- The rules whose type fits a context. -/
def candidateRules (rules : List ContextRule) (contextType : ContextRuleType) :
    List ContextRule :=
  rules.filter fun rule => contextRuleTypeMatches rule.contextType contextType

/-- The scoped rules for a context that pass a test. -/
def scopedCandidates (rules : List ContextRule) (contextType : ContextRuleType)
    (test : ContextRule → Bool) : List ContextRule :=
  ((candidateRules rules contextType).filter test).filter fun rule => rule.contextType ≠ .default

/-- The `Default` rules that pass a test. -/
def defaultCandidates (rules : List ContextRule) (test : ContextRule → Bool) :
    List ContextRule :=
  (rules.filter test).filter fun rule => rule.contextType = .default

theorem mem_candidateRules {rules : List ContextRule} {contextType : ContextRuleType}
    {rule : ContextRule} : rule ∈ candidateRules rules contextType ↔
      rule ∈ rules ∧ contextRuleTypeMatches rule.contextType contextType = true := by
  rw [candidateRules, List.mem_filter]

theorem contextRuleTypeMatches_default (contextType : ContextRuleType) :
    contextRuleTypeMatches .default contextType = true := by
  simp [contextRuleTypeMatches]

theorem contextRuleTypeMatches_self (contextType : ContextRuleType) :
    contextRuleTypeMatches contextType contextType = true := by
  simp [contextRuleTypeMatches]

/-- Every `Default` rule that passes a test is a candidate for every context. -/
theorem defaultCandidates_eq (rules : List ContextRule) (contextType : ContextRuleType)
    (test : ContextRule → Bool) : defaultCandidates rules test =
      ((candidateRules rules contextType).filter test).filter
        fun rule => rule.contextType = .default := by
  rw [defaultCandidates, candidateRules, List.filter_filter, List.filter_filter,
    List.filter_filter]
  refine List.filter_congr fun rule _ => ?_
  by_cases h : rule.contextType = .default
  · simp [h, contextRuleTypeMatches_default]
  · simp [h]

/-- A list of rules prefers one rule if it is the only scoped rule, or if no rule is scoped and
it is the only rule. -/
theorem preferSpecific_eq_singleton {rules : List ContextRule} {rule : ContextRule} :
    preferSpecific rules = [rule] ↔
      (rules.filter fun r => r.contextType ≠ .default) = [rule] ∨
        (rules.filter fun r => r.contextType ≠ .default) = [] ∧
          (rules.filter fun r => r.contextType = .default) = [rule] := by
  unfold preferSpecific
  dsimp only
  by_cases hnone : (rules.filter fun r => r.contextType ≠ .default) = []
  · have hall : (rules.filter fun r => r.contextType = .default) = rules := by
      refine List.filter_eq_self.mpr fun r hr => ?_
      simpa using (List.filter_eq_nil_iff.mp hnone) r hr
    rw [hnone, hall]
    simp
  · rw [if_neg (by simpa using hnone)]
    exact ⟨Or.inl, fun h => h.elim id fun h => absurd h.1 hnone⟩

theorem preferSpecific_length_eq_one {rules : List ContextRule} :
    (preferSpecific rules).length = 1 ↔
      (rules.filter fun r => r.contextType ≠ .default).length = 1 ∨
        (rules.filter fun r => r.contextType ≠ .default) = [] ∧
          (rules.filter fun r => r.contextType = .default).length = 1 := by
  simp only [List.length_eq_one_iff, preferSpecific_eq_singleton, exists_or, exists_and_left]

/-- What each stage returns. -/
theorem resolveContextRuleId_eq_ok {rules : List ContextRule} {selectedSigners : List Signer}
    {contextType : ContextRuleType} {id : UInt32}
    (h : resolveContextRuleId rules selectedSigners contextType = .ok id) :
    ∃ rule, rule.id = id ∧ (candidateRules rules contextType = [rule] ∨
      preferSpecific ((candidateRules rules contextType).filter
        (isExactSignerMatch selectedSigners)) = [rule] ∨
      (preferSpecific ((candidateRules rules contextType).filter
        (isExactSignerMatch selectedSigners))).length ≠ 1 ∧
      preferSpecific ((candidateRules rules contextType).filter
        (isSignerSubsetMatch selectedSigners)) = [rule]) := by
  unfold resolveContextRuleId at h
  dsimp only at h
  split at h
  · rename_i candidate hcandidate
    exact ⟨candidate, Except.ok.inj h, Or.inl hcandidate⟩
  · split at h
    · rename_i rule hrule
      exact ⟨rule, Except.ok.inj h, Or.inr (Or.inl hrule)⟩
    · rename_i hexact
      split at h
      · rename_i rule hrule
        refine ⟨rule, Except.ok.inj h, Or.inr (Or.inr ⟨fun hone => ?_, hrule⟩)⟩
        obtain ⟨r, hr⟩ := List.length_eq_one_iff.mp hone
        exact hexact r hr
      · exact nomatch h

/-- Where a scoped rule and a `Default` rule fit a context, the choice is a scoped rule that is
alone in its stage, or a `Default` rule that is alone in a stage no scoped rule reaches. -/
theorem resolveContextRuleId_stage {rules : List ContextRule} {selectedSigners : List Signer}
    {contextType : ContextRuleType} {id : UInt32}
    (h : resolveContextRuleId rules selectedSigners contextType = .ok id)
    {specific fallback : ContextRule} (hspecific : specific ∈ rules)
    (htype : specific.contextType = contextType) (hne : specific.contextType ≠ .default)
    (hfallback : fallback ∈ rules) (hdefault : fallback.contextType = .default) :
    let exact := scopedCandidates rules contextType (isExactSignerMatch selectedSigners)
    let exactDefault := defaultCandidates rules (isExactSignerMatch selectedSigners)
    let subset := scopedCandidates rules contextType (isSignerSubsetMatch selectedSigners)
    let subsetDefault := defaultCandidates rules (isSignerSubsetMatch selectedSigners)
    ∃ rule, rule.id = id ∧ (exact = [rule] ∨ exact = [] ∧ exactDefault = [rule] ∨
      exact.length ≠ 1 ∧ (exact ≠ [] ∨ exactDefault.length ≠ 1) ∧
        (subset = [rule] ∨ subset = [] ∧ subsetDefault = [rule])) := by
  dsimp only
  rw [defaultCandidates_eq rules contextType, defaultCandidates_eq rules contextType]
  obtain ⟨rule, hid, hstage⟩ := resolveContextRuleId_eq_ok h
  refine ⟨rule, hid, ?_⟩
  rcases hstage with hone | hexact | ⟨hexact, hsubset⟩
  · have hmem : ∀ r ∈ candidateRules rules contextType, r = rule := by simp [hone]
    have hs := hmem specific (mem_candidateRules.mpr
      ⟨hspecific, by rw [htype]; exact contextRuleTypeMatches_self contextType⟩)
    have hf := hmem fallback (mem_candidateRules.mpr
      ⟨hfallback, by rw [hdefault]; exact contextRuleTypeMatches_default contextType⟩)
    rw [hs, ← hf] at hne
    exact absurd hdefault hne
  · rcases preferSpecific_eq_singleton.mp hexact with hrule | hrule
    · exact Or.inl hrule
    · exact Or.inr (Or.inl hrule)
  · rw [ne_eq, preferSpecific_length_eq_one, not_or, not_and_or] at hexact
    exact Or.inr (Or.inr ⟨hexact.1, hexact.2, preferSpecific_eq_singleton.mp hsubset⟩)

/-! ## When the specific rule wins -/

/-- The id chosen for a context is no `Default` rule's id if some scoped rule of the snapshot has
the context's type and all the selected signers. -/
def SpecificRuleWins (rules : List ContextRule) (selectedSigners : List Signer)
    (contextType : ContextRuleType) (id : JsNumber) : Prop :=
  (∃ rule ∈ rules, rule.contextType ≠ .default ∧ rule.contextType = contextType ∧
    ∀ signer ∈ selectedSigners, signer ∈ rule.signers) →
  ∀ fallback ∈ rules, fallback.contextType = .default → JsNumber.ofU32 fallback.id ≠ id

/-- Beside a `Default` rule, either one scoped rule has exactly the selected signers, or several
scoped rules or no single `Default` rule do and a scoped rule without policies has selected
signers only; and the `Default` rule shares no id with these rules. -/
def ScopedRulePrevails (rules : List ContextRule) (selectedSigners : List Signer)
    (contextType : ContextRuleType) (fallback : ContextRule) : Prop :=
  let exact := scopedCandidates rules contextType (isExactSignerMatch selectedSigners)
  let exactDefault := defaultCandidates rules (isExactSignerMatch selectedSigners)
  let subset := scopedCandidates rules contextType (isSignerSubsetMatch selectedSigners)
  (exact.length = 1 ∧ ∀ rule ∈ exact, fallback.id ≠ rule.id) ∨
  (exact.length ≠ 1 ∧ (exact ≠ [] ∨ exactDefault.length ≠ 1) ∧ subset ≠ [] ∧
    ∀ rule ∈ subset, fallback.id ≠ rule.id)

/-- The condition under which the choice for a context prefers the specific rule. -/
def SpecificRulePreferred (rules : List ContextRule) (selectedSigners : List Signer)
    (contextType : ContextRuleType) : Prop :=
  (∃ rule ∈ rules, rule.contextType ≠ .default ∧ rule.contextType = contextType ∧
    ∀ signer ∈ selectedSigners, signer ∈ rule.signers) →
  ∀ fallback ∈ rules, fallback.contextType = .default →
    ScopedRulePrevails rules selectedSigners contextType fallback

theorem specificRuleWins_iff {rules : List ContextRule} {selectedSigners : List Signer}
    {contextType : ContextRuleType} {id : UInt32}
    (h : resolveContextRuleId rules selectedSigners contextType = .ok id) :
    SpecificRuleWins rules selectedSigners contextType (.ofU32 id) ↔
      SpecificRulePreferred rules selectedSigners contextType := by
  refine forall_congr' fun ⟨specific, hspecific, hne, htype, _⟩ => ?_
  have hmem : ∀ {test rule}, defaultCandidates rules test = [rule] →
      rule ∈ rules ∧ rule.contextType = .default := by
    intro test rule hrule
    have := List.mem_singleton_self rule
    rw [← hrule, defaultCandidates, List.mem_filter, List.mem_filter] at this
    exact ⟨this.1.1, by simpa using this.2⟩
  have hids : ∀ fallback : ContextRule, JsNumber.ofU32 fallback.id ≠ .ofU32 id ↔ fallback.id ≠ id :=
    fun fallback => not_congr ⟨JsNumber.ofU32_inj, congrArg JsNumber.ofU32⟩
  simp only [hids]
  constructor
  · intro hwins fallback hfallback hdefault
    obtain ⟨rule, rfl, hstage⟩ :=
      resolveContextRuleId_stage h hspecific htype hne hfallback hdefault
    rcases hstage with hexact | ⟨-, hrule⟩ | ⟨hone, hno, hsubset | ⟨-, hrule⟩⟩
    · exact Or.inl ⟨by rw [hexact]; rfl, by simpa [hexact] using hwins fallback hfallback hdefault⟩
    · exact absurd rfl (hwins rule (hmem hrule).1 (hmem hrule).2)
    · exact Or.inr ⟨hone, hno, by rw [hsubset]; simp,
        by simpa [hsubset] using hwins fallback hfallback hdefault⟩
    · exact absurd rfl (hwins rule (hmem hrule).1 (hmem hrule).2)
  · intro hprevails fallback hfallback hdefault
    obtain ⟨rule, rfl, hstage⟩ :=
      resolveContextRuleId_stage h hspecific htype hne hfallback hdefault
    rcases hprevails fallback hfallback hdefault with ⟨hone, hids⟩ | ⟨hone, hno, hsome, hids⟩
    · rcases hstage with hexact | ⟨hexact, -⟩ | ⟨hone', -⟩
      · exact hids rule (by rw [hexact]; exact List.mem_singleton_self rule)
      · rw [hexact] at hone
        exact absurd hone (by decide)
      · exact absurd hone hone'
    · rcases hstage with hexact | ⟨hexact, hrule⟩ | ⟨-, -, hsubset | ⟨hsubset, -⟩⟩
      · exact absurd (by rw [hexact]; rfl) hone
      · exact absurd (by rw [hrule]; rfl) (hno.resolve_left (not_not.mpr hexact))
      · exact hids rule (by rw [hsubset]; exact List.mem_singleton_self rule)
      · exact absurd hsubset hsome

/-- The rules chosen for an entry are the specific ones exactly when the condition holds at each
of its contexts. -/
theorem resolveContextRuleIdsForEntry_specific_iff {entry : SorobanAuthorizationEntry}
    {selectedSigners : List Signer} {rules : List ContextRule} {ids : List JsNumber}
    (h : resolveContextRuleIdsForEntry entry selectedSigners rules = .ok ids) :
    ∃ contexts, buildInvocationContextTypes entry = .ok contexts ∧
      (List.Forall₂ (SpecificRuleWins rules selectedSigners) contexts ids ↔
        ∀ contextType ∈ contexts, SpecificRulePreferred rules selectedSigners contextType) := by
  obtain ⟨contexts, hcontexts, hids⟩ := except_bind_eq_ok.mp h
  refine ⟨contexts, hcontexts, ?_⟩
  rw [mapM_eq_ok] at hids
  clear h hcontexts
  induction hids with
  | nil => simp
  | cons hid _ ih =>
    obtain ⟨n, hn, rfl⟩ := except_map_eq_ok.mp hid
    rw [List.forall₂_cons, List.forall_mem_cons, specificRuleWins_iff hn, ih]

/-- A `Default` rule with the selected signer, and a rule scoped to the called token with a policy
and one more signer. -/
def sampleRules : List ContextRule :=
  [{ id := 0, contextType := .default, signers := [sampleSigner 1], policies := [],
     validUntil := none },
   { id := 1, contextType := .callContract (sampleContractId 9),
     signers := [sampleSigner 1, sampleSigner 2], policies := [sampleContractId 12], validUntil := none }]

theorem sampleRules_resolve :
    resolveContextRuleIdsForEntry sampleEntry [sampleSigner 1] sampleRules =
      .ok [.ofU32 0] := by
  set_option maxRecDepth 20000 in decide

/-- The `Default` rule is chosen although the scoped rule has the selected signer. -/
theorem resolveContextRuleIdsForEntry_default_chosen :
    ∃ entry selectedSigners rules ids contexts, selectedSigners ≠ [] ∧
      resolveContextRuleIdsForEntry entry selectedSigners rules = .ok ids ∧
      buildInvocationContextTypes entry = .ok contexts ∧
      ¬List.Forall₂ (SpecificRuleWins rules selectedSigners) contexts ids := by
  refine ⟨sampleEntry, [sampleSigner 1], sampleRules, [.ofU32 0],
    [.callContract (sampleContractId 9)], by simp, sampleRules_resolve,
    by rfl, fun hall => ?_⟩
  cases hall with
  | cons hwins _ =>
    refine hwins ⟨_, List.mem_cons_of_mem _ List.mem_cons_self, ?_, rfl, ?_⟩ _ List.mem_cons_self
      rfl rfl
    · exact fun h => nomatch h
    · simp

/-- With one signer on both rules, the scoped rule is chosen. -/
theorem resolveContextRuleIdsForEntry_specific_iff_sample :
    ∃ contexts, buildInvocationContextTypes sampleEntry = .ok contexts ∧
      (List.Forall₂ (SpecificRuleWins
          (sampleRules.map fun rule => { rule with signers := [sampleSigner 1] })
          [sampleSigner 1]) contexts [.ofU32 1] ↔
        ∀ contextType ∈ contexts, SpecificRulePreferred
          (sampleRules.map fun rule => { rule with signers := [sampleSigner 1] })
          [sampleSigner 1] contextType) :=
  resolveContextRuleIdsForEntry_specific_iff (by set_option maxRecDepth 20000 in decide)

end SmartAccountKit
