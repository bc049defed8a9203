import SmartAccountKit.ContextRulesTheorems
import SmartAccountKit.Lib.Lists
import SmartAccountKit.MultiSignerTheorems
import Mathlib.Data.List.Dedup

/-!
# The rules that two signing paths choose

The passkey path of the kit and the multi-signer path resolve rules from two
listings: only the first one probes rule ids on-chain. They choose the same
rules where the indexer lists every active rule that the probe finds.
-/

namespace SmartAccountKit
open Lib

/-! ## The chain and the indexer -/

/-- The context rules of a wallet on-chain, each under its id, and the ledger they are read at. -/
structure ChainState where
  rule : UInt32 → Option ContextRule
  id_eq : ∀ id r, rule id = some r → r.id = id
  latestLedger : UInt32

/-- The rule with an id of any size. -/
def ChainState.ruleAt (chain : ChainState) (n : ℕ) : Option ContextRule :=
  if n < 2 ^ 32 then chain.rule (UInt32.ofNat n) else none

/-- An environment that answers from a chain and from what the indexer gives. -/
structure Serves (reply : (r : Request) → Reply r) (contractId : String) (chain : ChainState)
    (indexer : Except JsError (Option (List UInt32))) : Prop where
  found : ∀ id r, chain.rule id = some r → reply (.readContextRule id) = .ok r
  missing : ∀ id, chain.rule id = none → ∃ e, reply (.readContextRule id) = .error e ∧
    isMissingContextRuleError e = true
  ledger : reply .getLatestLedger = .ok chain.latestLedger
  details : reply (.getContractDetailsFromIndexer contractId) = indexer

/-- The active rules among given ids, in the order of their ids. -/
def visibleRules (chain : ChainState) (ids : List UInt32) : List ContextRule :=
  activeRules chain.latestLedger ((sortBy compareIds ids.dedup).map chain.rule)

/-! ## Sorted rules -/

theorem compareIds_lawfulAt (a : UInt32) : LawfulAt compareIds a where
  antisymm b := by
    rw [← Int.sign_neg, compareIds, compareIds, Int.neg_sub]
  trans b c hab hbc := by
    unfold compareIds at *
    omega

theorem compareIds_eq_zero {a b : UInt32} : compareIds a b = 0 ↔ a = b := by
  rw [compareIds, ← UInt32.toNat_inj]
  omega

theorem compareRules_lawfulAt (a : ContextRule) : LawfulAt compareRules a :=
  comap_lawfulAt ContextRule.id (compareIds_lawfulAt a.id)

theorem mem_activeRules {ledger : UInt32} {rules : List (Option ContextRule)} {r : ContextRule} :
    r ∈ activeRules ledger rules ↔ some r ∈ rules ∧ r.activeAt ledger = true := by
  simp [activeRules]

theorem mem_visibleRules {chain : ChainState} {ids : List UInt32} {r : ContextRule} :
    r ∈ visibleRules chain ids ↔
      r.id ∈ ids ∧ chain.rule r.id = some r ∧ r.activeAt chain.latestLedger = true := by
  simp only [visibleRules, mem_activeRules, List.mem_map, mem_sortBy, List.mem_dedup]
  constructor
  · rintro ⟨⟨id, hid, hrule⟩, hactive⟩
    have hsame := chain.id_eq id r hrule
    rw [hsame]
    exact ⟨hid, hrule, hactive⟩
  · rintro ⟨hid, hrule, hactive⟩
    exact ⟨⟨r.id, hid, hrule⟩, hactive⟩

/-- The rules under distinct ids have distinct ids. -/
theorem rules_pairwise (chain : ChainState) {ids : List UInt32} (hids : ids.Nodup) :
    ((ids.map chain.rule).filterMap id).Pairwise fun a b => compareRules a b ≠ 0 := by
  rw [List.filterMap_map, Function.id_comp, List.pairwise_filterMap]
  refine hids.imp fun {a b} hne r hr r' hr' => ?_
  rw [compareRules, Ne, compareIds_eq_zero, chain.id_eq a r hr, chain.id_eq b r' hr']
  exact hne

/-- Two lists of ids with the same active rules show the same rules. -/
theorem visibleRules_congr {chain : ChainState} {ids ids' : List UInt32}
    (h : ∀ id r, chain.rule id = some r → r.activeAt chain.latestLedger = true →
      (id ∈ ids ↔ id ∈ ids')) : visibleRules chain ids = visibleRules chain ids' := by
  have hdistinct : ∀ ids : List UInt32,
      (((sortBy compareIds ids.dedup).map chain.rule).filterMap id).Pairwise
        fun a b => compareRules a b ≠ 0 := fun ids =>
    rules_pairwise chain ((sortBy_perm ids.dedup).nodup_iff.mpr (List.nodup_dedup ids))
  have hnodup : ∀ ids : List UInt32, ((((sortBy compareIds ids.dedup).map chain.rule).filterMap
      id).filter (ContextRule.activeAt chain.latestLedger)).Nodup := by
    intro ids
    refine ((hdistinct ids).filter _).imp fun {a b} hne hab => hne ?_
    rw [hab, compareRules, compareIds_eq_zero]
  unfold visibleRules activeRules
  refine sortBy_eq_of_perm compareRules_lawfulAt ?_ ((hdistinct ids).filter _)
  refine (List.perm_ext_iff_of_nodup (hnodup ids) (hnodup ids')).mpr fun r => ?_
  have hmem : ∀ ids : List UInt32, r ∈ (((sortBy compareIds ids.dedup).map chain.rule).filterMap
      id).filter (ContextRule.activeAt chain.latestLedger) ↔ r ∈ visibleRules chain ids := by
    intro ids
    rw [visibleRules, activeRules, mem_sortBy]
  rw [hmem, hmem, mem_visibleRules, mem_visibleRules]
  exact and_congr_left fun ⟨hrule, hactive⟩ => h r.id r hrule hactive

/-! ## The probe -/

/-- The limits of a probe. -/
def ProbeRuleIds.lastId (probeConfig : ProbeRuleIds) : ℕ :=
  probeConfig.maxRuleId.getD DEFAULT_MAX_PROBED_RULE_ID

def ProbeRuleIds.missLimit (probeConfig : ProbeRuleIds) : ℕ :=
  probeConfig.maxConsecutiveMisses.getD DEFAULT_MAX_CONSECUTIVE_PROBE_MISSES

/-- A probe that gives up after `limit` misses in a row gets to the id `n`: there is a rule in every
stretch of that many ids below it. -/
def ProbeReaches (chain : ChainState) (limit n : ℕ) : Prop :=
  ∀ j, j + max limit 1 ≤ n → ∃ k, j ≤ k ∧ k < j + max limit 1 ∧ (chain.ruleAt k).isSome = true

/-- What a probe of the ids below `n` has read. -/
structure ProbeInvariant (chain : ChainState) (limit n : ℕ) (probe : RuleProbe) : Prop where
  rules : ∀ r ∈ probe.probedRules, ∃ k < n, chain.ruleAt k = some r ∧ ProbeReaches chain limit k
  goesOn : probe.stopped = false → ProbeReaches chain limit n ∧ probe.misses < max limit 1 ∧
    probe.misses ≤ n ∧
    (probe.misses = n ∨ (chain.ruleAt (n - probe.misses - 1)).isSome = true)

/-- Reading one more id. -/
theorem ProbeInvariant.record {chain : ChainState} {limit n : ℕ} {probe : RuleProbe}
    (h : ProbeInvariant chain limit n probe) (hgoesOn : probe.stopped = false)
    {read : Except JsError ContextRule}
    (hread : ∀ r, read = .ok r ↔ chain.ruleAt n = some r) :
    ProbeInvariant chain limit (n + 1) (probe.record limit read) := by
  obtain ⟨hreaches, hlimit, hle, hlast⟩ := h.goesOn hgoesOn
  cases read with
  | ok r =>
    have hrule := (hread r).mp rfl
    refine ⟨fun r' hr' => ?_, fun _ => ⟨fun j hj => ?_, by show 0 < _; omega, Nat.zero_le _, ?_⟩⟩
    · rcases List.mem_cons.mp hr' with rfl | hr'
      · exact ⟨n, Nat.lt_succ_self n, hrule, hreaches⟩
      · obtain ⟨k, hk, hrule', hreaches'⟩ := h.rules r' hr'
        exact ⟨k, by omega, hrule', hreaches'⟩
    · by_cases hbelow : j + max limit 1 ≤ n
      · exact hreaches j hbelow
      · exact ⟨n, by omega, by omega, by rw [hrule]; rfl⟩
    · exact Or.inr (by show (chain.ruleAt n).isSome = true; rw [hrule]; rfl)
  | error e =>
    refine ⟨fun r' hr' => ?_, fun hstopped => ?_⟩
    · obtain ⟨k, hk, hrule', hreaches'⟩ := h.rules r' hr'
      exact ⟨k, by omega, hrule', hreaches'⟩
    -- a miss that does not end the probe: the last rule is still within reach
    have hmore : probe.misses + 1 < limit := by
      simpa [RuleProbe.record] using hstopped
    have hmisses : (probe.record limit (.error e)).misses = probe.misses + 1 := rfl
    rw [hmisses]
    refine ⟨fun j hj => ?_, by omega, by omega, ?_⟩
    · by_cases hbelow : j + max limit 1 ≤ n
      · exact hreaches j hbelow
      · rcases hlast with hall | hsome
        · omega
        · exact ⟨n - probe.misses - 1, by omega, by omega, hsome⟩
    · refine hlast.imp (fun hall => by omega) fun hsome => ?_
      rwa [show n + 1 - (probe.misses + 1) - 1 = n - probe.misses - 1 by omega]

/-- Reading the rule with an id of any size: one that is no `u32` cannot be encoded. -/
theorem readContextRule_ofNat (n : ℕ) :
    readContextRule (.ofNat n) = if n < 2 ^ 32
      then Program.await (Request.readContextRule (UInt32.ofNat n)) (·)
      else Program.throw invalidU32 := by
  split_ifs with hn
  · have hnumber : JsNumber.ofNat n = .ofU32 (UInt32.ofNat n) := by
      rw [JsNumber.ofNat, JsNumber.ofU32, UInt32.toNat_ofNat_of_lt' hn]
    rw [hnumber, readContextRule_ofU32]
  · have hnone : (JsNumber.ofNat n).toU32 = none := by
      rw [JsNumber.ofNat, JsNumber.toU32, if_neg]
      simp only [Rat.num_natCast, not_and, not_lt]
      omega
    rw [readContextRule, ruleIdToU32, hnone]
    rfl

section listing

variable {reply : (r : Request) → Reply r} {contractId : String} {chain : ChainState}
  {indexer : Except JsError (Option (List UInt32))}

/-- Reading a rule gives the rule on-chain, or fails if there is none. -/
theorem answer_readContextRule_ofNat (h : Serves reply contractId chain indexer) (n : ℕ)
    (r : ContextRule) :
    Program.answer reply (readContextRule (.ofNat n)) = .ok r ↔ chain.ruleAt n = some r := by
  rw [readContextRule_ofNat]
  by_cases hn : n < 2 ^ 32
  · rw [ChainState.ruleAt, if_pos hn, if_pos hn, Program.answer_await]
    cases hrule : chain.rule (UInt32.ofNat n) with
    | some r' => simp [h.found _ r' hrule]
    | none =>
      obtain ⟨e, he, -⟩ := h.missing _ hrule
      simp [he]
  · rw [ChainState.ruleAt, if_neg hn, if_neg hn, Program.answer_throw]
    exact iff_of_false (fun h => by cases h) (fun h => by cases h)

/-- A probe reads rules of the chain that it reaches. -/
theorem answer_probeContextRules (h : Serves reply contractId chain indexer)
    (probeConfig : ProbeRuleIds) :
    ∃ probedRules, Program.answer reply (probeContextRules probeConfig) = .ok probedRules ∧
      ∀ r ∈ probedRules, ∃ k ≤ probeConfig.lastId, chain.ruleAt k = some r ∧
        ProbeReaches chain probeConfig.missLimit k := by
  have hloop : ∀ n, ∃ probe, Program.answer reply (Program.forEach (List.range n) RuleProbe.start
      (probeContextRule probeConfig.missLimit)) = .ok probe ∧
      ProbeInvariant chain probeConfig.missLimit n probe := by
    intro n
    induction n with
    | zero =>
      exact ⟨RuleProbe.start, rfl, fun r hr => absurd hr List.not_mem_nil, fun _ =>
        ⟨fun j hj => by omega, by show 0 < _; omega, Nat.zero_le _, Or.inl rfl⟩⟩
    | succ n ih =>
      obtain ⟨probe, hanswer, hprobe⟩ := ih
      rw [Program.answer_forEach] at hanswer ⊢
      rw [List.range_succ, List.foldlM_append, hanswer, except_ok_bind, List.foldlM_cons]
      simp only [List.foldlM_nil, bind_pure]
      by_cases hstopped : probe.stopped = true
      · refine ⟨probe, by rw [probeContextRule, if_pos hstopped]; rfl, fun r hr => ?_, fun h => ?_⟩
        · obtain ⟨k, hk, hrule⟩ := hprobe.rules r hr
          exact ⟨k, by omega, hrule⟩
        · rw [hstopped] at h
          cases h
      · refine ⟨_, ?_, hprobe.record (Bool.not_eq_true _ ▸ hstopped)
          (answer_readContextRule_ofNat h n)⟩
        rw [probeContextRule, if_neg hstopped, Program.bind_eq, Program.answer_bind,
          Program.answer_attempt]
        rfl
  obtain ⟨probe, hanswer, hprobe⟩ := hloop (probeConfig.lastId + 1)
  refine ⟨probe.probedRules, ?_, fun r hr => ?_⟩
  · rw [probeContextRules, Program.bind_eq, Program.answer_bind]
    exact except_bind_eq_ok.mpr ⟨probe, hanswer, rfl⟩
  · obtain ⟨k, hk, hrule⟩ := hprobe.rules r hr
    exact ⟨k, by omega, hrule⟩

/-- Reading an id that was found gives the rule on-chain, if it is still there. -/
theorem answer_readDiscoveredRule (h : Serves reply contractId chain indexer)
    {probedRules : List ContextRule} (hprobed : ∀ r ∈ probedRules, chain.rule r.id = some r)
    (id : UInt32) :
    Program.answer reply (readDiscoveredRule probedRules id) = .ok (chain.rule id) := by
  unfold readDiscoveredRule
  cases hfind : probedRules.find? fun rule => rule.id == id with
  | some cached =>
    have hid : cached.id = id := by simpa using List.find?_some hfind
    show Except.ok (some cached) = _
    rw [← hid, hprobed cached (List.mem_of_find?_eq_some hfind)]
  | none =>
    dsimp only
    rw [readContextRule_ofU32, Program.bind_eq, Program.answer_bind, Program.answer_attempt,
      Program.answer_await, except_ok_bind]
    cases hrule : chain.rule id with
    | some r => rw [h.found id r hrule]; rfl
    | none =>
      obtain ⟨e, he, hmissing⟩ := h.missing id hrule
      rw [he]
      dsimp only
      rw [if_pos hmissing]
      rfl

/-- Listing what the indexer and a probe have found shows the active rules under those ids. -/
theorem answer_listContextRules (h : Serves reply contractId chain indexer)
    {probeConfig : Option ProbeRuleIds} {ids : List UInt32} {probedRules : List ContextRule}
    (hindexer : indexer = .ok (some ids))
    (hprobe : Program.answer reply
      (probeConfig.elim (return []) probeContextRules) = .ok probedRules)
    (hprobed : ∀ r ∈ probedRules, chain.rule r.id = some r) :
    Program.answer reply (listContextRules contractId probeConfig) =
      .ok (visibleRules chain (ids ++ probedRules.map (·.id))) := by
  have hdetails : Program.answer reply (readIndexedRuleIds contractId probeConfig) =
      .ok (some ids) := by
    rw [readIndexedRuleIds, Program.bind_eq, Program.answer_bind, Program.answer_attempt,
      Program.answer_await, h.details, hindexer]
    rfl
  rw [listContextRules, Program.bind_eq, Program.answer_bind, hdetails, except_ok_bind,
    Program.bind_eq, Program.answer_bind, hprobe, except_ok_bind]
  dsimp only
  have hids : discoveredRuleIds (some ids) probedRules =
      sortBy compareIds (ids ++ probedRules.map (·.id)).dedup := rfl
  by_cases hnone : (discoveredRuleIds (some ids) probedRules).isEmpty = true
  · rw [if_pos hnone]
    show Except.ok [] = _
    rw [visibleRules, ← hids, List.isEmpty_iff.mp hnone]
    rfl
  · have hread : Program.answer reply (Program.collectAll (discoveredRuleIds (some ids) probedRules)
        (readDiscoveredRule probedRules)) =
        .ok ((discoveredRuleIds (some ids) probedRules).map chain.rule) := by
      rw [Program.answer_collectAll, mapM_eq_ok, List.forall₂_map_right_iff, List.forall₂_same]
      exact fun id _ => answer_readDiscoveredRule h hprobed id
    rw [if_neg hnone, Program.bind_eq, Program.answer_bind, hread, except_ok_bind,
      Program.bind_eq, Program.answer_bind, Program.answer_await, h.ledger]
    rfl

/-- Without a probe, nothing is listed where the indexer fails or is absent. -/
theorem answer_listContextRules_none (h : Serves reply contractId chain indexer)
    (hindexer : ∀ ids, indexer ≠ .ok (some ids)) :
    (Program.answer reply (listContextRules contractId none)).toOption = none := by
  rw [listContextRules, Program.bind_eq, Program.answer_bind, readIndexedRuleIds, Program.bind_eq,
    Program.answer_bind, Program.answer_attempt, Program.answer_await, h.details]
  cases indexer with
  | error e => rfl
  | ok details =>
    cases details with
    | none => rfl
    | some ids => exact absurd rfl (hindexer ids)

end listing

/-! ## Agreement -/

/-- A signer has a credential id that no other signer of the given rules has. -/
def OnlyCredentialSigner (signer : Signer) (credentialId : String) (rules : List ContextRule) :
    Prop :=
  getCredentialIdFromSigner signer = some credentialId ∧ (∃ rule ∈ rules, signer ∈ rule.signers) ∧
    ∀ rule ∈ rules, ∀ s ∈ rule.signers, getCredentialIdFromSigner s = some credentialId → s = signer

/-- The indexer lists every active rule that the probe reads, if there is a probe. -/
def IndexerCoversProbe (chain : ChainState) (indexer : Except JsError (Option (List UInt32)))
    (probeRuleIds : Option ProbeRuleIds) : Prop :=
  ∀ probeConfig ∈ probeRuleIds, ∃ ids, indexer = .ok (some ids) ∧
    ∀ k r, k ≤ probeConfig.lastId → ProbeReaches chain probeConfig.missLimit k →
      chain.ruleAt k = some r → r.activeAt chain.latestLedger = true → r.id ∈ ids

/-- A list with one distinct signer. -/
theorem collectUniqueSigners_eq_singleton {signers : List Signer} {signer : Signer}
    (hsome : signers ≠ []) (hall : ∀ s ∈ signers, s = signer) :
    collectUniqueSigners signers = [signer] := by
  have hfold : ∀ rest : List Signer, (∀ s ∈ rest, s = signer) →
      rest.foldl (fun kept signer => if kept.any fun k => getSignerKey k == getSignerKey signer
        then kept else kept ++ [signer]) [signer] = [signer] := by
    intro rest
    induction rest with
    | nil => exact fun _ => rfl
    | cons s rest ih =>
      intro hrest
      rw [List.forall_mem_cons] at hrest
      rw [List.foldl_cons, hrest.1]
      simpa using ih hrest.2
  cases signers with
  | nil => exact absurd rfl hsome
  | cons s rest =>
    rw [List.forall_mem_cons] at hall
    rw [collectUniqueSigners, List.foldl_cons, hall.1]
    exact hfold rest hall.2

theorem findWebAuthnSignerForCredential_eq_ok {signer : Signer} {credentialId : String}
    {rules : List ContextRule} (h : OnlyCredentialSigner signer credentialId rules) :
    findWebAuthnSignerForCredential credentialId rules = .ok signer := by
  obtain ⟨hcredential, ⟨rule, hrule, hmem⟩, honly⟩ := h
  have hunique : collectUniqueSigners (rules.flatMap fun rule => rule.signers.filter fun signer =>
      getCredentialIdFromSigner signer == some credentialId) = [signer] := by
    refine collectUniqueSigners_eq_singleton ?_ fun s hs => ?_
    · refine List.ne_nil_of_mem (List.mem_flatMap.mpr ⟨rule, hrule, List.mem_filter.mpr ⟨hmem, ?_⟩⟩)
      simpa using hcredential
    · obtain ⟨rule', hrule', hs⟩ := List.mem_flatMap.mp hs
      obtain ⟨hs, hsame⟩ := List.mem_filter.mp hs
      exact honly rule' hrule' s hs (by simpa using hsame)
  rw [findWebAuthnSignerForCredential, hunique]

/-- A credential id of a signer is not empty. -/
theorem credentialId_ne_empty {signer : Signer} {credentialId : String}
    (h : getCredentialIdFromSigner signer = some credentialId) : credentialId ≠ "" := by
  cases signer with
  | delegated address => exact nomatch h
  | external verifier keyData =>
    rw [getCredentialIdFromSigner] at h
    split_ifs at h with hshort
    rw [← Option.some.inj h]
    intro hempty
    have hdrop := fromBase64_toBase64Url (keyData.drop SECP256R1_PUBLIC_KEY_SIZE)
    rw [hempty] at hdrop
    have hlength := congrArg List.length hdrop
    rw [List.length_drop] at hlength
    have hnone : (fromBase64 "").length = 0 := by decide
    omega

/-- The rules that the kit lists are those that the indexer lists. -/
theorem answer_listContextRules_covered {reply : (r : Request) → Reply r} {contractId : String}
    {chain : ChainState} {indexer : Except JsError (Option (List UInt32))}
    {probeConfig : Option ProbeRuleIds} {ids : List UInt32}
    (h : Serves reply contractId chain indexer) (hindexer : indexer = .ok (some ids))
    (hcovers : IndexerCoversProbe chain indexer probeConfig) :
    Program.answer reply (listContextRules contractId probeConfig) =
      .ok (visibleRules chain ids) := by
  cases probeConfig with
  | none =>
    have hlist := @answer_listContextRules reply contractId chain indexer h none ids [] hindexer rfl
      (by simp)
    rw [hlist, List.map_nil, List.append_nil]
  | some probeConfig =>
    obtain ⟨probedRules, hanswer, hreached⟩ := answer_probeContextRules h probeConfig
    have hchain : ∀ k r, chain.ruleAt k = some r → chain.rule r.id = some r := by
      intro k r hk
      rw [ChainState.ruleAt] at hk
      split_ifs at hk
      rwa [chain.id_eq _ r hk]
    have hprobed : ∀ r ∈ probedRules, chain.rule r.id = some r := fun r hr => by
      obtain ⟨k, -, hk, -⟩ := hreached r hr
      exact hchain k r hk
    have hlist := @answer_listContextRules reply contractId chain indexer h (some probeConfig) ids
      probedRules hindexer hanswer hprobed
    rw [hlist]
    refine congrArg _ (visibleRules_congr fun id r hrule hactive => ?_)
    rw [List.mem_append, or_iff_left_iff_imp]
    intro hid
    obtain ⟨r', hr', hsame⟩ := List.mem_map.mp hid
    have hrr : r' = r := by
      have := hprobed r' hr'
      rw [hsame, hrule] at this
      exact (Option.some.inj this).symm
    obtain ⟨k, hk, hrule', hreaches⟩ := hreached r' hr'
    obtain ⟨ids', hids', hlisted⟩ := hcovers probeConfig rfl
    rw [hindexer, Except.ok.injEq, Option.some.injEq] at hids'
    rw [← hsame, hids']
    exact hlisted k r' hk hreaches hrule' (hrr ▸ hactive)

/-- Where the indexer lists every active rule that the probe reads, the passkey path and the
multi-signer path with that passkey alone resolve the same ids for an entry, or neither does. -/
theorem signing_paths_choose_same_rules {reply : (r : Request) → Reply r} {run : MultiSignerRun}
    {chain : ChainState} {indexer : Except JsError (Option (List UInt32))} {signer : Signer}
    {ref : ℕ} {credentialId : String} {entry : SorobanAuthorizationEntry} {expiration : UInt32}
    {index : ℕ}
    (hconnected : nonEmptyText run.config.contractId = some run.contractId)
    (hserves : Serves reply run.contractId chain indexer)
    (hselected : run.selectedSigners =
      [{ type := .passkey, signer := some ⟨ref, signer⟩, credentialId := some credentialId }])
    (hresolver : run.options.resolveContextRuleIds = false)
    (hcovers : IndexerCoversProbe chain indexer run.config.probeRuleIds)
    (hsigner : ∀ ids, indexer = .ok (some ids) →
      OnlyCredentialSigner signer credentialId (visibleRules chain ids))
    (ids : List JsNumber) :
    Program.answer reply (resolveConnectedContextRuleIds run.config entry (some credentialId)) =
        .ok ids ↔
      Program.answer reply (submissionContextRuleIds run (entry.setExpiration expiration) index) =
        .ok ids := by
  have hcontract := KitConfig.requireWallet_eq_ok.mpr hconnected
  have hsubmission : Program.answer reply
      (submissionContextRuleIds run (entry.setExpiration expiration) index) =
      (Program.answer reply (listContextRules run.contractId none) >>= fun rules =>
        resolveContextRuleIdsForEntry entry [signer] rules) := by
    rw [submissionContextRuleIds, hresolver, if_neg Bool.false_ne_true, Program.bind_eq,
      Program.answer_bind, Program.answer_ofExcept, hcontract, except_ok_bind, Program.bind_eq,
      Program.answer_bind, MultiSignerRun.selectedContractSigners, hselected]
    rfl
  have hkit : ∀ rules, Program.answer reply
      (listContextRules run.contractId run.config.probeRuleIds) = .ok rules →
      OnlyCredentialSigner signer credentialId rules →
      Program.answer reply (resolveConnectedContextRuleIds run.config entry (some credentialId)) =
        resolveContextRuleIdsForEntry entry [signer] rules := by
    intro rules hlist honly
    have hcredential : nonEmptyText ((some credentialId).or run.config.credentialId) =
        some credentialId :=
      nonEmptyText_eq_some.mpr ⟨rfl, credentialId_ne_empty honly.1⟩
    rw [resolveConnectedContextRuleIds, hcredential]
    dsimp only
    rw [Program.bind_eq, Program.answer_bind, Program.answer_ofExcept, hcontract, except_ok_bind,
      Program.bind_eq, Program.answer_bind, hlist, except_ok_bind, Program.bind_eq,
      Program.answer_bind, Program.answer_ofExcept, findWebAuthnSignerForCredential_eq_ok honly,
      except_ok_bind, Program.answer_ofExcept]
  by_cases hlisted : ∃ listed, indexer = .ok (some listed)
  · obtain ⟨listed, hlisted⟩ := hlisted
    rw [hsubmission, hkit _ (answer_listContextRules_covered hserves hlisted hcovers)
        (hsigner listed hlisted),
      answer_listContextRules_covered hserves hlisted (by simp [IndexerCoversProbe]),
      except_ok_bind]
  · -- without a listing the kit does not probe either
    have hnone : run.config.probeRuleIds = none := by
      cases hprobe : run.config.probeRuleIds with
      | none => rfl
      | some probeConfig =>
        obtain ⟨listed, hindexer, -⟩ := hcovers probeConfig hprobe
        exact absurd ⟨listed, hindexer⟩ hlisted
    have hfails := answer_listContextRules_none hserves fun listed h => hlisted ⟨listed, h⟩
    cases hlist : Program.answer reply (listContextRules run.contractId none) with
    | ok rules => rw [hlist] at hfails; exact nomatch hfails
    | error e =>
      rw [hsubmission, hlist, except_error_bind]
      refine iff_of_false (fun hok => ?_) fun h => nomatch h
      rw [resolveConnectedContextRuleIds] at hok
      cases hcredential : nonEmptyText ((some credentialId).or run.config.credentialId) with
      | none => rw [hcredential] at hok; exact nomatch hok
      | some credential =>
        rw [hcredential] at hok
        dsimp only at hok
        rw [Program.bind_eq, Program.answer_bind, Program.answer_ofExcept, hcontract,
          except_ok_bind, Program.bind_eq, Program.answer_bind, hnone, hlist] at hok
        exact nomatch hok

/-! ## Samples -/

/-- A passkey with the credential id `AQ`. -/
def samplePasskeySigner : Signer := .external (sampleContractId 11) (List.replicate 66 1)

/-- A chain with one rule, which a passkey signs for. -/
def sampleChain : ChainState :=
  { rule := fun id => if id = 0 then
      some { id := 0, contextType := .default, signers := [samplePasskeySigner], policies := []
             validUntil := none }
    else none
    id_eq := by
      intro id r h
      split_ifs at h with hid
      rw [← Option.some.inj h, hid]
    latestLedger := 50 }

/-- An environment that answers from the sample chain. -/
def sampleChainReplies (indexer : Except JsError (Option (List UInt32))) : SteadyReplies :=
  { sampleReplies with
    details := indexer
    rule := fun id =>
      (sampleChain.rule id).elim (.error (JsError.plain "ContextRuleNotFound")) .ok }

theorem sampleChainReplies_serves (indexer : Except JsError (Option (List UInt32)))
    (contractId : String) :
    Serves (sampleChainReplies indexer).reply contractId sampleChain indexer where
  found id r h := by
    show (sampleChain.rule id).elim _ Except.ok = _
    rw [h]
    rfl
  missing id h := by
    refine ⟨JsError.plain "ContextRuleNotFound", ?_, by decide +kernel⟩
    show (sampleChain.rule id).elim _ Except.ok = _
    rw [h]
    rfl
  ledger := rfl
  details := rfl

/-- A selection of the passkey alone, where probing may be enabled. -/
def samplePasskeyRun (probeRuleIds : Option ProbeRuleIds) : MultiSignerRun :=
  { config := { sampleConfig with probeRuleIds := probeRuleIds }
    contractId := sampleContractId 7
    hostFunc := .uploadContractWasm []
    selectedSigners :=
      [{ type := .passkey, signer := some ⟨0, samplePasskeySigner⟩
         credentialId := some "AQ" }]
    options := {}
    allowWalletMutation := false }

/-- Without an indexer the passkey path finds a rule by probing, and the multi-signer path does
not find any. -/
theorem signing_paths_disagree :
    ∃ (reply : (r : Request) → Reply r) (run : MultiSignerRun) (chain : ChainState)
      (signer : Signer) (ref : ℕ) (credentialId : String) (entry : SorobanAuthorizationEntry)
      (expiration : UInt32) (index : ℕ) (ids : List JsNumber),
      nonEmptyText run.config.contractId = some run.contractId ∧
      Serves reply run.contractId chain (.ok none) ∧
      run.selectedSigners =
        [{ type := .passkey, signer := some ⟨ref, signer⟩, credentialId := some credentialId }] ∧
      run.options.resolveContextRuleIds = false ∧
      Program.answer reply (resolveConnectedContextRuleIds run.config entry (some credentialId)) =
        .ok ids ∧
      ∀ ids', Program.answer reply
        (submissionContextRuleIds run (entry.setExpiration expiration) index) ≠ .ok ids' := by
  refine ⟨(sampleChainReplies (.ok none)).reply, samplePasskeyRun (some {}), sampleChain,
    samplePasskeySigner, 0, "AQ", sampleEntry, 100, 0, [.ofU32 0],
    sampleConfig_connected, sampleChainReplies_serves _ _, rfl, rfl, ?_, ?_⟩
  · have hresolved : (Program.answer (sampleChainReplies (.ok none)).reply
        (resolveConnectedContextRuleIds (samplePasskeyRun (some {})).config sampleEntry
          (some "AQ"))).toOption = some [.ofU32 0] := by
      set_option maxRecDepth 20000 in decide
    cases hanswer : Program.answer (sampleChainReplies (.ok none)).reply
        (resolveConnectedContextRuleIds (samplePasskeyRun (some {})).config sampleEntry
          (some "AQ")) with
    | error e => rw [hanswer] at hresolved; exact nomatch hresolved
    | ok ids => rw [hanswer] at hresolved; exact congrArg _ (Option.some.inj hresolved)
  · have hfails : (Program.answer (sampleChainReplies (.ok none)).reply
        (submissionContextRuleIds (samplePasskeyRun (some {})) (sampleEntry.setExpiration 100)
          0)).toOption = none := by
      set_option maxRecDepth 20000 in decide
    intro ids' hids
    rw [hids] at hfails
    exact nomatch hfails

/-- Where the indexer lists the rule, both paths resolve it. -/
theorem signing_paths_choose_same_rules_sample :
    ∃ ids, Program.answer (sampleChainReplies (.ok (some [0]))).reply
        (resolveConnectedContextRuleIds (samplePasskeyRun (some {})).config sampleEntry
          (some "AQ")) = .ok ids ∧
      Program.answer (sampleChainReplies (.ok (some [0]))).reply
        (submissionContextRuleIds (samplePasskeyRun (some {})) (sampleEntry.setExpiration 100) 0) =
          .ok ids := by
  have hok : (Program.answer (sampleChainReplies (.ok (some [0]))).reply
      (resolveConnectedContextRuleIds (samplePasskeyRun (some {})).config sampleEntry
        (some "AQ"))).isOk = true := by
    set_option maxRecDepth 20000 in decide
  have hsame : ∀ ids, Program.answer (sampleChainReplies (.ok (some [0]))).reply
        (resolveConnectedContextRuleIds (samplePasskeyRun (some {})).config sampleEntry
          (some "AQ")) = .ok ids ↔
      Program.answer (sampleChainReplies (.ok (some [0]))).reply
        (submissionContextRuleIds (samplePasskeyRun (some {})) (sampleEntry.setExpiration 100) 0) =
          .ok ids := by
    refine signing_paths_choose_same_rules sampleConfig_connected (sampleChainReplies_serves _ _) rfl
      rfl ?_ ?_
    · intro probeConfig _
      refine ⟨[0], rfl, fun k r _ _ hk _ => ?_⟩
      have hr : sampleChain.rule (UInt32.ofNat k) = some r := by
        rw [ChainState.ruleAt] at hk
        split_ifs at hk
        exact hk
      have hid : UInt32.ofNat k = 0 := by
        change (if UInt32.ofNat k = 0 then _ else none) = some r at hr
        split_ifs at hr with hid
        exact hid
      rw [sampleChain.id_eq _ r hr, hid]
      exact List.mem_singleton_self 0
    · intro ids hids
      rw [← Option.some.inj (Except.ok.inj hids)]
      have hvisible : visibleRules sampleChain [0] =
          [{ id := 0, contextType := .default, signers := [samplePasskeySigner]
             policies := [], validUntil := none }] := by
        rfl
      rw [hvisible]
      refine ⟨by decide, ⟨_, List.mem_singleton_self _, List.mem_singleton_self _⟩, ?_⟩
      intro rule hrule s hs _
      rw [List.mem_singleton.mp hrule] at hs
      exact List.mem_singleton.mp hs
  cases hids : Program.answer (sampleChainReplies (.ok (some [0]))).reply
      (resolveConnectedContextRuleIds (samplePasskeyRun (some {})).config sampleEntry
        (some "AQ")) with
  | error e =>
    rw [hids] at hok
    exact nomatch hok
  | ok ids => exact ⟨ids, rfl, (hsame ids).mp hids⟩

end SmartAccountKit
