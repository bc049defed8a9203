import SmartAccountKit.ContextRulesTheorems
import SmartAccountKit.MultiSignerGuard
import SmartAccountKit.SignOnlyTheorems

/-!
# Rule ids that signatures are bound to

On each signing path, the rule ids in a digest that a key is asked to sign are
those that were chosen for the entry and agree with its payload. They are never
empty, except that a resolver of a multi-signer operation may choose no ids where
no passkey takes part.
-/

namespace SmartAccountKit
open Lib

/-! ## Requests for a digest -/

/-- What the digest of a request was computed from, if it asks a key to sign for a smart-account
entry. -/
def Request.digestArgs? : Request → Option DigestArgs
  | .signAuthDigest _ _ args | .startAuthentication _ _ args | .signEd25519Digest _ _ args =>
    some args
  | .walletSignAuthEntry _ _ args => args
  | _ => none

theorem Request.digestArgs?_eq_none {request : Request} (h : request.kind ≠ .signature) :
    request.digestArgs? = none := by
  cases request <;> first | rfl | exact absurd rfl h

/-- The ids bound into the digest that a request is for: they are chosen ids, not empty, and the
ids in the payload of the entry if it has any. -/
def BindsRuleIds (entry : SorobanAuthorizationEntry) (Chosen : List JsNumber → Prop)
    (request : Request) (args : DigestArgs) : Prop :=
  (∃ e digest, args.compute = .ok (e, digest) ∧ request.SignsDigest digest) ∧
    args.entry.rootInvocation = entry.rootInvocation ∧
    args.contextRuleIds ≠ [] ∧ Chosen args.contextRuleIds ∧
    ∃ c payload, PayloadOf entry c payload ∧
      (payload.contextRuleIds = [] ∨ payload.contextRuleIds = args.contextRuleIds)

/-! ## Sign-only signing and passkeys -/

theorem signOnly_bindsRuleIds {entry : SorobanAuthorizationEntry}
    {signers : List AuthDigestSigner} {options : SignAuthEntryWithSignersOptions}
    {request : Request} (h : SignOnlyRequest entry signers options request) :
    ∀ args ∈ request.digestArgs?,
      BindsRuleIds entry (fun ids => options.contextRuleIds = some ids) request args := by
  obtain ⟨prepared, hprepared, signer, -, rfl⟩ := h
  intro args hargs
  obtain ⟨scheme, c, contractId, expiration, payload, ids, signed, digest, -, hkind, -, -, -, hread,
    -, hids, hdigest, rfl⟩ := prepareSignOnly_eq_ok.mp hprepared
  rw [← Option.some.inj hargs]
  obtain ⟨hsome, hids⟩ := throwIf_bind_eq_ok.mp hids
  obtain ⟨hsame, hids⟩ := throwIf_bind_eq_ok.mp hids
  rw [except_pure_eq_ok] at hids
  rw [not_and_or, not_not, not_not, hids] at hsame
  rw [hids] at hsome
  refine ⟨⟨signed, digest, hdigest, rfl⟩, rfl, hsome, ?_, c, payload, ⟨?_, hread⟩, hsame⟩
  · cases hrequested : options.contextRuleIds with
    | none =>
      rw [hrequested] at hids
      exact absurd hids.symm hsome
    | some requested =>
      rw [hrequested] at hids
      exact congrArg some hids
  · rcases hkind with h | h <;> rw [SorobanAuthorizationEntry.addressCredentials?, h] <;> rfl

theorem passkey_bindsRuleIds {config : KitConfig} {entry : SorobanAuthorizationEntry}
    {options : SignAuthEntryOptions} {request : Request}
    (h : PasskeyRequest config entry options request) :
    ∀ args ∈ request.digestArgs?,
      BindsRuleIds entry (fun ids => options.contextRuleIds = some ids) request args := by
  intro args hargs
  cases h with
  | service _ h =>
    rw [Request.digestArgs?_eq_none (kind_ne_signature h)] at hargs
    exact nomatch hargs
  | authenticate prepared credentialId =>
    rw [← Option.some.inj hargs]
    refine ⟨⟨_, prepared.digest, prepared.computed, rfl⟩, rfl, prepared.someIds,
      prepared.requestedIds, prepared.credentials, prepared.authPayload,
      ⟨?_, prepared.payloadRead⟩, prepared.sameIds⟩
    rcases prepared.hasCredentials with h | h <;>
      rw [SorobanAuthorizationEntry.addressCredentials?, h] <;> rfl

/-! ## Multi-signer operations -/

/-- The ids that a run resolved for an entry: the answer of the caller's resolver, or those of the
rules that the run listed. -/
def ResolvedInRun (run : MultiSignerRun) (signedEntry : SorobanAuthorizationEntry) (index : ℕ)
    (t : History Environment) (ids : List JsNumber) : Prop :=
  if run.options.resolveContextRuleIds then
    ⟨.resolveContextRuleIds signedEntry index, .ok ids⟩ ∈ t
  else ∃ t' rules, t' <:+: t ∧
    Program.Run (listContextRules run.contractId none) t' (.ok rules) ∧
    resolveContextRuleIdsForEntry signedEntry run.selectedContractSigners rules = .ok ids

theorem run_submissionContextRuleIds {run : MultiSignerRun}
    {signedEntry : SorobanAuthorizationEntry} {index : ℕ} {t t' : History Environment}
    {ids : List JsNumber} (ht' : t' <:+: t)
    (hrun : Program.Run (submissionContextRuleIds run signedEntry index) t' (.ok ids)) :
    ResolvedInRun run signedEntry index t ids := by
  unfold submissionContextRuleIds at hrun
  unfold ResolvedInRun
  split_ifs at hrun ⊢
  · obtain ⟨reply, rfl, hreply⟩ := Program.run_await.mp hrun
    rw [show reply = .ok ids from hreply.symm] at ht'
    exact ht'.subset (List.mem_singleton_self _)
  · obtain ⟨_, -, hrun⟩ := Program.run_ofExcept_bind_ok.mp hrun
    obtain ⟨rules, t₁, t₂, rfl, hlist, hlast⟩ := Program.run_bind_ok.mp hrun
    obtain ⟨rfl, hids⟩ := Program.run_ofExcept.mp hlast
    rw [List.append_nil] at ht'
    exact ⟨t₁, rules, ht', hlist, hids.symm⟩

/-- Resolving the rules of an entry gives one id for each node of its tree, so at least one. -/
theorem resolveContextRuleIdsForEntry_ne_nil {entry : SorobanAuthorizationEntry}
    {signers : List Signer} {rules : List ContextRule} {ids : List JsNumber}
    (h : resolveContextRuleIdsForEntry entry signers rules = .ok ids) : ids ≠ [] := by
  obtain ⟨contexts, hcontexts, hids⟩ := except_bind_eq_ok.mp h
  rw [buildInvocationContextTypes_eq_ok, SorobanAuthorizedInvocation.nodes_eq] at hcontexts
  have hlength := hcontexts.length_eq
  have hlength' := (mapM_eq_ok.mp hids).length_eq
  rw [List.length_cons] at hlength
  intro hnil
  rw [hnil, List.length_nil] at hlength'
  omega

/-- A resolver's empty answer does not reach a key: a passkey is selected, or the payload of the
entry has ids. -/
def EmptyAnswersRefused (selectedSigners : List SelectedSigner)
    (authEntries : List SorobanAuthorizationEntry) (t : History Environment) : Prop :=
  ∀ signedEntry index, ⟨.resolveContextRuleIds signedEntry index, .ok []⟩ ∈ t →
    signersOfType .passkey selectedSigners ≠ [] ∨
      ∀ entry ∈ authEntries[index]?, ∀ c payload, PayloadOf entry c payload →
        payload.contextRuleIds ≠ []

/-- What a multi-signer operation asks its keys to sign for an entry. -/
theorem submission_bindsRuleIds {run : MultiSignerRun}
    {authEntries : List SorobanAuthorizationEntry} {t : History Environment} {request : Request}
    (hempty : EmptyAnswersRefused run.selectedSigners authEntries t)
    (h : SubmissionRequest run authEntries t request) :
    ∀ args ∈ request.digestArgs?, ∃ entry index expiration, authEntries[index]? = some entry ∧
      getAuthEntryAddress entry = .ok run.contractId ∧
      BindsRuleIds entry (ResolvedInRun run (entry.setExpiration expiration) index t) request
        args := by
  intro args hargs
  cases h with
  | service _ h =>
    rw [Request.digestArgs?_eq_none (kind_ne_signature h)] at hargs
    exact nomatch hargs
  | separate => exact nomatch hargs
  | smartAccount entry index expiration ids scheme t' _ hentry haddress hguard ht' hresolved h =>
    have hchosen := run_submissionContextRuleIds ht' hresolved
    refine ⟨entry, index, expiration, hentry, haddress, ?_⟩
    have hbinds : ∀ (args : DigestArgs) (digest : EntryAuthDigest), request.SignsDigest digest →
        SignedArgs run entry expiration ids scheme args digest →
        BindsRuleIds entry (ResolvedInRun run (entry.setExpiration expiration) index t) request
          args := by
      intro args digest hdigest h
      have hids : args.contextRuleIds = ids := by rw [h.args_eq]
      refine ⟨⟨_, digest, h.computed, hdigest⟩, h.version.rootInvocation_eq, ?_⟩
      rw [hids]
      refine ⟨?_, hchosen, h.version.original⟩
      -- empty ids can only come from the resolver, where no passkey has refused them
      intro hnil
      subst hnil
      have hnone : run.passkeySigners = [] := h.someIds.resolve_left fun hne => hne rfl
      unfold ResolvedInRun at hchosen
      split_ifs at hchosen
      · rcases hempty _ _ hchosen with hpasskey | hpayload
        · exact hpasskey hnone
        · obtain ⟨c, payload, hc, hsame⟩ := h.version.original
          exact hpayload entry hentry c payload hc (hsame.elim id id)
      · obtain ⟨_, _, -, -, hresolve⟩ := hchosen
        exact resolveContextRuleIdsForEntry_ne_nil hresolve rfl
    cases h with
    | service _ h =>
      rw [Request.digestArgs?_eq_none (kind_ne_signature h)] at hargs
      exact nomatch hargs
    | passkey args' digest credentialId h =>
      rw [← Option.some.inj hargs]
      exact hbinds args' digest rfl h
    | ed25519 args' digest publicKey h =>
      rw [← Option.some.inj hargs]
      exact hbinds args' digest rfl h
    | delegated args' digest contract nonce address h hcontract =>
      rw [← Option.some.inj hargs]
      exact hbinds args' digest ⟨contract, rfl⟩ h

/-! ## All signing paths -/

/-- On the sign-only path and the passkey path every digest that a key is asked to sign binds the
caller's rule ids, and in an operation whose resolver's empty answers are refused it binds the
resolved ones: never none, and never others than the payload of the entry has. -/
theorem keys_bind_chosen_ruleIds (config : KitConfig) (t : History Environment) :
    (∀ (entry : SorobanAuthorizationEntry) (signers : List AuthDigestSigner)
      (options : SignAuthEntryWithSignersOptions) (x : Except JsError SorobanAuthorizationEntry),
      Program.Run (signAuthEntryWithSigners entry signers options) t x →
      ∀ e ∈ t, ∀ args ∈ e.request.digestArgs?,
        BindsRuleIds entry (fun ids => options.contextRuleIds = some ids) e.request args) ∧
    (∀ (entry : SorobanAuthorizationEntry) (options : SignAuthEntryOptions)
      (x : Except JsError SorobanAuthorizationEntry),
      Program.Run (signAuthEntry config entry options) t x →
      ∀ e ∈ t, ∀ args ∈ e.request.digestArgs?,
        BindsRuleIds entry (fun ids => options.contextRuleIds = some ids) e.request args) ∧
    ∀ (built : Option BuiltTransaction) (selectedSigners : List SelectedSigner)
      (options : MultiSignerOptions) (allowWalletMutation : Bool) (transaction : Transaction)
      (x : Except JsError TransactionResult),
      invokedTransaction built = .ok transaction →
      Program.Run (submitOperation config built selectedSigners options allowWalletMutation) t x →
      EmptyAnswersRefused selectedSigners transaction.auth t →
      ∀ e ∈ t, ∀ args ∈ e.request.digestArgs?,
        ∃ contractId entry index expiration, nonEmptyText config.contractId = some contractId ∧
          transaction.auth[index]? = some entry ∧ getAuthEntryAddress entry = .ok contractId ∧
          BindsRuleIds entry (ResolvedInRun ⟨config, contractId, transaction.func,
            selectedSigners, options, allowWalletMutation⟩ (entry.setExpiration expiration) index t)
            e.request args := by
  refine ⟨?_, ?_, ?_⟩
  · intro entry signers options x hrun e he
    exact signOnly_bindsRuleIds (exchanges_signAuthEntryWithSigners _ _ _ t x hrun e he).1
  · intro entry options x hrun e he
    exact passkey_bindsRuleIds (exchanges_signAuthEntry _ _ _ t x hrun e he).1
  · intro built selectedSigners options allowWalletMutation transaction x hbuilt hrun hempty e he
      args hargs
    rcases asked_submitOperation hrun he with hsubmission | ⟨contractId, transaction', hid, htx, h⟩
    · rw [Request.digestArgs?_eq_none hsubmission] at hargs
      exact nomatch hargs
    · rw [hbuilt, Except.ok.injEq] at htx
      subst htx
      obtain ⟨entry, index, expiration, hentry, haddress, hbinds⟩ :=
        submission_bindsRuleIds hempty h args hargs
      exact ⟨contractId, entry, index, expiration, hid, hentry, haddress, hbinds⟩

/-- The sample operation with a resolver for rule ids. -/
def sampleResolvedOperation (auth : List SorobanAuthorizationEntry) :
    KitProgram TransactionResult :=
  submitOperation sampleConfig (some (sampleBuilt auth)) [sampleWalletSigner]
    { resolveContextRuleIds := true } false

/-- A wallet is asked to authorize the digest of an empty rule selection. -/
theorem wallet_binds_empty_ruleIds :
    ∃ (config : KitConfig) (built : Option BuiltTransaction)
      (selectedSigners : List SelectedSigner) (options : MultiSignerOptions)
      (allowWalletMutation : Bool) (t : History Environment)
      (x : Except JsError TransactionResult),
      Program.Run (submitOperation config built selectedSigners options allowWalletMutation) t x ∧
      ∃ e ∈ t, ∃ args ∈ e.request.digestArgs?, args.contextRuleIds = [] := by
  have hempty : (Program.transcript { sampleReplies with resolve := [] }.reply
      (sampleResolvedOperation [sampleEntry])).any (fun e =>
        e.request.digestArgs?.any fun args => args.contextRuleIds.isEmpty) = true := by
    set_option maxRecDepth 20000 in decide
  have hrun := Program.run_transcript { sampleReplies with resolve := [] }.reply
    (sampleResolvedOperation [sampleEntry])
  generalize Program.transcript _ _ = t at hempty hrun
  obtain ⟨e, he, hargs⟩ := List.any_eq_true.mp hempty
  obtain ⟨args, hargs, hnil⟩ := (Option.any_eq_true _ _).mp hargs
  exact ⟨_, _, _, _, _, t, _, hrun, e, he, args, hargs, List.isEmpty_iff.mp hnil⟩

/-- A resolver that chooses rule 0 for the first entry, and nothing for any other one. -/
def onlyFirstResolved : (r : Request) → Reply r
  | .resolveContextRuleIds _ index => .ok (if index = 0 then [.ofU32 0] else [])
  | r => sampleReplies.reply r

/-- Two entries of the sample wallet, the second with rule ids in its payload. -/
def sampleResolvedEntries : List SorobanAuthorizationEntry := [sampleEntry, sampleSignedEntry [0]]

/-- Whether a request asks the resolver for the rules of an entry. -/
def Request.asksRuleIds (authEntryIndex : ℕ) : Request → Bool
  | .resolveContextRuleIds _ index => index = authEntryIndex
  | _ => false

/-- The wallet signs for the chosen rule of the first entry, and the empty answer for the second one
is refused. -/
theorem keys_bind_chosen_ruleIds_sample :
    ∃ t x, Program.Run (sampleResolvedOperation sampleResolvedEntries) t x ∧
      (∃ signedEntry, ⟨.resolveContextRuleIds signedEntry 1, .ok []⟩ ∈ t) ∧
      (∃ e ∈ t, ∃ args, e.request.digestArgs? = some args) ∧
      ∀ e ∈ t, ∀ args ∈ e.request.digestArgs?, args.contextRuleIds ≠ [] := by
  have hrun := Program.run_transcript onlyFirstResolved (sampleResolvedOperation sampleResolvedEntries)
  have hasked : (Program.transcript onlyFirstResolved
      (sampleResolvedOperation sampleResolvedEntries)).any (fun e => e.request.asksRuleIds 1) =
        true := by set_option maxRecDepth 20000 in decide
  have hsigned : (Program.transcript onlyFirstResolved
      (sampleResolvedOperation sampleResolvedEntries)).any (fun e => e.request.digestArgs?.isSome) =
        true := by set_option maxRecDepth 20000 in decide
  have hempty : EmptyAnswersRefused [sampleWalletSigner] sampleResolvedEntries
      (Program.transcript onlyFirstResolved (sampleResolvedOperation sampleResolvedEntries)) := by
    intro signedEntry index hmem
    have hanswer : [] = if index = 0 then [JsNumber.ofU32 0] else [] :=
      Except.ok.inj (Program.mem_transcript hmem)
    have hlater : index ≠ 0 := by
      intro hfirst
      rw [if_pos hfirst] at hanswer
      exact List.cons_ne_nil _ _ hanswer.symm
    -- only the second entry is left, and its payload has rule 0
    right
    intro entry hentry c payload hpayload
    have hsecond : entry = sampleSignedEntry [0] := by
      obtain ⟨hlt, hget⟩ := List.getElem?_eq_some_iff.mp hentry
      have hindex : index = 1 := by
        have hlength : sampleResolvedEntries.length = 2 := rfl
        omega
      subst hindex
      exact hget.symm
    rw [hsecond] at hpayload
    have hsample := sampleSignedEntry_payload [0]
    have hc := Option.some.inj (hsample.1.symm.trans hpayload.1)
    have hread := hpayload.2
    rw [← hc, hsample.2, Except.ok.injEq] at hread
    rw [← hread]
    exact List.cons_ne_nil _ _
  refine ⟨_, _, hrun, ?_, ?_, fun e he args hargs => ?_⟩
  · obtain ⟨⟨request, reply⟩, he, hasks⟩ := List.any_eq_true.mp hasked
    cases request with
    | resolveContextRuleIds signedEntry index =>
      obtain rfl : index = 1 := of_decide_eq_true hasks
      have hanswer : reply = .ok [] := Program.mem_transcript he
      rw [hanswer] at he
      exact ⟨signedEntry, he⟩
    | _ => exact absurd hasks Bool.false_ne_true
  · obtain ⟨e, he, hsome⟩ := List.any_eq_true.mp hsigned
    obtain ⟨args, hargs⟩ := Option.isSome_iff_exists.mp hsome
    exact ⟨e, he, args, hargs⟩
  · obtain ⟨_, _, _, _, -, -, -, -, -, hne, -⟩ := (keys_bind_chosen_ruleIds _ _).2.2 _ _ _ _
      ⟨⟨sampleAccountId 4, 0⟩, .uploadContractWasm [], sampleResolvedEntries, []⟩ _ rfl hrun hempty
      e he args hargs
    exact hne

end SmartAccountKit
