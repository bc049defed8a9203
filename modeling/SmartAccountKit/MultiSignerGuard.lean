import SmartAccountKit.MultiSignerTheorems

/-!
# The guard in multi-signer operations

Which authorization trees the keys of a generic operation are asked to sign. The
guard stands on the entries of the smart account only, so the trees of entries
for other addresses are signed as they are.
-/

namespace SmartAccountKit
open Lib

/-! ## Signed trees -/

/-- The invocation tree of a preimage. -/
def HashIdPreimage.invocation : HashIdPreimage → SorobanAuthorizedInvocation
  | .sorobanAuthorization _ _ _ invocation => invocation
  | .sorobanAuthorizationWithAddress _ _ _ _ invocation => invocation

/-- The authorization tree that a request asks a key to sign. -/
def Request.signedTree? : Request → Option SorobanAuthorizedInvocation
  | .signAuthDigest _ _ args | .startAuthentication _ _ args | .signEd25519Digest _ _ args =>
    some args.entry.rootInvocation
  | .walletSignAuthEntry preimage _ _ => some preimage.invocation
  | _ => none

/-- Whether a request asks a delegated wallet. -/
def Request.asksWallet : Request → Bool
  | .walletSignAuthEntry _ _ _ => true
  | _ => false

/-- A request asks a key to sign the digest itself, or a delegated wallet to authorize it. -/
def Request.SignsDigest (digest : EntryAuthDigest) : Request → Prop
  | .signAuthDigest _ authDigest _ => authDigest = digest.authDigest
  | .startAuthentication challenge _ _ => challenge = toBase64Url digest.authDigest.1
  | .signEd25519Digest _ authDigest _ => authDigest = digest.authDigest
  | .walletSignAuthEntry preimage _ _ => ∃ contract,
    preimage.invocation = checkAuthInvocation contract digest.delegatedAuthArgs
  | _ => False

theorem Request.signedTree?_eq_none {request : Request} (h : request.kind ≠ .signature) :
    request.signedTree? = none := by
  cases request <;> first | rfl | exact absurd rfl h

/-- Whether a node calls `__check_auth` of the contract. -/
def callsCheckAuth (contractId : String) (invocation : SorobanAuthorizedInvocation) : Bool :=
  callsContract contractId ["__check_auth"] invocation

/-- A tree that an operation on a wallet may have signed: no node is a mutation of the wallet, and
where a wallet is asked and a node calls `__check_auth` of the contract, the tree is the
authorization that the run built for the digest of an entry that passed the guard. -/
def SafelySigned (config : KitConfig) (contractId : String)
    (authEntries : List SorobanAuthorizationEntry) (request : Request)
    (tree : SorobanAuthorizedInvocation) : Prop :=
  (∀ n ∈ tree.nodes, isWalletMutation contractId n = false) ∧
    (request.asksWallet = true → (∃ n ∈ tree.nodes, callsCheckAuth contractId n = true) →
      ∃ entry ∈ authEntries, ∃ (contract : ScAddress) (expiration : UInt32) (ids : List JsNumber)
        (scheme : AuthDigestScheme) (e : SorobanAuthorizationEntry) (digest : EntryAuthDigest),
        getAuthEntryAddress entry = .ok contractId ∧
        assertWalletMutationIntent entry contractId none (some config.upgradeTargetPolicy) =
          .ok () ∧
        computeEntryAuthDigest config.networkPassphrase entry (.ofU32 expiration) ids scheme =
          .ok (e, digest) ∧
        contract.toStrkey = some contractId ∧
        tree = checkAuthInvocation contract digest.delegatedAuthArgs)

/-- An entry for another address than the wallet's, one that a selected wallet signs for, calls
neither a mutation nor `__check_auth` of the wallet. -/
def SeparateEntryHarmless (contractId : String) (selectedSigners : List SelectedSigner)
    (entry : SorobanAuthorizationEntry) : Prop :=
  ∀ address, getAuthEntryAddress entry = .ok address → address ≠ contractId →
    SelectedWallet selectedSigners address → ∀ n ∈ entry.rootInvocation.nodes,
      isWalletMutation contractId n = false ∧ callsCheckAuth contractId n = false

/-! ## The guard -/

/-- On a generic path the guard accepts only trees without a mutation. -/
theorem noMutation_of_guard {entry : SorobanAuthorizationEntry} {contractId : String}
    {policy : Option UpgradeTargetPolicy}
    (h : assertWalletMutationIntent entry contractId none policy = .ok ()) :
    ∀ n ∈ entry.rootInvocation.nodes, isWalletMutation contractId n = false := by
  obtain ⟨ms, hwalk, hcheck⟩ := except_bind_eq_ok.mp h
  have hfound := walk_found hwalk
  cases ms with
  | cons root others => exact nomatch hcheck
  | nil =>
    intro n hn
    exact Bool.eq_false_iff.mpr ((List.filter_eq_nil_iff.mp hfound.invocations.symm) n hn)

/-- The authorization of a delegated signer is no mutation. -/
theorem checkAuthInvocation_noMutation (contractId : String) (contract : ScAddress)
    (args : List ScVal) :
    ∀ n ∈ (checkAuthInvocation contract args).nodes, isWalletMutation contractId n = false := by
  have hname : utf8Decode (utf8Encode "__check_auth") ∉ WALLET_MUTATION_FUNCTIONS := by
    decide
  intro n hn
  rw [checkAuthInvocation, SorobanAuthorizedInvocation.nodes_eq] at hn
  rcases List.mem_cons.mp hn with rfl | hn
  · rw [isWalletMutation, Bool.eq_false_iff, Ne, callsContract_contractFn rfl]
    exact fun h => hname h.2
  · exact absurd hn List.not_mem_nil

/-- The preimage of an entry has the tree of the entry. -/
theorem buildSignaturePreimage_invocation {networkPassphrase : String}
    {entry signedEntry : SorobanAuthorizationEntry} {expiration : JsNumber}
    {preimage : HashIdPreimage}
    (h : buildSignaturePreimage networkPassphrase entry expiration = .ok (signedEntry, preimage)) :
    preimage.invocation = entry.rootInvocation := by
  obtain ⟨c, ledger, -, -, -, rfl⟩ := buildSignaturePreimage_eq_ok.mp h
  obtain ⟨credentials, root⟩ := entry
  cases credentials <;> rfl

/-- In every run of a generic operation whose entries for the selected wallets call neither a
mutation nor `__check_auth` of the smart account, every tree that a key is asked to sign is safe to
sign. -/
theorem operation_guarded {config : KitConfig} {built : Option BuiltTransaction}
    {selectedSigners : List SelectedSigner} {options : MultiSignerOptions} {contractId : String}
    {transaction : Transaction} {t : History Environment} {x : Except JsError TransactionResult}
    (hconnected : nonEmptyText config.contractId = some contractId)
    (hbuilt : invokedTransaction built = .ok transaction)
    (hseparate : ∀ entry ∈ transaction.auth,
      SeparateEntryHarmless contractId selectedSigners entry)
    (hrun : Program.Run (operation config built selectedSigners options) t x) :
    ∀ e ∈ t, ∀ tree ∈ e.request.signedTree?,
      SafelySigned config contractId transaction.auth e.request tree := by
  intro e he tree htree
  rw [Option.mem_def] at htree
  rcases asked_submitOperation hrun he with hsubmission | ⟨contractId', transaction', hid, htx, h⟩
  · rw [Request.signedTree?_eq_none hsubmission] at htree
    exact nomatch htree
  rw [hconnected, Option.some.injEq] at hid
  rw [hbuilt, Except.ok.injEq] at htx
  subst hid
  subst htx
  generalize e.request = request at h htree
  cases h with
  | service _ h =>
    rw [Request.signedTree?_eq_none (kind_ne_signature h)] at htree
    exact nomatch htree
  | separate entry signedEntry address expiration preimage hentry haddress hother hselected
      hpreimage =>
    have hharmless := hseparate entry hentry address haddress hother hselected
    rw [← buildSignaturePreimage_invocation hpreimage, Option.some.inj htree] at hharmless
    refine ⟨fun n hn => (hharmless n hn).1, fun _ ⟨n, hn, hcall⟩ => ?_⟩
    rw [(hharmless n hn).2] at hcall
    exact nomatch hcall
  | smartAccount entry index expiration ids scheme t' _ hentry haddress hguard ht' hresolved h =>
    have hclean := noMutation_of_guard hguard
    cases h with
    | service _ h =>
      rw [Request.signedTree?_eq_none (kind_ne_signature h)] at htree
      exact nomatch htree
    | passkey args digest credentialId h =>
      rw [← h.version.rootInvocation_eq, Option.some.inj htree] at hclean
      exact ⟨hclean, fun hasks => nomatch hasks⟩
    | ed25519 args digest publicKey h =>
      rw [← h.version.rootInvocation_eq, Option.some.inj htree] at hclean
      exact ⟨hclean, fun hasks => nomatch hasks⟩
    | delegated args digest contract nonce address h hcontract =>
      have hdigest := h.computed
      rw [h.args_eq] at hdigest
      obtain ⟨e', he'⟩ := h.version.digest_iff.mp hdigest
      rw [← Option.some.inj htree]
      refine ⟨checkAuthInvocation_noMutation _ _ _, fun _ _ => ?_⟩
      exact ⟨entry, List.mem_of_getElem? hentry, contract, expiration, ids, scheme, e', digest,
        haddress, hguard, he', hcontract, rfl⟩

/-! ## Samples -/

/-- A sample transaction with some entries. -/
def sampleBuilt (auth : List SorobanAuthorizationEntry) : BuiltTransaction :=
  { source := { accountId := sampleAccountId 4, sequence := 0 }
    operations := [.invokeHostFunction (.uploadContractWasm []) auth] }

/-- The sample wallet account, selected as a signer. -/
def sampleWalletSigner : SelectedSigner :=
  { type := .wallet
    signer := some ⟨0, .delegated (sampleAccountId 3)⟩
    walletAddress := some (sampleAccountId 3) }

/-- An entry of the sample account that calls a function of the sample wallet. -/
def sampleAccountEntry (functionName : String) : SorobanAuthorizationEntry :=
  { credentials := .address { sampleCredentials with address := sampleAccount 3 }
    rootInvocation := .node (.contractFn
      { contractAddress := sampleContract 7
        functionName := utf8Encode functionName
        args := [] }) [] }

/-- What a generic operation of the sample wallet with some entries does. -/
abbrev sampleOperation (auth : List SorobanAuthorizationEntry) : KitProgram TransactionResult :=
  operation sampleConfig (some (sampleBuilt auth)) [sampleWalletSigner] {}

/-- The wallet account is asked to sign a call of `execute` of the wallet. -/
theorem operation_signs_mutation :
    ∃ (config : KitConfig) (built : Option BuiltTransaction)
      (selectedSigners : List SelectedSigner) (options : MultiSignerOptions)
      (t : History Environment) (x : Except JsError TransactionResult) (contractId : String),
      nonEmptyText config.contractId = some contractId ∧
      Program.Run (operation config built selectedSigners options) t x ∧
      ∃ e ∈ t, ∃ tree ∈ e.request.signedTree?, ∃ n ∈ tree.nodes,
        isWalletMutation contractId n = true := by
  have hsigned : (Program.transcript sampleReplies.reply
      (sampleOperation [sampleAccountEntry "execute"])).any (fun e =>
        e.request.signedTree?.any fun tree =>
          tree.nodes.any (isWalletMutation (sampleContractId 7))) = true := by
    set_option maxRecDepth 20000 in decide
  have hrun := Program.run_transcript sampleReplies.reply
    (sampleOperation [sampleAccountEntry "execute"])
  generalize Program.transcript _ _ = t at hsigned hrun
  obtain ⟨e, he, htree⟩ := List.any_eq_true.mp hsigned
  obtain ⟨tree, htree, hnodes⟩ := (Option.any_eq_true _ _).mp htree
  obtain ⟨n, hn, hmutation⟩ := List.any_eq_true.mp hnodes
  exact ⟨sampleConfig, _, _, _, t, _, sampleContractId 7, sampleConfig_connected, hrun, e, he,
    tree, htree, n, hn, hmutation⟩

/-- The entries of a token transfer by the sample wallet and of a call to it by the sample account. -/
def sampleMixedEntries : List SorobanAuthorizationEntry :=
  [sampleEntry, sampleAccountEntry "get_context_rule"]

/-- The sample account is asked to sign for the wallet's entry and for its own. -/
theorem operation_guarded_sample :
    ∃ t x, Program.Run (sampleOperation sampleMixedEntries) t x ∧
      (t.filterMap fun e => e.request.signedTree?).length = 2 ∧
      ∀ e ∈ t, ∀ tree ∈ e.request.signedTree?,
        SafelySigned sampleConfig (sampleContractId 7) sampleMixedEntries e.request tree := by
  have hcount : ((Program.transcript sampleReplies.reply
      (sampleOperation sampleMixedEntries)).filterMap fun e => e.request.signedTree?).length = 2 := by
    set_option maxRecDepth 20000 in decide
  have hrun := Program.run_transcript sampleReplies.reply (sampleOperation sampleMixedEntries)
  have hown : getAuthEntryAddress sampleEntry = .ok (sampleContractId 7) :=
    getAuthEntryAddress_eq_ok.mpr ⟨sampleCredentials, rfl, sampleContract_toStrkey 7⟩
  refine ⟨_, _, hrun, hcount, @operation_guarded _ _ _ _ _
    ⟨⟨sampleAccountId 4, 0⟩, .uploadContractWasm [], sampleMixedEntries, []⟩ _ _
    sampleConfig_connected rfl (fun entry hentry address haddress hother _ => ?_) hrun⟩
  rcases List.mem_cons.mp hentry with rfl | hentry
  · rw [hown, Except.ok.injEq] at haddress
    exact absurd haddress.symm hother
  · rw [List.mem_singleton.mp hentry]
    have hharmless : (sampleAccountEntry "get_context_rule").rootInvocation.nodes.all
        (fun n => !isWalletMutation (sampleContractId 7) n &&
          !callsCheckAuth (sampleContractId 7) n) = true := by
      set_option maxRecDepth 20000 in decide
    intro n hn
    simpa using List.all_eq_true.mp hharmless n hn

end SmartAccountKit
