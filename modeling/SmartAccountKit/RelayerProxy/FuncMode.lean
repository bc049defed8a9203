import SmartAccountKit.RelayerProxy.Allowlists
import SmartAccountKit.RelayerProxy.Submissions
import SmartAccountKit.Xdr.Structure

/-!
# What is sponsored as a host function

A host function that passes the checks is a deployment by an allowed deployer, a token
transfer out of an allowed wallet, or a call of an allowed wallet, and its entries
authorize nothing else.
-/

namespace SmartAccountKit.RelayerProxy
open Lib Program

/-! ## Addresses -/

theorem addressText_eq_ok {a : ScAddress} {text : String} :
    addressText a = .ok text ↔ a.toStrkey = some text := by
  unfold addressText
  cases h : a.toStrkey <;> simp

theorem contractIdOf_eq_ok {a : ScAddress} {message text : String} :
    contractIdOf a message = .ok text ↔
      ∃ contractId, a = .contract contractId ∧ a.toStrkey = some text := by
  unfold contractIdOf
  cases a with
  | contract contractId =>
    have hname : (ScAddress.contract contractId).switchName = "scAddressTypeContract" := rfl
    simp [hname, addressText_eq_ok]
  | _ => simp [ScAddress.switchName]

/-- The text of an account or contract address is that of no other address. -/
theorem accountOrContractIdOf_eq_ok {a : ScAddress} {message text : String}
    (h : accountOrContractIdOf a message = .ok text) : a.toStrkey = some text := by
  unfold accountOrContractIdOf at h
  dsimp only at h
  split_ifs at h
  exact addressText_eq_ok.mp h

theorem isValidContract_iff {text : String} :
    isValidContract text = true ↔
      ∃ contractId, (ScAddress.contract contractId).toStrkey = some text := by
  unfold isValidContract
  simp only [← addressFromString_eq_some]
  split
  · rename_i contractId h
    simp [h]
  · rename_i h
    simpa using fun contractId => h contractId

/-! ## Allowed contracts -/

/-- The ledger gave an executable for a contract. -/
def LedgerRuns (t : History ProxyServices) (contractId : String)
    (executable : ContractExecutable) : Prop :=
  ∃ storage, (⟨.getLedgerEntry contractId, .ok (some (.contractInstance executable storage))⟩ :
    Exchange ProxyServices) ∈ t

/-- A wallet is listed, or the ledger gave an allowed account code for it. -/
def WalletAllowed (sdk : ProxySdk) (env : ProxyEnv) (t : History ProxyServices)
    (contractId : String) : Prop :=
  contractId ∈ csvSet env.ALLOWED_WALLET_CONTRACT_IDS ∨
    ∃ hashes wasmHash, allowedWasmHashes sdk.lower env = .ok hashes ∧
      toHex wasmHash.1 ∈ hashes ∧ LedgerRuns t contractId (.wasm wasmHash)

/-- A token is listed, or the ledger gave the asset contract for it. -/
def TokenAllowed (env : ProxyEnv) (t : History ProxyServices) (contractId : String) : Prop :=
  contractId ∈ csvSet env.ALLOWED_TOKEN_CONTRACT_IDS ∨ LedgerRuns t contractId .stellarAsset

theorem LedgerRuns.mono {t t' : History ProxyServices} {contractId : String}
    {executable : ContractExecutable} (h : LedgerRuns t contractId executable) (ht : t ⊆ t') :
    LedgerRuns t' contractId executable := by
  obtain ⟨storage, hmem⟩ := h
  exact ⟨storage, ht hmem⟩

section allowed

variable {sdk : ProxySdk} {env : ProxyEnv} {t t' : History ProxyServices} {contractId : String}

theorem WalletAllowed.mono (h : WalletAllowed sdk env t contractId) (ht : t ⊆ t') :
    WalletAllowed sdk env t' contractId := by
  apply h.imp_right
  intro ⟨hashes, wasmHash, hhashes, hmem, hruns⟩
  exact ⟨hashes, wasmHash, hhashes, hmem, hruns.mono ht⟩

theorem TokenAllowed.mono (h : TokenAllowed env t contractId) (ht : t ⊆ t') :
    TokenAllowed env t' contractId :=
  h.imp_right fun hruns => hruns.mono ht

theorem instanceExecutable_eq_some {reply : Except String (Option ScVal)}
    {executable : ContractExecutable} (h : instanceExecutable reply = some (some executable)) :
    ∃ storage, reply = .ok (some (.contractInstance executable storage)) := by
  unfold instanceExecutable at h
  split at h
  · exact absurd h (by simp)
  · rename_i executable' storage
    have hexecutable : executable' = executable := by simpa using h
    rw [hexecutable]
    exact ⟨storage, rfl⟩
  · exact absurd h (by simp)

/-- An executable that was read stands in the reply of the ledger. -/
theorem run_readExecutable {message : String} {executable : ContractExecutable}
    (h : Run (readExecutable contractId message) t (.ok (some executable))) :
    LedgerRuns t contractId executable := by
  unfold readExecutable at h
  split_ifs at h
  · obtain ⟨reply, rfl, hread⟩ := run_await.mp h
    split at hread
    · rename_i executable' hinstance
      rw [← Except.ok.inj hread] at hinstance
      obtain ⟨storage, hreply⟩ := instanceExecutable_eq_some hinstance
      rw [hreply]
      exact ⟨storage, List.mem_singleton.mpr rfl⟩
    · exact absurd hread (by simp)
  · exact absurd (run_throw.mp h).2 (by simp)

theorem run_walletContractIsAllowed
    (h : Run (walletContractIsAllowed sdk env contractId) t (.ok true)) :
    WalletAllowed sdk env t contractId := by
  unfold walletContractIsAllowed at h
  split_ifs at h with hvalid hlisted
  · exact absurd (run_pure.mp h).2 (by simp)
  · exact Or.inl hlisted
  obtain ⟨hashes, hhashes, h⟩ := run_ofExcept_bind_ok.mp h
  split_ifs at h
  · exact absurd (run_pure.mp h).2 (by simp)
  obtain ⟨_, -, h⟩ := run_ofExcept_bind_ok.mp h
  obtain ⟨executable, t₁, t₂, rfl, hread, h⟩ := run_bind_ok.mp h
  -- only code with an allowed hash is answered with yes
  split at h
  · rename_i wasmHash
    obtain ⟨rfl, hmem⟩ := run_pure.mp h
    have hmem : toHex wasmHash.1 ∈ hashes := by simpa using (Except.ok.inj hmem).symm
    rw [List.append_nil]
    exact Or.inr ⟨hashes, wasmHash, hhashes, hmem, run_readExecutable hread⟩
  · exact absurd (run_pure.mp h).2 (by simp)

theorem run_tokenContractIsAllowed
    (h : Run (tokenContractIsAllowed env contractId) t (.ok true)) :
    TokenAllowed env t contractId := by
  unfold tokenContractIsAllowed at h
  split_ifs at h with hlisted
  · exact Or.inl hlisted
  obtain ⟨_, -, h⟩ := run_ofExcept_bind_ok.mp h
  obtain ⟨executable, t₁, t₂, rfl, hread, h⟩ := run_bind_ok.mp h
  split at h
  · rw [(run_pure.mp h).1, List.append_nil]
    exact Or.inr (run_readExecutable hread)
  · exact absurd (run_pure.mp h).2 (by simp)

end allowed

/-! ## Invocation trees -/

/-- A node of an invocation tree is a call of a contract. -/
def CallsContract (wallet : ScAddress) (invocation : SorobanAuthorizedInvocation) : Prop :=
  ∃ args, invocation.function = .contractFn args ∧ args.contractAddress = wallet

/-- The check visits every node of the tree. -/
theorem validateAuthorizedInvocation_eq_ok {wallet : ScAddress} {contractId : String}
    (hwallet : wallet.toStrkey = some contractId) {invocation : SorobanAuthorizedInvocation}
    (h : validateAuthorizedInvocation contractId invocation = .ok ()) :
    ∀ node ∈ invocation.nodes, CallsContract wallet node := by
  -- the trees below a node are checked one after the other
  have hlist : ∀ subs : List SorobanAuthorizedInvocation,
      (∀ c ∈ subs, validateAuthorizedInvocation contractId c = .ok () →
        ∀ node ∈ c.nodes, CallsContract wallet node) →
      validateSubInvocations contractId subs = .ok () →
      ∀ node ∈ SorobanAuthorizedInvocation.nodesOfAll subs, CallsContract wallet node := by
    intro subs
    induction subs with
    | nil => simp [SorobanAuthorizedInvocation.nodesOfAll]
    | cons c subs ih =>
      intro hsubs h node hnode
      rw [validateSubInvocations] at h
      obtain ⟨_, hc, hrest⟩ := except_bind_eq_ok.mp h
      rw [SorobanAuthorizedInvocation.nodesOfAll, List.mem_append] at hnode
      rw [List.forall_mem_cons] at hsubs
      apply hnode.elim
      · exact hsubs.1 hc node
      · exact ih hsubs.2 hrest node
  induction invocation using SorobanAuthorizedInvocation.subInduction with
  | step invocation ih =>
    intro node hnode
    cases invocation with
    | node function subs =>
      cases function with
      | contractFn args =>
        rw [validateAuthorizedInvocation] at h
        obtain ⟨invoked, hinvoked, h⟩ := except_bind_eq_ok.mp h
        obtain ⟨heq, hsubs⟩ := throwIf_bind_eq_ok.mp h
        obtain ⟨_, -, htext⟩ := contractIdOf_eq_ok.mp hinvoked
        rw [not_not] at heq
        rw [heq] at htext
        rw [SorobanAuthorizedInvocation.nodes, List.mem_cons] at hnode
        apply hnode.elim
        · intro hroot
          rw [hroot]
          exact ⟨args, rfl, ScAddress.toStrkey_inj htext hwallet⟩
        · exact hlist subs (fun c hc hok => ih c hc hok) hsubs node
      | createContractHostFn args => exact absurd h (by simp [validateAuthorizedInvocation])
      | createContractV2HostFn args => exact absurd h (by simp [validateAuthorizedInvocation])

/-! ## Entries -/

/-- An entry has address credentials, of the first or second version, for an address. -/
def WalletCredentials (entry : SorobanAuthorizationEntry) (wallet : ScAddress) : Prop :=
  ∃ credentials, credentials.address = wallet ∧
    (entry.credentials = .address credentials ∨ entry.credentials = .addressV2 credentials)

/-- The root of an entry is a call with the encoding of the given one. -/
def RootCalls (entry : SorobanAuthorizationEntry) (invoke : InvokeContractArgs) : Prop :=
  ∃ args, entry.rootInvocation.function = .contractFn args ∧ args.toXDR = invoke.toXDR

/-- The root of an entry is a contract creation with the encoding of the given one. -/
def RootCreates (entry : SorobanAuthorizationEntry) (deploy : CreateContractArgsV2) : Prop :=
  ∃ args, entry.rootInvocation.function = .createContractV2HostFn args ∧
    args.toXDR = deploy.toXDR

theorem rootCalls_iff {entry : SorobanAuthorizationEntry} {invoke : InvokeContractArgs} :
    SorobanAuthorizationEntry.calls entry invoke = true ↔ RootCalls entry invoke := by
  unfold SorobanAuthorizationEntry.calls RootCalls
  cases entry.rootInvocation.function <;> simp [SorobanAuthorizedFunction.contractFn?]

theorem rootCreates_iff {entry : SorobanAuthorizationEntry} {deploy : CreateContractArgsV2} :
    SorobanAuthorizationEntry.creates entry deploy = true ↔ RootCreates entry deploy := by
  unfold SorobanAuthorizationEntry.creates RootCreates
  cases entry.rootInvocation.function <;> simp [SorobanAuthorizedFunction.createContractV2HostFn?]

theorem walletAuthAddress_eq_ok {entry : SorobanAuthorizationEntry} {wallet : ScAddress}
    {text : String} (hwallet : wallet.toStrkey = some text)
    (h : walletAuthAddress entry = .ok text) : WalletCredentials entry wallet := by
  unfold walletAuthAddress at h
  dsimp only at h
  split at h
  · rename_i credentials hcredentials
    have htext := accountOrContractIdOf_eq_ok h
    exact ⟨credentials, ScAddress.toStrkey_inj htext hwallet, Or.inl hcredentials⟩
  · rename_i credentials hcredentials
    have htext := accountOrContractIdOf_eq_ok h
    exact ⟨credentials, ScAddress.toStrkey_inj htext hwallet, Or.inr hcredentials⟩
  · exact absurd h (by simp)

/-! ## The three shapes -/

/-- The constructor arguments of an account with one passkey. -/
def OnePasskeyConstructor (constructorArgs : List ScVal) (salt : BytesN 32) : Prop :=
  ∃ tag verifier keyData policies,
    constructorArgs =
      [.vec (some [.vec (some [.symbol tag, .address (.contract verifier), .bytes keyData])]),
        .map policies] ∧
    utf8Decode tag = "External" ∧ 65 < keyData.length ∧ keyData.head? = some 0x04 ∧
    salt = hash (keyData.drop 65) ∧
    ∀ policy ∈ policies.getD [], ∃ contractId, policy.1 = .address (.contract contractId)

/-- A deployment of allowed code, for the account of one passkey, by an address. -/
structure AllowedDeploy (sdk : ProxySdk) (env : ProxyEnv) (deploy : CreateContractArgsV2)
    (deployer : ScAddress) : Prop where
  code : ∃ hashes wasmHash, allowedDeployWasmHashes sdk.lower env = .ok hashes ∧
    deploy.executable = .wasm wasmHash ∧ toHex wasmHash.1 ∈ hashes
  constructs : ∃ salt, deploy.contractIdPreimage = .fromAddress deployer salt ∧
    OnePasskeyConstructor deploy.constructorArgs salt

/-- A deployment that an allowed deployer authorizes, and nothing else. -/
structure SponsoredDeploy (sdk : ProxySdk) (env : ProxyEnv) (deploy : CreateContractArgsV2)
    (auth : List SorobanAuthorizationEntry) : Prop where
  deployer : ∃ deployer text credentials entry, AllowedDeploy sdk env deploy deployer ∧
    deployer.toStrkey = some text ∧ text ∈ csvSet env.ALLOWED_DEPLOYER_ADDRESSES ∧
    auth = [entry] ∧ entry.credentials = .address credentials ∧
    credentials.address = deployer ∧ RootCreates entry deploy ∧
    entry.rootInvocation.subInvocations = []

/-- A transfer of an allowed token that an allowed wallet authorizes, and nothing else. -/
structure SponsoredTransfer (sdk : ProxySdk) (env : ProxyEnv) (t : History ProxyServices)
    (invoke : InvokeContractArgs) (auth : List SorobanAuthorizationEntry) : Prop where
  transfers : utf8Decode invoke.functionName = "transfer"
  source : ∃ wallet text second third entry,
    invoke.args = [.address (.contract wallet), second, third] ∧
    (ScAddress.contract wallet).toStrkey = some text ∧ WalletAllowed sdk env t text ∧
    auth = [entry] ∧ WalletCredentials entry (.contract wallet) ∧ RootCalls entry invoke ∧
    entry.rootInvocation.subInvocations = []
  token : ∃ token text, invoke.contractAddress = .contract token ∧
    (ScAddress.contract token).toStrkey = some text ∧ TokenAllowed env t text

/-- A call of an allowed wallet whose entries authorize calls of the wallet only. -/
structure SponsoredWalletCall (sdk : ProxySdk) (env : ProxyEnv) (t : History ProxyServices)
    (invoke : InvokeContractArgs) (auth : List SorobanAuthorizationEntry) : Prop where
  function : utf8Decode invoke.functionName ∈ allowedWalletFunctions env
  wallet : ∃ wallet text, invoke.contractAddress = .contract wallet ∧
    (ScAddress.contract wallet).toStrkey = some text ∧ WalletAllowed sdk env t text ∧
    ∀ entry ∈ auth, WalletCredentials entry (.contract wallet) ∧ RootCalls entry invoke ∧
      ∀ node ∈ entry.rootInvocation.nodes, CallsContract (.contract wallet) node

/-- A host function and its entries have one of the three shapes. -/
inductive Sponsored (sdk : ProxySdk) (env : ProxyEnv) (t : History ProxyServices) :
    HostFunction → List SorobanAuthorizationEntry → Prop where
  | deploy (deploy : CreateContractArgsV2) (auth : List SorobanAuthorizationEntry)
      (h : SponsoredDeploy sdk env deploy auth) : Sponsored sdk env t (.createContractV2 deploy) auth
  | transfer (invoke : InvokeContractArgs) (auth : List SorobanAuthorizationEntry)
      (h : SponsoredTransfer sdk env t invoke auth) : Sponsored sdk env t (.invokeContract invoke) auth
  | walletCall (invoke : InvokeContractArgs) (auth : List SorobanAuthorizationEntry)
      (h : SponsoredWalletCall sdk env t invoke auth) :
      Sponsored sdk env t (.invokeContract invoke) auth

/-! ## Calls -/

section calls

variable {sdk : ProxySdk} {env : ProxyEnv} {t : History ProxyServices}
  {invoke : InvokeContractArgs} {auth : List SorobanAuthorizationEntry}

theorem validateWalletEntry_eq_ok {wallet : ScAddress} {contractId : String}
    (hwallet : wallet.toStrkey = some contractId) {entry : SorobanAuthorizationEntry}
    (h : validateWalletEntry contractId invoke entry = .ok ()) :
    WalletCredentials entry wallet ∧ RootCalls entry invoke ∧
      ∀ node ∈ entry.rootInvocation.nodes, CallsContract wallet node := by
  unfold validateWalletEntry at h
  obtain ⟨signer, hsigner, h⟩ := except_bind_eq_ok.mp h
  obtain ⟨heq, h⟩ := throwIf_bind_eq_ok.mp h
  obtain ⟨_, htree, hroot⟩ := except_bind_eq_ok.mp h
  rw [not_not] at heq
  rw [heq] at hsigner
  have hcalls : SorobanAuthorizationEntry.calls entry invoke = true := by
    simpa using throwIf_eq_ok.mp hroot
  exact ⟨walletAuthAddress_eq_ok hwallet hsigner, rootCalls_iff.mp hcalls,
    validateAuthorizedInvocation_eq_ok hwallet htree⟩

theorem run_validateWalletInvocation
    (h : Run (validateWalletInvocation sdk env invoke auth) t (.ok ())) :
    SponsoredWalletCall sdk env t invoke auth := by
  obtain ⟨contractId, hcontract, h⟩ := run_ofExcept_bind_ok.mp h
  obtain ⟨wallet, haddress, htext⟩ := contractIdOf_eq_ok.mp hcontract
  rw [haddress] at htext
  obtain ⟨allowed, t₁, t₂, rfl, hallowed, h⟩ := run_bind_ok.mp h
  obtain ⟨rfl, hchecks⟩ := run_ofExcept.mp h
  obtain ⟨hyes, hchecks⟩ := throwIf_bind_eq_ok.mp hchecks.symm
  obtain ⟨hfunction, hentries⟩ := throwIf_bind_eq_ok.mp hchecks
  rw [not_not] at hfunction
  have hyes : allowed = true := by simpa using hyes
  rw [hyes] at hallowed
  rw [List.append_nil]
  have hwallet := run_walletContractIsAllowed hallowed
  refine ⟨hfunction, wallet, contractId, haddress, htext, hwallet, fun entry hentry => ?_⟩
  exact validateWalletEntry_eq_ok htext (forM_eq_ok.mp hentries entry hentry)

theorem run_validateTransferEntry {wallet : ScAddress} {source : String}
    (hwallet : wallet.toStrkey = some source) {entry : SorobanAuthorizationEntry}
    (h : Run (validateTransferEntry sdk env source invoke entry) t (.ok ())) :
    WalletAllowed sdk env t source ∧ WalletCredentials entry wallet ∧ RootCalls entry invoke ∧
      entry.rootInvocation.subInvocations = [] := by
  obtain ⟨signer, hsigner, h⟩ := run_ofExcept_bind_ok.mp h
  obtain ⟨allowed, t₁, t₂, rfl, hallowed, h⟩ := run_bind_ok.mp h
  obtain ⟨rfl, hchecks⟩ := run_ofExcept.mp h
  have hchecks := throwIf_eq_ok.mp hchecks.symm
  simp only [not_or, Bool.not_eq_false, not_not] at hchecks
  obtain ⟨hyes, hsubs, hcalls⟩ := hchecks
  rw [hyes] at hallowed
  rw [List.append_nil]
  unfold transferWalletIsAllowed at hallowed
  split_ifs at hallowed with hsource
  · exact absurd (run_pure.mp hallowed).2 (by simp)
  rw [not_not] at hsource
  rw [hsource] at hsigner hallowed
  exact ⟨run_walletContractIsAllowed hallowed, walletAuthAddress_eq_ok hwallet hsigner,
    rootCalls_iff.mp hcalls, hsubs⟩

theorem run_validateDirectTokenTransfer (hname : utf8Decode invoke.functionName = "transfer")
    (h : Run (validateDirectTokenTransfer sdk env invoke auth) t (.ok ())) :
    SponsoredTransfer sdk env t invoke auth := by
  obtain ⟨_, hlength, h⟩ := run_ofExcept_bind_ok.mp h
  have hlength : auth.length = 1 := by simpa using throwIf_eq_ok.mp hlength
  obtain ⟨entry, hauth⟩ := List.length_eq_one_iff.mp hlength
  obtain ⟨text, hsource, h⟩ := run_ofExcept_bind_ok.mp h
  -- the first of three arguments is the wallet
  have hargs : ∃ wallet second third, invoke.args = [.address (.contract wallet), second, third] ∧
      (ScAddress.contract wallet).toStrkey = some text := by
    split at hsource
    · rename_i source second third hinvoke
      obtain ⟨wallet, haddress, htext⟩ := contractIdOf_eq_ok.mp hsource
      rw [haddress] at hinvoke htext
      exact ⟨wallet, second, third, hinvoke, htext⟩
    · exact absurd hsource (by simp)
  obtain ⟨wallet, second, third, hinvoke, htext⟩ := hargs
  obtain ⟨_, t₁, t', rfl, hentries, h⟩ := run_bind_ok.mp h
  obtain ⟨tokenText, htoken, h⟩ := run_ofExcept_bind_ok.mp h
  obtain ⟨token, htokenAddress, htokenText⟩ := contractIdOf_eq_ok.mp htoken
  rw [htokenAddress] at htokenText
  obtain ⟨allowed, t₂, t₃, rfl, hallowed, h⟩ := run_bind_ok.mp h
  obtain ⟨rfl, hyes⟩ := run_ofExcept.mp h
  have hyes : allowed = true := by simpa using throwIf_eq_ok.mp hyes.symm
  rw [hyes] at hallowed
  -- the loop over the entries has one round
  rw [hauth, forEach] at hentries
  obtain ⟨_, t₄, t₅, rfl, hentry, hend⟩ := run_bind_ok.mp hentries
  obtain ⟨hwallet, hcredentials, hroot, hsubs⟩ := run_validateTransferEntry htext hentry
  have hbefore : t₄ ⊆ t₄ ++ t₅ ++ (t₂ ++ []) := by simp
  have hafter : t₂ ⊆ t₄ ++ t₅ ++ (t₂ ++ []) := by simp
  exact {
    transfers := hname
    source := ⟨wallet, text, second, third, entry, hinvoke, htext, hwallet.mono hbefore, hauth,
      hcredentials, hroot, hsubs⟩
    token := ⟨token, tokenText, htokenAddress, htokenText,
      (run_tokenContractIsAllowed hallowed).mono hafter⟩ }

end calls

/-! ## Deployments -/

theorem validatePolicyKey_eq_ok {key : ScVal} (h : validatePolicyKey key = .ok ()) :
    ∃ contractId, key = .address (.contract contractId) := by
  unfold validatePolicyKey at h
  dsimp only at h
  split at h
  · obtain ⟨text, haddress, -⟩ := except_bind_eq_ok.mp h
    obtain ⟨contractId, hcontract, -⟩ := contractIdOf_eq_ok.mp haddress
    exact ⟨contractId, by rw [hcontract]⟩
  · exact absurd h (by simp)

theorem constructorSigner?_eq_some {signer : List ScVal} {verifier : ScAddress} {keyData : Bytes}
    (h : constructorSigner? signer = some (verifier, keyData)) :
    ∃ tag, signer = [.symbol tag, .address verifier, .bytes keyData] ∧
      utf8Decode tag = "External" := by
  unfold constructorSigner? at h
  split at h
  · rename_i tag verifier' keyData'
    split_ifs at h with htag
    have hparts : verifier' = verifier ∧ keyData' = keyData := by simpa using h
    rw [hparts.1, hparts.2]
    exact ⟨tag, rfl, htag⟩
  · exact absurd h (by simp)

theorem validateDeployConstructor_eq_ok {constructorArgs : List ScVal} {salt : BytesN 32}
    (h : validateDeployConstructor constructorArgs salt = .ok ()) :
    OnePasskeyConstructor constructorArgs salt := by
  unfold validateDeployConstructor at h
  split at h
  · rename_i signers policies
    split at h
    · rename_i signer hsigners
      split at h
      · rename_i verifier keyData hsigner
        obtain ⟨text, hverifier, h⟩ := except_bind_eq_ok.mp h
        obtain ⟨hkey, h⟩ := throwIf_bind_eq_ok.mp h
        obtain ⟨hsalt, hpolicies⟩ := throwIf_bind_eq_ok.mp h
        obtain ⟨contractId, hcontract, -⟩ := contractIdOf_eq_ok.mp hverifier
        obtain ⟨tag, htag, hexternal⟩ := constructorSigner?_eq_some hsigner
        rw [not_not] at hsalt
        simp only [not_or, not_le, not_not] at hkey
        -- a missing vector has no items, so both vectors are there
        have hsome : signers = some [.vec signer] := by
          cases signers with
          | none => exact absurd hsigners (by simp)
          | some items => rw [Option.getD_some] at hsigners; rw [hsigners]
        have hinner : signer = some [.symbol tag, .address verifier, .bytes keyData] := by
          cases signer with
          | none => exact absurd htag (by simp)
          | some items => rw [Option.getD_some] at htag; rw [htag]
        rw [hsome, hinner, hcontract]
        refine ⟨tag, contractId, keyData, policies, rfl, hexternal, hkey.1, hkey.2, hsalt.symm, ?_⟩
        intro policy hpolicy
        exact validatePolicyKey_eq_ok (forM_eq_ok.mp hpolicies policy hpolicy)
      · exact absurd h (by simp)
    · exact absurd h (by simp)
  · exact absurd h (by simp)

section deploy

variable {sdk : ProxySdk} {env : ProxyEnv}

theorem validateDeployFunction_eq_ok {func : HostFunction} {required : Bool} {text : String}
    (h : validateDeployFunction sdk env func required = .ok text) :
    ∃ deploy deployer, func = .createContractV2 deploy ∧ AllowedDeploy sdk env deploy deployer ∧
      deployer.toStrkey = some text ∧
      (required = true → text ∈ csvSet env.ALLOWED_DEPLOYER_ADDRESSES) := by
  unfold validateDeployFunction at h
  split at h
  · exact absurd h (by simp)
  rename_i deploy hfunc
  have hfunc : func = .createContractV2 deploy := by
    cases func <;> simp_all [HostFunction.createContractV2?]
  split at h
  · rename_i wasmHash hexecutable
    obtain ⟨hashes, hhashes, h⟩ := except_bind_eq_ok.mp h
    obtain ⟨hmem, h⟩ := throwIf_bind_eq_ok.mp h
    rw [not_not] at hmem
    split at h
    · rename_i address salt hpreimage
      obtain ⟨deployer, hdeployer, h⟩ := except_bind_eq_ok.mp h
      obtain ⟨hlisted, h⟩ := throwIf_bind_eq_ok.mp h
      obtain ⟨_, hconstructor, h⟩ := except_bind_eq_ok.mp h
      obtain rfl : deployer = text := Except.ok.inj h
      refine ⟨deploy, address, hfunc, ⟨⟨hashes, wasmHash, hhashes, hexecutable, hmem⟩, salt,
        hpreimage, validateDeployConstructor_eq_ok hconstructor⟩,
        accountOrContractIdOf_eq_ok hdeployer, fun hrequired => ?_⟩
      by_contra hnot
      exact hlisted ⟨hrequired, hnot⟩
    · exact absurd h (by simp)
  · exact absurd h (by simp)

theorem onlyDeployEntry_eq_ok {auth : List SorobanAuthorizationEntry}
    {entry : SorobanAuthorizationEntry} (h : onlyDeployEntry auth = .ok entry) :
    auth = [entry] := by
  unfold onlyDeployEntry at h
  split at h
  · rw [Except.ok.inj h]
  · exact absurd h (by simp)

theorem validateFuncDeploy_eq_ok {deploy : CreateContractArgsV2}
    {auth : List SorobanAuthorizationEntry}
    (h : validateFuncDeploy sdk env deploy auth = .ok ()) : SponsoredDeploy sdk env deploy auth := by
  obtain ⟨entry, hentry, h⟩ := except_bind_eq_ok.mp h
  obtain ⟨text, hdeploy, h⟩ := except_bind_eq_ok.mp h
  obtain ⟨deploy', deployer, hfunc, hallowed, htext, hlisted⟩ := validateDeployFunction_eq_ok hdeploy
  obtain rfl : deploy = deploy' := HostFunction.createContractV2.inj hfunc
  unfold validateDeployEntry at h
  split at h
  · rename_i credentials hcredentials
    obtain ⟨signer, hsigner, h⟩ := except_bind_eq_ok.mp h
    have hchecks := throwIf_eq_ok.mp h
    simp only [not_or, not_not, Bool.not_eq_false] at hchecks
    obtain ⟨hsame, hsubs, hcreates⟩ := hchecks
    have hsignerText := accountOrContractIdOf_eq_ok hsigner
    rw [hsame] at hsignerText
    exact ⟨deployer, text, credentials, entry, hallowed, htext, hlisted rfl,
      onlyDeployEntry_eq_ok hentry, hcredentials, ScAddress.toStrkey_inj hsignerText htext,
      rootCreates_iff.mp hcreates, hsubs⟩
  · exact absurd h (by simp)

end deploy

/-! ## Simulation -/

/-- The simulation of a transaction succeeded within the fee ceiling. -/
def SimulatedWithin (env : ProxyEnv) (t : History ProxyServices) (tx : SimulatedTransaction)
    (fee : ℤ) (data : Option SorobanTransactionData) : Prop :=
  ∃ text ceiling, (⟨.simulateTransaction tx, .ok (.success text data)⟩ :
    Exchange ProxyServices) ∈ t ∧ textBigInt? text = some fee ∧
    maxResourceFee env = .ok ceiling ∧ fee ≤ ceiling

theorem SimulatedWithin.mono {env : ProxyEnv} {t t' : History ProxyServices}
    {tx : SimulatedTransaction} {fee : ℤ} {data : Option SorobanTransactionData}
    (h : SimulatedWithin env t tx fee data) (ht : t ⊆ t') : SimulatedWithin env t' tx fee data := by
  obtain ⟨text, ceiling, hmem, hrest⟩ := h
  exact ⟨text, ceiling, ht hmem, hrest⟩

theorem parseBigInt_eq_ok {text : String} {value : ℤ} :
    parseBigInt text = .ok value ↔ textBigInt? text = some value := by
  unfold parseBigInt
  cases h : textBigInt? text <;> simp

theorem run_simulateWithinFeeCeiling {env : ProxyEnv} {tx : SimulatedTransaction}
    {t : History ProxyServices} {fee : ℤ} {data : Option SorobanTransactionData}
    (h : Run (simulateWithinFeeCeiling env tx) t (.ok (fee, data))) :
    SimulatedWithin env t tx fee data := by
  obtain ⟨_, -, h⟩ := run_ofExcept_bind_ok.mp h
  obtain ⟨answer, t₁, t₂, rfl, hask, h⟩ := run_bind_ok.mp h
  obtain ⟨rfl, hanswer⟩ := run_ofExcept.mp h
  obtain ⟨reply, rfl, hreply⟩ := run_await.mp hask
  have hok : reply = .ok answer := by
    cases reply with
    | error message => exact absurd hreply (by simp [Except.mapError])
    | ok answer' => exact congrArg Except.ok (Except.ok.inj hreply).symm
  split at hanswer
  · rename_i text data'
    obtain ⟨fee', hfee, hanswer⟩ := except_bind_eq_ok.mp hanswer.symm
    obtain ⟨ceiling, hceiling, hanswer⟩ := except_bind_eq_ok.mp hanswer
    obtain ⟨hle, hanswer⟩ := throwIf_bind_eq_ok.mp hanswer
    have hpair : fee' = fee ∧ data' = data := by simpa using Except.ok.inj hanswer
    rw [hpair.1] at hfee hle
    rw [hpair.2] at hok
    refine ⟨text, ceiling, ?_, parseBigInt_eq_ok.mp hfee, hceiling, by omega⟩
    rw [hok]
    simp
  · exact absurd hanswer (by simp)

/-! ## The submission -/

section submission

variable {sdk : ProxySdk} {env : ProxyEnv} {t t' : History ProxyServices}

theorem Sponsored.mono {func : HostFunction} {auth : List SorobanAuthorizationEntry}
    (h : Sponsored sdk env t func auth) (ht : t ⊆ t') : Sponsored sdk env t' func auth := by
  cases h with
  | deploy deploy auth h => exact .deploy deploy auth h
  | transfer invoke auth h =>
    obtain ⟨htransfers, ⟨wallet, text, second, third, entry, hargs, htext, hwallet, hrest⟩, token,
      tokenText, haddress, htokenText, htoken⟩ := h
    exact .transfer invoke auth ⟨htransfers, ⟨wallet, text, second, third, entry, hargs, htext,
      hwallet.mono ht, hrest⟩, token, tokenText, haddress, htokenText, htoken.mono ht⟩
  | walletCall invoke auth h =>
    obtain ⟨hfunction, wallet, text, haddress, htext, hwallet, hentries⟩ := h
    exact .walletCall invoke auth ⟨hfunction, wallet, text, haddress, htext, hwallet.mono ht,
      hentries⟩

theorem run_validateHostFunction {func : HostFunction} {auth : List SorobanAuthorizationEntry}
    (h : Run (validateHostFunction sdk env func auth) t (.ok ())) :
    Sponsored sdk env t func auth := by
  cases func with
  | createContractV2 deploy =>
    exact .deploy deploy auth (validateFuncDeploy_eq_ok (run_ofExcept.mp h).2.symm)
  | invokeContract invoke =>
    rw [validateHostFunction] at h
    split_ifs at h with hname
    · exact .transfer invoke auth (run_validateDirectTokenTransfer hname h)
    · exact .walletCall invoke auth (run_validateWalletInvocation h)
  | createContract args => exact absurd (run_throw.mp h).2 (by simp)
  | uploadContractWasm wasm => exact absurd (run_throw.mp h).2 (by simp)

/-- What is sponsored as a host function has one of the three shapes, and its simulation succeeded
within the fee ceiling. -/
theorem validateFuncSubmission_sponsored {funcText : String} {authTexts : List String}
    (h : Run (validateFuncSubmission sdk env funcText authTexts) t (.ok ())) :
    ∃ func auth, decodeFuncBody sdk funcText authTexts = .ok (func, auth) ∧
      Sponsored sdk env t func auth ∧
      ∃ passphrase fee data, networkPassphrase env = .ok passphrase ∧
        SimulatedWithin env t (.built SIMULATION_SOURCE "0" "100" passphrase func auth) fee data := by
  obtain ⟨⟨func, auth⟩, hdecode, h⟩ := run_ofExcept_bind_ok.mp h
  obtain ⟨_, t₁, t', rfl, hchecks, h⟩ := run_bind_ok.mp h
  obtain ⟨passphrase, hpassphrase, h⟩ := run_ofExcept_bind_ok.mp h
  obtain ⟨⟨fee, data⟩, t₂, t₃, rfl, hsimulated, -⟩ := run_bind_ok.mp h
  have hsponsored := run_validateHostFunction hchecks
  refine ⟨func, auth, hdecode, hsponsored.mono (by simp), passphrase, fee, data, hpassphrase, ?_⟩
  exact (run_simulateWithinFeeCeiling hsimulated).mono (by simp)

end submission

/-! ## A sponsored call -/

/-- A call of the sample wallet. -/
def sampleCall : InvokeContractArgs := ⟨sampleContract 1, utf8Encode "execute", []⟩

/-- The entry that authorizes the call. -/
def sampleCallEntry : SorobanAuthorizationEntry :=
  ⟨.address ⟨sampleContract 1, 7, 100, .void⟩, .node (.contractFn sampleCall) []⟩

/-- The texts of the call and of its entry. -/
def sampleCallText : String := toBase64 (xdrU32 0 ++ sampleCall.toXDR)

def sampleCallEntryText : String :=
  toBase64 (xdrU32 1 ++ ((sampleContract 1).toXDR ++ (xdrU64 7 ++ (xdrU32 100 ++
    (ScVal.void.toXDR ++ sampleCallEntry.rootInvocation.toXDR)))))

/-- An SDK that reads the texts of the call. -/
def sampleCallSdk : ProxySdk where
  lower := .asciiOnly
  hostFunctionFromXDR text := if text = sampleCallText then some (.invokeContract sampleCall) else none
  authorizationEntryFromXDR text :=
    if text = sampleCallEntryText then some sampleCallEntry else none
  transactionFromXDR _ _ := none
  publicKeyOfSeed seed := seed
  verify _ _ _ := false
  hasHttpClient := true

/-- A proxy that sponsors the sample wallet. -/
def sampleCallEnv : ProxyEnv where
  NETWORK := "testnet"
  STELLAR_RPC_URL := "https://soroban-testnet.stellar.org"
  ALLOWED_WALLET_CONTRACT_IDS := some (sampleContractId 1)

theorem sampleCall_allowed :
    walletContractIsAllowed sampleCallSdk sampleCallEnv (sampleContractId 1) = pure true := by
  have hvalid : isValidContract (sampleContractId 1) = true :=
    isValidContract_iff.mpr ⟨_, sampleContract_toStrkey 1⟩
  have hlisted : sampleContractId 1 ∈ csvSet sampleCallEnv.ALLOWED_WALLET_CONTRACT_IDS := by
    show sampleContractId 1 ∈ csvSet (some (sampleContractId 1))
    rw [sampleContractId, csvSet_singleton (csvItem_encodeCheck _ _)]
    exact List.mem_singleton.mpr rfl
  unfold walletContractIsAllowed
  rw [hvalid, if_neg (by simp), if_pos hlisted]

theorem sampleCall_entry :
    validateWalletEntry (sampleContractId 1) sampleCall sampleCallEntry = .ok () := by
  have hwallet : walletAuthAddress sampleCallEntry = .ok (sampleContractId 1) := rfl
  have htarget : contractIdOf sampleCall.contractAddress "Auth entry target must be a contract" =
      .ok (sampleContractId 1) := rfl
  have htree : validateAuthorizedInvocation (sampleContractId 1) sampleCallEntry.rootInvocation =
      .ok () := by
    rw [sampleCallEntry, validateAuthorizedInvocation, htarget]
    simp [validateSubInvocations, throwIf, except_ok_bind]
  have hroot : SorobanAuthorizationEntry.calls sampleCallEntry sampleCall = true :=
    rootCalls_iff.mpr ⟨sampleCall, rfl, rfl⟩
  unfold validateWalletEntry
  rw [hwallet, htree, hroot]
  simp [throwIf, except_ok_bind]

/-- The simulation of the sample call succeeds. -/
def sampleSimulation : History ProxyServices :=
  [⟨.simulateTransaction (.built SIMULATION_SOURCE "0" "100"
      "Test SDF Network ; September 2015" (.invokeContract sampleCall) [sampleCallEntry]),
    .ok (.success "100" none)⟩]

theorem sampleCall_run :
    Run (validateFuncSubmission sampleCallSdk sampleCallEnv sampleCallText [sampleCallEntryText])
      sampleSimulation (.ok ()) := by
  have hname : utf8Decode sampleCall.functionName = "execute" := utf8Decode_utf8Encode _
  have hdecode : decodeFuncBody sampleCallSdk sampleCallText [sampleCallEntryText] =
      .ok (.invokeContract sampleCall, [sampleCallEntry]) := by
    simp [decodeFuncBody, sampleCallSdk]
  have hfunction : utf8Decode sampleCall.functionName ∈ allowedWalletFunctions sampleCallEnv := by
    rw [hname, allowedWalletFunctions_default rfl]
    exact List.mem_cons_self
  have hchecks : Run (validateHostFunction sampleCallSdk sampleCallEnv
      (.invokeContract sampleCall) [sampleCallEntry]) [] (.ok ()) := by
    rw [validateHostFunction, if_neg (by rw [hname]; decide)]
    refine run_ofExcept_bind_ok.mpr ⟨sampleContractId 1, rfl, run_bind_ok.mpr
      ⟨true, [], [], rfl, ?_, run_ofExcept.mpr ⟨rfl, ?_⟩⟩⟩
    · rw [sampleCall_allowed]
      exact run_pure.mpr ⟨rfl, rfl⟩
    · simp [throwIf, hfunction, sampleCall_entry, except_ok_bind]
  refine run_ofExcept_bind_ok.mpr ⟨_, hdecode, run_bind_ok.mpr ⟨(), [], _, rfl, hchecks, ?_⟩⟩
  refine run_ofExcept_bind_ok.mpr ⟨_, rfl, run_bind_ok.mpr ⟨(100, none), _, [],
    (List.append_nil _).symm, ?_, run_pure.mpr ⟨rfl, rfl⟩⟩⟩
  refine run_ofExcept_bind_ok.mpr ⟨(), rfl, run_bind_ok.mpr ⟨.success "100" none, _, [],
    (List.append_nil _).symm, run_await.mpr ⟨_, rfl, rfl⟩, run_ofExcept.mpr ⟨rfl, ?_⟩⟩⟩
  have hfee : parseBigInt "100" = .ok 100 := by rfl
  have hceiling : maxResourceFee sampleCallEnv = .ok 1000000 := by rfl
  simp only [hfee, hceiling, except_ok_bind]
  rfl

/-- The sample call is sponsored. -/
theorem validateFuncSubmission_sponsored_sample :
    ∃ t func auth, decodeFuncBody sampleCallSdk sampleCallText [sampleCallEntryText] =
      .ok (func, auth) ∧ Sponsored sampleCallSdk sampleCallEnv t func auth := by
  obtain ⟨func, auth, hdecode, hsponsored, -⟩ := validateFuncSubmission_sponsored sampleCall_run
  exact ⟨_, func, auth, hdecode, hsponsored⟩

end SmartAccountKit.RelayerProxy
