import SmartAccountKit.CredentialTheorems

/-!
# The record that a deployment leaves

A wallet is deployed either in one call, or for a credential created before. The
record of the first is usable for later connections; that of the second never
gets the address of its wallet.
-/

namespace SmartAccountKit
open Lib

/-! ## A deployment that succeeded -/

/-- The record after a deployment with a descriptor that was confirmed. -/
def StoredCredential.deployed (credential : StoredCredential) (descriptor : DeploymentBirthDescriptor)
    (hash : String) (ledger : JsNumber) : StoredCredential :=
  (credential.apply descriptor.updates).apply (submissionUpdates (.ok (hash, ledger)))

/-- What the facts of a confirmed deployment are. -/
structure ConfirmedFacts (descriptor : DeploymentBirthDescriptor) (hash : String)
    (ledger : JsNumber) : Prop where
  wasm : IsHashHex descriptor.birthWasmHash
  hash_ne_empty : hash ≠ ""
  safe : ledger.isSafeInteger = true
  positive : ledger.lt (.ofNat 1) = false

section deploy

variable {config : WalletConfig} {credentialId contractId : String} {publicKey : Bytes}
  {options : DeployOptions} {deployed : DeployedWallet} {t : History WalletEnvironment}
  {s s' : WalletStorage}

theorem describeDeploymentBirth_wasm {deployTx : DeployTransaction}
    {descriptor : DeploymentBirthDescriptor} (h : describeDeploymentBirth deployTx = .ok descriptor) :
    IsHashHex descriptor.birthWasmHash := by
  obtain ⟨create, -, hcreate⟩ := except_bind_eq_ok.mp h
  cases hexecutable : create.executable with
  | wasm wasmHash =>
    rw [hexecutable] at hcreate
    rw [← Except.ok.inj hcreate]
    exact isHashHex_toHex wasmHash
  | stellarAsset => rw [hexecutable] at hcreate; exact nomatch hcreate
  | externalRef owner tag => rw [hexecutable] at hcreate; exact nomatch hcreate

theorem submissionResult_eq_success {outcome : Except SubmissionStop (String × JsNumber)}
    {hash : String} {ledger : JsNumber} (h : submissionResult outcome = .success hash ledger) :
    outcome = .ok (hash, ledger) := by
  cases outcome with
  | ok confirmed =>
    injection h with hhash hledger
    rw [← hhash, ← hledger]
  | error stop => exact nomatch h

/-- A submission that succeeds updates the record with its confirmed creation. -/
theorem run_submitIfAsked_ok {deployTx : DeployTransaction} {artifacts : DeploymentArtifacts}
    {hash : String} {ledger : JsNumber}
    (hrun : Program.Run (submitIfAsked config options deployTx artifacts credentialId) t
      (.ok (some (.success hash ledger))))
    (hthreads : walletMemory.Threads s t s') :
    (hash ≠ "" ∧ ledger.isSafeInteger = true ∧ ledger.lt (.ofNat 1) = false) ∧
      s'.credentials =
        s.credentials.update credentialId (submissionUpdates (.ok (hash, ledger))) := by
  rw [submitIfAsked] at hrun
  split_ifs at hrun with hauto
  · obtain ⟨result, t₁, t₂, rfl, hsubmit, hresult⟩ := Program.run_bind_ok.mp hrun
    obtain ⟨rfl, hsome⟩ := Program.run_pure.mp hresult
    obtain rfl := Option.some.inj (Except.ok.inj hsome)
    rcases run_submitDeploymentTx hsubmit with ⟨e, -, he, -⟩ | ⟨-, before, outcome, rfl, hok, hconfirm⟩
    · exact nomatch he
    obtain rfl := submissionResult_eq_success (Except.ok.inj hok).symm
    obtain ⟨-, -, -, -, -, hsafe, hpositive, envelope, create, -, hhash, -⟩ :=
      run_submitAndConfirm hconfirm
    refine ⟨⟨?_, hsafe, hpositive⟩, ?_⟩
    · rintro rfl
      exact (isHashHex_toHex envelope.hash).ne_empty
        (hhash.trans (String.toList_injective (by simp [String.toList_map])))
    · rw [List.append_nil] at hthreads
      obtain ⟨s₁, hbefore, hwrite⟩ := Memory.threads_append.mp hthreads
      have hs₁ : s₁.credentials = s.credentials :=
        (walletMemory_keeps s.credentials).threads hbefore (fun e he =>
          WalletRequest.writesRecord_of_isWrite
            ((submitAndConfirm_asks _ _ hconfirm e he).1.1)) rfl
      obtain ⟨s₂, hstep, hnil⟩ := Memory.threads_cons.mp hwrite
      rw [Memory.threads_nil] at hnil
      obtain ⟨-, hs₂⟩ := hstep.served_inv rfl
      rw [hnil, hs₂, ← hs₁]
  · exact nomatch Except.ok.inj (Program.run_pure.mp hrun).2

/-- A deployment that succeeds updates the record with its birth facts. -/
theorem run_deployCredential_ok
    (hrun : Program.Run (deployCredential config credentialId publicKey contractId options) t
      (.ok deployed))
    (hthreads : walletMemory.Threads s t s') (hsuccess : deployed.succeeded = true) :
    (deployed.credentialId = credentialId ∧ deployed.contractId = contractId) ∧
      ∃ descriptor hash ledger, ConfirmedFacts descriptor hash ledger ∧
        s'.credentials = (s.credentials.update credentialId descriptor.updates).update credentialId
          (submissionUpdates (.ok (hash, ledger))) := by
  obtain ⟨deployTx, t₁, r₁, rfl, hbuild, hrun₁⟩ := Program.run_bind_ok.mp hrun
  obtain ⟨descriptor, hdescribe, hrun₂⟩ := Program.run_ofExcept_bind_ok.mp hrun₁
  obtain ⟨_, t₂, r₂, rfl, hupdate, hrun₃⟩ := Program.run_bind_ok.mp hrun₂
  obtain ⟨artifacts, t₃, r₃, rfl, hprepare, hrun₄⟩ := Program.run_bind_ok.mp hrun₃
  obtain ⟨submitResult, t₄, r₄, rfl, hsubmit, hdone⟩ := Program.run_bind_ok.mp hrun₄
  obtain ⟨rfl, hdeployed⟩ := Program.run_pure.mp hdone
  obtain rfl := Except.ok.inj hdeployed
  -- only the two updates write records
  obtain ⟨s₁, hthreads₁, hrest₁⟩ := Memory.threads_append.mp hthreads
  obtain ⟨s₂, hthreads₂, hrest₂⟩ := Memory.threads_append.mp hrest₁
  obtain ⟨s₃, hthreads₃, hthreads₄⟩ := Memory.threads_append.mp hrest₂
  rw [List.append_nil] at hthreads₄
  have hs₁ := (buildDeployTransaction_writesNothing _ _ _ _).keepsRecords.credentials hbuild
    hthreads₁
  have hs₃ := (prepareDeploymentArtifacts_writesNothing deployTx).keepsRecords.credentials hprepare
    hthreads₃
  obtain ⟨_, rfl, -⟩ := Program.run_await.mp hupdate
  obtain ⟨s₂', hstep, hnil⟩ := Memory.threads_cons.mp hthreads₂
  rw [Memory.threads_nil] at hnil
  obtain ⟨-, hs₂⟩ := hstep.served_inv rfl
  match submitResult with
  | none => exact nomatch hsuccess
  | some (.failure error hash) => exact nomatch hsuccess
  | some (.success hash ledger) =>
    obtain ⟨⟨hhash, hsafe, hpositive⟩, hs'⟩ := run_submitIfAsked_ok hsubmit hthreads₄
    refine ⟨⟨rfl, rfl⟩, descriptor, hash, ledger,
      ⟨describeDeploymentBirth_wasm hdescribe, hhash, hsafe, hpositive⟩, ?_⟩
    rw [hs', hs₃, hnil, hs₂, ← hs₁]

end deploy

/-! ## The two flows -/

/-- How a wallet is deployed: in one call, or for a credential created before. -/
inductive DeploymentFlow where
  | createWallet (fundOptions : FundOptions)
  | createThenDeploy

/-- The calls of a flow, with a submission. -/
def DeploymentFlow.program (config : WalletConfig) (options : DeployOptions) :
    DeploymentFlow → WalletProgram DeployedWallet
  | createWallet fundOptions => do
    let (deployed, _) ← SmartAccountKit.createWallet config { options with autoSubmit := true }
      fundOptions
    return deployed
  | createThenDeploy => do
    let credential ← CredentialManager.create
    CredentialManager.deploy config credential.credentialId { options with autoSubmit := true }

/-- The address that a flow writes into the record of its new credential. -/
def DeploymentFlow.recordedContractId (flow : DeploymentFlow) (contractId : String) : String :=
  match flow with
  | createWallet _ => contractId
  | createThenDeploy => ""

section flows

variable {config : WalletConfig} {options : DeployOptions} {flow : DeploymentFlow}
  {deployed : DeployedWallet} {t : History WalletEnvironment} {s s' : WalletStorage}

theorem connectDeployed_keepsRecords (deployed : DeployedWallet) :
    KeepsRecords (connectDeployed deployed) := by
  unfold connectDeployed
  split
  · exact Program.exchanges_bind (keepsRecords_await rfl) fun _ _ _ => keepsRecords_await rfl
  · exact Program.exchanges_done

theorem startSession_keepsRecords (config : WalletConfig) (deployed : DeployedWallet) :
    KeepsRecords (startSession config deployed) := by
  unfold startSession
  split
  · refine Program.exchanges_bind (keepsRecords_await rfl) fun _ _ _ => ?_
    refine Program.exchanges_bind (keepsRecords_await rfl) fun _ _ _ => ?_
    exact Program.exchanges_bind (keepsRecords_await rfl) fun _ _ _ => keepsRecords_await rfl
  · exact Program.exchanges_done

theorem fundIfAsked_keepsRecords (deployed : DeployedWallet) (options : FundOptions) :
    KeepsRecords (fundIfAsked deployed options) := by
  unfold fundIfAsked
  split
  · split
    · exact Program.exchanges_bind (keepsRecords_await rfl) fun _ _ _ => Program.exchanges_done
    · exact Program.exchanges_done
  · exact Program.exchanges_done

/-- Saving a new record and deploying it leaves the deployed record. -/
theorem deployed_save {store : CredentialStore} {credential : StoredCredential}
    {descriptor : DeploymentBirthDescriptor} {hash : String} {ledger : JsNumber} :
    ((store.save credential).update credential.credentialId descriptor.updates).update
        credential.credentialId (submissionUpdates (.ok (hash, ledger))) =
      store.save (credential.deployed descriptor hash ledger) := by
  rw [CredentialStore.update_save]
  exact CredentialStore.update_save

/-- A flow that succeeds saves the deployed record of a new credential. The address in it is that
of the wallet only if the flow is one call. -/
theorem run_flow_ok (hrun : Program.Run (flow.program config options) t (.ok deployed))
    (hthreads : walletMemory.Threads s t s') (hsuccess : deployed.succeeded = true) :
    derivedContractId config deployed.credentialId = .ok deployed.contractId ∧
      ∃ publicKey descriptor hash ledger, ConfirmedFacts descriptor hash ledger ∧
        s'.credentials = s.credentials.save (StoredCredential.deployed
          { credentialId := deployed.credentialId
            publicKey := publicKey
            contractId := flow.recordedContractId deployed.contractId
            isPrimary := some true
            deploymentStatus := some .pending } descriptor hash ledger) := by
  cases flow with
  | createWallet fundOptions =>
    obtain ⟨⟨deployed', fundResult⟩, t₁, t₂, rfl, hcreate, hdone⟩ := Program.run_bind_ok.mp hrun
    obtain ⟨rfl, hsame⟩ := Program.run_pure.mp hdone
    obtain rfl : deployed = deployed' := Except.ok.inj hsame
    rw [List.append_nil] at hthreads
    obtain ⟨_, -, hrun₁⟩ := Program.run_ofExcept_bind_ok.mp hcreate
    obtain ⟨_, -, hrun₂⟩ := Program.run_ofExcept_bind_ok.mp hrun₁
    obtain ⟨_, -, hrun₃⟩ := Program.run_ofExcept_bind_ok.mp hrun₂
    obtain ⟨passkey, t₃, r₃, rfl, hpasskey, hrun₄⟩ := Program.run_bind_ok.mp hrun₃
    obtain ⟨contractId, hderived, hrun₅⟩ := Program.run_ofExcept_bind_ok.mp hrun₄
    obtain ⟨_, t₄, r₄, rfl, hsave, hrun₅⟩ := Program.run_bind_ok.mp hrun₅
    obtain ⟨_, t₈, r₈, rfl, htold, hrun₆⟩ := Program.run_bind_ok.mp hrun₅
    obtain ⟨deployed'', t₅, r₅, rfl, hdeploy, hrun₇⟩ := Program.run_bind_ok.mp hrun₆
    obtain ⟨_, t₆, r₆, rfl, hsession, hrun₈⟩ := Program.run_bind_ok.mp hrun₇
    obtain ⟨funded, t₇, r₇, rfl, hfund, hlast⟩ := Program.run_bind_ok.mp hrun₈
    obtain ⟨rfl, hpair⟩ := Program.run_pure.mp hlast
    obtain rfl : deployed = deployed'' := congrArg Prod.fst (Except.ok.inj hpair)
    obtain ⟨s₁, hthreads₁, hrest₁⟩ := Memory.threads_append.mp hthreads
    obtain ⟨s₅, hthreads₂, hrest₁⟩ := Memory.threads_append.mp hrest₁
    obtain ⟨s₂, hthreads₆, hrest₂⟩ := Memory.threads_append.mp hrest₁
    obtain ⟨s₃, hthreads₃, hrest₃⟩ := Memory.threads_append.mp hrest₂
    obtain ⟨s₄, hthreads₄, hthreads₅⟩ := Memory.threads_append.mp hrest₃
    rw [List.append_nil] at hthreads₅
    have hs₁ := (keepsRecords_await rfl).credentials hpasskey hthreads₁
    have hs₆ := (keepsRecords_await rfl).credentials htold hthreads₆
    have hs₄ := (startSession_keepsRecords config deployed).credentials hsession hthreads₄
    have hs₅ := (fundIfAsked_keepsRecords deployed fundOptions).credentials hfund hthreads₅
    obtain ⟨_, rfl, -⟩ := Program.run_await.mp hsave
    obtain ⟨s₂', hstep, hnil⟩ := Memory.threads_cons.mp hthreads₂
    rw [Memory.threads_nil] at hnil
    obtain ⟨-, hs₂⟩ := hstep.served_inv rfl
    obtain ⟨⟨hid, hcontract⟩, descriptor, hash, ledger, hfacts, hs₃⟩ :=
      run_deployCredential_ok hdeploy hthreads₃ hsuccess
    refine ⟨by rw [hid, hcontract]; exact hderived, passkey.publicKey, descriptor, hash, ledger,
      hfacts, ?_⟩
    rw [hs₅, hs₄, hs₃, hs₆, hnil, hs₂, hid, hcontract, ← deployed_save, ← hs₁]
    rfl
  | createThenDeploy =>
    obtain ⟨credential, t₁, t₂, rfl, hcreate, hdeploy⟩ := Program.run_bind_ok.mp hrun
    obtain ⟨passkey, t₃, r₃, rfl, hpasskey, hrun₁⟩ := Program.run_bind_ok.mp hcreate
    obtain ⟨_, t₄, r₄, rfl, hsave, hrun₁⟩ := Program.run_bind_ok.mp hrun₁
    obtain ⟨_, t₈, r₈, rfl, htold, hlast⟩ := Program.run_bind_ok.mp hrun₁
    obtain ⟨rfl, hcredential⟩ := Program.run_pure.mp hlast
    obtain rfl := Except.ok.inj hcredential
    obtain ⟨found, t₅, r₅, rfl, hread, hrun₂⟩ := Program.run_bind_ok.mp hdeploy
    obtain ⟨contractId, hderived, hrun₃⟩ := Program.run_ofExcept_bind_ok.mp hrun₂
    obtain ⟨deployed', t₆, r₆, rfl, hdeployed, hrun₄⟩ := Program.run_bind_ok.mp hrun₃
    obtain ⟨_, t₇, r₇, rfl, hconnect, hdone⟩ := Program.run_bind_ok.mp hrun₄
    obtain ⟨rfl, hsame⟩ := Program.run_pure.mp hdone
    obtain rfl : deployed = deployed' := Except.ok.inj hsame
    obtain ⟨s₁, hthreads₁, hrest₁⟩ := Memory.threads_append.mp hthreads
    obtain ⟨s₂, hthreads₂, hthreads₃⟩ := Memory.threads_append.mp hthreads₁
    obtain ⟨s₅, hthreads₃, hthreads₇⟩ := Memory.threads_append.mp hthreads₃
    rw [List.append_nil] at hthreads₇
    have hs₇ := (keepsRecords_await rfl).credentials htold hthreads₇
    obtain ⟨s₃, hthreads₄, hrest₂⟩ := Memory.threads_append.mp hrest₁
    obtain ⟨s₄, hthreads₅, hthreads₆⟩ := Memory.threads_append.mp hrest₂
    rw [List.append_nil] at hthreads₆
    have hs₂ := (keepsRecords_await rfl).credentials hpasskey hthreads₂
    have hs₃ := (requireCredential_keepsRecords passkey.credentialId).credentials hread hthreads₄
    have hs₆ := (connectDeployed_keepsRecords deployed).credentials hconnect hthreads₆
    obtain ⟨_, rfl, -⟩ := Program.run_await.mp hsave
    obtain ⟨s₁', hstep, hnil⟩ := Memory.threads_cons.mp hthreads₃
    rw [Memory.threads_nil] at hnil
    obtain ⟨-, hs₁⟩ := hstep.served_inv rfl
    obtain ⟨⟨hid, hcontract⟩, descriptor, hash, ledger, hfacts, hs₅⟩ :=
      run_deployCredential_ok hdeployed hthreads₅ hsuccess
    refine ⟨by rw [hid, hcontract]; exact hderived, passkey.publicKey, descriptor, hash, ledger,
      hfacts, ?_⟩
    rw [hs₆, hs₅, hs₃, hs₇, hnil, hs₁, hid, ← deployed_save, ← hs₂]
    rfl

end flows

/-! ## Usable records -/

/-- The record of a wallet is usable: it has the address and the facts of the wallet, the storage
finds it by contract, and a connection by the credential takes its birth claim from it, without
asking the indexer. -/
structure UsableRecord (config : ConnectionConfig) (s : WalletStorage) (record : StoredCredential)
    (credentialId contractId : String) : Prop where
  stored : s.credentials.get credentialId = some record
  contract : record.contractId = contractId
  verified : hasVerifiedBirth record = true
  by_contract : record ∈ s.credentials.getByContract contractId
  found : getVerifiedCredential s.credentials contractId = some record
  candidate : ∃ candidate, candidateFromStoredCredential (some record) contractId = some candidate
  no_lookup : credentialId ≠ "" → ∀ t x s', Program.Run (connectWallet config
    { credentialId := some credentialId }) t x → walletMemory.Threads s t s' →
      ∀ e ∈ t, WalletRequest.isLookup e.request = false

theorem ConfirmedFacts.candidate {descriptor : DeploymentBirthDescriptor} {hash : String}
    {ledger : JsNumber} (h : ConfirmedFacts descriptor hash ledger) (credential : StoredCredential) :
    candidateFromStoredCredential (some (credential.deployed descriptor hash ledger))
        credential.contractId = some
      { contractId := credential.contractId
        birthWasmHash := descriptor.birthWasmHash
        creationTransactionHash := hash
        creationLedger := ledger } := by
  have hwasm : nonEmptyText (some descriptor.birthWasmHash) = some descriptor.birthWasmHash :=
    nonEmptyText_eq_some.mpr ⟨rfl, h.wasm.ne_empty⟩
  have hhash : nonEmptyText (some hash) = some hash := nonEmptyText_eq_some.mpr ⟨rfl, h.hash_ne_empty⟩
  simp [candidateFromStoredCredential, StoredCredential.deployed, StoredCredential.apply,
    DeploymentBirthDescriptor.updates, submissionUpdates, hwasm, hhash, h.safe, h.positive]

/-- A connection to the contract of a record with a birth claim does not ask the indexer. -/
theorem connectToContract_no_lookup {config : ConnectionConfig}
    {credential : Option StoredCredential} {credentialId contractId : String}
    {candidate : WalletCandidate} {derived allowAuthentication : Bool}
    {proof : Option FreshOwnershipProof}
    (hcandidate : candidateFromStoredCredential credential contractId = some candidate) :
    Program.Exchanges (fun r : WalletRequest => r.isLookup = false) (fun _ => True)
      (connectToContract config credential credentialId contractId derived proof
        allowAuthentication) := by
  have hverifies : ∀ {α : Type} {p : WalletProgram α}, OnlyVerifies p →
      Program.Exchanges (fun r : WalletRequest => r.isLookup = false) (fun _ => True) p :=
    fun hp => hp.mono fun _ hr => hr.2
  refine Program.exchanges_bind (readInstance_requests rfl rfl) fun executable _ _ => ?_
  refine Program.exchanges_ofExcept_bind fun _ _ => ?_
  refine Program.exchanges_bind ?_ fun selected _ _ => ?_
  · rw [selectBirthCandidate, birthCandidates, hcandidate]
    exact Program.exchanges_done
  refine Program.exchanges_bind (hverifies (requireVerifiedBirth_onlyChecks _ _ _ _ _).onlyVerifies)
    fun _ _ _ => ?_
  refine Program.exchanges_ofExcept_bind fun _ _ => ?_
  refine Program.exchanges_bind (hverifies (requireLiveSigner_onlyChecks _ _ _ _ _).onlyVerifies)
    fun _ _ _ => ?_
  refine Program.exchanges_bind (hverifies (requireOwnership_onlyVerifies _ _ _ _ _ _ _))
    fun _ _ _ => ?_
  exact saveConnection_requests rfl rfl rfl rfl fun _ => rfl

section connect

variable {config : ConnectionConfig} {s s' : WalletStorage} {record : StoredCredential}
  {credentialId : String} {candidate : WalletCandidate} {t : History WalletEnvironment}

theorem connectWithCredentials_no_lookup {x : Except JsError ConnectWalletResult}
    (hid : nonEmptyText (some credentialId) = some credentialId)
    (hstored : s.credentials.get credentialId = some record) (hcontract : record.contractId ≠ "")
    (hcandidate : candidateFromStoredCredential (some record) record.contractId = some candidate)
    (hrun : Program.Run (connectWithCredentials config (some credentialId) none none true) t x)
    (hthreads : walletMemory.Threads s t s') :
    ∀ e ∈ t, WalletRequest.isLookup e.request = false := by
  rw [connectWithCredentials, hid] at hrun
  obtain ⟨reply, t', rfl, hrest⟩ := Program.run_ask.mp hrun
  -- what is read is the record
  obtain ⟨s₁, hstep, -⟩ := Memory.threads_cons.mp hthreads
  obtain ⟨hreply, -⟩ := hstep.served_inv rfl
  have hrecord : reply = some record := hreply.trans hstored
  have hcontractId : connectionContractId config (some record) credentialId none =
      .ok (record.contractId, false) := by
    have hrecorded : nonEmptyText (some record.contractId) = some record.contractId :=
      nonEmptyText_eq_some.mpr ⟨rfl, hcontract⟩
    have hnone : nonEmptyText none = none := rfl
    rw [connectionContractId, hnone, Option.none_or, Option.map_some, hrecorded]
  have hquiet : Program.Exchanges (fun r : WalletRequest => r.isLookup = false) (fun _ => True)
      (Program.bind (Program.ofExcept
        (connectionContractId config (some record) credentialId none)) fun target =>
          connectToContract config (some record) credentialId target.1 target.2 none true) := by
    rw [hcontractId]
    exact connectToContract_no_lookup hcandidate
  rw [List.forall_mem_cons]
  refine ⟨rfl, fun e he => (hquiet t' x ?_ e he).1⟩
  rw [← hrecord]
  exact hrest

/-- Connecting by a credential whose record has a birth claim does not ask the indexer. -/
theorem connectWallet_no_lookup {x : Except JsError (Option ConnectWalletResult)}
    (hid : credentialId ≠ "") (hstored : s.credentials.get credentialId = some record)
    (hcontract : record.contractId ≠ "")
    (hcandidate : candidateFromStoredCredential (some record) record.contractId = some candidate)
    (hrun : Program.Run (connectWallet config { credentialId := some credentialId }) t x)
    (hthreads : walletMemory.Threads s t s') :
    ∀ e ∈ t, WalletRequest.isLookup e.request = false := by
  have hnamed : nonEmptyText (some credentialId) = some credentialId :=
    nonEmptyText_eq_some.mpr ⟨rfl, hid⟩
  rw [connectWallet, connectWalletOver, if_pos (Or.inl (by rw [hnamed]; rfl))] at hrun
  rcases Program.run_bind.mp hrun with ⟨e, hfail, -⟩ | ⟨result, t₁, t₂, rfl, hconnect, hdone⟩
  · exact connectWithCredentials_no_lookup hnamed hstored hcontract hcandidate hfail hthreads
  · obtain ⟨s₁, hthreads₁, -⟩ := Memory.threads_append.mp hthreads
    rw [(Program.run_pure.mp hdone).1, List.append_nil]
    exact connectWithCredentials_no_lookup hnamed hstored hcontract hcandidate hconnect hthreads₁

end connect

theorem derivedContractId_ne_empty {config : WalletConfig} {credentialId contractId : String}
    (h : derivedContractId config credentialId = .ok contractId) : contractId ≠ "" := by
  have hdeployer : (ScAddress.account config.deployerKey).toStrkey =
      some config.deployerPublicKey := rfl
  rw [derivedContractId, deriveContractAddress_eq_ok hdeployer] at h
  rw [← Except.ok.inj h]
  exact encodeCheck_contract_ne_empty _

/-- A verified record of a contract is the one that is found if no record before its place is. -/
theorem getVerifiedCredential_save_iff {store : CredentialStore} {record : StoredCredential}
    {contractId : String} (hcontract : record.contractId = contractId)
    (hverified : hasVerifiedBirth record = true) :
    getVerifiedCredential (store.save record) contractId = some record ↔
      ∀ c ∈ store.takeWhile fun c => c.credentialId != record.credentialId,
        c.contractId = contractId → hasVerifiedBirth c = false := by
  rw [getVerifiedCredential, CredentialStore.getByContract, List.find?_filter,
    CredentialStore.find?_save_iff (by simp [hcontract, hverified])]
  refine forall_congr' fun c => forall_congr' fun _ => ?_
  simp

/-- The record that a flow leaves is usable if, and only if, the wallet was deployed in one call and
no record before it in the storage is a verified one of the same contract. -/
theorem flow_usable_iff {config : WalletConfig} {options : DeployOptions} {flow : DeploymentFlow}
    {deployed : DeployedWallet} {t : History WalletEnvironment} {s s' : WalletStorage}
    (hrun : Program.Run (flow.program config options) t (.ok deployed))
    (hthreads : walletMemory.Threads s t s') (hsuccess : deployed.succeeded = true) :
    (∃ record, UsableRecord config.toConnectionConfig s' record deployed.credentialId
        deployed.contractId) ↔
      (∃ fundOptions, flow = .createWallet fundOptions) ∧
        ∀ c ∈ s.credentials.takeWhile fun c => c.credentialId != deployed.credentialId,
          c.contractId = deployed.contractId → hasVerifiedBirth c = false := by
  obtain ⟨hderived, publicKey, descriptor, hash, ledger, hfacts, hs'⟩ :=
    run_flow_ok hrun hthreads hsuccess
  have hnonempty := derivedContractId_ne_empty hderived
  have hcandidate := hfacts.candidate
    { credentialId := deployed.credentialId
      publicKey := publicKey
      contractId := flow.recordedContractId deployed.contractId
      isPrimary := some true
      deploymentStatus := some .pending }
  generalize hrecord : StoredCredential.deployed _ descriptor hash ledger = record at hs' hcandidate
  have hid : record.credentialId = deployed.credentialId := by rw [← hrecord]; rfl
  have hcontract : record.contractId = flow.recordedContractId deployed.contractId := by
    rw [← hrecord]
    rfl
  have hverified : hasVerifiedBirth record = true := by rw [← hrecord]; rfl
  have hstored : s'.credentials.get deployed.credentialId = some record := by
    rw [hs', CredentialStore.get_save, if_pos hid]
  constructor
  · intro ⟨record', husable⟩
    obtain rfl : record = record' := Option.some.inj (hstored.symm.trans husable.stored)
    constructor
    · cases flow with
      | createWallet fundOptions => exact ⟨fundOptions, rfl⟩
      | createThenDeploy => exact absurd (hcontract.symm.trans husable.contract) hnonempty.symm
    · have hfound := husable.found
      rw [hs', getVerifiedCredential_save_iff husable.contract hverified, hid] at hfound
      exact hfound
  · intro ⟨⟨fundOptions, hflow⟩, hfirst⟩
    have hown : record.contractId = deployed.contractId := by rw [hcontract, hflow]; rfl
    have hclaim : ∃ candidate, candidateFromStoredCredential (some record) deployed.contractId =
        some candidate := by
      rw [← hown, hcontract]
      exact ⟨_, hcandidate⟩
    refine ⟨record,
      { stored := hstored
        contract := hown
        verified := hverified
        by_contract := ?_
        found := ?_
        candidate := hclaim
        no_lookup := ?_ }⟩
    · exact List.mem_filter.mpr ⟨List.mem_of_find?_eq_some hstored, by simpa using hown⟩
    · rw [hs', getVerifiedCredential_save_iff hown hverified, hid]
      exact hfirst
    · intro hne t' x s'' hconnect hthreads'
      obtain ⟨candidate, hclaim⟩ := hclaim
      exact connectWallet_no_lookup hne hstored (hown ▸ hnonempty) (hown ▸ hclaim) hconnect hthreads'

/-! ## A sample deployment -/

/-- The sample kit deploys for a credential that was created before. -/
theorem createThenDeploy_sample : ∃ t deployed s' record,
    Program.Run (DeploymentFlow.createThenDeploy.program sampleWalletConfig {}) t (.ok deployed) ∧
      walletMemory.Threads ⟨[], none⟩ t s' ∧ deployed.succeeded = true ∧
      s'.credentials.get deployed.credentialId = some record ∧
      record.contractId ≠ deployed.contractId := by
  have houtcome : (walletMemory.execute (sampleWorld (sampleAccount 4)).reply
      (DeploymentFlow.createThenDeploy.program sampleWalletConfig {}) ⟨[], none⟩).result.toOption.any
        (fun deployed => deployed.succeeded &&
          ((walletMemory.execute (sampleWorld (sampleAccount 4)).reply
            (DeploymentFlow.createThenDeploy.program sampleWalletConfig {})
              ⟨[], none⟩).state.credentials.get deployed.credentialId).any
            fun record => record.contractId != deployed.contractId) = true := by
    decide +kernel
  have hrun := walletMemory.run_execute (sampleWorld (sampleAccount 4)).reply
    (DeploymentFlow.createThenDeploy.program sampleWalletConfig {}) ⟨[], none⟩
  generalize walletMemory.execute _ _ _ = outcome at houtcome hrun
  obtain ⟨result, t, s'⟩ := outcome
  cases result with
  | error e => cases houtcome
  | ok deployed =>
    have hdeployed : (deployed.succeeded && (s'.credentials.get deployed.credentialId).any
        fun record => record.contractId != deployed.contractId) = true := houtcome
    rw [Bool.and_eq_true, Option.any_eq_true] at hdeployed
    obtain ⟨hsuccess, record, hrecord, hother⟩ := hdeployed
    exact ⟨t, deployed, s', record, hrun.1, hrun.2, hsuccess, hrecord, by simpa using hother⟩

/-- A wallet that was deployed for a credential created before does not have a usable record. -/
theorem createThenDeploy_not_usable : ∃ t deployed s',
    Program.Run (DeploymentFlow.createThenDeploy.program sampleWalletConfig {}) t (.ok deployed) ∧
      walletMemory.Threads ⟨[], none⟩ t s' ∧ deployed.succeeded = true ∧
      ¬∃ record, UsableRecord sampleConnectionConfig s' record deployed.credentialId
        deployed.contractId := by
  obtain ⟨t, deployed, s', record, hrun, hthreads, hsuccess, hrecord, hother⟩ :=
    createThenDeploy_sample
  refine ⟨t, deployed, s', hrun, hthreads, hsuccess, ?_⟩
  intro ⟨record', husable⟩
  obtain rfl : record = record' := Option.some.inj (hrecord.symm.trans husable.stored)
  exact hother husable.contract

/-- The sample kit creates a wallet in one call. -/
theorem createWallet_sample : ∃ t deployed s',
    Program.Run ((DeploymentFlow.createWallet {}).program sampleWalletConfig {}) t (.ok deployed) ∧
      walletMemory.Threads ⟨[], none⟩ t s' ∧ deployed.succeeded = true := by
  have houtcome : (walletMemory.execute (sampleWorld (sampleAccount 4)).reply
      ((DeploymentFlow.createWallet {}).program sampleWalletConfig {})
        ⟨[], none⟩).result.toOption.any (fun deployed => deployed.succeeded) = true := by
    decide +kernel
  have hrun := walletMemory.run_execute (sampleWorld (sampleAccount 4)).reply
    ((DeploymentFlow.createWallet {}).program sampleWalletConfig {}) ⟨[], none⟩
  generalize walletMemory.execute _ _ _ = outcome at houtcome hrun
  obtain ⟨result, t, s'⟩ := outcome
  cases result with
  | error e => cases houtcome
  | ok deployed => exact ⟨t, deployed, s', hrun.1, hrun.2, houtcome⟩

/-- The record of a wallet that was created in one call is usable, and that of a wallet that was
deployed for a credential created before is not. -/
theorem flow_usable_iff_sample :
    (∃ t deployed s',
      Program.Run ((DeploymentFlow.createWallet {}).program sampleWalletConfig {}) t (.ok deployed) ∧
        walletMemory.Threads ⟨[], none⟩ t s' ∧ deployed.succeeded = true ∧
        ∃ record, UsableRecord sampleConnectionConfig s' record deployed.credentialId
          deployed.contractId) ∧
    ∃ t deployed s',
      Program.Run (DeploymentFlow.createThenDeploy.program sampleWalletConfig {}) t (.ok deployed) ∧
        walletMemory.Threads ⟨[], none⟩ t s' ∧ deployed.succeeded = true ∧
        ¬∃ record, UsableRecord sampleConnectionConfig s' record deployed.credentialId
          deployed.contractId := by
  constructor
  · obtain ⟨t, deployed, s', hrun, hthreads, hsuccess⟩ := createWallet_sample
    refine ⟨t, deployed, s', hrun, hthreads, hsuccess, ?_⟩
    apply (flow_usable_iff hrun hthreads hsuccess).mpr
    exact ⟨⟨{}, rfl⟩, fun c hc => absurd hc List.not_mem_nil⟩
  · obtain ⟨t, deployed, s', record, hrun, hthreads, hsuccess, -⟩ := createThenDeploy_sample
    refine ⟨t, deployed, s', hrun, hthreads, hsuccess, fun husable => ?_⟩
    obtain ⟨fundOptions, hflow⟩ := ((flow_usable_iff hrun hthreads hsuccess).mp husable).1
    exact absurd hflow (by simp)

end SmartAccountKit
