import SmartAccountKit.ConnectionTheorems

/-!
# Which addresses are connected

A birth that is checked against the deployer and the salt has the derived
address. A birth that is checked against an approved constructor may have any.
-/

namespace SmartAccountKit
open Lib

/-! ## Derived addresses -/

theorem deriveContractAddress_eq_ok {credentialId : Bytes} {deployer : ScAddress}
    {deployerPublicKey networkPassphrase : String}
    (hdeployer : deployer.toStrkey = some deployerPublicKey) :
    deriveContractAddress credentialId deployerPublicKey networkPassphrase =
      .ok (encodeCheck 16 (hash (contractIdHashPreimage networkPassphrase
        (.fromAddress deployer (hash credentialId)))).1) := by
  rw [deriveContractAddress, toScAddress_eq_ok.mpr hdeployer, except_ok_bind]
  rfl

/-- A creation by a deployer with the salt of a credential creates the derived address. -/
theorem contractIdFromCreateV2_derived {create : CreateContractArgsV2} {deployer : ScAddress}
    {credentialId : Bytes} {deployerPublicKey networkPassphrase : String}
    (hdeployer : deployer.toStrkey = some deployerPublicKey)
    (hpreimage : create.contractIdPreimage = .fromAddress deployer (hash credentialId)) :
    .ok <$> contractIdFromCreateV2 networkPassphrase create =
      some (deriveContractAddress credentialId deployerPublicKey networkPassphrase) := by
  rw [contractIdFromCreateV2, hpreimage, deriveContractAddress_eq_ok hdeployer]
  rfl

theorem encodeCheck_account_ne_empty (key : BytesN 32) : encodeCheck 48 key.1 ≠ "" := by
  intro hempty
  have hread := addressFromString_eq_some.mpr
    (show (ScAddress.account key).toStrkey = some "" from congrArg some hempty)
  have hnone : addressFromString "" = none := by decide
  rw [hnone] at hread
  exact nomatch hread

theorem encodeCheck_contract_ne_empty (contractId : BytesN 32) : encodeCheck 16 contractId.1 ≠ "" := by
  intro hempty
  have hread := addressFromString_eq_some.mpr
    (show (ScAddress.contract contractId).toStrkey = some "" from congrArg some hempty)
  have hnone : addressFromString "" = none := by decide
  rw [hnone] at hread
  exact nomatch hread

/-- The deployer and the salt of an accepted preimage are the expected ones. -/
theorem checkContractIdPreimage_eq_ok {preimage : ContractIdPreimage}
    {deps : WalletBirthVerificationDeps} {expectedDeployer : String} {expectedSalt : Bytes}
    (hdeployer : nonEmptyText deps.expectedDeployer = some expectedDeployer)
    (hsalt : deps.expectedSalt = some expectedSalt)
    (h : checkContractIdPreimage preimage deps = .ok ()) :
    ∃ address salt, preimage = .fromAddress address salt ∧
      address.toStrkey = some expectedDeployer ∧ salt.1 = expectedSalt := by
  cases preimage with
  | fromAsset asset => exact nomatch h
  | fromAddress address salt =>
    obtain ⟨_, hcheckDeployer, hcheckSalt⟩ := except_bind_eq_ok.mp h
    refine ⟨address, salt, rfl, ?_, ?_⟩
    · rw [checkDeployer, hdeployer] at hcheckDeployer
      obtain ⟨actual, hactual, hsame⟩ := except_bind_eq_ok.mp hcheckDeployer
      rw [throwIf_eq_ok, not_not] at hsame
      rw [← hsame, ← addressText_eq_ok]
      exact orThrow_eq_ok.mp hactual
    · rw [hsalt] at hcheckSalt
      simpa [checkSalt, throwIf_eq_ok] using hcheckSalt

theorem checkExecutable_eq_ok {executable : ContractExecutable} {claimedWasm : String}
    {accepted : List String} :
    checkExecutable executable claimedWasm accepted = .ok () ↔
      ∃ wasmHash : BytesN 32, executable = .wasm wasmHash ∧ toHex wasmHash.1 = claimedWasm ∧
        toHex wasmHash.1 ∈ accepted.filterMap normalizeHashHex := by
  cases executable with
  | wasm wasmHash =>
    rw [checkExecutable]
    split_ifs with hclaimed haccepted <;> simp_all
  | _ => simp [checkExecutable]

/-- A record says nothing about the birth of another contract. -/
theorem candidateFromStoredCredential_of_ne {credential : StoredCredential} {contractId : String}
    (h : credential.contractId ≠ contractId) :
    candidateFromStoredCredential (some credential) contractId = none := by
  unfold candidateFromStoredCredential
  cases nonEmptyText credential.birthWasmHash <;>
    cases nonEmptyText credential.creationTransactionHash <;>
    cases credential.creationLedger <;> simp [h]

/-! ## The address of a connection -/

section target

variable {config : ConnectionConfig} {credential : Option StoredCredential}
  {credentialId contractId : String} {proof : Option FreshOwnershipProof}
  {candidate : WalletCandidate} {birth : VerifiedWalletBirth} {publicKey : Bytes}
  {t : History WalletEnvironment}

/-- A connection that no record approves is to the derived address. -/
theorem ConnectionVerified.derived (h : ConnectionVerified config credential credentialId
    contractId proof candidate birth publicKey t) (hlocal : locallyApproved credential = false) :
    deriveContractAddress (fromBase64 credentialId) config.deployerPublicKey
      config.networkPassphrase = .ok contractId := by
  obtain ⟨t', -, hverify⟩ := h.accepted
  obtain ⟨claimedWasm, txHash, envelope, -, hcreation, -⟩ := run_verifyWalletBirth_ok hverify
  obtain ⟨create, signer, hfind, hpreimage, -⟩ := verifyCreation_eq_ok.mp hcreation
  have hdeps : birthVerificationDeps config credential credentialId =
      { hasHistory := config.hasHistory
        networkPassphrase := config.networkPassphrase
        acceptedBirthWasmHashes := config.acceptedBirthWasmHashes
        webauthnVerifierAddress := config.webauthnVerifierAddress
        expectedDeployer := some config.deployerPublicKey
        expectedSalt := some (hash (fromBase64 credentialId)).1
        expectedPolicies := some (config.expectedPolicies.getD []) } := by
    rw [birthVerificationDeps, hlocal]
    rfl
  rw [hdeps] at hfind hpreimage
  obtain ⟨address, salt, haddress, hdeployer, hsalt⟩ := checkContractIdPreimage_eq_ok
    (nonEmptyText_eq_some.mpr ⟨rfl, encodeCheck_account_ne_empty config.deployerKey⟩) rfl hpreimage
  have hmem : create ∈ matchingCreations config.networkPassphrase candidate.contractId
      envelope.innerTransaction := by
    rw [(findCreation_eq_ok.mp hfind).2]
    exact List.mem_singleton_self create
  have hsalt' : salt = hash (fromBase64 credentialId) := Subtype.ext hsalt
  rw [hsalt'] at haddress
  have hderived : .ok <$> contractIdFromCreateV2 config.networkPassphrase create =
      some (deriveContractAddress (fromBase64 credentialId) config.deployerPublicKey
        config.networkPassphrase) :=
    contractIdFromCreateV2_derived hdeployer haddress
  rw [contractIdFromCreateV2_of_mem hmem, h.candidate_contractId] at hderived
  exact (Option.some.inj hderived).symm

end target

/-! ## Successful connections -/

section success

variable {config : ConnectionConfig} {credential : Option StoredCredential}
  {credentialId contractId : String} {usedDerivedCandidate allowAuthentication : Bool}
  {proof : Option FreshOwnershipProof} {result : ConnectWalletResult}
  {t : History WalletEnvironment}

theorem run_saveConnection_ok {verified : StoredCredential}
    (h : Program.Run (saveConnection config verified) t (.ok result)) :
    (∃ e ∈ t, WalletRequest.connection? e.request =
      some (verified.contractId, verified.credentialId)) ∧
    result = { credentialId := verified.credentialId
               contractId := verified.contractId
               credential := verified } := by
  obtain ⟨_, t₁, r₁, rfl, -, h₁⟩ := Program.run_bind_ok.mp h
  obtain ⟨_, t₂, r₂, rfl, hconnect, h₂⟩ := Program.run_bind_ok.mp h₁
  obtain ⟨_, t₃, r₃, rfl, -, h₃⟩ := Program.run_bind_ok.mp h₂
  obtain ⟨_, t₄, r₄, rfl, -, h₄⟩ := Program.run_bind_ok.mp h₃
  obtain ⟨_, t₅, r₅, rfl, -, h₅⟩ := Program.run_bind_ok.mp h₄
  obtain ⟨connected, rfl, -⟩ := Program.run_await.mp hconnect
  exact ⟨⟨⟨.setConnectedState verified.contractId verified.credentialId, connected⟩, by simp, rfl⟩,
    Except.ok.inj (Program.run_pure.mp h₅).2⟩

/-- A successful connection is to the contract it was asked for, and was checked. -/
theorem run_connectToContract_ok (hrun : Program.Run (connectToContract config credential
      credentialId contractId usedDerivedCandidate proof allowAuthentication) t (.ok result)) :
    (result.contractId = contractId ∧ result.credentialId = credentialId) ∧
      ∃ candidate birth publicKey before,
        ConnectionVerified config credential credentialId contractId proof candidate birth
          publicKey before := by
  obtain ⟨executable, t₁, r₁, ht₁, -, h₁⟩ := Program.run_bind_ok.mp hrun
  obtain ⟨_, t₂, r₂, ht₂, -, h₂⟩ := Program.run_bind_ok.mp h₁
  obtain ⟨candidate, t₃, r₃, ht₃, -, h₃⟩ := Program.run_bind_ok.mp h₂
  obtain ⟨birth, t₄, r₄, ht₄, -, h₄⟩ := Program.run_bind_ok.mp h₃
  obtain ⟨publicKey, t₅, r₅, ht₅, -, h₅⟩ := Program.run_bind_ok.mp h₄
  obtain ⟨_, t₆, r₆, ht₆, -, h₆⟩ := Program.run_bind_ok.mp h₅
  obtain ⟨_, t₇, r₇, ht₇, -, h₇⟩ := Program.run_bind_ok.mp h₆
  obtain ⟨⟨e, he, hconnects⟩, rfl⟩ := run_saveConnection_ok h₇
  have hmem : e ∈ t := by simp [ht₁, ht₂, ht₃, ht₄, ht₅, ht₆, ht₇, he]
  obtain ⟨before, after, rfl⟩ := List.append_of_mem hmem
  obtain ⟨-, candidate, birth, publicKey, hverified⟩ := connectToContract_verified hrun hconnects
  exact ⟨⟨rfl, rfl⟩, candidate, birth, publicKey, before, hverified⟩

/-- The record that a connection reads is the stored one. -/
theorem run_connectWithCredentials_ok {credentialId? contractId? : Option String}
    {s s' : WalletStorage}
    (hrun : Program.Run (connectWithCredentials config credentialId? contractId? proof
      allowAuthentication) t (.ok result))
    (hthreads : walletMemory.Threads s t s') :
    nonEmptyText credentialId? = some result.credentialId ∧
      ∃ derived candidate birth publicKey before,
        connectionContractId config (s.credentials.get result.credentialId) result.credentialId
          contractId? = .ok (result.contractId, derived) ∧
        ConnectionVerified config (s.credentials.get result.credentialId) result.credentialId
          result.contractId proof candidate birth publicKey before := by
  rw [connectWithCredentials] at hrun
  cases hid : nonEmptyText credentialId? with
  | none =>
    rw [hid] at hrun
    cases (Program.run_throw.mp hrun).2
  | some credentialId =>
    rw [hid] at hrun
    obtain ⟨credential, t₁, r₁, rfl, hread, hrun₁⟩ := Program.run_bind_ok.mp hrun
    obtain ⟨⟨contractId, derived⟩, hcontract, hrun₂⟩ := Program.run_ofExcept_bind_ok.mp hrun₁
    obtain ⟨⟨rfl, rfl⟩, candidate, birth, publicKey, before, hverified⟩ :=
      run_connectToContract_ok hrun₂
    obtain ⟨reply, rfl, hreply⟩ := Program.run_await.mp hread
    obtain rfl := Except.ok.inj hreply
    obtain ⟨s₁, hstep, -⟩ := Memory.threads_cons.mp hthreads
    obtain ⟨rfl, -⟩ := hstep.served_inv rfl
    exact ⟨rfl, derived, candidate, birth, publicKey, before, hcontract, hverified⟩

end success

/-! ## The address of a successful connection -/

/-- A successful connection without an associated secondary record is to the derived address, or
to the one of the record it found. -/
def ConnectsDerivedOrRecorded (config : ConnectionConfig) (credentialId? contractId? : Option String)
    (proof : Option FreshOwnershipProof) (allowAuthentication : Bool) (s : WalletStorage) : Prop :=
  ∀ t result s',
    Program.Run (connectWithCredentials config credentialId? contractId? proof allowAuthentication)
      t (.ok result) →
    walletMemory.Threads s t s' →
    localSecondary (s.credentials.get result.credentialId) = false →
    deriveContractAddress (fromBase64 result.credentialId) config.deployerPublicKey
        config.networkPassphrase = .ok result.contractId ∨
      (s.credentials.get result.credentialId).map (·.contractId) = some result.contractId

/-- A wallet that the record of another one exempts from the checks of the deployer and the salt
and from the assertion: any deployer with any salt may have created it with the approved
constructor. -/
structure Exempted (config : ConnectionConfig) (credential : StoredCredential)
    (credentialId contractId : String) : Prop where
  primary : localPrimary (some credential) = true
  not_recorded : credential.contractId ≠ contractId
  not_derived : deriveContractAddress (fromBase64 credentialId) config.deployerPublicKey
    config.networkPassphrase ≠ .ok contractId
  indexed : config.hasLookup = true
  readable : config.hasReadContextRule = true
  code : ∃ wasmHash : BytesN 32, toHex wasmHash.1 ∈ config.acceptedWasmHashes
  created : ∃ (create : CreateContractArgsV2) (wasmHash : BytesN 32),
    contractIdFromCreateV2 config.networkPassphrase create = some contractId ∧
    create.executable = .wasm wasmHash ∧
    toHex wasmHash.1 ∈ config.acceptedBirthWasmHashes.filterMap normalizeHashHex ∧
    constructorSigner create.constructorArgs config.webauthnVerifierAddress =
      .ok (.external config.webauthnVerifierAddress
        (credential.publicKey ++ fromBase64 credentialId)) ∧
    checkConstructorArgs create.constructorArgs
      (birthVerificationDeps config (some credential) credentialId) = .ok ()

/-- A verified connection to another wallet than the record's and the derived one was exempted. -/
theorem ConnectionVerified.exempted {config : ConnectionConfig} {credential : StoredCredential}
    {credentialId contractId : String} {proof : Option FreshOwnershipProof}
    {candidate : WalletCandidate} {birth : VerifiedWalletBirth} {publicKey : Bytes}
    {t : History WalletEnvironment}
    (h : ConnectionVerified config (some credential) credentialId contractId proof candidate birth
      publicKey t)
    (hprimary : localPrimary (some credential) = true) (hrecorded : credential.contractId ≠ contractId)
    (hderived : deriveContractAddress (fromBase64 credentialId) config.deployerPublicKey
      config.networkPassphrase ≠ .ok contractId) :
    Exempted config credential credentialId contractId := by
  obtain ⟨t', -, hverify⟩ := h.accepted
  obtain ⟨claimedWasm, txHash, envelope, -, hcreation, -⟩ := run_verifyWalletBirth_ok hverify
  obtain ⟨create, signer, hfind, -, hexecutable, hsigner, hargs, rfl⟩ :=
    verifyCreation_eq_ok.mp hcreation
  have hsecondary : localSecondary (some credential) = false := by
    simp only [localPrimary, Option.any_some, decide_eq_true_eq] at hprimary
    simp [localSecondary, hprimary.1]
  have hmem : create ∈ matchingCreations (birthVerificationDeps config (some credential)
      credentialId).networkPassphrase candidate.contractId envelope.innerTransaction := by
    rw [(findCreation_eq_ok.mp hfind).2]
    exact List.mem_singleton_self create
  have haddress := contractIdFromCreateV2_of_mem hmem
  have hdeps : locallyApproved (some credential) = true := by
    rw [locallyApproved, hprimary, Bool.true_or]
  have hpublicKey : credential.publicKey = publicKey := Option.some.inj h.key
  rw [birthVerificationDeps, hdeps] at haddress hexecutable hsigner
  rw [h.candidate_contractId] at haddress
  obtain ⟨wasmHash, hwasm, haccepted⟩ := checkExecutable_eq_ok.mp hexecutable
  refine
    { primary := hprimary
      not_recorded := hrecorded
      not_derived := hderived
      indexed := h.indexed (candidateFromStoredCredential_of_ne hrecorded)
      readable := h.readable
      code := h.code.imp fun _ hcode => hcode.1
      created := ⟨create, wasmHash, haddress, hwasm, haccepted.2, ?_, hargs⟩ }
  rw [hpublicKey, ← h.birthSigner hsecondary]
  exact hsigner

/-! ## Runs that succeed -/

section runs

variable {config : ConnectionConfig} {credential : Option StoredCredential}
  {credentialId contractId : String}

theorem run_readInstance (executable : ContractExecutable) :
    Program.Run (readInstance credential credentialId contractId)
      [⟨.getContractData contractId, .ok executable⟩] (.ok executable) :=
  Program.run_bind_ok.mpr ⟨_, [_], [], rfl, Program.run_await.mpr ⟨_, rfl, rfl⟩,
    Program.run_pure.mpr ⟨rfl, rfl⟩⟩

/-- A complete lookup that is not stale, with the candidate alone. -/
theorem run_selectBirthCandidate_of_lookup (candidate : IndexedWalletCandidate)
    (credentialId : String) (hlookup : config.hasLookup = true)
    (hcontract : candidate.contractId = contractId)
    (hstored : candidateFromStoredCredential credential contractId = none) :
    Program.Run (selectBirthCandidate config credential credentialId contractId false)
      [⟨.getLatestLedger, .ok 0⟩, ⟨.lookupWalletCandidates credentialId, .ok (some
        { schema := 2
          complete := true
          indexedThroughLedger := .ofNat 0
          candidates := [candidate] })⟩] (.ok candidate.toWalletCandidate) := by
  have hindexed : indexedCandidates contractId false 0 (some
      { schema := 2
        complete := true
        indexedThroughLedger := .ofNat 0
        candidates := [candidate] }) = .ok [candidate.toWalletCandidate] := by
    simp [indexedCandidates, hcontract, show ((.ofNat 0 : JsNumber).lt (.ofU32 0)) = false by decide]
  refine Program.run_bind_ok.mpr ⟨[candidate.toWalletCandidate], _, [],
    (List.append_nil _).symm, ?_, Program.run_pure.mpr ⟨rfl, rfl⟩⟩
  rw [birthCandidates, hstored]
  dsimp only
  rw [lookupBirthCandidates, if_pos hlookup]
  refine Program.run_bind_ok.mpr ⟨0, [_], [_], rfl, Program.run_await.mpr ⟨_, rfl, rfl⟩, ?_⟩
  refine Program.run_bind_ok.mpr ⟨_, [_], [], rfl, Program.run_await.mpr ⟨_, rfl, rfl⟩, ?_⟩
  exact Program.run_ofExcept.mpr ⟨rfl, hindexed.symm⟩

theorem run_requireVerifiedBirth_of_ok {candidate : WalletCandidate} {birth : VerifiedWalletBirth}
    {t : History WalletEnvironment}
    (h : Program.Run (verifyWalletBirth (birthVerificationDeps config credential credentialId)
      candidate) t (.ok (.ok birth))) :
    Program.Run (requireVerifiedBirth config credential credentialId contractId candidate) t
      (.ok birth) :=
  Program.run_bind_ok.mpr ⟨_, t, [], (List.append_nil t).symm, h,
    Program.run_pure.mpr ⟨rfl, rfl⟩⟩

/-- The default rule, with the passkey as its only signer. -/
theorem run_requireLiveSigner {publicKey : Bytes} (hreadable : config.hasReadContextRule = true)
    (hlocal : localSecondary credential = false) :
    Program.Run (requireLiveSigner config credential credentialId contractId publicKey)
      [⟨.readContextRule contractId 0, .ok
        { id := 0
          contextType := .default
          signers := [.external config.webauthnVerifierAddress (publicKey ++ fromBase64 credentialId)]
          policies := []
          validUntil := none }⟩, ⟨.getLatestLedger, .ok 0⟩] (.ok ()) := by
  rw [requireLiveSigner, if_pos hreadable]
  refine Program.run_ofExcept_bind_ok.mpr ⟨0, by rw [expectedContextRuleId, hlocal]; rfl, ?_⟩
  refine Program.run_bind_ok.mpr ⟨_, [_], [_], rfl, Program.run_await.mpr ⟨_, rfl, rfl⟩, ?_⟩
  refine Program.run_bind_ok.mpr ⟨0, [_], [], rfl, Program.run_await.mpr ⟨_, rfl, rfl⟩, ?_⟩
  refine Program.run_ofExcept.mpr ⟨rfl, ?_⟩
  have hmatches := signerMatchesCredential_iff.mpr (rfl : Signer.external
    config.webauthnVerifierAddress (publicKey ++ fromBase64 credentialId) = _)
  simp [checkLiveRule, hmatches]

/-- The storage after a connection is saved at time zero. -/
def connectedStorage (config : ConnectionConfig) (verified : StoredCredential) (s : WalletStorage) :
    WalletStorage :=
  { credentials := s.credentials.save verified
    session := some
      { contractId := verified.contractId
        credentialId := verified.credentialId
        expiresAt := some (.ofNat (0 + config.sessionExpiryMs)) } }

theorem saveConnection_leads (verified : StoredCredential) (s : WalletStorage) :
    walletMemory.Leads (saveConnection config verified) s
      (.ok { credentialId := verified.credentialId
             contractId := verified.contractId
             credential := verified }) (connectedStorage config verified s) := by
  refine Memory.leads_bind (Memory.leads_served rfl) ?_
  refine Memory.leads_bind (Memory.leads_unserved () rfl) ?_
  refine Memory.leads_bind (a := ()) (Memory.leads_unserved (M := walletMemory)
    (r := WalletRequest.emit _) (.ok () : Except JsError Unit) rfl) ?_
  refine Memory.leads_bind (a := (0 : ℕ)) (Memory.leads_unserved (M := walletMemory)
    (r := WalletRequest.dateNow) (0 : ℕ) rfl) ?_
  exact Memory.leads_bind (Memory.leads_served rfl) Memory.leads_ofExcept

/-- The transaction that makes one creation and nothing else. -/
def creationEnvelope (txHash : BytesN 32) (create : CreateContractArgsV2) : DecodedEnvelope :=
  .transaction
    { hash := txHash
      source := ""
      fee := 0
      operations := [.invokeHostFunction none (.createContractV2 create) []]
      signatures := []
      sorobanData := none }

/-- A creation that passes the checks is accepted, as the only one of its transaction. -/
theorem run_verifyWalletBirth_of_creation {deps : WalletBirthVerificationDeps}
    {create : CreateContractArgsV2} {signer : Signer} {claimedWasm : String} (txHash : BytesN 32)
    (haddress : contractIdFromCreateV2 deps.networkPassphrase create = some contractId)
    (hpreimage : checkContractIdPreimage create.contractIdPreimage deps = .ok ())
    (hclaimed : IsHashHex claimedWasm)
    (hexecutable : checkExecutable create.executable claimedWasm deps.acceptedBirthWasmHashes =
      .ok ())
    (hsigner : constructorSigner create.constructorArgs deps.webauthnVerifierAddress = .ok signer)
    (hargs : checkConstructorArgs create.constructorArgs deps = .ok ()) :
    Program.Run (verifyWalletBirth deps
      { contractId := contractId
        birthWasmHash := claimedWasm
        creationTransactionHash := toHex txHash.1
        creationLedger := .ofNat 1 })
      [⟨.getTransaction (toHex txHash.1),
        .ok (.success (.ofNat 1) (.ok (creationEnvelope txHash create)))⟩]
      (.ok (.ok
        { contractId := contractId
          birthWasmHash := claimedWasm
          creationTransactionHash := toHex txHash.1
          creationLedger := .ofNat 1
          constructorArgsHash := constructorArgsHash create.constructorArgs
          birthSigner := signer })) := by
  refine run_verifyWalletBirth_of_success (readCandidate_of_hashes hclaimed
    (isHashHex_toHex txHash) rfl rfl) ?_
  refine verifyCreation_eq_ok.mpr
    ⟨create, signer, findCreation_eq_ok.mpr ⟨rfl, ?_⟩, hpreimage, hexecutable, hsigner, hargs, rfl⟩
  simp [matchingCreations, creationEnvelope, DecodedEnvelope.innerTransaction,
    TransactionOperation.createContractV2?, TransactionOperation.func?,
    HostFunction.createContractV2?, haddress]

end runs

/-- The chain and the indexer may be such that the exempted wallet is connected. -/
theorem Exempted.reachable {config : ConnectionConfig} {credential : StoredCredential}
    {credentialId contractId : String} (h : Exempted config credential credentialId contractId)
    (proof : Option FreshOwnershipProof) (allowAuthentication : Bool) (s : WalletStorage) :
    ∃ result s', result.contractId = contractId ∧ result.credentialId = credentialId ∧
      walletMemory.Leads (connectToContract config (some credential) credentialId contractId false
        proof allowAuthentication) s (.ok result) s' := by
  obtain ⟨wasm, hwasm⟩ := h.code
  obtain ⟨create, wasmHash, haddress, hexecutable, haccepted, hsigner, hargs⟩ := h.created
  have hsecondary : localSecondary (some credential) = false := by
    have hprimary := h.primary
    simp only [localPrimary, Option.any_some, decide_eq_true_eq] at hprimary
    simp [localSecondary, hprimary.1]
  have hlocal : locallyApproved (some credential) = true := by
    rw [locallyApproved, h.primary, Bool.true_or]
  have hdeps : birthVerificationDeps config (some credential) credentialId =
      { hasHistory := config.hasHistory
        networkPassphrase := config.networkPassphrase
        acceptedBirthWasmHashes := config.acceptedBirthWasmHashes
        webauthnVerifierAddress := config.webauthnVerifierAddress
        expectedConstructorArgsHash := credential.birthConstructorArgsHash } := by
    rw [birthVerificationDeps, hlocal]
    rfl
  have hpreimage : checkContractIdPreimage create.contractIdPreimage
      (birthVerificationDeps config (some credential) credentialId) = .ok () := by
    rw [hdeps]
    cases hkind : create.contractIdPreimage with
    | fromAddress address salt => rfl
    | fromAsset asset => rw [contractIdFromCreateV2, hkind] at haddress; exact nomatch haddress
  let birth : VerifiedWalletBirth :=
    { contractId := contractId
      birthWasmHash := toHex wasmHash.1
      creationTransactionHash := toHex (List.replicate 32 0)
      creationLedger := .ofNat 1
      constructorArgsHash := constructorArgsHash create.constructorArgs
      birthSigner := .external config.webauthnVerifierAddress
        (credential.publicKey ++ fromBase64 credentialId) }
  have hverify : Program.Run (verifyWalletBirth (birthVerificationDeps config (some credential)
      credentialId) birth.toWalletCandidate) [⟨.getTransaction (toHex (List.replicate 32 0)), .ok
        (.success (.ofNat 1) (.ok (creationEnvelope ⟨List.replicate 32 0, by simp⟩ create)))⟩]
      (.ok (.ok birth)) :=
    run_verifyWalletBirth_of_creation ⟨List.replicate 32 0, by simp⟩
      (by rw [hdeps]; exact haddress) hpreimage (isHashHex_toHex wasmHash)
      (checkExecutable_eq_ok.mpr ⟨wasmHash, hexecutable, rfl, by rw [hdeps]; exact haccepted⟩)
      (by rw [hdeps]; exact hsigner) hargs
  have hkey : requireBirthSigner config (some credential) credentialId contractId birth =
      .ok credential.publicKey := by
    simp [requireBirthSigner, signerMatchesCredential_iff.mpr, birth]
  have hclaim := run_selectBirthCandidate_of_lookup
    { birth.toWalletCandidate with
      currentWasmHash := "", derivedAddress := false, collision := false }
    credentialId h.indexed rfl (candidateFromStoredCredential_of_ne h.not_recorded)
  refine ⟨{ credentialId := credentialId
            contractId := contractId
            credential := verifiedCredential (some credential) credentialId contractId
              credential.publicKey birth },
    connectedStorage config (verifiedCredential (some credential) credentialId contractId
      credential.publicKey birth) s, rfl, rfl,
    Memory.leads_bind (Memory.leads_other (run_readInstance (.wasm wasm)) ?_) ?_⟩
  · simp; rfl
  refine Memory.leads_ofExcept_bind (assertAcceptedCode_eq_ok.mpr ⟨wasm, rfl, hwasm⟩) ?_
  refine Memory.leads_bind (Memory.leads_other hclaim (by simp; exact ⟨rfl, rfl⟩)) ?_
  refine Memory.leads_bind (Memory.leads_other (run_requireVerifiedBirth_of_ok hverify) ?_) ?_
  · simp; rfl
  refine Memory.leads_ofExcept_bind hkey ?_
  refine Memory.leads_bind (Memory.leads_other (run_requireLiveSigner h.readable hsecondary) ?_) ?_
  · simp; exact ⟨rfl, rfl⟩
  rw [requireOwnership, if_pos hlocal]
  exact saveConnection_leads _ s

/-- Every successful connection is to the derived address or to the record's if, and only if, the
contract that the caller names is not exempted by the record of another one. -/
theorem connectsDerivedOrRecorded_iff (config : ConnectionConfig)
    (credentialId? contractId? : Option String) (proof : Option FreshOwnershipProof)
    (allowAuthentication : Bool) (s : WalletStorage) :
    ConnectsDerivedOrRecorded config credentialId? contractId? proof allowAuthentication s ↔
      ∀ credentialId contractId credential, nonEmptyText credentialId? = some credentialId →
        nonEmptyText contractId? = some contractId →
        s.credentials.get credentialId = some credential →
        ¬Exempted config credential credentialId contractId := by
  constructor
  · intro h credentialId contractId credential hid hcontract hrecord hexempted
    obtain ⟨result, s', rfl, rfl, t, hrun, hthreads⟩ :=
      hexempted.reachable proof allowAuthentication s
    have hsecondary : localSecondary (s.credentials.get result.credentialId) = false := by
      have hprimary := hexempted.primary
      simp only [localPrimary, Option.any_some, decide_eq_true_eq] at hprimary
      simp [hrecord, localSecondary, hprimary.1]
    have hconnect : Program.Run (connectWithCredentials config credentialId? contractId? proof
        allowAuthentication)
        (⟨.getCredential result.credentialId, some credential⟩ :: t) (.ok result) := by
      rw [connectWithCredentials, hid]
      refine Program.run_bind_ok.mpr ⟨_, [_], t, rfl, Program.run_await.mpr ⟨_, rfl, rfl⟩, ?_⟩
      refine Program.run_ofExcept_bind_ok.mpr ⟨(result.contractId, false), ?_, hrun⟩
      rw [connectionContractId, hcontract]
      rfl
    have hread : walletMemory.Step s ⟨.getCredential result.credentialId, some credential⟩ s :=
      Memory.Step.served (by rw [← hrecord]; rfl)
    rcases h _ result s' hconnect (Memory.Threads.cons hread hthreads) hsecondary with
      hderived | hrecorded
    · exact hexempted.not_derived hderived
    · rw [hrecord] at hrecorded
      exact hexempted.not_recorded (Option.some.inj hrecorded)
  · intro h t result s' hrun hthreads hsecondary
    obtain ⟨hid, derived, candidate, birth, publicKey, before, hcontract, hverified⟩ :=
      run_connectWithCredentials_ok hrun hthreads
    cases hlocal : locallyApproved (s.credentials.get result.credentialId) with
    | false => exact Or.inl (hverified.derived hlocal)
    | true =>
      rw [locallyApproved, hsecondary, Bool.or_false] at hlocal
      rw [connectionContractId] at hcontract
      -- an approved record: the caller's contract, the record's or the derived one
      cases hrecord : s.credentials.get result.credentialId with
      | none => rw [hrecord] at hlocal; cases hlocal
      | some credential =>
        rw [hrecord] at hcontract hverified hlocal
        cases hnamed : nonEmptyText contractId? with
        | some contractId =>
          rw [hnamed] at hcontract
          obtain rfl : contractId = result.contractId :=
            congrArg Prod.fst (Except.ok.inj hcontract)
          by_contra hother
          rw [not_or] at hother
          exact h _ _ credential hid hnamed hrecord (hverified.exempted hlocal
            (fun heq => hother.2 (congrArg some heq)) hother.1)
        | none =>
          rw [hnamed, Option.none_or] at hcontract
          cases hfound : nonEmptyText ((some credential).map (·.contractId)) with
          | some contractId =>
            rw [hfound] at hcontract
            obtain rfl : contractId = result.contractId :=
              congrArg Prod.fst (Except.ok.inj hcontract)
            exact Or.inr (nonEmptyText_eq_some.mp hfound).1
          | none =>
            rw [hfound] at hcontract
            obtain ⟨contractId, hderive, hpair⟩ := except_bind_eq_ok.mp hcontract
            obtain rfl : contractId = result.contractId :=
              congrArg Prod.fst (Except.ok.inj hpair)
            exact Or.inl hderive

/-- The record of the derived wallet connects the kit to a wallet of another deployer that has
the same constructor. -/
theorem connects_elsewhere :
    ¬ConnectsDerivedOrRecorded sampleConnectionConfig (some "AQ")
      (some (sampleWalletId (sampleAccount 5))) none false ⟨[sampleRecord], none⟩ := by
  have hconnects : ((walletMemory.execute (sampleWorld (sampleAccount 5)).reply
      (connectWithCredentials sampleConnectionConfig (some "AQ")
        (some (sampleWalletId (sampleAccount 5))) none false)
      ⟨[sampleRecord], none⟩).result.toOption.map fun result =>
        (result.credentialId, result.contractId)) =
      some ("AQ", sampleWalletId (sampleAccount 5)) := by
    decide +kernel
  have hderived : deriveContractAddress (fromBase64 "AQ") (sampleAccountId 4) "Sample Network" =
      .ok (sampleWalletId (sampleAccount 4)) := by
    rw [deriveContractAddress_eq_ok (sampleAccount_toStrkey 4)]
    rfl
  have hother : sampleWalletId (sampleAccount 4) ≠ sampleWalletId (sampleAccount 5) := by
    set_option maxRecDepth 20000 in decide
  have hrun := walletMemory.run_execute (sampleWorld (sampleAccount 5)).reply
    (connectWithCredentials sampleConnectionConfig (some "AQ")
      (some (sampleWalletId (sampleAccount 5))) none false) ⟨[sampleRecord], none⟩
  generalize walletMemory.execute _ _ _ = outcome at hconnects hrun
  obtain ⟨result, hresult, hpair⟩ := Option.map_eq_some_iff.mp hconnects
  have hid : result.credentialId = "AQ" := congrArg Prod.fst hpair
  have hcontract : result.contractId = sampleWalletId (sampleAccount 5) := congrArg Prod.snd hpair
  have hrecord : CredentialStore.get [sampleRecord] "AQ" = some sampleRecord := rfl
  rw [toOption_eq_some.mp hresult] at hrun
  intro hclaim
  have hreached := hclaim _ result _ hrun.1 hrun.2
  rw [hid, hcontract, hrecord] at hreached
  rcases hreached rfl with hsame | hsame
  · exact hother (Except.ok.inj (hderived.symm.trans hsame))
  · exact hother (Option.some.inj hsame)

end SmartAccountKit
