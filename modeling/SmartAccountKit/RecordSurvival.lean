import Mathlib.Logic.Relation
import SmartAccountKit.BirthAcceptance
import SmartAccountKit.CredentialTheorems

/-!
# Verified records

The record of a verified deployment stays as it is while its wallet is connected,
synced, deployed and deleted, as long as the instance of its contract can be read.
A read that fails costs the record: connecting marks it as pending, and deleting
takes its wallet for absent.
-/

namespace SmartAccountKit
open Lib

/-! ## Verified records -/

/-- A record of a verified deployment, with the facts of the birth in the form in which a
verification gives them. -/
structure VerifiedRecord (record : StoredCredential) : Prop where
  deployed : record.deploymentStatus = some .deployed
  contract : record.contractId ≠ ""
  wasm : ∃ wasmHash, record.birthWasmHash = some wasmHash ∧ IsHashHex wasmHash
  transaction : ∃ txHash, record.creationTransactionHash = some txHash ∧ IsHashHex txHash
  ledger : ∃ ledger, record.creationLedger = some ledger ∧ ledger.isSafeInteger = true ∧
    ledger.lt (.ofNat 1) = false
  constructor : ∃ argsHash, record.birthConstructorArgsHash = some argsHash ∧ IsHashHex argsHash

/-- A record says the same of its deployment as another one. -/
structure KeepsDeployment (record c : StoredCredential) : Prop where
  deploymentStatus : c.deploymentStatus = some .deployed
  contractId : c.contractId = record.contractId
  birthWasmHash : c.birthWasmHash = record.birthWasmHash
  creationTransactionHash : c.creationTransactionHash = record.creationTransactionHash
  creationLedger : c.creationLedger = record.creationLedger
  birthConstructorArgsHash : c.birthConstructorArgsHash = record.birthConstructorArgsHash
  isPrimary : c.isPrimary = record.isPrimary
  associationVerified : c.associationVerified = record.associationVerified

/-- The contract that is named, if there is one, is that of the record. -/
def NamesOwnContract (record : StoredCredential) (contractId? : Option String) : Prop :=
  ∀ contractId, nonEmptyText contractId? = some contractId → contractId = record.contractId

/-- The storage has the record, and no session of its credential for another contract. -/
structure RecordKept (record : StoredCredential) (s : WalletStorage) : Prop where
  stored : ∃ c, s.credentials.get record.credentialId = some c ∧ KeepsDeployment record c
  session : ∀ session ∈ s.session, session.credentialId = record.credentialId →
    NamesOwnContract record (some session.contractId)

/-- A request that leaves the record of a deployment as it is. -/
def WalletRequest.SparesRecord (record : StoredCredential) : WalletRequest → Prop
  | .saveCredential c => c.credentialId = record.credentialId → KeepsDeployment record c
  | .updateCredential credentialId updates => credentialId = record.credentialId →
      ∀ c, KeepsDeployment record c → KeepsDeployment record (c.apply updates)
  | .deleteCredential credentialId => credentialId ≠ record.credentialId
  | .saveSession session => session.credentialId = record.credentialId →
      NamesOwnContract record (some session.contractId)
  | _ => True

/-! ## Calls -/

/-- A call that reads or writes the record of a credential. -/
inductive RecordCall where
  | connectWallet (options : ConnectWalletOptions)
  | sync (credentialId : String)
  | syncAll
  | delete (credentialId : String)
  | deploy (credentialId : String) (options : DeployOptions)

/-- A history of a call, however the call ends. -/
def RecordCall.Runs (config : WalletConfig) (t : History WalletEnvironment) : RecordCall → Prop
  | connectWallet options =>
    ∃ x, Program.Run (SmartAccountKit.connectWallet config.toConnectionConfig options) t x
  | sync credentialId => ∃ x, Program.Run (CredentialManager.sync config credentialId) t x
  | syncAll => ∃ x, Program.Run (CredentialManager.syncAll config) t x
  | delete credentialId => ∃ x, Program.Run (CredentialManager.delete config credentialId) t x
  | deploy credentialId options =>
    ∃ x, Program.Run (CredentialManager.deploy config credentialId options) t x

/-- A call of `connectWallet` is about a credential: it is given, or the stored session or the
passkey names it. -/
def PicksCredential (credentialId : String) (options : ConnectWalletOptions)
    (t : History WalletEnvironment) : Prop :=
  options.credentialId = some credentialId ∨
    (∃ session, (⟨.getSession, some session⟩ : Exchange WalletEnvironment) ∈ t ∧
      session.credentialId = credentialId) ∨
    ∃ challenge response,
      (⟨.startAuthentication challenge, .ok response⟩ : Exchange WalletEnvironment) ∈ t ∧
        response.id = credentialId

/-- An exchange is not a failed read of the instance of a contract. -/
def AnswersInstance (contractId : String) (e : Exchange WalletEnvironment) : Prop :=
  ∀ error, e ≠ ⟨.getContractData contractId, .error error⟩

/-- An exchange reports no creation of the contract of a record with another constructor. This is
asked of a record that is not approved locally: connecting takes its constructor from the chain. -/
def ReportsConstructor (record : StoredCredential) (networkPassphrase : String)
    (e : Exchange WalletEnvironment) : Prop :=
  locallyApproved (some record) = false → ∀ envelope, ReportsEnvelope e envelope →
    ∀ create ∈ matchingCreations networkPassphrase record.contractId envelope.innerTransaction,
      record.birthConstructorArgsHash = some (constructorArgsHash create.constructorArgs)

/-- An exchange agrees with a record: the instance of its contract is read, and its creation is the
one that the record knows. -/
structure AgreesWith (record : StoredCredential) (networkPassphrase : String)
    (e : Exchange WalletEnvironment) : Prop where
  instance_read : AnswersInstance record.contractId e
  constructor : ReportsConstructor record networkPassphrase e

/-- A simulated deployment is not submitted, since that is not asked for or is refused, and creates
what the record says was created. -/
def RepeatsBirth (record : StoredCredential) (config : WalletConfig) (options : DeployOptions)
    (tx : AssembledTransaction) : Prop :=
  (options.autoSubmit = false ∨ checkSubmission config options ≠ .ok ()) ∧
    ∀ descriptor, describeDeploymentBirth (.assembled tx) = .ok descriptor →
      record.birthWasmHash = some descriptor.birthWasmHash ∧
        record.birthConstructorArgsHash = some descriptor.birthConstructorArgsHash

/-- What spares a record in the history of a call that is about its credential: the instance of its
contract can be read while it is connected, for no other contract, or deleted, and no deployment is
simulated other than that of its birth, to be submitted by hand. -/
def RecordCall.Spares (record : StoredCredential) (config : WalletConfig)
    (t : History WalletEnvironment) : RecordCall → Prop
  | connectWallet options => PicksCredential record.credentialId options t →
      (options.credentialId = some record.credentialId →
        NamesOwnContract record options.contractId) ∧
      ∀ e ∈ t, AgreesWith record config.networkPassphrase e
  | sync _ => True
  | syncAll => True
  | delete credentialId => credentialId = record.credentialId →
      ∀ e ∈ t, AnswersInstance record.contractId e
  | deploy credentialId options => credentialId = record.credentialId → ∀ args tx,
      (⟨.simulateDeployment args, .ok tx⟩ : Exchange WalletEnvironment) ∈ t →
        RepeatsBirth record config options tx

/-- A state reached in a call of some kit, at the end of the call or between two of its requests. -/
def CallStep (allowed : WalletConfig → History WalletEnvironment → RecordCall → Prop)
    (s s' : WalletStorage) : Prop :=
  ∃ (config : WalletConfig) (call : RecordCall) (t rest : History WalletEnvironment)
    (s'' : WalletStorage), call.Runs config (t ++ rest) ∧ allowed config (t ++ rest) call ∧
      walletMemory.Threads s t s' ∧ walletMemory.Threads s' rest s''

/-! ## Records that keep a deployment -/

section kept

variable {record c : StoredCredential}

theorem VerifiedRecord.keepsDeployment (h : VerifiedRecord record) : KeepsDeployment record record :=
  ⟨h.deployed, rfl, rfl, rfl, rfl, rfl, rfl, rfl⟩

theorem KeepsDeployment.hasVerifiedBirth (h : KeepsDeployment record c)
    (hrecord : VerifiedRecord record) : SmartAccountKit.hasVerifiedBirth c = true := by
  obtain ⟨wasmHash, hwasm, -⟩ := hrecord.wasm
  obtain ⟨txHash, htx, -⟩ := hrecord.transaction
  obtain ⟨ledger, hledger, -⟩ := hrecord.ledger
  obtain ⟨argsHash, hargs, -⟩ := hrecord.constructor
  simp [SmartAccountKit.hasVerifiedBirth, h.deploymentStatus, h.birthWasmHash, hwasm,
    h.creationTransactionHash, htx, h.creationLedger, hledger, h.birthConstructorArgsHash, hargs]

theorem KeepsDeployment.locallyApproved (h : KeepsDeployment record c) :
    SmartAccountKit.locallyApproved (some c) = SmartAccountKit.locallyApproved (some record) := by
  simp [SmartAccountKit.locallyApproved, localPrimary, localSecondary, h.isPrimary,
    h.associationVerified, h.birthConstructorArgsHash]

/-- The record is the birth claim of its contract. -/
theorem KeepsDeployment.candidate (h : KeepsDeployment record c) (hrecord : VerifiedRecord record) :
    ∃ candidate, candidateFromStoredCredential (some c) record.contractId = some candidate ∧
      readCandidate candidate =
        .ok (candidate.birthWasmHash, candidate.creationTransactionHash) ∧
      record.birthWasmHash = some candidate.birthWasmHash ∧
      record.creationTransactionHash = some candidate.creationTransactionHash ∧
      record.creationLedger = some candidate.creationLedger := by
  obtain ⟨wasmHash, hwasm, hwasmHex⟩ := hrecord.wasm
  obtain ⟨txHash, htx, htxHex⟩ := hrecord.transaction
  obtain ⟨ledger, hledger, hsafe, hpositive⟩ := hrecord.ledger
  refine ⟨{ contractId := record.contractId, birthWasmHash := wasmHash
            creationTransactionHash := txHash, creationLedger := ledger }, ?_,
    readCandidate_of_hashes hwasmHex htxHex hsafe hpositive, hwasm, htx, hledger⟩
  have hwasmText : nonEmptyText c.birthWasmHash = some wasmHash :=
    nonEmptyText_eq_some.mpr ⟨h.birthWasmHash.trans hwasm, hwasmHex.ne_empty⟩
  have htxText : nonEmptyText c.creationTransactionHash = some txHash :=
    nonEmptyText_eq_some.mpr ⟨h.creationTransactionHash.trans htx, htxHex.ne_empty⟩
  simp [candidateFromStoredCredential, hwasmText, htxText, h.creationLedger.trans hledger,
    h.contractId, hsafe, hpositive]

/-- What an approved constructor hashes to. -/
theorem constructorArgsHash_of_approved {args : List ScVal} {deps : WalletBirthVerificationDeps}
    {expected : String} (hexpected : deps.expectedConstructorArgsHash = some expected)
    (hhex : IsHashHex expected) (h : checkConstructorArgs args deps = .ok ()) :
    constructorArgsHash args = expected := by
  have hgiven : nonEmptyText deps.expectedConstructorArgsHash = some expected :=
    nonEmptyText_eq_some.mpr ⟨hexpected, hhex.ne_empty⟩
  rw [checkConstructorArgs, hgiven] at h
  dsimp only at h
  rw [normalizeHashHex_eq_self hhex] at h
  dsimp only at h
  split_ifs at h with hargs
  exact not_not.mp hargs

/-- The constructor that is verified is that of the record: the record approves it, or the chain
reports no other one. -/
theorem KeepsDeployment.constructorArgsHash {config : ConnectionConfig} {candidate : WalletCandidate}
    {create : CreateContractArgsV2} {envelope : DecodedEnvelope} {e : Exchange WalletEnvironment}
    {credentialId txHash argsHash : String} (h : KeepsDeployment record c)
    (hargs : record.birthConstructorArgsHash = some argsHash) (hhex : IsHashHex argsHash)
    (hcontract : candidate.contractId = record.contractId)
    (hreports : ReportsEnvelope e envelope)
    (hagrees : ReportsConstructor record config.networkPassphrase e)
    (hfind : findCreation (birthVerificationDeps config (some c) credentialId) candidate txHash
      envelope = .ok create)
    (hcheck : checkConstructorArgs create.constructorArgs
      (birthVerificationDeps config (some c) credentialId) = .ok ()) :
    SmartAccountKit.constructorArgsHash create.constructorArgs = argsHash := by
  cases happroved : SmartAccountKit.locallyApproved (some record) with
  | true =>
    refine constructorArgsHash_of_approved ?_ hhex hcheck
    rw [birthVerificationDeps, if_pos (h.locallyApproved.trans happroved)]
    exact h.birthConstructorArgsHash.trans hargs
  | false =>
    have hnetwork : (birthVerificationDeps config (some c) credentialId).networkPassphrase =
        config.networkPassphrase := by
      rw [birthVerificationDeps, h.locallyApproved.trans happroved]
      rfl
    have hmem : create ∈ matchingCreations config.networkPassphrase record.contractId
        envelope.innerTransaction := by
      rw [← hnetwork, ← hcontract, (findCreation_eq_ok.mp hfind).2]
      exact List.mem_singleton_self create
    exact (Option.some.inj (hargs.symm.trans (hagrees happroved envelope hreports create hmem))).symm

/-- Verifying the birth of the record again gives the record again. -/
theorem KeepsDeployment.verified {config : ConnectionConfig} {usedDerivedCandidate : Bool}
    {candidate : WalletCandidate} {birth : VerifiedWalletBirth} {publicKey : Bytes}
    {t t' : History WalletEnvironment} {credentialId : String} (h : KeepsDeployment record c)
    (hrecord : VerifiedRecord record)
    (hselected : Program.Run (selectBirthCandidate config (some c) credentialId
      record.contractId usedDerivedCandidate) t (.ok candidate))
    (hverified : Program.Run (requireVerifiedBirth config (some c) credentialId
      record.contractId candidate) t' (.ok birth))
    (hagrees : ∀ e ∈ t', ReportsConstructor record config.networkPassphrase e) :
    KeepsDeployment record
      (verifiedCredential (some c) credentialId record.contractId publicKey birth) := by
  obtain ⟨stored, hstored, hread, hwasm, htx, hledger⟩ := h.candidate hrecord
  obtain ⟨argsHash, hargs, hargsHex⟩ := hrecord.constructor
  have hclaim := (run_selectBirthCandidate_ok hselected).1
  have hcandidate : candidate = stored := by
    rcases hclaim with hclaim | hclaim
    · exact Option.some.inj (hclaim.symm.trans hstored)
    · exact absurd (hclaim.1.symm.trans hstored) (by simp)
  rw [hcandidate] at hverified
  obtain ⟨claimedWasm, txHash, envelope, hclaimed, hcreation, e, he, hreports⟩ :=
    run_verifyWalletBirth_ok (run_requireVerifiedBirth_ok hverified)
  obtain ⟨hwasmHash, htxHash⟩ := Prod.mk.inj (Except.ok.inj (hread.symm.trans hclaimed))
  obtain ⟨create, signer, hfind, -, -, -, hconstructor, hbirth⟩ := verifyCreation_eq_ok.mp hcreation
  have hcontract : stored.contractId = record.contractId := hcandidate ▸ hclaim.contractId_eq
  have hhash := h.constructorArgsHash hargs hargsHex hcontract hreports (hagrees e he) hfind
    hconstructor
  rw [hbirth]
  exact
    { deploymentStatus := rfl
      contractId := rfl
      birthWasmHash := (congrArg some hwasmHash).symm.trans hwasm.symm
      creationTransactionHash := (congrArg some htxHash).symm.trans htx.symm
      creationLedger := hledger.symm
      birthConstructorArgsHash := (congrArg some hhash).trans hargs.symm
      isPrimary := h.isPrimary
      associationVerified := h.associationVerified }

end kept

/-! ## Requests that spare a record -/

/-- What spares the record keeps it. -/
theorem walletMemory_keepsRecord (record : StoredCredential) :
    walletMemory.Keeps (WalletRequest.SparesRecord record) (RecordKept record) := by
  intro r s reply s' hr hserve hs
  obtain ⟨c, hstored, hc⟩ := hs.stored
  cases r with
  | saveCredential credential =>
    rw [← (Prod.mk.inj (Option.some.inj hserve)).2]
    refine ⟨?_, hs.session⟩
    show ∃ c, (s.credentials.save credential).get record.credentialId = some c ∧ _
    rw [CredentialStore.get_save]
    split_ifs with hid
    · exact ⟨credential, rfl, hr hid⟩
    · exact ⟨c, hstored, hc⟩
  | updateCredential credentialId updates =>
    rw [← (Prod.mk.inj (Option.some.inj hserve)).2]
    refine ⟨?_, hs.session⟩
    show ∃ c, (s.credentials.update credentialId updates).get record.credentialId = some c ∧ _
    rw [CredentialStore.get_update]
    split_ifs with hid
    · exact ⟨c.apply updates, by rw [hstored]; rfl, hr hid c hc⟩
    · exact ⟨c, hstored, hc⟩
  | deleteCredential credentialId =>
    rw [← (Prod.mk.inj (Option.some.inj hserve)).2]
    refine ⟨⟨c, ?_, hc⟩, hs.session⟩
    exact (CredentialStore.get_delete_other hr).trans hstored
  | saveSession session =>
    rw [← (Prod.mk.inj (Option.some.inj hserve)).2]
    refine ⟨hs.stored, fun session' hsession' hid => ?_⟩
    obtain rfl := Option.some.inj hsession'
    exact hr hid
  | clearSession =>
    rw [← (Prod.mk.inj (Option.some.inj hserve)).2]
    exact ⟨hs.stored, fun session' hsession' => absurd hsession' (by simp)⟩
  | getCredential _ | getAllCredentials | getSession =>
    rw [← (Prod.mk.inj (Option.some.inj hserve)).2]
    exact hs
  | _ => exact nomatch hserve

theorem WalletRequest.sparesRecord_of_isWrite {record : StoredCredential} {r : WalletRequest}
    (h : r.isWrite = false) : r.SparesRecord record := by
  cases r <;> trivial

/-- In every run whose exchanges satisfy `C`, from a storage that has the record, every request
spares the record. -/
def Sparing {ε α : Type} (record : StoredCredential) (C : Exchange WalletEnvironment → Prop)
    (p : Program WalletEnvironment ε α) : Prop :=
  walletMemory.Guarded C (RecordKept record) (WalletRequest.SparesRecord record) p

section sparing

variable {record : StoredCredential} {C : Exchange WalletEnvironment → Prop} {ε α β : Type}

theorem Sparing.of_exchanges {p : Program WalletEnvironment ε α}
    (hp : Program.Exchanges (WalletRequest.SparesRecord record) (fun _ => True) p) :
    Sparing record C p :=
  Memory.Guarded.of_exchanges hp

theorem WritesNothing.sparing {p : Program WalletEnvironment ε α} (hp : WritesNothing p) :
    Sparing record C p :=
  Sparing.of_exchanges (Program.Exchanges.mono hp fun _ hr =>
    WalletRequest.sparesRecord_of_isWrite hr)

theorem sparing_done {x : Except ε α} :
    Sparing record C (Program.done x : Program WalletEnvironment ε α) :=
  Sparing.of_exchanges Program.exchanges_done

theorem sparing_bind {p : Program WalletEnvironment ε α} {f : α → Program WalletEnvironment ε β}
    (hp : Sparing record C p)
    (hf : ∀ a t s s', Program.Run p t (.ok a) → (∀ e ∈ t, C e) → RecordKept record s →
      walletMemory.Threads s t s' → Sparing record C (f a)) :
    Sparing record C (Program.bind p f) :=
  Memory.guarded_bind (walletMemory_keepsRecord record) hp hf

theorem Sparing.bind {p : Program WalletEnvironment ε α} {f : α → Program WalletEnvironment ε β}
    (hp : Sparing record C p) (hf : ∀ a, Sparing record C (f a)) :
    Sparing record C (Program.bind p f) :=
  sparing_bind hp fun a _ _ _ _ _ _ _ => hf a

theorem sparing_await {r : WalletRequest} {read : WalletReply r → Except ε α}
    (hr : r.SparesRecord record) :
    Sparing record C (Program.await (I := WalletEnvironment) r read) :=
  Sparing.of_exchanges (Program.exchanges_await hr fun _ _ => trivial)

/-- A request whose reply decides how the program goes on. -/
theorem sparing_ask {r : WalletRequest} {next : WalletReply r → Program WalletEnvironment ε α}
    (hr : r.SparesRecord record)
    (hnext : ∀ reply s s', RecordKept record s →
      walletMemory.Step s (⟨r, reply⟩ : Exchange WalletEnvironment) s' → C ⟨r, reply⟩ →
      Sparing record C (next reply)) :
    Sparing record C (Program.ask (I := WalletEnvironment) r next) :=
  Memory.guarded_ask (walletMemory_keepsRecord record) hr hnext

/-- The stored record is the one that keeps the deployment. -/
theorem RecordKept.getCredential {s s' : WalletStorage} {credential : Option StoredCredential}
    (h : RecordKept record s)
    (hstep : walletMemory.Step s
      (⟨.getCredential record.credentialId, credential⟩ : Exchange WalletEnvironment) s') :
    ∃ c, credential = some c ∧ KeepsDeployment record c := by
  obtain ⟨c, hstored, hc⟩ := h.stored
  exact ⟨c, (hstep.served_inv (M := walletMemory) rfl).1.trans hstored, hc⟩

end sparing

/-! ## Connecting -/

section connecting

variable {config : ConnectionConfig} {record c : StoredCredential}
  {C : Exchange WalletEnvironment → Prop} {usedDerivedCandidate allowAuthentication : Bool}
  {proof : Option FreshOwnershipProof}

/-- Saving a connection writes the record and a session of its credential. -/
theorem saveConnection_sparing {verified : StoredCredential}
    (hrecord : verified.credentialId = record.credentialId → KeepsDeployment record verified) :
    Sparing record C (saveConnection config verified) := by
  apply Sparing.of_exchanges
  apply saveConnection_requests
  case hrecord => exact hrecord
  case hsession =>
    intro now hid contractId hnamed
    have hsaved := Option.some.inj (nonEmptyText_eq_some.mp hnamed).1
    exact hsaved.symm.trans (hrecord hid).contractId
  all_goals trivial

/-- Between the read of the instance and the saving of the connection nothing is written. -/
theorem connectToContract_sparing_of {credential : Option StoredCredential}
    {credentialId contractId : String}
    (hread : Sparing record C (readInstance credential credentialId contractId))
    (hsave : ∀ candidate birth publicKey t t',
      Program.Run (selectBirthCandidate config credential credentialId contractId
        usedDerivedCandidate) t (.ok candidate) →
      Program.Run (requireVerifiedBirth config credential credentialId contractId candidate) t'
        (.ok birth) →
      (∀ e ∈ t', C e) →
      Sparing record C (saveConnection config
        (verifiedCredential credential credentialId contractId publicKey birth))) :
    Sparing record C (connectToContract config credential credentialId contractId
      usedDerivedCandidate proof allowAuthentication) := by
  refine hread.bind fun executable => ?_
  refine sparing_done.bind fun _ => ?_
  have hselect := selectBirthCandidate_writesNothing config credential credentialId contractId
    usedDerivedCandidate
  refine sparing_bind hselect.sparing fun candidate t _ _ hselected _ _ _ => ?_
  have hverify := requireVerifiedBirth_onlyChecks config credential credentialId contractId candidate
  refine sparing_bind hverify.onlyVerifies.writesNothing.sparing
    fun birth t' _ _ hverified hreports _ _ => ?_
  refine sparing_done.bind fun publicKey => ?_
  have hlive := requireLiveSigner_onlyChecks config credential credentialId contractId publicKey
  refine hlive.onlyVerifies.writesNothing.sparing.bind fun _ => ?_
  have howned := requireOwnership_onlyVerifies config credential credentialId contractId publicKey
    proof allowAuthentication
  refine howned.writesNothing.sparing.bind fun _ => ?_
  exact hsave candidate birth publicKey t t' hselected hverified hreports

/-- Connecting with the record writes it again as it is, if the instance is read. -/
theorem connectToContract_sparing (hrecord : VerifiedRecord record) (hc : KeepsDeployment record c)
    (hagrees : ∀ e, C e → AgreesWith record config.networkPassphrase e) :
    Sparing record C (connectToContract config (some c) record.credentialId record.contractId
      usedDerivedCandidate proof allowAuthentication) := by
  apply connectToContract_sparing_of
  · refine sparing_ask trivial fun reply _ _ _ _ hanswer => ?_
    cases reply with
    | ok executable => exact sparing_done
    | error error =>
      -- only a failed read would mark the record
      exact absurd rfl ((hagrees _ hanswer).instance_read error)
  · intro candidate birth publicKey t t' hselected hverified hreports
    exact saveConnection_sparing fun _ => hc.verified hrecord hselected hverified
      fun e he => (hagrees e (hreports e he)).constructor

/-- Connecting with another credential writes only the record and the session of that one. -/
theorem connectToContract_sparing_other {credential : Option StoredCredential}
    {credentialId contractId : String} (hother : credentialId ≠ record.credentialId) :
    Sparing record C (connectToContract config credential credentialId contractId
      usedDerivedCandidate proof allowAuthentication) := by
  apply connectToContract_sparing_of
  · exact Sparing.of_exchanges (readInstance_requests trivial fun hid => absurd hid hother)
  · intro candidate birth publicKey t t' _ _ _
    exact saveConnection_sparing fun hid => absurd hid hother

/-- The contract to connect to is that of the record, unless another one is named. -/
theorem connectionContractId_own {contractId? : Option String} (hrecord : VerifiedRecord record)
    (hc : KeepsDeployment record c) (hown : NamesOwnContract record contractId?)
    {credentialId : String} :
    connectionContractId config (some c) credentialId contractId? =
      .ok (record.contractId, false) := by
  have hstored : nonEmptyText ((some c).map (·.contractId)) = some record.contractId :=
    nonEmptyText_eq_some.mpr ⟨congrArg some hc.contractId, hrecord.contract⟩
  rw [connectionContractId, hstored]
  cases hnamed : nonEmptyText contractId? with
  | none => rfl
  | some contractId =>
    rw [hown contractId hnamed]
    rfl

/-- Connecting spares a record if its credential connects to the contract of the record alone, and
what is read of that agrees with the record. -/
theorem connectWithCredentials_sparing {credentialId? contractId? : Option String}
    (hrecord : VerifiedRecord record)
    (hown : credentialId? = some record.credentialId → NamesOwnContract record contractId?)
    (hagrees : credentialId? = some record.credentialId →
      ∀ e, C e → AgreesWith record config.networkPassphrase e) :
    Sparing record C
      (connectWithCredentials config credentialId? contractId? proof allowAuthentication) := by
  rw [connectWithCredentials]
  cases hid : nonEmptyText credentialId? with
  | none => exact sparing_done
  | some credentialId =>
    have hgiven := (nonEmptyText_eq_some.mp hid).1
    refine sparing_ask trivial fun credential s s' hs hstep _ => ?_
    show Sparing record C (Program.bind (Program.ofExcept (connectionContractId config credential
      credentialId contractId?)) _)
    by_cases hsame : credentialId = record.credentialId
    · -- the record is found, and connects to its own contract
      rw [hsame] at hgiven hstep ⊢
      obtain ⟨c, rfl, hc⟩ := hs.getCredential hstep
      rw [connectionContractId_own hrecord hc (hown hgiven)]
      exact connectToContract_sparing hrecord hc (hagrees hgiven)
    · refine sparing_done.bind fun target => ?_
      exact connectToContract_sparing_other hsame

/-- The exchanges of `connectWallet` in which the stored session or the passkey names the
credential of a record only where `picked` holds, and which agree with the record if it does. -/
structure PickedExchange (record : StoredCredential) (config : ConnectionConfig) (picked : Prop)
    (e : Exchange WalletEnvironment) : Prop where
  session : ∀ session, e = ⟨.getSession, some session⟩ →
    session.credentialId = record.credentialId → picked
  passkey : ∀ challenge response, e = ⟨.startAuthentication challenge, .ok response⟩ →
    response.id = record.credentialId → picked
  agrees : picked → AgreesWith record config.networkPassphrase e

/-- The exchanges of a call that spares the record. -/
theorem RecordCall.Spares.pickedExchange {config : WalletConfig} {options : ConnectWalletOptions}
    {t : History WalletEnvironment}
    (h : (RecordCall.connectWallet options).Spares record config t) :
    ∀ e ∈ t, PickedExchange record config.toConnectionConfig
      (PicksCredential record.credentialId options t) e := by
  intro e he
  refine ⟨fun session hsame hid => ?_, fun challenge response hsame hid => ?_,
    fun hpicked => (h hpicked).2 e he⟩
  · rw [hsame] at he
    exact Or.inr (Or.inl ⟨session, he, hid⟩)
  · rw [hsame] at he
    exact Or.inr (Or.inr ⟨challenge, response, he, hid⟩)

end connecting

section connectWallet

variable {config : ConnectionConfig} {record : StoredCredential} {picked : Prop}
  {options : ConnectWalletOptions}

/-- Restoring a session connects its credential to its contract. -/
theorem restoreSession_sparing (hrecord : VerifiedRecord record) :
    Sparing record (PickedExchange record config picked)
      (restoreSession (fun p => p) config) := by
  have hdrop : Sparing record (PickedExchange record config picked)
      (dropSession (J := WalletEnvironment) fun p => p) :=
    Sparing.bind (sparing_await trivial) fun _ => sparing_done
  refine sparing_ask trivial fun session? s s' hs hstep hexchange => ?_
  cases session? with
  | none => exact sparing_done
  | some session =>
    have hstored : some session = s.session := (hstep.served_inv (M := walletMemory) rfl).1
    show Sparing record _ (Program.bind (sessionExpired (fun p => p) session) _)
    refine Sparing.bind ?_ fun expired => ?_
    · unfold sessionExpired
      split
      · exact Sparing.bind (sparing_await trivial) fun _ => sparing_done
      · exact sparing_done
    cases expired with
    | true =>
      exact Sparing.bind (sparing_await trivial) fun _ => hdrop
    | false =>
      refine Sparing.bind (Memory.guarded_attempt ?_) fun outcome => ?_
      · refine connectWithCredentials_sparing hrecord (fun hid => ?_) fun hid e he => ?_
        · exact hs.session session hstored.symm (Option.some.inj hid)
        · exact he.agrees (hexchange.session session rfl (Option.some.inj hid))
      cases outcome with
      | ok result => exact sparing_done
      | error error =>
        show Sparing record _ (if endsSession error then dropSession _ else Program.throw error)
        split
        · exact hdrop
        · exact sparing_done

/-- A passkey connects the contract of its record. -/
theorem connectPrompted_sparing (hrecord : VerifiedRecord record) :
    Sparing record (PickedExchange record config picked)
      (connectPrompted (fun p => p) config) := by
  refine Sparing.bind (sparing_await trivial) fun challenge => ?_
  refine sparing_ask trivial fun response _ _ _ _ hexchange => ?_
  cases response with
  | error error => exact sparing_done
  | ok response =>
    show Sparing record _ (Program.bind (connectWithCredentials config (some response.id) none
      (some { response, challenge }) true) _)
    refine Sparing.bind ?_ fun _ => sparing_done
    refine connectWithCredentials_sparing hrecord (fun _ _ hnamed => absurd hnamed (by simp))
      fun hid e he => ?_
    exact he.agrees (hexchange.passkey challenge response rfl (Option.some.inj hid))

theorem connectWallet_sparing (hrecord : VerifiedRecord record)
    (hpicked : options.credentialId = some record.credentialId → picked)
    (hown : options.credentialId = some record.credentialId →
      NamesOwnContract record options.contractId) :
    Sparing record (PickedExchange record config picked) (connectWallet config options) := by
  unfold connectWallet connectWalletOver
  split
  · refine Sparing.bind ?_ fun _ => sparing_done
    exact connectWithCredentials_sparing hrecord hown fun hid e he => he.agrees (hpicked hid)
  · refine Sparing.bind ?_ fun restored => ?_
    · unfold restoreUnlessFresh
      split
      · exact sparing_done
      · exact restoreSession_sparing hrecord
    cases restored with
    | some result => exact sparing_done
    | none =>
      show Sparing record _ (if options.prompt ∨ options.fresh then connectPrompted _ config
        else return none)
      split
      · exact connectPrompted_sparing hrecord
      · exact sparing_done

end connectWallet

/-! ## Syncing and deleting -/

section syncing

variable {config : WalletConfig} {record : StoredCredential}
  {C : Exchange WalletEnvironment → Prop}

/-- Reading a record, and what follows if there is one. A record that keeps the deployment is
found for its credential. -/
theorem requireCredential_bind_sparing {α : Type} {credentialId : String}
    {f : StoredCredential → WalletProgram α}
    (hf : ∀ credential, (credentialId = record.credentialId → KeepsDeployment record credential) →
      Sparing record C (f credential)) :
    Sparing record C (Program.bind (requireCredential credentialId) f) := by
  refine sparing_ask trivial fun credential s s' hs hstep _ => ?_
  cases credential with
  | none => exact sparing_done
  | some credential =>
    refine hf credential fun hid => ?_
    rw [hid] at hstep
    obtain ⟨c, hsome, hc⟩ := hs.getCredential hstep
    rwa [Option.some.inj hsome]

/-- A verified record is never written when it is synced. -/
theorem sync_sparing (hrecord : VerifiedRecord record) (credentialId : String) :
    Sparing record C (CredentialManager.sync config credentialId) := by
  refine requireCredential_bind_sparing fun credential hc => ?_
  refine Sparing.bind (Memory.guarded_attempt ?_) fun outcome => ?_
  · refine sparing_done.bind fun derived => ?_
    refine Sparing.bind (sparing_await trivial) fun _ => ?_
    split
    · exact sparing_done
    next hunverified =>
      -- only a record without a verified birth is written, and the record has one
      have hother : credentialId ≠ record.credentialId :=
        fun hid => hunverified ((hc hid).hasVerifiedBirth hrecord)
      exact Sparing.bind (sparing_await fun hid => absurd hid hother) fun _ => sparing_done
  · cases outcome <;> exact sparing_done

theorem syncAll_sparing (hrecord : VerifiedRecord record) :
    Sparing record C (CredentialManager.syncAll config) := by
  refine Sparing.bind (sparing_await trivial) fun all => ?_
  refine Memory.guarded_forEach (walletMemory_keepsRecord record) fun credential _ counts => ?_
  exact (sync_sparing hrecord credential.credentialId).bind fun _ => sparing_done

/-- The derived address of a credential is always found. -/
theorem derivedContractId_isOk (config : WalletConfig) (credentialId : String) :
    ∃ derived, derivedContractId config credentialId = .ok derived := by
  have hdeployer : (ScAddress.account config.deployerKey).toStrkey =
      some config.deployerPublicKey := rfl
  exact ⟨_, deriveContractAddress_eq_ok hdeployer⟩

/-- The wallet of a verified record exists if its instance is read. -/
theorem run_syncCredential_verified {c : StoredCredential} {credentialId : String}
    {t : History WalletEnvironment} {x : Except JsError Bool} (hrecord : VerifiedRecord record)
    (hc : KeepsDeployment record c)
    (hrun : Program.Run (CredentialManager.syncCredential config c credentialId) t x)
    (hread : ∀ e ∈ t, AnswersInstance record.contractId e) : x = .ok true := by
  obtain ⟨derived, hderived⟩ := derivedContractId_isOk config credentialId
  have hcontract : nonEmptyText (some c.contractId) = some record.contractId :=
    nonEmptyText_eq_some.mpr ⟨congrArg some hc.contractId, hrecord.contract⟩
  rw [CredentialManager.syncCredential, hderived, hcontract, if_pos (hc.hasVerifiedBirth hrecord)]
    at hrun
  change Program.Run (Program.bind (Program.await (I := WalletEnvironment)
    (.getContractData record.contractId) id) _) t x
    at hrun
  rcases Program.run_bind.mp hrun with ⟨error, hfail, -⟩ | ⟨_, t₁, t₂, rfl, -, hrest⟩
  · obtain ⟨reply, rfl, hreply⟩ := Program.run_await.mp hfail
    have hanswered := hread _ (List.mem_singleton_self _) error
    exact absurd (by rw [show reply = .error error from hreply.symm]) hanswered
  · exact (Program.run_pure.mp hrest).2

/-- The sync of a verified record finds its wallet, if the instance is read. -/
theorem run_sync_verified {t : History WalletEnvironment} {exists? : Bool} {s s' : WalletStorage}
    (hrecord : VerifiedRecord record) (hs : RecordKept record s)
    (hthreads : walletMemory.Threads s t s')
    (hrun : Program.Run (CredentialManager.sync config record.credentialId) t (.ok exists?))
    (hread : ∀ e ∈ t, AnswersInstance record.contractId e) : exists? = true := by
  obtain ⟨credential, t₁, r₁, rfl, hrequired, hrun₁⟩ := Program.run_bind_ok.mp hrun
  obtain ⟨found, t₂, r₂, rfl, hfound, hrequired₁⟩ := Program.run_bind_ok.mp hrequired
  obtain ⟨reply, rfl, hreply⟩ := Program.run_await.mp hfound
  obtain rfl := Except.ok.inj hreply
  obtain ⟨s₁, hstep, -⟩ := Memory.threads_cons.mp hthreads
  obtain ⟨c, rfl, hc⟩ := hs.getCredential hstep
  obtain ⟨rfl, hcredential⟩ := Program.run_pure.mp hrequired₁
  obtain rfl := Except.ok.inj hcredential
  obtain ⟨outcome, t₃, r₃, rfl, hattempt, hrun₂⟩ := Program.run_bind_ok.mp hrun₁
  obtain ⟨outcome', hsync, hsame⟩ := Program.run_attempt.mp hattempt
  obtain rfl := Except.ok.inj hsame
  obtain rfl := run_syncCredential_verified hrecord hc hsync fun e he => hread e (by simp [he])
  exact Except.ok.inj (Program.run_pure.mp hrun₂).2

/-- Deleting spares a record whose instance is read. -/
theorem delete_sparing {credentialId : String} (hrecord : VerifiedRecord record)
    (hread : credentialId = record.credentialId → ∀ e, C e → AnswersInstance record.contractId e) :
    Sparing record C (CredentialManager.delete config credentialId) := by
  refine requireCredential_bind_sparing fun _ _ => ?_
  refine sparing_bind (sync_sparing hrecord credentialId)
    fun isDeployed t s s' hrun ht hs hthreads => ?_
  cases isDeployed with
  | true => exact sparing_done
  | false =>
    -- a sync that finds no wallet is not one of the record
    refine sparing_await fun hid => ?_
    rw [hid] at hrun
    have hfound := run_sync_verified hrecord hs hthreads hrun fun e he => hread hid e (ht e he)
    exact absurd hfound (by simp)

end syncing

/-! ## Deploying -/

section deploying

variable {config : WalletConfig} {record : StoredCredential}
  {C : Exchange WalletEnvironment → Prop} {options : DeployOptions}

/-- Submitting a deployment writes the record of its credential alone. -/
theorem submitDeploymentTx_sparing {deployment : DeployTransaction}
    {signed : Option SignedTransaction} {credentialId : String}
    {forceMethod : Option SubmissionMethod} (hother : credentialId ≠ record.credentialId) :
    Sparing record C (submitDeploymentTx config deployment signed credentialId forceMethod) := by
  have hsubmit : Sparing record C (submitAndConfirm config deployment signed forceMethod) :=
    Sparing.of_exchanges (submitAndConfirm_asks.mono
      fun _ hr => WalletRequest.sparesRecord_of_isWrite hr.1)
  refine sparing_done.bind fun _ => ?_
  refine Sparing.bind (Memory.guarded_attempt hsubmit) fun outcome => ?_
  exact Sparing.bind (sparing_await fun hid => absurd hid hother) fun _ => sparing_done

/-- A submission that the kit refuses is refused by its route. -/
theorem checkRoute_of_checkSubmission (deployment : DeployTransaction)
    (h : checkSubmission config options ≠ .ok ()) :
    ∃ e, checkRoute config deployment options.forceMethod = .error e := by
  unfold checkSubmission at h
  dsimp only at h
  split_ifs at h with hrefused
  · obtain ⟨-, hmethod, hshared⟩ := hrefused
    refine ⟨_, if_pos ⟨hshared, Or.inr ?_⟩⟩
    rcases hmethod with hrpc | hrelayer
    · exact Or.inl (by rw [hrpc]; decide)
    · exact Or.inr hrelayer.2
  · exact absurd rfl h

/-- What is described of a deployment is what its simulated transaction creates. -/
theorem describeDeploymentBirth_of_func {deployment : DeployTransaction} {tx : AssembledTransaction}
    (h : deployment.func? = (DeployTransaction.assembled tx).func?) :
    describeDeploymentBirth deployment = describeDeploymentBirth (.assembled tx) := by
  rw [describeDeploymentBirth, describeDeploymentBirth, deploymentCreation, deploymentCreation, h]

/-- Writing the birth facts that a record has leaves them. -/
theorem KeepsDeployment.apply_birth {c : StoredCredential} {descriptor : DeploymentBirthDescriptor}
    (h : KeepsDeployment record c) (hwasm : record.birthWasmHash = some descriptor.birthWasmHash)
    (hargs : record.birthConstructorArgsHash = some descriptor.birthConstructorArgsHash) :
    KeepsDeployment record (c.apply descriptor.updates) :=
  { h with
    birthWasmHash := hwasm.symm
    birthConstructorArgsHash := hargs.symm }

/-- A deployment spares the record of another credential, and that of its own if it repeats the
birth and is not submitted. -/
theorem deploy_sparing {credentialId : String}
    (hbirth : credentialId = record.credentialId → ∀ args tx,
      C ⟨.simulateDeployment args, .ok tx⟩ → RepeatsBirth record config options tx) :
    Sparing record C (CredentialManager.deploy config credentialId options) := by
  refine requireCredential_bind_sparing fun credential _ => ?_
  refine sparing_done.bind fun contractId => ?_
  refine Sparing.bind ?_ fun deployed => ?_
  · refine sparing_bind (buildDeployTransaction_writesNothing _ _ _ _).sparing
      fun deployTx t _ _ hbuilt ht _ _ => ?_
    -- what is built makes the creation of a simulated transaction
    obtain ⟨map, tx, -, hsimulated, hfunc⟩ := run_buildDeployTransaction_ok hbuilt
    refine sparing_bind sparing_done fun descriptor _ _ _ hdescribed _ _ _ => ?_
    refine Sparing.bind (sparing_await fun hid => ?_) fun _ => ?_
    · intro c hc
      have hsame : describeDeploymentBirth (.assembled tx) = .ok descriptor := by
        rw [← describeDeploymentBirth_of_func hfunc]
        exact (Program.run_ofExcept.mp hdescribed).2.symm
      have hfacts := (hbirth hid _ tx (ht _ hsimulated)).2 descriptor hsame
      exact hc.apply_birth hfacts.1 hfacts.2
    refine (prepareDeploymentArtifacts_writesNothing deployTx).sparing.bind fun artifacts => ?_
    refine Sparing.bind ?_ fun _ => sparing_done
    unfold submitIfAsked
    split
    next hasked =>
      refine Sparing.bind ?_ fun _ => sparing_done
      by_cases hid : credentialId = record.credentialId
      · -- a submission that is asked for is refused before anything is sent or written
        have hrefused := (hbirth hid _ tx (ht _ hsimulated)).1.resolve_left (by simp [hasked])
        obtain ⟨e, hroute⟩ := checkRoute_of_checkSubmission deployTx hrefused
        rw [submitDeploymentTx, hroute]
        exact sparing_done
      · exact submitDeploymentTx_sparing hid
    next => exact sparing_done
  · refine Sparing.bind ?_ fun _ => sparing_done
    unfold connectDeployed
    split
    · exact Sparing.bind (sparing_await trivial) fun _ => sparing_await trivial
    · exact sparing_done

end deploying

/-! ## Whole runs -/

section runs

variable {record : StoredCredential} {s s' : WalletStorage}

/-- Every request of a call that is allowed to be made spares the record. -/
theorem RecordCall.requests_spare {config : WalletConfig} {call : RecordCall}
    {t : History WalletEnvironment} (hrecord : VerifiedRecord record) (hs : RecordKept record s)
    (hruns : call.Runs config t) (hspares : call.Spares record config t)
    (hthreads : walletMemory.Threads s t s') :
    ∀ e ∈ t, WalletRequest.SparesRecord record e.request := by
  cases call with
  | connectWallet options =>
    obtain ⟨x, hrun⟩ := hruns
    exact connectWallet_sparing hrecord (fun hid => Or.inl hid)
      (fun hid => (hspares (Or.inl hid)).1 hid) s t x s' hrun hthreads hspares.pickedExchange hs
  | sync credentialId =>
    obtain ⟨x, hrun⟩ := hruns
    exact sync_sparing (C := fun _ => True) hrecord credentialId s t x s' hrun hthreads
      (fun _ _ => trivial) hs
  | syncAll =>
    obtain ⟨x, hrun⟩ := hruns
    exact syncAll_sparing (C := fun _ => True) hrecord s t x s' hrun hthreads
      (fun _ _ => trivial) hs
  | delete credentialId =>
    obtain ⟨x, hrun⟩ := hruns
    exact delete_sparing (C := (· ∈ t)) hrecord hspares s t x s' hrun hthreads
      (fun _ he => he) hs
  | deploy credentialId options =>
    obtain ⟨x, hrun⟩ := hruns
    exact deploy_sparing (C := (· ∈ t)) hspares s t x s' hrun hthreads (fun _ he => he) hs

/-- A call that spares the record keeps it in every state on the way. -/
theorem CallStep.recordKept (hrecord : VerifiedRecord record)
    (hstep : CallStep (fun config t call => call.Spares record config t) s s')
    (hs : RecordKept record s) :
    RecordKept record s' := by
  obtain ⟨config, call, t, rest, s'', hruns, hspares, hthreads, hrest⟩ := hstep
  have hspare := RecordCall.requests_spare hrecord hs hruns hspares
    (Memory.threads_append.mpr ⟨s', hthreads, hrest⟩)
  exact (walletMemory_keepsRecord record).threads hthreads
    (fun e he => hspare e (List.mem_append_left rest he)) hs

/-- A record of a verified deployment is still there, with its status, its contract and its birth
facts, in every state that is reached by calls that spare it, in any order. -/
theorem verified_record_survives (hrecord : VerifiedRecord record)
    (hstored : s.credentials.get record.credentialId = some record)
    (hsession : ∀ session ∈ s.session, session.credentialId = record.credentialId →
      NamesOwnContract record (some session.contractId))
    (hruns : Relation.ReflTransGen (CallStep fun config t call => call.Spares record config t) s s') :
    ∃ c, s'.credentials.get record.credentialId = some c ∧ KeepsDeployment record c := by
  have hkept : RecordKept record s' := by
    induction hruns with
    | refl => exact ⟨⟨record, hstored, hrecord.keepsDeployment⟩, hsession⟩
    | tail _ hstep ih => exact CallStep.recordKept hrecord hstep ih
  exact hkept.stored

end runs

/-! ## A record that is lost -/

section lost

variable (config : WalletConfig) {c : StoredCredential} (s : WalletStorage) (credentialId : String)

/-- A wallet is connected while its instance cannot be read: its record becomes pending. -/
theorem connectWallet_leads_pending (error : JsError) (hid : credentialId ≠ "")
    (hcontract : c.contractId ≠ "") (hstatus : c.deploymentStatus ≠ some .failed)
    (hstored : s.credentials.get credentialId = some c) :
    ∃ e, walletMemory.Leads (connectWallet config.toConnectionConfig
        { credentialId := some credentialId }) s (.error e)
      { s with credentials := (s.credentials.update credentialId
          { deploymentStatus := some .pending }) } := by
  have hgiven : nonEmptyText (some credentialId) = some credentialId :=
    nonEmptyText_eq_some.mpr ⟨rfl, hid⟩
  have hrecorded : nonEmptyText ((some c).map (·.contractId)) = some c.contractId :=
    nonEmptyText_eq_some.mpr ⟨rfl, hcontract⟩
  have htarget : connectionContractId config.toConnectionConfig (some c) credentialId none =
      .ok (c.contractId, false) := by
    rw [connectionContractId, hrecorded]
    rfl
  have hmarked : (some c).any (fun credential => decide (credential.deploymentStatus ≠ some .failed)) =
      true := by
    simpa using hstatus
  have hconnect : connectWallet config.toConnectionConfig { credentialId := some credentialId } =
      Program.bind (connectWithCredentials config.toConnectionConfig (some credentialId) none none
        true) fun result => return some result :=
    if_pos (Or.inl (by rw [hgiven]; rfl))
  rw [hconnect, connectWithCredentials, hgiven]
  apply Exists.intro
  apply Memory.leads_bind_error
  apply Memory.leads_bind (Memory.leads_served (congrArg (fun reply => some (reply, s)) hstored))
  apply Memory.leads_ofExcept_bind htarget
  apply Memory.leads_bind_error
  -- the read fails, and the record is marked
  apply Memory.leads_bind
    (Memory.leads_unserved (Except.error error : Except JsError ContractExecutable) rfl)
  apply Memory.leads_bind (a := ())
  · rw [markPending, if_pos hmarked]
    exact Memory.leads_served rfl
  · exact Memory.leads_ofExcept

/-- A record that is not verified is deleted although the instance of its wallet is read. -/
theorem delete_leads (executable : ContractExecutable)
    (hunverified : hasVerifiedBirth c = false)
    (hstored : s.credentials.get credentialId = some c) :
    walletMemory.Leads (CredentialManager.delete config credentialId) s (.ok ())
      { s with credentials := (s.credentials.update credentialId
        CredentialManager.unverifiedOccupancy).delete credentialId } := by
  obtain ⟨derived, hderived⟩ := derivedContractId_isOk config credentialId
  have hrequired : walletMemory.Leads (requireCredential credentialId) s (.ok c) s :=
    Memory.leads_bind (Memory.leads_served (congrArg (fun reply => some (reply, s)) hstored))
      Memory.leads_ofExcept
  have hsynced : walletMemory.Leads (CredentialManager.sync config credentialId) s (.ok false)
      { s with credentials := (s.credentials.update credentialId
          CredentialManager.unverifiedOccupancy) } := by
    apply Memory.leads_bind hrequired
    refine Memory.leads_bind (Memory.leads_attempt (x := .ok false) ?_)
      (show walletMemory.Leads (Program.ofExcept (.ok false)) _ _ _ from Memory.leads_ofExcept)
    apply Memory.leads_ofExcept_bind hderived
    apply Memory.leads_bind
      (Memory.leads_unserved (Except.ok executable : Except JsError ContractExecutable) rfl)
    rw [if_neg (by rw [hunverified]; exact Bool.false_ne_true)]
    apply Memory.leads_bind (Memory.leads_served rfl)
    exact Memory.leads_ofExcept (x := .ok false)
  exact Memory.leads_bind hrequired (Memory.leads_bind hsynced (Memory.leads_served rfl))

end lost

/-! ## The sample record -/

theorem sampleRecord_verified : VerifiedRecord sampleRecord := by
  have hcontract : sampleWalletId (sampleAccount 4) ≠ "" := by
    rw [sampleWalletId, contractIdFromCreateV2_fromAddress rfl]
    exact encodeCheck_contract_ne_empty _
  exact
    { deployed := rfl
      contract := hcontract
      wasm := ⟨_, rfl, isHashHex_toHex ⟨List.replicate 32 13, List.length_replicate⟩⟩
      transaction := ⟨_, rfl, isHashHex_toHex sampleTransactionHash⟩
      ledger := ⟨_, rfl, by decide, by decide⟩
      constructor := ⟨_, rfl, isHashHex_toHex _⟩ }

/-- The record is lost in two calls: connecting during an outage marks it as pending, and deleting
it afterwards, when the instance of its wallet is read again, removes it. -/
theorem verified_record_lost :
    ¬ ∀ (record : StoredCredential) (s s' : WalletStorage), VerifiedRecord record →
      s.credentials.get record.credentialId = some record →
      Relation.ReflTransGen (CallStep fun _ _ _ => True) s s' →
      ∃ c, s'.credentials.get record.credentialId = some c ∧ KeepsDeployment record c := by
  have hcall : ∀ (call : RecordCall) (s s' : WalletStorage),
      (∃ t, call.Runs sampleWalletConfig t ∧ walletMemory.Threads s t s') →
      CallStep (fun _ _ _ => True) s s' := by
    intro call s s' hruns
    obtain ⟨t, hruns, hthreads⟩ := hruns
    exact ⟨sampleWalletConfig, call, t, [], s', by rwa [List.append_nil], trivial, hthreads,
      Memory.Threads.nil s'⟩
  let marked : WalletStorage := { credentials := [{ sampleRecord with
    deploymentStatus := some .pending }], session := none }
  let deleted : WalletStorage := { credentials := [], session := none }
  have hconnect : CallStep (fun _ _ _ => True) ⟨[sampleRecord], none⟩ marked := by
    obtain ⟨e, t, hrun, hthreads⟩ := connectWallet_leads_pending sampleWalletConfig
      ⟨[sampleRecord], none⟩ "AQ" (JsError.plain "fetch failed") (by decide)
      sampleRecord_verified.contract (by decide) rfl
    exact hcall (.connectWallet { credentialId := some "AQ" }) _ _ ⟨t, ⟨_, hrun⟩, hthreads⟩
  have hdelete : CallStep (fun _ _ _ => True) marked deleted := by
    obtain ⟨t, hrun, hthreads⟩ := delete_leads sampleWalletConfig marked "AQ"
      (.wasm ⟨List.replicate 32 13, List.length_replicate⟩) (by decide) rfl
    exact hcall (.delete "AQ") _ _ ⟨t, ⟨_, hrun⟩, hthreads⟩
  intro hclaim
  obtain ⟨c, hfound, -⟩ := hclaim sampleRecord _ deleted sampleRecord_verified rfl
    ((Relation.ReflTransGen.single hconnect).tail hdelete)
  exact nomatch hfound

/-- The sample wallet is connected, and synced while its instance cannot be read. -/
theorem verified_record_survives_sample : ∃ t result s s',
    Program.Run (connectWallet sampleWalletConfig.toConnectionConfig { credentialId := some "AQ" })
      t (.ok result) ∧
    walletMemory.Threads ⟨[sampleRecord], none⟩ t s ∧
    Relation.ReflTransGen (CallStep fun config t call => call.Spares sampleRecord config t)
      ⟨[sampleRecord], none⟩ s' ∧
    ∃ c, s'.credentials.get sampleRecord.credentialId = some c ∧ KeepsDeployment sampleRecord c := by
  have hsuccess : (walletMemory.execute (sampleWorld (sampleAccount 4)).reply
      (connectWallet sampleWalletConfig.toConnectionConfig { credentialId := some "AQ" })
      ⟨[sampleRecord], none⟩).result.isOk = true := by
    decide +kernel
  have hread : ∀ e ∈ (walletMemory.execute (sampleWorld (sampleAccount 4)).reply
      (connectWallet sampleWalletConfig.toConnectionConfig { credentialId := some "AQ" })
      ⟨[sampleRecord], none⟩).history, AnswersInstance sampleRecord.contractId e := by
    intro e he error hsame
    rw [hsame] at he
    have hanswered := Memory.mem_execute he fun _ => rfl
    exact nomatch hanswered
  have hrun := walletMemory.run_execute (sampleWorld (sampleAccount 4)).reply
    (connectWallet sampleWalletConfig.toConnectionConfig { credentialId := some "AQ" })
    ⟨[sampleRecord], none⟩
  generalize walletMemory.execute _ _ _ = outcome at hsuccess hread hrun
  obtain ⟨result, hresult⟩ : ∃ result, outcome.result = .ok result := by
    cases hresult : outcome.result with
    | ok result => exact ⟨result, rfl⟩
    | error e =>
      rw [hresult] at hsuccess
      exact absurd hsuccess Bool.false_ne_true
  have hconnected : CallStep (fun config t call => call.Spares sampleRecord config t)
      ⟨[sampleRecord], none⟩ outcome.state := by
    refine ⟨sampleWalletConfig, .connectWallet { credentialId := some "AQ" }, outcome.history, [],
      outcome.state, ?_, ?_, hrun.2, Memory.Threads.nil _⟩
    · rw [List.append_nil]
      exact ⟨_, hrun.1⟩
    · rw [List.append_nil]
      exact fun _ => ⟨fun _ _ hnamed => absurd hnamed (by simp), fun e he =>
        ⟨hread e he, fun hunapproved => absurd hunapproved (by decide)⟩⟩
  have houtage := walletMemory.run_execute
    ({ sampleWorld (sampleAccount 4) with
      instanceExecutable := .error (JsError.plain "fetch failed") } : SteadyWallet).reply
    (CredentialManager.sync sampleWalletConfig "AQ") outcome.state
  have hsynced : CallStep (fun config t call => call.Spares sampleRecord config t)
      outcome.state _ :=
    ⟨sampleWalletConfig, .sync "AQ", _, [], _, ⟨_, by rw [List.append_nil]; exact houtage.1⟩,
      trivial, houtage.2, Memory.Threads.nil _⟩
  have hruns := (Relation.ReflTransGen.single hconnected).tail hsynced
  rw [hresult] at hrun
  exact ⟨outcome.history, result, outcome.state, _, hrun.1, hrun.2, hruns,
    verified_record_survives sampleRecord_verified rfl (fun _ h => absurd h (by simp)) hruns⟩

end SmartAccountKit
