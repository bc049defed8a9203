import SmartAccountKit.Credentials
import SmartAccountKit.DeploymentAdmission
import SmartAccountKit.Funding
import SmartAccountKit.SubmissionResults

/-!
# The shared deployer is sign-only

The signing key of the shared deployer is public. So it only authorizes the
creation of wallets: it signs no envelope, no envelope that it would pay for is
sent, and its account is not read, in any run of a kit that has it.
-/

namespace SmartAccountKit
open Lib

/-! ## The kit -/

/-- A kit that deploys wallets and submits transactions. Both parts have one deployer and one
relayer, and the key of the deployer decides whether it is the shared one. -/
structure Kit where
  wallet : WalletConfig
  config : KitConfig
  deployer_eq : config.deployerPublicKey = wallet.deployerPublicKey
  relayer_eq : config.hasRelayer = wallet.hasRelayer
  passphrase_eq : config.networkPassphrase = wallet.networkPassphrase
  shared_eq : wallet.usingSharedDeployer = isDefaultDeployer wallet.deployerPublicKey

/-- The requests of the wallet lifecycle, and the network calls of submissions. -/
abbrev KitSystem : Interface := WalletEnvironment.sum Network

/-- Network calls, among the requests of the system. -/
def networkOnly : Handler Network KitSystem := fun request =>
  Program.await (I := KitSystem) (.inr request) .ok

/-- The kit itself funds a wallet, whichever contract is connected by then. -/
def Kit.carryOut (kit : Kit) (connected : Option String) (forceMethod : Option SubmissionMethod) :
    Handler WalletEnvironment KitSystem
  | .fundWallet nativeTokenContract =>
    Program.attempt (Program.bind
      (Program.through networkOnly (SmartAccountKit.fundWallet
        { kit.config with contractId := connected } nativeTokenContract forceMethod))
      fun funded => pure funded.result)
  | request => Program.await (I := KitSystem) (.inl request) .ok

/-- A call of a method that deploys, funds or submits. -/
inductive KitCall where
  | createWallet (options : DeployOptions) (fundOptions : FundOptions) (connected : Option String)
  | deploy (credentialId : String) (options : DeployOptions)
  | fundWallet (nativeTokenContract : String) (forceMethod : Option SubmissionMethod)
  | submission (call : SubmissionCall)

/-- The method, down to its network calls and up to what it returns. -/
def KitCall.program (kit : Kit) : KitCall → Program KitSystem JsError Unit
  | createWallet options fundOptions connected =>
    Program.bind (Program.through (kit.carryOut connected options.forceMethod)
      (SmartAccountKit.createWallet kit.wallet options fundOptions)) fun _ => pure ()
  | deploy credentialId options =>
    Program.bind (Program.through (kit.carryOut none options.forceMethod)
      (CredentialManager.deploy kit.wallet credentialId options)) fun _ => pure ()
  | fundWallet nativeTokenContract forceMethod =>
    Program.bind (Program.through networkOnly
      (SmartAccountKit.fundWallet kit.config nativeTokenContract forceMethod)) fun _ => pure ()
  | submission call =>
    Program.bind (Program.through networkOnly (call.program kit.config)) fun _ => pure ()

/-! ## Sign-only requests -/

/-- The preimage of a V1 entry whose root is a creation by the signer itself, and nothing below. -/
def AuthorizesOwnCreation (signer : BytesN 32) (preimage : HashIdPreimage) : Prop :=
  ∃ networkId nonce expirationLedger create salt,
    preimage = .sorobanAuthorization networkId nonce expirationLedger
      (.node (.createContractV2HostFn create) []) ∧
    create.contractIdPreimage = .fromAddress (.account signer) salt

/-- The deployer authorizes its own creations, and signs and sends no envelope. The simulation of a
deployment reads the sequence of its deployer unless that is shared. -/
def WalletRequest.SignOnly (deployerKey : BytesN 32) : WalletRequest → Prop
  | .signAuthEntryPreimage preimage => AuthorizesOwnCreation deployerKey preimage
  | .simulateDeployment args => args.sharedDeployer = true
  | .signWithDeployer _ | .sendTransaction _ _ | .relayerSendXdr _ => False
  | _ => True

/-- The account of the shared deployer is not read, no envelope has its signature, and no envelope
that it would pay for is sent. -/
def NetworkRequest.SignOnly : NetworkRequest → Prop
  | .kit (.getAccount publicKey) | .getAccountEntry publicKey =>
    publicKey ≠ DEFAULT_DEPLOYER_PUBLIC_KEY
  | .kit (.simulateTransaction transaction) | .simulateRead transaction
  | .simulateFunding transaction | .sendAndPoll transaction _ =>
    DEFAULT_DEPLOYER_PUBLIC_KEY ∉ transaction.signatures
  | .sendTransaction transaction =>
    transaction.source.accountId ≠ DEFAULT_DEPLOYER_PUBLIC_KEY ∧
      DEFAULT_DEPLOYER_PUBLIC_KEY ∉ transaction.signatures
  | _ => True

/-- Nothing but the authorization of its own creations is asked of the shared deployer. -/
def SignOnly (deployerKey : BytesN 32) : KitSystem.Request → Prop
  | .inl request => request.SignOnly deployerKey
  | .inr request => request.SignOnly

/-- A random keypair is not that of the shared deployer, and an account that is read has the id
that it was asked for by. -/
def NetworkGenuine (e : Exchange Network) : Prop :=
  match e with
  | ⟨.randomKeypair, rawPublicKey⟩ => publicKeyText rawPublicKey ≠ DEFAULT_DEPLOYER_PUBLIC_KEY
  | ⟨.kit (.getAccount publicKey), reply⟩ =>
    ∀ account, reply = .ok account → account.accountId = publicKey
  | _ => True

def Genuine (e : Exchange KitSystem) : Prop :=
  match e with
  | ⟨.inl _, _⟩ => True
  | ⟨.inr request, reply⟩ => NetworkGenuine ⟨request, reply⟩

/-! ## Sending -/

/-- What the kit may ask for: a transaction that the shared deployer would pay for is sponsored. -/
def Request.SignOnly (config : KitConfig) : Request → Prop
  | .getAccount publicKey => publicKey ≠ DEFAULT_DEPLOYER_PUBLIC_KEY
  | .simulateTransaction transaction => DEFAULT_DEPLOYER_PUBLIC_KEY ∉ transaction.signatures
  | .sendAndPoll transaction forceMethod =>
    DEFAULT_DEPLOYER_PUBLIC_KEY ∉ transaction.signatures ∧
      (transaction.source.accountId = DEFAULT_DEPLOYER_PUBLIC_KEY →
        config.shouldUseFeeSponsoring forceMethod = true)
  | _ => True

theorem Request.signOnly_of_isSigning (config : KitConfig) (request : Request)
    (h : request.isSigning = true) : request.SignOnly config := by
  cases request with
  | getAccount _ => exact absurd h Bool.false_ne_true
  | sendAndPoll _ _ => exact absurd h Bool.false_ne_true
  | simulateTransaction transaction =>
    have hunsigned : transaction.signatures = [] := List.isEmpty_iff.mp h
    show DEFAULT_DEPLOYER_PUBLIC_KEY ∉ transaction.signatures
    rw [hunsigned]
    exact List.not_mem_nil
  | _ => exact trivial

/-- The envelope of a sponsored transaction is not sent: its relayer gets the call. -/
theorem sendAndPoll_signOnly {config : KitConfig} {transaction : Transaction}
    {forceMethod : Option SubmissionMethod}
    (h : Request.SignOnly config (.sendAndPoll transaction forceMethod)) :
    Program.OnlyAsks NetworkRequest.SignOnly (sendAndPoll config transaction forceMethod) := by
  have hsent : Program.OnlyAsks NetworkRequest.SignOnly
      (sendByMethod config transaction forceMethod) := by
    unfold sendByMethod
    cases hmethod : config.getSubmissionMethod forceMethod with
    | rpc =>
      have hunsponsored : config.shouldUseFeeSponsoring forceMethod = false := by
        rw [KitConfig.shouldUseFeeSponsoring, hmethod]
        rfl
      have hsource : transaction.source.accountId ≠ DEFAULT_DEPLOYER_PUBLIC_KEY := by
        intro hdeployer
        rw [h.2 hdeployer] at hunsponsored
        exact absurd hunsponsored.symm Bool.false_ne_true
      have hasked : NetworkRequest.SignOnly (.sendTransaction transaction) := ⟨hsource, h.1⟩
      apply Program.OnlyAsks.bind (Program.onlyAsks_await hasked)
      intro response
      cases response <;> exact Program.exchanges_done
    | relayer =>
      show Program.OnlyAsks NetworkRequest.SignOnly (sendToRelayer config transaction)
      unfold sendToRelayer
      split_ifs
      · exact Program.exchanges_done
      · apply Program.OnlyAsks.bind (Program.onlyAsks_await trivial)
        intro relayerResult
        split_ifs
        · exact Program.exchanges_done
        · split <;> exact Program.exchanges_done
  apply Program.OnlyAsks.bind hsent
  intro sent
  cases sent with
  | error failure => exact Program.exchanges_done
  | ok hash =>
    apply Program.OnlyAsks.bind (Program.onlyAsks_await trivial)
    intro response
    cases response <;> exact Program.exchanges_done

theorem network_signOnly {config : KitConfig} (request : Request) (h : request.SignOnly config) :
    Program.OnlyAsks NetworkRequest.SignOnly (config.network request) := by
  cases request with
  | sendAndPoll transaction forceMethod =>
    have hcalled : NetworkRequest.SignOnly (.sendAndPoll transaction forceMethod) := h.1
    apply Program.OnlyAsks.bind (Program.onlyAsks_await hcalled)
    exact fun _ => Program.exchanges_attempt (sendAndPoll_signOnly h)
  | getAccount publicKey => exact Program.onlyAsks_await h
  | simulateTransaction transaction => exact Program.onlyAsks_await h
  | _ => exact Program.onlyAsks_await trivial

theorem through_network_signOnly {α : Type} {config : KitConfig} {p : KitProgram α}
    (hp : Program.OnlyAsks (Request.SignOnly config) p) :
    Program.OnlyAsks NetworkRequest.SignOnly (Program.through config.network p) :=
  Handler.onlyAsks_through hp network_signOnly

/-- Building a transfer simulates what nobody has signed. -/
theorem build_signOnly (args : TransferArgs) (contractId : String) :
    Program.OnlyAsks NetworkRequest.SignOnly (args.build contractId) := by
  apply Program.OnlyAsks.bind
  · apply Program.OnlyAsks.bind
    · refine Program.onlyAsks_ofExcept_bind fun tx hread => ?_
      have hasked : NetworkRequest.SignOnly (.simulateRead tx) := by
        obtain ⟨contractAddress, -, htx⟩ := except_bind_eq_ok.mp hread
        rw [← Except.ok.inj htx]
        exact List.not_mem_nil
      exact Program.OnlyAsks.bind (Program.onlyAsks_await hasked) fun _ => Program.exchanges_done
    · exact fun decimals => Program.exchanges_done
  · intro amountRaw
    refine Program.onlyAsks_ofExcept_bind fun func _ => ?_
    refine Program.OnlyAsks.bind (Program.onlyAsks_await trivial) fun call => ?_
    split <;> exact Program.exchanges_done

/-! ## Preparing -/

/-- Simulating again builds a transaction of the source that nobody has signed. -/
theorem run_resimulateAndAssemble_unsigned {sourceAccount : Account} {hostFunc : HostFunction}
    {entries : List SorobanAuthorizationEntry} {t : History Environment} {transaction : Transaction}
    (hrun : Program.Run (resimulateAndAssemble sourceAccount hostFunc entries) t
      (.ok transaction)) :
    transaction.source = sourceAccount ∧ transaction.signatures = [] := by
  obtain ⟨response, t₁, t₂, rfl, -, hlast⟩ := Program.run_bind_ok.mp hrun
  have hassembled := (Program.run_ofExcept.mp hlast).2.symm
  cases response with
  | error message => exact absurd hassembled (by simp [assembleTransaction])
  | success auth =>
    rw [← Except.ok.inj hassembled]
    split_ifs <;> exact ⟨rfl, rfl⟩

section submissions

variable {config : KitConfig} (hshared : isDefaultDeployer config.deployerPublicKey = true)

include hshared

/-- The shared deployer is refused as a source. -/
theorem assertNotSharedDeployerSource_shared :
    assertNotSharedDeployerSource config.deployerPublicKey ≠ .ok () := by
  unfold assertNotSharedDeployerSource
  rw [hshared]
  exact fun hok => absurd (throwIf_eq_ok.mp hok) (by simp)

/-- A kit of the shared deployer signs no transaction, and prepares none that nobody sponsors. -/
theorem signFeePayer_shared {transaction prepared : Transaction}
    {forceMethod : Option SubmissionMethod}
    (h : config.signFeePayer transaction forceMethod = .ok prepared) :
    config.shouldUseFeeSponsoring forceMethod = true ∧ prepared = transaction := by
  unfold KitConfig.signFeePayer at h
  dsimp only at h
  split_ifs at h with hpays
  · obtain ⟨_, hchecked, -⟩ := except_bind_eq_ok.mp h
    exact absurd hchecked (assertNotSharedDeployerSource_shared hshared)
  · have hsponsored : config.shouldUseFeeSponsoring forceMethod = true := by
      by_contra hunsponsored
      rw [Bool.not_eq_true] at hunsponsored
      rw [hunsponsored] at hpays
      exact hpays rfl
    exact ⟨hsponsored, (except_pure_eq_ok.mp h).symm⟩

theorem resolveResimSource_signOnly (forceMethod : Option SubmissionMethod) :
    Program.OnlyAsks (Request.SignOnly config) (config.resolveResimSource forceMethod) := by
  unfold KitConfig.resolveResimSource
  split_ifs
  · exact Program.exchanges_done
  · refine Program.onlyAsks_ofExcept_bind fun _ hchecked => ?_
    exact absurd hchecked (assertNotSharedDeployerSource_shared hshared)

/-- A transaction that the shared deployer has prepared may be sent. -/
theorem prepared_signOnly {transaction prepared : Transaction}
    {forceMethod : Option SubmissionMethod} (hunsigned : transaction.signatures = [])
    (h : config.signFeePayer transaction forceMethod = .ok prepared) :
    Request.SignOnly config (.sendAndPoll prepared forceMethod) := by
  obtain ⟨hsponsored, hsame⟩ := signFeePayer_shared hshared h
  refine ⟨?_, fun _ => hsponsored⟩
  rw [hsame, hunsigned]
  exact List.not_mem_nil

omit hshared in
/-- The submission of what a preparation in a `try` gives. -/
theorem attempt_signOnly {p : KitProgram Transaction} {forceMethod : Option SubmissionMethod}
    {f : Except JsError Transaction → KitProgram TransactionResult}
    (hp : Program.OnlyAsks (Request.SignOnly config) p)
    (hprepared : ∀ t prepared, Program.Run p t (.ok prepared) →
      Request.SignOnly config (.sendAndPoll prepared forceMethod))
    (hok : ∀ prepared, f (.ok prepared) =
      Program.await (I := Environment) (.sendAndPoll prepared forceMethod) id)
    (herror : ∀ error, Program.OnlyAsks (Request.SignOnly config) (f (.error error))) :
    Program.OnlyAsks (Request.SignOnly config) (Program.bind (Program.attempt p) f) := by
  refine Program.exchanges_bind (Program.exchanges_attempt hp) fun prepared t hrun => ?_
  obtain ⟨outcome, hattempted, hsame⟩ := Program.run_attempt.mp hrun
  obtain rfl := Except.ok.inj hsame
  cases prepared with
  | error error => exact herror error
  | ok transaction =>
    rw [hok]
    exact Program.onlyAsks_await (hprepared t transaction hattempted)

theorem submitCall_signOnly (call : ContractCall) (options : SignAndSubmitOptions)
    (allowWalletMutation : Bool) : Program.OnlyAsks (Request.SignOnly config)
      (submitCall config call options allowWalletMutation) := by
  unfold submitCall
  cases nonEmptyText config.contractId with
  | none => exact Program.exchanges_done
  | some contractId =>
    refine attempt_signOnly ?_ ?_ (fun prepared => rfl) fun error => Program.exchanges_done
    · exact prepareCall_asks (Request.signOnly_of_isSigning config) call allowWalletMutation
        (resolveResimSource_signOnly hshared options.forceMethod)
    · intro t prepared hrun
      obtain ⟨invocation, -, hrun⟩ := Program.run_ofExcept_bind_ok.mp hrun
      obtain ⟨preparedTx, t₁, t₂, rfl, hsigned, hlast⟩ := Program.run_bind_ok.mp hrun
      obtain ⟨state, t₃, t₄, rfl, -, hsource⟩ := Program.run_bind_ok.mp hsigned
      obtain ⟨source, t₅, t₆, rfl, -, hassembled⟩ := Program.run_bind_ok.mp hsource
      have hunsigned := (run_resimulateAndAssemble_unsigned hassembled).2
      exact prepared_signOnly hshared hunsigned (Program.run_ofExcept.mp hlast).2.symm

theorem signAndSend_signOnly {run : MultiSignerRun} (hconfig : run.config = config)
    (authEntries : List SorobanAuthorizationEntry) :
    Program.OnlyAsks (Request.SignOnly config) (signAndSend run authEntries) := by
  subst hconfig
  refine attempt_signOnly ?_ ?_ (fun prepared => rfl) fun error => Program.exchanges_done
  · exact signAndPrepare_asks (Request.signOnly_of_isSigning run.config) authEntries
      (resolveResimSource_signOnly hshared run.options.forceMethod)
  · intro t prepared hrun
    obtain ⟨_, t₁, t₂, rfl, -, hrun⟩ := Program.run_bind_ok.mp hrun
    obtain ⟨sequence, t₃, t₄, rfl, -, hrun⟩ := Program.run_bind_ok.mp hrun
    obtain ⟨defaultExpiration, -, hrun⟩ := Program.run_ofExcept_bind_ok.mp hrun
    obtain ⟨state, t₅, t₆, rfl, -, hrun⟩ := Program.run_bind_ok.mp hrun
    obtain ⟨_, t₇, t₈, rfl, -, hrun⟩ := Program.run_bind_ok.mp hrun
    obtain ⟨source, t₉, t₁₀, rfl, -, hrun⟩ := Program.run_bind_ok.mp hrun
    obtain ⟨preparedTx, t₁₁, t₁₂, rfl, hassembled, hrun⟩ := Program.run_bind_ok.mp hrun
    obtain ⟨signedTx, hsigned, hrun⟩ := Program.run_ofExcept_bind_ok.mp hrun
    obtain ⟨_, t₁₃, t₁₄, rfl, -, hlast⟩ := Program.run_bind_ok.mp hrun
    have hunsigned := (run_resimulateAndAssemble_unsigned hassembled).2
    rw [Except.ok.inj (Program.run_pure.mp hlast).2]
    exact prepared_signOnly hshared hunsigned hsigned

omit hshared in
/-- The checks of a selection only ask the log and the external signers. -/
theorem checkSelection_signOnly (run : MultiSignerRun) :
    Program.OnlyAsks (Request.SignOnly config) (checkSelection run) := by
  have hlog : ∀ message, Program.OnlyAsks (Request.SignOnly config)
      (run.options.log .selection message) := by
    intro message
    unfold MultiSignerOptions.log
    split_ifs
    · exact Program.onlyAsks_await trivial
    · exact Program.exchanges_done
  apply Program.OnlyAsks.bind (Program.exchanges_mapError (hlog _))
  intro _
  apply Program.OnlyAsks.bind
  · exact Program.exchanges_forEach_of_body fun _ _ _ => Program.onlyAsks_await trivial
  · intro _
    exact Program.exchanges_forEach_of_body fun _ _ _ => Program.onlyAsks_await trivial

theorem submitOperation_signOnly (built : Option BuiltTransaction)
    (selectedSigners : List SelectedSigner) (options : MultiSignerOptions)
    (allowWalletMutation : Bool) : Program.OnlyAsks (Request.SignOnly config)
      (submitOperation config built selectedSigners options allowWalletMutation) := by
  unfold submitOperation
  cases hinvoked : invokedTransaction built with
  | error error => exact Program.exchanges_done
  | ok transaction =>
    dsimp only
    split_ifs
    · -- a transaction without entries is the caller's own
      have hunsigned : transaction.signatures = [] := by
        unfold invokedTransaction at hinvoked
        split at hinvoked
        · exact absurd hinvoked (by simp)
        · split at hinvoked
          · rw [← Except.ok.inj hinvoked]
          · exact absurd hinvoked (by simp)
          · exact absurd hinvoked (by simp)
      refine attempt_signOnly ?_ ?_ (fun prepared => rfl) fun error => Program.exchanges_done
      · apply Program.OnlyAsks.bind
        · exact Program.Exchanges.mono (log_onlySigns _ _) (Request.signOnly_of_isSigning config)
        · exact fun _ => Program.exchanges_done
      · intro t prepared hrun
        obtain ⟨_, t₁, t₂, rfl, -, hlast⟩ := Program.run_bind_ok.mp hrun
        exact prepared_signOnly hshared hunsigned (Program.run_ofExcept.mp hlast).2.symm
    · unfold submitWithSelectedSigners
      cases nonEmptyText config.contractId with
      | none => exact Program.exchanges_done
      | some contractId =>
        apply Program.OnlyAsks.bind (Program.exchanges_attempt (checkSelection_signOnly _))
        intro checked
        cases checked with
        | ok _ => exact signAndSend_signOnly hshared rfl transaction.auth
        | error exit => cases exit <;> exact Program.exchanges_done

omit hshared in
/-- A transfer builds its call from unsigned reads. -/
theorem transferWith_signOnly (args : TransferArgs)
    {submit : ContractCall → KitProgram TransactionResult}
    (hsubmit : ∀ call, Program.OnlyAsks (Request.SignOnly config) (submit call)) :
    Program.OnlyAsks NetworkRequest.SignOnly (transferWith config args submit) := by
  unfold transferWith
  cases nonEmptyText config.contractId with
  | none => exact Program.exchanges_done
  | some contractId =>
    dsimp only
    cases args.check contractId with
    | error err => exact Program.exchanges_done
    | ok _ =>
      apply Program.OnlyAsks.bind (Program.exchanges_attempt (build_signOnly args contractId))
      intro built
      cases built with
      | ok call => exact through_network_signOnly (hsubmit call)
      | error err => exact Program.exchanges_done

theorem SubmissionCall.signOnly (call : SubmissionCall) :
    Program.OnlyAsks NetworkRequest.SignOnly (call.program config) := by
  cases call with
  | signAndSubmit call options =>
    exact through_network_signOnly (submitCall_signOnly hshared call options false)
  | signAndSubmitAdmin call options =>
    exact through_network_signOnly (submitCall_signOnly hshared call options true)
  | transfer args options =>
    exact transferWith_signOnly args fun call => submitCall_signOnly hshared call _ false
  | operation built selectedSigners options =>
    exact through_network_signOnly
      (submitOperation_signOnly hshared built selectedSigners options false)
  | adminOperation built selectedSigners options =>
    exact through_network_signOnly
      (submitOperation_signOnly hshared built selectedSigners options true)
  | multiSignerTransfer args selectedSigners options =>
    exact transferWith_signOnly args fun call =>
      submitOperation_signOnly hshared call.built selectedSigners options false

end submissions

/-! ## Deploying -/

section deployments

variable {config : WalletConfig} (hshared : config.usingSharedDeployer = true)

/-- What the deployer signs is the authorization of its own creation. -/
theorem signSharedDeployment_signOnly (salt : BytesN 32) (deployment : AssembledTransaction) :
    Program.OnlyAsks (WalletRequest.SignOnly config.deployerKey)
      (signSharedDeployment config salt deployment) := by
  refine Program.onlyAsks_ofExcept_bind fun simulated _ => ?_
  refine Program.onlyAsks_ofExcept_bind fun _ hchecked => ?_
  apply Program.OnlyAsks.bind (Program.onlyAsks_await trivial)
  intro nonce
  refine Program.onlyAsks_ofExcept_bind fun authorization hauthorization => ?_
  obtain ⟨create, args, address, -, hroot, -, hpreimage, hdeployer⟩ :=
    checkSharedAuthorization_eq_ok hchecked
  obtain ⟨credentials, ledger, -, -, -, hsigned⟩ := buildSignaturePreimage_eq_ok.mp hauthorization
  have hown : (ScAddress.account config.deployerKey).toStrkey = some config.deployerPublicKey := rfl
  rw [ScAddress.toStrkey_inj hdeployer hown] at hpreimage
  have hasked : AuthorizesOwnCreation config.deployerKey authorization.2 := by
    refine ⟨networkId config.networkPassphrase, credentials.nonce, ledger, args, salt, ?_, hpreimage⟩
    rw [hsigned, ← hroot]
    rfl
  exact Program.OnlyAsks.bind (Program.onlyAsks_await hasked) fun _ => Program.exchanges_done

include hshared

theorem buildDeployTransaction_signOnly (credentialId publicKey : Bytes)
    (policies : Option (List PolicyConfig)) :
    Program.OnlyAsks (WalletRequest.SignOnly config.deployerKey)
      (buildDeployTransaction config credentialId publicKey policies) := by
  refine Program.onlyAsks_ofExcept_bind fun _ _ => ?_
  refine Program.onlyAsks_ofExcept_bind fun policies _ => ?_
  apply Program.OnlyAsks.bind (Program.onlyAsks_await hshared)
  intro deployment
  rw [if_pos hshared]
  exact signSharedDeployment_signOnly (hash credentialId) deployment

/-- The shared deployer deploys with an authorization. -/
theorem run_buildDeployTransaction_authEntry {credentialId publicKey : Bytes}
    {policies : Option (List PolicyConfig)} {t : History WalletEnvironment}
    {deployTx : DeployTransaction}
    (hrun : Program.Run (buildDeployTransaction config credentialId publicKey policies) t
      (.ok deployTx)) :
    ∃ func auth, deployTx = .authEntry func auth := by
  obtain ⟨_, -, hrun⟩ := Program.run_ofExcept_bind_ok.mp hrun
  obtain ⟨policies, -, hrun⟩ := Program.run_ofExcept_bind_ok.mp hrun
  obtain ⟨deployment, t₁, t₂, rfl, -, hrun⟩ := Program.run_bind_ok.mp hrun
  rw [if_pos hshared] at hrun
  obtain ⟨create, credentials, root, hauth, -⟩ := run_signSharedDeployment_ok hrun
  exact ⟨_, _, hauth⟩

omit hshared in
/-- The relayer gets the call of the authorization, and no envelope. -/
theorem submitAndConfirm_signOnly (key : BytesN 32) (func : HostFunction)
    (auth : List SorobanAuthorizationEntry) (signed : Option SignedTransaction)
    (forceMethod : Option SubmissionMethod) :
    Program.OnlyAsks (WalletRequest.SignOnly key)
      (submitAndConfirm config (.authEntry func auth) signed forceMethod) := by
  have hrelayed : Program.OnlyAsks (WalletRequest.SignOnly key) (relayAuthEntry func auth) := by
    apply Program.OnlyAsks.bind
    · apply Program.exchanges_mapError
      apply Program.OnlyAsks.bind (Program.onlyAsks_await trivial)
      intro relayerResult
      split_ifs <;> exact Program.exchanges_done
    · intro submittedHash
      apply Program.OnlyAsks.bind
      · apply Program.exchanges_mapError
        exact Program.OnlyAsks.bind (Program.onlyAsks_await trivial) fun _ => Program.exchanges_done
      · exact fun _ => Program.exchanges_done
  apply Program.OnlyAsks.bind hrelayed
  intro sent
  refine Program.OnlyAsks.bind ?_ fun _ => Program.exchanges_done
  apply Program.exchanges_mapError
  refine Program.OnlyAsks.bind ?_ fun _ => Program.exchanges_done
  apply Program.exchanges_mapError
  apply Program.OnlyAsks.bind (Program.onlyAsks_await trivial)
  intro response
  refine Program.onlyAsks_ofExcept_bind fun confirmed _ => ?_
  refine Program.onlyAsks_ofExcept_bind fun envelope _ => ?_
  exact Program.onlyAsks_ofExcept_bind fun _ _ => Program.exchanges_done

/-- A deployment is built, stored and submitted. -/
theorem deployCredential_signOnly (credentialId : String) (publicKey : Bytes) (contractId : String)
    (options : DeployOptions) : Program.OnlyAsks (WalletRequest.SignOnly config.deployerKey)
      (deployCredential config credentialId publicKey contractId options) := by
  refine Program.exchanges_bind (buildDeployTransaction_signOnly hshared _ _ _)
    fun deployTx t hbuilt => ?_
  obtain ⟨func, auth, rfl⟩ := run_buildDeployTransaction_authEntry hshared hbuilt
  refine Program.onlyAsks_ofExcept_bind fun descriptor _ => ?_
  apply Program.OnlyAsks.bind (Program.onlyAsks_await trivial)
  intro _
  apply Program.OnlyAsks.bind Program.exchanges_done
  intro artifacts
  refine Program.OnlyAsks.bind ?_ fun _ => Program.exchanges_done
  unfold submitIfAsked
  split_ifs
  · refine Program.OnlyAsks.bind ?_ fun _ => Program.exchanges_done
    refine Program.onlyAsks_ofExcept_bind fun _ _ => ?_
    apply Program.OnlyAsks.bind
      (Program.exchanges_attempt (submitAndConfirm_signOnly config.deployerKey _ _ _ _))
    intro outcome
    exact Program.OnlyAsks.bind (Program.onlyAsks_await trivial) fun _ => Program.exchanges_done
  · exact Program.exchanges_done

theorem createWallet_signOnly (options : DeployOptions) (fundOptions : FundOptions) :
    Program.OnlyAsks (WalletRequest.SignOnly config.deployerKey)
      (createWallet config options fundOptions) := by
  refine Program.onlyAsks_ofExcept_bind fun _ _ => ?_
  refine Program.onlyAsks_ofExcept_bind fun _ _ => ?_
  refine Program.onlyAsks_ofExcept_bind fun _ _ => ?_
  apply Program.OnlyAsks.bind (Program.onlyAsks_await trivial)
  intro passkey
  refine Program.onlyAsks_ofExcept_bind fun contractId _ => ?_
  apply Program.OnlyAsks.bind (Program.onlyAsks_await trivial)
  intro _
  apply Program.OnlyAsks.bind (Program.onlyAsks_await trivial)
  intro _
  apply Program.OnlyAsks.bind (deployCredential_signOnly hshared _ _ _ options)
  intro deployed
  apply Program.OnlyAsks.bind
  · unfold startSession
    split_ifs
    · apply Program.OnlyAsks.bind (Program.onlyAsks_await trivial)
      intro _
      apply Program.OnlyAsks.bind (Program.onlyAsks_await trivial)
      intro _
      apply Program.OnlyAsks.bind (Program.onlyAsks_await trivial)
      exact fun now => Program.onlyAsks_await trivial
    · exact Program.exchanges_done
  · intro _
    refine Program.OnlyAsks.bind ?_ fun _ => Program.exchanges_done
    unfold fundIfAsked
    split_ifs
    · split
      · exact Program.OnlyAsks.bind (Program.onlyAsks_await trivial) fun _ => Program.exchanges_done
      · exact Program.exchanges_done
    · exact Program.exchanges_done

theorem deploy_signOnly (credentialId : String) (options : DeployOptions) :
    Program.OnlyAsks (WalletRequest.SignOnly config.deployerKey)
      (CredentialManager.deploy config credentialId options) := by
  apply Program.OnlyAsks.bind
  · apply Program.OnlyAsks.bind (Program.onlyAsks_await trivial)
    intro found
    cases found <;> exact Program.exchanges_done
  · intro credential
    refine Program.onlyAsks_ofExcept_bind fun contractId _ => ?_
    apply Program.OnlyAsks.bind (deployCredential_signOnly hshared _ _ _ options)
    intro deployed
    refine Program.OnlyAsks.bind ?_ fun _ => Program.exchanges_done
    unfold connectDeployed
    split_ifs
    · apply Program.OnlyAsks.bind (Program.onlyAsks_await trivial)
      exact fun _ => Program.onlyAsks_await trivial
    · exact Program.exchanges_done

end deployments

/-! ## Funding -/

section funding

variable {config : KitConfig} {rawPublicKey : BytesN 32}
  (htemporary : publicKeyText rawPublicKey ≠ DEFAULT_DEPLOYER_PUBLIC_KEY)

include htemporary

theorem getAccountWithRetry_signOnly (lastError : JsError) (attempts : ℕ) :
    Program.OnlyAsks NetworkRequest.SignOnly
      (getAccountWithRetry (publicKeyText rawPublicKey) lastError attempts) := by
  induction attempts generalizing lastError with
  | zero => exact Program.exchanges_done
  | succ attempts ih =>
    have hasked : NetworkRequest.SignOnly (.kit (.getAccount (publicKeyText rawPublicKey))) :=
      htemporary
    apply Program.OnlyAsks.bind (Program.onlyAsks_await hasked)
    intro reply
    cases reply with
    | ok account => exact Program.exchanges_done
    | error error => exact ih error

theorem fundTempAccount_signOnly :
    Program.OnlyAsks NetworkRequest.SignOnly (fundTempAccount rawPublicKey) := by
  apply Program.OnlyAsks.bind (Program.onlyAsks_await trivial)
  intro friendbotResponse
  refine Program.onlyAsks_ofExcept_bind fun _ _ => ?_
  apply Program.OnlyAsks.bind (getAccountWithRetry_signOnly htemporary _ _)
  intro account
  have hasked : NetworkRequest.SignOnly (.getAccountEntry (publicKeyText rawPublicKey)) := htemporary
  apply Program.OnlyAsks.bind (Program.onlyAsks_await hasked)
  intro balance
  exact Program.onlyAsks_ofExcept_bind fun _ _ => Program.exchanges_done

omit htemporary in
/-- The entries of the transfer are signed by the temporary key. -/
theorem prepareFunding_signOnly (funded : FundedAccount) (nativeTokenContract contractId : String) :
    Program.OnlyAsks NetworkRequest.SignOnly
      (prepareFunding config funded nativeTokenContract contractId) := by
  have hsigned : ∀ entry expirationLedger, Program.OnlyAsks NetworkRequest.SignOnly
      (signWithTempKey config funded.rawPublicKey entry expirationLedger) := by
    intro entry expirationLedger
    refine Program.onlyAsks_ofExcept_bind fun built _ => ?_
    exact Program.OnlyAsks.bind (Program.onlyAsks_await trivial) fun _ => Program.exchanges_done
  refine Program.onlyAsks_ofExcept_bind fun func _ => ?_
  have hasked : NetworkRequest.SignOnly (.simulateFunding
      { source := funded.account, func, auth := [], signatures := [] }) := List.not_mem_nil
  apply Program.OnlyAsks.bind (Program.onlyAsks_await hasked)
  intro simResult
  refine Program.onlyAsks_ofExcept_bind fun simulated _ => ?_
  refine Program.OnlyAsks.bind ?_ fun _ => Program.exchanges_done
  refine Program.exchanges_forEach_of_body fun entry _ signedAuthEntries => ?_
  unfold signFundingEntry
  cases entry.credentials with
  | sourceAccount =>
    apply Program.OnlyAsks.bind (Program.onlyAsks_await trivial)
    exact fun nonce => Program.OnlyAsks.bind (hsigned _ _) fun _ => Program.exchanges_done
  | addressWithDelegates _ => exact Program.exchanges_done
  | address _ => exact Program.OnlyAsks.bind (hsigned _ _) fun _ => Program.exchanges_done
  | addressV2 _ => exact Program.OnlyAsks.bind (hsigned _ _) fun _ => Program.exchanges_done

/-- The temporary account is the source of the transfer, and signs it. -/
theorem submitFunding_signOnly (func : HostFunction)
    (signedAuthEntries : List SorobanAuthorizationEntry) (forceMethod : Option SubmissionMethod) :
    Program.AsksUnder NetworkGenuine NetworkRequest.SignOnly
      (submitFunding config rawPublicKey func signedAuthEntries forceMethod) := by
  have hasked : NetworkRequest.SignOnly (.kit (.getAccount (publicKeyText rawPublicKey))) :=
    htemporary
  refine (Program.OnlyAsks.asksUnder (Program.onlyAsks_await hasked)).bind
    fun sourceAccount t hread hgenuine => ?_
  have haccount : sourceAccount.accountId ≠ DEFAULT_DEPLOYER_PUBLIC_KEY := by
    obtain ⟨reply, rfl, hreply⟩ := Program.run_await.mp hread
    have hid := hgenuine _ (List.mem_singleton_self _) sourceAccount hreply.symm
    rw [hid]
    exact htemporary
  have hresimulated : Program.OnlyAsks (Request.SignOnly config)
      (resimulateAndAssemble sourceAccount func signedAuthEntries) :=
    resimulateAndAssemble_asks (Request.signOnly_of_isSigning config) _ _ _
  refine (Program.OnlyAsks.asksUnder (through_network_signOnly hresimulated)).bind
    fun preparedTx t' hthrough _ => ?_
  obtain ⟨_, hassembled, -⟩ := Handler.run_through.mp hthrough
  obtain ⟨hsource, hunsigned⟩ := run_resimulateAndAssemble_unsigned hassembled
  apply Program.OnlyAsks.asksUnder
  refine Program.onlyAsks_ofExcept_bind fun signedTx hsigned => ?_
  refine through_network_signOnly (Program.onlyAsks_await ?_)
  -- the temporary key is the only one that may have signed
  have hkept : signedTx.source = preparedTx.source ∧
      DEFAULT_DEPLOYER_PUBLIC_KEY ∉ signedTx.signatures := by
    unfold KitConfig.signFeePayer at hsigned
    dsimp only at hsigned
    split_ifs at hsigned
    · obtain ⟨_, -, hsame⟩ := except_bind_eq_ok.mp hsigned
      rw [← Except.ok.inj hsame, hunsigned]
      exact ⟨rfl, by simpa using htemporary.symm⟩
    · rw [← Except.ok.inj hsigned, hunsigned]
      exact ⟨rfl, List.not_mem_nil⟩
  refine ⟨hkept.2, fun hdeployer => ?_⟩
  rw [hkept.1, hsource] at hdeployer
  exact absurd hdeployer haccount

end funding

theorem fundWallet_signOnly (config : KitConfig) (nativeTokenContract : String)
    (forceMethod : Option SubmissionMethod) :
    Program.AsksUnder NetworkGenuine NetworkRequest.SignOnly
      (fundWallet config nativeTokenContract forceMethod) := by
  unfold fundWallet
  split
  · exact Program.OnlyAsks.asksUnder Program.exchanges_done
  · rename_i contractId _
    split_ifs
    · exact Program.OnlyAsks.asksUnder Program.exchanges_done
    · refine Program.AsksUnder.map (Program.AsksUnder.attempt ?_) fundingResult
      refine (Program.OnlyAsks.asksUnder (Program.onlyAsks_await trivial)).bind
        fun rawPublicKey t hrandom hgenuine => ?_
      have htemporary : publicKeyText rawPublicKey ≠ DEFAULT_DEPLOYER_PUBLIC_KEY := by
        obtain ⟨reply, rfl, hreply⟩ := Program.run_await.mp hrandom
        obtain rfl := Except.ok.inj hreply
        exact hgenuine _ (List.mem_singleton_self _)
      refine (Program.OnlyAsks.asksUnder (fundTempAccount_signOnly htemporary)).bind
        fun funded _ _ _ => ?_
      refine (Program.OnlyAsks.asksUnder (prepareFunding_signOnly funded _ _)).bind
        fun prepared _ _ _ => ?_
      exact (submitFunding_signOnly htemporary _ _ _).map _

/-! ## The kit -/

theorem networkOnly_signOnly {α : Type} (deployerKey : BytesN 32) {p : NetworkProgram α}
    (hp : Program.AsksUnder NetworkGenuine NetworkRequest.SignOnly p) :
    Program.AsksUnder Genuine (SignOnly deployerKey) (Program.through networkOnly p) := by
  refine Handler.asksUnder_through hp fun e v hrun hgenuine => ?_
  obtain ⟨reply, rfl, hreply⟩ := Program.run_await.mp hrun
  have hreply : e.reply = reply := Except.ok.inj hreply
  have hcarried : Genuine ⟨.inr e.request, reply⟩ := hgenuine _ (List.mem_singleton_self _)
  rw [← hreply] at hcarried
  refine ⟨hcarried, fun hasked e' he' => ?_⟩
  rw [List.mem_singleton.mp he']
  exact hasked

theorem carryOut_signOnly (kit : Kit) (connected : Option String)
    (forceMethod : Option SubmissionMethod) {α : Type} {p : WalletProgram α}
    (hp : Program.OnlyAsks (WalletRequest.SignOnly kit.wallet.deployerKey) p) :
    Program.AsksUnder Genuine (SignOnly kit.wallet.deployerKey)
      (Program.through (kit.carryOut connected forceMethod) p) := by
  refine Handler.asksUnder_through (C := fun _ => True) (Program.OnlyAsks.asksUnder hp)
    fun e v hrun hgenuine => ⟨trivial, fun hasked => ?_⟩
  obtain ⟨request, reply⟩ := e
  cases request with
  | fundWallet nativeTokenContract =>
    have hfunded := networkOnly_signOnly kit.wallet.deployerKey
      (fundWallet_signOnly { kit.config with contractId := connected } nativeTokenContract
        forceMethod)
    have hcarried : Program.AsksUnder Genuine (SignOnly kit.wallet.deployerKey)
        (kit.carryOut connected forceMethod (.fundWallet nativeTokenContract)) :=
      Program.AsksUnder.attempt (hfunded.map _)
    exact hcarried v _ hrun hgenuine
  | _ =>
    obtain ⟨reply', rfl, -⟩ := Program.run_await.mp hrun
    intro e' he'
    rw [List.mem_singleton.mp he']
    exact hasked

/-- In every run of a kit whose deployer is the shared one, its key signs the authorization of its
own creations only, and neither signs nor pays for an envelope. -/
theorem sharedDeployer_signOnly (kit : Kit)
    (hshared : isDefaultDeployer kit.wallet.deployerPublicKey = true) :
    (∀ (call : KitCall) (t : History KitSystem) (x : Except JsError Unit),
      Program.Run (call.program kit) t x → (∀ e ∈ t, Genuine e) →
        ∀ e ∈ t, SignOnly kit.wallet.deployerKey e.request) ∧
    ∀ transaction prepared forceMethod,
      kit.config.signFeePayer transaction forceMethod = .ok prepared →
        prepared.signatures = transaction.signatures := by
  have hconfig : isDefaultDeployer kit.config.deployerPublicKey = true := by
    rw [kit.deployer_eq]
    exact hshared
  have hwallet : kit.wallet.usingSharedDeployer = true := by
    rw [kit.shared_eq]
    exact hshared
  constructor
  · intro call
    show Program.AsksUnder Genuine (SignOnly kit.wallet.deployerKey) (call.program kit)
    cases call with
    | createWallet options fundOptions connected =>
      exact (carryOut_signOnly kit _ _ (createWallet_signOnly hwallet options fundOptions)).map _
    | deploy credentialId options =>
      exact (carryOut_signOnly kit _ _ (deploy_signOnly hwallet credentialId options)).map _
    | fundWallet nativeTokenContract forceMethod =>
      exact (networkOnly_signOnly _ (fundWallet_signOnly _ _ _)).map _
    | submission call =>
      exact (networkOnly_signOnly _ (Program.OnlyAsks.asksUnder (call.signOnly hconfig))).map _
  · intro transaction prepared forceMethod h
    rw [(signFeePayer_shared hconfig h).2]

/-! ## A sample kit -/

/-- The key that `DEFAULT_DEPLOYER_PUBLIC_KEY` encodes. -/
def sharedDeployerKey : BytesN 32 :=
  ⟨[0, 126, 58, 123, 244, 98, 33, 0, 202, 4, 76, 246, 232, 235, 60, 244, 215, 6, 165, 59, 184, 106,
    28, 30, 17, 127, 69, 67, 140, 101, 117, 203], rfl⟩

/-- A kit of the test network with the shared deployer and a relayer. -/
def sampleKit : Kit where
  wallet :=
    { sampleSharedConfig with
      networkPassphrase := TESTNET
      deployerKey := sharedDeployerKey }
  config :=
    { sampleConfig with
      networkPassphrase := TESTNET
      deployerPublicKey := encodeCheck 48 sharedDeployerKey.1 }
  deployer_eq := rfl
  relayer_eq := rfl
  passphrase_eq := rfl
  shared_eq := by
    set_option maxRecDepth 20000 in decide

/-- The deployment of the sample world, with the authorization that simulation asks for. -/
def sampleKitWorld : SteadyWallet :=
  { sampleWorld (.account sharedDeployerKey) with
    simulated :=
      { operations := some [.invokeHostFunction none
          (.createContractV2 (sampleCreation (.account sharedDeployerKey))) []]
        simulatedAuth := .ok [⟨.sourceAccount,
          .node (.createContractV2HostFn (sampleCreation (.account sharedDeployerKey))) []⟩]
        latestLedger := some 50 } }

/-- A network that funds a random account with a balance, and confirms what it gets. -/
def sampleKitNetwork : (r : NetworkRequest) → NetworkReply r
  | .kit (.getAccount publicKey) => .ok { accountId := publicKey, sequence := 1 }
  | .getAccountEntry _ => .ok 100000000000
  | .simulateFunding _ => .ok (.success [⟨.sourceAccount, sampleEntry.rootInvocation⟩] 100)
  | request => sampleNetwork (.ok (.success (some (.ofNat 40)))) request

/-- The replies of the sample system. -/
def sampleSystem : (r : KitSystem.Request) → KitSystem.Reply r
  | .inl request => sampleKitWorld.reply request
  | .inr request => sampleKitNetwork request

/-- The deployer signs an authorization. -/
def KitSystem.isAuthorization : KitSystem.Request → Bool
  | .inl (.signAuthEntryPreimage _) => true
  | _ => false

/-- An envelope is sent. -/
def KitSystem.isEnvelope : KitSystem.Request → Bool
  | .inr (.sendTransaction _) => true
  | _ => false

/-- Creating a wallet, submitting its deployment and funding it. -/
def sampleKitCall : KitCall :=
  .createWallet { autoSubmit := true }
    { autoFund := true, nativeTokenContract := some (sampleContractId 9) } (some (sampleContractId 7))

theorem sampleSystem_genuine (request : KitSystem.Request) :
    Genuine ⟨request, sampleSystem request⟩ := by
  cases request with
  | inl request => exact trivial
  | inr request =>
    show NetworkGenuine ⟨request, sampleKitNetwork request⟩
    cases request with
    | kit request =>
      cases request with
      | getAccount publicKey =>
        intro account haccount
        rw [← Except.ok.inj haccount]
      | _ => exact trivial
    | randomKeypair =>
      show publicKeyText ⟨List.replicate 32 5, List.length_replicate⟩ ≠ DEFAULT_DEPLOYER_PUBLIC_KEY
      set_option maxRecDepth 20000 in decide
    | _ => exact trivial

/-- The sample kit creates a wallet: its deployer authorizes the creation, and the envelope that is
sent is that of the temporary account. -/
theorem sharedDeployer_signOnly_sample :
    ∃ t x, Program.Run (sampleKitCall.program sampleKit) t x ∧
      (∃ e ∈ t, KitSystem.isAuthorization e.request = true) ∧
      (∃ e ∈ t, KitSystem.isEnvelope e.request = true) ∧
      ∀ e ∈ t, SignOnly sharedDeployerKey e.request := by
  have hasked : ((Program.transcript sampleSystem (sampleKitCall.program sampleKit)).any
      (fun e => KitSystem.isAuthorization e.request) &&
    (Program.transcript sampleSystem (sampleKitCall.program sampleKit)).any
      fun e => KitSystem.isEnvelope e.request) = true := by
    decide +kernel
  rw [Bool.and_eq_true, List.any_eq_true, List.any_eq_true] at hasked
  have hrun := Program.run_transcript sampleSystem (sampleKitCall.program sampleKit)
  refine ⟨_, _, hrun, hasked.1, hasked.2, ?_⟩
  refine (sharedDeployer_signOnly sampleKit ?_).1 sampleKitCall _ _ hrun fun e he => ?_
  · set_option maxRecDepth 20000 in decide
  · have hgenuine := sampleSystem_genuine e.request
    rw [← Program.mem_transcript he] at hgenuine
    exact hgenuine

end SmartAccountKit
