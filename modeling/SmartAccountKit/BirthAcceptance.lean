import SmartAccountKit.ConnectionAddress
import SmartAccountKit.DeploymentTheorems
import SmartAccountKit.PolicyTheorems

/-!
# Deployed wallets have verified births

The deployment of a wallet is built in one module and verified in another. They
agree: the transaction that makes the built creation proves the birth of the
wallet, against the hash of its constructor arguments or against its deployer,
salt and policies.
-/

namespace SmartAccountKit
open Lib

/-! ## The bindings -/

/-- The entries that a policy map is encoded as. -/
def policyEntries (policies : PolicyMap) : Except JsError (List (ScVal × ScVal)) :=
  policies.mapM fun e => do return (ScVal.address (← toScAddress e.1), e.2)

/-- How the generated bindings encode the arguments of a deployment: the creation by the deployer
with the salt, whose constructor takes a vector of the signers and a map of the policies. -/
structure EncodesDeployment (args : DeployArgs) (create : CreateContractArgsV2) : Prop where
  preimage : ∃ deployer : ScAddress, deployer.toStrkey = some args.deployer ∧
    create.contractIdPreimage = .fromAddress deployer args.salt
  executable : ∃ wasmHash : BytesN 32, create.executable = .wasm wasmHash ∧
    normalizeHashHex args.wasmHash = some (toHex wasmHash.1)
  constructor : ∃ signers policies entries, args.signers.mapM signerToScVal = .ok signers ∧
    policyEntries args.policies = .ok policies ∧ entries.Perm policies ∧
    create.constructorArgs = [.vec (some signers), .map (some entries)]

/-- An encoding whose policies stand in the host order of their keys. -/
structure EncodesInHostOrder (args : DeployArgs) (create : CreateContractArgsV2) : Prop
    extends EncodesDeployment args create where
  host_order : ∀ entries, .map (some entries) ∈ create.constructorArgs →
    entries.Pairwise fun a b => compareKeys a b ≤ 0

/-- A transaction that was built for a deployment has the one operation that makes a creation. -/
def AssembledTransaction.Creates (tx : AssembledTransaction) (create : CreateContractArgsV2) : Prop :=
  ∃ source auth, tx.operations = some [.invokeHostFunction source (.createContractV2 create) auth]

/-- Every deployment that is simulated in a history is encoded by `R`. -/
def BindingsEncode (R : DeployArgs → CreateContractArgsV2 → Prop)
    (t : History WalletEnvironment) : Prop :=
  ∀ args tx, ⟨.simulateDeployment args, .ok tx⟩ ∈ t → ∃ create, tx.Creates create ∧ R args create

theorem AssembledTransaction.Creates.func {tx : AssembledTransaction} {create : CreateContractArgsV2}
    (h : tx.Creates create) :
    (DeployTransaction.assembled tx).func? = some (.createContractV2 create) := by
  obtain ⟨source, auth, hoperations⟩ := h
  rw [DeployTransaction.func?, hoperations]
  rfl

/-! ## What is built -/

/-- What the bindings are asked to deploy for a passkey. -/
def deployArgs (config : WalletConfig) (credentialId publicKey : Bytes) (policies : PolicyMap) :
    DeployArgs :=
  { signers := [.external config.webauthnVerifierAddress (buildKeyData publicKey credentialId)]
    policies := policies
    wasmHash := config.accountWasmHash
    deployer := config.deployerPublicKey
    sharedDeployer := config.usingSharedDeployer
    salt := hash credentialId }

/-- An empty list of policies builds the empty map. -/
theorem constructorPolicies_eq (policies : Option (List PolicyConfig)) :
    constructorPolicies policies = buildConstructorPolicies (policies.getD []) := by
  unfold constructorPolicies
  split
  next hnone => rw [hnone]; rfl
  next => rfl

section built

variable {config : WalletConfig} {credentialId publicKey : Bytes}
  {policies : Option (List PolicyConfig)} {deployment : DeployTransaction}
  {t : History WalletEnvironment}

theorem simulatedDeployment_func {tx : AssembledTransaction} {func : HostFunction}
    {entry : SorobanAuthorizationEntry} {ledger : UInt32}
    (h : simulatedDeployment tx = .ok (func, entry, ledger)) :
    (DeployTransaction.assembled tx).func? = some func := by
  obtain ⟨auth, -, hparts⟩ := except_bind_eq_ok.mp h
  rw [DeployTransaction.func?]
  split at hparts
  next hoperations _ =>
    rw [hoperations]
    exact congrArg (some ·.1) (Except.ok.inj hparts)
  next => exact nomatch hparts

/-- A deployment that is built makes the creation of a simulated transaction. -/
theorem run_buildDeployTransaction_ok
    (hrun : Program.Run (buildDeployTransaction config credentialId publicKey policies) t
      (.ok deployment)) :
    ∃ map tx, buildConstructorPolicies (policies.getD []) = .ok map ∧
      ⟨.simulateDeployment (deployArgs config credentialId publicKey map), .ok tx⟩ ∈ t ∧
      deployment.func? = (DeployTransaction.assembled tx).func? := by
  obtain ⟨_, -, hrun₁⟩ := Program.run_ofExcept_bind_ok.mp hrun
  obtain ⟨map, hmap, hrun₂⟩ := Program.run_ofExcept_bind_ok.mp hrun₁
  obtain ⟨tx, t₁, t₂, rfl, hsimulate, hrun₃⟩ := Program.run_bind_ok.mp hrun₂
  obtain ⟨reply, rfl, hreply⟩ := Program.run_await.mp hsimulate
  obtain rfl : .ok tx = reply := hreply
  refine ⟨map, tx, by rw [← constructorPolicies_eq]; exact hmap, List.mem_cons_self, ?_⟩
  -- a kit with a deployer of its own gives the transaction, the shared one its signed operation
  split_ifs at hrun₃ with hshared
  · obtain ⟨⟨func, entry, ledger⟩, hparts, hrun₄⟩ := Program.run_ofExcept_bind_ok.mp hrun₃
    obtain ⟨_, -, hrun₅⟩ := Program.run_ofExcept_bind_ok.mp hrun₄
    obtain ⟨nonce, t₃, t₄, rfl, -, hrun₆⟩ := Program.run_bind_ok.mp hrun₅
    obtain ⟨⟨authEntry, preimage⟩, -, hrun₇⟩ := Program.run_ofExcept_bind_ok.mp hrun₆
    obtain ⟨signature, t₅, t₆, rfl, -, hdone⟩ := Program.run_bind_ok.mp hrun₇
    rw [Except.ok.inj (Program.run_pure.mp hdone).2, simulatedDeployment_func hparts]
    rfl
  · rw [Except.ok.inj (Program.run_pure.mp hrun₃).2]

end built

/-! ## The creation of a wallet -/

/-- The creation of a wallet for a passkey: by the kit's deployer with the salt of the credential,
with the kit's code, one signer and the policies in host order. -/
structure WalletCreation (config : WalletConfig) (credentialId publicKey : Bytes)
    (policies : List PolicyConfig) (create : CreateContractArgsV2) : Prop where
  preimage : create.contractIdPreimage =
    .fromAddress (.account config.deployerKey) (hash credentialId)
  executable : ∃ wasmHash : BytesN 32, create.executable = .wasm wasmHash ∧
    normalizeHashHex config.accountWasmHash = some (toHex wasmHash.1)
  constructor : ∃ signer expected,
    signerToScVal (.external config.webauthnVerifierAddress (publicKey ++ credentialId)) =
      .ok signer ∧
    expectedPoliciesScVal policies = .ok expected ∧
    create.constructorArgs = [.vec (some [signer]), expected]

/-- The entries of policies at distinct addresses that stand in host order are the sorted ones. -/
theorem policyEntries_sorted {policies : PolicyMap} {unsorted entries : List (ScVal × ScVal)}
    (h : policyEntries policies = .ok unsorted) (hdistinct : (policies.map (·.1)).Nodup)
    (hperm : entries.Perm unsorted) (horder : entries.Pairwise fun a b => compareKeys a b ≤ 0) :
    entries = sortBy compareKeys unsorted := by
  have hties : unsorted.Pairwise fun a b => compareKeys a b ≠ 0 := by
    refine addressKeys_pairwise (fun e k hk => ?_) (mapM_eq_ok.mp h) hdistinct
    obtain ⟨a, ha, hpair⟩ := except_bind_eq_ok.mp hk
    exact ⟨a, toScAddress_eq_ok.mp ha, congrArg Prod.fst (Except.ok.inj hpair).symm⟩
  rw [← sortBy_of_pairwise horder]
  exact (sortBy_eq_of_perm compareKeys_lawfulAt hperm.symm hties).symm

/-- What the kit builds is the creation of the wallet. -/
theorem walletCreation_of_built {config : WalletConfig} {credentialId publicKey : Bytes}
    {policies : Option (List PolicyConfig)} {deployment : DeployTransaction}
    {t : History WalletEnvironment}
    (hdistinct : ((policies.getD []).map (·.address)).Nodup)
    (hbindings : BindingsEncode EncodesInHostOrder t)
    (hrun : Program.Run (buildDeployTransaction config credentialId publicKey policies) t
      (.ok deployment)) :
    ∃ create, deployment.func? = some (.createContractV2 create) ∧
      WalletCreation config credentialId publicKey (policies.getD []) create := by
  obtain ⟨map, tx, hmap, hsimulated, hfunc⟩ := run_buildDeployTransaction_ok hrun
  obtain ⟨create, hcreates, hencodes⟩ := hbindings _ _ hsimulated
  refine ⟨create, hfunc.trans hcreates.func, ?_, ?_, ?_⟩
  · obtain ⟨deployer, hdeployer, hpreimage⟩ := hencodes.preimage
    have hown : (ScAddress.account config.deployerKey).toStrkey = some config.deployerPublicKey := rfl
    rw [hpreimage, ScAddress.toStrkey_inj hdeployer hown]
    rfl
  · exact hencodes.executable
  · obtain ⟨signers, unsorted, entries, hsigners, hentries, hperm, hargs⟩ := hencodes.constructor
    have hsigner := mapM_eq_ok.mp hsigners
    obtain ⟨signer, rest, hone, hnone, rfl⟩ := List.forall₂_cons_left_iff.mp hsigner
    rw [List.forall₂_nil_left_iff] at hnone
    have hkeys : (map.map (·.1)).Nodup :=
      (buildConstructorPolicies_addresses hdistinct hmap).nodup_iff.mpr hdistinct
    have hsorted := policyEntries_sorted hentries hkeys hperm
      (hencodes.host_order entries (by rw [hargs]; simp))
    refine ⟨signer, _, hone, ?_, by rw [hargs, hnone, hsorted]⟩
    rw [expectedPoliciesScVal, hmap, except_ok_bind]
    exact except_bind_eq_ok.mpr ⟨unsorted, hentries, rfl⟩

/-! ## The transaction -/

/-- The creations of a transaction. -/
def DecodedTransaction.creations (tx : DecodedTransaction) : List CreateContractArgsV2 :=
  tx.operations.filterMap TransactionOperation.createContractV2?

/-- A transaction makes a creation, and no other for its address preimage. The hashes of the address
preimages in it do not collide. -/
structure MakesOnly (networkPassphrase : String) (create : CreateContractArgsV2)
    (tx : DecodedTransaction) : Prop where
  only : ∃ before after, tx.creations = before ++ create :: after ∧
    ∀ other ∈ before ++ after, other.contractIdPreimage ≠ create.contractIdPreimage
  no_collision : Set.InjOn hash {bytes | ∃ other ∈ tx.creations,
    bytes = contractIdHashPreimage networkPassphrase other.contractIdPreimage}

/-- What a candidate says about the wallet and the transaction that created it. -/
structure ClaimsCreation (config : WalletConfig) (credentialId : Bytes) (txHash : BytesN 32)
    (candidate : WalletCandidate) : Prop where
  contract : deriveContractAddress credentialId config.deployerPublicKey config.networkPassphrase =
    .ok candidate.contractId
  wasm : candidate.birthWasmHash = config.accountWasmHash
  transaction : normalizeHashHex candidate.creationTransactionHash = some (toHex txHash.1)
  safe : candidate.creationLedger.isSafeInteger = true
  positive : candidate.creationLedger.lt (.ofNat 1) = false

/-- A history reports a transaction as successful at a ledger: the network does, or the history
service does when the network does not have it. -/
structure ReportsSuccess (hasHistory : Bool) (ledger : JsNumber) (envelope : DecodedEnvelope)
    (t : History WalletEnvironment) : Prop where
  network : ∀ reply, ⟨.getTransaction (toHex envelope.hash.1), reply⟩ ∈ t →
    reply = .ok (.success ledger (.ok envelope)) ∨ hasHistory = true ∧ reply = .ok .notFound
  history : ∀ reply, ⟨.getHistoricalTransaction (toHex envelope.hash.1), reply⟩ ∈ t →
    ∃ hash, hash.map Char.toLower = toHex envelope.hash.1 ∧ reply = .ok
      { successful := true, hash := hash, ledgerAttr := ledger, envelope := .ok envelope }

theorem contractIdHashPreimage_inj {networkPassphrase : String} {a b : ContractIdPreimage}
    (h : contractIdHashPreimage networkPassphrase a = contractIdHashPreimage networkPassphrase b) :
    a = b := by
  have hpreimage := List.append_cancel_left (List.append_cancel_left h)
  rw [← List.append_nil a.toXDR, ← List.append_nil b.toXDR] at hpreimage
  exact (ContractIdPreimage.toXDR_append_inj hpreimage).1

theorem encodeCheck_inj {version : UInt8} {as bs : Bytes}
    (h : encodeCheck version as = encodeCheck version bs) : as = bs := by
  have hdecode := decodeUnchecked_encodeCheck version as
  rw [h, decodeUnchecked_encodeCheck] at hdecode
  exact (congrArg Prod.snd (Option.some.inj hdecode)).symm

/-- The address of a creation by an address preimage. -/
theorem contractIdFromCreateV2_fromAddress {networkPassphrase : String}
    {create : CreateContractArgsV2} {address : ScAddress} {salt : BytesN 32}
    (h : create.contractIdPreimage = .fromAddress address salt) :
    contractIdFromCreateV2 networkPassphrase create = some (encodeCheck 16
      (hash (contractIdHashPreimage networkPassphrase create.contractIdPreimage)).1) := by
  rw [contractIdFromCreateV2, h]

/-- The only creation for an address preimage is the only one of its contract. -/
theorem MakesOnly.matching {networkPassphrase contractId : String} {create : CreateContractArgsV2}
    {tx : DecodedTransaction} (h : MakesOnly networkPassphrase create tx)
    (hcontract : contractIdFromCreateV2 networkPassphrase create = some contractId) :
    matchingCreations networkPassphrase contractId tx = [create] := by
  obtain ⟨before, after, hcreations, hothers⟩ := h.only
  have hmem : create ∈ tx.creations := by rw [hcreations]; simp
  have hrefused : ∀ other ∈ before ++ after,
      (contractIdFromCreateV2 networkPassphrase other == some contractId) = false := by
    intro other hother
    have hin : other ∈ tx.creations := by
      rw [hcreations]
      rcases List.mem_append.mp hother with hbefore | hafter
      · exact List.mem_append_left _ hbefore
      · exact List.mem_append_right _ (List.mem_cons_of_mem _ hafter)
    rw [beq_eq_false_iff_ne]
    intro hsame
    cases hpreimage : other.contractIdPreimage with
    | fromAsset asset =>
      rw [contractIdFromCreateV2, hpreimage] at hsame
      cases hsame
    | fromAddress address salt =>
      cases hpreimage' : create.contractIdPreimage with
      | fromAsset asset =>
        rw [contractIdFromCreateV2, hpreimage'] at hcontract
        cases hcontract
      | fromAddress address' salt' =>
        rw [contractIdFromCreateV2_fromAddress hpreimage] at hsame
        rw [contractIdFromCreateV2_fromAddress hpreimage', ← hsame] at hcontract
        have hhash := Subtype.ext (encodeCheck_inj (Option.some.inj hcontract))
        have hbytes := h.no_collision ⟨create, hmem, rfl⟩ ⟨other, hin, rfl⟩ hhash
        exact hothers other hother (contractIdHashPreimage_inj hbytes).symm
  have hnone : ∀ part : List CreateContractArgsV2, (∀ other ∈ part, other ∈ before ++ after) →
      part.filter (fun other =>
        contractIdFromCreateV2 networkPassphrase other == some contractId) = [] := by
    intro part hpart
    rw [List.filter_eq_nil_iff]
    intro other hother
    rw [hrefused other (hpart other hother)]
    exact Bool.false_ne_true
  rw [matchingCreations]
  show tx.creations.filter _ = [create]
  rw [hcreations, List.filter_append, hnone before fun _ h => List.mem_append_left _ h,
    List.filter_cons_of_pos (by rw [hcontract, beq_self_eq_true]),
    hnone after fun _ h => List.mem_append_right _ h]
  rfl

/-! ## The checks of a verification -/

/-- A verification that approves a deployment: with the settings of the kit, and against the hash
of the constructor arguments, or against the policies in any order. -/
structure ApprovesDeployment (config : WalletConfig) (credentialId : Bytes)
    (policies : List PolicyConfig) (argsHash : String) (deps : WalletBirthVerificationDeps) :
    Prop where
  networkPassphrase : deps.networkPassphrase = config.networkPassphrase
  accepted : config.accountWasmHash ∈ deps.acceptedBirthWasmHashes
  verifier : deps.webauthnVerifierAddress = config.webauthnVerifierAddress
  deployer : deps.expectedDeployer = none ∨ deps.expectedDeployer = some config.deployerPublicKey
  salt : deps.expectedSalt = none ∨ deps.expectedSalt = some (hash credentialId).1
  constructor : deps.expectedConstructorArgsHash = some argsHash ∨
    deps.expectedConstructorArgsHash = none ∧ (deps.expectedPolicies.getD []).Perm policies

section checks

variable {config : WalletConfig} {credentialId publicKey : Bytes} {policies : List PolicyConfig}
  {create : CreateContractArgsV2} {deps : WalletBirthVerificationDeps}

theorem WalletCreation.checkContractIdPreimage
    (h : WalletCreation config credentialId publicKey policies create)
    (hdeployer : deps.expectedDeployer = none ∨
      deps.expectedDeployer = some config.deployerPublicKey)
    (hsalt : deps.expectedSalt = none ∨ deps.expectedSalt = some (hash credentialId).1) :
    checkContractIdPreimage create.contractIdPreimage deps = .ok () := by
  have hcheckDeployer : checkDeployer (.account config.deployerKey) deps.expectedDeployer =
      .ok () := by
    rcases hdeployer with hnone | hsome
    · rw [hnone]
      rfl
    · have htext : nonEmptyText (some config.deployerPublicKey) = some config.deployerPublicKey :=
        nonEmptyText_eq_some.mpr ⟨rfl, encodeCheck_account_ne_empty config.deployerKey⟩
      rw [hsome, checkDeployer, htext]
      refine except_bind_eq_ok.mpr ⟨config.deployerPublicKey, ?_, ?_⟩
      · exact orThrow_eq_ok.mpr (addressText_eq_ok.mpr rfl)
      · rw [throwIf_eq_ok, not_not]
  have hcheckSalt : checkSalt (hash credentialId) deps.expectedSalt = .ok () := by
    rcases hsalt with hnone | hsome
    · rw [hnone]
      rfl
    · rw [hsome, checkSalt, throwIf_eq_ok, not_not]
  rw [h.preimage]
  exact except_bind_eq_ok.mpr ⟨(), hcheckDeployer, hcheckSalt⟩

/-- The constructor of a wallet has the passkey as its signer. -/
theorem WalletCreation.constructorSigner
    (h : WalletCreation config credentialId publicKey policies create)
    (hverifier : deps.webauthnVerifierAddress = config.webauthnVerifierAddress)
    (hid : credentialId ≠ []) (hlength : publicKey.length = 65) (hhead : publicKey.head? = some 4) :
    constructorSigner create.constructorArgs deps.webauthnVerifierAddress =
      .ok (.external config.webauthnVerifierAddress (publicKey ++ credentialId)) := by
  obtain ⟨signer, expected, hsigner, -, hargs⟩ := h.constructor
  have hkeyLength : ¬(publicKey ++ credentialId).length ≤ P256_PUBLIC_KEY_SIZE := by
    have hpos := List.length_pos_iff.mpr hid
    rw [List.length_append, P256_PUBLIC_KEY_SIZE, hlength]
    omega
  have hkeyHead : (publicKey ++ credentialId).head? = some 4 := by
    rw [List.head?_append, hhead, Option.some_or]
  rw [hargs, SmartAccountKit.constructorSigner, hverifier]
  simp only [Option.getD_some, parseSignerScVal_signerToScVal hsigner]
  rw [if_neg]
  rw [not_or, not_or, not_not, not_not]
  exact ⟨rfl, hkeyLength, hkeyHead⟩

/-- The constructor of a wallet has the approved arguments. -/
theorem WalletCreation.checkConstructorArgs
    (h : WalletCreation config credentialId publicKey policies create)
    (hdistinct : (policies.map (·.address)).Nodup)
    (hconstructor :
      deps.expectedConstructorArgsHash = some (constructorArgsHash create.constructorArgs) ∨
      deps.expectedConstructorArgsHash = none ∧ (deps.expectedPolicies.getD []).Perm policies) :
    checkConstructorArgs create.constructorArgs deps = .ok () := by
  rw [SmartAccountKit.checkConstructorArgs]
  rcases hconstructor with hhash | ⟨hnone, hperm⟩
  · have hhex : IsHashHex (constructorArgsHash create.constructorArgs) := isHashHex_toHex _
    have htext : nonEmptyText (some (constructorArgsHash create.constructorArgs)) =
        some (constructorArgsHash create.constructorArgs) :=
      nonEmptyText_eq_some.mpr ⟨rfl, hhex.ne_empty⟩
    simp only [hhash, htext, normalizeHashHex_eq_self hhex]
    rw [if_neg (not_not.mpr rfl)]
  · obtain ⟨signer, expected, -, hexpected, hargs⟩ := h.constructor
    obtain ⟨map, hmap, hentries⟩ := except_bind_eq_ok.mp hexpected
    have hmap' := buildConstructorPolicies_congr hperm.symm hdistinct hmap
    have hexpected' : expectedPoliciesScVal (deps.expectedPolicies.getD []) = .ok expected :=
      except_bind_eq_ok.mpr ⟨map, hmap', hentries⟩
    rw [hnone]
    refine except_bind_eq_ok.mpr ⟨expected, orThrow_eq_ok.mpr hexpected', ?_⟩
    rw [throwIf_eq_ok, not_not, hargs]
    rfl

end checks

/-! ## Runs of a verification -/

/-- A verification gives what it runs to. -/
theorem run_settle {I : Interface} {ρ α : Type} {p : Program I (Stop ρ) α} {t : History I}
    {x : Except JsError (Verdict ρ α)} (h : Program.Run (settle p) t x) :
    ∃ y, Program.Run p t y ∧ ∀ a, y = .ok a → x = .ok (.ok a) := by
  rcases Program.run_bind.mp h with ⟨e, hfail, -⟩ | ⟨y, t₁, t₂, rfl, hattempt, hresult⟩
  · obtain ⟨_, -, hok⟩ := Program.run_attempt.mp hfail
    exact nomatch hok
  obtain ⟨y', hrun, hy⟩ := Program.run_attempt.mp hattempt
  obtain rfl : y = y' := Except.ok.inj hy
  match y with
  | .ok value =>
    obtain ⟨rfl, rfl⟩ := Program.run_pure.mp hresult
    rw [List.append_nil]
    exact ⟨_, hrun, fun a ha => congrArg (Except.ok <| Verdict.ok ·) (Except.ok.inj ha)⟩
  | .error (.fail _ _) =>
    obtain ⟨rfl, -⟩ := Program.run_pure.mp hresult
    rw [List.append_nil]
    exact ⟨_, hrun, fun a ha => nomatch ha⟩
  | .error (.thrown _) =>
    obtain ⟨rfl, -⟩ := Program.run_throw.mp hresult
    rw [List.append_nil]
    exact ⟨_, hrun, fun a ha => nomatch ha⟩

/-- A transaction that is reported is read. -/
theorem run_readCreationTransaction {hasHistory : Bool} {ledger : JsNumber}
    {envelope : DecodedEnvelope} {t : History WalletEnvironment}
    {x : Except BirthStop (JsNumber × Except JsError DecodedEnvelope)}
    (hreports : ReportsSuccess hasHistory ledger envelope t)
    (hrun : Program.Run (readCreationTransaction hasHistory (toHex envelope.hash.1)) t x) :
    x = .ok (ledger, .ok envelope) := by
  rcases Program.run_bind.mp hrun with ⟨e, hfail, rfl⟩ | ⟨response, t₁, t₂, rfl, hread, hrest⟩
  · obtain ⟨reply, rfl, hreply⟩ := Program.run_await.mp hfail
    rcases hreports.network reply (List.mem_singleton_self _) with rfl | ⟨-, rfl⟩
    · exact nomatch hreply
    · exact nomatch hreply
  obtain ⟨reply, rfl, hreply⟩ := Program.run_await.mp hread
  rcases hreports.network reply List.mem_cons_self with rfl | ⟨hhistory, rfl⟩
  · obtain rfl := Except.ok.inj hreply
    exact (Program.run_pure.mp hrest).2
  · obtain rfl := Except.ok.inj hreply
    simp only [hhistory, if_true] at hrest
    obtain ⟨found, rfl, rfl⟩ := Program.run_await.mp hrest
    obtain ⟨hash, hhash, rfl⟩ := hreports.history found (by simp)
    simp [hhash]

theorem ReportsSuccess.mono {hasHistory : Bool} {ledger : JsNumber} {envelope : DecodedEnvelope}
    {t t' : History WalletEnvironment} (h : ReportsSuccess hasHistory ledger envelope t)
    (ht : t' ⊆ t) : ReportsSuccess hasHistory ledger envelope t' :=
  ⟨fun reply hreply => h.network reply (ht hreply), fun reply hreply => h.history reply (ht hreply)⟩

/-- A reported transaction whose creation passes the checks is accepted. -/
theorem run_verifyWalletBirth_of_reports {deps : WalletBirthVerificationDeps}
    {candidate : WalletCandidate} {claimedWasm : String} {envelope : DecodedEnvelope}
    {birth : VerifiedWalletBirth} {t : History WalletEnvironment} {x : Except JsError WalletBirthResult}
    (hclaimed : readCandidate candidate = .ok (claimedWasm, toHex envelope.hash.1))
    (hcreation : verifyCreation deps candidate claimedWasm (toHex envelope.hash.1) envelope =
      .ok birth)
    (hreports : ReportsSuccess deps.hasHistory candidate.creationLedger envelope t)
    (hrun : Program.Run (verifyWalletBirth deps candidate) t x) : x = .ok (.ok birth) := by
  obtain ⟨y, hinner, hx⟩ := run_settle hrun
  refine hx birth ?_
  rw [hclaimed] at hinner
  rcases Program.run_bind.mp hinner with ⟨e, hfail, -⟩ | ⟨_, t₁, t₂, rfl, hread, hrest⟩
  · exact nomatch (Program.run_ofExcept.mp hfail).2
  obtain ⟨rfl, hpair⟩ := Program.run_ofExcept.mp hread
  obtain rfl := Except.ok.inj hpair
  rcases Program.run_bind.mp hrest with ⟨e, hfail, -⟩ | ⟨found, t₃, t₄, rfl, hread', hrest'⟩
  · exact nomatch run_readCreationTransaction hreports hfail
  have hfound := run_readCreationTransaction
    (hreports.mono (List.subset_append_left t₃ t₄)) hread'
  obtain rfl := Except.ok.inj hfound
  dsimp only at hrest'
  rw [if_neg (not_not.mpr rfl)] at hrest'
  rcases Program.run_bind.mp hrest' with ⟨e, hfail, -⟩ | ⟨_, t₅, t₆, rfl, hdecoded, hverify⟩
  · exact nomatch (Program.run_ofExcept.mp hfail).2
  obtain ⟨rfl, henvelope⟩ := Program.run_ofExcept.mp hdecoded
  obtain rfl := Except.ok.inj henvelope
  exact (Program.run_ofExcept.mp hverify).2.trans hcreation

/-! ## Acceptance -/

/-- Birth verification accepts every wallet that the kit deploys. -/
theorem verifyWalletBirth_accepts_deployed {config : WalletConfig} {credentialId publicKey : Bytes}
    {policies : Option (List PolicyConfig)} {deployment : DeployTransaction}
    {built : History WalletEnvironment}
    (hid : credentialId ≠ []) (hlength : publicKey.length = 65) (hhead : publicKey.head? = some 4)
    (hdistinct : ((policies.getD []).map (·.address)).Nodup)
    (hbindings : BindingsEncode EncodesInHostOrder built)
    (hbuilt : Program.Run (buildDeployTransaction config credentialId publicKey policies) built
      (.ok deployment)) :
    ∃ create descriptor, deployment.func? = some (.createContractV2 create) ∧
      describeDeploymentBirth deployment = .ok descriptor ∧
      ∀ envelope candidate deps t x,
        MakesOnly config.networkPassphrase create envelope.innerTransaction →
        ClaimsCreation config credentialId envelope.hash candidate →
        ApprovesDeployment config credentialId (policies.getD [])
          descriptor.birthConstructorArgsHash deps →
        ReportsSuccess deps.hasHistory candidate.creationLedger envelope t →
        Program.Run (verifyWalletBirth deps candidate) t x →
        ∃ birth, x = .ok (.ok birth) ∧
          birth.constructorArgsHash = descriptor.birthConstructorArgsHash ∧
          signerMatchesCredential birth.birthSigner config.webauthnVerifierAddress publicKey
            (toBase64Url credentialId) = true := by
  obtain ⟨create, hfunc, hcreation⟩ := walletCreation_of_built hdistinct hbindings hbuilt
  obtain ⟨wasmHash, hexecutable, hwasm⟩ := hcreation.executable
  have hdescribe : describeDeploymentBirth deployment = .ok
      { birthWasmHash := toHex wasmHash.1
        birthConstructorArgsHash := constructorArgsHash create.constructorArgs } := by
    rw [describeDeploymentBirth, deploymentCreation, hfunc]
    refine except_bind_eq_ok.mpr ⟨create, rfl, ?_⟩
    simp only [hexecutable]
    rfl
  refine ⟨create, _, hfunc, hdescribe, fun envelope candidate deps t x honly hclaims happroves
    hreports hrun => ?_⟩
  have hclaimed : readCandidate candidate = .ok (toHex wasmHash.1, toHex envelope.hash.1) := by
    rw [readCandidate, hclaims.wasm, hwasm, hclaims.transaction]
    simp [hclaims.safe, hclaims.positive]
  have hcontract : contractIdFromCreateV2 config.networkPassphrase create =
      some candidate.contractId := by
    have hown : (ScAddress.account config.deployerKey).toStrkey = some config.deployerPublicKey := rfl
    have hderived := hclaims.contract
    rw [deriveContractAddress_eq_ok hown] at hderived
    rw [contractIdFromCreateV2_fromAddress hcreation.preimage, hcreation.preimage]
    exact congrArg some (Except.ok.inj hderived)
  have haccepted : toHex wasmHash.1 ∈ deps.acceptedBirthWasmHashes.filterMap normalizeHashHex :=
    List.mem_filterMap.mpr ⟨_, happroves.accepted, hwasm⟩
  have hfind : findCreation deps candidate (toHex envelope.hash.1) envelope = .ok create := by
    refine findCreation_eq_ok.mpr ⟨rfl, ?_⟩
    rw [happroves.networkPassphrase]
    exact honly.matching hcontract
  have hverified := verifyCreation_eq_ok.mpr ⟨create, _, hfind,
    hcreation.checkContractIdPreimage happroves.deployer happroves.salt,
    checkExecutable_eq_ok.mpr ⟨wasmHash, hexecutable, rfl, haccepted⟩,
    hcreation.constructorSigner happroves.verifier hid hlength hhead,
    hcreation.checkConstructorArgs hdistinct happroves.constructor, rfl⟩
  refine ⟨_, run_verifyWalletBirth_of_reports hclaimed hverified hreports hrun, rfl, ?_⟩
  rw [signerMatchesCredential, fromBase64_toBase64Url, signersEqual_iff]

/-! ## A sample verification -/

/-- The sample creation, with two policies. -/
def samplePolicyCreation : CreateContractArgsV2 :=
  { sampleCreation (sampleAccount 4) with
    constructorArgs :=
      [.vec (some [.vec (some [scvSymbol "External", .address (sampleContract 11),
        .bytes (samplePublicKey ++ [1])])]),
        .map (some [(.address (sampleContract 7), .void),
          (.address (sampleContract 8), sampleThreshold)])] }

/-- Its simulation. -/
def samplePolicySimulated : AssembledTransaction :=
  { operations := some [.invokeHostFunction none (.createContractV2 samplePolicyCreation) []]
    simulatedAuth := .ok []
    latestLedger := some 50 }

/-- Its transaction. -/
def samplePolicyEnvelope : DecodedEnvelope :=
  .transaction
    { hash := sampleTransactionHash
      source := sampleAccountId 4
      fee := 100
      operations := [.invokeHostFunction none (.createContractV2 samplePolicyCreation) []]
      signatures := []
      sorobanData := none }

/-- What the bindings are asked to deploy for the sample passkey. -/
def samplePolicyArgs (config : WalletConfig) : DeployArgs :=
  deployArgs config [1] samplePublicKey
    [(sampleContractId 7, .void), (sampleContractId 8, sampleThreshold)]

/-- The creation is how the bindings encode the deployment of a sample wallet with policies. -/
theorem samplePolicyCreation_encodes (config : WalletConfig)
    (hverifier : config.webauthnVerifierAddress = sampleContractId 11)
    (hdeployer : config.deployerPublicKey = sampleAccountId 4)
    (hwasm : config.accountWasmHash = toHex (List.replicate 32 13)) :
    EncodesInHostOrder (samplePolicyArgs config) samplePolicyCreation where
  preimage := ⟨sampleAccount 4, congrArg some hdeployer.symm, rfl⟩
  executable := by
    refine ⟨⟨List.replicate 32 13, by simp⟩, rfl, ?_⟩
    show normalizeHashHex config.accountWasmHash = _
    rw [hwasm]
    exact normalizeHashHex_eq_self (isHashHex_toHex ⟨List.replicate 32 13, by simp⟩)
  constructor := by
    have hsigner : signerToScVal (.external config.webauthnVerifierAddress (samplePublicKey ++ [1])) =
        .ok (.vec (some [scvSymbol "External", .address (sampleContract 11),
          .bytes (samplePublicKey ++ [1])])) := by
      rw [hverifier]
      exact signerToScVal_external_eq_ok.mpr ⟨sampleContract 11, sampleContract_toStrkey 11, rfl⟩
    have hpolicies : policyEntries [(sampleContractId 7, .void), (sampleContractId 8, sampleThreshold)] =
        .ok [(.address (sampleContract 7), .void), (.address (sampleContract 8), sampleThreshold)] := by
      rw [policyEntries, List.mapM_cons, List.mapM_cons, List.mapM_nil,
        toScAddress_eq_ok.mpr (sampleContract_toStrkey 7),
        toScAddress_eq_ok.mpr (sampleContract_toStrkey 8)]
      rfl
    exact ⟨_, _, _, mapM_eq_ok.mpr (List.Forall₂.cons hsigner List.Forall₂.nil), hpolicies,
      List.Perm.refl _, rfl⟩
  host_order := by
    have hbefore : compareKeys (.address (sampleContract 7), .void)
        (.address (sampleContract 8), sampleThreshold) ≤ 0 := by decide
    intro entries hmem
    rcases List.mem_cons.mp hmem with hvec | hmem
    · exact nomatch hvec
    · rw [Option.some.inj (ScVal.map.inj (List.mem_singleton.mp hmem))]
      exact List.pairwise_pair.mpr hbefore

/-- The sample kit's verification, against its deployer, the salt and the policies. -/
def sampleVerificationDeps : WalletBirthVerificationDeps :=
  { hasHistory := false
    networkPassphrase := "Sample Network"
    acceptedBirthWasmHashes := [toHex (List.replicate 32 13)]
    webauthnVerifierAddress := sampleContractId 11
    expectedDeployer := some (sampleAccountId 4)
    expectedSalt := some (hash [1]).1
    expectedPolicies := some samplePolicies.reverse }

/-- The kit accepts the birth of a sample wallet that was deployed with two policies. -/
theorem verifyWalletBirth_accepts_deployed_sample :
    ∃ t birth, Program.Run (verifyWalletBirth sampleVerificationDeps
        (sampleCandidate (sampleAccount 4))) t (.ok (.ok birth)) ∧
      signerMatchesCredential birth.birthSigner (sampleContractId 11) samplePublicKey
        (toBase64Url [1]) = true := by
  have hbuilt : Program.Run (buildDeployTransaction sampleWalletConfig [1] samplePublicKey
      (some samplePolicies))
      [⟨.simulateDeployment (samplePolicyArgs sampleWalletConfig), .ok samplePolicySimulated⟩]
      (.ok (.assembled samplePolicySimulated)) := by
    refine Program.run_ofExcept_bind_ok.mpr ⟨(), ?_, ?_⟩
    · decide +kernel
    refine Program.run_ofExcept_bind_ok.mpr ⟨_, samplePolicies_build, ?_⟩
    exact Program.run_bind_ok.mpr ⟨_, [_], [], rfl, Program.run_await.mpr ⟨_, rfl, rfl⟩,
      Program.run_pure.mpr ⟨rfl, rfl⟩⟩
  have hbindings : BindingsEncode EncodesInHostOrder
      [⟨.simulateDeployment (samplePolicyArgs sampleWalletConfig), .ok samplePolicySimulated⟩] := by
    intro args tx hmem
    cases List.mem_singleton.mp hmem
    exact ⟨_, ⟨none, [], rfl⟩, samplePolicyCreation_encodes sampleWalletConfig rfl rfl rfl⟩
  have hdistinct : (((some samplePolicies).getD []).map (·.address)).Nodup :=
    samplePolicies_distinct
  obtain ⟨create, descriptor, hfunc, -, haccepts⟩ := verifyWalletBirth_accepts_deployed
    (List.cons_ne_nil _ _) rfl rfl hdistinct hbindings hbuilt
  obtain rfl : samplePolicyCreation = create :=
    HostFunction.createContractV2.inj (Option.some.inj hfunc)
  -- the network and the history service both know the transaction
  let reply : (r : WalletRequest) → WalletReply r
    | .getTransaction _ => .ok (.success (.ofNat 40) (.ok samplePolicyEnvelope))
    | .getHistoricalTransaction _ => .ok
        { successful := true
          hash := toHex sampleTransactionHash.1
          ledgerAttr := .ofNat 40
          envelope := .ok samplePolicyEnvelope }
    | r => (sampleWorld (sampleAccount 4)).reply r
  have hrun : Program.Run (verifyWalletBirth sampleVerificationDeps
      (sampleCandidate (sampleAccount 4))) _ _ :=
    Program.run_transcript (I := WalletEnvironment) reply _
  have honly : MakesOnly "Sample Network" samplePolicyCreation
      samplePolicyEnvelope.innerTransaction :=
    { only := ⟨[], [], rfl, fun _ hother => absurd hother List.not_mem_nil⟩
      no_collision := by
        intro a ⟨b, hb, hab⟩ c ⟨d, hd, hcd⟩ _
        rw [hab, hcd, List.mem_singleton.mp hb, List.mem_singleton.mp hd] }
  have hclaims : ClaimsCreation sampleWalletConfig [1] sampleTransactionHash
      (sampleCandidate (sampleAccount 4)) :=
    { contract := deriveContractAddress_eq_ok (sampleAccount_toStrkey 4)
      wasm := rfl
      transaction := normalizeHashHex_eq_self (isHashHex_toHex sampleTransactionHash)
      safe := rfl
      positive := rfl }
  have hpolicies : (sampleVerificationDeps.expectedPolicies.getD []).Perm samplePolicies := by
    have hexpected : sampleVerificationDeps.expectedPolicies = some samplePolicies.reverse := rfl
    rw [hexpected, Option.getD_some]
    exact List.reverse_perm samplePolicies
  have happroves : ApprovesDeployment sampleWalletConfig [1] ((some samplePolicies).getD [])
      descriptor.birthConstructorArgsHash sampleVerificationDeps :=
    { networkPassphrase := rfl
      accepted := List.mem_singleton_self _
      verifier := rfl
      deployer := Or.inr rfl
      salt := Or.inr rfl
      constructor := Or.inr ⟨rfl, hpolicies⟩ }
  obtain ⟨birth, hok, -, hmatches⟩ := haccepts samplePolicyEnvelope
    (sampleCandidate (sampleAccount 4)) sampleVerificationDeps _ _ honly hclaims happroves
    { network := fun _ hmem => Or.inl (Program.mem_transcript hmem)
      history := fun _ hmem => ⟨_, toHex_map_toLower _, Program.mem_transcript hmem⟩ }
    hrun
  rw [hok] at hrun
  exact ⟨_, birth, hrun, hmatches⟩

end SmartAccountKit
