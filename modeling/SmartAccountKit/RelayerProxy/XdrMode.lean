import SmartAccountKit.RelayerProxy.FuncMode

/-!
# What is sponsored as a signed envelope

An envelope that passes the checks deploys an account for its own source, is signed by
it, and declares the resources that its simulation uses.
-/

namespace SmartAccountKit.RelayerProxy
open Lib Program

/-- The source of a transaction is an account other than the shared deployer, and it has signed
the hash of the transaction. -/
structure SignedBySource (sdk : ProxySdk) (transaction : DecodedTransaction) (source : BytesN 32) :
    Prop where
  account : addressFromString transaction.source = some (.account source)
  dedicated : transaction.source ≠ SHARED_DEPLOYER sdk
  signed : ∃ signature ∈ transaction.signatures, sdk.verify source transaction.hash signature = true

/-- The only operation of a transaction deploys an account for the source, which authorizes that
deployment and nothing else. -/
structure DeploysForSource (sdk : ProxySdk) (env : ProxyEnv) (transaction : DecodedTransaction)
    (source : BytesN 32) : Prop where
  operation : ∃ operationSource deploy entry,
    transaction.operations =
      [.invokeHostFunction operationSource (.createContractV2 deploy) [entry]] ∧
    validateDeployFunction sdk env (.createContractV2 deploy) false = .ok transaction.source ∧
    AllowedDeploy sdk env deploy (.account source) ∧
    entry.credentials = .sourceAccount ∧ RootCreates entry deploy ∧
    entry.rootInvocation.subInvocations = []

/-- The declared Soroban data covers the simulated one. -/
structure Covers (declared simulated : SorobanTransactionData) (minResourceFee : ℤ) : Prop where
  fee : declared.resourceFee.toInt ≤ 2 * minResourceFee + 10000
  readWrite : ∀ key ∈ simulated.readWrite, key ∈ declared.readWrite
  readOnly : ∀ key ∈ simulated.readOnly, key ∈ declared.readOnly ∨ key ∈ declared.readWrite

/-- A transaction that is sponsored: its fees are within the ceilings, and it declares what its
simulation uses. -/
structure SponsoredEnvelope (sdk : ProxySdk) (env : ProxyEnv) (t : History ProxyServices)
    (transaction : DecodedTransaction) : Prop where
  source : ∃ source, SignedBySource sdk transaction source ∧
    DeploysForSource sdk env transaction source
  fee : ∃ ceiling, maxTotalFee env = .ok ceiling ∧ (transaction.fee : ℤ) ≤ ceiling
  declared : ∃ declared simulated minResourceFee ceiling,
    transaction.sorobanData = some declared ∧ maxResourceFee env = .ok ceiling ∧
    declared.resourceFee.toInt ≤ ceiling ∧ minResourceFee ≤ ceiling ∧
    SimulatedWithin env t (.decoded transaction) minResourceFee (some simulated) ∧
    Covers declared simulated minResourceFee

/-! ## The declared resources -/

/-- The text of a key is in a set exactly if the key is in the list. -/
theorem mem_keySet {keys : List Bytes} {key : Bytes} : toBase64 key ∈ keySet keys ↔ key ∈ keys := by
  rw [keySet, List.mem_map]
  constructor
  · intro ⟨key', hmem, heq⟩
    rwa [← toBase64_inj heq]
  · intro hmem
    exact ⟨key, hmem, rfl⟩

theorem declaredSorobanDataProblem_eq_none {declared simulated : SorobanTransactionData}
    {minResourceFee : ℤ} :
    declaredSorobanDataProblem declared simulated minResourceFee = none ↔
      Covers declared simulated minResourceFee := by
  unfold declaredSorobanDataProblem
  simp only [mem_keySet]
  split_ifs with hfee hreadWrite hreadOnly
  · refine iff_of_false (by simp) fun h => ?_
    have := h.fee
    rw [maxDeclaredResourceFee, DECLARED_RESOURCE_FEE_SLACK_STROOPS] at hfee
    omega
  · refine iff_of_false (by simp) fun h => ?_
    obtain ⟨key, hmem, hnot⟩ := List.any_eq_true.mp hreadWrite
    exact absurd (h.readWrite key hmem) (by simpa using hnot)
  · refine iff_of_false (by simp) fun h => ?_
    obtain ⟨key, hmem, hnot⟩ := List.any_eq_true.mp hreadOnly
    have hnot : key ∉ declared.readOnly ∧ key ∉ declared.readWrite := by simpa using hnot
    exact (h.readOnly key hmem).elim hnot.1 hnot.2
  · refine iff_of_true rfl ⟨?_, ?_, ?_⟩
    · rw [maxDeclaredResourceFee, DECLARED_RESOURCE_FEE_SLACK_STROOPS] at hfee
      omega
    · intro key hmem
      have hall := hreadWrite
      simp only [Bool.not_eq_true, List.any_eq_false, decide_eq_true_eq, not_not] at hall
      exact hall key hmem
    · intro key hmem
      have hall := hreadOnly
      simp only [Bool.not_eq_true, List.any_eq_false, decide_eq_true_eq, not_and_or, not_not] at hall
      exact hall key hmem

/-! ## The checks before the simulation -/

section envelope

variable {sdk : ProxySdk} {env : ProxyEnv} {transaction : DecodedTransaction}

theorem validateSourceSignature_eq_ok (h : validateSourceSignature sdk transaction = .ok ()) :
    ∃ source, addressFromString transaction.source = some (.account source) ∧
      ∃ signature ∈ transaction.signatures,
        sdk.verify source transaction.hash signature = true := by
  unfold validateSourceSignature at h
  split at h
  · rename_i source haddress
    have hsigned := throwIf_eq_ok.mp h
    rw [Bool.not_eq_false, List.any_eq_true] at hsigned
    exact ⟨source, haddress, hsigned⟩
  · exact absurd h (by simp)

theorem validateXdrDeployAuth_eq_ok {deploy : CreateContractArgsV2}
    {auth : List SorobanAuthorizationEntry} (h : validateXdrDeployAuth deploy auth = .ok ()) :
    ∃ entry, auth = [entry] ∧ entry.credentials = .sourceAccount ∧ RootCreates entry deploy ∧
      entry.rootInvocation.subInvocations = [] := by
  obtain ⟨entry, hentry, h⟩ := except_bind_eq_ok.mp h
  obtain ⟨hname, h⟩ := throwIf_bind_eq_ok.mp h
  have hroot := throwIf_eq_ok.mp h
  simp only [not_or, not_not, Bool.not_eq_false] at hroot
  have hcredentials : entry.credentials = .sourceAccount := by
    cases hentry' : entry.credentials <;> simp_all [SorobanCredentials.switchName]
  exact ⟨entry, onlyDeployEntry_eq_ok hentry, hcredentials, rootCreates_iff.mp hroot.2, hroot.1⟩

theorem validateDeployOperation_eq_ok {operation : TransactionOperation} {source : String}
    (h : validateDeployOperation sdk env source operation = .ok ()) :
    ∃ operationSource deploy entry,
      operation = .invokeHostFunction operationSource (.createContractV2 deploy) [entry] ∧
      validateDeployFunction sdk env (.createContractV2 deploy) false = .ok source ∧
      entry.credentials = .sourceAccount ∧ RootCreates entry deploy ∧
      entry.rootInvocation.subInvocations = [] := by
  cases operation with
  | other operationSource type => exact absurd h (by simp [validateDeployOperation])
  | invokeHostFunction operationSource func auth =>
    rw [validateDeployOperation] at h
    obtain ⟨-, h⟩ := throwIf_bind_eq_ok.mp h
    obtain ⟨deployer, hdeploy, h⟩ := except_bind_eq_ok.mp h
    obtain ⟨hsame, h⟩ := throwIf_bind_eq_ok.mp h
    rw [not_not] at hsame
    obtain ⟨deploy, _, rfl, -, -, -⟩ := validateDeployFunction_eq_ok hdeploy
    obtain ⟨entry, rfl, hcredentials, hroot, hsubs⟩ := validateXdrDeployAuth_eq_ok h
    rw [hsame] at hdeploy
    exact ⟨operationSource, deploy, entry, rfl, hdeploy, hcredentials, hroot, hsubs⟩

theorem onlyOperation_eq_ok {operation : TransactionOperation}
    (h : onlyOperation transaction = .ok operation) : transaction.operations = [operation] := by
  unfold onlyOperation at h
  split at h
  · rename_i operation' hoperations
    rw [hoperations, Except.ok.inj h]
  · exact absurd h (by simp)

theorem validateEnvelope_eq_ok {declared : SorobanTransactionData}
    (h : validateEnvelope sdk env transaction = .ok declared) :
    (∃ source, SignedBySource sdk transaction source ∧
      DeploysForSource sdk env transaction source) ∧
    (∃ ceiling, maxTotalFee env = .ok ceiling ∧ (transaction.fee : ℤ) ≤ ceiling) ∧
    transaction.sorobanData = some declared ∧
    ∃ ceiling, maxResourceFee env = .ok ceiling ∧ declared.resourceFee.toInt ≤ ceiling := by
  unfold validateEnvelope at h
  obtain ⟨hdedicated, h⟩ := throwIf_bind_eq_ok.mp h
  obtain ⟨totalCeiling, htotal, h⟩ := except_bind_eq_ok.mp h
  obtain ⟨hfee, h⟩ := throwIf_bind_eq_ok.mp h
  obtain ⟨operation, hoperation, h⟩ := except_bind_eq_ok.mp h
  obtain ⟨_, hsignature, h⟩ := except_bind_eq_ok.mp h
  obtain ⟨_, hdeploys, hdeclared⟩ := except_bind_eq_ok.mp h
  obtain ⟨source, haddress, hsigned⟩ := validateSourceSignature_eq_ok hsignature
  obtain ⟨operationSource, deploy, entry, rfl, hdeploy, hcredentials, hroot, hsubs⟩ :=
    validateDeployOperation_eq_ok hdeploys
  -- the deployer is the source, so its address is the account of the source
  obtain ⟨deploy', deployer, hfunc, hallowed, htext, -⟩ := validateDeployFunction_eq_ok hdeploy
  obtain rfl : deploy = deploy' := HostFunction.createContractV2.inj hfunc
  have hdeployer : deployer = .account source :=
    ScAddress.toStrkey_inj htext (addressFromString_eq_some.mp haddress)
  rw [hdeployer] at hallowed
  have hsource : SignedBySource sdk transaction source := ⟨haddress, hdedicated, hsigned⟩
  have hdeploysFor : DeploysForSource sdk env transaction source :=
    ⟨operationSource, deploy, entry, onlyOperation_eq_ok hoperation, hdeploy, hallowed,
      hcredentials, hroot, hsubs⟩
  split at hdeclared
  · exact absurd hdeclared (by simp)
  · rename_i declared' hdata
    obtain ⟨ceiling, hceiling, hdeclared⟩ := except_bind_eq_ok.mp hdeclared
    obtain ⟨hle, hdeclared⟩ := throwIf_bind_eq_ok.mp hdeclared
    obtain rfl : declared' = declared := Except.ok.inj hdeclared
    exact ⟨⟨source, hsource, hdeploysFor⟩, ⟨totalCeiling, htotal, by omega⟩, hdata, ceiling,
      hceiling, by omega⟩

end envelope

/-! ## The submission -/

theorem decodeXdrBody_eq_ok {sdk : ProxySdk} {env : ProxyEnv} {xdr : String}
    {transaction : DecodedTransaction} (h : decodeXdrBody sdk env xdr = .ok transaction) :
    ∃ passphrase, networkPassphrase env = .ok passphrase ∧
      sdk.transactionFromXDR xdr passphrase = some (.transaction transaction) := by
  unfold decodeXdrBody at h
  split at h
  · rename_i transaction' hdecode
    obtain ⟨passphrase, hpassphrase, hdecode⟩ := Option.bind_eq_some_iff.mp hdecode
    rw [Except.ok.inj h] at hdecode
    exact ⟨passphrase, toOption_eq_some.mp hpassphrase, hdecode⟩
  · exact absurd h (by simp)

/-- What is sponsored as an envelope is no fee bump but a transaction that deploys for its own
source and declares what its simulation uses. -/
theorem validateXdrSubmission_sponsored {sdk : ProxySdk} {env : ProxyEnv} {xdr : String}
    {t : History ProxyServices} (h : Run (validateXdrSubmission sdk env xdr) t (.ok ())) :
    ∃ passphrase transaction, networkPassphrase env = .ok passphrase ∧
      sdk.transactionFromXDR xdr passphrase = some (.transaction transaction) ∧
      SponsoredEnvelope sdk env t transaction := by
  obtain ⟨transaction, hdecode, h⟩ := run_ofExcept_bind_ok.mp h
  obtain ⟨declared, hchecks, h⟩ := run_ofExcept_bind_ok.mp h
  obtain ⟨⟨minResourceFee, simulated⟩, t₁, t₂, rfl, hsimulated, h⟩ := run_bind_ok.mp h
  obtain ⟨rfl, hcovers⟩ := run_ofExcept.mp h
  obtain ⟨passphrase, hpassphrase, htransaction⟩ := decodeXdrBody_eq_ok hdecode
  obtain ⟨hsource, hfee, hdata, ceiling, hceiling, hdeclared⟩ := validateEnvelope_eq_ok hchecks
  have hwithin := run_simulateWithinFeeCeiling hsimulated
  rw [List.append_nil]
  split at hcovers
  · exact absurd hcovers (by simp)
  · rename_i simulated
    have hproblem : declaredSorobanDataProblem declared simulated minResourceFee = none := by
      split at hcovers
      · exact absurd hcovers (by simp)
      · assumption
    obtain ⟨text, ceiling', -, -, hceiling', hmin⟩ := id hwithin
    obtain rfl : ceiling = ceiling' := Except.ok.inj (hceiling.symm.trans hceiling')
    exact ⟨passphrase, transaction, hpassphrase, htransaction, hsource, hfee, declared, simulated,
      minResourceFee, ceiling, hdata, hceiling, hdeclared, hmin, hwithin,
      declaredSorobanDataProblem_eq_none.mp hproblem⟩

/-! ## A sponsored envelope -/

/-- The deployment of a wallet of one passkey. -/
def sampleDeploy : CreateContractArgsV2 where
  contractIdPreimage := .fromAddress (sampleAccount 2) (hash [1])
  executable := .wasm ⟨List.replicate 32 3, rfl⟩
  constructorArgs :=
    [.vec (some [.vec (some [.symbol (utf8Encode "External"), .address (sampleContract 4),
        .bytes (4 :: (List.replicate 64 0 ++ [1]))])]),
      .map (some [])]

/-- A transaction that deploys the wallet for its source. -/
def sampleEnvelope : DecodedTransaction where
  hash := ⟨List.replicate 32 5, rfl⟩
  source := sampleAccountId 2
  fee := 200
  operations := [.invokeHostFunction none (.createContractV2 sampleDeploy)
    [⟨.sourceAccount, .node (.createContractV2HostFn sampleDeploy) []⟩]]
  signatures := [[6]]
  sorobanData := some ⟨100, [[7]], [[8]]⟩

/-- An SDK that reads the transaction and accepts its signature. -/
def sampleEnvelopeSdk : ProxySdk where
  lower := .asciiOnly
  hostFunctionFromXDR _ := none
  authorizationEntryFromXDR _ := none
  transactionFromXDR text _ := if text = "AAAAAg==" then some (.transaction sampleEnvelope) else none
  publicKeyOfSeed _ := ⟨List.replicate 32 9, rfl⟩
  verify _ _ signature := signature = [6]
  hasHttpClient := true

/-- A proxy that sponsors the deployment of the sample code. -/
def sampleEnvelopeEnv : ProxyEnv where
  NETWORK := "testnet"
  STELLAR_RPC_URL := "https://soroban-testnet.stellar.org"
  ALLOWED_DEPLOY_WASM_HASHES := some (toHex (List.replicate 32 3))

theorem sampleDeploy_valid :
    validateDeployFunction sampleEnvelopeSdk sampleEnvelopeEnv (.createContractV2 sampleDeploy)
      false = .ok (sampleAccountId 2) := by
  have hhashes : allowedDeployWasmHashes sampleEnvelopeSdk.lower sampleEnvelopeEnv =
      .ok [toHex (List.replicate 32 3)] :=
    @allowedDeployWasmHashes_single _ _ ⟨List.replicate 32 3, rfl⟩ rfl
  have hdeployer : accountOrContractIdOf (sampleAccount 2)
      "Deploy preimage address must be an account or contract" = .ok (sampleAccountId 2) := rfl
  have hsigner : constructorSigner? [.symbol (utf8Encode "External"), .address (sampleContract 4),
      .bytes (4 :: (List.replicate 64 0 ++ [1]))] =
      some (sampleContract 4, 4 :: (List.replicate 64 0 ++ [1])) := by
    rw [constructorSigner?, if_pos (utf8Decode_utf8Encode _)]
  have hverifier : contractIdOf (sampleContract 4)
      "Deploy initial signer verifier must be a contract" = .ok (sampleContractId 4) := rfl
  have hcredential : (4 :: (List.replicate 64 0 ++ [1]) : Bytes).drop 65 = [1] := rfl
  have hconstructor : validateDeployConstructor sampleDeploy.constructorArgs (hash [1]) =
      .ok () := by
    simp only [validateDeployConstructor, sampleDeploy, Option.getD_some, hsigner, hverifier,
      hcredential, except_ok_bind, throwIf, ne_eq, not_true_eq_false, if_false]
    rfl
  have hfunc : (HostFunction.createContractV2 sampleDeploy).createContractV2? =
      some sampleDeploy := rfl
  simp only [validateDeployFunction, hfunc, hhashes, except_ok_bind]
  show (throwIf _ _ >>= fun _ => accountOrContractIdOf (sampleAccount 2) _ >>= _) = _
  simp only [hdeployer, hconstructor, except_ok_bind, throwIf]
  simp [except_ok_bind]

theorem sampleEnvelope_valid :
    validateEnvelope sampleEnvelopeSdk sampleEnvelopeEnv sampleEnvelope =
      .ok ⟨100, [[7]], [[8]]⟩ := by
  have hshared : sampleEnvelope.source ≠ SHARED_DEPLOYER sampleEnvelopeSdk := by
    intro h
    have hdecode := congrArg decodeUnchecked h
    rw [SHARED_DEPLOYER, decodeUnchecked_encodeCheck] at hdecode
    have hsource : decodeUnchecked sampleEnvelope.source = some (48, List.replicate 32 2) :=
      decodeUnchecked_encodeCheck _ _
    rw [hsource] at hdecode
    have hkeys : List.replicate 32 (2 : UInt8) = List.replicate 32 9 :=
      congrArg Prod.snd (Option.some.inj hdecode)
    exact absurd hkeys (by decide)
  have htotal : maxTotalFee sampleEnvelopeEnv = .ok 1100000 := by rfl
  have hresource : maxResourceFee sampleEnvelopeEnv = .ok 1000000 := by rfl
  have hsource : addressFromString (sampleAccountId 2) = some (sampleAccount 2) :=
    addressFromString_eq_some.mpr (sampleAccount_toStrkey 2)
  have hsignature : validateSourceSignature sampleEnvelopeSdk sampleEnvelope = .ok () := by
    unfold validateSourceSignature
    rw [show addressFromString sampleEnvelope.source = some (sampleAccount 2) from hsource]
    rfl
  have hauth : validateXdrDeployAuth sampleDeploy
      [⟨.sourceAccount, .node (.createContractV2HostFn sampleDeploy) []⟩] = .ok () := by
    have hcreates : SorobanAuthorizationEntry.creates
        ⟨.sourceAccount, .node (.createContractV2HostFn sampleDeploy) []⟩ sampleDeploy = true :=
      rootCreates_iff.mpr ⟨sampleDeploy, rfl, rfl⟩
    simp [validateXdrDeployAuth, onlyDeployEntry, hcreates, throwIf, except_ok_bind,
      SorobanCredentials.switchName, SorobanAuthorizedInvocation.subInvocations]
  have hoperation : validateDeployOperation sampleEnvelopeSdk sampleEnvelopeEnv
      sampleEnvelope.source (.invokeHostFunction none (.createContractV2 sampleDeploy)
        [⟨.sourceAccount, .node (.createContractV2HostFn sampleDeploy) []⟩]) = .ok () := by
    have hfunc : (HostFunction.createContractV2 sampleDeploy).createContractV2? =
        some sampleDeploy := rfl
    rw [validateDeployOperation, sampleDeploy_valid, hfunc]
    simp [hauth, throwIf, except_ok_bind, sampleEnvelope]
  have honly : onlyOperation sampleEnvelope = .ok (.invokeHostFunction none
      (.createContractV2 sampleDeploy)
      [⟨.sourceAccount, .node (.createContractV2HostFn sampleDeploy) []⟩]) := rfl
  have hdata : sampleEnvelope.sorobanData = some ⟨100, [[7]], [[8]]⟩ := rfl
  unfold validateEnvelope
  refine throwIf_bind_eq_ok.mpr ⟨hshared, except_bind_eq_ok.mpr ⟨_, htotal,
    throwIf_bind_eq_ok.mpr ⟨by decide, except_bind_eq_ok.mpr ⟨_, honly,
      except_bind_eq_ok.mpr ⟨(), hsignature, except_bind_eq_ok.mpr ⟨(), hoperation, ?_⟩⟩⟩⟩⟩⟩
  rw [hdata]
  exact except_bind_eq_ok.mpr ⟨_, hresource, throwIf_bind_eq_ok.mpr ⟨by decide, rfl⟩⟩

/-- The simulation of the sample envelope uses what it declares. -/
theorem sampleEnvelope_run :
    Run (validateXdrSubmission sampleEnvelopeSdk sampleEnvelopeEnv "AAAAAg==")
      [⟨.simulateTransaction (.decoded sampleEnvelope),
        .ok (.success "100" (some ⟨90, [[7]], [[8]]⟩))⟩] (.ok ()) := by
  have hdecode : decodeXdrBody sampleEnvelopeSdk sampleEnvelopeEnv "AAAAAg==" =
      .ok sampleEnvelope := rfl
  have hcovers : Covers ⟨100, [[7]], [[8]]⟩ ⟨90, [[7]], [[8]]⟩ 100 := by
    refine ⟨by decide, fun key hkey => hkey, fun key hkey => Or.inl hkey⟩
  have hfee : parseBigInt "100" = .ok 100 := by rfl
  have hceiling : maxResourceFee sampleEnvelopeEnv = .ok 1000000 := by rfl
  refine run_ofExcept_bind_ok.mpr ⟨_, hdecode, run_ofExcept_bind_ok.mpr
    ⟨_, sampleEnvelope_valid, run_bind_ok.mpr ⟨(100, some ⟨90, [[7]], [[8]]⟩), _, [],
      (List.append_nil _).symm, ?_, run_ofExcept.mpr ⟨rfl, ?_⟩⟩⟩⟩
  · refine run_ofExcept_bind_ok.mpr ⟨(), rfl, run_bind_ok.mpr ⟨.success "100" _, _, [],
      (List.append_nil _).symm, run_await.mpr ⟨_, rfl, rfl⟩, run_ofExcept.mpr ⟨rfl, ?_⟩⟩⟩
    simp only [hfee, hceiling, except_ok_bind]
    rfl
  · simp only [declaredSorobanDataProblem_eq_none.mpr hcovers]

/-- The sample envelope is sponsored. -/
theorem validateXdrSubmission_sponsored_sample :
    ∃ t passphrase transaction,
      sampleEnvelopeSdk.transactionFromXDR "AAAAAg==" passphrase = some (.transaction transaction) ∧
      SponsoredEnvelope sampleEnvelopeSdk sampleEnvelopeEnv t transaction := by
  obtain ⟨passphrase, transaction, -, hdecode, hsponsored⟩ :=
    validateXdrSubmission_sponsored sampleEnvelope_run
  exact ⟨_, passphrase, transaction, hdecode, hsponsored⟩

end SmartAccountKit.RelayerProxy
