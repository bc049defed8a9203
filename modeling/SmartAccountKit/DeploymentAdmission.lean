import SmartAccountKit.AuthDigestTheorems
import SmartAccountKit.BirthAcceptance
import SmartAccountKit.RelayerProxy.Bodies
import SmartAccountKit.RelayerProxy.FuncMode

/-!
# The proxy admits the deployments of the kit

The kit builds a deployment for the shared deployer in one program, and the relayer
proxy checks its shape in another. They agree: the payload that the kit sends is read
back, and the deployment in it passes every check that needs no request.
-/

namespace SmartAccountKit
open Lib

/-! ## Payloads -/

/-- `func.toXDR()`. -/
def HostFunction.toXDR : HostFunction → Bytes
  | invokeContract args => xdrU32 0 ++ args.toXDR
  | createContract args => xdrU32 1 ++ args.toXDR
  | uploadContractWasm wasm => xdrU32 2 ++ xdrOpaque wasm
  | createContractV2 args => xdrU32 3 ++ args.toXDR

def SorobanAddressCredentials.toXDR (credentials : SorobanAddressCredentials) : Bytes :=
  credentials.address.toXDR ++ (xdrU64 credentials.nonce.toBitVec.toNat ++
    (xdrU32 credentials.signatureExpirationLedger.toNat ++ credentials.signature.toXDR))

/-- The encoding of an entry with V1 credentials. -/
def addressEntryXDR (credentials : SorobanAddressCredentials)
    (rootInvocation : SorobanAuthorizedInvocation) : Bytes :=
  xdrU32 1 ++ (credentials.toXDR ++ rootInvocation.toXDR)

theorem xdrU32_append_ne_nil (n : ℕ) (bs : Bytes) : xdrU32 n ++ bs ≠ [] := by
  intro hnil
  have hlength : (xdrU32 n ++ bs).length = 4 + bs.length := by
    rw [List.length_append, xdrU32, length_beBytes]
  rw [hnil, List.length_nil] at hlength
  omega

theorem toBase64_ne_empty {bs : Bytes} (h : bs ≠ []) : toBase64 bs ≠ "" :=
  mt toBase64_eq_empty.mp h

theorem HostFunction.toXDR_ne_nil (func : HostFunction) : func.toXDR ≠ [] := by
  cases func with
  | invokeContract args => exact xdrU32_append_ne_nil 0 _
  | createContract args => exact xdrU32_append_ne_nil 1 _
  | uploadContractWasm wasm => exact xdrU32_append_ne_nil 2 _
  | createContractV2 args => exact xdrU32_append_ne_nil 3 _

/-! ## What the shared deployer signs -/

/-- An entry with V1 credentials of an account authorizes one creation, and nothing else. -/
structure AuthorizesCreation (deployerKey : BytesN 32) (create : CreateContractArgsV2)
    (credentials : SorobanAddressCredentials) (root : SorobanAuthorizedInvocation) : Prop where
  signer : credentials.address = .account deployerKey
  creates : RelayerProxy.RootCreates ⟨.address credentials, root⟩ create
  alone : root.subInvocations = []

section signed

variable {config : WalletConfig} {salt : BytesN 32} {t : History WalletEnvironment}

theorem createContractV2HostFn?_eq_some {function : SorobanAuthorizedFunction}
    {args : CreateContractArgsV2} (h : function.createContractV2HostFn? = some args) :
    function = .createContractV2HostFn args := by
  cases function with
  | createContractV2HostFn args' => rw [Option.some.inj h]
  | contractFn args' => exact absurd h (by simp [SorobanAuthorizedFunction.createContractV2HostFn?])
  | createContractHostFn args' =>
    exact absurd h (by simp [SorobanAuthorizedFunction.createContractV2HostFn?])

theorem createContractV2?_eq_some {func : HostFunction} {create : CreateContractArgsV2}
    (h : func.createContractV2? = some create) : func = .createContractV2 create := by
  cases func with
  | createContractV2 create' => rw [Option.some.inj h]
  | invokeContract args => exact absurd h (by simp [HostFunction.createContractV2?])
  | createContract args => exact absurd h (by simp [HostFunction.createContractV2?])
  | uploadContractWasm wasm => exact absurd h (by simp [HostFunction.createContractV2?])

theorem preimageAddress_eq_ok {preimage : ContractIdPreimage} {address : ScAddress} :
    preimageAddress preimage = .ok (address, salt) ↔ preimage = .fromAddress address salt := by
  unfold preimageAddress
  cases preimage <;> simp

/-- An authorization that is checked is one of the operation's creation alone, by the deployer. -/
theorem checkSharedAuthorization_eq_ok {func : HostFunction} {root : SorobanAuthorizedInvocation}
    {deployer : String} (h : checkSharedAuthorization func root deployer salt = .ok ()) :
    ∃ create args address, func = .createContractV2 create ∧
      root = .node (.createContractV2HostFn args) [] ∧ args.toXDR = create.toXDR ∧
      args.contractIdPreimage = .fromAddress address salt ∧ address.toStrkey = some deployer := by
  unfold checkSharedAuthorization at h
  split at h
  · exact absurd h (by simp)
  · rename_i args hargs
    obtain ⟨⟨address, authorizedSalt⟩, hpreimage, h⟩ := except_bind_eq_ok.mp h
    dsimp only at h
    split at h
    · exact absurd h (by simp)
    · rename_i create hcreate
      obtain ⟨hxdr, h⟩ := throwIf_bind_eq_ok.mp h
      obtain ⟨text, htext, h⟩ := except_bind_eq_ok.mp h
      obtain ⟨hdeployer, h⟩ := throwIf_bind_eq_ok.mp h
      have hrest := throwIf_eq_ok.mp h
      rw [not_or, not_not, not_not, List.length_eq_zero_iff] at hrest
      rw [not_not] at hxdr hdeployer
      have hroot : root = .node (.createContractV2HostFn args) [] := by
        cases root with
        | node function subs =>
          have hfunction := createContractV2HostFn?_eq_some hargs
          have hsubs : subs = [] := hrest.2
          rw [SorobanAuthorizedInvocation.function] at hfunction
          rw [hfunction, hsubs]
      rw [hrest.1] at hpreimage
      rw [hdeployer] at htext
      exact ⟨create, args, address, createContractV2?_eq_some hcreate, hroot, hxdr,
        preimageAddress_eq_ok.mp hpreimage, addressText_eq_ok.mp htext⟩

/-- The unsigned entry has V1 credentials of the deployer. -/
theorem sharedAuthorization_eq_ok {root : SorobanAuthorizedInvocation} {latestLedger : UInt32}
    {nonce : Int64} {entry : SorobanAuthorizationEntry} {preimage : HashIdPreimage}
    (h : sharedAuthorization config root latestLedger nonce = .ok (entry, preimage)) :
    ∃ credentials, entry = ⟨.address credentials, root⟩ ∧
      credentials.address = .account config.deployerKey := by
  obtain ⟨c, ledger, -, -, hentry, -⟩ := buildSignaturePreimage_eq_ok.mp h
  exact ⟨_, hentry, rfl⟩

/-- What is signed is the creation of the simulated operation. -/
theorem run_signSharedDeployment_ok {tx : AssembledTransaction} {deployment : DeployTransaction}
    (h : Program.Run (signSharedDeployment config salt tx) t (.ok deployment)) :
    ∃ create credentials root,
      deployment = .authEntry (.createContractV2 create) [⟨.address credentials, root⟩] ∧
      AuthorizesCreation config.deployerKey create credentials root := by
  obtain ⟨⟨func, entry, latestLedger⟩, -, h⟩ := Program.run_ofExcept_bind_ok.mp h
  obtain ⟨_, hchecked, h⟩ := Program.run_ofExcept_bind_ok.mp h
  obtain ⟨nonce, t₁, t₂, rfl, -, h⟩ := Program.run_bind_ok.mp h
  obtain ⟨⟨authEntry, preimage⟩, hentry, h⟩ := Program.run_ofExcept_bind_ok.mp h
  obtain ⟨signature, t₃, t₄, rfl, -, h⟩ := Program.run_bind_ok.mp h
  have hdeployment := Except.ok.inj (Program.run_pure.mp h).2
  obtain ⟨create, args, -, hfunc, hroot, hxdr, -⟩ := checkSharedAuthorization_eq_ok hchecked
  obtain ⟨credentials, hauth, haddress⟩ := sharedAuthorization_eq_ok hentry
  refine ⟨create, { credentials with
    signature := buildAddressSignatureScVal config.deployerKey.1 signature }, entry.rootInvocation,
    ?_, haddress, ⟨args, by rw [hroot]; rfl, hxdr⟩, by rw [hroot]; rfl⟩
  rw [hdeployment, hfunc, hauth]
  rfl

end signed

/-! ## The checks of the proxy -/

namespace RelayerProxy

section checks

variable {sdk : ProxySdk} {env : ProxyEnv}

/-- The constructor of an account with one passkey passes the check. -/
theorem validateDeployConstructor_of {constructorArgs : List ScVal} {salt : BytesN 32}
    (h : OnePasskeyConstructor constructorArgs salt) :
    validateDeployConstructor constructorArgs salt = .ok () := by
  obtain ⟨tag, verifier, keyData, policies, hargs, htag, hlength, hhead, hsalt, hpolicies⟩ := h
  have hsigner : constructorSigner? [.symbol tag, .address (.contract verifier), .bytes keyData] =
      some (.contract verifier, keyData) := by
    unfold constructorSigner?
    dsimp only
    rw [if_pos htag]
  have hkeys : (policies.getD []).forM (fun entry => validatePolicyKey entry.1) =
      (.ok () : Except ProxyError Unit) := by
    apply forM_eq_ok.mpr
    intro policy hpolicy
    obtain ⟨contractId, hkey⟩ := hpolicies policy hpolicy
    rw [hkey]
    rfl
  have hkeyData : ¬(keyData.length ≤ 65 ∨ keyData.head? ≠ some 0x04) := by
    rw [not_or, not_not]
    exact ⟨by omega, hhead⟩
  unfold validateDeployConstructor
  rw [hargs]
  dsimp only [Option.getD_some]
  rw [hsigner]
  refine except_bind_eq_ok.mpr ⟨_, contractIdOf_eq_ok.mpr ⟨verifier, rfl, rfl⟩, ?_⟩
  refine throwIf_bind_eq_ok.mpr ⟨hkeyData, ?_⟩
  exact throwIf_bind_eq_ok.mpr ⟨not_not.mpr hsalt.symm, hkeys⟩

/-- An allowed deployment by an allowed account passes the checks of the deployment. -/
theorem validateDeployFunction_of {deploy : CreateContractArgsV2} {deployerKey : BytesN 32}
    {required : Bool} (h : AllowedDeploy sdk env deploy (.account deployerKey))
    (hlisted : encodeCheck 48 deployerKey.1 ∈ csvSet env.ALLOWED_DEPLOYER_ADDRESSES) :
    validateDeployFunction sdk env (.createContractV2 deploy) required =
      .ok (encodeCheck 48 deployerKey.1) := by
  obtain ⟨⟨hashes, wasmHash, hhashes, hexecutable, hmem⟩, salt, hpreimage, hconstructor⟩ := h
  unfold validateDeployFunction
  dsimp only [HostFunction.createContractV2?]
  rw [hexecutable]
  refine except_bind_eq_ok.mpr ⟨hashes, hhashes, ?_⟩
  refine throwIf_bind_eq_ok.mpr ⟨not_not.mpr hmem, ?_⟩
  rw [hpreimage]
  refine except_bind_eq_ok.mpr ⟨encodeCheck 48 deployerKey.1, rfl, ?_⟩
  refine throwIf_bind_eq_ok.mpr ⟨fun hrefused => hrefused.2 hlisted, ?_⟩
  exact except_bind_eq_ok.mpr ⟨(), validateDeployConstructor_of hconstructor, rfl⟩

/-- An allowed deployment that an allowed account authorizes alone passes every check. -/
theorem validateFuncDeploy_of {deploy : CreateContractArgsV2} {deployerKey : BytesN 32}
    {credentials : SorobanAddressCredentials} {root : SorobanAuthorizedInvocation}
    (h : AllowedDeploy sdk env deploy (.account deployerKey))
    (hlisted : encodeCheck 48 deployerKey.1 ∈ csvSet env.ALLOWED_DEPLOYER_ADDRESSES)
    (hauth : AuthorizesCreation deployerKey deploy credentials root) :
    validateFuncDeploy sdk env deploy [⟨.address credentials, root⟩] = .ok () := by
  refine except_bind_eq_ok.mpr ⟨_, rfl, ?_⟩
  refine except_bind_eq_ok.mpr ⟨_, validateDeployFunction_of h hlisted, ?_⟩
  have hsigner : accountOrContractIdOf credentials.address
      "Deploy credential address must be an account or contract" =
      .ok (encodeCheck 48 deployerKey.1) := by
    rw [hauth.signer]
    rfl
  have hcreates := rootCreates_iff.mpr hauth.creates
  refine except_bind_eq_ok.mpr ⟨_, hsigner, throwIf_eq_ok.mpr ?_⟩
  simp [hauth.alone, hcreates]

end checks

/-- The texts of a payload pass the proxy: their body is read back, and the deployment that they
decode to passes every check that needs no request. -/
structure AdmitsDeployment (sdk : ProxySdk) (env : ProxyEnv) (func : String) (auth : List String) :
    Prop where
  body : parseSubmissionBody (funcBodyText func auth) = .ok (.func func auth)
  checks : ∃ deploy entries, decodeFuncBody sdk func auth = .ok (.createContractV2 deploy, entries) ∧
    validateFuncDeploy sdk env deploy entries = .ok ()

end RelayerProxy

/-! ## What the kit builds -/

/-- The proxy sponsors deployments of a kit: their code and their deployer are allowlisted. -/
structure RelayerProxy.SponsorsKit (sdk : RelayerProxy.ProxySdk) (env : RelayerProxy.ProxyEnv)
    (config : WalletConfig) : Prop where
  code : ∃ hashes wasmHash, RelayerProxy.allowedDeployWasmHashes sdk.lower env = .ok hashes ∧
    normalizeHashHex config.accountWasmHash = some wasmHash ∧ wasmHash ∈ hashes
  deployer : config.deployerPublicKey ∈ RelayerProxy.csvSet env.ALLOWED_DEPLOYER_ADDRESSES

/-- The SDK of the proxy reads back the XDR of a payload. -/
structure RelayerProxy.ReadsPayload (sdk : RelayerProxy.ProxySdk) (create : CreateContractArgsV2)
    (credentials : SorobanAddressCredentials) (root : SorobanAuthorizedInvocation) : Prop where
  func : sdk.hostFunctionFromXDR (toBase64 (HostFunction.createContractV2 create).toXDR) =
    some (.createContractV2 create)
  entry : sdk.authorizationEntryFromXDR (toBase64 (addressEntryXDR credentials root)) =
    some ⟨.address credentials, root⟩

section built

variable {config : WalletConfig} {credentialId publicKey : Bytes}
  {policies : Option (List PolicyConfig)} {map : PolicyMap} {create : CreateContractArgsV2}
  {sdk : RelayerProxy.ProxySdk} {env : RelayerProxy.ProxyEnv}

theorem policyEntries_contracts {entries : List (ScVal × ScVal)}
    (h : policyEntries map = .ok entries) (hcontracts : ∀ e ∈ map, isValidContract e.1 = true) :
    ∀ entry ∈ entries, ∃ contractId, entry.1 = .address (.contract contractId) := by
  intro entry hentry
  obtain ⟨e, he, hpair⟩ := exists_of_forall₂_right (mapM_eq_ok.mp h) hentry
  obtain ⟨address, haddress, hkey⟩ := except_bind_eq_ok.mp hpair
  have htext := toScAddress_eq_ok.mp haddress
  obtain ⟨contractId, hcontract⟩ := RelayerProxy.isValidContract_iff.mp (hcontracts e he)
  have hsame : address = .contract contractId := ScAddress.toStrkey_inj htext hcontract
  refine ⟨contractId, ?_⟩
  rw [← Except.ok.inj hkey, hsame]

/-- The constructor that the bindings encode is one of an account with one passkey. -/
theorem EncodesDeployment.onePasskey
    (h : EncodesDeployment (deployArgs config credentialId publicKey map) create)
    (hid : credentialId ≠ []) (hlength : publicKey.length = 65) (hhead : publicKey.head? = some 4)
    (hverifier : isValidContract config.webauthnVerifierAddress = true)
    (hcontracts : ∀ e ∈ map, isValidContract e.1 = true) :
    RelayerProxy.OnePasskeyConstructor create.constructorArgs (hash credentialId) := by
  obtain ⟨signers, unsorted, entries, hsigners, hentries, hperm, hargs⟩ := h.constructor
  obtain ⟨signer, rest, hone, hnone, hcons⟩ :=
    List.forall₂_cons_left_iff.mp (mapM_eq_ok.mp hsigners)
  rw [List.forall₂_nil_left_iff] at hnone
  obtain ⟨address, haddress, hsigner⟩ := signerToScVal_external_eq_ok.mp hone
  obtain ⟨verifier, hcontract⟩ := RelayerProxy.isValidContract_iff.mp hverifier
  have hsame : address = .contract verifier := ScAddress.toStrkey_inj haddress hcontract
  have hdrop : (buildKeyData publicKey credentialId).drop 65 = credentialId := by
    rw [buildKeyData, ← hlength, List.drop_left]
  have hkeyLength : 65 < (buildKeyData publicKey credentialId).length := by
    have hpos := List.length_pos_iff.mpr hid
    rw [buildKeyData, List.length_append]
    omega
  have hkeyHead : (buildKeyData publicKey credentialId).head? = some 4 := by
    rw [buildKeyData, List.head?_append, hhead]
    rfl
  refine ⟨utf8Encode "External", verifier, buildKeyData publicKey credentialId, some entries, ?_,
    utf8Decode_utf8Encode _, hkeyLength, hkeyHead, by rw [hdrop], ?_⟩
  · rw [hargs, hcons, hnone, ← hsigner, hsame]
    rfl
  · intro policy hpolicy
    exact policyEntries_contracts hentries hcontracts policy (hperm.subset hpolicy)

/-- The creation that the bindings encode is an allowed one of the kit's deployer. -/
theorem EncodesDeployment.allowed
    (h : EncodesDeployment (deployArgs config credentialId publicKey map) create)
    (hconstructor : RelayerProxy.OnePasskeyConstructor create.constructorArgs (hash credentialId))
    (hsponsors : RelayerProxy.SponsorsKit sdk env config) :
    RelayerProxy.AllowedDeploy sdk env create (.account config.deployerKey) := by
  obtain ⟨hashes, text, hhashes, hnormal, hmem⟩ := hsponsors.code
  obtain ⟨wasmHash, hexecutable, hwasm⟩ := h.executable
  obtain ⟨deployer, hdeployer, hpreimage⟩ := h.preimage
  have hown : (ScAddress.account config.deployerKey).toStrkey = some config.deployerPublicKey := rfl
  have hsame : deployer = .account config.deployerKey := ScAddress.toStrkey_inj hdeployer hown
  have hhex : toHex wasmHash.1 = text := Option.some.inj (hwasm.symm.trans hnormal)
  refine ⟨⟨hashes, wasmHash, hhashes, hexecutable, ?_⟩, hash credentialId, ?_, hconstructor⟩
  · rw [hhex]
    exact hmem
  · rw [hpreimage, hsame]
    rfl

/-- A shared deployment that is built is signed by the shared deployer. -/
theorem run_buildDeployTransaction_shared {t : History WalletEnvironment}
    {deployment : DeployTransaction}
    (h : Program.Run (buildDeployTransaction config credentialId publicKey policies) t
      (.ok deployment)) (hauth : isAuthEntryDeployment deployment = true) :
    ∃ create credentials root,
      deployment = .authEntry (.createContractV2 create) [⟨.address credentials, root⟩] ∧
      AuthorizesCreation config.deployerKey create credentials root := by
  obtain ⟨_, -, h⟩ := Program.run_ofExcept_bind_ok.mp h
  obtain ⟨map, -, h⟩ := Program.run_ofExcept_bind_ok.mp h
  obtain ⟨tx, t₁, t₂, rfl, -, h⟩ := Program.run_bind_ok.mp h
  -- a kit with a deployer of its own gives the assembled transaction
  split_ifs at h with hshared
  · exact run_signSharedDeployment_ok h
  · rw [Except.ok.inj (Program.run_pure.mp h).2] at hauth
    exact absurd hauth (by simp [isAuthEntryDeployment])

end built

/-- The proxy admits every deployment that the kit builds for the shared deployer. -/
theorem proxy_admits_built {config : WalletConfig} {credentialId publicKey : Bytes}
    {policies : Option (List PolicyConfig)} {deployment : DeployTransaction}
    {t : History WalletEnvironment} {sdk : RelayerProxy.ProxySdk} {env : RelayerProxy.ProxyEnv}
    (hid : credentialId ≠ []) (hlength : publicKey.length = 65) (hhead : publicKey.head? = some 4)
    (hverifier : isValidContract config.webauthnVerifierAddress = true)
    (hcontracts : ∀ policy ∈ policies.getD [], isValidContract policy.address = true)
    (hdistinct : ((policies.getD []).map (·.address)).Nodup)
    (hbindings : BindingsEncode EncodesDeployment t)
    (hsponsors : RelayerProxy.SponsorsKit sdk env config)
    (hrun : Program.Run (buildDeployTransaction config credentialId publicKey policies) t
      (.ok deployment))
    (hauth : isAuthEntryDeployment deployment = true) :
    ∃ create credentials root,
      prepareDeploymentArtifacts deployment = pure
        { signedTransaction := none
          relayerPayload := some (.createContractV2 create, [⟨.address credentials, root⟩]) } ∧
      (RelayerProxy.ReadsPayload sdk create credentials root →
        RelayerProxy.AdmitsDeployment sdk env
          (toBase64 (HostFunction.createContractV2 create).toXDR)
          [toBase64 (addressEntryXDR credentials root)]) := by
  obtain ⟨create, credentials, root, hdeployment, hsigned⟩ :=
    run_buildDeployTransaction_shared hrun hauth
  obtain ⟨map, tx, hmap, hsimulated, hfunc⟩ := run_buildDeployTransaction_ok hrun
  obtain ⟨create', hcreates, hencodes⟩ := hbindings _ _ hsimulated
  -- the operation that was simulated is the one that is sent
  have hsame : create = create' := by
    have hboth := hfunc.trans hcreates.func
    rw [hdeployment] at hboth
    exact HostFunction.createContractV2.inj (Option.some.inj hboth)
  have hmapContracts : ∀ e ∈ map, isValidContract e.1 = true := by
    intro e he
    have hkeys := buildConstructorPolicies_addresses hdistinct hmap
    have hmem : e.1 ∈ (policies.getD []).map (·.address) :=
      hkeys.subset (List.mem_map_of_mem he)
    obtain ⟨policy, hpolicy, haddress⟩ := List.mem_map.mp hmem
    rw [← haddress]
    exact hcontracts policy hpolicy
  have hconstructor := hencodes.onePasskey hid hlength hhead hverifier hmapContracts
  have hallowed := hencodes.allowed hconstructor hsponsors
  rw [← hsame] at hallowed
  refine ⟨create, credentials, root, by rw [hdeployment]; rfl, fun hreads => ?_⟩
  have hdecode : RelayerProxy.decodeFuncBody sdk
      (toBase64 (HostFunction.createContractV2 create).toXDR)
      [toBase64 (addressEntryXDR credentials root)] =
      .ok (.createContractV2 create, [⟨.address credentials, root⟩]) := by
    unfold RelayerProxy.decodeFuncBody
    simp [hreads.func, hreads.entry]
  refine ⟨?_, create, _, hdecode,
    RelayerProxy.validateFuncDeploy_of hallowed hsponsors.deployer hsigned⟩
  apply RelayerProxy.parseSubmissionBody_funcBodyText
  · exact toBase64_ne_empty (HostFunction.toXDR_ne_nil _)
  · exact List.cons_ne_nil _ _
  · intro entry hentry
    rw [List.mem_singleton.mp hentry]
    exact toBase64_ne_empty (xdrU32_append_ne_nil 1 _)
  · show 1 ≤ 8
    omega

/-! ## A sample deployment -/

/-- The creation of the sample wallet with two policies, and its authorization. -/
def sampleSharedCreation : CreateContractArgsV2 := samplePolicyCreation

def sampleSharedRoot : SorobanAuthorizedInvocation :=
  .node (.createContractV2HostFn sampleSharedCreation) []

/-- Its simulation. -/
def sampleSharedTransaction : AssembledTransaction :=
  { operations := some [.invokeHostFunction none (.createContractV2 sampleSharedCreation) []]
    simulatedAuth := .ok [⟨.sourceAccount, sampleSharedRoot⟩]
    latestLedger := some 100 }

/-- The credentials of the deployer, unsigned and signed. -/
def sampleSharedCredentials (signature : ScVal) : SorobanAddressCredentials :=
  { address := sampleAccount 4, nonce := 7, signatureExpirationLedger := 820, signature := signature }

def sampleSharedSignature : ScVal := buildAddressSignatureScVal (List.replicate 32 4) [1]

def sampleSharedPreimage : HashIdPreimage :=
  .sorobanAuthorization (networkId "Sample Network") 7 820 sampleSharedRoot

/-- What is exchanged while the deployment is built. -/
def sampleSharedHistory : History WalletEnvironment :=
  [⟨.simulateDeployment (samplePolicyArgs sampleSharedConfig), .ok sampleSharedTransaction⟩,
    ⟨.randomAuthEntryNonce, (7 : Int64)⟩,
    ⟨.signAuthEntryPreimage sampleSharedPreimage, ([1] : Bytes)⟩]

theorem sampleShared_authorization :
    sharedAuthorization sampleSharedConfig sampleSharedRoot 100 7 =
      .ok (⟨.address (sampleSharedCredentials .void), sampleSharedRoot⟩, sampleSharedPreimage) := by
  have hledger : normalizeSignatureExpirationLedger (.ofU32 820) = .ok 820 :=
    normalizeSignatureExpirationLedger_ofU32 820
  exact buildSignaturePreimage_eq_ok.mpr ⟨_, 820, rfl, hledger, rfl, rfl⟩

theorem sampleShared_run :
    Program.Run (buildDeployTransaction sampleSharedConfig [1] samplePublicKey
        (some samplePolicies))
      sampleSharedHistory (.ok (.authEntry (.createContractV2 sampleSharedCreation)
        [⟨.address (sampleSharedCredentials sampleSharedSignature), sampleSharedRoot⟩])) := by
  have hchecked : checkSharedAuthorization (.createContractV2 sampleSharedCreation)
      sampleSharedRoot sampleSharedConfig.deployerPublicKey (hash [1]) = .ok () := by
    refine except_bind_eq_ok.mpr ⟨(sampleAccount 4, hash [1]), rfl, ?_⟩
    refine throwIf_bind_eq_ok.mpr ⟨not_not.mpr rfl, ?_⟩
    refine except_bind_eq_ok.mpr ⟨sampleAccountId 4, rfl, ?_⟩
    refine throwIf_bind_eq_ok.mpr ⟨not_not.mpr rfl, throwIf_eq_ok.mpr ?_⟩
    simp [sampleSharedRoot, SorobanAuthorizedInvocation.subInvocations]
  refine Program.run_ofExcept_bind_ok.mpr ⟨(), ?_, ?_⟩
  · decide +kernel
  refine Program.run_ofExcept_bind_ok.mpr ⟨_, samplePolicies_build, ?_⟩
  refine Program.run_bind_ok.mpr ⟨sampleSharedTransaction, [_], _, rfl,
    Program.run_await.mpr ⟨_, rfl, rfl⟩, ?_⟩
  refine Program.run_ofExcept_bind_ok.mpr ⟨(.createContractV2 sampleSharedCreation,
    ⟨.sourceAccount, sampleSharedRoot⟩, 100), rfl, ?_⟩
  refine Program.run_ofExcept_bind_ok.mpr ⟨(), hchecked, ?_⟩
  refine Program.run_bind_ok.mpr ⟨(7 : Int64), [_], _, rfl, Program.run_await.mpr ⟨_, rfl, rfl⟩, ?_⟩
  refine Program.run_ofExcept_bind_ok.mpr ⟨_, sampleShared_authorization, ?_⟩
  exact Program.run_bind_ok.mpr ⟨([1] : Bytes), [_], [], rfl, Program.run_await.mpr ⟨_, rfl, rfl⟩,
    Program.run_pure.mpr ⟨rfl, rfl⟩⟩

theorem sampleShared_encodes :
    BindingsEncode EncodesDeployment sampleSharedHistory := by
  intro args tx hmem
  have hfirst : args = samplePolicyArgs sampleSharedConfig ∧ tx = sampleSharedTransaction := by
    simpa [sampleSharedHistory] using hmem
  rw [hfirst.1, hfirst.2]
  exact ⟨sampleSharedCreation, ⟨none, [], rfl⟩,
    (samplePolicyCreation_encodes sampleSharedConfig rfl rfl rfl).toEncodesDeployment⟩

/-- The texts of the payload. -/
def sampleSharedFunc : String := toBase64 (HostFunction.createContractV2 sampleSharedCreation).toXDR

def sampleSharedEntry : String :=
  toBase64 (addressEntryXDR (sampleSharedCredentials sampleSharedSignature) sampleSharedRoot)

/-- An SDK that reads the texts of the payload. -/
def sampleSharedSdk : RelayerProxy.ProxySdk where
  lower := .asciiOnly
  hostFunctionFromXDR text :=
    if text = sampleSharedFunc then some (.createContractV2 sampleSharedCreation) else none
  authorizationEntryFromXDR text :=
    if text = sampleSharedEntry then
      some ⟨.address (sampleSharedCredentials sampleSharedSignature), sampleSharedRoot⟩
    else none
  transactionFromXDR _ _ := none
  publicKeyOfSeed seed := seed
  verify _ _ _ := false
  hasHttpClient := true

/-- A proxy that sponsors the deployments of the sample kit. -/
def sampleSharedEnv : RelayerProxy.ProxyEnv where
  NETWORK := "testnet"
  STELLAR_RPC_URL := "https://soroban-testnet.stellar.org"
  ALLOWED_DEPLOYER_ADDRESSES := some (sampleAccountId 4)
  ALLOWED_DEPLOY_WASM_HASHES := some (toHex (List.replicate 32 13))

theorem sampleShared_sponsored :
    RelayerProxy.SponsorsKit sampleSharedSdk sampleSharedEnv sampleSharedConfig where
  code := by
    have hhashes : RelayerProxy.allowedDeployWasmHashes sampleSharedSdk.lower sampleSharedEnv =
        .ok [toHex (List.replicate 32 13)] :=
      @RelayerProxy.allowedDeployWasmHashes_single _ _ ⟨List.replicate 32 13, rfl⟩ rfl
    have hnormal : normalizeHashHex sampleSharedConfig.accountWasmHash =
        some (toHex (List.replicate 32 13)) :=
      normalizeHashHex_eq_self (isHashHex_toHex ⟨List.replicate 32 13, by simp⟩)
    exact ⟨_, _, hhashes, hnormal, List.mem_singleton.mpr rfl⟩
  deployer := by
    show sampleAccountId 4 ∈ RelayerProxy.csvSet (some (sampleAccountId 4))
    rw [sampleAccountId, RelayerProxy.csvSet_singleton (RelayerProxy.csvItem_encodeCheck _ _)]
    exact List.mem_singleton.mpr rfl

/-- The deployment of the sample wallet with two policies is admitted. -/
theorem proxy_admits_built_sample :
    RelayerProxy.AdmitsDeployment sampleSharedSdk sampleSharedEnv sampleSharedFunc
      [sampleSharedEntry] := by
  have hverifier : isValidContract sampleSharedConfig.webauthnVerifierAddress = true :=
    RelayerProxy.isValidContract_iff.mpr ⟨_, sampleContract_toStrkey 11⟩
  have hvalid : ∀ policy ∈ (some samplePolicies).getD [], isValidContract policy.address = true := by
    intro policy hpolicy
    rcases List.mem_pair.mp hpolicy with rfl | rfl
    · exact RelayerProxy.isValidContract_iff.mpr ⟨_, sampleContract_toStrkey 8⟩
    · exact RelayerProxy.isValidContract_iff.mpr ⟨_, sampleContract_toStrkey 7⟩
  have hdistinct : (((some samplePolicies).getD []).map (·.address)).Nodup :=
    samplePolicies_distinct
  obtain ⟨create, credentials, root, hartifacts, hadmits⟩ := proxy_admits_built
    (List.cons_ne_nil _ _) rfl rfl hverifier hvalid hdistinct sampleShared_encodes
    sampleShared_sponsored sampleShared_run rfl
  -- the payload that is sent is the signed one
  have hpayload : (HostFunction.createContractV2 sampleSharedCreation,
      [(⟨.address (sampleSharedCredentials sampleSharedSignature), sampleSharedRoot⟩ :
        SorobanAuthorizationEntry)]) =
      (HostFunction.createContractV2 create, [⟨.address credentials, root⟩]) := by
    have hok := Except.ok.inj (Program.done.inj hartifacts)
    exact Option.some.inj (DeploymentArtifacts.mk.inj hok).2
  rw [Prod.mk.injEq, HostFunction.createContractV2.injEq, List.cons.injEq,
    SorobanAuthorizationEntry.mk.injEq, SorobanCredentials.address.injEq] at hpayload
  obtain ⟨hcreate, ⟨hcredentials, hroot⟩, -⟩ := hpayload
  rw [← hcreate, ← hcredentials, ← hroot] at hadmits
  have hfunc : sampleSharedSdk.hostFunctionFromXDR sampleSharedFunc =
      some (.createContractV2 sampleSharedCreation) := by simp [sampleSharedSdk]
  have hentry : sampleSharedSdk.authorizationEntryFromXDR sampleSharedEntry =
      some ⟨.address (sampleSharedCredentials sampleSharedSignature), sampleSharedRoot⟩ := by
    simp [sampleSharedSdk]
  exact hadmits ⟨hfunc, hentry⟩

end SmartAccountKit
