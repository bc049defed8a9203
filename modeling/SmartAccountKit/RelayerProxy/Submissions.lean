import SmartAccountKit.Lib.Program
import SmartAccountKit.Lib.Base64
import SmartAccountKit.RelayerProxy.Environment

/-!
# The submissions that the relayer proxy sponsors

A submission is a host function with its authorization entries, or a signed
envelope. The proxy decodes it, checks its shape against its allowlists, and
simulates it under its fee ceilings before it uses a key of the relayer.
-/

namespace SmartAccountKit.RelayerProxy
open Lib Program

/-! ## Bodies -/

inductive SubmissionBody where
  | xdr (xdr : String)
  | func (func : String) (auth : List String)

def MAX_AUTH_ENTRIES : ℕ := 8

/-- The text of a field that is a text and not empty. -/
def nonEmptyText? : Option JsonValue → Option String
  | some (.string text) => if text = "" then none else some text
  | _ => none

/-- The items of a field that is a list of texts, neither it nor one of them empty. -/
def nonEmptyTexts? : Option JsonValue → Option (List String)
  | some (.array items) =>
    if items.isEmpty then none else items.mapM fun item => nonEmptyText? (some item)
  | _ => none

def parseSubmissionBody (text : String) : Except ProxyError SubmissionBody :=
  match parseJson text with
  | none => .error (refuse "Invalid JSON body")
  | some (.object fields) =>
    let body := JsonValue.object fields
    let keys := fields.map Prod.fst
    match nonEmptyText? (body.field "xdr"), nonEmptyText? (body.field "func"),
      nonEmptyTexts? (body.field "auth") with
    | some _, some _, some _ =>
      .error (refuse "Request must include 'xdr' OR ('func' and 'auth'), not both")
    | some xdr, _, _ =>
      if keys.any fun key => key ≠ "xdr" then
        .error (refuse "The xdr mode accepts only the 'xdr' field")
      else .ok (.xdr xdr)
    | none, some func, some auth =>
      if keys.any fun key => key ≠ "func" && key ≠ "auth" then
        .error (refuse "The func mode accepts only 'func' and 'auth'")
      else if auth.length > MAX_AUTH_ENTRIES then
        .error (refuse ("At most " ++ toString MAX_AUTH_ENTRIES ++ " auth entries are allowed"))
      else .ok (.func func auth)
    | none, _, _ => .error (refuse "Request must include 'xdr' OR ('func' and 'auth')")
  | some _ => .error (refuse "Request body must be a JSON object")

/-! ## Addresses -/

/-- `Address.fromScAddress(address).toString()`. -/
def addressText (address : ScAddress) : Except ProxyError String :=
  match address.toStrkey with
  | some text => .ok text
  | none => .error (.other ("Unsupported address type: " ++ address.switchName))

/-- The text of a contract address. Every other address is refused. -/
def contractIdOf (address : ScAddress) (message : String) : Except ProxyError String :=
  if address.switchName ≠ "scAddressTypeContract" then .error (refuse message 403)
  else addressText address

/-- The text of a contract or account address. -/
def accountOrContractIdOf (address : ScAddress) (message : String) : Except ProxyError String :=
  let type := address.switchName
  if type ≠ "scAddressTypeAccount" ∧ type ≠ "scAddressTypeContract" then
    .error (refuse message 403)
  else addressText address

/-! ## Allowed contracts -/

/-- The executable of the contract instance that a ledger entry holds. -/
def instanceExecutable : Except String (Option ScVal) → Option (Option ContractExecutable)
  | .ok none => some none
  | .ok (some (.contractInstance executable _)) => some (some executable)
  | _ => none

/-- The executable of a contract, read from the ledger. A contract that is not found has none. -/
def readExecutable (contractId message : String) :
    Program ProxyServices ProxyError (Option ContractExecutable) :=
  if isValidContract contractId then
    .await (I := ProxyServices) (.getLedgerEntry contractId) fun reply =>
      match instanceExecutable reply with
      | some executable => .ok executable
      | none => .error (refuse message 503)
  else throw (refuse message 503)

def walletContractIsAllowed (sdk : ProxySdk) (env : ProxyEnv) (contractId : String) :
    Program ProxyServices ProxyError Bool :=
  if !isValidContract contractId then pure false
  else if contractId ∈ csvSet env.ALLOWED_WALLET_CONTRACT_IDS then pure true
  else do
    let hashes ← ofExcept (allowedWasmHashes sdk.lower env)
    if hashes = [] then pure false
    else do
      ofExcept (throwIf (env.STELLAR_RPC_URL = "")
        (refuse "STELLAR_RPC_URL is required for wallet verification" 500))
      let executable ← readExecutable contractId "Could not verify wallet contract"
      match executable with
      | some (.wasm wasmHash) => pure (toHex wasmHash.1 ∈ hashes)
      | _ => pure false

def tokenContractIsAllowed (env : ProxyEnv) (contractId : String) :
    Program ProxyServices ProxyError Bool :=
  if contractId ∈ csvSet env.ALLOWED_TOKEN_CONTRACT_IDS then pure true
  else do
    ofExcept (throwIf (env.STELLAR_RPC_URL = "")
      (refuse "STELLAR_RPC_URL is required for token verification" 500))
    let executable ← readExecutable contractId "Could not verify token contract"
    match executable with
    | some .stellarAsset => pure true
    | _ => pure false

/-! ## Invocations -/

mutual

/-- Every call of an invocation tree is one on the contract. -/
def validateAuthorizedInvocation (contractId : String) :
    SorobanAuthorizedInvocation → Except ProxyError Unit
  | .node (.contractFn args) subInvocations => do
    let invokedContract ← contractIdOf args.contractAddress "Auth entry target must be a contract"
    throwIf (invokedContract ≠ contractId)
      (refuse "Auth entry targets a non-allowlisted contract" 403)
    validateSubInvocations contractId subInvocations
  | .node _ _ => .error (refuse "Auth entries may authorize only wallet contract calls" 403)

def validateSubInvocations (contractId : String) :
    List SorobanAuthorizedInvocation → Except ProxyError Unit
  | [] => .ok ()
  | child :: rest => do
    validateAuthorizedInvocation contractId child
    validateSubInvocations contractId rest

end

/-- The wallet that an authorization entry is for. -/
def walletAuthAddress (entry : SorobanAuthorizationEntry) : Except ProxyError String :=
  let message := "Auth credential address must be an account or contract"
  match entry.credentials with
  | .address credentials => accountOrContractIdOf credentials.address message
  | .addressV2 credentials => accountOrContractIdOf credentials.address message
  | _ => .error (refuse "Only address credentials are allowed for wallet auth" 403)

/-- The contract call of a function. -/
def SorobanAuthorizedFunction.contractFn? : SorobanAuthorizedFunction → Option InvokeContractArgs
  | .contractFn args => some args
  | _ => none

/-- The contract creation of a function. -/
def SorobanAuthorizedFunction.createContractV2HostFn? :
    SorobanAuthorizedFunction → Option CreateContractArgsV2
  | .createContractV2HostFn args => some args
  | _ => none

/-- The root of an entry is the given call, byte for byte. -/
def SorobanAuthorizationEntry.calls (entry : SorobanAuthorizationEntry) (invoke : InvokeContractArgs) :
    Bool :=
  (SorobanAuthorizedFunction.contractFn? entry.rootInvocation.function).any fun args =>
    args.toXDR = invoke.toXDR

/-- The root of an entry is the given contract creation, byte for byte. -/
def SorobanAuthorizationEntry.creates (entry : SorobanAuthorizationEntry)
    (deploy : CreateContractArgsV2) : Bool :=
  (SorobanAuthorizedFunction.createContractV2HostFn? entry.rootInvocation.function).any fun args =>
    args.toXDR = deploy.toXDR

/-! ## Calls -/

/-- One entry of a wallet call. -/
def validateWalletEntry (contractId : String) (invoke : InvokeContractArgs)
    (entry : SorobanAuthorizationEntry) : Except ProxyError Unit := do
  let signer ← walletAuthAddress entry
  throwIf (signer ≠ contractId) (refuse "Auth credential is not for the invoked wallet" 403)
  validateAuthorizedInvocation contractId entry.rootInvocation
  throwIf (SorobanAuthorizationEntry.calls entry invoke = false)
    (refuse "Auth root invocation does not match func" 403)

def validateWalletInvocation (sdk : ProxySdk) (env : ProxyEnv) (invoke : InvokeContractArgs)
    (auth : List SorobanAuthorizationEntry) : Program ProxyServices ProxyError Unit := do
  let contractId ← ofExcept (contractIdOf invoke.contractAddress
    "Wallet invocation target must be a contract")
  let allowed ← walletContractIsAllowed sdk env contractId
  ofExcept do
    throwIf (allowed = false) (refuse "Wallet contract is not allowlisted" 403)
    throwIf (utf8Decode invoke.functionName ∉ allowedWalletFunctions env)
      (refuse "Wallet function is not allowlisted" 403)
    auth.forM (validateWalletEntry contractId invoke)

/-- The credential of a transfer is that of its source. Only then the ledger is read. -/
def transferWalletIsAllowed (sdk : ProxySdk) (env : ProxyEnv) (source wallet : String) :
    Program ProxyServices ProxyError Bool :=
  if wallet ≠ source then pure false else walletContractIsAllowed sdk env wallet

/-- The entry of a token transfer is one of the wallet it comes from. -/
def validateTransferEntry (sdk : ProxySdk) (env : ProxyEnv) (source : String)
    (invoke : InvokeContractArgs) (entry : SorobanAuthorizationEntry) :
    Program ProxyServices ProxyError Unit := do
  let wallet ← ofExcept (walletAuthAddress entry)
  let allowed ← transferWalletIsAllowed sdk env source wallet
  ofExcept (throwIf (allowed = false ∨ entry.rootInvocation.subInvocations ≠ [] ∨
      SorobanAuthorizationEntry.calls entry invoke = false)
    (refuse "Transfer auth does not exactly match func and wallet" 403))

def validateDirectTokenTransfer (sdk : ProxySdk) (env : ProxyEnv) (invoke : InvokeContractArgs)
    (auth : List SorobanAuthorizationEntry) : Program ProxyServices ProxyError Unit := do
  ofExcept (throwIf (auth.length ≠ 1) (refuse "Transfer must contain exactly one auth entry" 403))
  let source ← ofExcept (match invoke.args with
    | [.address source, _, _] => contractIdOf source "Token transfer source must be a contract"
    | _ => .error (refuse "Token transfer has an invalid argument shape" 403))
  forEach auth () fun _ entry => validateTransferEntry sdk env source invoke entry
  let token ← ofExcept (contractIdOf invoke.contractAddress
    "Token transfer target must be a contract")
  let allowed ← tokenContractIsAllowed env token
  ofExcept (throwIf (allowed = false) (refuse "Token contract is not allowed" 403))

/-! ## Deployments -/

/-- The key of one initial policy. -/
def validatePolicyKey (key : ScVal) : Except ProxyError Unit :=
  let message := "Deploy policy key must be a contract address"
  match key with
  | .address address => do
    let _ ← contractIdOf address message
    return ()
  | _ => .error (refuse message 403)

/-- The verifier and key data of the one signer of a constructor. -/
def constructorSigner? : List ScVal → Option (ScAddress × Bytes)
  | [.symbol tag, .address verifier, .bytes keyData] =>
    if utf8Decode tag = "External" then some (verifier, keyData) else none
  | _ => none

/-- The constructor is the one of an account with one passkey. -/
def validateDeployConstructor (constructorArgs : List ScVal) (salt : BytesN 32) :
    Except ProxyError Unit :=
  match constructorArgs with
  | [.vec signers, .map policies] =>
    match signers.getD [] with
    | [.vec signer] =>
      match constructorSigner? (signer.getD []) with
      | some (verifier, keyData) => do
        let _ ← contractIdOf verifier "Deploy initial signer verifier must be a contract"
        throwIf (keyData.length ≤ 65 ∨ keyData.head? ≠ some 0x04)
          (refuse "Deploy initial signer has invalid WebAuthn key data" 403)
        throwIf (hash (keyData.drop 65) ≠ salt)
          (refuse "Deploy salt does not match the signer credential id" 403)
        (policies.getD []).forM fun entry => validatePolicyKey entry.1
      | none => .error (refuse "Deploy initial signer must be External" 403)
    | _ => .error (refuse "Deploy must contain exactly one initial signer" 403)
  | _ => .error (refuse "Deploy constructor has an invalid argument shape" 403)

/-- Check a deployment and return its deployer. -/
def validateDeployFunction (sdk : ProxySdk) (env : ProxyEnv) (func : HostFunction)
    (requireAllowedDeployer : Bool) : Except ProxyError String :=
  match func.createContractV2? with
  | none => .error (refuse "Only createContractV2 deployments are allowed" 403)
  | some deploy =>
    match deploy.executable with
    | .wasm wasmHash => do
      let hashes ← allowedDeployWasmHashes sdk.lower env
      throwIf (toHex wasmHash.1 ∉ hashes) (refuse "Deploy WASM hash is not allowlisted" 403)
      match deploy.contractIdPreimage with
      | .fromAddress address salt => do
        let deployer ← accountOrContractIdOf address
          "Deploy preimage address must be an account or contract"
        throwIf (requireAllowedDeployer = true ∧ deployer ∉ csvSet env.ALLOWED_DEPLOYER_ADDRESSES)
          (refuse "Deploy preimage address is not allowlisted" 403)
        validateDeployConstructor deploy.constructorArgs salt
        return deployer
      | .fromAsset _ => .error (refuse "Deploy must use an address contract-id preimage" 403)
    | _ => .error (refuse "Deploy executable must be approved WASM" 403)

/-- The checks of a deployment that its deployer authorizes. -/
def validateDeployEntry (deploy : CreateContractArgsV2) (deployer : String)
    (entry : SorobanAuthorizationEntry) : Except ProxyError Unit :=
  match entry.credentials with
  | .address credentials => do
    let signer ← accountOrContractIdOf credentials.address
      "Deploy credential address must be an account or contract"
    throwIf (signer ≠ deployer ∨ entry.rootInvocation.subInvocations ≠ [] ∨
        SorobanAuthorizationEntry.creates entry deploy = false)
      (refuse "Deploy auth does not exactly match func and deployer" 403)
  | _ => .error (refuse "Deploy requires V1 address credentials" 403)

/-- The only entry of a deployment. -/
def onlyDeployEntry (auth : List SorobanAuthorizationEntry) :
    Except ProxyError SorobanAuthorizationEntry :=
  match auth with
  | [entry] => .ok entry
  | _ => .error (refuse "Deploy must contain exactly one auth entry" 403)

/-- The checks of a deployment that need no request. -/
def validateFuncDeploy (sdk : ProxySdk) (env : ProxyEnv) (deploy : CreateContractArgsV2)
    (auth : List SorobanAuthorizationEntry) : Except ProxyError Unit := do
  let entry ← onlyDeployEntry auth
  let deployer ← validateDeployFunction sdk env (.createContractV2 deploy) true
  validateDeployEntry deploy deployer entry

/-! ## Simulation -/

/-- Simulate a submission. A failed or restore-needed result is refused, and so is a resource fee
above the ceiling. -/
def simulateWithinFeeCeiling (env : ProxyEnv) (transaction : SimulatedTransaction) :
    Program ProxyServices ProxyError (ℤ × Option SorobanTransactionData) := do
  ofExcept (throwIf (env.STELLAR_RPC_URL = "")
    (refuse "STELLAR_RPC_URL is required for fee validation" 500))
  let answer ← .await (I := ProxyServices) (.simulateTransaction transaction)
    (Except.mapError ProxyError.other)
  ofExcept (match answer with
    | .success minResourceFee transactionData => do
      let fee ← parseBigInt minResourceFee
      let ceiling ← maxResourceFee env
      throwIf (fee > ceiling) (refuse "Resource fee exceeds configured maximum" 413)
      return (fee, transactionData)
    | _ => .error (refuse "Submission simulation failed"))

def SIMULATION_SOURCE : String := "GAAAAAAAAAAAAAAAAAAAAAAAAAAAAAAAAAAAAAAAAAAAAAAAAAAAAWHF"

/-! ## Host functions with their entries -/

/-- The host function and entries of a submission. -/
def decodeFuncBody (sdk : ProxySdk) (func : String) (auth : List String) :
    Except ProxyError (HostFunction × List SorobanAuthorizationEntry) :=
  match sdk.hostFunctionFromXDR func, auth.mapM sdk.authorizationEntryFromXDR with
  | some func, some auth => .ok (func, auth)
  | _, _ => .error (refuse "func/auth contains invalid XDR")

/-- The checks that depend on the host function. -/
def validateHostFunction (sdk : ProxySdk) (env : ProxyEnv) (func : HostFunction)
    (auth : List SorobanAuthorizationEntry) : Program ProxyServices ProxyError Unit :=
  match func with
  | .createContractV2 deploy => ofExcept (validateFuncDeploy sdk env deploy auth)
  | .invokeContract invoke =>
    if utf8Decode invoke.functionName = "transfer" then
      validateDirectTokenTransfer sdk env invoke auth
    else validateWalletInvocation sdk env invoke auth
  | _ => throw (refuse "Only invokeContract and createContractV2 host functions are allowed" 403)

def validateFuncSubmission (sdk : ProxySdk) (env : ProxyEnv) (func : String) (auth : List String) :
    Program ProxyServices ProxyError Unit := do
  let (func, auth) ← ofExcept (decodeFuncBody sdk func auth)
  validateHostFunction sdk env func auth
  let passphrase ← ofExcept (networkPassphrase env)
  let _ ← simulateWithinFeeCeiling env (.built SIMULATION_SOURCE "0" "100" passphrase func auth)
  return ()

/-! ## Signed envelopes -/

/-- The source of a transaction has signed it. -/
def validateSourceSignature (sdk : ProxySdk) (transaction : DecodedTransaction) :
    Except ProxyError Unit :=
  match addressFromString transaction.source with
  | some (.account source) =>
    throwIf (transaction.signatures.any (sdk.verify source transaction.hash) = false)
      (refuse "Deploy transaction lacks a valid source signature" 403)
  | _ => .error (refuse "Deploy transaction source must be a G-address" 403)

/-- The only entry of a deployment envelope has the credentials of its source. -/
def validateXdrDeployAuth (deploy : CreateContractArgsV2)
    (auth : List SorobanAuthorizationEntry) : Except ProxyError Unit := do
  let entry ← onlyDeployEntry auth
  throwIf (entry.credentials.switchName ≠ "sorobanCredentialsSourceAccount")
    (refuse "Signed xdr deploy requires source-account credentials" 403)
  throwIf (entry.rootInvocation.subInvocations ≠ [] ∨
      SorobanAuthorizationEntry.creates entry deploy = false)
    (refuse "Deploy auth does not exactly match the operation" 403)

def DECLARED_RESOURCE_FEE_SLACK_STROOPS : ℤ := 10000

def maxDeclaredResourceFee (minResourceFee : ℤ) : ℤ :=
  2 * minResourceFee + DECLARED_RESOURCE_FEE_SLACK_STROOPS

def keySet (keys : List Bytes) : List String := keys.map toBase64

/-- What the declared data lacks of the simulated data, if it lacks anything. -/
def declaredSorobanDataProblem (declared simulated : SorobanTransactionData)
    (minResourceFee : ℤ) : Option String :=
  let declaredReadWrite := keySet declared.readWrite
  let declaredReadOnly := keySet declared.readOnly
  if declared.resourceFee.toInt > maxDeclaredResourceFee minResourceFee then
    some "Declared resource fee is too far above the simulated minimum"
  else if simulated.readWrite.any fun key => toBase64 key ∉ declaredReadWrite then
    some "Declared footprint is missing a simulated read-write key"
  else if simulated.readOnly.any fun key =>
      toBase64 key ∉ declaredReadOnly ∧ toBase64 key ∉ declaredReadWrite then
    some "Declared footprint is missing a simulated read-only key"
  else none

/-- The transaction of an envelope that is no fee bump. -/
def decodeXdrBody (sdk : ProxySdk) (env : ProxyEnv) (xdr : String) :
    Except ProxyError DecodedTransaction :=
  match (networkPassphrase env).toOption.bind (sdk.transactionFromXDR xdr) with
  | some (.transaction transaction) => .ok transaction
  | _ => .error (refuse "xdr must be a signed transaction envelope")

/-- The only operation of a deployment envelope. -/
def onlyOperation (transaction : DecodedTransaction) : Except ProxyError TransactionOperation :=
  match transaction.operations with
  | [operation] => .ok operation
  | _ => .error (refuse "Deploy transaction must contain exactly one operation" 403)

/-- The operation of a deployment envelope deploys for the source of the transaction. -/
def validateDeployOperation (sdk : ProxySdk) (env : ProxyEnv) (source : String)
    (operation : TransactionOperation) : Except ProxyError Unit :=
  match operation with
  | .other _ _ => .error (refuse "Only invokeHostFunction deploy operations are allowed" 403)
  | .invokeHostFunction operationSource func auth => do
    throwIf ((operationSource.filter (· ≠ "")).any (· ≠ source))
      (refuse "Operation source must match transaction source" 403)
    let deployer ← validateDeployFunction sdk env func false
    throwIf (deployer ≠ source)
      (refuse "Deploy preimage address is not the allowlisted source" 403)
    match func.createContractV2? with
    | some deploy => validateXdrDeployAuth deploy auth
    | none => .error (refuse "Only createContractV2 deployments are allowed" 403)

/-- The checks of an envelope before its simulation. They return the Soroban data it declares. -/
def validateEnvelope (sdk : ProxySdk) (env : ProxyEnv) (transaction : DecodedTransaction) :
    Except ProxyError SorobanTransactionData := do
  throwIf (transaction.source = SHARED_DEPLOYER sdk)
    (refuse "Shared deployer may not source signed xdr" 403)
  let totalCeiling ← maxTotalFee env
  throwIf ((transaction.fee : ℤ) > totalCeiling)
    (refuse "Transaction fee exceeds configured maximum" 413)
  let operation ← onlyOperation transaction
  validateSourceSignature sdk transaction
  validateDeployOperation sdk env transaction.source operation
  match transaction.sorobanData with
  | none => .error (refuse "Deploy transaction is missing Soroban resource data")
  | some declared => do
    let ceiling ← maxResourceFee env
    throwIf (declared.resourceFee.toInt > ceiling)
      (refuse "Resource fee exceeds configured maximum" 413)
    return declared

def validateXdrSubmission (sdk : ProxySdk) (env : ProxyEnv) (xdr : String) :
    Program ProxyServices ProxyError Unit := do
  let transaction ← ofExcept (decodeXdrBody sdk env xdr)
  let declared ← ofExcept (validateEnvelope sdk env transaction)
  let (minResourceFee, simulated) ← simulateWithinFeeCeiling env (.decoded transaction)
  ofExcept (match simulated with
    | none => .error (refuse "Submission simulation returned no resource data")
    | some simulated =>
      match declaredSorobanDataProblem declared simulated minResourceFee with
      | some problem => .error (refuse problem)
      | none => .ok ())

def validateSubmission (sdk : ProxySdk) (env : ProxyEnv) :
    SubmissionBody → Program ProxyServices ProxyError Unit
  | .xdr xdr => validateXdrSubmission sdk env xdr
  | .func func auth => validateFuncSubmission sdk env func auth

end SmartAccountKit.RelayerProxy
