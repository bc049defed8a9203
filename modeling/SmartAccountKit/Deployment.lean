import SmartAccountKit.Connection
import SmartAccountKit.MultiSigner

/-!
# Deploying a wallet

A deployment is built with the bindings' contract client, and submitted by a
relayer or over the network. What became of it is written into the record of
its credential.
-/

namespace SmartAccountKit
open Lib

/-- The settings of a kit that deploys and connects wallets. -/
structure WalletConfig extends ConnectionConfig where
  accountWasmHash : String
  authDigestSchemes : List (String × AuthDigestScheme)
  usingSharedDeployer : Bool
  hasRelayer : Bool

/-! ## The creation of a deployment -/

/-- The host function of a deployment with one operation. -/
def DeployTransaction.func? : DeployTransaction → Option HostFunction
  | authEntry func _ => some func
  | assembled tx =>
    match tx.operations with
    | some [operation] => operation.func?
    | _ => none

def isAuthEntryDeployment : DeployTransaction → Bool
  | .authEntry _ _ => true
  | .assembled _ => false

/-- The creation of a deployment, or an error with a message. -/
def deploymentCreation (deployment : DeployTransaction) (message : String) :
    Except JsError CreateContractArgsV2 :=
  match deployment.func?.bind HostFunction.createContractV2? with
  | some create => .ok create
  | none => .error (JsError.submission message)

/-- The birth facts of the exact deployment operation. -/
structure DeploymentBirthDescriptor where
  birthWasmHash : String
  birthConstructorArgsHash : String

def describeDeploymentBirth (deployment : DeployTransaction) :
    Except JsError DeploymentBirthDescriptor := do
  let create ← deploymentCreation deployment
    "Deployment does not contain one CreateContractV2 operation"
  match create.executable with
  | .wasm wasmHash => return {
      birthWasmHash := toHex wasmHash.1
      birthConstructorArgsHash := constructorArgsHash create.constructorArgs }
  | _ => throw (JsError.submission "Deployment does not create a WASM contract")

/-- The update that stores a descriptor. -/
def DeploymentBirthDescriptor.updates (descriptor : DeploymentBirthDescriptor) :
    CredentialUpdates :=
  { birthWasmHash := some descriptor.birthWasmHash
    birthConstructorArgsHash := some descriptor.birthConstructorArgsHash }

def deploymentCreateArgs (deployment : DeployTransaction) : Except JsError CreateContractArgsV2 :=
  deploymentCreation deployment "Deployment does not contain CreateContractV2"

/-! ## Confirmation -/

/-- The creations of a transaction that are the expected one. -/
def expectedCreations (expected : CreateContractArgsV2) (tx : DecodedTransaction) :
    List CreateContractArgsV2 :=
  (tx.operations.filterMap TransactionOperation.createContractV2?).filter fun create =>
    create.toXDR == expected.toXDR

/-- The ledger and the envelope of the transaction, if it succeeded at the ledger that is known. -/
def confirmedTransaction (response : GetTransactionResponse) (transactionHash : String)
    (ledger : Option JsNumber) : Except JsError (JsNumber × Except JsError DecodedEnvelope) :=
  match response with
  | .success responseLedger envelope =>
    if ledger.any fun ledger => !responseLedger.strictEquals ledger then
      .error (JsError.submissionWithHash
        "The confirmed deployment transaction is unavailable or has the wrong ledger"
        transactionHash)
    else .ok (responseLedger, envelope)
  | _ => .error (JsError.submissionWithHash
      "The confirmed deployment transaction is unavailable or has the wrong ledger"
      transactionHash)

/-- The envelope is that of the transaction and makes the expected creation once. -/
def checkConfirmedEnvelope (deployment : DeployTransaction) (transactionHash : String)
    (envelope : DecodedEnvelope) : Except JsError Unit := do
  throwIf (toHex envelope.hash.1 ≠ transactionHash.map Char.toLower)
    (JsError.submissionWithHash "The confirmed deployment envelope has the wrong transaction hash"
      transactionHash)
  let expected ← deploymentCreateArgs deployment
  throwIf ((expectedCreations expected envelope.innerTransaction).length ≠ 1)
    (JsError.submissionWithHash
      "The confirmed transaction does not contain the expected wallet deployment" transactionHash)

/-- The ledger of the transaction that deployed the wallet. -/
def confirmSubmittedDeployment (deployment : DeployTransaction) (transactionHash : String)
    (ledger : Option JsNumber) : WalletProgram JsNumber := do
  let response ← Program.await (.getTransaction transactionHash) id
  let (responseLedger, envelope) ← Program.ofExcept
    (confirmedTransaction response transactionHash ledger)
  let envelope ← Program.ofExcept envelope
  Program.ofExcept (checkConfirmedEnvelope deployment transactionHash envelope)
  return responseLedger

def requireCreationLedger (value : Option JsNumber) : Except JsError JsNumber :=
  match value with
  | some ledger =>
    if !ledger.isSafeInteger ∨ ledger.lt (.ofNat 1) then
      .error (JsError.submission
        "The confirmed deployment did not return a valid creation ledger")
    else .ok ledger
  | none => .error (JsError.submission
      "The confirmed deployment did not return a valid creation ledger")

/-! ## Submission -/

/-- What a deployment is submitted with: the authorization for a relayer, or a signed envelope. -/
structure DeploymentArtifacts where
  signedTransaction : Option SignedTransaction
  relayerPayload : Option (HostFunction × List SorobanAuthorizationEntry)

def prepareDeploymentArtifacts (deployment : DeployTransaction) :
    WalletProgram DeploymentArtifacts :=
  match deployment with
  | .authEntry func auth => return { signedTransaction := none, relayerPayload := some (func, auth) }
  | .assembled tx => do
    match ← Program.await (.signWithDeployer tx) id with
    | some signed => return { signedTransaction := some signed, relayerPayload := none }
    | none => Program.throw (JsError.plain "Failed to sign deployment transaction")

/-- Refusal for any shared-deployer route without relayer-sourced `{func,auth}`. -/
def sharedDeployerFeeError (deployerPublicKey : String) : JsError :=
  JsError.submission ("Refusing to source a smart-account deployment from the shared default " ++
    "deployer " ++ deployerPublicKey ++ ". It is sign-only: it may sign the deploy " ++
    "authorization entry, but must never provide the transaction sequence or " ++
    "fees. Configure a \x60relayerUrl\x60, or set a dedicated " ++
    "\x60deployerSecret\x60 you control.")

def getSubmissionMethod (hasRelayer : Bool) (forceMethod : Option SubmissionMethod) :
    SubmissionMethod :=
  match forceMethod with
  | some method => method
  | none => if hasRelayer then .relayer else .rpc

/-- Why a deployment failed: its confirmation did not succeed, or another error. A confirmation
leaves the deployment failed or pending, and may know the transaction hash. -/
inductive DeploymentError where
  | confirmation (failed : Bool) (hash : Option String)
  | other (error : JsError)

/-- The error that is thrown. -/
def DeploymentError.error : DeploymentError → JsError
  | confirmation true _ => JsError.plain "Transaction failed on-chain"
  | confirmation false _ => JsError.plain "Transaction confirmation timed out"
  | other error => error

/-- Let an error through. -/
def orOther {α : Type} (x : Except JsError α) : Except DeploymentError α := x.mapError .other

/-- The ledger of a response that confirms a transaction. -/
def confirmedResponse (response : Option PollResponse) (hash : String) :
    Except DeploymentError (Option JsNumber) :=
  match response with
  | some (.success ledger) => .ok ledger
  | some .failed => .error (.confirmation true (some hash))
  | _ => .error (.confirmation false (some hash))

/-- Send a transaction over the network. -/
def sendDeploymentTxViaRpc (tx : AssembledTransaction) (signed : Option SignedTransaction) :
    Program WalletEnvironment DeploymentError (String × Option JsNumber) := do
  match ← Program.await (.sendTransaction tx signed) .ok with
  | .error .stillPending => Program.throw (.confirmation false (signed.map (·.hash)))
  | .error (.other error) => Program.throw (.other error)
  | .ok sent =>
    match nonEmptyText sent.hash with
    | none => Program.throw (.other (JsError.plain "Transaction submission returned no hash"))
    | some hashValue => do
      let ledger ← Program.ofExcept (confirmedResponse sent.response hashValue)
      return (hashValue, ledger)

/-- An answer of the relayer that refuses, as an error. -/
def refused (relayerResult : RelayerResponse) : DeploymentError :=
  .other (JsError.plain (relayerResult.error.getD "Relayer submission failed"))

/-- The hash that the relayer gives. -/
def relayerHash (relayerResult : RelayerResponse) : Except DeploymentError String :=
  match nonEmptyText relayerResult.hash with
  | some hash => .ok hash
  | none => .error (.other (JsError.plain "Relayer submission returned no transaction hash"))

/-- An error, with the hash that was known when it was thrown. -/
abbrev SubmissionStop := DeploymentError × Option String

/-- The errors of a part of a submission that runs while a hash is known, or none. -/
def knowing {α : Type} (submittedHash : Option String)
    (p : Program WalletEnvironment DeploymentError α) : Program WalletEnvironment SubmissionStop α :=
  p.mapError fun error => (error, submittedHash)

/-- Poll a submitted transaction until it is confirmed. -/
def pollSubmitted (hash : String) : Program WalletEnvironment DeploymentError (Option JsNumber) := do
  let txResult ← Program.await (.pollTransaction hash) orOther
  Program.ofExcept (confirmedResponse (some txResult) hash)

/-- Give the signed authorization to the relayer. -/
def relayAuthEntry (func : HostFunction) (auth : List SorobanAuthorizationEntry) :
    Program WalletEnvironment SubmissionStop (String × Option JsNumber) := do
  let submittedHash ← knowing none do
    let relayerResult ← Program.await (.relayerSend func auth) orOther
    if relayerResult.success then Program.ofExcept (relayerHash relayerResult)
    else Program.throw (refused relayerResult)
  let ledger ← knowing (some submittedHash) (pollSubmitted submittedHash)
  return (submittedHash, ledger)

/-- Give the signed envelope to the relayer; one that it refuses is sent over the network, unless
the relayer was asked for. -/
def relayEnvelope (tx : AssembledTransaction) (signed : SignedTransaction)
    (forceMethod : Option SubmissionMethod) :
    Program WalletEnvironment SubmissionStop (String × Option JsNumber) := do
  let relayerResult ← knowing none (Program.await (.relayerSendXdr signed) orOther)
  if relayerResult.success then do
    let hashValue ← knowing none (Program.ofExcept (relayerHash relayerResult))
    let ledger ← knowing (some hashValue) (pollSubmitted hashValue)
    return (hashValue, ledger)
  else if forceMethod = some .relayer then Program.throw (refused relayerResult, none)
  else knowing none (sendDeploymentTxViaRpc tx (some signed))

/-- Send the envelope by the method. -/
def sendEnvelope (config : WalletConfig) (tx : AssembledTransaction)
    (signed : Option SignedTransaction) (forceMethod : Option SubmissionMethod) :
    Program WalletEnvironment SubmissionStop (String × Option JsNumber) :=
  match signed with
  | some envelope =>
    if getSubmissionMethod config.hasRelayer forceMethod = .relayer ∧ config.hasRelayer then
      relayEnvelope tx envelope forceMethod
    else knowing none (sendDeploymentTxViaRpc tx (some envelope))
  | none => knowing none (sendDeploymentTxViaRpc tx none)

/-- Send the deployment by its route. -/
def sendDeployment (config : WalletConfig) (deployment : DeployTransaction)
    (signed : Option SignedTransaction) (forceMethod : Option SubmissionMethod) :
    Program WalletEnvironment SubmissionStop (String × Option JsNumber) :=
  match deployment with
  | .authEntry func auth => relayAuthEntry func auth
  | .assembled tx => sendEnvelope config tx signed forceMethod

/-- Confirm a deployment that was sent. -/
def confirmSent (deployment : DeployTransaction) (hashValue : String) (ledger : Option JsNumber) :
    Program WalletEnvironment DeploymentError JsNumber := do
  let confirmedLedger ← (confirmSubmittedDeployment deployment hashValue ledger).mapError .other
  Program.ofExcept (orOther (requireCreationLedger (some confirmedLedger)))

/-- Send the deployment and confirm it. -/
def submitAndConfirm (config : WalletConfig) (deployment : DeployTransaction)
    (signed : Option SignedTransaction) (forceMethod : Option SubmissionMethod) :
    Program WalletEnvironment SubmissionStop (String × JsNumber) := do
  let (hashValue, ledger) ← sendDeployment config deployment signed forceMethod
  let creationLedger ← knowing (some hashValue) (confirmSent deployment hashValue ledger)
  return (hashValue, creationLedger)

/-- The result of a deployment. A failure may know the transaction hash. -/
inductive DeploymentResult where
  | success (hash : String) (ledger : JsNumber)
  | failure (error : JsError) (hash : Option String)

/-- The hash that an error knows, or the submitted one. -/
def SubmissionStop.knownHash : SubmissionStop → Option String
  | (.confirmation _ hash, submittedHash) => nonEmptyText (hash.or submittedHash)
  | (.other _, submittedHash) => nonEmptyText submittedHash

/-- The status that an error leaves a deployment in. -/
def SubmissionStop.deploymentStatus : SubmissionStop → CredentialDeploymentStatus
  | (.confirmation failed _, _) => if failed then .failed else .pending
  | (.other error, submittedHash) =>
    if (knownHash (.other error, submittedHash)).isSome then .pending else .failed

/-- The error of a failed deployment. -/
def deploymentFailure (error : JsError) : JsError :=
  (decodeContractError error.message).getD (error.wrap .CREDENTIAL_DEPLOYMENT_FAILED)

/-- What a submission writes into the record. -/
def submissionUpdates : Except SubmissionStop (String × JsNumber) → CredentialUpdates
  | .ok (hashValue, creationLedger) =>
    { deploymentStatus := some .deployed
      deploymentError := some none
      deploymentTransactionHash := some hashValue
      creationTransactionHash := some hashValue
      creationLedger := some creationLedger }
  | .error stop =>
    { deploymentStatus := some stop.deploymentStatus
      deploymentError := some (some (deploymentFailure stop.1.error).message)
      deploymentTransactionHash := stop.knownHash }

/-- What a submission returns. -/
def submissionResult : Except SubmissionStop (String × JsNumber) → DeploymentResult
  | .ok (hashValue, creationLedger) => .success hashValue creationLedger
  | .error stop => .failure (deploymentFailure stop.1.error) stop.knownHash

/-- The shared deployer deploys through a relayer only, with an authorization entry, and no other
deployer does. -/
def checkRoute (config : WalletConfig) (deployment : DeployTransaction)
    (forceMethod : Option SubmissionMethod) : Except JsError Unit :=
  if config.usingSharedDeployer ∧ (!isAuthEntryDeployment deployment ∨
      getSubmissionMethod config.hasRelayer forceMethod ≠ .relayer ∨ !config.hasRelayer) then
    .error (sharedDeployerFeeError config.deployerPublicKey)
  else if !config.usingSharedDeployer ∧ isAuthEntryDeployment deployment then
    .error (JsError.submission
      "Auth-entry deployment is only valid for the shared default deployer")
  else .ok ()

def submitDeploymentTx (config : WalletConfig) (deployment : DeployTransaction)
    (signed : Option SignedTransaction) (credentialId : String)
    (forceMethod : Option SubmissionMethod) : WalletProgram DeploymentResult := do
  Program.ofExcept (checkRoute config deployment forceMethod)
  let outcome ← Program.attempt (submitAndConfirm config deployment signed forceMethod)
  Program.await (.updateCredential credentialId (submissionUpdates outcome)) .ok
  return submissionResult outcome

/-! ## Building -/

def buildKeyData (publicKey credentialId : Bytes) : Bytes := publicKey ++ credentialId

def LEDGERS_PER_HOUR : ℕ := 720

def createAddressCredentials (credentials : SorobanAddressCredentials) : SorobanCredentials :=
  .address credentials

/-- The policies of a constructor, if there are any. -/
def constructorPolicies (policies : Option (List PolicyConfig)) : Except JsError PolicyMap :=
  match policies.getD [] with
  | [] => .ok []
  | policies => buildConstructorPolicies policies

/-- The operation, the entry and the ledger of a simulated shared deployment. -/
def simulatedDeployment (deployment : AssembledTransaction) :
    Except JsError (HostFunction × SorobanAuthorizationEntry × UInt32) := do
  let discoveredAuth ← deployment.simulatedAuth
  match deployment.operations, discoveredAuth, deployment.latestLedger with
  | some [.invokeHostFunction _ func _], [entry], some latestLedger =>
    return (func, entry, latestLedger)
  | _, _, _ => throw (JsError.submission
      "Shared deploy simulation did not return one create-contract authorization entry")

/-- The arguments of a creation that an entry authorizes. -/
def SorobanAuthorizedFunction.createContractV2HostFn? :
    SorobanAuthorizedFunction → Option CreateContractArgsV2
  | createContractV2HostFn args => some args
  | _ => none

/-- The address and the salt of a preimage; reading them of another arm throws. -/
def preimageAddress : ContractIdPreimage → Except JsError (ScAddress × BytesN 32)
  | .fromAddress address salt => .ok (address, salt)
  | .fromAsset _ => .error (JsError.plain "fromAddress not set")

def wrongDeployer : JsError :=
  JsError.submission "Shared deploy simulation returned authorization for the wrong deployer"

/-- The entry authorizes the operation alone, by the deployer and with the salt. -/
def checkSharedAuthorization (func : HostFunction) (root : SorobanAuthorizedInvocation)
    (deployerPublicKey : String) (salt : BytesN 32) : Except JsError Unit :=
  match root.function.createContractV2HostFn? with
  | none => .error wrongDeployer
  | some authorizedCreate => do
    let (address, authorizedSalt) ← preimageAddress authorizedCreate.contractIdPreimage
    match func.createContractV2? with
    | none => throw wrongDeployer
    | some operationCreate =>
      throwIf (authorizedCreate.toXDR ≠ operationCreate.toXDR) wrongDeployer
      throwIf ((← addressText address) ≠ deployerPublicKey) wrongDeployer
      throwIf (authorizedSalt ≠ salt ∨ root.subInvocations.length ≠ 0) wrongDeployer

/-- The unsigned entry of a shared deployment, and the preimage that its signature is for. -/
def sharedAuthorization (config : WalletConfig) (root : SorobanAuthorizedInvocation)
    (latestLedger : UInt32) (nonce : Int64) :
    Except JsError (SorobanAuthorizationEntry × HashIdPreimage) :=
  let expirationLedger : JsNumber := .ofNat (latestLedger.toNat + LEDGERS_PER_HOUR)
  buildSignaturePreimage config.networkPassphrase
    { credentials := createAddressCredentials
        { address := .account config.deployerKey
          nonce := nonce
          signatureExpirationLedger := UInt32.ofNat (latestLedger.toNat + LEDGERS_PER_HOUR)
          signature := .void }
      rootInvocation := root } expirationLedger

/-- The signed authorization of a shared deployment. -/
def signSharedDeployment (config : WalletConfig) (salt : BytesN 32)
    (deployment : AssembledTransaction) : WalletProgram DeployTransaction := do
  let (func, entry, latestLedger) ← Program.ofExcept (simulatedDeployment deployment)
  Program.ofExcept (checkSharedAuthorization func entry.rootInvocation config.deployerPublicKey salt)
  let nonce ← Program.await .randomAuthEntryNonce .ok
  let (authEntry, preimage) ← Program.ofExcept
    (sharedAuthorization config entry.rootInvocation latestLedger nonce)
  let signature ← Program.await (.signAuthEntryPreimage preimage) .ok
  return .authEntry func
    [authEntry.setSignature (buildAddressSignatureScVal config.deployerKey.1 signature)]

/-- Build the deployment of a wallet for a passkey. -/
def buildDeployTransaction (config : WalletConfig) (credentialId publicKey : Bytes)
    (policies : Option (List PolicyConfig)) : WalletProgram DeployTransaction := do
  Program.ofExcept (assertKnownAuthDigestScheme config.authDigestSchemes config.accountWasmHash
    "accountWasmHash")
  let policies ← Program.ofExcept (constructorPolicies policies)
  let salt := hash credentialId
  let deployment ← Program.await (.simulateDeployment
    { signers := [.external config.webauthnVerifierAddress (buildKeyData publicKey credentialId)]
      policies := policies
      wasmHash := config.accountWasmHash
      deployer := config.deployerPublicKey
      sharedDeployer := config.usingSharedDeployer
      salt := salt }) id
  if config.usingSharedDeployer then signSharedDeployment config salt deployment
  else return .assembled deployment

end SmartAccountKit
