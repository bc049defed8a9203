import SmartAccountKit.Deployment

/-!
# Credentials and new wallets

The manager creates, deploys, syncs and deletes stored credentials. A new wallet
is deployed for a new credential in one call.
-/

namespace SmartAccountKit
open Lib

/-! ## Reading the records -/

/-- Whether a record has the facts of a verified deployment. -/
def hasVerifiedBirth (credential : StoredCredential) : Bool :=
  credential.deploymentStatus = some .deployed ∧ credential.birthWasmHash.isSome ∧
    credential.creationTransactionHash.isSome ∧ credential.creationLedger.isSome ∧
    credential.birthConstructorArgsHash.isSome

/-- The verified record of a contract. -/
def getVerifiedCredential (store : CredentialStore) (contractId : String) :
    Option StoredCredential :=
  (store.getByContract contractId).find? hasVerifiedBirth

/-- The record of a credential, or an error. -/
def requireCredential (credentialId : String) : WalletProgram StoredCredential := do
  match ← Program.await (.getCredential credentialId) .ok with
  | some credential => return credential
  | none =>
    Program.throw (JsError.plain ("Credential " ++ credentialId ++ " not found in storage"))

/-! ## Deploying -/

/-- How a deployment is made and submitted. -/
structure DeployOptions where
  autoSubmit : Bool := false
  forceMethod : Option SubmissionMethod := none
  policies : Option (List PolicyConfig) := none

/-- What a deployment returns. -/
structure DeployedWallet where
  credentialId : String
  contractId : String
  artifacts : DeploymentArtifacts
  submitResult : Option DeploymentResult

/-- Whether a submission was made and succeeded. -/
def DeployedWallet.succeeded (deployed : DeployedWallet) : Bool :=
  match deployed.submitResult with
  | some (.success _ _) => true
  | _ => false

/-- Submit the deployment, if that is asked for. -/
def submitIfAsked (config : WalletConfig) (options : DeployOptions) (deployTx : DeployTransaction)
    (artifacts : DeploymentArtifacts) (credentialId : String) :
    WalletProgram (Option DeploymentResult) :=
  if options.autoSubmit then do
    return some (← submitDeploymentTx config deployTx artifacts.signedTransaction credentialId
      options.forceMethod)
  else return none

/-- Build the deployment, store its birth facts, and submit it. -/
def deployCredential (config : WalletConfig) (credentialId : String) (publicKey : Bytes)
    (contractId : String) (options : DeployOptions) : WalletProgram DeployedWallet := do
  let deployTx ← buildDeployTransaction config (fromBase64 credentialId) publicKey
    (options.policies.or config.expectedPolicies)
  let descriptor ← Program.ofExcept (describeDeploymentBirth deployTx)
  Program.await (.updateCredential credentialId descriptor.updates) .ok
  let artifacts ← prepareDeploymentArtifacts deployTx
  let submitResult ← submitIfAsked config options deployTx artifacts credentialId
  return { credentialId, contractId, artifacts, submitResult }

/-- The address that the kit derives for a credential. -/
def derivedContractId (config : WalletConfig) (credentialId : String) : Except JsError String :=
  deriveContractAddress (fromBase64 credentialId) config.deployerPublicKey config.networkPassphrase

/-- Connect after a submission that succeeded. -/
def connectDeployed (deployed : DeployedWallet) : WalletProgram Unit :=
  if deployed.succeeded then do
    Program.await (.setConnectedState deployed.contractId deployed.credentialId) .ok
    Program.await (.emit (.walletConnected deployed.contractId deployed.credentialId)) id
  else return ()

/-! ## The credential manager -/

namespace CredentialManager

/-- Create a passkey, save it and tell the listeners. -/
def create : WalletProgram StoredCredential := do
  let passkey ← Program.await .createPasskey id
  let storedCredential : StoredCredential :=
    { credentialId := passkey.credentialId
      publicKey := passkey.publicKey
      contractId := ""
      isPrimary := some true
      deploymentStatus := some .pending }
  Program.await (.saveCredential storedCredential) .ok
  Program.await (.emit (.credentialCreated storedCredential)) id
  return storedCredential

/-- Deploy a wallet for a stored credential. -/
def deploy (config : WalletConfig) (credentialId : String) (options : DeployOptions) :
    WalletProgram DeployedWallet := do
  let credential ← requireCredential credentialId
  let contractId ← Program.ofExcept (derivedContractId config credentialId)
  let deployed ← deployCredential config credentialId credential.publicKey contractId options
  connectDeployed deployed
  return deployed

def unverifiedOccupancy : CredentialUpdates :=
  { deploymentStatus := some .occupied
    deploymentError := some
      (some "The derived address is occupied, but wallet birth is unverified.") }

/-- Whether the wallet of a record exists. Occupancy without a verified birth is no deployment. -/
def syncCredential (config : WalletConfig) (credential : StoredCredential) (credentialId : String) :
    WalletProgram Bool := do
  let derived ← Program.ofExcept (derivedContractId config credentialId)
  let _ ← Program.await
    (.getContractData ((nonEmptyText (some credential.contractId)).getD derived)) id
  if hasVerifiedBirth credential then return true
  else do
    Program.await (.updateCredential credentialId unverifiedOccupancy) .ok
    return false

/-- Sync a record with the chain. Any failure is an absent wallet. -/
def sync (config : WalletConfig) (credentialId : String) : WalletProgram Bool := do
  let credential ← requireCredential credentialId
  match ← (Program.attempt (syncCredential config credential credentialId) :
      WalletProgram (Except JsError _)) with
  | .ok exists? => return exists?
  | .error _ => return false

/-- The counts of a sync of all records. -/
structure SyncCounts where
  deployed : ℕ
  pending : ℕ
  failed : ℕ

/-- Count a record by whether its wallet exists, and by its status before. -/
def SyncCounts.count (counts : SyncCounts) (exists? : Bool) (credential : StoredCredential) :
    SyncCounts :=
  if exists? then { counts with deployed := counts.deployed + 1 }
  else if credential.deploymentStatus = some .failed then
    { counts with failed := counts.failed + 1 }
  else { counts with pending := counts.pending + 1 }

def syncAll (config : WalletConfig) : WalletProgram SyncCounts := do
  let all ← Program.await .getAllCredentials .ok
  Program.forEach all { deployed := 0, pending := 0, failed := 0 } fun counts credential => do
    let exists? ← sync config credential.credentialId
    return counts.count exists? credential

/-- Delete a record whose wallet does not exist. -/
def delete (config : WalletConfig) (credentialId : String) : WalletProgram Unit := do
  let _ ← requireCredential credentialId
  let isDeployed ← sync config credentialId
  if isDeployed then
    Program.throw (JsError.plain "Cannot delete a deployed credential. The wallet exists on-chain.")
  else Program.await (.deleteCredential credentialId) .ok

end CredentialManager

/-! ## New wallets -/

/-- Refuse a submission that only the shared deployer could pay for. -/
def checkSubmission (config : WalletConfig) (options : DeployOptions) : Except JsError Unit :=
  let method := getSubmissionMethod config.hasRelayer options.forceMethod
  if options.autoSubmit ∧ (method = .rpc ∨ method = .relayer ∧ !config.hasRelayer) ∧
      config.usingSharedDeployer then
    .error (sharedDeployerFeeError config.deployerPublicKey)
  else .ok ()

/-- Connect and save the session after a submission that succeeded. -/
def startSession (config : WalletConfig) (deployed : DeployedWallet) : WalletProgram Unit :=
  if deployed.succeeded then do
    Program.await (.setConnectedState deployed.contractId deployed.credentialId) .ok
    Program.await (.emit (.walletConnected deployed.contractId deployed.credentialId)) id
    let now ← Program.await .dateNow .ok
    Program.await (.saveSession
      { contractId := deployed.contractId
        credentialId := deployed.credentialId
        expiresAt := some (.ofNat (now + config.sessionExpiryMs)) }) .ok
  else return ()

/-- Whether a new wallet is funded, and from which token contract. -/
structure FundOptions where
  autoFund : Bool := false
  nativeTokenContract : Option String := none

/-- Fund the wallet after a submission that succeeded, if that is asked for. -/
def fundIfAsked (deployed : DeployedWallet) (options : FundOptions) :
    WalletProgram (Option TransactionResult) :=
  if options.autoFund ∧ deployed.succeeded then
    match nonEmptyText options.nativeTokenContract with
    | some nativeTokenContract => do
      return some (← Program.await (.fundWallet nativeTokenContract) id)
    | none => return some (.failure
        (JsError.validation "nativeTokenContract is required for autoFund"))
  else return none

/-- Create a passkey, and deploy a wallet for it. -/
def createWallet (config : WalletConfig) (options : DeployOptions) (fundOptions : FundOptions) :
    WalletProgram (DeployedWallet × Option TransactionResult) := do
  Program.ofExcept (checkSubmission config options)
  Program.ofExcept (assertKnownAuthDigestScheme config.authDigestSchemes config.accountWasmHash
    "accountWasmHash")
  let _ ← Program.ofExcept (constructorPolicies (options.policies.or config.expectedPolicies))
  let passkey ← Program.await .createPasskey id
  let contractId ← Program.ofExcept (derivedContractId config passkey.credentialId)
  let storedCredential : StoredCredential :=
    { credentialId := passkey.credentialId
      publicKey := passkey.publicKey
      contractId := contractId
      isPrimary := some true
      deploymentStatus := some .pending }
  Program.await (.saveCredential storedCredential) .ok
  Program.await (.emit (.credentialCreated storedCredential)) id
  let deployed ← deployCredential config passkey.credentialId passkey.publicKey contractId options
  startSession config deployed
  let fundResult ← fundIfAsked deployed fundOptions
  return (deployed, fundResult)

end SmartAccountKit
