import SmartAccountKit.Lib.Json
import SmartAccountKit.Provenance

/-!
# Connecting to a wallet

A wallet is connected after its code, its birth, its live signer and, for a
candidate that is not approved locally, a fresh assertion have been checked.
-/

namespace SmartAccountKit
open Lib

/-! ## Fresh assertions -/

inductive FreshAssertionFailure where
  | key_id
  | client_data
  | type
  | challenge
  | origin
  | authenticator_data
  | rp_id
  | user_presence
  | user_verification
  | public_key
  | signature
deriving DecidableEq

/-- The text of a reason. -/
def FreshAssertionFailure.name : FreshAssertionFailure → String
  | key_id => "key_id"
  | client_data => "client_data"
  | type => "type"
  | challenge => "challenge"
  | origin => "origin"
  | authenticator_data => "authenticator_data"
  | rp_id => "rp_id"
  | user_presence => "user_presence"
  | user_verification => "user_verification"
  | public_key => "public_key"
  | signature => "signature"

abbrev AssertionStop := Stop FreshAssertionFailure

abbrev FreshAssertionResult := Verdict FreshAssertionFailure Unit

structure FreshAssertionPolicy where
  expectedChallenge : String
  expectedCredentialId : String
  rpId : String
  publicKey : Bytes
  allowedOrigins : List String
  requireUserVerification : Bool := false

/-- The client data says that the assertion answers the challenge, at an allowed origin. -/
def checkClientData (clientDataJSON : Bytes) (policy : FreshAssertionPolicy) :
    Except AssertionStop Unit :=
  match parseJson (utf8Decode clientDataJSON) with
  | none => .error (.fail .client_data "clientDataJSON is not valid JSON")
  | some .null => .error (.thrown (JsError.plain "Cannot read properties of null"))
  | some clientData =>
    if (clientData.field "type").bind JsonValue.text? ≠ some "webauthn.get" then
      .error (.fail .type "clientDataJSON.type is not webauthn.get")
    else if (clientData.field "challenge").bind JsonValue.text? ≠ some policy.expectedChallenge then
      .error (.fail .challenge "the assertion challenge does not match")
    else if policy.allowedOrigins = [] then
      .error (.fail .origin "no allowed WebAuthn origin is configured")
    else
      match (clientData.field "origin").bind JsonValue.text? with
      | some origin =>
        if origin ∈ policy.allowedOrigins then .ok ()
        else .error (.fail .origin "the assertion origin is not allowed")
      | none => .error (.fail .origin "the assertion origin is not allowed")

/-- The authenticator data names the relying party and says that the user was there. -/
def checkAuthenticatorData (authenticatorData : Bytes) (policy : FreshAssertionPolicy) :
    Except AssertionStop Unit :=
  if authenticatorData.length < AUTHENTICATOR_DATA_MIN_SIZE then
    .error (.fail .authenticator_data "authenticatorData is too short")
  else if authenticatorData.take 32 ≠ (hash (utf8Encode policy.rpId)).1 then
    .error (.fail .rp_id "authenticatorData has the wrong rpId hash")
  else if (authenticatorData.getD 32 0 &&& 1) = 0 then
    .error (.fail .user_presence "the User Present flag is not set")
  else if policy.requireUserVerification ∧ (authenticatorData.getD 32 0 &&& 4) = 0 then
    .error (.fail .user_verification "the User Verified flag is not set")
  else if policy.publicKey.length ≠ P256_PUBLIC_KEY_SIZE ∨ policy.publicKey.head? ≠ some 4 then
    .error (.fail .public_key "the public key is not an uncompressed P-256 key")
  else .ok ()

/-- The compact form of the signature of an assertion. -/
def compactAssertionSignature (signature : String) : Except AssertionStop Bytes :=
  match compactSignature (fromBase64 signature) with
  | .error _ => .error (.fail .signature "the DER signature is malformed")
  | .ok signature =>
    if signature.length ≠ 64 then
      .error (.fail .signature "the compact signature is not 64 bytes")
    else .ok signature

/-- Verify the signature of an assertion with the web crypto service. -/
def verifyAssertionSignature (publicKey signature signed : Bytes) :
    Program WalletEnvironment AssertionStop Unit := do
  Program.await (.importKey publicKey) fun imported : Bool =>
    if imported then .ok ()
    else .error (.fail .public_key "WebCrypto rejected the public key")
  Program.await (.verifySignature publicKey signature signed) fun
    | .ok true => .ok ()
    | .ok false => .error (.fail .signature "the P-256 signature does not verify")
    | .error e => .error (.thrown e)

/-- Verify a fresh assertion under a public key. -/
def verifyFreshAssertion (response : FreshAssertion) (policy : FreshAssertionPolicy) :
    WalletProgram FreshAssertionResult :=
  settle do
    if response.id ≠ policy.expectedCredentialId then
      Program.throw (.fail .key_id "the assertion credential id does not match")
    else do
      let clientDataJSON := fromBase64 response.response.clientDataJSON
      Program.ofExcept (checkClientData clientDataJSON policy)
      let authenticatorData := fromBase64 response.response.authenticatorData
      Program.ofExcept (checkAuthenticatorData authenticatorData policy)
      let signature ← Program.ofExcept (compactAssertionSignature response.response.signature)
      verifyAssertionSignature policy.publicKey signature
        (authenticatorData ++ (hash clientDataJSON).1)

/-! ## The birth candidate -/

/-- The settings of a connection. The deployer is given by its key. -/
structure ConnectionConfig where
  networkPassphrase : String
  deployerKey : BytesN 32
  sessionExpiryMs : ℕ
  acceptedWasmHashes : List String
  acceptedBirthWasmHashes : List String
  webauthnVerifierAddress : String
  rpId : Option String
  allowedOrigins : Option (List String)
  hasHistory : Bool
  expectedPolicies : Option (List PolicyConfig)
  hasLookup : Bool
  hasReadContextRule : Bool
  canAuthenticate : Bool

/-- `deployerKeypair.publicKey()`. -/
def ConnectionConfig.deployerPublicKey (config : ConnectionConfig) : String :=
  encodeCheck 48 config.deployerKey.1

/-- The birth claim of a record that has one for a contract. -/
def candidateFromStoredCredential (credential : Option StoredCredential) (contractId : String) :
    Option WalletCandidate := do
  let credential ← credential
  let birthWasmHash ← nonEmptyText credential.birthWasmHash
  let creationTransactionHash ← nonEmptyText credential.creationTransactionHash
  let creationLedger ← credential.creationLedger
  if credential.contractId ≠ contractId ∨ !creationLedger.isSafeInteger ∨
      creationLedger.lt (.ofNat 1) then none
  else some { contractId, birthWasmHash, creationTransactionHash, creationLedger }

/-- Current code identity is necessary for every connection. -/
def assertAcceptedCode (executable : ContractExecutable) (contractId : String)
    (accepted : List String) : Except JsError Unit :=
  match executable with
  | .wasm wasmHash =>
    if toHex wasmHash.1 ∈ accepted then .ok ()
    else .error (JsError.walletCodeNotAccepted contractId (toHex wasmHash.1) accepted)
  | _ => .error (JsError.walletCodeNotAccepted contractId "not-a-wasm-contract" accepted)

def incompleteBirthClaim (contractId : String) : JsError :=
  JsError.walletProvenance contractId
    "The indexer did not return one complete schema-2 birth claim."

/-- The candidates for a contract in a lookup that is complete and not older than the ledger read
before it. -/
def indexedCandidates (contractId : String) (usedDerivedCandidate : Bool) (ledgerAtLookupStart : UInt32)
    (lookup : Option WalletCandidateLookup) : Except JsError (List WalletCandidate) :=
  match lookup with
  | none => .error (incompleteBirthClaim contractId)
  | some lookup =>
    if !lookup.complete ∨ lookup.schema ≠ 2 then .error (incompleteBirthClaim contractId)
    else if lookup.indexedThroughLedger.lt (.ofU32 ledgerAtLookupStart) then
      .error (JsError.walletProvenance contractId
        ("The indexer is stale at ledger " ++ numberText lookup.indexedThroughLedger ++
          "; the network was at ledger " ++ toString ledgerAtLookupStart.toNat ++
          " before lookup."))
    else
      let contractIds := (lookup.candidates.map (·.contractId)).eraseDups
      if usedDerivedCandidate ∧ (1 < contractIds.length ∨ lookup.candidates.any (·.collision)) then
        .error (JsError.walletAmbiguous contractIds)
      else .ok ((lookup.candidates.filter fun candidate => candidate.contractId == contractId).map
        (·.toWalletCandidate))

/-- The candidates for a contract that the indexer claims. -/
def lookupBirthCandidates (config : ConnectionConfig) (credentialId contractId : String)
    (usedDerivedCandidate : Bool) : WalletProgram (List WalletCandidate) :=
  if config.hasLookup then do
    let ledgerAtLookupStart ← Program.await .getLatestLedger id
    let lookup ← Program.await (.lookupWalletCandidates credentialId) id
    Program.ofExcept
      (indexedCandidates contractId usedDerivedCandidate ledgerAtLookupStart lookup)
  else Program.throw (incompleteBirthClaim contractId)

/-- The candidate of the record, or those of the indexer. -/
def birthCandidates (config : ConnectionConfig) (credential : Option StoredCredential)
    (credentialId contractId : String) (usedDerivedCandidate : Bool) :
    WalletProgram (List WalletCandidate) :=
  match candidateFromStoredCredential credential contractId with
  | some storedCandidate => return [storedCandidate]
  | none => lookupBirthCandidates config credentialId contractId usedDerivedCandidate

/-- The one birth candidate. -/
def selectBirthCandidate (config : ConnectionConfig) (credential : Option StoredCredential)
    (credentialId contractId : String) (usedDerivedCandidate : Bool) :
    WalletProgram WalletCandidate := do
  match ← birthCandidates config credential credentialId contractId usedDerivedCandidate with
  | [candidate] => return candidate
  | candidates => Program.throw (JsError.walletProvenance contractId
      (if candidates = [] then "No immutable birth claim matches this address."
        else "The indexer returned duplicate birth claims for this address.")
      [("candidateCount", .number (.ofNat candidates.length))])

/-! ## The checks -/

/-- Whether a record is a primary one whose constructor was approved. -/
def localPrimary (credential : Option StoredCredential) : Bool :=
  credential.any fun credential =>
    credential.isPrimary ≠ some false ∧ credential.birthConstructorArgsHash.isSome

/-- Whether a record is an associated secondary one. -/
def localSecondary (credential : Option StoredCredential) : Bool :=
  credential.any fun credential =>
    credential.isPrimary = some false ∧ credential.associationVerified = some true ∧
      credential.birthConstructorArgsHash.isSome

def locallyApproved (credential : Option StoredCredential) : Bool :=
  localPrimary credential || localSecondary credential

/-- How the birth of a candidate is verified: against the approved constructor, or against the
deployer, the salt and the policies of the kit. -/
def birthVerificationDeps (config : ConnectionConfig) (credential : Option StoredCredential)
    (credentialId : String) : WalletBirthVerificationDeps :=
  let deps : WalletBirthVerificationDeps :=
    { hasHistory := config.hasHistory
      networkPassphrase := config.networkPassphrase
      acceptedBirthWasmHashes := config.acceptedBirthWasmHashes
      webauthnVerifierAddress := config.webauthnVerifierAddress }
  if locallyApproved credential then
    { deps with
      expectedConstructorArgsHash := credential.bind StoredCredential.birthConstructorArgsHash }
  else
    { deps with
      expectedDeployer := some config.deployerPublicKey
      expectedSalt := some (hash (fromBase64 credentialId)).1
      expectedPolicies := some (config.expectedPolicies.getD []) }

/-- The birth of the candidate, or an error. -/
def requireVerifiedBirth (config : ConnectionConfig) (credential : Option StoredCredential)
    (credentialId contractId : String) (candidate : WalletCandidate) :
    WalletProgram VerifiedWalletBirth := do
  match ← verifyWalletBirth (birthVerificationDeps config credential credentialId) candidate with
  | .ok birth => return birth
  | .fail reason detail => Program.throw (JsError.walletProvenance contractId
      ("Birth verification failed: " ++ detail) [("reason", .text reason.name)])

/-- The public key of the record or of the birth signer. Unless the record is an associated
secondary one, the birth signer is the passkey with that key. -/
def requireBirthSigner (config : ConnectionConfig) (credential : Option StoredCredential)
    (credentialId contractId : String) (birth : VerifiedWalletBirth) : Except JsError Bytes :=
  let context := [("contractId", ContextValue.text contractId)]
  match (credential.map (·.publicKey)).or (publicKeyFromExternalSigner birth.birthSigner) with
  | none => .error (JsError.walletOwnership
      "The wallet birth does not contain a usable WebAuthn public key" context)
  | some publicKey =>
    if !localSecondary credential ∧
        !signerMatchesCredential birth.birthSigner config.webauthnVerifierAddress publicKey
          credentialId then
      .error (JsError.walletOwnership "The passkey is not the wallet's immutable primary signer"
        (context ++ [("credentialId", .text credentialId)]))
    else .ok publicKey

/-- The id of the rule that the passkey signs for. -/
def expectedContextRuleId (credential : Option StoredCredential) (credentialId contractId : String) :
    Except JsError UInt32 :=
  if localSecondary credential then
    match credential.bind StoredCredential.contextRuleId with
    | some contextRuleId => .ok contextRuleId
    | none => .error (JsError.walletOwnership
        "The local secondary association has no context rule id"
        [("contractId", .text contractId), ("credentialId", .text credentialId)])
  else .ok 0

/-- The rule has not expired, and has the passkey as one signer. -/
def checkLiveRule (config : ConnectionConfig) (credentialId contractId : String) (publicKey : Bytes)
    (contextRuleId : UInt32) (liveRule : ContextRule) (liveLedger : UInt32) :
    Except JsError Unit :=
  let context := [("contractId", ContextValue.text contractId),
    ("credentialId", .text credentialId), ("contextRuleId", .number (.ofU32 contextRuleId))]
  match liveRule.validUntil.filter fun validUntil => validUntil < liveLedger with
  | some validUntil => .error (JsError.walletOwnership
      "The passkey signer belongs to an expired context rule"
      (context ++ [("validUntil", .number (.ofU32 validUntil))]))
  | none =>
    let liveMatches := liveRule.signers.filter fun signer =>
      signerMatchesCredential signer config.webauthnVerifierAddress publicKey credentialId
    if liveMatches.length ≠ 1 then
      .error (JsError.walletOwnership
        "The passkey is not one exact live signer on the expected context rule" context)
    else .ok ()

/-- Check the rule that the passkey signs for at the current ledger. -/
def requireLiveSigner (config : ConnectionConfig) (credential : Option StoredCredential)
    (credentialId contractId : String) (publicKey : Bytes) : WalletProgram Unit :=
  if config.hasReadContextRule then do
    let contextRuleId ← Program.ofExcept
      (expectedContextRuleId credential credentialId contractId)
    let liveRule ← Program.await (.readContextRule contractId contextRuleId) id
    let liveLedger ← Program.await .getLatestLedger id
    Program.ofExcept
      (checkLiveRule config credentialId contractId publicKey contextRuleId liveRule liveLedger)
  else Program.throw (JsError.walletOwnership
    "Current signer state is unavailable and ownership cannot be verified"
    [("contractId", .text contractId)])

/-- The proof that was given, or a new one if the passkey may be asked. -/
def ownershipProof (config : ConnectionConfig) (credentialId : String)
    (proof : Option FreshOwnershipProof) (allowAuthentication : Bool) :
    WalletProgram (Option FreshOwnershipProof) :=
  match proof with
  | some proof => return some proof
  | none =>
    if allowAuthentication ∧ config.canAuthenticate then do
      return some (← Program.await (.authenticateCredential credentialId) id)
    else return none

/-- Verify a fresh assertion of the passkey. -/
def requireFreshOwnership (config : ConnectionConfig) (credentialId contractId : String)
    (publicKey : Bytes) (proof : Option FreshOwnershipProof) (allowAuthentication : Bool) :
    WalletProgram Unit := do
  let context := [("contractId", ContextValue.text contractId),
    ("credentialId", .text credentialId)]
  match ← ownershipProof config credentialId proof allowAuthentication, nonEmptyText config.rpId,
      config.allowedOrigins.getD [] with
  | some ownershipProof, some rpId, origin :: origins => do
    match ← verifyFreshAssertion ownershipProof.response
        { expectedChallenge := ownershipProof.challenge
          expectedCredentialId := credentialId
          rpId := rpId
          publicKey := publicKey
          allowedOrigins := origin :: origins } with
    | .ok _ => return ()
    | .fail reason detail => Program.throw (JsError.walletOwnership
        ("Fresh WebAuthn ownership verification failed: " ++ detail)
        (context ++ [("reason", .text reason.name)]))
  | _, _, _ => Program.throw (JsError.walletOwnership
      "A fresh WebAuthn assertion, rpId, and allowed origin are required for this wallet" context)

/-- Unless the record is approved locally, a fresh assertion is required. -/
def requireOwnership (config : ConnectionConfig) (credential : Option StoredCredential)
    (credentialId contractId : String) (publicKey : Bytes) (proof : Option FreshOwnershipProof)
    (allowAuthentication : Bool) : WalletProgram Unit :=
  if locallyApproved credential then return ()
  else requireFreshOwnership config credentialId contractId publicKey proof allowAuthentication

/-! ## Connecting -/

/-- The record of a connected wallet. -/
def verifiedCredential (credential : Option StoredCredential) (credentialId contractId : String)
    (publicKey : Bytes) (birth : VerifiedWalletBirth) : StoredCredential :=
  { credential.getD
      { credentialId := credentialId, publicKey := publicKey, contractId := contractId
        isPrimary := some true } with
    credentialId := credentialId
    publicKey := publicKey
    contractId := contractId
    deploymentStatus := some .deployed
    deploymentError := none
    birthWasmHash := some birth.birthWasmHash
    creationTransactionHash := some birth.creationTransactionHash
    creationLedger := some birth.creationLedger
    birthConstructorArgsHash := some birth.constructorArgsHash }

structure ConnectWalletResult where
  credentialId : String
  contractId : String
  credential : StoredCredential

/-- Save the record, connect, tell the listeners, and save the session. -/
def saveConnection (config : ConnectionConfig) (verified : StoredCredential) :
    WalletProgram ConnectWalletResult := do
  Program.await (.saveCredential verified) .ok
  Program.await (.setConnectedState verified.contractId verified.credentialId) .ok
  Program.await (.emit (.walletConnected verified.contractId verified.credentialId)) id
  let now ← Program.await .dateNow .ok
  Program.await (.saveSession
    { contractId := verified.contractId
      credentialId := verified.credentialId
      expiresAt := some (.ofNat (now + config.sessionExpiryMs)) }) .ok
  return { credentialId := verified.credentialId
           contractId := verified.contractId
           credential := verified }

/-- A record that has not failed becomes pending. -/
def markPending (credential : Option StoredCredential) (credentialId : String) :
    WalletProgram Unit :=
  if credential.any fun credential => credential.deploymentStatus ≠ some .failed then
    Program.await (.updateCredential credentialId { deploymentStatus := some .pending }) .ok
  else return ()

/-- The instance of the contract. If it cannot be read, the record is marked. -/
def readInstance (credential : Option StoredCredential) (credentialId contractId : String) :
    WalletProgram ContractExecutable := do
  match ← Program.await (.getContractData contractId) .ok with
  | .ok executable => return executable
  | .error _ => do
    markPending credential credentialId
    Program.throw (JsError.plain
      ("Smart account contract not found on-chain for credential " ++ credentialId ++ ". " ++
        "The wallet may not have been deployed yet."))

/-- Connect to the wallet with a known address. -/
def connectToContract (config : ConnectionConfig) (credential : Option StoredCredential)
    (credentialId contractId : String) (usedDerivedCandidate : Bool)
    (proof : Option FreshOwnershipProof) (allowAuthentication : Bool) :
    WalletProgram ConnectWalletResult := do
  let executable ← readInstance credential credentialId contractId
  Program.ofExcept (assertAcceptedCode executable contractId config.acceptedWasmHashes)
  let candidate ← selectBirthCandidate config credential credentialId contractId
    usedDerivedCandidate
  let birth ← requireVerifiedBirth config credential credentialId contractId candidate
  let publicKey ← Program.ofExcept
    (requireBirthSigner config credential credentialId contractId birth)
  requireLiveSigner config credential credentialId contractId publicKey
  requireOwnership config credential credentialId contractId publicKey proof allowAuthentication
  saveConnection config (verifiedCredential credential credentialId contractId publicKey birth)

/-- The address to connect to: the one given, that of the record, or the derived one. -/
def connectionContractId (config : ConnectionConfig) (credential : Option StoredCredential)
    (credentialId : String) (contractId : Option String) : Except JsError (String × Bool) :=
  match (nonEmptyText contractId).or
      (nonEmptyText (credential.map (·.contractId))) with
  | some contractId => .ok (contractId, false)
  | none => do
    let derived ← deriveContractAddress (fromBase64 credentialId) config.deployerPublicKey
      config.networkPassphrase
    return (derived, true)

def connectWithCredentials (config : ConnectionConfig) (credentialId contractId : Option String)
    (proof : Option FreshOwnershipProof) (allowAuthentication : Bool) :
    WalletProgram ConnectWalletResult :=
  match nonEmptyText credentialId with
  | none => Program.throw (JsError.plain
      (if (nonEmptyText contractId).isNone then "Could not determine contract ID"
        else "Could not determine credential ID"))
  | some credentialId => do
    let credential ← Program.await (.getCredential credentialId) .ok
    let (contractId, usedDerivedCandidate) ← Program.ofExcept
      (connectionContractId config credential credentialId contractId)
    connectToContract config credential credentialId contractId usedDerivedCandidate proof
      allowAuthentication

structure ConnectWalletOptions where
  credentialId : Option String := none
  contractId : Option String := none
  fresh : Bool := false
  prompt : Bool := false

/-- An error that ends a stored session. -/
def endsSession (error : JsError) : Bool :=
  error.errorClass = .walletProvenanceError ∨ error.errorClass = .walletOwnershipError ∨
    error.errorClass = .walletCodeNotAcceptedError

/-- A session with a time at which it ends. -/
def StoredSession.hasExpiry (session : StoredSession) : Bool :=
  session.expiresAt.any JsNumber.truthy

/-- The session has ended before a time. -/
def StoredSession.expiredAt (session : StoredSession) (now : ℕ) : Bool :=
  session.expiresAt.any fun expiresAt => expiresAt.truthy && expiresAt.lt (.ofNat now)

section connectWalletOver

-- how the calls of the storage, the passkey and `connectWithCredentials` are run
variable {J : Interface} (carry : {α : Type} → WalletProgram α → Program J JsError α)

/-- The clock is only read for a session that can end. -/
def sessionExpired (session : StoredSession) : Program J JsError Bool :=
  if session.hasExpiry then do
    let now ← carry (Program.await .dateNow .ok)
    return session.expiredAt now
  else return false

/-- Ask the user for a passkey and connect with it. -/
def connectPrompted (config : ConnectionConfig) :
    Program J JsError (Option ConnectWalletResult) := do
  let challenge ← carry (Program.await .generateChallenge .ok)
  let response ← carry (Program.await (.startAuthentication challenge) id)
  let result ← carry (connectWithCredentials config (some response.id) none
    (some { response, challenge }) true)
  return some result

/-- Drop the stored session. -/
def dropSession : Program J JsError (Option ConnectWalletResult) := do
  carry (Program.await .clearSession .ok)
  return none

/-- A session that is over is dropped after the listeners have been told. -/
def dropExpired (session : StoredSession) : Program J JsError (Option ConnectWalletResult) := do
  carry (Program.await (.emit (.sessionExpired session.contractId session.credentialId)) id)
  dropSession carry

/-- Restore the stored session; a session that is missing, over or refused gives nothing. -/
def restoreSession (config : ConnectionConfig) :
    Program J JsError (Option ConnectWalletResult) := do
  match ← carry (Program.await .getSession .ok) with
  | none => return none
  | some session => do
    if ← sessionExpired carry session then dropExpired carry session
    else do
      match ← Program.attempt (carry (connectWithCredentials config (some session.credentialId)
          (some session.contractId) none false)) with
      | .ok result => return some result
      | .error error => if endsSession error then dropSession carry else Program.throw error

/-- The restored session, unless a fresh connection is asked for. -/
def restoreUnlessFresh (config : ConnectionConfig) (options : ConnectWalletOptions) :
    Program J JsError (Option ConnectWalletResult) :=
  if options.fresh then return none else restoreSession carry config

/-- `connectWallet`, whose calls are run by `carry`. -/
def connectWalletOver (config : ConnectionConfig) (options : ConnectWalletOptions) :
    Program J JsError (Option ConnectWalletResult) :=
  if (nonEmptyText options.credentialId).isSome ∨ (nonEmptyText options.contractId).isSome then do
    let result ← carry
      (connectWithCredentials config options.credentialId options.contractId none true)
    return some result
  else do
    match ← restoreUnlessFresh carry config options with
    | some result => return some result
    | none => if options.prompt ∨ options.fresh then connectPrompted carry config else return none

end connectWalletOver

def connectWallet (config : ConnectionConfig) (options : ConnectWalletOptions) :
    WalletProgram (Option ConnectWalletResult) :=
  connectWalletOver (fun p => p) config options

/-! ## Sample wallets -/

/-- The public key of a sample passkey. Its credential id is the byte 1, in text `AQ`. -/
def samplePublicKey : Bytes := 4 :: List.replicate 64 2

def sampleWalletSigner1 : Signer := .external (sampleContractId 11) (samplePublicKey ++ [1])

/-- The creation of a wallet for the sample passkey by a deployer. -/
def sampleCreation (deployer : ScAddress) : CreateContractArgsV2 :=
  { contractIdPreimage := .fromAddress deployer (hash [1])
    executable := .wasm ⟨List.replicate 32 13, List.length_replicate⟩
    constructorArgs :=
      [.vec (some [.vec (some [scvSymbol "External", .address (sampleContract 11),
        .bytes (samplePublicKey ++ [1])])]), .map (some [])] }

/-- The address of that wallet. -/
def sampleWalletId (deployer : ScAddress) : String :=
  (contractIdFromCreateV2 "Sample Network" (sampleCreation deployer)).getD ""

def sampleTransactionHash : BytesN 32 := ⟨List.replicate 32 21, List.length_replicate⟩

/-- The birth claim of that wallet. -/
def sampleCandidate (deployer : ScAddress) : WalletCandidate :=
  { contractId := sampleWalletId deployer
    birthWasmHash := toHex (List.replicate 32 13)
    creationTransactionHash := toHex sampleTransactionHash.1
    creationLedger := .ofNat 40 }

/-- The transaction of that creation. -/
def sampleCreationEnvelope (deployer : ScAddress) : DecodedEnvelope :=
  .transaction
    { hash := sampleTransactionHash
      source := sampleAccountId 4
      fee := 100
      operations := [.invokeHostFunction none (.createContractV2 (sampleCreation deployer)) []]
      signatures := []
      sorobanData := none }

/-- The verified record of the wallet that the sample kit deploys. -/
def sampleRecord : StoredCredential :=
  { credentialId := "AQ"
    publicKey := samplePublicKey
    contractId := sampleWalletId (sampleAccount 4)
    isPrimary := some true
    deploymentStatus := some .deployed
    birthWasmHash := some (toHex (List.replicate 32 13))
    creationTransactionHash := some (toHex sampleTransactionHash.1)
    creationLedger := some (.ofNat 40)
    birthConstructorArgsHash :=
      some (constructorArgsHash (sampleCreation (sampleAccount 4)).constructorArgs) }

/-- A kit that deploys with the sample account and has an indexer. -/
def sampleConnectionConfig : ConnectionConfig :=
  { networkPassphrase := "Sample Network"
    deployerKey := ⟨List.replicate 32 4, List.length_replicate⟩
    sessionExpiryMs := 1000
    acceptedWasmHashes := [toHex (List.replicate 32 13)]
    acceptedBirthWasmHashes := [toHex (List.replicate 32 13)]
    webauthnVerifierAddress := sampleContractId 11
    rpId := none
    allowedOrigins := none
    hasHistory := false
    expectedPolicies := none
    hasLookup := true
    hasReadContextRule := true
    canAuthenticate := false }

/-- A chain on which a deployer created the wallet, and an indexer that knows it. -/
def sampleWorld (deployer : ScAddress) : SteadyWallet :=
  { instanceExecutable := .ok (.wasm ⟨List.replicate 32 13, List.length_replicate⟩)
    ledger := 50
    lookup := some
      { schema := 2
        complete := true
        indexedThroughLedger := .ofNat 50
        candidates := [{ sampleCandidate deployer with
          currentWasmHash := toHex (List.replicate 32 13)
          derivedAddress := false
          collision := false }] }
    transaction := .success (.ofNat 40) (.ok (sampleCreationEnvelope deployer))
    rule := { id := 0, contextType := .default, signers := [sampleWalletSigner1], policies := []
              validUntil := none }
    passkey := { credentialId := "AQ", publicKey := samplePublicKey }
    simulated := { operations := some
                    [.invokeHostFunction none (.createContractV2 (sampleCreation deployer)) []]
                   simulatedAuth := .ok []
                   latestLedger := some 50 }
    signed := { envelope := "", hash := toHex sampleTransactionHash.1 }
    sent := .ok { hash := some (toHex sampleTransactionHash.1)
                  response := some (.success (some (.ofNat 40))) }
    relayed := { success := true, hash := some (toHex sampleTransactionHash.1), error := none }
    polled := .success (some (.ofNat 40)) }

end SmartAccountKit
