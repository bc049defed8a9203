import SmartAccountKit.Passkey
import SmartAccountKit.RuleDiscovery

/-!
# Multi-signer operations

Signing the authorization entries of a transaction with passkeys, delegated
wallets and Ed25519 keys, and submitting the transaction.
-/

namespace SmartAccountKit
open Lib

def AUTH_ENTRY_EXPIRATION_BUFFER : ℕ := 100

/-! ## Selected signers -/

/-- How a selected signer signs. -/
inductive SelectedSignerType where
  | passkey
  | wallet
  | ed25519
deriving DecidableEq

/-- A signer selected for an operation. -/
structure SelectedSigner where
  type : SelectedSignerType
  signer : Option SignerObject := none
  credentialId : Option String := none
  walletAddress : Option String := none
  ed25519PublicKey : Option String := none
deriving DecidableEq

/-- The signers of one type. -/
def signersOfType (type : SelectedSignerType) (selectedSigners : List SelectedSigner) :
    List SelectedSigner :=
  selectedSigners.filter fun signer => signer.type = type

/-- The selection that one contract signer gives, if this client can sign with it. -/
def buildSelectedSigner (activeCredentialId : Option String) (object : SignerObject) :
    KitProgram (Option SelectedSigner) :=
  match object.signer with
  | .delegated address => do
    let available ← Program.await (.canSignFor .offer address) id
    return if available then
        some { type := .wallet, signer := some object, walletAddress := some address }
      else none
  | .external _ keyData =>
    match getCredentialIdFromSigner object.signer with
    | some credentialId =>
      return if (nonEmptyText activeCredentialId).all (· = credentialId) then
          some { type := .passkey, signer := some object, credentialId := some credentialId }
        else none
    | none => do
      let available ← Program.await (.canSignEd25519 .offer keyData) id
      return if available then
          some { type := .ed25519, signer := some object, ed25519PublicKey := some (toHex keyData) }
        else none

/-- The contract signers that this client can sign with. -/
def buildSelectedSigners (signers : List SignerObject) (activeCredentialId : Option String) :
    KitProgram (List SelectedSigner) :=
  Program.forEach signers [] fun selected object => do
    let selection ← buildSelectedSigner activeCredentialId object
    return selected ++ selection.toList

/-! ## Options -/

/-- The options of a multi-signer operation. Whether there is a resolver for rule ids decides who
is asked for them, and whether there is a log callback, if lines are written to it. -/
structure MultiSignerOptions where
  forceMethod : Option SubmissionMethod := none
  resolveContextRuleIds : Bool := false
  onLog : Bool := false

/-- Write a line to the log, if there is one. The callback may throw. -/
def MultiSignerOptions.log (options : MultiSignerOptions) (stage : SigningStage)
    (message : String) : KitProgram Unit :=
  if options.onLog then Program.await (.onLog stage message) id else return ()

/-- What one submission signs with: the kit, the transaction's function and the caller's choices. -/
structure MultiSignerRun where
  config : KitConfig
  contractId : String
  hostFunc : HostFunction
  selectedSigners : List SelectedSigner
  options : MultiSignerOptions
  allowWalletMutation : Bool

namespace MultiSignerRun

def passkeySigners (run : MultiSignerRun) : List SelectedSigner :=
  signersOfType .passkey run.selectedSigners

def walletSigners (run : MultiSignerRun) : List SelectedSigner :=
  signersOfType .wallet run.selectedSigners

def ed25519Signers (run : MultiSignerRun) : List SelectedSigner :=
  signersOfType .ed25519 run.selectedSigners

/-- The wallet signers that have an address, with it. The loops of the source skip the others. -/
def walletAddresses (run : MultiSignerRun) : List (String × SelectedSigner) :=
  run.walletSigners.filterMap fun signer =>
    (nonEmptyText signer.walletAddress).map fun address => (address, signer)

/-- The Ed25519 signers that have a public key, with it. -/
def ed25519PublicKeys (run : MultiSignerRun) : List (String × SelectedSigner) :=
  run.ed25519Signers.filterMap fun signer =>
    (nonEmptyText signer.ed25519PublicKey).map fun publicKey => (publicKey, signer)

/-- The contract signers of the selection. -/
def selectedContractSigners (run : MultiSignerRun) : List Signer :=
  run.selectedSigners.filterMap fun selected => selected.signer.map SignerObject.signer

/-- The transaction that the admin path allows a mutation to be. -/
def walletMutationHostFunction (run : MultiSignerRun) : Option HostFunction :=
  if run.allowWalletMutation then some run.hostFunc else none

end MultiSignerRun

/-- Write a line about the signing to the log. -/
def MultiSignerRun.log (run : MultiSignerRun) (message : String) : KitProgram Unit :=
  run.options.log .signing message

/-! ## Wallet signatures -/

/-- The error for reading the account id of another kind of address. -/
def accountIdNotSet : JsError := JsError.plain "accountId not set"

/-- The Ed25519 key of an account address. -/
def accountKey : ScAddress → Except JsError (BytesN 32)
  | .account ed25519 => .ok ed25519
  | _ => .error accountIdNotSet

/-- The signature value of a Stellar account. -/
def buildAddressSignatureScVal (publicKey signature : Bytes) : ScVal :=
  .vec (some [.map (some [(scvSymbol "public_key", .bytes publicKey),
    (scvSymbol "signature", .bytes signature)])])

/-- Ask a wallet to sign a preimage, and read the account it signs for. -/
def signWithWallet (preimage : HashIdPreimage) (address : String) (args : Option DigestArgs) :
    KitProgram (ScAddress × ScVal) := do
  let signedAuthEntry ← Program.await (.walletSignAuthEntry preimage address args) id
  let scAddress ← Program.ofExcept (toScAddress address)
  let publicKey ← Program.ofExcept (accountKey scAddress)
  return (scAddress, buildAddressSignatureScVal publicKey.1 (fromBase64 signedAuthEntry))

/-- Sign an entry whose credential is an account of a wallet. -/
def signWalletAddressAuthEntry (config : KitConfig) (entry : SorobanAuthorizationEntry)
    (authAddress : String) (expiration : UInt32) : KitProgram SorobanAuthorizationEntry := do
  Program.ofExcept (throwIf
    (entry.credentials.switchName = "sorobanCredentialsAddressWithDelegates") (JsError.plain
      "ADDRESS_WITH_DELEGATES auth entries are not supported by wallet signing yet"))
  let (signedEntry, preimage) ← Program.ofExcept
    (buildSignaturePreimage config.networkPassphrase entry (.ofU32 expiration))
  let (_, signature) ← signWithWallet preimage authAddress none
  return signedEntry.setSignature signature

/-! ## Smart-account entries -/

/-- The scheme of a submission: resolved on the first smart-account entry. -/
def submissionScheme (run : MultiSignerRun) (authDigestScheme : Option AuthDigestScheme) :
    KitProgram AuthDigestScheme :=
  match authDigestScheme with
  | some scheme => return scheme
  | none => run.config.resolveAuthDigestScheme run.contractId

/-- The rule ids of an entry: the caller's, or those of the rules that the selection satisfies. -/
def submissionContextRuleIds (run : MultiSignerRun) (signedEntry : SorobanAuthorizationEntry)
    (authEntryIndex : ℕ) : KitProgram (List JsNumber) :=
  if run.options.resolveContextRuleIds then
    Program.await (.resolveContextRuleIds signedEntry authEntryIndex) id
  else do
    let _ ← Program.ofExcept run.config.requireWallet
    let rules ← listContextRules run.contractId none
    Program.ofExcept (resolveContextRuleIdsForEntry signedEntry run.selectedContractSigners rules)

/-- Refuse ids that differ from those an entry is signed for already. -/
def assertSameContextRuleIds (existing resolved : List JsNumber) : Except JsError Unit :=
  throwIf (existing ≠ [] ∧ existing ≠ resolved)
    (JsError.validation "Existing auth payload uses different context rule IDs")

/-- Sign an entry with each passkey in turn. -/
def signWithPasskeys (run : MultiSignerRun) (signedEntry : SorobanAuthorizationEntry)
    (expiration : UInt32) (contextRuleIds : List JsNumber) (scheme : AuthDigestScheme) :
    KitProgram SorobanAuthorizationEntry :=
  Program.forEach run.passkeySigners.zipIdx signedEntry fun signedEntry indexed => do
    run.log ("Signing with passkey " ++ toString (indexed.2 + 1) ++ "/" ++
      toString run.passkeySigners.length ++ "...")
    signAuthEntry run.config signedEntry
      { credentialId := indexed.1.credentialId
        expiration := some (.ofU32 expiration)
        contextRuleIds := some contextRuleIds
        signer := indexed.1.signer
        walletMutationHostFunction := run.walletMutationHostFunction
        authDigestScheme := some scheme }

/-- Refuse a wallet signer without its contract signer. -/
def assertWalletSignerMetadata (walletSigner : String × SelectedSigner) : Except JsError Unit :=
  throwIf walletSigner.2.signer.isNone (JsError.validation
    ("Wallet signer " ++ walletSigner.1 ++ " is missing contract signer metadata. " ++
      "Use buildSelectedSigners() or provide the signer field explicitly."))

/-- An entry whose digest is computed: the payload it will carry, and what was digested. -/
structure DigestedEntry where
  signed : SorobanAuthorizationEntry
  authPayload : AuthPayload
  digest : EntryAuthDigest
  args : DigestArgs

/-- Read the payload of an entry that the passkeys have signed, and compute its digest. -/
def digestSignedEntry (run : MultiSignerRun) (signedEntry : SorobanAuthorizationEntry)
    (expiration : UInt32) (resolvedContextRuleIds : List JsNumber) (scheme : AuthDigestScheme) :
    Except JsError DigestedEntry := do
  let _ ← getAddressCredentials signedEntry.credentials
  let signedEntry := signedEntry.setExpiration expiration
  run.walletAddresses.forM assertWalletSignerMetadata
  let signedCredentials ← getAddressCredentials signedEntry.credentials
  let authPayload ← readAuthPayload signedCredentials.signature
  let authPayload :=
    if authPayload.contextRuleIds = [] then
      { authPayload with contextRuleIds := resolvedContextRuleIds }
    else authPayload
  let args : DigestArgs :=
    { networkPassphrase := run.config.networkPassphrase
      entry := signedEntry
      expiration := .ofU32 expiration
      contextRuleIds := authPayload.contextRuleIds
      scheme }
  let (signed, digest) ← args.compute
  return { signed, authPayload, digest, args }

/-- Put the signature of one Ed25519 key into the payload; a key without its contract signer is
skipped. -/
def signWithEd25519 (digested : DigestedEntry) (authPayload : AuthPayload)
    (ed25519Signer : String × SelectedSigner) : KitProgram AuthPayload :=
  match ed25519Signer.2.signer with
  | none => return authPayload
  | some object => do
    let signatureBytes ← Program.await
      (.signEd25519Digest (fromHex ed25519Signer.1) digested.digest.authDigest digested.args) id
    return upsertAuthPayloadSigner authPayload (some object.ref) object.signer signatureBytes

/-- Put a wallet signer into the payload, with empty bytes: its authorization is an entry of its
own. -/
def addDelegatedSigner (authPayload : AuthPayload) (walletSigner : String × SelectedSigner) :
    AuthPayload :=
  match walletSigner.2.signer with
  | none => authPayload
  | some object => upsertAuthPayloadSigner authPayload (some object.ref) object.signer []

/-- The call that a delegated signer authorizes. -/
def checkAuthInvocation (contract : ScAddress) (delegatedAuthArgs : List ScVal) :
    SorobanAuthorizedInvocation :=
  .node (.contractFn
    { contractAddress := contract
      functionName := utf8Encode "__check_auth"
      args := delegatedAuthArgs }) []

/-- Have a wallet sign the authorization of a delegated signer. -/
def delegatedAuthEntry (run : MultiSignerRun) (digested : DigestedEntry) (expiration : UInt32)
    (walletAddress : String) : KitProgram SorobanAuthorizationEntry := do
  run.log ("Getting delegated auth from " ++ String.ofList (walletAddress.toList.take 8) ++ "...")
  let delegatedNonce ← Program.await .randomAuthEntryNonce fun nonce => .ok nonce
  let contract ← Program.ofExcept (toScAddress run.contractId)
  let delegatedInvocation := checkAuthInvocation contract digested.digest.delegatedAuthArgs
  let delegatedPreimage := HashIdPreimage.sorobanAuthorization
    (networkId run.config.networkPassphrase) delegatedNonce expiration delegatedInvocation
  let (address, signature) ← signWithWallet delegatedPreimage walletAddress (some digested.args)
  return {
    credentials := .address
      { address
        nonce := delegatedNonce
        signatureExpirationLedger := expiration
        signature }
    rootInvocation := delegatedInvocation }

/-- The entries of the delegated signers. -/
def delegatedAuthEntries (run : MultiSignerRun) (digested : DigestedEntry) (expiration : UInt32) :
    KitProgram (List SorobanAuthorizationEntry) :=
  if run.walletSigners.isEmpty then return []
  else do
    run.log ("Creating auth entries for " ++ toString run.walletSigners.length ++
      " delegated signer(s)...")
    Program.collect run.walletAddresses fun walletSigner =>
      delegatedAuthEntry run digested expiration walletSigner.1

/-- Sign an entry for resolved rule ids with every selected signer. The result is the entry and
the entries of its delegated signers. -/
def signForContextRuleIds (run : MultiSignerRun) (signedEntry : SorobanAuthorizationEntry)
    (expiration : UInt32) (scheme : AuthDigestScheme) (resolvedContextRuleIds : List JsNumber) :
    KitProgram (List SorobanAuthorizationEntry) := do
  let credentials ← Program.ofExcept (getAddressCredentials signedEntry.credentials)
  let existingPayload ← Program.ofExcept (readAuthPayload credentials.signature)
  Program.ofExcept
    (assertSameContextRuleIds existingPayload.contextRuleIds resolvedContextRuleIds)
  let signedEntry ← signWithPasskeys run signedEntry expiration resolvedContextRuleIds scheme
  let digested ← Program.ofExcept
    (digestSignedEntry run signedEntry expiration resolvedContextRuleIds scheme)
  let authPayload ← Program.forEach run.ed25519PublicKeys digested.authPayload
    (signWithEd25519 digested)
  let authPayload := run.walletAddresses.foldl addDelegatedSigner authPayload
  let signature ← Program.ofExcept (writeAuthPayload authPayload)
  let delegatedEntries ← delegatedAuthEntries run digested expiration
  return digested.signed.setSignature signature :: delegatedEntries

/-- Resolve the rule ids of an entry of the smart account, and sign it. -/
def signSmartAccountEntry (run : MultiSignerRun) (entry : SorobanAuthorizationEntry)
    (authEntryIndex : ℕ) (expiration : UInt32) (scheme : AuthDigestScheme) :
    KitProgram (List SorobanAuthorizationEntry) := do
  let signedEntry := entry.setExpiration expiration
  let resolvedContextRuleIds ← submissionContextRuleIds run signedEntry authEntryIndex
  signForContextRuleIds run signedEntry expiration scheme resolvedContextRuleIds

/-! ## Entries -/

/-- Sign an entry whose credential is another address: one of a selected wallet. -/
def signSeparateEntry (run : MultiSignerRun) (entry : SorobanAuthorizationEntry)
    (authAddress : String) (expiration : UInt32) : KitProgram SorobanAuthorizationEntry := do
  let notFound := JsError.signerNotFound authAddress
    "Add an external signer for that address or remove it from the transaction."
  Program.ofExcept (throwIf
    (!run.walletSigners.any fun signer => signer.walletAddress == some authAddress) notFound)
  let available ← Program.await (.canSignFor .signing authAddress) id
  Program.ofExcept (throwIf (!available) notFound)
  run.log ("Signing separate auth entry for " ++ String.ofList (authAddress.toList.take 8) ++ "...")
  signWalletAddressAuthEntry run.config entry authAddress expiration

/-- The entries signed so far, and the scheme once it is resolved. -/
structure SigningState where
  signedAuthEntries : List SorobanAuthorizationEntry
  authDigestScheme : Option AuthDigestScheme

def SigningState.push (state : SigningState) (entries : List SorobanAuthorizationEntry) :
    SigningState :=
  { state with signedAuthEntries := state.signedAuthEntries ++ entries }

/-- Sign an entry with address credentials: one of a selected wallet, or one of the smart account. -/
def signAddressEntry (run : MultiSignerRun) (state : SigningState)
    (entry : SorobanAuthorizationEntry) (authEntryIndex : ℕ) (expiration : UInt32) :
    KitProgram SigningState := do
  let authAddress ← Program.ofExcept (getAuthEntryAddress entry)
  if authAddress ≠ run.contractId then do
    let signedEntry ← signSeparateEntry run entry authAddress expiration
    return state.push [signedEntry]
  else do
    Program.ofExcept (assertWalletMutationIntent entry run.contractId
      run.walletMutationHostFunction (some run.config.upgradeTargetPolicy))
    let scheme ← submissionScheme run state.authDigestScheme
    let signedEntries ← signSmartAccountEntry run entry authEntryIndex expiration scheme
    return { state.push signedEntries with authDigestScheme := some scheme }

/-- Sign one entry. An early `return failedTransaction(error)` of the source is a throw: what
catches it keeps an error of the kit as it is. -/
def signEntry (run : MultiSignerRun) (defaultExpiration : UInt32) (state : SigningState)
    (indexed : SorobanAuthorizationEntry × ℕ) : KitProgram SigningState :=
  match indexed.1.credentials with
  | .addressWithDelegates _ => Program.throw (JsError.submission
      "ADDRESS_WITH_DELEGATES auth entries are not supported by multi-signer signing yet")
  | .sourceAccount => return state.push [indexed.1]
  | .address credentials | .addressV2 credentials =>
    let existingExpiration := credentials.signatureExpirationLedger
    signAddressEntry run state indexed.1 indexed.2
      (if existingExpiration = 0 then defaultExpiration else existingExpiration)

/-! ## Submitting -/

/-- Refuse the shared deployer as a source or a fee payer. -/
def assertNotSharedDeployerSource (publicKey : String) : Except JsError Unit :=
  throwIf (isDefaultDeployer publicKey) (JsError.submission
    ("The shared default deployer " ++ publicKey ++ " must never be a transaction " ++
      "source or fee payer because its signing key is public. Use a relayer " ++
      "(the relayer/channel account sources and pays) or configure a " ++
      "dedicated `deployerSecret` you control for this path."))

namespace KitConfig

/-- The source account of a re-simulation: a placeholder where a relayer supplies the real one. -/
def resolveResimSource (config : KitConfig) (forceMethod : Option SubmissionMethod) :
    KitProgram Account :=
  if config.shouldUseFeeSponsoring forceMethod then
    return { accountId := config.deployerPublicKey, sequence := 0 }
  else do
    Program.ofExcept (assertNotSharedDeployerSource config.deployerPublicKey)
    Program.await (.getAccount config.deployerPublicKey) id

/-- Sign a transaction as its fee payer when nobody else pays, or when an entry authorizes as the
source account. -/
def signFeePayer (config : KitConfig) (transaction : Transaction)
    (forceMethod : Option SubmissionMethod) : Except JsError Transaction := do
  let hasSourceAccountAuth := transaction.auth.any fun entry =>
    entry.credentials.switchName == "sorobanCredentialsSourceAccount"
  if !config.shouldUseFeeSponsoring forceMethod || hasSourceAccountAuth then
    assertNotSharedDeployerSource config.deployerPublicKey
    return { transaction with signatures := transaction.signatures ++ [config.deployerPublicKey] }
  else return transaction

end KitConfig

/-- The transaction that a simulation gives. Entries that the operation has are kept. -/
def assembleTransaction (transaction : Transaction) :
    SimulationResponse → Except JsError Transaction
  | .error message => .error ((decodeContractError message).getD
      (JsError.simulation ("Re-simulation failed: " ++ message)))
  | .success auth => .ok (if transaction.auth.isEmpty then { transaction with auth } else transaction)

/-- Simulate a transaction with its signed entries and assemble it. -/
def resimulateAndAssemble (sourceAccount : Account) (hostFunc : HostFunction)
    (signedAuthEntries : List SorobanAuthorizationEntry) : KitProgram Transaction := do
  let resimTx : Transaction :=
    { source := sourceAccount, func := hostFunc, auth := signedAuthEntries, signatures := [] }
  let resimResult ← Program.await (.simulateTransaction resimTx) id
  Program.ofExcept (assembleTransaction resimTx resimResult)

/-- How a method ends early: it returns the failed transaction of an error, or it throws. -/
inductive EarlyExit where
  | returned (error : JsError)
  | thrown (error : JsError)

/-- Read the answer of a check: a signer that is not there is reported, and what the check throws
is not caught. -/
def readCheck (notFound : JsError) : Except JsError Bool → Except EarlyExit Unit
  | .error error => .error (.thrown error)
  | .ok true => .ok ()
  | .ok false => .error (.returned notFound)

/-- Check that a wallet signer can sign. -/
def assertWalletAvailable (walletSigner : String × SelectedSigner) :
    Program Environment EarlyExit Unit :=
  Program.await (.canSignFor .selection walletSigner.1)
    (readCheck (JsError.signerNotFound walletSigner.1
      ("Use kit.externalSigners.addFromSecret() or kit.externalSigners.addFromWallet() " ++
        "to add a signer.")))

/-- Check that an Ed25519 signer can sign. -/
def assertEd25519Available (ed25519Signer : String × SelectedSigner) :
    Program Environment EarlyExit Unit :=
  Program.await (.canSignEd25519 .selection (fromHex ed25519Signer.1))
    (readCheck (JsError.signerNotFound
      ("ed25519:" ++ String.ofList (ed25519Signer.1.toList.take 16) ++ "…")
      "Use kit.externalSigners.addEd25519FromSecret() to add the signer."))

/-- Check the selection. This stands before the `try`. -/
def checkSelection (run : MultiSignerRun) : Program Environment EarlyExit Unit := do
  Program.mapError .thrown (run.options.log .selection
    ("Signing with " ++ toString run.passkeySigners.length ++ " passkey(s), " ++
      toString run.walletSigners.length ++ " wallet(s), and " ++
      toString run.ed25519Signers.length ++ " ed25519 key(s)"))
  Program.forEach run.walletAddresses () fun _ walletSigner => assertWalletAvailable walletSigner
  Program.forEach run.ed25519PublicKeys () fun _ ed25519Signer =>
    assertEd25519Available ed25519Signer

/-- Sign every entry and prepare the transaction. -/
def signAndPrepare (run : MultiSignerRun) (authEntries : List SorobanAuthorizationEntry) :
    KitProgram Transaction := do
  run.log ("Found " ++ toString authEntries.length ++ " auth entries to sign")
  let sequence ← Program.await .getLatestLedger id
  let defaultExpiration ← Program.ofExcept (normalizeSignatureExpirationLedger
    (.ofNat (min 0xffffffff (sequence.toNat + AUTH_ENTRY_EXPIRATION_BUFFER))))
  let state ← Program.forEach authEntries.zipIdx
    { signedAuthEntries := [], authDigestScheme := none } (signEntry run defaultExpiration)
  run.log "Re-simulating with signatures..."
  let sourceAccount ← run.config.resolveResimSource run.options.forceMethod
  let preparedTx ← resimulateAndAssemble sourceAccount run.hostFunc state.signedAuthEntries
  let signedTx ← Program.ofExcept (run.config.signFeePayer preparedTx run.options.forceMethod)
  run.log "Submitting transaction..."
  return signedTx

/-- Sign and submit, once the selection is checked. What fails before the submission is reported as
a failed transaction; the promise of the submission itself is returned as it is. -/
def signAndSend (run : MultiSignerRun) (authEntries : List SorobanAuthorizationEntry) :
    KitProgram TransactionResult := do
  let prepared ← Program.attempt (signAndPrepare run authEntries)
  match prepared with
  | .ok preparedTx => Program.await (.sendAndPoll preparedTx run.options.forceMethod) id
  | .error err => return .failure (err.wrap .TRANSACTION_SIGNING_FAILED)

/-- Check the selection, sign the entries of a transaction and submit it. -/
def submitWithSelectedSigners (config : KitConfig) (hostFunc : HostFunction)
    (authEntries : List SorobanAuthorizationEntry) (selectedSigners : List SelectedSigner)
    (options : MultiSignerOptions) (allowWalletMutation : Bool) :
    KitProgram TransactionResult :=
  match nonEmptyText config.contractId with
  | none => return .failure (JsError.walletNotConnected (some "submit a transaction"))
  | some contractId => do
    let run : MultiSignerRun :=
      { config, contractId, hostFunc, selectedSigners, options, allowWalletMutation }
    let checked ← Program.attempt (checkSelection run)
    match checked with
    | .ok _ => signAndSend run authEntries
    | .error (.returned error) => return .failure error
    | .error (.thrown error) => Program.throw error

/-! ## Operations -/

/-- An operation of a built transaction. -/
inductive Operation where
  | invokeHostFunction (func : HostFunction) (auth : List SorobanAuthorizationEntry)
  | other

/-- A built transaction. -/
structure BuiltTransaction where
  source : Account
  operations : List Operation

/-- The one invocation of a built transaction. -/
def invokedTransaction (built : Option BuiltTransaction) : Except JsError Transaction :=
  match built with
  | none => .error (JsError.submission "Transaction not built")
  | some built =>
    match built.operations with
    | [.invokeHostFunction func auth] =>
      .ok { source := built.source, func, auth, signatures := [] }
    | [.other] => .error (JsError.submission "Expected invokeHostFunction operation")
    | _ => .error (JsError.submission "Expected exactly one operation")

/-- Sign a transaction without entries as its fee payer. -/
def prepareDirect (config : KitConfig) (transaction : Transaction) (options : MultiSignerOptions) :
    KitProgram Transaction := do
  options.log .signing "No auth entries - submitting directly..."
  Program.ofExcept (config.signFeePayer transaction options.forceMethod)

/-- Submit a transaction without entries. -/
def submitDirect (config : KitConfig) (transaction : Transaction) (options : MultiSignerOptions) :
    KitProgram TransactionResult := do
  let prepared ← Program.attempt (prepareDirect config transaction options)
  match prepared with
  | .ok preparedTx => Program.await (.sendAndPoll preparedTx options.forceMethod) id
  | .error err => return .failure (err.wrap .TRANSACTION_SUBMISSION_FAILED)

def submitOperation (config : KitConfig) (built : Option BuiltTransaction)
    (selectedSigners : List SelectedSigner) (options : MultiSignerOptions)
    (allowWalletMutation : Bool) : KitProgram TransactionResult :=
  match invokedTransaction built with
  | .error error => return .failure error
  | .ok transaction =>
    if transaction.auth.isEmpty then submitDirect config transaction options
    else submitWithSelectedSigners config transaction.func transaction.auth selectedSigners options
      allowWalletMutation

/-- A generic operation. It refuses wallet mutations. -/
def operation (config : KitConfig) (built : Option BuiltTransaction)
    (selectedSigners : List SelectedSigner) (options : MultiSignerOptions) :
    KitProgram TransactionResult :=
  submitOperation config built selectedSigners options false

/-- An administrative operation. -/
def adminOperation (config : KitConfig) (built : Option BuiltTransaction)
    (selectedSigners : List SelectedSigner) (options : MultiSignerOptions) :
    KitProgram TransactionResult :=
  submitOperation config built selectedSigners options true

end SmartAccountKit
