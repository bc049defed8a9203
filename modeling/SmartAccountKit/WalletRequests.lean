import SmartAccountKit.Lib.Memory
import SmartAccountKit.Requests
import SmartAccountKit.Xdr.Envelope

/-!
# What the wallet lifecycle asks of its environment

Creating, deploying and connecting wallets talks to the credential storage, to
passkeys, to the network and to the indexer. The storage is a memory: what it
replies follows from what was written to it.
-/

namespace SmartAccountKit
open Lib

/-! ## Stored credentials -/

/-- The status of a stored credential. -/
inductive CredentialDeploymentStatus where
  | pending
  | failed
  | deployed
  | occupied
deriving DecidableEq

structure StoredCredential where
  credentialId : String
  publicKey : Bytes
  contractId : String
  contextRuleId : Option UInt32 := none
  isPrimary : Option Bool := none
  deploymentStatus : Option CredentialDeploymentStatus := none
  deploymentError : Option String := none
  birthWasmHash : Option String := none
  creationTransactionHash : Option String := none
  deploymentTransactionHash : Option String := none
  creationLedger : Option JsNumber := none
  birthConstructorArgsHash : Option String := none
  associationVerified : Option Bool := none
deriving DecidableEq

/-- The fields that an update writes. An error that is written as absent is cleared. -/
structure CredentialUpdates where
  deploymentStatus : Option CredentialDeploymentStatus := none
  deploymentError : Option (Option String) := none
  birthWasmHash : Option String := none
  creationTransactionHash : Option String := none
  deploymentTransactionHash : Option String := none
  creationLedger : Option JsNumber := none
  birthConstructorArgsHash : Option String := none
deriving DecidableEq

/-- `{ ...credential, ...updates }`. -/
def StoredCredential.apply (credential : StoredCredential) (updates : CredentialUpdates) :
    StoredCredential :=
  { credential with
    deploymentStatus := updates.deploymentStatus.or credential.deploymentStatus
    deploymentError := updates.deploymentError.getD credential.deploymentError
    birthWasmHash := updates.birthWasmHash.or credential.birthWasmHash
    creationTransactionHash :=
      updates.creationTransactionHash.or credential.creationTransactionHash
    deploymentTransactionHash :=
      updates.deploymentTransactionHash.or credential.deploymentTransactionHash
    creationLedger := updates.creationLedger.or credential.creationLedger
    birthConstructorArgsHash :=
      updates.birthConstructorArgsHash.or credential.birthConstructorArgsHash }

/-- The last connected wallet. -/
structure StoredSession where
  contractId : String
  credentialId : String
  expiresAt : Option JsNumber
deriving DecidableEq

/-! ## Data of the requests -/

/-- An event of the wallet lifecycle, with its data. -/
inductive KitEvent where
  | credentialCreated (credential : StoredCredential)
  | walletConnected (contractId credentialId : String)
  | sessionExpired (contractId credentialId : String)
deriving DecidableEq

/-- The facts needed to verify the birth of a wallet. -/
structure WalletCandidate where
  contractId : String
  birthWasmHash : String
  creationTransactionHash : String
  creationLedger : JsNumber

/-- A candidate as the indexer gives it. -/
structure IndexedWalletCandidate extends WalletCandidate where
  currentWasmHash : String
  derivedAddress : Bool
  collision : Bool

/-- The result of a reverse lookup. -/
structure WalletCandidateLookup where
  schema : ℕ
  complete : Bool
  indexedThroughLedger : JsNumber
  candidates : List IndexedWalletCandidate

/-- What `getTransaction` finds. The envelope is what the SDK decodes from it. -/
inductive GetTransactionResponse where
  | success (ledger : JsNumber) (envelope : Except JsError DecodedEnvelope)
  | failed
  | notFound

/-- A transaction in the history service. -/
structure HistoricalTransaction where
  successful : Bool
  hash : String
  ledgerAttr : JsNumber
  envelope : Except JsError DecodedEnvelope

/-- A failed request to the history service, with the status of its response. -/
structure HistoryError where
  error : JsError
  status : Option ℕ

/-- An assertion of a passkey. -/
structure FreshAssertion where
  id : String
  response : AuthenticationResponse

/-- An assertion and the challenge it answers. -/
structure FreshOwnershipProof where
  response : FreshAssertion
  challenge : String

/-- A new passkey. -/
structure CreatedPasskey where
  credentialId : String
  publicKey : Bytes

/-- The arguments of the contract client's `deploy`. The deployer is the address of the salt
preimage, and unless it is shared also the source of the transaction. -/
structure DeployArgs where
  signers : List Signer
  policies : List (String × ScVal)
  wasmHash : String
  deployer : String
  sharedDeployer : Bool
  salt : BytesN 32

/-- A simulated deployment: the operations of the transaction that was built, the authorization
entries that simulation returned, if it did not fail, and the ledger it ran at. -/
structure AssembledTransaction where
  operations : Option (List TransactionOperation)
  simulatedAuth : Except JsError (List SorobanAuthorizationEntry)
  latestLedger : Option UInt32

/-- An assembled deployment, or the signed authorization that a relayer submits. -/
inductive DeployTransaction where
  | assembled (tx : AssembledTransaction)
  | authEntry (func : HostFunction) (auth : List SorobanAuthorizationEntry)

/-- A signed transaction, as its envelope text, with its hash. -/
structure SignedTransaction where
  envelope : String
  hash : String

/-- What the relayer answers. -/
structure RelayerResponse where
  success : Bool
  hash : Option String
  error : Option String

/-- What polling a transaction ends with. -/
inductive PollResponse where
  | success (ledger : Option JsNumber)
  | failed
  | notFound

/-- A transaction that was sent and polled. -/
structure SentTransaction where
  hash : Option String
  response : Option PollResponse

/-- Why sending failed: the transaction is still pending, or another error. -/
inductive SendError where
  | stillPending
  | other (error : JsError)

/-! ## Requests -/

/-- A request of the wallet lifecycle. -/
inductive WalletRequest where
  -- storage
  | getCredential (credentialId : String)
  | getAllCredentials
  | saveCredential (credential : StoredCredential)
  | updateCredential (credentialId : String) (updates : CredentialUpdates)
  | deleteCredential (credentialId : String)
  | getSession
  | saveSession (session : StoredSession)
  | clearSession
  -- the kit, its listeners and the clock
  | setConnectedState (contractId credentialId : String)
  | emit (event : KitEvent)
  | dateNow
  -- network and indexer
  | getContractData (contractId : String)
  | getLatestLedger
  | lookupWalletCandidates (credentialId : String)
  | getTransaction (hash : String)
  | getHistoricalTransaction (hash : String)
  | readContextRule (contractId : String) (contextRuleId : UInt32)
  | pollTransaction (hash : String)
  -- passkeys
  | createPasskey
  | generateChallenge
  | startAuthentication (challenge : String)
  | authenticateCredential (credentialId : String)
  | importKey (publicKey : Bytes)
  | verifySignature (publicKey signature signed : Bytes)
  -- deployment
  | simulateDeployment (args : DeployArgs)
  | randomAuthEntryNonce
  | signAuthEntryPreimage (preimage : HashIdPreimage)
  | signWithDeployer (tx : AssembledTransaction)
  | sendTransaction (tx : AssembledTransaction) (signed : Option SignedTransaction)
  | relayerSend (func : HostFunction) (auth : List SorobanAuthorizationEntry)
  | relayerSendXdr (signed : SignedTransaction)
  | fundWallet (nativeTokenContract : String)

/-- What a request is answered with. Emitting an event fails if a listener and the error handler of
the emitter throw. -/
abbrev WalletReply : WalletRequest → Type
  | .getCredential _ => Option StoredCredential
  | .getAllCredentials => List StoredCredential
  | .saveCredential _ => Unit
  | .updateCredential _ _ => Unit
  | .deleteCredential _ => Unit
  | .getSession => Option StoredSession
  | .saveSession _ => Unit
  | .clearSession => Unit
  | .setConnectedState _ _ => Unit
  | .emit _ => Except JsError Unit
  | .dateNow => ℕ
  | .getContractData _ => Except JsError ContractExecutable
  | .getLatestLedger => Except JsError UInt32
  | .lookupWalletCandidates _ => Except JsError (Option WalletCandidateLookup)
  | .getTransaction _ => Except JsError GetTransactionResponse
  | .getHistoricalTransaction _ => Except HistoryError HistoricalTransaction
  | .readContextRule _ _ => Except JsError ContextRule
  | .pollTransaction _ => Except JsError PollResponse
  | .createPasskey => Except JsError CreatedPasskey
  | .generateChallenge => String
  | .startAuthentication _ => Except JsError FreshAssertion
  | .authenticateCredential _ => Except JsError FreshOwnershipProof
  | .importKey _ => Bool
  | .verifySignature _ _ _ => Except JsError Bool
  | .simulateDeployment _ => Except JsError AssembledTransaction
  | .randomAuthEntryNonce => Int64
  | .signAuthEntryPreimage _ => Bytes
  | .signWithDeployer _ => Except JsError (Option SignedTransaction)
  | .sendTransaction _ _ => Except SendError SentTransaction
  | .relayerSend _ _ => Except JsError RelayerResponse
  | .relayerSendXdr _ => Except JsError RelayerResponse
  | .fundWallet _ => Except JsError TransactionResult

abbrev WalletEnvironment : Interface := { Request := WalletRequest, Reply := WalletReply }

/-- A run of wallet lifecycle code. -/
abbrev WalletProgram (α : Type) := Program WalletEnvironment JsError α

/-- A request that writes to the storage, connects the kit or tells its listeners so. -/
def WalletRequest.isWrite : WalletRequest → Bool
  | .saveCredential _ | .updateCredential _ _ | .deleteCredential _ | .saveSession _
  | .clearSession | .setConnectedState _ _ | .emit _ => true
  | _ => false

/-- A program that writes nothing. -/
def WritesNothing {ε α : Type} (p : Program WalletEnvironment ε α) : Prop :=
  Program.Exchanges (fun request : WalletRequest => request.isWrite = false) (fun _ => True) p

/-- A request to the indexer. -/
def WalletRequest.isLookup : WalletRequest → Bool
  | .lookupWalletCandidates _ => true
  | _ => false

/-- A program that writes nothing and does not ask the indexer. -/
def OnlyVerifies {ε α : Type} (p : Program WalletEnvironment ε α) : Prop :=
  Program.Exchanges (fun request : WalletRequest => request.isWrite = false ∧
    request.isLookup = false) (fun _ => True) p

theorem onlyVerifies_await {ε α : Type} {r : WalletRequest} {read : WalletReply r → Except ε α}
    (h : r.isWrite = false ∧ r.isLookup = false) :
    OnlyVerifies (Program.await (I := WalletEnvironment) r read) :=
  Program.exchanges_await h fun _ _ => trivial

theorem OnlyVerifies.writesNothing {ε α : Type} {p : Program WalletEnvironment ε α}
    (h : OnlyVerifies p) : WritesNothing p :=
  Program.Exchanges.mono h fun _ hr => hr.1

/-- A request that checks a wallet: on the chain, or the signature of an assertion. -/
def WalletRequest.isCheck : WalletRequest → Bool
  | .getTransaction _ | .getHistoricalTransaction _ | .readContextRule _ _ | .getLatestLedger
  | .importKey _ | .verifySignature _ _ _ => true
  | _ => false

/-- A program that only checks a wallet. -/
def OnlyChecks {ε α : Type} (p : Program WalletEnvironment ε α) : Prop :=
  Program.Exchanges (fun request : WalletRequest => request.isCheck = true) (fun _ => True) p

theorem onlyChecks_await {ε α : Type} {r : WalletRequest} {read : WalletReply r → Except ε α}
    (h : r.isCheck = true) :
    OnlyChecks (Program.await (I := WalletEnvironment) r read) :=
  Program.exchanges_await h fun _ _ => trivial

theorem OnlyChecks.onlyVerifies {ε α : Type} {p : Program WalletEnvironment ε α}
    (h : OnlyChecks p) : OnlyVerifies p := by
  refine Program.Exchanges.mono h fun r hr => ?_
  cases r <;> first | exact ⟨rfl, rfl⟩ | exact nomatch hr

/-! ## The credential storage -/

/-- The stored credentials, in the order in which their ids were first saved. -/
abbrev CredentialStore := List StoredCredential

namespace CredentialStore

def get (store : CredentialStore) (credentialId : String) : Option StoredCredential :=
  store.find? fun credential => credential.credentialId == credentialId

/-- Save a credential; one that is there keeps its place. -/
def save (store : CredentialStore) (credential : StoredCredential) : CredentialStore :=
  if store.any fun c => c.credentialId == credential.credentialId then
    store.map fun c => if c.credentialId == credential.credentialId then credential else c
  else store ++ [credential]

def update (store : CredentialStore) (credentialId : String) (updates : CredentialUpdates) :
    CredentialStore :=
  store.map fun c => if c.credentialId == credentialId then c.apply updates else c

def delete (store : CredentialStore) (credentialId : String) : CredentialStore :=
  store.filter fun c => c.credentialId != credentialId

def getByContract (store : CredentialStore) (contractId : String) : List StoredCredential :=
  store.filter fun c => c.contractId == contractId

end CredentialStore

/-- The storage with its two parts. -/
structure WalletStorage where
  credentials : CredentialStore
  session : Option StoredSession

/-- The in-memory storage adapter. -/
def walletMemory : Memory WalletEnvironment WalletStorage where
  serve
    | .getCredential credentialId, s => some (s.credentials.get credentialId, s)
    | .getAllCredentials, s => some (s.credentials, s)
    | .saveCredential credential, s =>
      some ((), { s with credentials := s.credentials.save credential })
    | .updateCredential credentialId updates, s =>
      some ((), { s with credentials := s.credentials.update credentialId updates })
    | .deleteCredential credentialId, s =>
      some ((), { s with credentials := s.credentials.delete credentialId })
    | .getSession, s => some (s.session, s)
    | .saveSession session, s => some ((), { s with session := some session })
    | .clearSession, s => some ((), { s with session := none })
    | _, _ => none

/-! ## Steady environments -/

/-- How a steady environment answers: its chain, its indexer, its relayer and its passkeys. -/
structure SteadyWallet where
  instanceExecutable : Except JsError ContractExecutable
  ledger : UInt32
  lookup : Option WalletCandidateLookup
  transaction : GetTransactionResponse
  rule : ContextRule
  passkey : CreatedPasskey
  simulated : AssembledTransaction
  signed : SignedTransaction
  sent : Except SendError SentTransaction
  relayed : RelayerResponse
  polled : PollResponse

/-- The replies of a steady environment, with an empty storage. -/
def SteadyWallet.reply (s : SteadyWallet) : (r : WalletRequest) → WalletReply r
  | .getCredential _ => none
  | .getAllCredentials => []
  | .saveCredential _ => ()
  | .updateCredential _ _ => ()
  | .deleteCredential _ => ()
  | .getSession => none
  | .saveSession _ => ()
  | .clearSession => ()
  | .setConnectedState _ _ => ()
  | .emit _ => .ok ()
  | .dateNow => 0
  | .getContractData _ => s.instanceExecutable
  | .getLatestLedger => .ok s.ledger
  | .lookupWalletCandidates _ => .ok s.lookup
  | .getTransaction _ => .ok s.transaction
  | .getHistoricalTransaction _ => .error ⟨JsError.plain "Not Found", some 404⟩
  | .readContextRule _ _ => .ok s.rule
  | .pollTransaction _ => .ok s.polled
  | .createPasskey => .ok s.passkey
  | .generateChallenge => ""
  | .startAuthentication _ => .error (JsError.plain "NotAllowedError")
  | .authenticateCredential _ => .error (JsError.plain "NotAllowedError")
  | .importKey _ => true
  | .verifySignature _ _ _ => .ok true
  | .simulateDeployment _ => .ok s.simulated
  | .randomAuthEntryNonce => 0
  | .signAuthEntryPreimage _ => []
  | .signWithDeployer _ => .ok (some s.signed)
  | .sendTransaction _ _ => s.sent
  | .relayerSend _ _ => .ok s.relayed
  | .relayerSendXdr _ => .ok s.relayed
  | .fundWallet _ => .error (JsError.plain "fetch failed")

end SmartAccountKit
