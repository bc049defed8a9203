import SmartAccountKit.CompactSignature
import SmartAccountKit.Kit
import SmartAccountKit.Lib.DoubleText
import SmartAccountKit.Lib.Lists
import SmartAccountKit.Policies
import SmartAccountKit.WalletRequests

/-!
# Wallet birth and ownership

The birth of a wallet is verified against the transaction that created it: its
address, its deployer and salt, its code and its constructor. Ownership is
verified with a fresh passkey assertion.
-/

namespace SmartAccountKit
open Lib

def P256_PUBLIC_KEY_SIZE : ℕ := 65

def AUTHENTICATOR_DATA_MIN_SIZE : ℕ := 37

/-! ## Stops -/

/-- Why a verification ends early: it fails for a reason, or an error is thrown. -/
inductive Stop (ρ : Type) where
  | fail (reason : ρ) (detail : String)
  | thrown (error : JsError)

/-- The result of a verification. -/
inductive Verdict (ρ α : Type) where
  | ok (value : α)
  | fail (reason : ρ) (detail : String)

/-- Give a failure as a result, and throw an error. -/
def settle {I : Interface} {ρ α : Type} (p : Program I (Stop ρ) α) :
    Program I JsError (Verdict ρ α) := do
  match ← Program.attempt p with
  | .ok value => return .ok value
  | .error (.fail reason detail) => return .fail reason detail
  | .error (.thrown error) => Program.throw error

/-- `Address.fromScAddress(address).toString()`. -/
def addressText (address : ScAddress) : Except JsError String :=
  match address.toStrkey with
  | some text => .ok text
  | none => .error (JsError.plain ("Unsupported address type: " ++ address.switchName))

/-- Let a thrown error through. -/
def orThrow {ρ α : Type} : Except JsError α → Except (Stop ρ) α
  | .ok a => .ok a
  | .error e => .error (.thrown e)

/-! ## Contract addresses -/

/-- The encoding of a contract id preimage. -/
def contractIdHashPreimage (networkPassphrase : String) (preimage : ContractIdPreimage) : Bytes :=
  xdrU32 8 ++ ((networkId networkPassphrase).1 ++ preimage.toXDR)

/-- The address of the contract that a creation with an address preimage creates. -/
def contractIdFromCreateV2 (networkPassphrase : String) (create : CreateContractArgsV2) :
    Option String :=
  match create.contractIdPreimage with
  | .fromAsset _ => none
  | preimage =>
    some (encodeCheck 16 (hash (contractIdHashPreimage networkPassphrase preimage)).1)

def deriveContractAddress (credentialId : Bytes) (deployerPublicKey networkPassphrase : String) :
    Except JsError String := do
  let address ← toScAddress deployerPublicKey
  let preimage := contractIdHashPreimage networkPassphrase
    (.fromAddress address (hash credentialId))
  return encodeCheck 16 (hash preimage).1

/-- The hash of the complete constructor argument vector. -/
def constructorArgsHash (args : List ScVal) : String :=
  toHex (hash (ScVal.vec (some args)).toXDR).1

/-- A 32-byte hash in lower-case hexadecimal text. -/
def IsHashHex (text : String) : Prop :=
  text.length = 64 ∧ ∀ c ∈ text.toList, c ∈ hexAlphabet

instance (text : String) : Decidable (IsHashHex text) :=
  @instDecidableAnd _ _ inferInstance
    (List.decidableBAll (fun c => c ∈ hexAlphabet) text.toList)

def normalizeHashHex (value : String) : Option String :=
  let normalized := value.map Char.toLower
  if IsHashHex normalized then some normalized else none

/-! ## The constructor -/

inductive WalletBirthFailure where
  | invalid_candidate
  | transaction_not_found
  | transaction_failed
  | transaction_hash_mismatch
  | ledger_mismatch
  | contract_not_created
  | ambiguous_creation
  | deployer_mismatch
  | salt_mismatch
  | wasm_mismatch
  | wasm_not_accepted
  | constructor_mismatch
deriving DecidableEq

/-- The text of a reason. -/
def WalletBirthFailure.name : WalletBirthFailure → String
  | invalid_candidate => "invalid_candidate"
  | transaction_not_found => "transaction_not_found"
  | transaction_failed => "transaction_failed"
  | transaction_hash_mismatch => "transaction_hash_mismatch"
  | ledger_mismatch => "ledger_mismatch"
  | contract_not_created => "contract_not_created"
  | ambiguous_creation => "ambiguous_creation"
  | deployer_mismatch => "deployer_mismatch"
  | salt_mismatch => "salt_mismatch"
  | wasm_mismatch => "wasm_mismatch"
  | wasm_not_accepted => "wasm_not_accepted"
  | constructor_mismatch => "constructor_mismatch"

/-- A verified birth. -/
structure VerifiedWalletBirth extends WalletCandidate where
  constructorArgsHash : String
  birthSigner : Signer

structure WalletBirthVerificationDeps where
  hasHistory : Bool
  networkPassphrase : String
  acceptedBirthWasmHashes : List String
  webauthnVerifierAddress : String
  expectedDeployer : Option String := none
  expectedSalt : Option Bytes := none
  expectedConstructorArgsHash : Option String := none
  expectedPolicies : Option (List PolicyConfig) := none

abbrev BirthStop := Stop WalletBirthFailure

abbrev WalletBirthResult := Verdict WalletBirthFailure VerifiedWalletBirth

/-- The policy map that a constructor is expected to have. -/
def expectedPoliciesScVal (policies : List PolicyConfig) : Except JsError ScVal := do
  let entries ← (← buildConstructorPolicies policies).mapM fun e => do
    return (ScVal.address (← toScAddress e.1), e.2)
  return .map (some (sortBy compareKeys entries))

/-- The one initial signer of a constructor. -/
def constructorSigner (args : List ScVal) (webauthnVerifierAddress : String) :
    Except BirthStop Signer :=
  match args with
  | [.vec signerValues, _] =>
    match signerValues.getD [] with
    | [signerValue] =>
      match parseSignerScVal signerValue with
      | .error _ => .error (.fail .constructor_mismatch "the initial signer cannot be decoded")
      | .ok (.external verifier keyData) =>
        if verifier ≠ webauthnVerifierAddress ∨ keyData.length ≤ P256_PUBLIC_KEY_SIZE ∨
            keyData.head? ≠ some 4 then
          .error (.fail .constructor_mismatch
            "the initial signer is not one valid WebAuthn signer for the configured verifier")
        else .ok (.external verifier keyData)
      | .ok (.delegated _) =>
        .error (.fail .constructor_mismatch
          "the initial signer is not one valid WebAuthn signer for the configured verifier")
    | _ => .error (.fail .constructor_mismatch
        "the wallet constructor must contain exactly one initial signer")
  | _ => .error (.fail .constructor_mismatch
      "the wallet constructor must contain one signer vector and one policy map")

/-- The arguments are the approved ones: those of the local record, or those with the expected
policies. -/
def checkConstructorArgs (args : List ScVal) (deps : WalletBirthVerificationDeps) :
    Except BirthStop Unit :=
  match nonEmptyText deps.expectedConstructorArgsHash with
  | some expected =>
    match normalizeHashHex expected with
    | none => .error (.fail .constructor_mismatch "the expected constructor hash is malformed")
    | some expectedArgsHash =>
      if constructorArgsHash args ≠ expectedArgsHash then
        .error (.fail .constructor_mismatch ("the immutable constructor arguments do not match " ++
          "the locally approved deployment"))
      else .ok ()
  | none => do
    let expectedPolicies ← orThrow (expectedPoliciesScVal (deps.expectedPolicies.getD []))
    throwIf ((args[1]?.map ScVal.toXDR) ≠ some expectedPolicies.toXDR)
      (.fail .constructor_mismatch ("the immutable constructor policies do not match " ++
        "the expected policy configuration"))

/-- The signer and the argument hash of an accepted constructor. -/
def validateConstructor (create : CreateContractArgsV2) (deps : WalletBirthVerificationDeps) :
    Except BirthStop (Signer × String) := do
  let signer ← constructorSigner create.constructorArgs deps.webauthnVerifierAddress
  checkConstructorArgs create.constructorArgs deps
  return (signer, constructorArgsHash create.constructorArgs)

/-! ## The creation -/

/-- The creation operations of a transaction that create a contract. -/
def matchingCreations (networkPassphrase contractId : String) (tx : DecodedTransaction) :
    List CreateContractArgsV2 :=
  (tx.operations.filterMap TransactionOperation.createContractV2?).filter fun create =>
    contractIdFromCreateV2 networkPassphrase create == some contractId

/-- The deployer is the expected one, if there is one. -/
def checkDeployer (address : ScAddress) (expectedDeployer : Option String) :
    Except BirthStop Unit :=
  match nonEmptyText expectedDeployer with
  | none => .ok ()
  | some expectedDeployer => do
    let actualDeployer ← orThrow (addressText address)
    throwIf (actualDeployer ≠ expectedDeployer)
      (.fail .deployer_mismatch "the wallet used an unexpected deployer")

/-- The salt is the expected one, if there is one. -/
def checkSalt (salt : BytesN 32) (expectedSalt : Option Bytes) : Except BirthStop Unit :=
  match expectedSalt with
  | none => .ok ()
  | some expectedSalt => throwIf (salt.1 ≠ expectedSalt)
      (.fail .salt_mismatch "the wallet used an unexpected address salt")

def checkContractIdPreimage (preimage : ContractIdPreimage) (deps : WalletBirthVerificationDeps) :
    Except BirthStop Unit :=
  match preimage with
  | .fromAsset _ =>
    .error (.fail .contract_not_created "the wallet did not use an address preimage")
  | .fromAddress address salt => do
    checkDeployer address deps.expectedDeployer
    checkSalt salt deps.expectedSalt

/-- The code of the creation is the claimed code, and accepted. -/
def checkExecutable (executable : ContractExecutable) (claimedWasm : String)
    (acceptedBirthWasmHashes : List String) : Except BirthStop Unit :=
  match executable with
  | .wasm wasmHash =>
    let actualWasm := toHex wasmHash.1
    if actualWasm ≠ claimedWasm then
      .error (.fail .wasm_mismatch
        ("birth WASM " ++ actualWasm ++ " does not equal claimed WASM " ++ claimedWasm))
    else if actualWasm ∉ acceptedBirthWasmHashes.filterMap normalizeHashHex then
      .error (.fail .wasm_not_accepted ("birth WASM " ++ actualWasm ++ " is not accepted"))
    else .ok ()
  | _ => .error (.fail .contract_not_created "the wallet birth did not use WASM code")

/-- The one operation of the claimed transaction that created the candidate's contract. -/
def findCreation (deps : WalletBirthVerificationDeps) (candidate : WalletCandidate)
    (txHash : String) (envelope : DecodedEnvelope) : Except BirthStop CreateContractArgsV2 :=
  if toHex envelope.hash.1 ≠ txHash then
    .error (.fail .transaction_hash_mismatch
      "the transaction envelope does not match the claimed transaction hash")
  else
    match matchingCreations deps.networkPassphrase candidate.contractId
        envelope.innerTransaction with
    | [create] => .ok create
    | [] => .error (.fail .contract_not_created
        "the transaction did not directly create the candidate contract")
    | _ => .error (.fail .ambiguous_creation
        "the transaction contains multiple matching CreateContractV2 operations")

/-- Check the creation in the envelope of the claimed transaction. -/
def verifyCreation (deps : WalletBirthVerificationDeps) (candidate : WalletCandidate)
    (claimedWasm txHash : String) (envelope : DecodedEnvelope) :
    Except BirthStop VerifiedWalletBirth := do
  let create ← findCreation deps candidate txHash envelope
  checkContractIdPreimage create.contractIdPreimage deps
  checkExecutable create.executable claimedWasm deps.acceptedBirthWasmHashes
  let (birthSigner, constructorArgsHash) ← validateConstructor create deps
  return { candidate with
    birthWasmHash := claimedWasm
    creationTransactionHash := txHash
    constructorArgsHash := constructorArgsHash
    birthSigner := birthSigner }

/-- The claimed transaction in the history service. -/
def readHistoricalTransaction (txHash : String) :
    Program WalletEnvironment BirthStop (JsNumber × Except JsError DecodedEnvelope) :=
  Program.await (.getHistoricalTransaction txHash) fun
    | .ok historical =>
      if !historical.successful then
        .error (.fail .transaction_failed "the historical creation transaction failed")
      else if historical.hash.map Char.toLower ≠ txHash then
        .error (.fail .transaction_hash_mismatch
          "the history response returned a different transaction hash")
      else .ok (historical.ledgerAttr, historical.envelope)
    | .error error =>
      if error.status ≠ some 404 then .error (.thrown error.error)
      else .error (.fail .transaction_not_found
        "the creation transaction is unavailable from RPC and history")

/-- The ledger and the envelope of the claimed transaction, from the network or its history. -/
def readCreationTransaction (hasHistory : Bool) (txHash : String) :
    Program WalletEnvironment BirthStop (JsNumber × Except JsError DecodedEnvelope) := do
  match ← Program.await (.getTransaction txHash) orThrow with
  | .success ledger envelope => return (ledger, envelope)
  | .failed => Program.throw (.fail .transaction_failed "the claimed creation transaction failed")
  | .notFound =>
    if hasHistory then readHistoricalTransaction txHash
    else Program.throw (.fail .transaction_not_found
      ("the creation transaction is outside RPC retention and no history source is " ++
        "configured"))

/-- The claimed code and transaction hash of a candidate that is well formed. -/
def readCandidate (candidate : WalletCandidate) : Except BirthStop (String × String) :=
  match normalizeHashHex candidate.birthWasmHash,
      normalizeHashHex candidate.creationTransactionHash with
  | some claimedWasm, some txHash =>
    if !candidate.creationLedger.isSafeInteger ∨ candidate.creationLedger.lt (.ofNat 1) then
      .error (.fail .invalid_candidate "wallet birth metadata is malformed")
    else .ok (claimedWasm, txHash)
  | _, _ => .error (.fail .invalid_candidate "wallet birth metadata is malformed")

/-- Verify a birth claim against the transaction history. -/
def verifyWalletBirth (deps : WalletBirthVerificationDeps) (candidate : WalletCandidate) :
    WalletProgram WalletBirthResult :=
  settle do
    let (claimedWasm, txHash) ← Program.ofExcept (readCandidate candidate)
    let (ledger, envelope) ← readCreationTransaction deps.hasHistory txHash
    if ledger ≠ candidate.creationLedger then
      Program.throw (.fail .ledger_mismatch
        ("creation ledger " ++ numberText ledger ++ " does not equal claimed ledger " ++
          numberText candidate.creationLedger))
    else do
      let envelope ← Program.ofExcept (orThrow envelope)
      Program.ofExcept (verifyCreation deps candidate claimedWasm txHash envelope)

/-! ## Signers -/

/-- The uncompressed public key in a passkey signer's key data. -/
def publicKeyFromExternalSigner : Signer → Option Bytes
  | .delegated _ => none
  | .external _ keyData =>
    if keyData.length ≤ P256_PUBLIC_KEY_SIZE ∨ keyData.head? ≠ some 4 then none
    else some (keyData.take P256_PUBLIC_KEY_SIZE)

/-- Whether a signer is the passkey with a public key and a credential id. -/
def signerMatchesCredential (signer : Signer) (verifierAddress : String) (publicKey : Bytes)
    (credentialId : String) : Bool :=
  signersEqual signer (.external verifierAddress (publicKey ++ fromBase64 credentialId))

end SmartAccountKit
