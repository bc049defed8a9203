import SmartAccountKit.Lib.JsMap
import SmartAccountKit.Credentials

/-!
# Adding a passkey

`addPasskey` creates a passkey, stores its record as a verified association of the
wallet, and builds the transaction that adds its signer. The record is stored
before the signer is checked and the transaction is built.
-/

namespace SmartAccountKit
open Lib

/-! ## Records and requests -/

inductive DeviceType where
  | singleDevice
  | multiDevice
deriving DecidableEq

/-- A stored credential with all its fields. -/
structure CredentialRecord where
  credentialId : String
  publicKey : Bytes
  contractId : String
  nickname : Option String := none
  createdAt : JsNumber
  lastUsedAt : Option JsNumber := none
  transports : Option (List String) := none
  deviceType : Option DeviceType := none
  backedUp : Option Bool := none
  contextRuleId : Option JsNumber := none
  isPrimary : Option Bool := none
  deploymentStatus : Option CredentialDeploymentStatus := none
  deploymentError : Option String := none
  birthWasmHash : Option String := none
  creationTransactionHash : Option String := none
  deploymentTransactionHash : Option String := none
  creationLedger : Option JsNumber := none
  birthConstructorArgsHash : Option String := none
  associationVerified : Option Bool := none
deriving DecidableEq

/-- The fields that the wallet lifecycle reads. -/
def CredentialRecord.stored (record : CredentialRecord) : StoredCredential where
  credentialId := record.credentialId
  publicKey := record.publicKey
  contractId := record.contractId
  contextRuleId := record.contextRuleId.bind JsNumber.toU32
  isPrimary := record.isPrimary
  deploymentStatus := record.deploymentStatus
  deploymentError := record.deploymentError
  birthWasmHash := record.birthWasmHash
  creationTransactionHash := record.creationTransactionHash
  deploymentTransactionHash := record.deploymentTransactionHash
  creationLedger := record.creationLedger
  birthConstructorArgsHash := record.birthConstructorArgsHash
  associationVerified := record.associationVerified

/-- A passkey that the browser has created. -/
structure RegisteredPasskey where
  credentialId : String
  publicKey : Bytes
  transports : Option (List String)

/-- The stored credentials by their ids. -/
abbrev RecordStore := JsMap String CredentialRecord

inductive SignerManagerRequest where
  | getByContract (contractId : String)
  | createPasskey (appName userName : String)
  | localeDate
  | dateNow
  | save (record : CredentialRecord)
  | emitCredentialCreated (record : CredentialRecord)
  | addSigner (contextRuleId : JsNumber) (signer : Signer)

/-- What a request is answered with. Emitting the event fails if a listener and the error handler of
the emitter throw. -/
abbrev SignerManagerReply : SignerManagerRequest → Type
  | .getByContract _ => List CredentialRecord
  | .createPasskey _ _ => Except JsError RegisteredPasskey
  | .localeDate => String
  | .dateNow => ℕ
  | .save _ => Unit
  | .emitCredentialCreated _ => Except JsError Unit
  | .addSigner _ _ => Except JsError AssembledTransaction

abbrev SignerManagerEnvironment : Interface :=
  { Request := SignerManagerRequest, Reply := SignerManagerReply }

abbrev SignerManagerProgram (α : Type) := Program SignerManagerEnvironment JsError α

/-- The storage that the manager writes to. -/
def recordMemory : Memory SignerManagerEnvironment RecordStore where
  serve
    | .getByContract contractId, s =>
      some (s.values.filter fun record => record.contractId = contractId, s)
    | .save record, s => some ((), s.set record.credentialId record)
    | _, _ => none

/-! ## The manager -/

/-- What the manager is made with. `requireWallet` gives the connected contract, or an error. -/
structure SignerManagerDeps where
  requireWallet : Except JsError String
  webauthnVerifierAddress : String

/-- The first of some records that has the facts of a verified birth. -/
def findVerified (records : List CredentialRecord) : Option CredentialRecord :=
  records.find? fun record => hasVerifiedBirth record.stored

/-- What `addPasskey` returns. -/
structure AddedPasskey where
  credentialId : String
  publicKey : Bytes
  transaction : AssembledTransaction

namespace SignerManager

/-- The name of a passkey, if none is given for it. -/
def defaultNickname (userName date : String) : String := userName ++ " - " ++ date

def chosenNickname (userName : String) : Option String → SignerManagerProgram String
  | some nickname => pure nickname
  | none => do
    let date ← Program.await .localeDate .ok
    return defaultNickname userName date

/-- The record that is stored for a new passkey. -/
def associationRecord (contractId : String) (contextRuleId : JsNumber)
    (verifiedWallet : CredentialRecord) (passkey : RegisteredPasskey) (nickname : String)
    (now : ℕ) : CredentialRecord where
  credentialId := passkey.credentialId
  publicKey := passkey.publicKey
  contractId := contractId
  nickname := some nickname
  createdAt := .ofNat now
  transports := passkey.transports
  isPrimary := some false
  contextRuleId := some contextRuleId
  deploymentStatus := some .deployed
  associationVerified := some true
  birthWasmHash := verifiedWallet.birthWasmHash
  creationTransactionHash := verifiedWallet.creationTransactionHash
  creationLedger := verifiedWallet.creationLedger
  birthConstructorArgsHash := verifiedWallet.birthConstructorArgsHash

/-- The signer of a passkey. -/
def passkeySigner (deps : SignerManagerDeps) (passkey : RegisteredPasskey) : Signer :=
  .external deps.webauthnVerifierAddress
    (buildKeyData passkey.publicKey (fromBase64 passkey.credentialId))

/-- Store the record of a passkey, and build the transaction that adds its signer. -/
def associate (deps : SignerManagerDeps) (contextRuleId : JsNumber) (passkey : RegisteredPasskey)
    (storedCredential : CredentialRecord) : SignerManagerProgram AddedPasskey := do
  Program.await (.save storedCredential) .ok
  Program.await (.emitCredentialCreated storedCredential) id
  let signer := passkeySigner deps passkey
  Program.ofExcept (validateSigner signer none)
  let transaction ← Program.await (.addSigner contextRuleId signer) id
  return { credentialId := passkey.credentialId, publicKey := passkey.publicKey, transaction }

/-- Create a passkey for a wallet whose birth is verified, and associate it. -/
def createAssociated (deps : SignerManagerDeps) (contextRuleId : JsNumber)
    (appName userName : String) (nickname : Option String) (contractId : String) :
    Option CredentialRecord → SignerManagerProgram AddedPasskey
  | none => Program.throw (JsError.plain
      "Cannot add a passkey before the connected wallet birth is verified")
  | some verifiedWallet => do
    let passkey ← Program.await (.createPasskey appName userName) id
    let nickname ← chosenNickname userName nickname
    let now ← Program.await .dateNow .ok
    associate deps contextRuleId passkey
      (associationRecord contractId contextRuleId verifiedWallet passkey nickname now)

/-- Add a new passkey as a signer of a context rule. -/
def addPasskey (deps : SignerManagerDeps) (contextRuleId : JsNumber) (appName userName : String)
    (nickname : Option String) : SignerManagerProgram AddedPasskey := do
  let contractId ← Program.ofExcept deps.requireWallet
  let records ← Program.await (.getByContract contractId) .ok
  createAssociated deps contextRuleId appName userName nickname contractId (findVerified records)

/-! ## Failed calls -/

section failure

variable (reply : (r : SignerManagerRequest) → SignerManagerReply r) (deps : SignerManagerDeps)
  (contextRuleId : JsNumber)

/-- What comes after the record is stored succeeds: the event is emitted, the key data is not too
long, and the transaction is built. -/
def AssociationSucceeds (passkey : RegisteredPasskey) (record : CredentialRecord) : Prop :=
  (reply (.emitCredentialCreated record)).isOk = true ∧
    (buildKeyData passkey.publicKey (fromBase64 passkey.credentialId)).length ≤ 256 ∧
    (reply (.addSigner contextRuleId (passkeySigner deps passkey))).isOk = true

theorem validateSigner_passkeySigner {passkey : RegisteredPasskey} :
    validateSigner (passkeySigner deps passkey) none = .ok () ↔
      (buildKeyData passkey.publicKey (fromBase64 passkey.credentialId)).length ≤ 256 :=
  validateSigner_eq_ok

/-- A record is stored, whatever comes after it. -/
theorem execute_associate (passkey : RegisteredPasskey) (record : CredentialRecord)
    (store : RecordStore) :
    (recordMemory.execute reply (associate deps contextRuleId passkey record) store).state =
        store.set record.credentialId record ∧
      ((recordMemory.execute reply (associate deps contextRuleId passkey record) store).result.isOk
        = true ↔ AssociationSucceeds reply deps contextRuleId passkey record) := by
  unfold AssociationSucceeds
  rw [← validateSigner_passkeySigner]
  simp only [associate, Program.bind_eq, Program.await, Program.ofExcept, Program.bind,
    Memory.execute, recordMemory, id]
  cases hemit : reply (.emitCredentialCreated record) with
  | error e => exact ⟨rfl, by simp [Program.bind, Memory.execute, Except.isOk, Except.toBool]⟩
  | ok u =>
    simp only [Program.bind]
    cases hvalid : validateSigner (passkeySigner deps passkey) none with
    | error e => exact ⟨rfl, by simp [Program.bind, Memory.execute, Except.isOk, Except.toBool]⟩
    | ok u' =>
      simp only [Program.bind, Memory.execute]
      cases hadd : reply (.addSigner contextRuleId (passkeySigner deps passkey)) with
      | error e => exact ⟨rfl, by simp [Program.bind, Memory.execute, Except.isOk, Except.toBool]⟩
      | ok transaction =>
        exact ⟨rfl, by simp [Program.bind, Memory.execute, pure, Except.isOk, Except.toBool]⟩

/-- The records of a contract, as `addPasskey` reads them. -/
def recordsOf (store : RecordStore) (contractId : String) : List CredentialRecord :=
  store.values.filter fun record => record.contractId = contractId

/-- A passkey is created for the connected wallet, whose birth is verified. The record for it is the
one that is stored. -/
structure CreatesPasskey (appName userName : String) (nickname : Option String)
    (store : RecordStore) (passkey : RegisteredPasskey) (record : CredentialRecord) : Prop where
  created : reply (.createPasskey appName userName) = .ok passkey
  verified : ∃ contractId verifiedWallet, deps.requireWallet = .ok contractId ∧
    findVerified (recordsOf store contractId) = some verifiedWallet ∧
    record = associationRecord contractId contextRuleId verifiedWallet passkey
      (nickname.getD (defaultNickname userName (reply .localeDate))) (reply .dateNow)

variable {reply deps contextRuleId}

section call

variable {appName userName : String} {nickname : Option String} {store : RecordStore}

/-- Creating and associating a passkey is executed as its association alone, with the record for
it. -/
theorem execute_createAssociated {contractId : String} {verifiedWallet : CredentialRecord}
    {passkey : RegisteredPasskey} (hcreated : reply (.createPasskey appName userName) = .ok passkey) :
    let record := associationRecord contractId contextRuleId verifiedWallet passkey
      (nickname.getD (defaultNickname userName (reply .localeDate))) (reply .dateNow)
    let whole := recordMemory.execute reply (createAssociated deps contextRuleId appName userName
      nickname contractId (some verifiedWallet)) store
    let last := recordMemory.execute reply (associate deps contextRuleId passkey record) store
    whole.result = last.result ∧ whole.state = last.state := by
  simp only [createAssociated, Program.bind_eq, Program.await, Program.bind, Memory.execute,
    recordMemory, id]
  rw [hcreated]
  cases nickname with
  | none => exact ⟨rfl, rfl⟩
  | some nickname => exact ⟨rfl, rfl⟩

theorem execute_createAssociated_error {contractId : String} {verifiedWallet : CredentialRecord}
    {e : JsError} (hfailed : reply (.createPasskey appName userName) = .error e) :
    (recordMemory.execute reply (createAssociated deps contextRuleId appName userName nickname
      contractId (some verifiedWallet)) store).state = store := by
  simp only [createAssociated, Program.bind_eq, Program.await, Program.bind, Memory.execute,
    recordMemory, id]
  rw [hfailed]
  rfl

/-- With a connected wallet a call goes on with the records of that wallet. -/
theorem execute_addPasskey_of_connected {contractId : String}
    (hwallet : deps.requireWallet = .ok contractId) :
    let whole := recordMemory.execute reply
      (addPasskey deps contextRuleId appName userName nickname) store
    let last := recordMemory.execute reply (createAssociated deps contextRuleId appName userName
      nickname contractId (findVerified (recordsOf store contractId))) store
    whole.result = last.result ∧ whole.state = last.state := by
  unfold addPasskey
  rw [hwallet]
  exact ⟨rfl, rfl⟩

/-- Without a new passkey nothing is stored. -/
theorem execute_addPasskey_of_none
    (h : ∀ passkey record,
      ¬CreatesPasskey reply deps contextRuleId appName userName nickname store passkey record) :
    (recordMemory.execute reply (addPasskey deps contextRuleId appName userName nickname)
      store).state = store := by
  cases hwallet : deps.requireWallet with
  | error e =>
    unfold addPasskey
    rw [hwallet]
    rfl
  | ok contractId =>
    rw [(execute_addPasskey_of_connected hwallet).2]
    cases hverified : findVerified (recordsOf store contractId) with
    | none => rfl
    | some verifiedWallet =>
      cases hpasskey : reply (.createPasskey appName userName) with
      | error e => exact execute_createAssociated_error hpasskey
      | ok passkey =>
        exact absurd ⟨hpasskey, contractId, verifiedWallet, hwallet, hverified, rfl⟩ (h passkey _)

/-- A new passkey is associated. -/
theorem execute_addPasskey_of_creates {passkey : RegisteredPasskey} {record : CredentialRecord}
    (h : CreatesPasskey reply deps contextRuleId appName userName nickname store passkey record) :
    let whole := recordMemory.execute reply
      (addPasskey deps contextRuleId appName userName nickname) store
    let last := recordMemory.execute reply (associate deps contextRuleId passkey record) store
    whole.result = last.result ∧ whole.state = last.state := by
  obtain ⟨contractId, verifiedWallet, hwallet, hverified, rfl⟩ := h.verified
  refine ⟨(execute_addPasskey_of_connected hwallet).1.trans ?_,
    (execute_addPasskey_of_connected hwallet).2.trans ?_⟩
  · rw [hverified]
    exact (execute_createAssociated h.created).1
  · rw [hverified]
    exact (execute_createAssociated h.created).2

/-- The record of a new passkey stands under its id. -/
theorem CreatesPasskey.credentialId_eq {passkey : RegisteredPasskey} {record : CredentialRecord}
    (h : CreatesPasskey reply deps contextRuleId appName userName nickname store passkey record) :
    record.credentialId = passkey.credentialId := by
  obtain ⟨_, _, -, -, hrecord⟩ := h.verified
  rw [hrecord]
  rfl

/-- A call that fails leaves the stored credentials as they were. -/
def FailureLeavesNothing (reply : (r : SignerManagerRequest) → SignerManagerReply r)
    (deps : SignerManagerDeps) (contextRuleId : JsNumber) (appName userName : String)
    (nickname : Option String) (store : RecordStore) : Prop :=
  let call := recordMemory.execute reply
    (addPasskey deps contextRuleId appName userName nickname) store
  call.result.isOk = false → call.state = store

end call

/-- A call of `addPasskey` that fails leaves the stored credentials as they were if and only if it
does not fail after it has stored a record, or the record was stored before. -/
theorem addPasskey_failureLeavesNothing_iff
    (reply : (r : SignerManagerRequest) → SignerManagerReply r) (deps : SignerManagerDeps)
    (contextRuleId : JsNumber) (appName userName : String) (nickname : Option String)
    (store : RecordStore) :
    FailureLeavesNothing reply deps contextRuleId appName userName nickname store ↔
      ∀ passkey record,
        CreatesPasskey reply deps contextRuleId appName userName nickname store passkey record →
        AssociationSucceeds reply deps contextRuleId passkey record ∨
          store.get passkey.credentialId = some record := by
  constructor
  · intro h passkey record hcreates
    by_cases hsucceeds : AssociationSucceeds reply deps contextRuleId passkey record
    · exact Or.inl hsucceeds
    · obtain ⟨hresult, hstate⟩ := execute_addPasskey_of_creates hcreates
      obtain ⟨hstored, hok⟩ := execute_associate reply deps contextRuleId passkey record store
      have hfailed := mt hok.mp hsucceeds
      rw [← hresult] at hfailed
      have hsame := h (eq_false_of_ne_true hfailed)
      rw [hstate, hstored, hcreates.credentialId_eq] at hsame
      exact Or.inr (JsMap.set_eq_self_iff.mp hsame)
  · intro h hfailed
    by_cases hcreates : ∃ passkey record,
      CreatesPasskey reply deps contextRuleId appName userName nickname store passkey record
    · obtain ⟨passkey, record, hcreates⟩ := hcreates
      obtain ⟨hresult, hstate⟩ := execute_addPasskey_of_creates hcreates
      obtain ⟨hstored, hok⟩ := execute_associate reply deps contextRuleId passkey record store
      rcases h passkey record hcreates with hsucceeds | hget
      · rw [hresult, hok.mpr hsucceeds] at hfailed
        exact absurd hfailed (by decide)
      · rw [hstate, hstored, hcreates.credentialId_eq]
        exact JsMap.set_eq_self_iff.mpr hget
    · apply execute_addPasskey_of_none
      intro passkey record hnew
      exact hcreates ⟨passkey, record, hnew⟩

/-! ## A sample failure -/

/-- The record of a wallet whose birth is verified. -/
def sampleVerifiedRecord : CredentialRecord where
  credentialId := "AQ"
  publicKey := List.replicate 65 4
  contractId := sampleContractId 7
  createdAt := .ofNat 0
  deploymentStatus := some .deployed
  birthWasmHash := some ""
  creationTransactionHash := some ""
  creationLedger := some (.ofNat 1)
  birthConstructorArgsHash := some ""

/-- An environment in which a passkey is created, but no transaction is built. -/
def sampleRejection : (r : SignerManagerRequest) → SignerManagerReply r
  | .getByContract _ => []
  | .createPasskey _ _ => .ok
      { credentialId := "Ag", publicKey := List.replicate 65 4, transports := none }
  | .localeDate => "1/1/2026"
  | .dateNow => 1
  | .save _ => ()
  | .emitCredentialCreated _ => .ok ()
  | .addSigner _ _ => .error (JsError.plain "simulation failed")

/-- A passkey is left in the storage when its signer is not added. -/
theorem addPasskey_leaves_record :
    ¬∀ reply deps contextRuleId appName userName nickname store,
      FailureLeavesNothing reply deps contextRuleId appName userName nickname store := by
  intro h
  have hsame := h sampleRejection
    { requireWallet := .ok (sampleContractId 7), webauthnVerifierAddress := sampleContractId 9 }
    (.ofNat 0) "App" "User" none (JsMap.empty.set "AQ" sampleVerifiedRecord)
    (by set_option maxRecDepth 20000 in decide)
  have hcount := congrArg (fun store : RecordStore => store.entries.length) hsame
  exact absurd hcount (by set_option maxRecDepth 20000 in decide)

end failure

end SignerManager

end SmartAccountKit
