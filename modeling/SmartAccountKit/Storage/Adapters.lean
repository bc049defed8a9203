import SmartAccountKit.Errors
import SmartAccountKit.Lib.JsObject
import Mathlib.Logic.Function.Basic

/-!
# Storage adapters

`LocalStorageAdapter` keeps the credentials as one JSON text under its storage key
and the session under a key of its own. Every operation on credentials parses the
text, and the writing ones write it again. `MemoryStorage` keeps both in memory.
-/

namespace SmartAccountKit.Storage
open Lib

/-! ## Credentials and sessions -/

/-- A stored credential as an object. Its public key is a `Uint8Array`. -/
structure Credential where
  object : JsObject
  publicKey : Bytes
  holds_publicKey : object.get "publicKey" = some (.bytes publicKey)

namespace Credential

def read (c : Credential) (name : String) : JsValue := c.object.read name

/-- An object with a public key. -/
def withKey (object : JsObject) (publicKey : Bytes) : Credential where
  object := object.set "publicKey" (.bytes publicKey)
  publicKey := publicKey
  holds_publicKey := by rw [JsMap.get_set, if_pos rfl]

/-- `{ ...credential }`. -/
def copy (c : Credential) : Credential where
  object := c.object.spread
  publicKey := c.publicKey
  holds_publicKey := by rw [JsObject.spread, JsMap.get_inOwnOrder, c.holds_publicKey]

/-- Whether the credential belongs to a contract. -/
def isOf (contractId : String) (c : Credential) : Bool :=
  match c.read "contractId" with
  | .string value => value = contractId
  | _ => false

end Credential

/-- A credential that is saved. Its id is a text. -/
structure NamedCredential extends Credential where
  credentialId : String
  holds_credentialId : object.get "credentialId" = some (.string credentialId)

/-- The changes of an update. They touch neither the id nor the public key. -/
structure CredentialUpdates where
  object : JsObject
  keeps_publicKey : object.get "publicKey" = none
  keeps_credentialId : object.get "credentialId" = none

/-- `{ ...credential, ...updates }`. -/
def Credential.assign (c : Credential) (updates : CredentialUpdates) : Credential where
  object := c.object.assign updates.object
  publicKey := c.publicKey
  holds_publicKey := by
    rw [JsObject.assign, JsMap.get_setAll, JsMap.get_inOwnOrder, updates.keeps_publicKey,
      JsObject.spread, JsMap.get_inOwnOrder, c.holds_publicKey]
    rfl

/-- A session that is saved. -/
structure StoredSession where
  contractId : String
  credentialId : String
  connectedAt : JsNumber
  expiresAt : Option JsNumber := none

/-- A session as an object. An expiry that is not given is `undefined`. -/
def StoredSession.object (session : StoredSession) : JsObject where
  entries := [("contractId", .string session.contractId),
    ("credentialId", .string session.credentialId), ("connectedAt", .number session.connectedAt),
    ("expiresAt", session.expiresAt.elim .undefined .number)]
  distinct := by
    show ["contractId", "credentialId", "connectedAt", "expiresAt"].Nodup
    decide

/-- The stored credentials by their ids. -/
abbrev CredentialMap := JsMap String Credential

/-! ## Operations -/

inductive StorageOperation where
  | save (credential : NamedCredential)
  | get (credentialId : String)
  | getByContract (contractId : String)
  | getAll
  | delete (credentialId : String)
  | update (credentialId : String) (updates : CredentialUpdates)
  | clear
  | saveSession (session : StoredSession)
  | getSession
  | clearSession

/-- What an operation resolves to. -/
inductive StorageValue where
  | undefined
  | credential (value : Option Credential)
  | credentials (values : List Credential)
  | session (value : JsValue)

/-! ## `localStorage` -/

def STORAGE_KEY : String := "smart-account-kit:credentials"

def SESSION_KEY : String := "smart-account-kit:session"

/-- The text under each key. -/
abbrev WebStorage := String → Option String

def WebStorage.setItem (storage : WebStorage) (key value : String) : WebStorage :=
  Function.update storage key (some value)

def WebStorage.removeItem (storage : WebStorage) (key : String) : WebStorage :=
  Function.update storage key none

/-- The error, if any, with which `setItem` refuses a text under a key. It depends on what is
stored: all keys of an origin share one quota. -/
abbrev SetItemRule := WebStorage → String → String → Option JsError

/-- No write is refused. -/
def SetItemRule.accepts : SetItemRule := fun _ _ _ => none

/-- The room that a key and its text take. -/
def WebStorage.itemSize (storage : WebStorage) (key : String) : ℕ :=
  ((storage key).map fun value => key.length + value.length).getD 0

/-- Texts that do not fit beside those under the other keys are refused. -/
def SetItemRule.quota (keys : List String) (limit : ℕ) : SetItemRule := fun storage key value =>
  if ((keys.map (storage.setItem key value).itemSize).sum ≤ limit) then none
  else some (JsError.plain "QuotaExceededError")

/-- A call of an operation, with the rule for the write that it may make. -/
structure StorageCall where
  operation : StorageOperation
  refuses : SetItemRule := SetItemRule.accepts

/-- The object that is written for a credential. -/
def serializeCredential (credential : Credential) : JsObject :=
  credential.object.spread.set "publicKey" (.array (byteNumbers credential.publicKey))

/-- The credential of a parsed value, or nothing where reading it throws. -/
def deserializeCredential (maxLength : ℕ) (data : JsonValue) : Option Credential := do
  let publicKey ← newUint8Array maxLength (← data.property? "publicKey")
  return .withKey data.spread publicKey

/-- The credentials of a text, or nothing where parsing it throws. -/
def readCredentials (maxLength : ℕ) (data : String) : Option CredentialMap := do
  let parsed ← parseJson data
  let entries ← parsed.entries?
  let credentials ← entries.mapM fun (key, value) => do
    return (key, ← deserializeCredential maxLength value)
  return JsMap.ofEntries credentials

/-- The object that is written for some credentials. Assigning to `__proto__` makes no property. -/
def credentialsObject (credentials : CredentialMap) : JsObject :=
  JsMap.ofEntries ((credentials.entries.filter fun e => e.1 ≠ "__proto__").map fun e =>
    (e.1, .object (serializeCredential e.2).inOwnOrder.entries))

/-- The text that is written for some credentials. -/
def writeCredentials (credentials : CredentialMap) : String :=
  stringifyJson (credentialsObject credentials).toJson

/-- An adapter over `localStorage`. The engine bounds the length of a `Uint8Array`. -/
structure LocalStorageAdapter where
  storageKey : String := STORAGE_KEY
  maxLength : ℕ := 2 ^ 32 - 1

namespace LocalStorageAdapter

variable (adapter : LocalStorageAdapter)

/-- The stored credentials. A text that cannot be read counts as none. -/
def getStorage (storage : WebStorage) : CredentialMap :=
  match storage adapter.storageKey with
  | none => JsMap.empty
  | some data =>
    if data = "" then JsMap.empty else (readCredentials adapter.maxLength data).getD .empty

/-- Write a text, or fail and write nothing. -/
def write (refuses : SetItemRule) (key value : String) (storage : WebStorage) :
    Except JsError StorageValue × WebStorage :=
  match refuses storage key value with
  | some e => (.error e, storage)
  | none => (.ok .undefined, storage.setItem key value)

def setStorage (refuses : SetItemRule) (credentials : CredentialMap) (storage : WebStorage) :
    Except JsError StorageValue × WebStorage :=
  write refuses adapter.storageKey (writeCredentials credentials) storage

def save (refuses : SetItemRule) (credential : NamedCredential) (storage : WebStorage) :
    Except JsError StorageValue × WebStorage :=
  let credentials := adapter.getStorage storage
  adapter.setStorage refuses (credentials.set credential.credentialId credential.toCredential)
    storage

def get (credentialId : String) (storage : WebStorage) : StorageValue :=
  .credential ((adapter.getStorage storage).get credentialId)

def getByContract (contractId : String) (storage : WebStorage) : StorageValue :=
  .credentials ((adapter.getStorage storage).values.filter (Credential.isOf contractId))

def getAll (storage : WebStorage) : StorageValue :=
  .credentials (adapter.getStorage storage).values

def delete (refuses : SetItemRule) (credentialId : String) (storage : WebStorage) :
    Except JsError StorageValue × WebStorage :=
  adapter.setStorage refuses ((adapter.getStorage storage).delete credentialId) storage

def update (refuses : SetItemRule) (credentialId : String) (updates : CredentialUpdates)
    (storage : WebStorage) : Except JsError StorageValue × WebStorage :=
  let credentials := adapter.getStorage storage
  match credentials.get credentialId with
  | some credential =>
    adapter.setStorage refuses (credentials.set credentialId (credential.assign updates)) storage
  | none => (.ok .undefined, storage)

/-- An update of a credential that is found writes it again. -/
theorem update_of_found {storage : WebStorage} {credentialId : String} {credential : Credential}
    (h : (adapter.getStorage storage).get credentialId = some credential) (refuses : SetItemRule)
    (updates : CredentialUpdates) :
    adapter.update refuses credentialId updates storage =
      adapter.setStorage refuses
        ((adapter.getStorage storage).set credentialId (credential.assign updates)) storage := by
  unfold update
  dsimp only
  rw [h]

theorem update_of_missing {storage : WebStorage} {credentialId : String}
    (h : (adapter.getStorage storage).get credentialId = none) (refuses : SetItemRule)
    (updates : CredentialUpdates) :
    adapter.update refuses credentialId updates storage = (.ok .undefined, storage) := by
  unfold update
  dsimp only
  rw [h]

def clear (storage : WebStorage) : WebStorage :=
  (storage.removeItem adapter.storageKey).removeItem SESSION_KEY

def saveSession (refuses : SetItemRule) (session : StoredSession) (storage : WebStorage) :
    Except JsError StorageValue × WebStorage :=
  write refuses SESSION_KEY (stringifyJson session.object.toJson) storage

/-- The stored session. A text that cannot be read counts as none. -/
def getSession (storage : WebStorage) : StorageValue :=
  match storage SESSION_KEY with
  | none => .session .null
  | some data =>
    if data = "" then .session .null
    else .session ((parseJson data).elim .null JsonValue.toJs)

def clearSession (storage : WebStorage) : WebStorage := storage.removeItem SESSION_KEY

/-- An operation where `localStorage` is there. -/
def performOn (call : StorageCall) (storage : WebStorage) :
    Except JsError StorageValue × WebStorage :=
  match call.operation with
  | .save credential => adapter.save call.refuses credential storage
  | .get credentialId => (.ok (adapter.get credentialId storage), storage)
  | .getByContract contractId => (.ok (adapter.getByContract contractId storage), storage)
  | .getAll => (.ok (adapter.getAll storage), storage)
  | .delete credentialId => adapter.delete call.refuses credentialId storage
  | .update credentialId updates => adapter.update call.refuses credentialId updates storage
  | .clear => (.ok .undefined, adapter.clear storage)
  | .saveSession session => saveSession call.refuses session storage
  | .getSession => (.ok (getSession storage), storage)
  | .clearSession => (.ok .undefined, clearSession storage)

end LocalStorageAdapter

/-! ## Memory -/

/-- The storage in memory. -/
structure MemoryStorage where
  credentials : CredentialMap := JsMap.empty
  session : Option JsObject := none

namespace MemoryStorage

variable (memory : MemoryStorage)

def save (credential : NamedCredential) : MemoryStorage :=
  { memory with
    credentials := memory.credentials.set credential.credentialId credential.toCredential.copy }

def get (credentialId : String) : StorageValue :=
  .credential ((memory.credentials.get credentialId).map Credential.copy)

def getByContract (contractId : String) : StorageValue :=
  .credentials ((memory.credentials.values.filter (Credential.isOf contractId)).map Credential.copy)

def getAll : StorageValue := .credentials (memory.credentials.values.map Credential.copy)

def delete (credentialId : String) : MemoryStorage :=
  { memory with credentials := memory.credentials.delete credentialId }

def update (credentialId : String) (updates : CredentialUpdates) : MemoryStorage :=
  match memory.credentials.get credentialId with
  | some credential =>
    { memory with credentials := memory.credentials.set credentialId (credential.assign updates) }
  | none => memory

def clear : MemoryStorage := {}

def saveSession (session : StoredSession) : MemoryStorage :=
  { memory with session := some session.object.spread }

def getSession : StorageValue :=
  .session (memory.session.elim .null fun session => .object session.spread.entries)

def clearSession : MemoryStorage := { memory with session := none }

def perform (operation : StorageOperation) : StorageValue × MemoryStorage :=
  match operation with
  | .save credential => (.undefined, memory.save credential)
  | .get credentialId => (memory.get credentialId, memory)
  | .getByContract contractId => (memory.getByContract contractId, memory)
  | .getAll => (memory.getAll, memory)
  | .delete credentialId => (.undefined, memory.delete credentialId)
  | .update credentialId updates => (.undefined, memory.update credentialId updates)
  | .clear => (.undefined, clear)
  | .saveSession session => (.undefined, memory.saveSession session)
  | .getSession => (memory.getSession, memory)
  | .clearSession => (.undefined, memory.clearSession)

end MemoryStorage

end SmartAccountKit.Storage
