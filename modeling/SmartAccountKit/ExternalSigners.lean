import SmartAccountKit.Indexer
import SmartAccountKit.Storage.Adapters

/-!
# External signers

`ExternalSignerManager` holds the accounts that sign beside the passkeys: keypairs
in memory, and wallets behind a `StellarWalletsKitAdapter`. The wallets that were
connected are kept as one JSON text, so that a later session can connect to them
again.
-/

namespace SmartAccountKit
open Lib

/-! ## The wallets kit -/

/-- The module of a wallet app. -/
structure WalletModule where
  productId : String
  productName : String

/-- What the wallets kit gives: the address of an account, and the module that is selected then. -/
structure WalletAnswer where
  address : Option String
  selectedModule : Option WalletModule

namespace WalletAnswer

/-- The account of an answer. An empty address is none. -/
def account? (answer : WalletAnswer) : Option String := answer.address.filter (· ≠ "")

def productId? (answer : WalletAnswer) : Option JsValue :=
  answer.selectedModule.map fun module => .string module.productId

def productName? (answer : WalletAnswer) : Option JsValue :=
  answer.selectedModule.map fun module => .string module.productName

end WalletAnswer

/-- A connected wallet. Its id and name may come from a stored text. -/
structure ConnectedWallet where
  address : String
  walletId : JsValue
  walletName : JsValue

def includes (text phrase : String) : Bool := (firstMatch (afterWord phrase) text).isSome

/-- Whether an error says that the user cancelled. -/
def isUserCancellation (lower : LowerCase) (error : JsError) : Bool :=
  let message := lower.text error.message
  includes message "user rejected" || includes message "user denied" ||
    includes message "user cancel" || includes message "modal closed" ||
    includes message "user closed" || includes message "dismiss" ||
    includes message "user did not"

/-- The adapter of the wallets kit. -/
structure StellarWalletsKitAdapter where
  initialized : Bool := false
  connectedWallets : JsMap String ConnectedWallet := JsMap.empty

namespace StellarWalletsKitAdapter

variable (adapter : StellarWalletsKitAdapter)

def notInitialized : JsError :=
  JsError.plain "StellarWalletsKitAdapter not initialized. Call init() first."

def connectionFailed (message : String) : JsError :=
  { errorClass := .smartAccountError
    message := "Wallet connection failed: " ++ message
    code := some .WALLET_NOT_CONNECTED }

/-- `connectedWallets.set(wallet.address, wallet)`. -/
def track (wallet : ConnectedWallet) : StellarWalletsKitAdapter :=
  { adapter with connectedWallets := adapter.connectedWallets.set wallet.address wallet }

/-- Connect to a wallet that the user selects. -/
def connect (lower : LowerCase) (answer : Except JsError WalletAnswer) :
    Except JsError (Option ConnectedWallet) × StellarWalletsKitAdapter :=
  if adapter.initialized then
    match answer with
    | .ok answer =>
      match answer.account? with
      | some address =>
        let wallet : ConnectedWallet :=
          { address
            walletId := answer.productId?.getD (.string "unknown")
            walletName := answer.productName?.getD (.string "Unknown Wallet") }
        (.ok (some wallet), adapter.track wallet)
      | none => (.ok none, adapter)
    | .error error =>
      if isUserCancellation lower error then (.ok none, adapter)
      else (.error (connectionFailed error.message), adapter)
  else (.error notInitialized, adapter)

/-- Connect again to the wallet with an id. The answer is the account that is selected in it. -/
def reconnect (walletId : JsValue) (answer : Except JsError WalletAnswer) :
    Except JsError (Option ConnectedWallet) × StellarWalletsKitAdapter :=
  if adapter.initialized then
    match answer with
    | .ok answer =>
      match answer.account? with
      | some address =>
        let wallet : ConnectedWallet :=
          { address
            walletId := answer.productId?.getD walletId
            walletName := answer.productName?.getD walletId }
        (.ok (some wallet), adapter.track wallet)
      | none => (.ok none, adapter)
    | .error _ => (.ok none, adapter)
  else (.error notInitialized, adapter)

/-- Disconnect all wallets. The wallets kit may fail to. -/
def disconnect (failure : Option JsError) : Except JsError Unit × StellarWalletsKitAdapter :=
  if adapter.initialized then
    match failure with
    | some error => (.error error, adapter)
    | none => (.ok (), { adapter with connectedWallets := JsMap.empty })
  else (.error notInitialized, adapter)

def disconnectByAddress (address : String) : StellarWalletsKitAdapter :=
  { adapter with connectedWallets := adapter.connectedWallets.delete address }

def canSignFor (address : String) : Bool := (adapter.connectedWallets.get address).isSome

def getConnectedWallets : List ConnectedWallet := adapter.connectedWallets.values

end StellarWalletsKitAdapter

/-! ## The stored wallets -/

def WALLET_STORAGE_KEY : String := "external_wallets"

/-- `value.name`, or nothing where it throws. -/
def Lib.JsValue.property? (name : String) : JsValue → Option JsValue
  | .undefined => none
  | .null => none
  | .object properties =>
    some (((properties.find? fun e => e.1 = name).map Prod.snd).getD .undefined)
  | _ => some .undefined

/-- `===` of two values that were made apart: two objects are never the same one. -/
def Lib.JsValue.strictEq : JsValue → JsValue → Bool
  | .undefined, .undefined => true
  | .null, .null => true
  | .bool x, .bool y => x = y
  | .number x, .number y => x = y ∧ x ≠ .nan
  | .string x, .string y => x = y
  | _, _ => false

/-- The entry that is stored for a wallet. -/
def storedEntry (wallet : ConnectedWallet) (connectedAt : Timestamp) : JsValue :=
  .object [("address", .string wallet.address), ("walletId", wallet.walletId),
    ("walletName", wallet.walletName), ("connectedAt", .number connectedAt.toNumber)]

namespace WalletStorage

open Storage (WebStorage)

/-- What stands in the storage. A text that cannot be parsed counts as an empty list. -/
def getStoredWallets (storage : WebStorage) : JsValue :=
  match storage WALLET_STORAGE_KEY with
  | none => .array []
  | some data => if data = "" then .array [] else (parseJson data).elim (.array []) JsonValue.toJs

/-- `stored.filter((w) => w.address !== address)`. -/
def withoutAddress (address stored : JsValue) : Except JsError (List JsValue) :=
  match stored with
  | .array items =>
    if items.all fun item => (item.property? "address").isSome then
      .ok (items.filter fun item => !((item.property? "address").getD .undefined).strictEq address)
    else .error (JsError.plain "Cannot read properties of null (reading 'address')")
  | _ => .error (JsError.plain "stored.filter is not a function")

def setStoredWallets (items : List JsValue) (storage : WebStorage) : WebStorage :=
  storage.setItem WALLET_STORAGE_KEY (stringifyJson (.array (itemsToJson items)))

def saveWalletToStorage (wallet : ConnectedWallet) (now : Timestamp) (storage : WebStorage) :
    Except JsError WebStorage := do
  let filtered ← withoutAddress (.string wallet.address) (getStoredWallets storage)
  return setStoredWallets (filtered ++ [storedEntry wallet now]) storage

def removeWalletFromStorage (address : JsValue) (storage : WebStorage) :
    Except JsError WebStorage := do
  let filtered ← withoutAddress address (getStoredWallets storage)
  if filtered.isEmpty then return storage.removeItem WALLET_STORAGE_KEY
  else return setStoredWallets filtered storage

end WalletStorage

/-! ## The manager -/

/-- A keypair, as its public key in both forms. -/
structure Keypair where
  publicKey : String
  rawPublicKey : BytesN 32

structure Ed25519Signer where
  address : String
  verifier : String

/-- The manager of one session. -/
structure ExternalSignerManager where
  keypairSigners : JsMap String Keypair := JsMap.empty
  ed25519Signers : JsMap String Ed25519Signer := JsMap.empty
  walletAdapter : Option StellarWalletsKitAdapter := none
  persists : Bool := false
  restored : Bool := false
  ed25519VerifierAddress : Option String := none

namespace ExternalSignerManager

open Storage (WebStorage)
open WalletStorage

variable (manager : ExternalSignerManager)

/-- Add a keypair by its secret key. -/
def addFromSecret (fromSecret : String → Option Keypair) (secretKey : String) :
    Except JsError String × ExternalSignerManager :=
  match fromSecret secretKey with
  | none => (.error (JsError.validation
      "Invalid secret key. Must be a valid Stellar secret key (S...)"), manager)
  | some keypair => (.ok keypair.publicKey,
      { manager with keypairSigners := manager.keypairSigners.set keypair.publicKey keypair })

/-- Add a signer of an Ed25519 verifier by its secret key. -/
def addEd25519FromSecret (fromSecret : String → Option Keypair) (secretKey : String)
    (ed25519VerifierAddress : Option String) : Except JsError (String × String) × ExternalSignerManager :=
  match (ed25519VerifierAddress.or manager.ed25519VerifierAddress).filter (· ≠ "") with
  | none => (.error (JsError.validation
      ("An Ed25519 verifier address is required. Configure ed25519VerifierAddress " ++
        "on the SDK or pass it explicitly to addEd25519FromSecret().")), manager)
  | some verifier =>
    match fromSecret secretKey with
    | none => (.error (JsError.validation
        "Invalid Ed25519 secret key. Must be a valid Stellar secret key (S...)"), manager)
    | some keypair =>
      let publicKeyHex := toHex keypair.rawPublicKey
      let signer : Ed25519Signer := { address := keypair.publicKey, verifier }
      (.ok (keypair.publicKey, publicKeyHex),
        { manager with ed25519Signers := manager.ed25519Signers.set publicKeyHex signer })

/-- Add a wallet that the user selects, and store it. -/
def addFromWallet (lower : LowerCase) (answer : Except JsError WalletAnswer) (now : Timestamp)
    (storage : WebStorage) :
    Except JsError (Option ConnectedWallet) × ExternalSignerManager × WebStorage :=
  match manager.walletAdapter with
  | none => (.error (JsError.plain
      ("No wallet adapter configured. Install @creit-tech/stellar-wallets-kit " ++
        "and pass a StellarWalletsKitAdapter to the SDK config.")), manager, storage)
  | some adapter =>
    let outcome := adapter.connect lower answer
    let connected := { manager with walletAdapter := some outcome.2 }
    match outcome.1 with
    | .ok (some wallet) =>
      if manager.persists then
        match saveWalletToStorage wallet now storage with
        | .ok storage => (.ok (some wallet), connected, storage)
        | .error error => (.error error, connected, storage)
      else (.ok (some wallet), connected, storage)
    | other => (other, connected, storage)

/-- Connect again to one stored wallet. An entry that cannot be connected is removed. -/
def restoreWallet (answer : JsValue → Except JsError WalletAnswer) (savedWallet : JsValue)
    (adapter : StellarWalletsKitAdapter) (storage : WebStorage) :
    Except JsError (Option ConnectedWallet) × StellarWalletsKitAdapter × WebStorage :=
  let outcome : Except JsError (Option ConnectedWallet) × StellarWalletsKitAdapter :=
    match savedWallet.property? "walletId" with
    | none => (.error (JsError.plain "Cannot read properties of null (reading 'walletId')"), adapter)
    | some walletId => adapter.reconnect walletId (answer walletId)
  match outcome.1 with
  | .ok (some wallet) => (.ok (some wallet), outcome.2, storage)
  | _ =>
    match savedWallet.property? "address" with
    | none => (.error (JsError.plain "Cannot read properties of null (reading 'address')"), outcome.2,
        storage)
    | some address =>
      match removeWalletFromStorage address storage with
      | .ok storage => (.ok none, outcome.2, storage)
      | .error error => (.error error, outcome.2, storage)

/-- Connect again to the stored wallets in order. Every attempt has its own answer. -/
def restoreWallets : (ℕ → JsValue → Except JsError WalletAnswer) →
    List JsValue → StellarWalletsKitAdapter → WebStorage →
      Except JsError (List ConnectedWallet) × StellarWalletsKitAdapter × WebStorage
  | _, [], adapter, storage => (.ok [], adapter, storage)
  | answers, savedWallet :: stored, adapter, storage =>
    let outcome := restoreWallet (answers 0) savedWallet adapter storage
    match outcome.1 with
    | .error error => (.error error, outcome.2)
    | .ok wallet =>
      let rest := restoreWallets (fun n => answers (n + 1)) stored outcome.2.1 outcome.2.2
      (rest.1.map fun restored => wallet.toList ++ restored, rest.2)

/-- The values that `for (const savedWallet of stored)` goes through, or nothing where it throws. -/
def iterate : JsValue → Option (List JsValue)
  | .array items => some items
  | .string text => some (text.toList.map fun c => .string (String.ofList [c]))
  | _ => none

/-- Connect again to the wallets of earlier sessions, once in a session. -/
def restoreConnections (answers : ℕ → JsValue → Except JsError WalletAnswer)
    (storage : WebStorage) :
    Except JsError (List ConnectedWallet) × ExternalSignerManager × WebStorage :=
  if manager.restored then
    (.ok (manager.walletAdapter.elim [] StellarWalletsKitAdapter.getConnectedWallets), manager,
      storage)
  else
    let marked := { manager with restored := true }
    match manager.walletAdapter with
    | none => (.ok [], marked, storage)
    | some adapter =>
      if manager.persists then
        match iterate (getStoredWallets storage) with
        | none => (.error (JsError.plain "stored is not iterable"), marked, storage)
        | some stored =>
          let outcome := restoreWallets answers stored adapter storage
          (outcome.1, { marked with walletAdapter := some outcome.2.1 }, outcome.2.2)
      else (.ok [], marked, storage)

/-- Remove the signers with an address. -/
def remove (address : String) (storage : WebStorage) :
    Except JsError Unit × ExternalSignerManager × WebStorage :=
  let removed :=
    { manager with
      keypairSigners := manager.keypairSigners.delete address
      ed25519Signers :=
        (manager.ed25519Signers.entries.filter fun e => e.2.address = address).foldl
          (fun signers e => signers.delete e.1) manager.ed25519Signers
      walletAdapter := manager.walletAdapter.map fun adapter => adapter.disconnectByAddress address }
  if manager.persists then
    match removeWalletFromStorage (.string address) storage with
    | .ok storage => (.ok (), removed, storage)
    | .error error => (.error error, removed, storage)
  else (.ok (), removed, storage)

/-- Remove all signers. If the wallets do not disconnect, what is stored stays. -/
def removeAll (failure : Option JsError) (storage : WebStorage) :
    Except JsError Unit × ExternalSignerManager × WebStorage :=
  let cleared :=
    { manager with keypairSigners := JsMap.empty, ed25519Signers := JsMap.empty }
  let emptied := if manager.persists then storage.removeItem WALLET_STORAGE_KEY else storage
  match manager.walletAdapter with
  | none => (.ok (), cleared, emptied)
  | some adapter =>
    let outcome := adapter.disconnect failure
    let disconnected := { cleared with walletAdapter := some outcome.2 }
    match outcome.1 with
    | .error error => (.error error, disconnected, storage)
    | .ok () => (.ok (), disconnected, emptied)

def canSignFor (address : String) : Bool :=
  (manager.keypairSigners.get address).isSome ||
    manager.walletAdapter.elim false fun adapter => adapter.canSignFor address

end ExternalSignerManager

end SmartAccountKit
