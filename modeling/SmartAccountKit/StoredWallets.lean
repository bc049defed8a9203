import SmartAccountKit.ExternalSigners

/-!
# The stored wallets as a map

What stands in the storage of a manager is a map from addresses to wallets, in
every run of sessions: saving a wallet moves its entry to the end, and removing one
deletes its entry.
-/

namespace SmartAccountKit
open Lib
open Storage (WebStorage)

/-- What is stored of a wallet beside its address. -/
structure StoredWallet where
  walletId : String
  walletName : String
  connectedAt : Timestamp

/-- The stored wallets by their addresses. -/
abbrev StoredWallets := JsMap String StoredWallet

namespace StoredWallets

/-- An entry as it is stored. -/
def item (e : String × StoredWallet) : JsValue :=
  storedEntry ⟨e.1, .string e.2.walletId, .string e.2.walletName⟩ e.2.connectedAt

def items (m : StoredWallets) : List JsValue := m.entries.map item

def without (m : StoredWallets) (address : String) : StoredWallets := m.delete address

/-- A wallet that is saved stands last. -/
def save (m : StoredWallets) (address : String) (wallet : StoredWallet) : StoredWallets :=
  (m.without address).set address wallet

end StoredWallets

namespace WalletStorage

open StoredWallets (item)

/-! ## The text -/

/-- An entry is written without loss. -/
theorem toJs_item (e : String × StoredWallet) : ((item e).toJson?.getD .null).toJs = item e := by
  have hnumber : textNumber (String.ofList (numeralOf e.2.connectedAt.milliseconds).text) =
      .finite e.2.connectedAt.milliseconds := by
    apply textNumber_numeralOf
    apply isDouble_natCast
    have := e.2.connectedAt.inRange
    omega
  -- no key of an entry is an array index, so the order is kept
  show JsValue.object (ownOrder (JsMap.ofEntries [("address", .string e.1),
      ("walletId", .string e.2.walletId), ("walletName", .string e.2.walletName),
      ("connectedAt", .number (textNumber
        (String.ofList (numeralOf e.2.connectedAt.milliseconds).text)))]).entries) = _
  rw [hnumber, ownOrder_eq_self]
  · rfl
  · show ∀ field ∈ [("address", JsValue.string e.1), ("walletId", .string e.2.walletId),
      ("walletName", .string e.2.walletName),
      ("connectedAt", .number (.finite e.2.connectedAt.milliseconds))], arrayIndex? field.1 = none
    simp only [List.forall_mem_cons, List.not_mem_nil, false_imp_iff, implies_true, and_true]
    decide

theorem itemsToJs_items (entries : List (String × StoredWallet)) :
    itemsToJs (itemsToJson (entries.map item)) = entries.map item := by
  induction entries with
  | nil => rfl
  | cons e entries ih =>
    show ((item e).toJson?.getD .null).toJs :: itemsToJs (itemsToJson (entries.map item)) = _
    rw [toJs_item, ih, List.map_cons]

/-- The storage holds some wallets. -/
def Holds (storage : WebStorage) (m : StoredWallets) : Prop :=
  getStoredWallets storage = .array m.items

theorem holds_empty {storage : WebStorage} (h : storage WALLET_STORAGE_KEY = none) :
    Holds storage JsMap.empty := by
  rw [Holds, getStoredWallets, h]
  rfl

theorem holds_setStoredWallets (m : StoredWallets) (storage : WebStorage) :
    Holds (setStoredWallets m.items storage) m := by
  have hparse := parseJson_stringifyJson (JsValue.wellFormed_toJson? (.array m.items) _ rfl)
  have hne : stringifyJson (.array (itemsToJson m.items)) ≠ "" := by
    intro h
    have hlist := congrArg String.toList h
    rw [stringifyJson, String.toList_ofList, writeJson] at hlist
    exact absurd hlist (List.cons_ne_nil _ _)
  have hraw : setStoredWallets m.items storage WALLET_STORAGE_KEY =
      some (stringifyJson (.array (itemsToJson m.items))) := by
    rw [setStoredWallets, WebStorage.setItem, Function.update_self]
  rw [Holds, getStoredWallets, hraw]
  dsimp only
  rw [if_neg hne, hparse]
  exact congrArg JsValue.array (itemsToJs_items m.entries)

theorem holds_removeItem (storage : WebStorage) :
    Holds (storage.removeItem WALLET_STORAGE_KEY) JsMap.empty := by
  apply holds_empty
  rw [WebStorage.removeItem, Function.update_self]

/-! ## Saving and removing -/

variable {storage : WebStorage} {m : StoredWallets}

theorem withoutAddress_items (m : StoredWallets) (address : String) :
    withoutAddress (.string address) (.array m.items) = .ok (m.without address).items := by
  have hall : (m.items.all fun item => (item.property? "address").isSome) = true := by
    apply List.all_eq_true.mpr
    intro stored hstored
    obtain ⟨e, -, rfl⟩ := List.mem_map.mp hstored
    rfl
  have hkeeps : ∀ e : String × StoredWallet,
      (!(((item e).property? "address").getD .undefined).strictEq (.string address)) =
        decide (e.1 ≠ address) := fun e => (decide_not (p := e.1 = address)).symm
  rw [withoutAddress, if_pos hall]
  refine congrArg Except.ok ?_
  rw [StoredWallets.items, List.filter_map]
  refine congrArg (List.map item) (List.filter_congr fun e _ => hkeeps e)

theorem entries_save (m : StoredWallets) (address : String) (wallet : StoredWallet) :
    (m.save address wallet).entries = (m.without address).entries ++ [(address, wallet)] := by
  have habsent : address ∉ (m.without address).entries.map Prod.fst := by
    intro hmem
    obtain ⟨e, he, heq⟩ := List.mem_map.mp hmem
    have hne : e.1 ≠ address := by simpa using (List.mem_filter.mp he).2
    exact hne heq
  rw [StoredWallets.save, JsMap.set, dif_neg habsent]

theorem saveWalletToStorage_holds (h : Holds storage m) (address walletId walletName : String)
    (now : Timestamp) :
    ∃ storage', saveWalletToStorage ⟨address, .string walletId, .string walletName⟩ now storage =
        .ok storage' ∧ Holds storage' (m.save address ⟨walletId, walletName, now⟩) := by
  refine ⟨_, ?_, holds_setStoredWallets _ storage⟩
  have hitems : (m.save address ⟨walletId, walletName, now⟩).items = (m.without address).items ++
      [storedEntry ⟨address, .string walletId, .string walletName⟩ now] := by
    rw [StoredWallets.items, entries_save, List.map_append]
    rfl
  rw [saveWalletToStorage, h, withoutAddress_items, except_ok_bind, hitems]
  rfl

theorem removeWalletFromStorage_holds (h : Holds storage m) (address : String) :
    ∃ storage', removeWalletFromStorage (.string address) storage = .ok storage' ∧
      Holds storage' (m.without address) := by
  rw [removeWalletFromStorage, h, withoutAddress_items, except_ok_bind]
  cases hempty : (m.without address).items.isEmpty with
  | true =>
    refine ⟨_, rfl, ?_⟩
    have hnil : (m.without address).entries = [] :=
      List.map_eq_nil_iff.mp (List.isEmpty_iff.mp hempty)
    have hitems : (m.without address).items = StoredWallets.items JsMap.empty := by
      rw [StoredWallets.items, hnil]
      rfl
    have hremoved := holds_removeItem storage
    rw [Holds] at hremoved ⊢
    rw [hremoved, hitems]
  | false => exact ⟨_, rfl, holds_setStoredWallets _ storage⟩

end WalletStorage

/-! ## Sessions -/

/-- What happens to the manager of a page. A new session starts with a new manager. -/
inductive WalletEvent where
  | newSession (withAdapter persists : Bool) (ed25519VerifierAddress : Option String)
  | initAdapter
  | addFromSecret (secretKey : String)
  | addEd25519FromSecret (secretKey : String) (ed25519VerifierAddress : Option String)
  | addFromWallet (answer : Except JsError WalletAnswer) (now : Timestamp)
  | restoreConnections (answers : ℕ → JsValue → Except JsError WalletAnswer)
  | remove (address : String)
  | removeAll (failure : Option JsError)

/-- The manager of the session and the storage that all sessions share. -/
structure WalletState where
  manager : ExternalSignerManager := {}
  storage : WebStorage := fun _ => none

/-- The manager of a new session. -/
def newManager (withAdapter persists : Bool) (ed25519VerifierAddress : Option String) :
    ExternalSignerManager :=
  { walletAdapter := if withAdapter then some {} else none, persists, ed25519VerifierAddress }

def ExternalSignerManager.initAdapter (manager : ExternalSignerManager) : ExternalSignerManager :=
  { manager with
    walletAdapter := manager.walletAdapter.map fun adapter => { adapter with initialized := true } }

/-- What is outside of the manager: how texts are lowered and how secret keys are read. -/
structure WalletEnv where
  lower : LowerCase
  fromSecret : String → Option Keypair

namespace WalletEvent

variable (env : WalletEnv)

def step (event : WalletEvent) (s : WalletState) : WalletState :=
  match event with
  | newSession withAdapter persists ed25519VerifierAddress =>
    { s with manager := newManager withAdapter persists ed25519VerifierAddress }
  | initAdapter => { s with manager := s.manager.initAdapter }
  | addFromSecret secretKey =>
    { s with manager := (s.manager.addFromSecret env.fromSecret secretKey).2 }
  | addEd25519FromSecret secretKey ed25519VerifierAddress =>
    { s with
      manager := (s.manager.addEd25519FromSecret env.fromSecret secretKey ed25519VerifierAddress).2 }
  | addFromWallet answer now =>
    let outcome := s.manager.addFromWallet env.lower answer now s.storage
    ⟨outcome.2.1, outcome.2.2⟩
  | restoreConnections answers =>
    let outcome := s.manager.restoreConnections answers s.storage
    ⟨outcome.2.1, outcome.2.2⟩
  | remove address =>
    let outcome := s.manager.remove address s.storage
    ⟨outcome.2.1, outcome.2.2⟩
  | removeAll failure =>
    let outcome := s.manager.removeAll failure s.storage
    ⟨outcome.2.1, outcome.2.2⟩

/-- What some events leave. -/
def run (events : List WalletEvent) (s : WalletState) : WalletState :=
  events.foldl (fun s event => event.step env s) s

end WalletEvent

end SmartAccountKit
