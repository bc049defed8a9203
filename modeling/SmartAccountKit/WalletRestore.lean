import SmartAccountKit.Lib.Distinct
import SmartAccountKit.StoredWallets

/-!
# Restoring the wallets of earlier sessions

Wallets are stored by address and connected again by the id of their app. What is
restored is what was stored exactly if the apps that answer have, between them, the
stored accounts selected.
-/

namespace SmartAccountKit
open Lib
open Storage (WebStorage)
open WalletStorage
open StoredWallets (item)

/-! ## One wallet -/

/-- The account that connecting again to a stored entry gives. -/
def accountOf (initialized : Bool) (answer : JsValue → Except JsError WalletAnswer)
    (savedWallet : JsValue) : Option String :=
  if initialized then
    (savedWallet.property? "walletId").bind fun walletId =>
      (answer walletId).toOption.bind WalletAnswer.account?
  else none

namespace StellarWalletsKitAdapter

theorem canSignFor_track (adapter : StellarWalletsKitAdapter) (wallet : ConnectedWallet)
    (address : String) :
    (adapter.track wallet).canSignFor address = true ↔
      wallet.address = address ∨ adapter.canSignFor address = true := by
  rw [canSignFor, track, JsMap.get_set, canSignFor]
  split_ifs with h
  · exact iff_of_true rfl (Or.inl h.symm)
  · exact ⟨Or.inr, fun hor => hor.resolve_left fun heq => h heq.symm⟩

/-- What connecting again gives, and what the adapter can sign for then. -/
theorem reconnect_spec (adapter : StellarWalletsKitAdapter) (e : String × StoredWallet)
    (answer : JsValue → Except JsError WalletAnswer) :
    let outcome := adapter.reconnect (.string e.2.walletId) (answer (.string e.2.walletId))
    match accountOf adapter.initialized answer (item e) with
    | none => outcome.2 = adapter ∧ ∀ wallet, outcome.1 ≠ .ok (some wallet)
    | some address => ∃ wallet, outcome.1 = .ok (some wallet) ∧ wallet.address = address ∧
        outcome.2 = adapter.track wallet := by
  have haccount : accountOf adapter.initialized answer (item e) =
      if adapter.initialized then
        (answer (.string e.2.walletId)).toOption.bind WalletAnswer.account?
      else none := rfl
  rw [haccount]
  unfold reconnect
  cases hinitialized : adapter.initialized with
  | false => exact ⟨rfl, fun wallet h => absurd h (by simp)⟩
  | true =>
    cases answer (.string e.2.walletId) with
    | error error => exact ⟨rfl, fun wallet h => absurd h (by simp)⟩
    | ok given =>
      cases haddress : given.account? with
      | none =>
        simp only [if_true, haddress, Except.toOption, Option.bind_some]
        exact ⟨trivial, fun wallet h => absurd h (by simp)⟩
      | some address =>
        simp only [if_true, haddress, Except.toOption, Option.bind_some]
        exact ⟨_, rfl, rfl, rfl⟩

/-- A wallet that the user selects has an id and a name. -/
theorem connect_names {adapter : StellarWalletsKitAdapter} {lower : LowerCase}
    {answer : Except JsError WalletAnswer} {wallet : ConnectedWallet}
    (h : (adapter.connect lower answer).1 = .ok (some wallet)) :
    ∃ walletId walletName, wallet = ⟨wallet.address, .string walletId, .string walletName⟩ := by
  unfold connect at h
  split_ifs at h
  · cases answer with
    | error error =>
      dsimp only at h
      split_ifs at h
      exact absurd (Except.ok.inj h).symm (Option.some_ne_none wallet)
    | ok answer =>
      dsimp only at h
      split at h
      · have hwallet := Option.some.inj (Except.ok.inj h)
        rw [← hwallet, WalletAnswer.productId?, WalletAnswer.productName?]
        cases answer.selectedModule with
        | none => exact ⟨_, _, rfl⟩
        | some module => exact ⟨_, _, rfl⟩
      · exact absurd (Except.ok.inj h).symm (Option.some_ne_none wallet)

end StellarWalletsKitAdapter

/-! ## All wallets -/

namespace ExternalSignerManager

/-- A stored entry with the account that connecting to it again gives. -/
abbrev Attempt := (String × StoredWallet) × Option String

/-- The attempts of a session, each with an answer of its own. -/
def attempts (initialized : Bool) (answers : ℕ → JsValue → Except JsError WalletAnswer)
    (entries : List (String × StoredWallet)) : List Attempt :=
  entries.mapIdx fun n e => (e, accountOf initialized (answers n) (item e))

theorem map_fst_attempts (initialized : Bool)
    (answers : ℕ → JsValue → Except JsError WalletAnswer)
    (entries : List (String × StoredWallet)) :
    (attempts initialized answers entries).map Prod.fst = entries := by
  induction entries generalizing answers with
  | nil => rfl
  | cons e entries ih =>
    rw [attempts, List.mapIdx_cons, List.map_cons]
    exact congrArg (e :: ·) (ih fun n => answers (n + 1))

/-- The stored wallets without the entries that cannot be connected. -/
def withoutStale (tried : List Attempt) (m : StoredWallets) : StoredWallets :=
  tried.foldl (fun m attempt => if attempt.2.isSome then m else m.without attempt.1.1) m

/-- The accounts of the entries that can be connected. -/
def accountsOf (tried : List Attempt) : List String := tried.filterMap Prod.snd

section

variable (tried : List Attempt) (m : StoredWallets) (e : String × StoredWallet)

theorem withoutStale_cons_some (account : String) :
    withoutStale ((e, some account) :: tried) m = withoutStale tried m := rfl

theorem withoutStale_cons_none :
    withoutStale ((e, none) :: tried) m = withoutStale tried (m.without e.1) := rfl

theorem accountsOf_cons_some (account : String) :
    accountsOf ((e, some account) :: tried) = account :: accountsOf tried := rfl

theorem accountsOf_cons_none : accountsOf ((e, none) :: tried) = accountsOf tried := rfl

end

/-- An address is no longer stored if one of its entries could not be connected. -/
theorem get_withoutStale (tried : List Attempt) (m : StoredWallets) (address : String) :
    (withoutStale tried m).get address =
      if ∃ attempt ∈ tried, attempt.1.1 = address ∧ attempt.2 = none then none
      else m.get address := by
  induction tried generalizing m with
  | nil =>
    rw [if_neg fun h => h.elim fun attempt hattempt => List.not_mem_nil hattempt.1]
    rfl
  | cons attempt tried ih =>
    obtain ⟨e, account⟩ := attempt
    have hexists := List.exists_mem_cons_iff
      (fun attempt : Attempt => attempt.1.1 = address ∧ attempt.2 = none) (e, account) tried
    cases account with
    | some account =>
      have hiff := hexists.trans (or_iff_right fun h => Option.some_ne_none account h.2)
      rw [withoutStale_cons_some, ih]
      simp only [hiff]
    | none =>
      have hget : (m.without e.1).get address = if address = e.1 then none else m.get address :=
        JsMap.get_delete m e.1 address
      rw [withoutStale_cons_none, ih, hget]
      by_cases hrest : ∃ attempt ∈ tried, attempt.1.1 = address ∧ attempt.2 = none
      · rw [if_pos hrest, if_pos (hexists.mpr (Or.inr hrest))]
      · rw [if_neg hrest]
        by_cases heq : address = e.1
        · rw [if_pos heq, if_pos (hexists.mpr (Or.inl ⟨heq.symm, rfl⟩))]
        · rw [if_neg heq, if_neg]
          intro h
          exact (hexists.mp h).elim (fun h => heq h.1.symm) hrest

/-- What the loop over the stored wallets gives, and what it leaves. -/
structure Restores (tried : List Attempt) (adapter : StellarWalletsKitAdapter) (m : StoredWallets)
    (outcome : Except JsError (List ConnectedWallet) × StellarWalletsKitAdapter × WebStorage) :
    Prop where
  returned : ∃ restored, outcome.1 = .ok restored ∧
    restored.map ConnectedWallet.address = accountsOf tried
  signs : ∀ address, outcome.2.1.canSignFor address = true ↔
    adapter.canSignFor address = true ∨ address ∈ accountsOf tried
  holds : Holds outcome.2.2 (withoutStale tried m)

/-- An entry whose app answers is connected and stays, and any other one is removed. -/
theorem restoreWallets_spec (answers : ℕ → JsValue → Except JsError WalletAnswer)
    (entries : List (String × StoredWallet)) (adapter : StellarWalletsKitAdapter)
    {storage : WebStorage} {m : StoredWallets} (h : Holds storage m) :
    Restores (attempts adapter.initialized answers entries) adapter m
      (restoreWallets answers (entries.map item) adapter storage) := by
  induction entries generalizing answers adapter storage m with
  | nil => exact ⟨⟨[], rfl, rfl⟩, fun address => (or_iff_left List.not_mem_nil).symm, h⟩
  | cons e entries ih =>
    have hreconnect := adapter.reconnect_spec e (answers 0)
    have hproperty : (item e).property? "walletId" = some (.string e.2.walletId) := rfl
    have haddress : (item e).property? "address" = some (.string e.1) := rfl
    have htried : attempts adapter.initialized answers (e :: entries) =
        (e, accountOf adapter.initialized (answers 0) (item e)) ::
          attempts adapter.initialized (fun n => answers (n + 1)) entries := List.mapIdx_cons
    dsimp only at hreconnect
    rw [htried]
    cases haccount : accountOf adapter.initialized (answers 0) (item e) with
    | some account =>
      rw [haccount] at hreconnect
      obtain ⟨wallet, hwallet, rfl, htrack⟩ := hreconnect
      have hstep : restoreWallet (answers 0) (item e) adapter storage =
          (.ok (some wallet), adapter.track wallet, storage) := by
        rw [restoreWallet, hproperty]
        dsimp only
        rw [hwallet, htrack]
      have hrest : Restores (attempts adapter.initialized (fun n => answers (n + 1)) entries)
          (adapter.track wallet) m (restoreWallets (fun n => answers (n + 1)) (entries.map item)
            (adapter.track wallet) storage) :=
        ih (fun n => answers (n + 1)) (adapter.track wallet) h
      obtain ⟨restored, hrestored, hmap⟩ := hrest.returned
      rw [List.map_cons, restoreWallets, hstep]
      refine ⟨⟨wallet :: restored, ?_, ?_⟩, fun address => ?_, ?_⟩
      · show Except.map _ (restoreWallets _ (entries.map item) (adapter.track wallet) storage).1 = _
        rw [hrestored]
        rfl
      · rw [List.map_cons, hmap, accountsOf_cons_some]
      · have hsigns := hrest.signs address
        rw [StellarWalletsKitAdapter.canSignFor_track] at hsigns
        rw [accountsOf_cons_some, List.mem_cons]
        refine hsigns.trans ?_
        tauto
      · rw [withoutStale_cons_some]
        exact hrest.holds
    | none =>
      rw [haccount] at hreconnect
      obtain ⟨hadapter, hnone⟩ := hreconnect
      obtain ⟨storage', hremove, hholds⟩ := removeWalletFromStorage_holds h e.1
      have hstep : restoreWallet (answers 0) (item e) adapter storage =
          (.ok none, adapter, storage') := by
        rw [restoreWallet, hproperty]
        dsimp only
        rw [hadapter]
        split
        · rename_i wallet hok
          exact absurd hok (hnone wallet)
        · rw [haddress]
          dsimp only
          rw [hremove]
      have hrest : Restores (attempts adapter.initialized (fun n => answers (n + 1)) entries)
          adapter (m.without e.1) (restoreWallets (fun n => answers (n + 1)) (entries.map item)
            adapter storage') := ih (fun n => answers (n + 1)) adapter hholds
      obtain ⟨restored, hrestored, hmap⟩ := hrest.returned
      rw [List.map_cons, restoreWallets, hstep]
      refine ⟨⟨restored, ?_, ?_⟩, fun address => ?_, ?_⟩
      · show Except.map _ (restoreWallets _ (entries.map item) adapter storage').1 = _
        rw [hrestored]
        rfl
      · rw [hmap, accountsOf_cons_none]
      · have hsigns := hrest.signs address
        rw [accountsOf_cons_none]
        exact hsigns
      · rw [withoutStale_cons_none]
        exact hrest.holds

/-! ## Runs of sessions -/

variable {manager : ExternalSignerManager} {storage : WebStorage} {m : StoredWallets}

/-- A wallet that is connected is saved. -/
theorem addFromWallet_connected (h : Holds storage m) {adapter : StellarWalletsKitAdapter}
    (hadapter : manager.walletAdapter = some adapter) (hpersists : manager.persists = true)
    {lower : LowerCase} {answer : Except JsError WalletAnswer} {address walletId walletName : String}
    (hconnect : (adapter.connect lower answer).1 =
      .ok (some ⟨address, .string walletId, .string walletName⟩)) (now : Timestamp) :
    ∃ storage', manager.addFromWallet lower answer now storage =
        (.ok (some ⟨address, .string walletId, .string walletName⟩),
          { manager with walletAdapter := some (adapter.connect lower answer).2 }, storage') ∧
      Holds storage' (m.save address ⟨walletId, walletName, now⟩) := by
  obtain ⟨storage', hsave, hholds⟩ := saveWalletToStorage_holds h address walletId walletName now
  refine ⟨storage', ?_, hholds⟩
  unfold addFromWallet
  rw [hadapter]
  dsimp only
  rw [hconnect]
  dsimp only
  rw [if_pos hpersists, hsave]

theorem addFromWallet_holds (h : Holds storage m) (lower : LowerCase)
    (answer : Except JsError WalletAnswer) (now : Timestamp) :
    ∃ m', Holds (manager.addFromWallet lower answer now storage).2.2 m' := by
  unfold addFromWallet
  split
  · exact ⟨m, h⟩
  · dsimp only
    split
    · rename_i wallet hwallet
      split_ifs
      · obtain ⟨walletId, walletName, hnames⟩ := StellarWalletsKitAdapter.connect_names hwallet
        obtain ⟨storage', hsave, hholds⟩ :=
          saveWalletToStorage_holds h wallet.address walletId walletName now
        rw [hnames, hsave]
        exact ⟨_, hholds⟩
      · exact ⟨m, h⟩
    · exact ⟨m, h⟩

theorem restoreConnections_holds (h : Holds storage m)
    (answers : ℕ → JsValue → Except JsError WalletAnswer) :
    ∃ m', Holds (manager.restoreConnections answers storage).2.2 m' := by
  unfold restoreConnections
  by_cases hrestored : manager.restored
  · rw [if_pos hrestored]
    exact ⟨m, h⟩
  · rw [if_neg hrestored]
    dsimp only
    cases manager.walletAdapter with
    | none => exact ⟨m, h⟩
    | some adapter =>
      dsimp only
      split_ifs
      · rw [h]
        exact ⟨_, (restoreWallets_spec answers m.entries adapter h).holds⟩
      · exact ⟨m, h⟩

theorem remove_holds (h : Holds storage m) (address : String) :
    ∃ m', Holds (manager.remove address storage).2.2 m' := by
  unfold remove
  dsimp only
  split_ifs
  · obtain ⟨storage', hremove, hholds⟩ := removeWalletFromStorage_holds h address
    rw [hremove]
    exact ⟨_, hholds⟩
  · exact ⟨m, h⟩

theorem removeAll_holds (h : Holds storage m) (failure : Option JsError) :
    ∃ m', Holds (manager.removeAll failure storage).2.2 m' := by
  have hemptied : ∃ m', Holds
      (if manager.persists then storage.removeItem WALLET_STORAGE_KEY else storage) m' := by
    split_ifs
    · exact ⟨_, holds_removeItem storage⟩
    · exact ⟨m, h⟩
  unfold removeAll
  dsimp only
  split
  · exact hemptied
  · split
    · exact ⟨m, h⟩
    · exact hemptied

end ExternalSignerManager

namespace WalletEvent

variable (env : WalletEnv)

/-- Whatever happens in a session, the storage still holds a map of wallets. -/
theorem step_holds (event : WalletEvent) {s : WalletState} {m : StoredWallets}
    (h : Holds s.storage m) : ∃ m', Holds (event.step env s).storage m' := by
  cases event with
  | newSession => exact ⟨m, h⟩
  | initAdapter => exact ⟨m, h⟩
  | addFromSecret => exact ⟨m, h⟩
  | addEd25519FromSecret => exact ⟨m, h⟩
  | addFromWallet answer now => exact ExternalSignerManager.addFromWallet_holds h _ answer now
  | restoreConnections answers => exact ExternalSignerManager.restoreConnections_holds h answers
  | remove address => exact ExternalSignerManager.remove_holds h address
  | removeAll failure => exact ExternalSignerManager.removeAll_holds h failure

theorem run_holds (events : List WalletEvent) {s : WalletState} {m : StoredWallets}
    (h : Holds s.storage m) : ∃ m', Holds (run env events s).storage m' := by
  induction events generalizing s m with
  | nil => exact ⟨m, h⟩
  | cons event events ih =>
    obtain ⟨m', hstep⟩ := event.step_holds env h
    exact ih hstep

end WalletEvent

/-! ## What is restored -/

/-- The entries in the storage. -/
def storedItems (storage : WebStorage) : List JsValue :=
  (ExternalSignerManager.iterate (getStoredWallets storage)).getD []

def savedAddress (savedWallet : JsValue) : JsValue :=
  (savedWallet.property? "address").getD .undefined

/-- Connecting again gives every wallet once, and all that is still stored can be signed for. -/
def RestoresStored
    (outcome : Except JsError (List ConnectedWallet) × ExternalSignerManager × WebStorage) : Prop :=
  ∃ restored, outcome.1 = .ok restored ∧ (restored.map ConnectedWallet.address).Nodup ∧
    ∀ savedWallet ∈ storedItems outcome.2.2, ∃ address,
      savedAddress savedWallet = .string address ∧ outcome.2.1.canSignFor address = true

/-- The stored entries, each with the account that its own call to connect again gives. -/
def reconnections (initialized : Bool) (answers : ℕ → JsValue → Except JsError WalletAnswer)
    (storage : WebStorage) : List (JsValue × Option String) :=
  (storedItems storage).mapIdx fun n savedWallet =>
    (savedWallet, accountOf initialized (answers n) savedWallet)

/-- The accounts that the apps of the stored entries give are, in some order, the saved addresses of
the entries whose app gives one. -/
def AccountsAreSaved (initialized : Bool) (answers : ℕ → JsValue → Except JsError WalletAnswer)
    (storage : WebStorage) : Prop :=
  let tried := reconnections initialized answers storage
  ((tried.filterMap Prod.snd).map JsValue.string).Perm
    ((tried.filter fun attempt => attempt.2.isSome).map fun attempt => savedAddress attempt.1)

/-- The manager of a new session with an adapter and a storage. -/
def restoringManager (initialized : Bool) : ExternalSignerManager :=
  { walletAdapter := some { initialized }, persists := true }

section

open ExternalSignerManager

variable {storage : WebStorage} {m : StoredWallets}

theorem storedItems_of_holds (h : Holds storage m) : storedItems storage = m.items := by
  rw [storedItems, h]
  rfl

theorem map_savedAddress (entries : List (String × StoredWallet)) :
    (entries.map item).map savedAddress = (entries.map Prod.fst).map JsValue.string := by
  rw [List.map_map, List.map_map]
  rfl

theorem reconnections_of_holds (h : Holds storage m) (initialized : Bool)
    (answers : ℕ → JsValue → Except JsError WalletAnswer) :
    reconnections initialized answers storage =
      (attempts initialized answers m.entries).map fun attempt => (item attempt.1, attempt.2) := by
  rw [reconnections, storedItems_of_holds h, StoredWallets.items, attempts,
    List.mapIdx_eq_zipIdx_map, List.mapIdx_eq_zipIdx_map, List.zipIdx_map, List.map_map,
    List.map_map]
  rfl

/-- The entries whose app gives an account. -/
def connectable (tried : List Attempt) : List (String × StoredWallet) :=
  (tried.filter fun attempt => attempt.2.isSome).map Prod.fst

theorem mem_connectable {tried : List Attempt} {e : String × StoredWallet} :
    e ∈ connectable tried ↔ ∃ account, (e, some account) ∈ tried := by
  rw [connectable, List.mem_map]
  constructor
  · rintro ⟨⟨e', account⟩, hmem, rfl⟩
    have ⟨htried, hsome⟩ := List.mem_filter.mp hmem
    obtain ⟨address, rfl⟩ := Option.isSome_iff_exists.mp hsome
    exact ⟨address, htried⟩
  · rintro ⟨account, htried⟩
    exact ⟨(e, some account), List.mem_filter.mpr ⟨htried, rfl⟩, rfl⟩

theorem accountsAreSaved_iff (h : Holds storage m) (initialized : Bool)
    (answers : ℕ → JsValue → Except JsError WalletAnswer) :
    AccountsAreSaved initialized answers storage ↔
      let tried := attempts initialized answers m.entries
      (accountsOf tried).Perm ((connectable tried).map Prod.fst) := by
  have haccounts : (reconnections initialized answers storage).filterMap Prod.snd =
      accountsOf (attempts initialized answers m.entries) := by
    rw [reconnections_of_holds h, List.filterMap_map]
    rfl
  have hsaved : ((reconnections initialized answers storage).filter fun attempt =>
      attempt.2.isSome).map (fun attempt => savedAddress attempt.1) =
        ((connectable (attempts initialized answers m.entries)).map Prod.fst).map
          JsValue.string := by
    rw [reconnections_of_holds h, List.filter_map, ← map_savedAddress, connectable, List.map_map,
      List.map_map, List.map_map]
    rfl
  rw [AccountsAreSaved, haccounts, hsaved]
  exact List.map_perm_map_iff fun a b hab => JsValue.string.inj hab

theorem length_accountsOf (tried : List Attempt) :
    (accountsOf tried).length = (connectable tried).length := by
  rw [accountsOf, List.length_filterMap_eq_countP, List.countP_eq_length_filter, connectable,
    List.length_map]

/-- An entry is still stored after restoring if its app gave an account. -/
theorem mem_withoutStale_iff {tried : List Attempt} {m : StoredWallets}
    (htried : tried.map Prod.fst = m.entries) (e : String × StoredWallet) :
    e ∈ (withoutStale tried m).entries ↔ e ∈ connectable tried := by
  have hentry : e ∈ (withoutStale tried m).entries ↔ (withoutStale tried m).get e.1 = some e.2 :=
    JsMap.get_eq_some_iff.symm
  have hmem : ∀ attempt ∈ tried, attempt.1 ∈ m.entries := by
    intro attempt hattempt
    rw [← htried]
    exact List.mem_map_of_mem hattempt
  rw [hentry, get_withoutStale, mem_connectable]
  split_ifs with hstale
  · obtain ⟨attempt, hattempt, hkey, hnone⟩ := hstale
    refine iff_of_false not_false ?_
    rintro ⟨account, haccount⟩
    -- no address stands twice, so both attempts are one
    have hsame : attempt = (e, some account) := by
      have hdistinct : (tried.map fun attempt => attempt.1.1).Nodup := by
        have hkeys : tried.map (fun attempt => attempt.1.1) = m.entries.map Prod.fst := by
          rw [← htried, List.map_map]
          rfl
        rw [hkeys]
        exact m.distinct
      exact List.inj_on_of_nodup_map hdistinct hattempt haccount hkey
    rw [hsame] at hnone
    exact Option.some_ne_none account hnone
  · rw [JsMap.get_eq_some_iff]
    constructor
    · intro he
      rw [← htried] at he
      obtain ⟨⟨e', account⟩, hattempt, rfl⟩ := List.mem_map.mp he
      cases account with
      | none => exact absurd ⟨_, hattempt, rfl, rfl⟩ hstale
      | some account => exact ⟨account, hattempt⟩
    · rintro ⟨account, hattempt⟩
      exact hmem _ hattempt

theorem restoresStored_iff (h : Holds storage m) (initialized : Bool)
    (answers : ℕ → JsValue → Except JsError WalletAnswer) :
    RestoresStored ((restoringManager initialized).restoreConnections answers storage) ↔
      AccountsAreSaved initialized answers storage := by
  rw [accountsAreSaved_iff h]
  set tried := attempts initialized answers m.entries with htried
  have hspec : Restores tried { initialized } m
      (restoreWallets answers (m.entries.map item) { initialized } storage) :=
    restoreWallets_spec answers m.entries { initialized } h
  have houtcome : (restoringManager initialized).restoreConnections answers storage =
      let outcome := restoreWallets answers m.items { initialized } storage
      (outcome.1, { restoringManager initialized with
        restored := true, walletAdapter := some outcome.2.1 }, outcome.2.2) := by
    rw [restoreConnections, h]
    rfl
  obtain ⟨restored, hrestored, haddresses⟩ := hspec.returned
  have hentries : tried.map Prod.fst = m.entries := map_fst_attempts initialized answers m.entries
  have hkeys : ((connectable tried).map Prod.fst).Nodup := by
    have hsublist : (connectable tried).Sublist m.entries := by
      rw [← hentries]
      exact List.filter_sublist.map Prod.fst
    exact m.distinct.sublist (hsublist.map Prod.fst)
  have hlength : (accountsOf tried).length = ((connectable tried).map Prod.fst).length := by
    rw [List.length_map]
    exact length_accountsOf tried
  -- in a new session the manager signs for the accounts that were given
  have hsigns : ∀ address, ((restoringManager initialized).restoreConnections answers
      storage).2.1.canSignFor address = true ↔ address ∈ accountsOf tried := by
    intro address
    rw [houtcome]
    refine (hspec.signs address).trans (or_iff_right ?_)
    exact Bool.false_ne_true
  have hstored : storedItems ((restoringManager initialized).restoreConnections answers
      storage).2.2 = (withoutStale tried m).entries.map item := by
    rw [houtcome]
    exact storedItems_of_holds hspec.holds
  show _ ↔ (accountsOf tried).Perm ((connectable tried).map Prod.fst)
  rw [perm_iff_nodup_and_subset hlength hkeys, RestoresStored, hstored]
  constructor
  · rintro ⟨restored', hrestored', hdistinct, hall⟩
    have hsame : restored' = restored := by
      rw [houtcome] at hrestored'
      exact Except.ok.inj (hrestored'.symm.trans hrestored)
    refine ⟨?_, fun address haddress => ?_⟩
    · rw [hsame, haddresses] at hdistinct
      exact hdistinct
    · obtain ⟨e, he, rfl⟩ := List.mem_map.mp haddress
      have hmem := (mem_withoutStale_iff hentries e).mpr he
      obtain ⟨address, heq, hcan⟩ := hall (item e) (List.mem_map_of_mem hmem)
      rw [← JsValue.string.inj heq] at hcan
      exact (hsigns e.1).mp hcan
  · rintro ⟨hdistinct, hcovers⟩
    refine ⟨restored, ?_, ?_, fun savedWallet hsaved => ?_⟩
    · rw [houtcome]
      exact hrestored
    · rw [haddresses]
      exact hdistinct
    · obtain ⟨e, he, rfl⟩ := List.mem_map.mp hsaved
      have hconnectable := (mem_withoutStale_iff hentries e).mp he
      exact ⟨e.1, rfl, (hsigns e.1).mpr (hcovers (List.mem_map_of_mem hconnectable))⟩

end

/-- In every run of sessions the stored addresses are distinct, and what a new session restores is
what is stored exactly if the accounts that the apps give are the saved ones. -/
theorem restored_wallets_iff (env : WalletEnv) (events : List WalletEvent) (initialized : Bool)
    (answers : ℕ → JsValue → Except JsError WalletAnswer) :
    let storage := (WalletEvent.run env events {}).storage
    ((storedItems storage).map savedAddress).Nodup ∧
      (RestoresStored ((restoringManager initialized).restoreConnections answers storage) ↔
        AccountsAreSaved initialized answers storage) := by
  obtain ⟨m, hholds⟩ := WalletEvent.run_holds env events (s := {}) (holds_empty rfl)
  refine ⟨?_, restoresStored_iff hholds initialized answers⟩
  rw [storedItems_of_holds hholds, StoredWallets.items, map_savedAddress]
  exact m.distinct.map fun a b hab => JsValue.string.inj hab

/-- The answer of a wallet app with one id. -/
def walletAnswer (address : String) : WalletAnswer :=
  ⟨some address, some ⟨"freighter", "Freighter"⟩⟩

/-- Two accounts of one app. -/
def twoAccounts : List WalletEvent :=
  [.newSession true true none, .initAdapter,
    .addFromWallet (.ok (walletAnswer "GA")) ⟨1, by decide⟩,
    .addFromWallet (.ok (walletAnswer "GB")) ⟨2, by decide⟩]

theorem twoAccounts_holds :
    Holds (WalletEvent.run ⟨.asciiOnly, fun _ => none⟩ twoAccounts {}).storage
      ((StoredWallets.save JsMap.empty "GA" ⟨"freighter", "Freighter", ⟨1, by decide⟩⟩).save "GB"
        ⟨"freighter", "Freighter", ⟨2, by decide⟩⟩) := by
  obtain ⟨storage, hfirst, hholds⟩ := @ExternalSignerManager.addFromWallet_connected
    (newManager true true none).initAdapter (fun _ => none) _ (holds_empty rfl) _ rfl rfl .asciiOnly
    (.ok (walletAnswer "GA")) _ _ _ rfl ⟨1, by decide⟩
  obtain ⟨storage', hsecond, hholds'⟩ := @ExternalSignerManager.addFromWallet_connected
    { (newManager true true none).initAdapter with
      walletAdapter := some (StellarWalletsKitAdapter.connect { initialized := true } .asciiOnly
        (.ok (walletAnswer "GA"))).2 }
    storage _ hholds _ rfl rfl .asciiOnly (.ok (walletAnswer "GB")) _ _ _ rfl ⟨2, by decide⟩
  rw [twoAccounts, WalletEvent.run]
  simp only [List.foldl_cons, List.foldl_nil, WalletEvent.step, hfirst]
  rw [hsecond]
  exact hholds'

/-- Only the account that is selected in the app is connected again, and it is connected twice. -/
theorem second_account_not_restored :
    ¬∀ (env : WalletEnv) (events : List WalletEvent) (initialized : Bool)
      (answers : ℕ → JsValue → Except JsError WalletAnswer),
      let storage := (WalletEvent.run env events {}).storage
      ((storedItems storage).map savedAddress).Nodup ∧
        RestoresStored ((restoringManager initialized).restoreConnections answers storage) := by
  intro hall
  have hrestores := (hall ⟨.asciiOnly, fun _ => none⟩ twoAccounts true
    fun _ _ => .ok (walletAnswer "GA")).2
  have hsaved := (restoresStored_iff twoAccounts_holds true _).mp hrestores
  have hperm := (accountsAreSaved_iff twoAccounts_holds true _).mp hsaved
  have hdistinct : ["GA", "GA"].Nodup := hperm.nodup_iff.mpr (by decide)
  exact absurd hdistinct (by decide)

end SmartAccountKit
