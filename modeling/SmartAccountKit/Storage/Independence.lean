import SmartAccountKit.Storage.Adapters

/-!
# Adapters over one `localStorage`

Two adapters with different storage keys do not see each other's credentials,
however their operations are interleaved. They share the session, which has one
key for all adapters, and the room of `localStorage`.
-/

namespace SmartAccountKit.Storage
open Lib

namespace LocalStorageAdapter

/-- The operations that change the stored session. -/
def WritesSession (call : StorageCall) : Prop :=
  match call.operation with
  | .clear => True
  | .saveSession _ => True
  | .clearSession => True
  | _ => False

def readsSession (call : StorageCall) : Bool :=
  match call.operation with
  | .getSession => true
  | _ => false

/-! ## What one call touches -/

section frames

variable {adapter : LocalStorageAdapter} {storage storage' : WebStorage}

/-- The error with which an operation fails. -/
def failure? (outcome : Except JsError StorageValue) : Option JsError :=
  match outcome with
  | .error e => some e
  | .ok _ => none

theorem failure?_write (refuses : SetItemRule) (key value : String) (storage : WebStorage) :
    failure? (write refuses key value storage).1 = refuses storage key value := by
  unfold write
  cases refuses storage key value <;> rfl

theorem write_of_ne {refuses : SetItemRule} {key value other : String} (h : other ≠ key) :
    (write refuses key value storage).2 other = storage other := by
  unfold write
  cases refuses storage key value with
  | some e => rfl
  | none => exact Function.update_of_ne h _ _

/-- A write does the same under its key wherever it is accepted, or refused with the same error. -/
theorem write_congr {refuses : SetItemRule} {key other value : String}
    (hfails : failure? (write refuses key value storage).1 =
      failure? (write refuses key value storage').1)
    (h : storage other = storage' other) :
    (write refuses key value storage).2 other = (write refuses key value storage').2 other ∧
      (write refuses key value storage).1 = (write refuses key value storage').1 := by
  rw [failure?_write, failure?_write] at hfails
  unfold write
  rw [hfails]
  cases refuses storage' key value with
  | some e => exact ⟨h, rfl⟩
  | none =>
    refine ⟨?_, rfl⟩
    show WebStorage.setItem storage key value other = WebStorage.setItem storage' key value other
    unfold WebStorage.setItem
    by_cases hkey : other = key
    · rw [hkey, Function.update_self, Function.update_self]
    · rw [Function.update_of_ne hkey, Function.update_of_ne hkey, h]

theorem removeItem_congr {key other : String} (h : storage other = storage' other) :
    storage.removeItem key other = storage'.removeItem key other := by
  unfold WebStorage.removeItem
  by_cases hkey : other = key
  · rw [hkey, Function.update_self, Function.update_self]
  · rw [Function.update_of_ne hkey, Function.update_of_ne hkey, h]

/-- A key that is neither the storage key nor that of the session is left alone. -/
theorem performOn_of_ne (call : StorageCall) {key : String} (hkey : key ≠ adapter.storageKey)
    (hsession : key ≠ SESSION_KEY) : (adapter.performOn call storage).2 key = storage key := by
  unfold performOn
  cases call.operation with
  | save credential => exact write_of_ne hkey
  | delete credentialId => exact write_of_ne hkey
  | update credentialId updates =>
    dsimp only
    unfold update
    dsimp only
    split
    · exact write_of_ne hkey
    · rfl
  | clear =>
    show (storage.removeItem adapter.storageKey).removeItem SESSION_KEY key = storage key
    unfold WebStorage.removeItem
    rw [Function.update_of_ne hsession, Function.update_of_ne hkey]
  | saveSession session => exact write_of_ne hsession
  | clearSession => exact Function.update_of_ne hsession _ _
  | _ => rfl

/-- The session is left alone by the operations on credentials. -/
theorem performOn_session {call : StorageCall} (hkey : adapter.storageKey ≠ SESSION_KEY)
    (hcall : ¬WritesSession call) :
    (adapter.performOn call storage).2 SESSION_KEY = storage SESSION_KEY := by
  unfold WritesSession at hcall
  unfold performOn
  cases hoperation : call.operation with
  | save credential => exact write_of_ne hkey.symm
  | delete credentialId => exact write_of_ne hkey.symm
  | update credentialId updates =>
    dsimp only
    unfold update
    dsimp only
    split
    · exact write_of_ne hkey.symm
    · rfl
  | clear => rw [hoperation] at hcall; exact absurd trivial hcall
  | saveSession session => rw [hoperation] at hcall; exact absurd trivial hcall
  | clearSession => rw [hoperation] at hcall; exact absurd trivial hcall
  | _ => rfl

theorem getStorage_congr (h : storage adapter.storageKey = storage' adapter.storageKey) :
    adapter.getStorage storage = adapter.getStorage storage' := by
  unfold getStorage
  rw [h]

/-- Where two pages hold the same text under the storage key and refuse the same write, an operation
on credentials gives the same on both, and leaves the same text under any key that they agree on. -/
theorem performOn_congr (h : storage adapter.storageKey = storage' adapter.storageKey)
    (call : StorageCall) (hfails : failure? (adapter.performOn call storage).1 =
      failure? (adapter.performOn call storage').1)
    (key : String) (hkey : storage key = storage' key) :
    (adapter.performOn call storage).2 key = (adapter.performOn call storage').2 key ∧
      (readsSession call = false →
        (adapter.performOn call storage).1 = (adapter.performOn call storage').1) := by
  have hsame := getStorage_congr h
  have hset : ∀ credentials, failure? (adapter.setStorage call.refuses credentials storage).1 =
        failure? (adapter.setStorage call.refuses credentials storage').1 →
      (adapter.setStorage call.refuses credentials storage).2 key =
          (adapter.setStorage call.refuses credentials storage').2 key ∧
        (adapter.setStorage call.refuses credentials storage).1 =
          (adapter.setStorage call.refuses credentials storage').1 :=
    fun credentials hrefused => write_congr hrefused hkey
  unfold performOn at hfails ⊢
  unfold readsSession
  cases hoperation : call.operation with
  | save credential =>
    rw [hoperation] at hfails
    dsimp only at hfails ⊢
    rw [save, save, hsame] at hfails ⊢
    exact ⟨(hset _ hfails).1, fun _ => (hset _ hfails).2⟩
  | get credentialId =>
    dsimp only
    rw [get, get, hsame]
    exact ⟨hkey, fun _ => rfl⟩
  | getByContract contractId =>
    dsimp only
    rw [getByContract, getByContract, hsame]
    exact ⟨hkey, fun _ => rfl⟩
  | getAll =>
    dsimp only
    rw [getAll, getAll, hsame]
    exact ⟨hkey, fun _ => rfl⟩
  | delete credentialId =>
    rw [hoperation] at hfails
    dsimp only at hfails ⊢
    rw [delete, delete, hsame] at hfails ⊢
    exact ⟨(hset _ hfails).1, fun _ => (hset _ hfails).2⟩
  | update credentialId updates =>
    rw [hoperation] at hfails
    dsimp only at hfails ⊢
    cases hfound' : (adapter.getStorage storage').get credentialId with
    | none =>
      have hfound := hsame ▸ hfound'
      rw [adapter.update_of_missing hfound, adapter.update_of_missing hfound']
      exact ⟨hkey, fun _ => rfl⟩
    | some credential =>
      have hfound := hsame ▸ hfound'
      rw [adapter.update_of_found hfound, adapter.update_of_found hfound', hsame] at hfails ⊢
      exact ⟨(hset _ hfails).1, fun _ => (hset _ hfails).2⟩
  | clear => exact ⟨removeItem_congr (removeItem_congr hkey), fun _ => rfl⟩
  | saveSession session =>
    rw [hoperation] at hfails
    have hwrite := @write_congr storage storage' call.refuses SESSION_KEY key
      (stringifyJson session.object.toJson) hfails hkey
    exact ⟨hwrite.1, fun _ => hwrite.2⟩
  | getSession => exact ⟨hkey, fun hreads => absurd hreads.symm Bool.false_ne_true⟩
  | clearSession => exact ⟨removeItem_congr hkey, fun _ => rfl⟩

theorem performOn_getSession_congr (h : storage adapter.storageKey = storage' adapter.storageKey)
    (hsession : storage SESSION_KEY = storage' SESSION_KEY) (call : StorageCall)
    (hfails : failure? (adapter.performOn call storage).1 =
      failure? (adapter.performOn call storage').1) :
    (adapter.performOn call storage).1 = (adapter.performOn call storage').1 := by
  cases hreads : readsSession call with
  | true =>
    unfold readsSession at hreads
    unfold performOn
    cases hoperation : call.operation with
    | getSession =>
      dsimp only
      unfold getSession
      rw [hsession]
    | _ => simp [hoperation] at hreads
  | false => exact (performOn_congr h call hfails _ h).2 hreads

end frames

/-! ## Interleaved calls -/

/-- Which of two adapters a call is made on. -/
inductive Side where
  | first
  | second
deriving DecidableEq

/-- The calls on the first adapter with what they give, in a sequence of calls on both. -/
def firstOutcomes (a b : LocalStorageAdapter) :
    List (Side × StorageCall) → WebStorage → List (StorageCall × Except JsError StorageValue)
  | [], _ => []
  | (.first, call) :: calls, storage =>
    (call, (a.performOn call storage).1) :: firstOutcomes a b calls (a.performOn call storage).2
  | (.second, call) :: calls, storage => firstOutcomes a b calls (b.performOn call storage).2

/-- The sequence without the calls on the second adapter. -/
def withoutSecond (calls : List (Side × StorageCall)) : List (Side × StorageCall) :=
  calls.filter fun e => e.1 = .first

/-- The outcomes that do not read the session. -/
def ofCredentials (outcomes : List (StorageCall × Except JsError StorageValue)) :
    List (StorageCall × Except JsError StorageValue) :=
  outcomes.filter fun e => !readsSession e.1

theorem withoutSecond_first (call : StorageCall) (calls : List (Side × StorageCall)) :
    withoutSecond ((.first, call) :: calls) = (.first, call) :: withoutSecond calls := rfl

theorem withoutSecond_second (call : StorageCall) (calls : List (Side × StorageCall)) :
    withoutSecond ((.second, call) :: calls) = withoutSecond calls := rfl

variable {a b : LocalStorageAdapter}

/-- The errors of some outcomes. -/
def failures (outcomes : List (StorageCall × Except JsError StorageValue)) :
    List (Option JsError) :=
  outcomes.map fun e => failure? e.2

theorem firstOutcomes_credentials (hkeys : a.storageKey ≠ b.storageKey)
    (ha : a.storageKey ≠ SESSION_KEY) (calls : List (Side × StorageCall))
    {storage storage' : WebStorage} (h : storage a.storageKey = storage' a.storageKey)
    (hfails : failures (firstOutcomes a b calls storage) =
      failures (firstOutcomes a b (withoutSecond calls) storage')) :
    ofCredentials (firstOutcomes a b calls storage) =
      ofCredentials (firstOutcomes a b (withoutSecond calls) storage') := by
  induction calls generalizing storage storage' with
  | nil => rfl
  | cons e calls ih =>
    obtain ⟨side, call⟩ := e
    cases side with
    | first =>
      obtain ⟨hnow, hlater⟩ := List.cons.inj hfails
      have hstep := performOn_congr h call hnow a.storageKey h
      have hrest := ih hstep.1 hlater
      rw [withoutSecond_first, firstOutcomes, firstOutcomes, ofCredentials, ofCredentials,
        List.filter_cons, List.filter_cons]
      dsimp only
      cases hreads : readsSession call with
      | true => exact hrest
      | false =>
        rw [hstep.2 hreads]
        exact congrArg (List.cons (call, (a.performOn call storage').1)) hrest
    | second =>
      rw [withoutSecond_second] at hfails ⊢
      rw [firstOutcomes] at hfails ⊢
      exact ih ((performOn_of_ne call hkeys ha).trans h) hfails

theorem firstOutcomes_all (hkeys : a.storageKey ≠ b.storageKey) (ha : a.storageKey ≠ SESSION_KEY)
    (hb : b.storageKey ≠ SESSION_KEY) {calls : List (Side × StorageCall)}
    (hcalls : ∀ e ∈ calls, e.1 = .second → ¬WritesSession e.2) {storage storage' : WebStorage}
    (h : storage a.storageKey = storage' a.storageKey)
    (hsession : storage SESSION_KEY = storage' SESSION_KEY)
    (hfails : failures (firstOutcomes a b calls storage) =
      failures (firstOutcomes a b (withoutSecond calls) storage')) :
    firstOutcomes a b calls storage = firstOutcomes a b (withoutSecond calls) storage' := by
  induction calls generalizing storage storage' with
  | nil => rfl
  | cons e calls ih =>
    obtain ⟨side, call⟩ := e
    have hrest := fun e he => hcalls e (List.mem_cons_of_mem _ he)
    cases side with
    | first =>
      obtain ⟨hnow, hlater⟩ := List.cons.inj hfails
      rw [withoutSecond_first, firstOutcomes, firstOutcomes,
        performOn_getSession_congr h hsession call hnow]
      exact congrArg _ (ih hrest (performOn_congr h call hnow _ h).1
        (performOn_congr h call hnow _ hsession).1 hlater)
    | second =>
      have hsilent := hcalls _ List.mem_cons_self rfl
      rw [withoutSecond_second] at hfails ⊢
      rw [firstOutcomes] at hfails ⊢
      exact ih hrest ((performOn_of_ne call hkeys ha).trans h)
        ((performOn_session hb hsilent).trans hsession) hfails

/-- However the operations of two adapters with different storage keys are interleaved, those of the
second do not change what the operations of the first on credentials give, where the same writes of
the first are refused. They change what it reads of the session only by changing the session. -/
theorem adapters_independent (hkeys : a.storageKey ≠ b.storageKey)
    (ha : a.storageKey ≠ SESSION_KEY) (hb : b.storageKey ≠ SESSION_KEY) (storage : WebStorage)
    (calls : List (Side × StorageCall))
    (hfails : failures (firstOutcomes a b calls storage) =
      failures (firstOutcomes a b (withoutSecond calls) storage)) :
    ofCredentials (firstOutcomes a b calls storage) =
      ofCredentials (firstOutcomes a b (withoutSecond calls) storage) ∧
    ((∀ e ∈ calls, e.1 = .second → ¬WritesSession e.2) →
      firstOutcomes a b calls storage = firstOutcomes a b (withoutSecond calls) storage) :=
  ⟨firstOutcomes_credentials hkeys ha calls rfl hfails,
    fun hcalls => firstOutcomes_all hkeys ha hb hcalls rfl rfl hfails⟩

/-- The room of a page for two adapters. -/
def sampleQuota (limit : ℕ) : SetItemRule := .quota [STORAGE_KEY, "other", SESSION_KEY] limit

/-- Both adapters write the credentials that they are left with, and the first reads its own. -/
def sampleDeletions (limit : ℕ) : List (Side × StorageCall) :=
  [(.second, { operation := .delete "AQ", refuses := sampleQuota limit }),
    (.first, { operation := .delete "AQ", refuses := sampleQuota limit }),
    (.first, { operation := .getAll })]

theorem adapters_independent_sample :
    ofCredentials (firstOutcomes {} { storageKey := "other" } (sampleDeletions 100) fun _ => none) =
      ofCredentials (firstOutcomes {} { storageKey := "other" }
        (withoutSecond (sampleDeletions 100)) fun _ => none) :=
  (adapters_independent (a := {}) (b := { storageKey := "other" }) (by decide) (by decide)
    (by decide) _ _ rfl).1

/-- Whether an outcome is that there is no session. -/
def isNoSession (outcome : Except JsError StorageValue) : Bool :=
  match outcome with
  | .ok (.session .null) => true
  | _ => false

/-- The session that one adapter saves is the one that another finds, and the room that one takes is
missing to another. -/
theorem adapters_share_storage :
    (¬∀ (a b : LocalStorageAdapter), a.storageKey ≠ b.storageKey → a.storageKey ≠ SESSION_KEY →
      b.storageKey ≠ SESSION_KEY → ∀ (storage : WebStorage) (calls : List (Side × StorageCall)),
        (∀ e ∈ calls, e.2.refuses = SetItemRule.accepts) →
        firstOutcomes a b calls storage = firstOutcomes a b (withoutSecond calls) storage) ∧
    ¬∀ (a b : LocalStorageAdapter), a.storageKey ≠ b.storageKey → a.storageKey ≠ SESSION_KEY →
      b.storageKey ≠ SESSION_KEY → ∀ (storage : WebStorage) (calls : List (Side × StorageCall)),
        ofCredentials (firstOutcomes a b calls storage) =
          ofCredentials (firstOutcomes a b (withoutSecond calls) storage) := by
  constructor
  · intro hall
    have hsame := hall {} { storageKey := "other" } (by decide) (by decide) (by decide)
      (fun _ => none)
      [(.second, { operation := .saveSession ⟨"C", "AQ", .ofNat 1, none⟩ }),
        (.first, { operation := .getSession })] (by simp)
    have houtcomes := congrArg (List.map fun e => isNoSession e.2) hsame
    exact absurd houtcomes (by decide +kernel)
  · intro hall
    -- the two texts do not fit together
    have hsame := hall {} { storageKey := "other" } (by decide) (by decide) (by decide)
      (fun _ => none) (sampleDeletions 35)
    have houtcomes := congrArg (List.map fun e => (failure? e.2).isSome) hsame
    exact absurd houtcomes (by decide)

end LocalStorageAdapter

end SmartAccountKit.Storage
