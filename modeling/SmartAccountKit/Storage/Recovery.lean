import SmartAccountKit.Storage.Texts

/-!
# Credentials that cannot be read

An adapter treats a text that it cannot read as no credentials, and reports that
nothing was overwritten. What happens to the text depends on the operations that
follow: saving and deleting write the credentials that were found.
-/

namespace SmartAccountKit.Storage
open Lib

namespace LocalStorageAdapter

variable (adapter : LocalStorageAdapter)

/-- A text that cannot be read into credentials. -/
def Unreadable (data : String) : Prop :=
  data ≠ "" ∧ readCredentials adapter.maxLength data = none

instance (data : String) : Decidable (adapter.Unreadable data) :=
  decidable_of_iff (data ≠ "" ∧ (readCredentials adapter.maxLength data).isNone = true)
    (by rw [Unreadable, Option.isNone_iff_eq_none])

/-- The storage after some calls. -/
def performAll (calls : List StorageCall) (storage : WebStorage) : WebStorage :=
  calls.foldl (fun storage call => (adapter.performOn call storage).2) storage

/-- The calls after which a text that cannot be read is no longer there. The last two concern an
adapter that keeps its credentials under the key of the session. -/
def Overwrites (data : String) (storage : WebStorage) (call : StorageCall) : Prop :=
  match call.operation with
  | .save credential =>
    call.refuses storage adapter.storageKey (writeCredentials
      (JsMap.empty.set credential.credentialId credential.toCredential)) = none
  | .delete credentialId =>
    call.refuses storage adapter.storageKey (writeCredentials (JsMap.empty.delete credentialId)) =
      none
  | .saveSession session =>
    adapter.storageKey = SESSION_KEY ∧
      call.refuses storage SESSION_KEY (stringifyJson session.object.toJson) = none ∧
      stringifyJson session.object.toJson ≠ data
  | .clearSession => adapter.storageKey = SESSION_KEY
  | _ => False

/-- The text stands under the storage key all along. -/
def KeepsText (storage : WebStorage) (data : String) (calls : List StorageCall) : Prop :=
  ∀ before, before <+: calls → adapter.performAll before storage adapter.storageKey = some data

variable {adapter}

theorem getStorage_of_unreadable {storage : WebStorage} {data : String}
    (hraw : storage adapter.storageKey = some data) (hunreadable : adapter.Unreadable data) :
    adapter.getStorage storage = JsMap.empty := by
  rw [getStorage, hraw]
  dsimp only
  rw [if_neg hunreadable.1, hunreadable.2, Option.getD_none]

/-- Whatever an adapter writes for credentials can be read. -/
theorem writeCredentials_ne_of_unreadable {data : String} (hunreadable : adapter.Unreadable data)
    (credentials : CredentialMap) : writeCredentials credentials ≠ data := by
  rintro rfl
  obtain ⟨reread, hreread, -⟩ := readCredentials_writeCredentials adapter.maxLength credentials
  have hnone := hunreadable.2
  rw [hreread] at hnone
  exact absurd hnone (Option.some_ne_none reread)

theorem setStorage_keeps_iff {storage : WebStorage} {data : String} {refuses : SetItemRule}
    (hraw : storage adapter.storageKey = some data) (hunreadable : adapter.Unreadable data)
    (credentials : CredentialMap) :
    (adapter.setStorage refuses credentials storage).2 adapter.storageKey = some data ↔
      ¬refuses storage adapter.storageKey (writeCredentials credentials) = none := by
  unfold setStorage write
  cases refuses storage adapter.storageKey (writeCredentials credentials) with
  | some e => exact iff_of_true hraw (Option.some_ne_none e)
  | none =>
    have hwritten : storage.setItem adapter.storageKey (writeCredentials credentials)
        adapter.storageKey = some (writeCredentials credentials) := Function.update_self _ _ _
    dsimp only
    rw [hwritten, Option.some.injEq]
    exact iff_of_false (writeCredentials_ne_of_unreadable hunreadable credentials) (not_not.mpr rfl)

/-- What one call does to a text that cannot be read. -/
theorem performOn_keeps_iff {storage : WebStorage} {data : String}
    (hraw : storage adapter.storageKey = some data) (hunreadable : adapter.Unreadable data)
    {call : StorageCall} (hclear : call.operation ≠ .clear) :
    (adapter.performOn call storage).2 adapter.storageKey = some data ↔
      ¬adapter.Overwrites data storage call := by
  have hfound := getStorage_of_unreadable hraw hunreadable
  unfold Overwrites performOn
  cases hoperation : call.operation with
  | save credential =>
    dsimp only
    rw [save, hfound]
    exact setStorage_keeps_iff hraw hunreadable _
  | get credentialId => exact iff_of_true hraw not_false
  | getByContract contractId => exact iff_of_true hraw not_false
  | getAll => exact iff_of_true hraw not_false
  | delete credentialId =>
    dsimp only
    rw [delete, hfound]
    exact setStorage_keeps_iff hraw hunreadable _
  | update credentialId updates =>
    -- nothing is found, so nothing is written
    have hnone : (adapter.getStorage storage).get credentialId = none := by
      rw [hfound, JsMap.get_empty]
    dsimp only
    rw [adapter.update_of_missing hnone]
    exact iff_of_true hraw not_false
  | clear => exact absurd hoperation hclear
  | saveSession session =>
    dsimp only
    unfold saveSession write
    cases hrefused : call.refuses storage SESSION_KEY (stringifyJson session.object.toJson) with
    | some e =>
      have hfails : ¬(adapter.storageKey = SESSION_KEY ∧ some e = none ∧
          stringifyJson session.object.toJson ≠ data) := fun h => Option.some_ne_none e h.2.1
      exact iff_of_true hraw hfails
    | none =>
      show WebStorage.setItem storage SESSION_KEY _ adapter.storageKey = some data ↔ _
      unfold WebStorage.setItem
      by_cases hkey : adapter.storageKey = SESSION_KEY
      · rw [hkey, Function.update_self, Option.some.injEq]
        simp only [true_and, ne_eq, not_not]
      · rw [Function.update_of_ne hkey]
        exact iff_of_true hraw fun h => hkey h.1
  | getSession => exact iff_of_true hraw not_false
  | clearSession =>
    dsimp only
    unfold clearSession WebStorage.removeItem
    by_cases hkey : adapter.storageKey = SESSION_KEY
    · rw [hkey, Function.update_self]
      exact iff_of_false (fun h => absurd h.symm (Option.some_ne_none data)) (not_not.mpr rfl)
    · rw [Function.update_of_ne hkey]
      exact iff_of_true hraw hkey

theorem performAll_append_singleton (calls : List StorageCall) (call : StorageCall)
    (storage : WebStorage) :
    adapter.performAll (calls ++ [call]) storage =
      (adapter.performOn call (adapter.performAll calls storage)).2 :=
  List.foldl_append

/-- A text that cannot be read stays as it is in a sequence of operations without `clear` if and
only if no write that saves or deletes a credential is accepted, and, where the credentials have the
key of the session, none that saves another session, and the session is not cleared. -/
theorem unreadable_kept_iff {storage : WebStorage} {data : String}
    (hraw : storage adapter.storageKey = some data) (hunreadable : adapter.Unreadable data)
    {calls : List StorageCall} (hclear : ∀ call ∈ calls, call.operation ≠ .clear) :
    adapter.KeepsText storage data calls ↔ ∀ before call, before ++ [call] <+: calls →
      ¬adapter.Overwrites data (adapter.performAll before storage) call := by
  have hnotClear : ∀ before call, before ++ [call] <+: calls → call.operation ≠ .clear :=
    fun before call hbegins => hclear call (hbegins.subset (by simp))
  constructor
  · intro hkeeps before call hprefix
    have hbefore := hkeeps before ((List.prefix_append before [call]).trans hprefix)
    have hstep := hkeeps (before ++ [call]) hprefix
    rw [performAll_append_singleton] at hstep
    exact (performOn_keeps_iff hbefore hunreadable (hnotClear before call hprefix)).mp hstep
  · intro hcalls before hprefix
    induction before using List.reverseRecOn with
    | nil => exact hraw
    | append_singleton before call ih =>
      have hshorter : before <+: calls := (List.prefix_append before [call]).trans hprefix
      rw [performAll_append_singleton]
      exact (performOn_keeps_iff (ih hshorter) hunreadable (hnotClear before call hprefix)).mpr
        (hcalls before call hprefix)

end LocalStorageAdapter

/-- Credentials that are cut off. -/
def sampleCutText : String := "\x7b\"AQ\":"

def sampleCutStorage : WebStorage :=
  Function.update (fun _ => none) STORAGE_KEY (some sampleCutText)

theorem sampleCutStorage_unreadable : LocalStorageAdapter.Unreadable {} sampleCutText := by
  decide

/-- Calls that find no credential, and a deletion on a full page. -/
def sampleHarmlessCalls : List StorageCall :=
  [{ operation := .update "AQ" ⟨JsMap.empty, rfl, rfl⟩ }, { operation := .getAll },
    { operation := .delete "AQ", refuses := SetItemRule.quota [STORAGE_KEY] 0 }]

theorem unreadable_kept_iff_sample :
    LocalStorageAdapter.KeepsText {} sampleCutStorage sampleCutText sampleHarmlessCalls ↔
      ∀ before call, before ++ [call] <+: sampleHarmlessCalls →
        ¬LocalStorageAdapter.Overwrites {} sampleCutText
          (LocalStorageAdapter.performAll {} before sampleCutStorage) call :=
  LocalStorageAdapter.unreadable_kept_iff (Function.update_self _ _ _)
    sampleCutStorage_unreadable (by simp [sampleHarmlessCalls])

/-- Deleting a credential replaces the text by an empty object. -/
theorem unreadable_lost :
    ¬∀ (adapter : LocalStorageAdapter) (storage : WebStorage) (data : String)
      (calls : List StorageCall), storage adapter.storageKey = some data →
        adapter.Unreadable data → (∀ call ∈ calls, call.operation ≠ .clear) →
        adapter.KeepsText storage data calls := by
  intro hall
  have hraw : sampleCutStorage STORAGE_KEY = some sampleCutText := Function.update_self _ _ _
  have hkeeps := hall {} sampleCutStorage _ [{ operation := .delete "AQ" }] hraw
    sampleCutStorage_unreadable (by simp) _ List.prefix_rfl
  have hiff := @LocalStorageAdapter.performOn_keeps_iff {} sampleCutStorage sampleCutText hraw
    sampleCutStorage_unreadable { operation := .delete "AQ" } (by simp)
  exact hiff.mp hkeeps rfl

end SmartAccountKit.Storage
