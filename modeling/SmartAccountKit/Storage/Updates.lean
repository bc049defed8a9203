import SmartAccountKit.Storage.Refinement

/-!
# Overlapping updates of a stored credential

`MemoryStorage` and `LocalStorageAdapter` update a credential in one step.
`IndexedDBStorage` reads the credential in one transaction and writes it back in
another, and a second update may come between them.
-/

namespace SmartAccountKit.Storage
open Lib

/-! ## The object store -/

/-- `{ ...existing, ...updates }` of a credential with its id. -/
def NamedCredential.assign (existing : NamedCredential) (updates : CredentialUpdates) :
    NamedCredential where
  toCredential := existing.toCredential.assign updates
  credentialId := existing.credentialId
  holds_credentialId := by
    show (existing.object.assign updates.object).get "credentialId" = _
    rw [JsObject.assign, JsMap.get_setAll, JsMap.get_inOwnOrder, updates.keeps_credentialId,
      JsObject.spread, JsMap.get_inOwnOrder, existing.holds_credentialId]
    rfl

/-- The credentials in the object store. The key of each is its `credentialId`. -/
structure ObjectStore where
  get : String → Option NamedCredential
  keyed : ∀ credentialId credential, get credentialId = some credential →
    credential.credentialId = credentialId

namespace ObjectStore

/-- Store a credential under its key. -/
def put (store : ObjectStore) (credential : NamedCredential) : ObjectStore where
  get := Function.update store.get credential.credentialId (some credential)
  keyed := by
    intro credentialId credential' h
    by_cases hkey : credentialId = credential.credentialId
    · rw [hkey, Function.update_self, Option.some.injEq] at h
      rw [← h, hkey]
    · rw [Function.update_of_ne hkey] at h
      exact store.keyed credentialId credential' h

/-- The properties and the public key of a stored credential. -/
def found (store : ObjectStore) (credentialId : String) : Option Credential :=
  (store.get credentialId).map NamedCredential.toCredential

end ObjectStore

/-! ## Updates in two requests -/

/-- How far a call of `update` has come: it was called, it has found the credential, or it has
returned. -/
inductive UpdateCall where
  | called
  | found (existing : NamedCredential)
  | returned

/-- The next request of a call: read the credential, and save it with the updates if there is
one. -/
def IndexedDBStorage.updateStep (credentialId : String) (updates : CredentialUpdates)
    (store : ObjectStore) : UpdateCall → Option (UpdateCall × ObjectStore)
  | .called =>
    match store.get credentialId with
    | some existing => some (.found existing, store)
    | none => some (.returned, store)
  | .found existing => some (.returned, store.put (existing.assign updates))
  | .returned => none

inductive Caller where
  | first
  | second
deriving DecidableEq

/-- Two calls and the store they share. -/
structure TwoCalls where
  store : ObjectStore
  call : Caller → UpdateCall

namespace TwoCalls

/-- Both calls have been made. -/
def start (store : ObjectStore) : TwoCalls := ⟨store, fun _ => .called⟩

/-- One of the calls makes its next request. -/
def step (credentialId : String) (updates : Caller → CredentialUpdates) (s : TwoCalls)
    (caller : Caller) : Option TwoCalls :=
  (IndexedDBStorage.updateStep credentialId (updates caller) s.store (s.call caller)).map
    fun next => ⟨next.2, Function.update s.call caller next.1⟩

/-- The calls make their requests in an order. -/
def run (credentialId : String) (updates : Caller → CredentialUpdates) (s : TwoCalls) :
    List Caller → Option TwoCalls
  | [] => some s
  | caller :: schedule =>
    (s.step credentialId updates caller).bind fun s' => run credentialId updates s' schedule

/-- Both calls have returned. -/
def Returned (s : TwoCalls) : Prop := ∀ caller, s.call caller = .returned

end TwoCalls

/-! ## What the calls leave -/

/-- The credential that is found has the values of both updates, and nothing else has changed. -/
def KeepsBoth (credentialId : String) (updates : Caller → CredentialUpdates)
    (before : String → Option Credential) (existing : Credential)
    (after : String → Option Credential) : Prop :=
  (∃ credential, after credentialId = some credential ∧
    credential.publicKey = existing.publicKey ∧
    (∀ caller name value, (updates caller).object.get name = some value →
      credential.read name = value) ∧
    ∀ name, (∀ caller, (updates caller).object.get name = none) →
      credential.read name = existing.read name) ∧
  ∀ other, other ≠ credentialId → Option.Rel Credential.Same (after other) (before other)

/-- The updates write different properties. -/
def DisjointUpdates (updates : Caller → CredentialUpdates) : Prop :=
  ∀ a b name value, a ≠ b → (updates a).object.get name = some value →
    (updates b).object.get name = none

/-- Both calls have read the credential before the one saves it, and the other one saves it after
that. -/
def Overwritten (schedule : List Caller) (caller : Caller) : Prop :=
  ∃ a b other, schedule = [a, b, caller, other] ∧ a ≠ b

/-- The credentials that an adapter finds are written without loss. -/
def LocalStorageAdapter.FindsPlain (adapter : LocalStorageAdapter) (storage : WebStorage) : Prop :=
  (adapter.getStorage storage).get "__proto__" = none ∧
    ∀ credentialId credential, (adapter.getStorage storage).get credentialId = some credential →
      credential.PlainFields

/-- What ordinary operations have written is found without loss. -/
theorem LocalStorageAdapter.findsPlain_of_simulates {adapter : LocalStorageAdapter}
    {storage : WebStorage} {memory : MemoryStorage} (h : Simulates adapter storage memory) :
    adapter.FindsPlain storage := by
  constructor
  · have hproto := h.credentials.same "__proto__"
    rw [h.credentials.no_proto] at hproto
    cases hfound : (adapter.getStorage storage).get "__proto__" with
    | none => rfl
    | some c =>
      rw [hfound] at hproto
      cases hproto
  · intro credentialId credential hfound
    have hsame := h.credentials.same credentialId
    rw [hfound] at hsame
    cases hmemory : memory.credentials.get credentialId with
    | none =>
      rw [hmemory] at hsame
      cases hsame
    | some d =>
      rw [hmemory] at hsame
      cases hsame with
      | some hcd => exact hcd.plainFields (h.credentials.plain credentialId d hmemory)

theorem Credential.Same.refl (c : Credential) : c.Same c := ⟨rfl, fun _ => rfl⟩

theorem Credential.same_option (found : Option Credential) :
    Option.Rel Credential.Same found found := by
  cases found with
  | none => exact .none
  | some c => exact .some (.refl c)

theorem Caller.eq_of_ne {a b c : Caller} (hab : a ≠ b) (hc : c ≠ a) : c = b := by
  cases a <;> cases b <;> cases c <;> first | rfl | exact absurd rfl hab | exact absurd rfl hc

theorem Caller.exists_ne (c : Caller) : ∃ d, c ≠ d := by
  cases c with
  | first => exact ⟨.second, nofun⟩
  | second => exact ⟨.first, nofun⟩

section kept

variable {credentialId : String} {updates : Caller → CredentialUpdates}
  {before after : String → Option Credential} {existing credential : Credential} {a b : Caller}

/-- A credential with both updates, one after the other. -/
theorem keepsBoth_of_assign (hab : a ≠ b) (hdisjoint : DisjointUpdates updates)
    (hfound : after credentialId = some credential)
    (hsame : credential.Same ((existing.assign (updates a)).assign (updates b)))
    (hothers : ∀ other, other ≠ credentialId →
      Option.Rel Credential.Same (after other) (before other)) :
    KeepsBoth credentialId updates before existing after := by
  have hread : ∀ name, credential.read name = ((updates b).object.get name).getD
      (((updates a).object.get name).getD (existing.read name)) := by
    intro name
    rw [hsame.2, Credential.read_assign, Credential.read_assign]
  refine ⟨⟨credential, hfound, hsame.1, ?_, ?_⟩, hothers⟩
  · intro caller name value hvalue
    by_cases hcaller : caller = a
    · rw [hcaller] at hvalue
      rw [hread, hdisjoint a b name value hab hvalue, hvalue]
      rfl
    · rw [Caller.eq_of_ne hab hcaller] at hvalue
      rw [hread, hvalue]
      rfl
  · intro name hnone
    rw [hread, hnone a, hnone b]
    rfl

/-- A credential with the second update only has both if the first one writes nothing new. -/
theorem keepsBoth_assign_iff (hab : a ≠ b) (hdisjoint : DisjointUpdates updates)
    (hfound : after credentialId = some (existing.assign (updates b)))
    (hothers : ∀ other, other ≠ credentialId →
      Option.Rel Credential.Same (after other) (before other)) :
    KeepsBoth credentialId updates before existing after ↔
      ∀ name value, (updates a).object.get name = some value → existing.read name = value := by
  constructor
  · intro hkeeps name value hvalue
    obtain ⟨credential, hcredential, -, hvalues, -⟩ := hkeeps.1
    have hkept := hvalues a name value hvalue
    rw [← Option.some.inj (hfound.symm.trans hcredential), Credential.read_assign,
      hdisjoint a b name value hab hvalue] at hkept
    exact hkept
  · intro hsame
    refine keepsBoth_of_assign hab hdisjoint hfound ⟨rfl, fun name => ?_⟩ hothers
    rw [Credential.read_assign, Credential.read_assign, Credential.read_assign]
    cases hvalue : (updates a).object.get name with
    | none => rfl
    | some value =>
      rw [hsame name value hvalue]
      rfl

/-! ## Updates in one step -/

/-- Two updates in memory keep both, in any order. -/
theorem MemoryStorage.update_keepsBoth {memory : MemoryStorage}
    (hexisting : memory.credentials.get credentialId = some existing) (hab : a ≠ b)
    (hdisjoint : DisjointUpdates updates) :
    KeepsBoth credentialId updates memory.credentials.get existing
      ((memory.update credentialId (updates a)).update credentialId
        (updates b)).credentials.get := by
  have hfirst : memory.update credentialId (updates a) =
      { memory with credentials :=
          memory.credentials.set credentialId (existing.assign (updates a)) } := by
    rw [update, hexisting]
  have hsecond : ((memory.update credentialId (updates a)).update credentialId
      (updates b)).credentials = (memory.credentials.set credentialId
        (existing.assign (updates a))).set credentialId
          ((existing.assign (updates a)).assign (updates b)) := by
    rw [hfirst, update, JsMap.get_set, if_pos rfl]
  rw [hsecond]
  apply keepsBoth_of_assign hab hdisjoint (by rw [JsMap.get_set, if_pos rfl]) (.refl _)
  intro other hother
  rw [JsMap.get_set, if_neg hother, JsMap.get_set, if_neg hother]
  exact Credential.same_option _

/-- An update whose write is accepted is the one in memory. -/
theorem LocalStorageAdapter.update_sameCredentials {adapter : LocalStorageAdapter}
    {storage : WebStorage} {memory : CredentialMap} {refuses : SetItemRule} {u : CredentialUpdates}
    (h : SameCredentials (adapter.getStorage storage) memory)
    (hexisting : memory.get credentialId = some existing)
    (hplain : ∀ name value, u.object.get name = some value → value.Plain)
    (hdone : (adapter.update refuses credentialId u storage).1.isOk = true) :
    SameCredentials (adapter.getStorage (adapter.update refuses credentialId u storage).2)
      (memory.set credentialId (existing.assign u)) := by
  have hsame := h.same credentialId
  have hid : credentialId ≠ "__proto__" := by
    rintro rfl
    exact absurd (h.no_proto.symm.trans hexisting).symm (Option.some_ne_none existing)
  rw [hexisting] at hsame
  cases hfound : (adapter.getStorage storage).get credentialId with
  | none =>
    rw [hfound] at hsame
    cases hsame
  | some c =>
    rw [hfound] at hsame
    cases hsame with
    | some hc =>
      have hset := h.set (hc.assign u)
        ((h.plain credentialId existing hexisting).assign hplain) hid
      apply hset.reload
      rw [adapter.update_of_found hfound] at hdone ⊢
      unfold setStorage write at hdone ⊢
      cases hrefused : refuses storage adapter.storageKey _ with
      | some e =>
        rw [hrefused] at hdone
        exact absurd hdone Bool.false_ne_true
      | none => exact Function.update_self _ _ _

/-- Two updates over `localStorage` whose writes are accepted keep both, in any order. -/
theorem LocalStorageAdapter.update_keepsBoth {adapter : LocalStorageAdapter} {storage : WebStorage}
    {refuses : SetItemRule} (hplain : adapter.FindsPlain storage)
    (hexisting : (adapter.getStorage storage).get credentialId = some existing) (hab : a ≠ b)
    (hdisjoint : DisjointUpdates updates)
    (hupdates : ∀ caller name value, (updates caller).object.get name = some value → value.Plain)
    (hfirst : (adapter.update refuses credentialId (updates a) storage).1.isOk = true)
    (hsecond : (adapter.update refuses credentialId (updates b)
      (adapter.update refuses credentialId (updates a) storage).2).1.isOk = true) :
    KeepsBoth credentialId updates (adapter.getStorage storage).get existing
      (adapter.getStorage (adapter.update refuses credentialId (updates b)
        (adapter.update refuses credentialId (updates a) storage).2).2).get := by
  have hstart : SameCredentials (adapter.getStorage storage) (adapter.getStorage storage) :=
    ⟨fun _ => Credential.same_option _, hplain.2, hplain.1⟩
  have hone := update_sameCredentials hstart hexisting (hupdates a) hfirst
  have htwo := update_sameCredentials hone (by rw [JsMap.get_set, if_pos rfl]) (hupdates b) hsecond
  have hfound := htwo.same credentialId
  rw [JsMap.get_set, if_pos rfl] at hfound
  cases hlast : (adapter.getStorage (adapter.update refuses credentialId (updates b)
      (adapter.update refuses credentialId (updates a) storage).2).2).get credentialId with
  | none =>
    rw [hlast] at hfound
    cases hfound
  | some credential =>
    rw [hlast] at hfound
    cases hfound with
    | some hsame =>
      apply keepsBoth_of_assign hab hdisjoint hlast hsame
      intro other hother
      have hrel := htwo.same other
      rw [JsMap.get_set, if_neg hother, JsMap.get_set, if_neg hother] at hrel
      exact hrel

end kept

/-! ## Runs of two calls -/

section updates

variable {credentialId : String} {updates : Caller → CredentialUpdates}
  {store store' : ObjectStore} {existing : NamedCredential} {a b c : Caller}
  {s s' : TwoCalls} {schedule : List Caller}

/-- What is stored after a credential was saved. -/
theorem get_put (hexisting : store.get credentialId = some existing) (u : CredentialUpdates) :
    (store.put (existing.assign u)).get =
      Function.update store.get credentialId (some (existing.assign u)) := by
  have hkey := store.keyed credentialId existing hexisting
  show Function.update store.get existing.credentialId _ = _
  rw [hkey]

theorem get_put_self (hexisting : store.get credentialId = some existing)
    (u : CredentialUpdates) :
    (store.put (existing.assign u)).get credentialId = some (existing.assign u) := by
  rw [get_put hexisting, Function.update_self]

/-- A credential that is saved twice is stored as it was saved last. -/
theorem get_put_put (hexisting : store.get credentialId = some existing)
    (u v : CredentialUpdates) {credential : NamedCredential}
    (hid : credential.credentialId = credentialId) :
    ((store.put (existing.assign u)).put (credential.assign v)).get =
      Function.update store.get credentialId (some (credential.assign v)) := by
  show Function.update (store.put (existing.assign u)).get credential.credentialId _ = _
  rw [hid, get_put hexisting, Function.update_idem]

/-- The other credentials stay as they are. -/
theorem found_others {credential : NamedCredential}
    (h : store'.get = Function.update store.get credentialId (some credential)) (other : String)
    (hother : other ≠ credentialId) :
    Option.Rel Credential.Same (store'.found other) (store.found other) := by
  unfold ObjectStore.found
  rw [h, Function.update_of_ne hother]
  exact Credential.same_option _

theorem found_self {credential : NamedCredential}
    (h : store'.get = Function.update store.get credentialId (some credential)) :
    store'.found credentialId = some credential.toCredential := by
  unfold ObjectStore.found
  rw [h, Function.update_self]
  rfl

theorem step_called (hcall : s.call c = .called)
    (hget : s.store.get credentialId = some existing) :
    s.step credentialId updates c =
      some ⟨s.store, Function.update s.call c (.found existing)⟩ := by
  rw [TwoCalls.step, hcall, IndexedDBStorage.updateStep, hget]
  rfl

theorem step_found (hcall : s.call c = .found existing) :
    s.step credentialId updates c =
      some ⟨s.store.put (existing.assign (updates c)), Function.update s.call c .returned⟩ := by
  rw [TwoCalls.step, hcall]
  rfl

theorem step_returned (hcall : s.call c = .returned) :
    s.step credentialId updates c = none := by
  rw [TwoCalls.step, hcall]
  rfl

/-- Nothing follows when both calls have returned. -/
theorem run_of_returned (hcalls : s.Returned)
    (hrun : s.run credentialId updates schedule = some s') : schedule = [] ∧ s' = s := by
  cases schedule with
  | nil => exact ⟨rfl, (Option.some.inj hrun).symm⟩
  | cons c schedule =>
    rw [TwoCalls.run, step_returned (hcalls c)] at hrun
    exact nomatch hrun

/-- One call has to save the credential. -/
theorem run_of_one_found (hcall : s.call c = .found existing)
    (hothers : ∀ other, other ≠ c → s.call other = .returned)
    (hrun : s.run credentialId updates schedule = some s') (hreturned : s'.Returned) :
    schedule = [c] ∧ s'.store = s.store.put (existing.assign (updates c)) := by
  cases schedule with
  | nil =>
    obtain rfl := Option.some.inj hrun
    have hdone := hreturned c
    rw [hcall] at hdone
    exact nomatch hdone
  | cons d schedule =>
    by_cases hd : d = c
    · rw [TwoCalls.run, hd, step_found hcall] at hrun
      have hall : TwoCalls.Returned ⟨s.store.put (existing.assign (updates c)),
          Function.update s.call c .returned⟩ := by
        intro other
        show Function.update s.call c UpdateCall.returned other = _
        by_cases hother : other = c
        · rw [hother, Function.update_self]
        · rw [Function.update_of_ne hother, hothers other hother]
      obtain ⟨rfl, rfl⟩ := run_of_returned hall hrun
      exact ⟨by rw [hd], rfl⟩
    · rw [TwoCalls.run, step_returned (hothers d hd)] at hrun
      exact nomatch hrun

/-- Both calls have read the credential and have to save it. -/
theorem run_of_both_found (hcalls : ∀ c, s.call c = .found existing)
    (hrun : s.run credentialId updates schedule = some s') (hreturned : s'.Returned) :
    ∃ c d, c ≠ d ∧ schedule = [c, d] ∧
      s'.store = (s.store.put (existing.assign (updates c))).put (existing.assign (updates d)) := by
  cases schedule with
  | nil =>
    obtain rfl := Option.some.inj hrun
    have hdone := hreturned .first
    rw [hcalls] at hdone
    exact nomatch hdone
  | cons c schedule =>
    rw [TwoCalls.run, step_found (hcalls c)] at hrun
    obtain ⟨d, hcd⟩ := Caller.exists_ne c
    have hfound : Function.update s.call c UpdateCall.returned d = .found existing := by
      rw [Function.update_of_ne hcd.symm, hcalls d]
    have hothers : ∀ other, other ≠ d →
        Function.update s.call c UpdateCall.returned other = .returned := by
      intro other hother
      rw [Caller.eq_of_ne hcd.symm hother, Function.update_self]
    obtain ⟨rfl, hstore⟩ := run_of_one_found hfound hothers hrun hreturned
    exact ⟨c, d, hcd, rfl, hstore⟩

/-- One call has returned, and the other one has still to read the credential. -/
theorem run_of_one_called (hcall : s.call c = .called)
    (hothers : ∀ other, other ≠ c → s.call other = .returned)
    (hget : s.store.get credentialId = some existing)
    (hrun : s.run credentialId updates schedule = some s') (hreturned : s'.Returned) :
    schedule = [c, c] ∧ s'.store = s.store.put (existing.assign (updates c)) := by
  cases schedule with
  | nil =>
    obtain rfl := Option.some.inj hrun
    have hdone := hreturned c
    rw [hcall] at hdone
    exact nomatch hdone
  | cons d schedule =>
    by_cases hd : d = c
    · rw [TwoCalls.run, hd, step_called hcall hget] at hrun
      have hothers' : ∀ other, other ≠ c →
          Function.update s.call c (UpdateCall.found existing) other = .returned := by
        intro other hother
        rw [Function.update_of_ne hother, hothers other hother]
      obtain ⟨rfl, hstore⟩ :=
        run_of_one_found (Function.update_self _ _ _) hothers' hrun hreturned
      exact ⟨by rw [hd], hstore⟩
    · rw [TwoCalls.run, step_returned (hothers d hd)] at hrun
      exact nomatch hrun

/-- The two calls come one after the other, or both read the credential before it is saved. -/
theorem run_of_start (hexisting : store.get credentialId = some existing)
    (hrun : (TwoCalls.start store).run credentialId updates schedule = some s)
    (hreturned : s.Returned) :
    (∃ a b, a ≠ b ∧ schedule = [a, a, b, b] ∧ s.store.get = Function.update store.get credentialId
      (some ((existing.assign (updates a)).assign (updates b)))) ∨
    ∃ a b c d, a ≠ b ∧ c ≠ d ∧ schedule = [a, b, c, d] ∧
      s.store.get = Function.update store.get credentialId
        (some (existing.assign (updates d))) := by
  cases schedule with
  | nil =>
    obtain rfl := Option.some.inj hrun
    exact nomatch hreturned .first
  | cons a schedule =>
    rw [TwoCalls.run, step_called rfl hexisting] at hrun
    cases schedule with
    | nil =>
      obtain rfl := Option.some.inj hrun
      have hdone := hreturned a
      change Function.update (TwoCalls.start store).call a (.found existing) a = _ at hdone
      rw [Function.update_self] at hdone
      exact nomatch hdone
    | cons b schedule =>
      by_cases hab : a = b
      · -- the first call goes on before the other one reads
        subst hab
        obtain ⟨b, hab⟩ := Caller.exists_ne a
        have hfound : Function.update (TwoCalls.start store).call a
            (UpdateCall.found existing) a = .found existing := Function.update_self _ _ _
        change (TwoCalls.step credentialId updates ⟨store, Function.update
          (TwoCalls.start store).call a (.found existing)⟩ a).bind _ = _ at hrun
        rw [step_found hfound] at hrun
        obtain ⟨rfl, hstore⟩ := run_of_one_called (c := b)
          (by
            show Function.update (Function.update _ a _) a _ b = _
            rw [Function.update_of_ne hab.symm, Function.update_of_ne hab.symm]
            rfl)
          (by
            intro other hother
            rw [Caller.eq_of_ne hab.symm hother]
            exact Function.update_self _ _ _)
          (get_put_self hexisting (updates a)) hrun hreturned
        refine Or.inl ⟨a, b, hab, rfl, ?_⟩
        rw [hstore]
        have hkey : existing.credentialId = credentialId := store.keyed _ _ hexisting
        exact get_put_put hexisting _ _ hkey
      · have hcalled : Function.update (TwoCalls.start store).call a
            (UpdateCall.found existing) b = .called := Function.update_of_ne (Ne.symm hab) _ _
        change (TwoCalls.step credentialId updates ⟨store, Function.update
          (TwoCalls.start store).call a (.found existing)⟩ b).bind _ = _ at hrun
        rw [step_called hcalled hexisting] at hrun
        obtain ⟨c, d, hcd, rfl, hstore⟩ := run_of_both_found
          (by
            intro c
            show Function.update (Function.update _ a _) b _ c = _
            by_cases hc : c = b
            · rw [hc, Function.update_self]
            · rw [Caller.eq_of_ne (Ne.symm hab) hc, Function.update_of_ne hab,
                Function.update_self])
          hrun hreturned
        refine Or.inr ⟨a, b, c, d, hab, hcd, rfl, ?_⟩
        rw [hstore]
        exact get_put_put hexisting _ _ (store.keyed _ _ hexisting)

/-- Two overlapping updates keep both exactly if the one that is overwritten writes nothing new. In
memory and over `localStorage`, where an update is one step, they always do. -/
theorem concurrentUpdates_keepBoth_iff (hexisting : store.get credentialId = some existing)
    (hdisjoint : DisjointUpdates updates)
    (hrun : (TwoCalls.start store).run credentialId updates schedule = some s)
    (hreturned : s.Returned) :
    (KeepsBoth credentialId updates store.found existing.toCredential s.store.found ↔
      ∀ caller, Overwritten schedule caller → ∀ name value,
        (updates caller).object.get name = some value → existing.read name = value) ∧
    (∀ a b, a ≠ b → ∀ (memory : MemoryStorage) (stored : Credential),
      memory.credentials.get credentialId = some stored →
      KeepsBoth credentialId updates memory.credentials.get stored
        ((memory.update credentialId (updates a)).update credentialId
          (updates b)).credentials.get) ∧
    ∀ a b, a ≠ b → ∀ (adapter : LocalStorageAdapter) (refuses : SetItemRule) (storage : WebStorage)
      (stored : Credential), adapter.FindsPlain storage →
      (∀ caller name value, (updates caller).object.get name = some value → value.Plain) →
      (adapter.getStorage storage).get credentialId = some stored →
      (adapter.update refuses credentialId (updates a) storage).1.isOk = true →
      (adapter.update refuses credentialId (updates b)
        (adapter.update refuses credentialId (updates a) storage).2).1.isOk = true →
      KeepsBoth credentialId updates (adapter.getStorage storage).get stored
        (adapter.getStorage (adapter.update refuses credentialId (updates b)
          (adapter.update refuses credentialId (updates a) storage).2).2).get := by
  refine ⟨?_, fun a b hab memory stored hstored => MemoryStorage.update_keepsBoth hstored hab
      hdisjoint, fun a b hab adapter refuses storage stored hplain hupdates hstored hfirst hsecond =>
      adapter.update_keepsBoth hplain hstored hab hdisjoint hupdates hfirst hsecond⟩
  rcases run_of_start hexisting hrun hreturned with
    ⟨a, b, hab, rfl, hstore⟩ | ⟨a, b, c, d, hab, hcd, rfl, hstore⟩
  · refine iff_of_true (keepsBoth_of_assign hab hdisjoint (found_self hstore) (.refl _)
      (found_others hstore)) ?_
    -- one call has returned before the other one reads
    rintro caller ⟨a', b', other, hschedule, hne⟩
    rw [List.cons.injEq, List.cons.injEq] at hschedule
    exact absurd (hschedule.1.symm.trans hschedule.2.1) hne
  · rw [keepsBoth_assign_iff hcd hdisjoint (found_self hstore) (found_others hstore)]
    constructor
    · rintro hsame caller ⟨a', b', other, hschedule, -⟩
      rw [List.cons.injEq, List.cons.injEq, List.cons.injEq] at hschedule
      rw [← hschedule.2.2.1]
      exact hsame
    · intro hsame
      exact hsame c ⟨a, b, d, rfl, hab⟩

end updates

/-! ## A lost update -/

/-- A stored credential that waits for its deployment. -/
def samplePendingCredential : NamedCredential where
  object :=
    { entries := [("credentialId", .string "AQ"), ("publicKey", .bytes []),
        ("deploymentStatus", .string "pending")]
      distinct := by
        show ["credentialId", "publicKey", "deploymentStatus"].Nodup
        decide }
  publicKey := []
  holds_publicKey := rfl
  credentialId := "AQ"
  holds_credentialId := rfl

def sampleObjectStore : ObjectStore where
  get := fun credentialId => if credentialId = "AQ" then some samplePendingCredential else none
  keyed := by
    intro credentialId credential h
    split at h
    next hid => rw [← Option.some.inj h, hid]; rfl
    next => exact absurd h.symm (Option.some_ne_none credential)

/-- The update of one property. -/
def updateOf (name : String) (value : JsValue) (hkey : name ≠ "publicKey")
    (hid : name ≠ "credentialId") : CredentialUpdates where
  object := JsMap.empty.set name value
  keeps_publicKey := by rw [JsMap.get_set, if_neg hkey.symm, JsMap.get_empty]
  keeps_credentialId := by rw [JsMap.get_set, if_neg hid.symm, JsMap.get_empty]

theorem get_singleProperty {name key : String} {value v : JsValue}
    (h : (JsMap.empty.set name value).get key = some v) : key = name ∧ v = value := by
  rw [JsMap.get_set] at h
  split at h
  next hname => exact ⟨hname, (Option.some.inj h).symm⟩
  next => exact absurd h.symm (Option.some_ne_none v)

/-- The status is written while a signature updates when the credential was used. -/
def sampleUpdates (status : String) : Caller → CredentialUpdates
  | .first => updateOf "deploymentStatus" (.string status) (by decide) (by decide)
  | .second => updateOf "lastUsedAt" (.number (.ofNat 5)) (by decide) (by decide)

theorem sampleUpdates_disjoint (status : String) : DisjointUpdates (sampleUpdates status) := by
  intro a b name value hab hvalue
  cases hb : (sampleUpdates status b).object.get name with
  | none => rfl
  | some value' =>
    cases a <;> cases b
    case first.first | second.second => exact absurd rfl hab
    case first.second | second.first =>
      have hnames := (get_singleProperty hvalue).1.symm.trans (get_singleProperty hb).1
      exact absurd hnames (by decide)

/-- Both calls read the credential before the first one saves it, and the status is lost. -/
theorem concurrentUpdates_lost :
    ∃ s, (TwoCalls.start sampleObjectStore).run "AQ" (sampleUpdates "deployed")
        [.first, .second, .first, .second] = some s ∧
      s.Returned ∧ DisjointUpdates (sampleUpdates "deployed") ∧
      ¬KeepsBoth "AQ" (sampleUpdates "deployed") sampleObjectStore.found
        samplePendingCredential.toCredential s.store.found := by
  have hdisjoint := sampleUpdates_disjoint "deployed"
  have hstore := @get_put_put "AQ" sampleObjectStore samplePendingCredential rfl
    (sampleUpdates "deployed" .first) (sampleUpdates "deployed" .second)
    samplePendingCredential rfl
  refine ⟨_, rfl, by intro caller; cases caller <;> rfl, hdisjoint, fun hkeeps => ?_⟩
  have hsame := (keepsBoth_assign_iff (a := .first) (b := .second) (by decide) hdisjoint
    (found_self hstore) (found_others hstore)).mp hkeeps
  have hstatus := hsame "deploymentStatus" (.string "deployed") rfl
  exact absurd (JsValue.string.inj hstatus) (by decide)

theorem sampleUpdates_plain (status : String) (caller : Caller) (name : String) (value : JsValue)
    (h : (sampleUpdates status caller).object.get name = some value) : value.Plain := by
  cases caller with
  | first =>
    rw [(get_singleProperty h).2]
    exact .string status
  | second =>
    rw [(get_singleProperty h).2]
    exact .number (isDouble_natCast (by norm_num))

/-- A page on which a credential was saved. -/
def samplePage : WebStorage :=
  (LocalStorageAdapter.performOn {} { operation := .save refinedCredential } fun _ => none).2

/-- The page after an update of its credential. -/
def samplePageUpdate (status : String) (caller : Caller) (storage : WebStorage) : WebStorage :=
  (LocalStorageAdapter.update {} .accepts "AQ" (sampleUpdates status caller) storage).2

theorem samplePage_simulates :
    Simulates {} samplePage (MemoryStorage.perform {} (.save refinedCredential)).2 :=
  ((LocalStorageAdapter.simulates_empty rfl rfl).perform (by decide) refinedCredential_ordinary).2

theorem accepted_update {storage : WebStorage} {u : CredentialUpdates} :
    (LocalStorageAdapter.update {} .accepts "AQ" u storage).1.isOk = true := by
  unfold LocalStorageAdapter.update
  dsimp only
  split <;> rfl

/-- Both calls read the credential before it is saved, and the one that is overwritten writes the
status that it has. Over `localStorage` another status is kept too. -/
theorem concurrentUpdates_keepBoth_iff_sample :
    (∃ s, (TwoCalls.start sampleObjectStore).run "AQ" (sampleUpdates "pending")
        [.second, .first, .first, .second] = some s ∧
      KeepsBoth "AQ" (sampleUpdates "pending") sampleObjectStore.found
        samplePendingCredential.toCredential s.store.found) ∧
    ∃ stored, KeepsBoth "AQ" (sampleUpdates "pending")
      (LocalStorageAdapter.getStorage {} samplePage).get stored
      (LocalStorageAdapter.getStorage {} (samplePageUpdate "pending" .second
        (samplePageUpdate "pending" .first samplePage))).get := by
  have hruns : ∃ s, (TwoCalls.start sampleObjectStore).run "AQ" (sampleUpdates "pending")
      [.second, .first, .first, .second] = some s ∧ s.Returned :=
    ⟨_, rfl, by intro caller; cases caller <;> rfl⟩
  obtain ⟨s, hrun, hreturned⟩ := hruns
  have hexisting : sampleObjectStore.get "AQ" = some samplePendingCredential := rfl
  have hkeeps := concurrentUpdates_keepBoth_iff hexisting (sampleUpdates_disjoint "pending") hrun
    hreturned
  refine ⟨⟨s, hrun, hkeeps.1.mpr fun caller hoverwritten name value hvalue => ?_⟩, ?_⟩
  · obtain ⟨a, b, other, hschedule, -⟩ := hoverwritten
    -- the first call is the one that is overwritten
    rw [List.cons.injEq, List.cons.injEq, List.cons.injEq] at hschedule
    rw [← hschedule.2.2.1] at hvalue
    obtain ⟨rfl, rfl⟩ := get_singleProperty hvalue
    rfl
  · have hsame := samplePage_simulates.credentials.same "AQ"
    cases hstored : (LocalStorageAdapter.getStorage {} samplePage).get "AQ" with
    | none =>
      rw [hstored] at hsame
      cases hsame
    | some stored =>
      exact ⟨stored, hkeeps.2.2 .first .second (by decide) {} .accepts samplePage stored
        (LocalStorageAdapter.findsPlain_of_simulates samplePage_simulates)
        (sampleUpdates_plain "pending") hstored accepted_update accepted_update⟩

end SmartAccountKit.Storage
