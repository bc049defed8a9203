import SmartAccountKit.Storage.Texts

/-!
# The two storages agree

Over a page that only the adapter writes to, `LocalStorageAdapter` answers every
sequence of operations as `MemoryStorage` does. The simulation compares the
credentials that the adapter would find with those in memory, property by
property: a property that is absent is one that is `undefined`.
-/

namespace SmartAccountKit.Storage
open Lib

/-! ## Equal values -/

/-- Two credentials with the same properties. -/
def Credential.Same (c d : Credential) : Prop :=
  c.publicKey = d.publicKey ∧ ∀ name, c.read name = d.read name

/-- The properties of an object value. -/
def sessionProperty (name : String) : JsValue → JsValue
  | .object properties => ((properties.find? fun e => e.1 = name).map Prod.snd).getD .undefined
  | _ => .undefined

/-- Two sessions that are both missing, or that have the same properties. -/
def SameSession (v w : JsValue) : Prop :=
  (v = .null ∧ w = .null) ∨
    (∃ properties properties', v = .object properties ∧ w = .object properties') ∧
      ∀ name, sessionProperty name v = sessionProperty name w

/-- Two results of an operation that are equal, credentials in any order. -/
def SameValue : StorageValue → StorageValue → Prop
  | .undefined, .undefined => True
  | .credential c, .credential d => Option.Rel Credential.Same c d
  | .credentials cs, .credentials ds =>
    (∀ c ∈ cs, ∃ d ∈ ds, c.Same d) ∧ ∀ d ∈ ds, ∃ c ∈ cs, c.Same d
  | .session v, .session w => SameSession v w
  | _, _ => False

/-! ## The operations that are compared -/

/-- A credential whose properties are written without loss. -/
def Credential.PlainFields (c : Credential) : Prop :=
  ∀ name, name ≠ "publicKey" → (c.read name).Plain

def FiniteNumber (x : JsNumber) : Prop := ∃ q, x = .finite q ∧ IsDouble q

/-- The ids of credentials that an operation names. -/
def StorageOperation.credentialId? : StorageOperation → Option String
  | .save credential => some credential.credentialId
  | .get credentialId => some credentialId
  | .delete credentialId => some credentialId
  | .update credentialId _ => some credentialId
  | _ => none

/-- The values that an operation stores are written without loss. -/
def StorageOperation.StoresPlain : StorageOperation → Prop
  | .save credential => credential.toCredential.PlainFields
  | .update _ updates => ∀ name value, updates.object.get name = some value → value.Plain
  | .saveSession session => FiniteNumber session.connectedAt ∧
    ∀ expiresAt ∈ session.expiresAt, FiniteNumber expiresAt
  | _ => True

/-- An operation over ids that are base64url texts, and with finite numbers. -/
structure StorageOperation.Ordinary (operation : StorageOperation) : Prop where
  id_encodes : ∀ credentialId ∈ operation.credentialId?, ∃ bs, credentialId = toBase64Url bs
  storesPlain : operation.StoresPlain

theorem toBase64Url_ne_proto (bs : Bytes) : toBase64Url bs ≠ "__proto__" := by
  intro h
  have hbytes : bs = fromBase64 "__proto__" := by
    rw [← h, fromBase64_toBase64Url]
  rw [hbytes] at h
  exact absurd h (by decide)

/-! ## Reloading -/

theorem Credential.PlainFields.reloaded_same {c : Credential} (h : c.PlainFields) :
    c.reloaded.Same c := by
  refine ⟨publicKey_reloaded c, fun name => ?_⟩
  rw [read_reloaded]
  split_ifs with hname
  · rw [hname, Credential.read, JsObject.read, c.holds_publicKey]
    rfl
  · exact (h name hname).reload_eq

theorem Credential.Same.plainFields {c d : Credential} (h : c.Same d) (hd : d.PlainFields) :
    c.PlainFields := by
  intro name hname
  rw [h.2 name]
  exact hd name hname

theorem Credential.Same.trans {c d e : Credential} (h : c.Same d) (h' : d.Same e) : c.Same e :=
  ⟨h.1.trans h'.1, fun name => (h.2 name).trans (h'.2 name)⟩

theorem Credential.same_copy (c : Credential) : c.Same c.copy := by
  refine ⟨rfl, fun name => ?_⟩
  exact (JsObject.read_spread c.object name).symm

theorem Credential.read_assign (c : Credential) (updates : CredentialUpdates) (name : String) :
    (c.assign updates).read name = (updates.object.get name).getD (c.read name) := by
  show (c.object.assign updates.object).read name = _
  rw [JsObject.read_assign]
  cases updates.object.get name with
  | none => rfl
  | some value => rfl

theorem Credential.Same.assign {c d : Credential} (h : c.Same d) (updates : CredentialUpdates) :
    (c.assign updates).Same (d.assign updates) := by
  refine ⟨h.1, fun name => ?_⟩
  rw [Credential.read_assign, Credential.read_assign, h.2 name]

theorem Credential.PlainFields.assign {c : Credential} (h : c.PlainFields)
    {updates : CredentialUpdates}
    (hupdates : ∀ name value, updates.object.get name = some value → value.Plain) :
    (c.assign updates).PlainFields := by
  intro name hname
  rw [Credential.read_assign]
  cases hvalue : updates.object.get name with
  | none => exact h name hname
  | some value => exact hupdates name value hvalue

theorem Credential.Same.isOf {c d : Credential} (h : c.Same d) (contractId : String) :
    c.isOf contractId = d.isOf contractId := by
  unfold Credential.isOf
  rw [h.2 "contractId"]

/-! ## The simulation -/

/-- Two maps with the same credentials, none under the one name that an object does not take. -/
structure SameCredentials (found memory : CredentialMap) : Prop where
  same : ∀ key, Option.Rel Credential.Same (found.get key) (memory.get key)
  plain : ∀ key c, memory.get key = some c → c.PlainFields
  no_proto : memory.get "__proto__" = none

namespace SameCredentials

variable {found memory : CredentialMap}

theorem empty : SameCredentials JsMap.empty JsMap.empty where
  same _ := .none
  plain _ _ h := absurd h.symm (Option.some_ne_none _)
  no_proto := rfl

theorem set (h : SameCredentials found memory) {key : String} {c d : Credential} (hsame : c.Same d)
    (hplain : d.PlainFields) (hkey : key ≠ "__proto__") :
    SameCredentials (found.set key c) (memory.set key d) where
  same k := by
    rw [JsMap.get_set, JsMap.get_set]
    split_ifs
    · exact .some hsame
    · exact h.same k
  plain k e he := by
    rw [JsMap.get_set] at he
    split_ifs at he
    · rw [← Option.some.inj he]
      exact hplain
    · exact h.plain k e he
  no_proto := by
    rw [JsMap.get_set, if_neg hkey.symm]
    exact h.no_proto

theorem delete (h : SameCredentials found memory) (key : String) :
    SameCredentials (found.delete key) (memory.delete key) where
  same k := by
    rw [JsMap.get_delete, JsMap.get_delete]
    split_ifs
    · exact .none
    · exact h.same k
  plain k e he := by
    rw [JsMap.get_delete] at he
    split_ifs at he
    exact h.plain k e he
  no_proto := by
    rw [JsMap.get_delete]
    split_ifs
    · rfl
    · exact h.no_proto

/-- The credentials that are read after they were written are the ones that were found. -/
theorem reload (h : SameCredentials found memory) {adapter : LocalStorageAdapter}
    {storage : WebStorage} (hraw : storage adapter.storageKey = some (writeCredentials found)) :
    SameCredentials (adapter.getStorage storage) memory where
  same key := by
    rw [get_getStorage_writeCredentials adapter hraw]
    split_ifs with hproto
    · rw [hproto, h.no_proto]
      exact .none
    · have hsame := h.same key
      cases hmemory : memory.get key with
      | none =>
        rw [hmemory] at hsame
        cases hfound : found.get key with
        | none => exact .none
        | some c => rw [hfound] at hsame; cases hsame
      | some d =>
        rw [hmemory] at hsame
        cases hfound : found.get key with
        | none => rw [hfound] at hsame; cases hsame
        | some c =>
          rw [hfound] at hsame
          cases hsame with
          | some hcd =>
            have hplain : c.PlainFields := hcd.plainFields (h.plain key d hmemory)
            exact .some (hplain.reloaded_same.trans hcd)
  plain := h.plain
  no_proto := h.no_proto

theorem exists_memory (h : SameCredentials found memory) {c : Credential} (hc : c ∈ found.values) :
    ∃ d ∈ memory.values, c.Same d := by
  obtain ⟨key, hkey⟩ := JsMap.mem_values_iff.mp hc
  have hsame := h.same key
  rw [hkey] at hsame
  cases hmemory : memory.get key with
  | none => rw [hmemory] at hsame; cases hsame
  | some d =>
    rw [hmemory] at hsame
    cases hsame with
    | some hcd => exact ⟨d, JsMap.mem_values_iff.mpr ⟨key, hmemory⟩, hcd⟩

theorem exists_found (h : SameCredentials found memory) {d : Credential} (hd : d ∈ memory.values) :
    ∃ c ∈ found.values, c.Same d := by
  obtain ⟨key, hkey⟩ := JsMap.mem_values_iff.mp hd
  have hsame := h.same key
  rw [hkey] at hsame
  cases hfound : found.get key with
  | none => rw [hfound] at hsame; cases hsame
  | some c =>
    rw [hfound] at hsame
    cases hsame with
    | some hcd => exact ⟨c, JsMap.mem_values_iff.mpr ⟨key, hfound⟩, hcd⟩

end SameCredentials

/-- The session that stands in the page is the one in memory. -/
def SameStoredSession (stored : Option String) (session : Option JsObject) : Prop :=
  (stored = none ∧ session = none) ∨
    ∃ s : StoredSession, stored = some (stringifyJson s.object.toJson) ∧
      session = some s.object.spread ∧ ∀ name, (s.object.read name).Plain

/-- A page that holds what a storage in memory holds. -/
structure Simulates (adapter : LocalStorageAdapter) (storage : WebStorage) (memory : MemoryStorage) :
    Prop where
  credentials : SameCredentials (adapter.getStorage storage) memory.credentials
  session : SameStoredSession (storage SESSION_KEY) memory.session

/-- A property is written without loss if its entry is. -/
theorem read_plain {o : JsObject} {name : String}
    (h : ∀ value, (name, value) ∈ o.entries → value.Plain) : (o.read name).Plain := by
  rw [JsObject.read]
  cases hget : o.get name with
  | none => exact .undefined
  | some value => exact h value (JsMap.get_eq_some_iff.mp hget)

/-- The properties of a finite session are written without loss. -/
theorem StoredSession.plain {session : StoredSession} (hconnected : FiniteNumber session.connectedAt)
    (hexpires : ∀ expiresAt ∈ session.expiresAt, FiniteNumber expiresAt) (name : String) :
    (session.object.read name).Plain := by
  have hnumber : ∀ {x : JsNumber}, FiniteNumber x → (JsValue.number x).Plain := by
    rintro x ⟨q, rfl, hq⟩
    exact .number hq
  apply read_plain
  intro value hmem
  rw [StoredSession.object] at hmem
  simp only [List.mem_cons, Prod.mk.injEq, List.not_mem_nil, or_false] at hmem
  rcases hmem with ⟨-, rfl⟩ | ⟨-, rfl⟩ | ⟨-, rfl⟩ | ⟨-, rfl⟩
  · exact .string _
  · exact .string _
  · exact hnumber hconnected
  · cases hexpiry : session.expiresAt with
    | none => exact .undefined
    | some expiresAt => exact hnumber (hexpires expiresAt hexpiry)

theorem sessionProperty_object (o : JsObject) (name : String) :
    sessionProperty name (.object o.entries) = o.read name := rfl

/-- The session that is read from its text has the properties that were saved. -/
theorem sameSession_parsed {session : StoredSession}
    (hplain : ∀ name, (session.object.read name).Plain) :
    SameSession ((parseJson (stringifyJson session.object.toJson)).elim .null JsonValue.toJs)
      (.object session.object.spread.spread.entries) := by
  have hparse := parseJson_stringifyJson session.object.wellFormed_toJson
  rw [hparse]
  refine Or.inr ⟨⟨_, _, rfl, rfl⟩, fun name => ?_⟩
  have hread : sessionProperty name
      (.object (JsObject.ofFields session.object.jsonFields).inOwnOrder.entries) =
      (JsObject.ofFields session.object.jsonFields).spread.read name := rfl
  rw [sessionProperty_object, JsObject.read_spread, JsObject.read_spread]
  refine hread.trans ?_
  rw [JsObject.read_spread, JsObject.read_ofFields, (hplain name).reload_eq]

/-! ## One operation -/

/-- What an operation gives on the page is what it gives in memory. -/
def Returns (outcome : Except JsError StorageValue) (value : StorageValue) : Prop :=
  ∃ returned, outcome = .ok returned ∧ SameValue returned value

namespace Simulates

variable {adapter : LocalStorageAdapter} {storage : WebStorage} {memory : MemoryStorage}

/-- Credentials that are written to the page leave its session. -/
theorem setItem (h : Simulates adapter storage memory) (hkey : adapter.storageKey ≠ SESSION_KEY)
    {found held : CredentialMap} (hsame : SameCredentials found held) :
    Simulates adapter (storage.setItem adapter.storageKey (writeCredentials found))
      { memory with credentials := held } where
  credentials := by
    apply hsame.reload
    exact Function.update_self _ _ _
  session := by
    have hframe : storage.setItem adapter.storageKey (writeCredentials found) SESSION_KEY =
        storage SESSION_KEY := Function.update_of_ne hkey.symm _ _
    rw [hframe]
    exact h.session

/-- A session that is written to the page leaves its credentials. -/
theorem setSession (h : Simulates adapter storage memory) (hkey : adapter.storageKey ≠ SESSION_KEY)
    {stored : Option String} {session : Option JsObject} (hsame : SameStoredSession stored session) :
    Simulates adapter (Function.update storage SESSION_KEY stored)
      { memory with session := session } where
  credentials := by
    have hframe : Function.update storage SESSION_KEY stored adapter.storageKey =
        storage adapter.storageKey := Function.update_of_ne hkey _ _
    have hfound : adapter.getStorage (Function.update storage SESSION_KEY stored) =
        adapter.getStorage storage := by
      rw [LocalStorageAdapter.getStorage, LocalStorageAdapter.getStorage, hframe]
    rw [hfound]
    exact h.credentials
  session := by
    rw [Function.update_self]
    exact hsame

theorem get (h : Simulates adapter storage memory) (credentialId : String) :
    SameValue (adapter.get credentialId storage) (memory.get credentialId) := by
  have hsame := h.credentials.same credentialId
  show Option.Rel _ _ (Option.map _ _)
  cases hmemory : memory.credentials.get credentialId with
  | none =>
    rw [hmemory] at hsame
    exact hsame
  | some d =>
    rw [hmemory] at hsame
    cases hfound : (adapter.getStorage storage).get credentialId with
    | none =>
      rw [hfound] at hsame
      cases hsame
    | some c =>
      rw [hfound] at hsame
      cases hsame with
      | some hcd => exact .some (hcd.trans d.same_copy)

/-- The credentials that a filter keeps are the same ones. -/
theorem filter (h : Simulates adapter storage memory) {keeps : Credential → Bool}
    (hkeeps : ∀ c d, c.Same d → keeps c = keeps d) :
    SameValue (.credentials ((adapter.getStorage storage).values.filter keeps))
      (.credentials ((memory.credentials.values.filter keeps).map Credential.copy)) := by
  refine ⟨fun c hc => ?_, fun d hd => ?_⟩
  · have hkept := List.mem_filter.mp hc
    obtain ⟨d, hd, hcd⟩ := h.credentials.exists_memory hkept.1
    refine ⟨d.copy, List.mem_map_of_mem (List.mem_filter.mpr ⟨hd, ?_⟩), hcd.trans d.same_copy⟩
    rw [← hkeeps c d hcd]
    exact hkept.2
  · obtain ⟨e, he, rfl⟩ := List.mem_map.mp hd
    have hkept := List.mem_filter.mp he
    obtain ⟨c, hc, hce⟩ := h.credentials.exists_found hkept.1
    refine ⟨c, List.mem_filter.mpr ⟨hc, ?_⟩, hce.trans e.same_copy⟩
    rw [hkeeps c e hce]
    exact hkept.2

theorem getAll (h : Simulates adapter storage memory) :
    SameValue (adapter.getAll storage) memory.getAll := by
  have hall : SameValue (.credentials ((adapter.getStorage storage).values.filter fun _ => true))
      (.credentials ((memory.credentials.values.filter fun _ => true).map Credential.copy)) :=
    h.filter fun _ _ _ => rfl
  rw [List.filter_true, List.filter_true] at hall
  exact hall

theorem getSession (h : Simulates adapter storage memory) :
    SameValue (LocalStorageAdapter.getSession storage) memory.getSession := by
  rw [LocalStorageAdapter.getSession, MemoryStorage.getSession]
  rcases h.session with ⟨hstored, hmemory⟩ | ⟨session, hstored, hmemory, hplain⟩
  · rw [hstored, hmemory]
    exact Or.inl ⟨rfl, rfl⟩
  · rw [hstored, hmemory]
    dsimp only
    rw [if_neg (stringifyJson_object_ne_empty session.object)]
    exact sameSession_parsed hplain

end Simulates

/-- One operation on the page and in memory gives the same, and leaves the same. -/
theorem Simulates.perform {adapter : LocalStorageAdapter} (hkey : adapter.storageKey ≠ SESSION_KEY)
    {storage : WebStorage} {memory : MemoryStorage} (h : Simulates adapter storage memory)
    {operation : StorageOperation} (hordinary : operation.Ordinary) :
    Returns (adapter.performOn { operation := operation } storage).1 (memory.perform operation).1 ∧
      Simulates adapter (adapter.performOn { operation := operation } storage).2
        (memory.perform operation).2 := by
  have hproto : ∀ credentialId ∈ operation.credentialId?, credentialId ≠ "__proto__" := by
    intro credentialId hid
    obtain ⟨bs, rfl⟩ := hordinary.id_encodes credentialId hid
    exact toBase64Url_ne_proto bs
  have hplain := hordinary.storesPlain
  cases operation with
  | save credential =>
    refine ⟨⟨_, rfl, trivial⟩, h.setItem hkey ?_⟩
    apply h.credentials.set credential.same_copy ?_ (hproto _ rfl)
    intro name hname
    rw [← credential.same_copy.2 name]
    exact hplain name hname
  | get credentialId => exact ⟨⟨_, rfl, h.get credentialId⟩, h⟩
  | getByContract contractId =>
    exact ⟨⟨_, rfl, h.filter fun c d hcd => hcd.isOf contractId⟩, h⟩
  | getAll => exact ⟨⟨_, rfl, h.getAll⟩, h⟩
  | delete credentialId =>
    exact ⟨⟨_, rfl, trivial⟩, h.setItem hkey (h.credentials.delete credentialId)⟩
  | update credentialId updates =>
    have hsame := h.credentials.same credentialId
    show Returns (adapter.update SetItemRule.accepts credentialId updates storage).1 .undefined ∧
      Simulates adapter (adapter.update SetItemRule.accepts credentialId updates storage).2
        (memory.update credentialId updates)
    rw [LocalStorageAdapter.update, MemoryStorage.update]
    cases hmemory : memory.credentials.get credentialId with
    | none =>
      rw [hmemory] at hsame
      cases hfound : (adapter.getStorage storage).get credentialId with
      | none => exact ⟨⟨_, rfl, trivial⟩, h⟩
      | some c =>
        rw [hfound] at hsame
        cases hsame
    | some d =>
      rw [hmemory] at hsame
      cases hfound : (adapter.getStorage storage).get credentialId with
      | none =>
        rw [hfound] at hsame
        cases hsame
      | some c =>
        rw [hfound] at hsame
        cases hsame with
        | some hcd =>
          have hd : d.PlainFields := h.credentials.plain credentialId d hmemory
          exact ⟨⟨_, rfl, trivial⟩, h.setItem hkey
            (h.credentials.set (hcd.assign updates) (hd.assign hplain) (hproto _ rfl))⟩
  | clear =>
    refine ⟨⟨_, rfl, trivial⟩, ?_, Or.inl ⟨?_, rfl⟩⟩
    · have hremoved : adapter.clear storage adapter.storageKey = none :=
        (Function.update_of_ne hkey _ _).trans (Function.update_self _ _ _)
      show SameCredentials (adapter.getStorage (adapter.clear storage)) JsMap.empty
      rw [LocalStorageAdapter.getStorage, hremoved]
      exact SameCredentials.empty
    · show adapter.clear storage SESSION_KEY = none
      rw [LocalStorageAdapter.clear, WebStorage.removeItem, Function.update_self]
  | saveSession session =>
    refine ⟨⟨_, rfl, trivial⟩, h.setSession hkey (Or.inr ⟨session, rfl, rfl, ?_⟩)⟩
    exact StoredSession.plain hplain.1 hplain.2
  | getSession => exact ⟨⟨_, rfl, h.getSession⟩, h⟩
  | clearSession => exact ⟨⟨_, rfl, trivial⟩, h.setSession hkey (Or.inl ⟨rfl, rfl⟩)⟩

/-! ## Runs -/

/-- What some operations give on a page, where every write succeeds. -/
def LocalStorageAdapter.outcomes (adapter : LocalStorageAdapter) :
    List StorageOperation → WebStorage → List (Except JsError StorageValue)
  | [], _ => []
  | operation :: operations, storage =>
    let outcome := adapter.performOn { operation := operation } storage
    outcome.1 :: adapter.outcomes operations outcome.2

/-- What some operations give in memory. -/
def MemoryStorage.outcomes : List StorageOperation → MemoryStorage → List StorageValue
  | [], _ => []
  | operation :: operations, memory =>
    let outcome := memory.perform operation
    outcome.1 :: MemoryStorage.outcomes operations outcome.2

theorem Simulates.outcomes {adapter : LocalStorageAdapter}
    (hkey : adapter.storageKey ≠ SESSION_KEY) {operations : List StorageOperation}
    (hordinary : ∀ operation ∈ operations, operation.Ordinary) {storage : WebStorage}
    {memory : MemoryStorage} (h : Simulates adapter storage memory) :
    List.Forall₂ Returns (adapter.outcomes operations storage)
      (MemoryStorage.outcomes operations memory) := by
  induction operations generalizing storage memory with
  | nil => exact .nil
  | cons operation operations ih =>
    have hstep := h.perform hkey (hordinary operation List.mem_cons_self)
    exact .cons hstep.1 (ih (fun o ho => hordinary o (List.mem_cons_of_mem _ ho)) hstep.2)

theorem LocalStorageAdapter.simulates_empty {adapter : LocalStorageAdapter} {storage : WebStorage}
    (hempty : storage adapter.storageKey = none) (hsession : storage SESSION_KEY = none) :
    Simulates adapter storage {} where
  credentials := by
    rw [getStorage, hempty]
    exact SameCredentials.empty
  session := Or.inl ⟨hsession, rfl⟩

/-- Over a page that starts empty, every operation of an adapter gives what it gives in memory, if
the credentials are not kept under the key of the session. -/
theorem LocalStorageAdapter.refines_memory {adapter : LocalStorageAdapter}
    (hkey : adapter.storageKey ≠ SESSION_KEY) {storage : WebStorage}
    (hempty : storage adapter.storageKey = none) (hsession : storage SESSION_KEY = none)
    {operations : List StorageOperation}
    (hordinary : ∀ operation ∈ operations, operation.Ordinary) :
    List.Forall₂ Returns (adapter.outcomes operations storage)
      (MemoryStorage.outcomes operations {}) :=
  (simulates_empty hempty hsession).outcomes hkey hordinary

/-- A credential with an absent nickname. -/
def refinedCredential : NamedCredential where
  object :=
    { entries := [("credentialId", .string "AQ"), ("publicKey", .bytes [4, 7]),
        ("nickname", .undefined), ("createdAt", .number (.ofNat 1))]
      distinct := by
        show ["credentialId", "publicKey", "nickname", "createdAt"].Nodup
        decide }
  publicKey := [4, 7]
  holds_publicKey := rfl
  credentialId := "AQ"
  holds_credentialId := rfl

theorem finiteNumber_one : FiniteNumber (.ofNat 1) := ⟨1, rfl, isDouble_natCast (by norm_num)⟩

theorem refinedCredential_ordinary : (StorageOperation.save refinedCredential).Ordinary where
  id_encodes credentialId h := ⟨[1], by rw [← Option.some.inj h]; decide⟩
  storesPlain name hname := by
    apply read_plain
    intro value hmem
    rw [refinedCredential] at hmem
    simp only [List.mem_cons, Prod.mk.injEq, List.not_mem_nil, or_false] at hmem
    rcases hmem with ⟨-, rfl⟩ | ⟨rfl, -⟩ | ⟨-, rfl⟩ | ⟨-, rfl⟩
    · exact .string _
    · exact absurd rfl hname
    · exact .undefined
    · exact .number (isDouble_natCast (by norm_num))

theorem LocalStorageAdapter.refines_memory_sample :
    List.Forall₂ Returns
      (LocalStorageAdapter.outcomes {} [.save refinedCredential, .getAll] fun _ => none)
      (MemoryStorage.outcomes [.save refinedCredential, .getAll] {}) := by
  apply LocalStorageAdapter.refines_memory (by decide) rfl rfl
  intro operation hmem
  rcases List.mem_cons.mp hmem with rfl | hmem
  · exact refinedCredential_ordinary
  · rw [List.mem_singleton.mp hmem]
    exact ⟨fun _ h => absurd h.symm (Option.some_ne_none _), trivial⟩

/-- An adapter over the session key takes the fields of a session for credentials. -/
theorem session_read_as_credentials :
    ¬∀ (adapter : LocalStorageAdapter) (storage : WebStorage),
      storage adapter.storageKey = none → storage SESSION_KEY = none →
      ∀ operations : List StorageOperation, (∀ operation ∈ operations, operation.Ordinary) →
        List.Forall₂ Returns (adapter.outcomes operations storage)
          (MemoryStorage.outcomes operations {}) := by
  intro hall
  have hruns := hall { storageKey := SESSION_KEY } (fun _ => none) rfl rfl
    [.saveSession ⟨"C", "AQ", .ofNat 1, none⟩, .getAll] (by
      intro operation hmem
      rcases List.mem_cons.mp hmem with rfl | hmem
      · refine ⟨fun _ h => absurd h.symm (Option.some_ne_none _), finiteNumber_one, ?_⟩
        exact fun _ h => absurd h.symm (Option.some_ne_none _)
      · rw [List.mem_singleton.mp hmem]
        exact ⟨fun _ h => absurd h.symm (Option.some_ne_none _), trivial⟩)
  -- the second outcome lists credentials, and there are none in memory
  have hgetAll := (List.forall₂_cons.mp (List.forall₂_cons.mp hruns).2).1
  obtain ⟨returned, hreturned, hsame⟩ := hgetAll
  rw [← Except.ok.inj hreturned] at hsame
  have hnone := List.eq_nil_iff_forall_not_mem.mpr fun c hc =>
    (hsame.1 c hc).elim fun d hd => List.not_mem_nil hd.1
  exact absurd (congrArg List.length hnone) (by decide +kernel)

end SmartAccountKit.Storage
