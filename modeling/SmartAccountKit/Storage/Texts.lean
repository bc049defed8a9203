import SmartAccountKit.Lib.Lists
import SmartAccountKit.Storage.Adapters

/-!
# Credentials as they are written

The text that is written for some credentials is read back: every credential is
found under its id, with its public key and with the other properties as JSON
keeps them.
-/

namespace SmartAccountKit.Storage
open Lib

/-! ## One credential -/

/-- A credential after it has been written and read. -/
def Credential.reloaded (c : Credential) : Credential :=
  .withKey (serializeCredential c).toJson.spread c.publicKey

/-- The own fields of a parsed object. -/
theorem ownOrder_jsonFields_perm (o : JsObject) :
    (ownOrder (JsMap.ofEntries o.jsonFields).entries).Perm o.jsonFields := by
  have hentries : (JsMap.ofEntries o.jsonFields).entries.Perm o.jsonFields := by
    apply (List.perm_ext_iff_of_nodup (List.Nodup.of_map _ (JsMap.ofEntries o.jsonFields).distinct)
      (List.Nodup.of_map _ o.jsonFields_distinct)).mpr
    rintro ⟨key, json⟩
    have hget := JsMap.get_ofEntries ⟨o.jsonFields, o.jsonFields_distinct⟩ key
    rw [← JsMap.get_eq_some_iff, hget]
    exact JsMap.get_eq_some_iff
  exact (ownOrder_perm _).trans hentries

/-- The properties that a parsed object is spread into. -/
theorem get_spread_jsonFields (o : JsObject) (name : String) :
    (JsonValue.object o.jsonFields).spread.get name = (JsObject.ofFields o.jsonFields).get name := by
  have hfields : (fieldsToJs (ownOrder (JsMap.ofEntries o.jsonFields).entries)).Perm
      (fieldsToJs o.jsonFields) := by
    rw [fieldsToJs_eq_map, fieldsToJs_eq_map]
    exact (ownOrder_jsonFields_perm o).map _
  have hkeys : ((fieldsToJs o.jsonFields).map Prod.fst).Nodup := by
    rw [fieldsToJs_eq_map, List.map_map]
    exact o.jsonFields_distinct
  have hkeys' := (hfields.map Prod.fst).nodup_iff.mpr hkeys
  show (JsMap.ofEntries (fieldsToJs (ownOrder (JsMap.ofEntries o.jsonFields).entries))).get name =
    (JsMap.ofEntries (fieldsToJs o.jsonFields)).get name
  have hleft := JsMap.get_ofEntries ⟨_, hkeys'⟩ name
  have hright := JsMap.get_ofEntries ⟨_, hkeys⟩ name
  exact hleft.trans ((JsMap.get_congr hfields name).trans hright.symm)

theorem publicKey_reloaded (c : Credential) : c.reloaded.publicKey = c.publicKey := by
  rw [Credential.reloaded, Credential.withKey]

theorem serializeCredential_publicKey (c : Credential) :
    (serializeCredential c).get "publicKey" = some (.array (byteNumbers c.publicKey)) := by
  rw [serializeCredential, JsMap.get_set, if_pos rfl]

/-- What JSON does to the properties of a credential. -/
theorem read_reloaded (c : Credential) (name : String) :
    c.reloaded.read name =
      if name = "publicKey" then .bytes c.publicKey else (c.read name).reload := by
  have hobject : c.reloaded.object =
      (serializeCredential c).toJson.spread.set "publicKey" (.bytes c.publicKey) := by
    rw [Credential.reloaded, Credential.withKey]
  have hspread : JsObject.read (serializeCredential c).toJson.spread name =
      (JsObject.ofFields (serializeCredential c).jsonFields).read name :=
    congrArg (fun value => value.getD .undefined)
      (get_spread_jsonFields (serializeCredential c) name)
  rw [Credential.read, hobject, JsObject.read_set]
  split_ifs with hname
  · rfl
  · rw [hspread, JsObject.read_ofFields, serializeCredential, JsObject.read_set, if_neg hname,
      JsObject.read_spread, Credential.read]

/-- A credential that is written is read back. -/
theorem deserializeCredential_toJson (maxLength : ℕ) (c : Credential) :
    deserializeCredential maxLength (serializeCredential c).toJson = some c.reloaded := by
  have hfield : (serializeCredential c).toJson.property? "publicKey" =
      some (some (.array (itemsToJson (byteNumbers c.publicKey)))) := by
    apply congrArg some
    apply (serializeCredential c).field_jsonFields
    rw [serializeCredential_publicKey]
    rfl
  rw [deserializeCredential, hfield]
  simp only [Option.bind_eq_bind, Option.bind_some, newUint8Array_byteNumbers, Option.pure_def]
  rfl

/-! ## All credentials -/

/-- The property of a credential in the object that is written. -/
theorem get_credentialsObject (credentials : CredentialMap) (key : String) :
    (credentialsObject credentials).get key =
      if key = "__proto__" then none
      else (credentials.get key).map fun c => .object (serializeCredential c).inOwnOrder.entries := by
  have hkeys : (((credentials.entries.filter fun e => e.1 ≠ "__proto__").map fun e =>
      (e.1, JsValue.object (serializeCredential e.2).inOwnOrder.entries)).map Prod.fst).Nodup := by
    rw [List.map_map]
    exact credentials.distinct.sublist (List.filter_sublist.map Prod.fst)
  have hget := JsMap.get_ofEntries ⟨_, hkeys⟩ key
  ext value
  rw [credentialsObject, hget, JsMap.get_eq_some_iff]
  show (key, value) ∈ List.map _ _ ↔ _
  rw [List.mem_map]
  split_ifs with hproto
  · constructor
    · rintro ⟨e, he, heq⟩
      have hne : e.1 ≠ "__proto__" := by simpa using (List.mem_filter.mp he).2
      exact absurd ((congrArg Prod.fst heq).trans hproto) hne
    · exact False.elim
  · rw [Option.map_eq_some_iff]
    constructor
    · rintro ⟨⟨k, c⟩, he, heq⟩
      obtain ⟨rfl, rfl⟩ := Prod.mk.inj heq
      exact ⟨c, JsMap.get_eq_some_iff.mpr (List.mem_filter.mp he).1, rfl⟩
    · rintro ⟨c, hc, rfl⟩
      refine ⟨(key, c), List.mem_filter.mpr ⟨JsMap.get_eq_some_iff.mp hc, ?_⟩, rfl⟩
      simpa using hproto

theorem toJson?_serialized (c : Credential) :
    (JsValue.object (serializeCredential c).inOwnOrder.entries).toJson? =
      some (serializeCredential c).toJson := by
  rw [JsValue.toJson?, JsObject.toJson]

/-- The text of some credentials is read back, credential by credential. -/
theorem readCredentials_writeCredentials (maxLength : ℕ) (credentials : CredentialMap) :
    ∃ reread, readCredentials maxLength (writeCredentials credentials) = some reread ∧
      ∀ key, reread.get key =
        if key = "__proto__" then none else (credentials.get key).map Credential.reloaded := by
  set o := credentialsObject credentials with ho
  have hparse : parseJson (writeCredentials credentials) = some (.object o.jsonFields) :=
    parseJson_stringifyJson o.wellFormed_toJson
  have hfields : ∀ key json, (key, json) ∈ o.jsonFields ↔
      key ≠ "__proto__" ∧ ∃ c, credentials.get key = some c ∧ (serializeCredential c).toJson = json := by
    intro key json
    rw [o.mem_jsonFields, ho, get_credentialsObject]
    split_ifs with hproto
    · exact iff_of_false (fun h => absurd h.symm (Option.some_ne_none json)) fun h => h.1 hproto
    · rw [Option.bind_eq_some_iff]
      constructor
      · rintro ⟨value, hvalue, hjson⟩
        obtain ⟨c, hc, rfl⟩ := Option.map_eq_some_iff.mp hvalue
        rw [toJson?_serialized] at hjson
        exact ⟨hproto, c, hc, Option.some.inj hjson⟩
      · rintro ⟨-, c, hc, rfl⟩
        exact ⟨_, Option.map_eq_some_iff.mpr ⟨c, hc, rfl⟩, toJson?_serialized c⟩
  -- every entry is read as the credential that it was written for
  set entries := ownOrder (JsMap.ofEntries o.jsonFields).entries with hentries
  set readEntry : String × JsonValue → Option (String × Credential) := fun e =>
    (deserializeCredential maxLength e.2).bind fun credential => some (e.1, credential) with hreadEntry
  have hperm : entries.Perm o.jsonFields := ownOrder_jsonFields_perm o
  have hentry : ∀ key c, credentials.get key = some c →
      readEntry (key, (serializeCredential c).toJson) = some (key, c.reloaded) := by
    intro key c _
    rw [hreadEntry]
    dsimp only
    rw [deserializeCredential_toJson, Option.bind_some]
  have hall : ∀ e ∈ entries, ∃ credential, readEntry e = some (e.1, credential) := by
    rintro ⟨key, json⟩ he
    obtain ⟨-, c, hc, rfl⟩ := (hfields key json).mp (hperm.mem_iff.mp he)
    exact ⟨c.reloaded, hentry key c hc⟩
  have hmap : entries.mapM readEntry = some (entries.filterMap readEntry) :=
    mapM_eq_filterMap fun e he => (hall e he).elim fun credential h => ⟨_, h⟩
  have hkeys : ((entries.filterMap readEntry).map Prod.fst).Nodup := by
    rw [map_fst_filterMap hall]
    exact (hperm.map Prod.fst).nodup_iff.mpr o.jsonFields_distinct
  refine ⟨JsMap.ofEntries (entries.filterMap readEntry), ?_, ?_⟩
  · rw [readCredentials, hparse]
    show (entries.mapM readEntry).bind _ = _
    rw [hmap]
    rfl
  · intro key
    have hget := JsMap.get_ofEntries ⟨_, hkeys⟩ key
    ext credential
    rw [hget, JsMap.get_eq_some_iff]
    show (key, credential) ∈ entries.filterMap readEntry ↔ _
    rw [List.mem_filterMap]
    constructor
    · rintro ⟨⟨k, json⟩, he, hread⟩
      obtain ⟨hproto, c, hc, rfl⟩ := (hfields k json).mp (hperm.mem_iff.mp he)
      rw [hentry k c hc] at hread
      obtain ⟨rfl, rfl⟩ := Prod.mk.inj (Option.some.inj hread)
      rw [if_neg hproto, hc, Option.map_some]
    · intro h
      split_ifs at h with hproto
      obtain ⟨c, hc, rfl⟩ := Option.map_eq_some_iff.mp h
      exact ⟨_, hperm.mem_iff.mpr ((hfields key _).mpr ⟨hproto, c, hc, rfl⟩), hentry key c hc⟩

theorem stringifyJson_object_ne_empty (o : JsObject) : stringifyJson o.toJson ≠ "" := by
  intro h
  have hlist := congrArg String.toList h
  rw [stringifyJson, String.toList_ofList, JsObject.toJson, writeJson] at hlist
  exact absurd hlist (List.cons_ne_nil _ _)

theorem writeCredentials_ne_empty (credentials : CredentialMap) :
    writeCredentials credentials ≠ "" :=
  stringifyJson_object_ne_empty (credentialsObject credentials)

/-- The credentials that an adapter finds after it has written some. -/
theorem get_getStorage_writeCredentials (adapter : LocalStorageAdapter) {storage : WebStorage}
    {credentials : CredentialMap}
    (h : storage adapter.storageKey = some (writeCredentials credentials)) (key : String) :
    (adapter.getStorage storage).get key =
      if key = "__proto__" then none else (credentials.get key).map Credential.reloaded := by
  obtain ⟨reread, hreread, hget⟩ :=
    readCredentials_writeCredentials adapter.maxLength credentials
  rw [← hget key, LocalStorageAdapter.getStorage, h]
  dsimp only
  rw [if_neg (writeCredentials_ne_empty credentials), hreread, Option.getD_some]

end SmartAccountKit.Storage
