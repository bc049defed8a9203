import SmartAccountKit.Lib.JsonLength
import SmartAccountKit.RelayerProxy.ApiKeys

/-!
# The forms of a stored API key

A key that stands as a record is always read back. One that stands as a JSON string
is read back if no white space surrounds it, and one that stands as its own text if,
besides, that text is no JSON: a key such as `1234567890` is taken for a number and
deleted.
-/

namespace SmartAccountKit.RelayerProxy
open Lib

/-! ## Records -/

/-- The text of a key starts and ends with a brace. -/
theorem trim_text (storedKey : StoredApiKey) : trim storedKey.text = storedKey.text := by
  have hfields : ∀ fields, ∃ middle, writeFields fields = middle ++ ['}'] := by
    intro fields
    induction fields with
    | nil => exact ⟨[], rfl⟩
    | cons field fields ih =>
      obtain ⟨middle, hmiddle⟩ := ih
      cases fields with
      | nil =>
        refine ⟨quoteJson field.1 ++ ':' :: writeJson field.2, ?_⟩
        rw [writeFields, List.append_assoc, List.cons_append]
      | cons next fields =>
        refine ⟨quoteJson field.1 ++ ':' :: (writeJson field.2 ++ ',' :: middle), ?_⟩
        rw [writeFields, hmiddle]
        · simp only [List.append_assoc, List.cons_append]
        · exact List.cons_ne_nil _ _
  obtain ⟨middle, hmiddle⟩ := hfields storedKey.object.jsonFields
  have hlist : storedKey.text.toList = '{' :: (middle ++ ['}']) := by
    rw [StoredApiKey.text, stringifyJson, String.toList_ofList, ← hmiddle]
    rfl
  apply trim_eq_self_of_ends
  · intro c hc
    rw [hlist] at hc
    rw [← Option.some.inj hc]
    decide
  · intro c hc
    rw [hlist, ← List.cons_append, List.getLast?_concat] at hc
    rw [← Option.some.inj hc]
    decide

/-- A record that is written is read back, whatever the time. -/
theorem parseApiKey_text {apiKey : String} (hvalid : isValidApiKey apiKey = true)
    (createdAt later : Timestamp) :
    parseApiKey (trim (StoredApiKey.text ⟨apiKey, createdAt.toNumber⟩)) later =
      some ⟨⟨apiKey, createdAt.toNumber⟩, false⟩ := by
  set storedKey : StoredApiKey := ⟨apiKey, createdAt.toNumber⟩ with hkey
  have hparse : parseJson storedKey.text = some (.object storedKey.object.jsonFields) :=
    parseJson_stringifyJson storedKey.object.wellFormed_toJson
  have happ : JsonValue.field "apiKey" (.object storedKey.object.jsonFields) =
      some (.string apiKey) := storedKey.object.field_jsonFields rfl
  have hcreated : JsonValue.field "createdAt" (.object storedKey.object.jsonFields) =
      some (.number (numeralOf createdAt.milliseconds).text) :=
    storedKey.object.field_jsonFields rfl
  have hnumber : textNumber (String.ofList (numeralOf createdAt.milliseconds).text) =
      createdAt.toNumber := by
    apply textNumber_numeralOf
    apply isDouble_natCast
    have := createdAt.inRange
    omega
  rw [trim_text, parseApiKey, hparse]
  dsimp only
  rw [storedApiKey?, happ, hcreated]
  dsimp only
  rw [if_pos hvalid, hnumber]

/-! ## Forms -/

/-- The forms in which a key has been stored. -/
inductive KeyForm where
  | raw
  | jsonString
  | record
deriving DecidableEq

/-- A text that holds a key in a form, with white space around it. -/
inductive Stores : KeyForm → String → String → Prop where
  | raw {k text : String} {before after : List Char} (hbefore : ∀ c ∈ before, isSpace c = true)
      (hafter : ∀ c ∈ after, isSpace c = true)
      (htext : text.toList = before ++ (k.toList ++ after)) : Stores .raw k text
  | jsonString {k json text : String} {before after : List Char}
      (hbefore : ∀ c ∈ before, isSpace c = true) (hafter : ∀ c ∈ after, isSpace c = true)
      (htext : text.toList = before ++ (json.toList ++ after)) (htrim : trim json = json)
      (hparse : parseJson json = some (.string k)) : Stores .jsonString k text
  | record {k json text : String} {before after : List Char} {value : JsonValue}
      {createdAt : List Char} (hbefore : ∀ c ∈ before, isSpace c = true)
      (hafter : ∀ c ∈ after, isSpace c = true)
      (htext : text.toList = before ++ (json.toList ++ after)) (htrim : trim json = json)
      (hparse : parseJson json = some value) (hkey : value.field "apiKey" = some (.string k))
      (hcreated : value.field "createdAt" = some (.number createdAt)) : Stores .record k text

/-- The forms from which a key is read back. -/
def KeptForm (form : KeyForm) (k : String) : Prop :=
  match form with
  | .raw => trim k = k ∧ parseJson k = none
  | .jsonString => trim k = k
  | .record => True

/-- A key is read and not deleted, and after it has been used it stands as a record with the same key
and time. -/
def KeyKept (store : ApiKeyStore) (ip k : String) (now : Timestamp) (response : GenResponse)
    (created : Timestamp) : Prop :=
  (∃ result, readStoredApiKey store (getKVKey ip) now = (some result, store) ∧
    result.storedKey.apiKey = k) ∧
  ∃ storedKey store', getOrCreateApiKey store ip now response created = (some storedKey, store') ∧
    storedKey.apiKey = k ∧
    ∀ later, readStoredApiKey store' (getKVKey ip) later = (some ⟨storedKey, false⟩, store')

/-! ## What is read -/

variable {store : ApiKeyStore} {ip k text : String} {now created : Timestamp}
  {response : GenResponse}

theorem readStoredApiKey_some {kvKey : String} {result : ApiKeyReadResult}
    (hraw : store kvKey = some text) (hne : text ≠ "")
    (hparse : parseApiKey (trim text) now = some result) :
    readStoredApiKey store kvKey now = (some result, store) := by
  rw [readStoredApiKey, hraw]
  dsimp only
  rw [if_neg hne, hparse]

/-- A record stays as it is. -/
theorem keyKept_of_record {createdAt : JsNumber} (hraw : store (getKVKey ip) = some text)
    (hne : text ≠ "") (hparse : ∀ time, parseApiKey (trim text) time = some ⟨⟨k, createdAt⟩, false⟩) :
    KeyKept store ip k now response created := by
  have hread := fun time => readStoredApiKey_some hraw hne (hparse time)
  refine ⟨⟨_, hread now, rfl⟩, ⟨k, createdAt⟩, store, ?_, rfl, hread⟩
  rw [getOrCreateApiKey, hread now]
  rfl

/-- A key in another form is written as a record. -/
theorem keyKept_of_migration (hraw : store (getKVKey ip) = some text) (hne : text ≠ "")
    (hvalid : isValidApiKey k = true)
    (hparse : parseApiKey (trim text) now = some ⟨⟨k, now.toNumber⟩, true⟩) :
    KeyKept store ip k now response created := by
  have hread := readStoredApiKey_some hraw hne hparse
  have hwritten : StoredApiKey.text ⟨k, now.toNumber⟩ ≠ "" := by
    intro hempty
    have hlist := congrArg String.toList hempty
    rw [StoredApiKey.text, stringifyJson, String.toList_ofList, JsObject.toJson, writeJson] at hlist
    exact absurd hlist (List.cons_ne_nil _ _)
  refine ⟨⟨_, hread, rfl⟩, ⟨k, now.toNumber⟩, Function.update store (getKVKey ip)
    (some (StoredApiKey.text ⟨k, now.toNumber⟩)), ?_, rfl, fun later => ?_⟩
  · rw [getOrCreateApiKey, hread]
    rfl
  · exact readStoredApiKey_some (Function.update_self _ _ _) hwritten
      (parseApiKey_text hvalid now later)

/-- A kept key is what is read from the text. -/
theorem KeyKept.parseApiKey (h : KeyKept store ip k now response created)
    (hraw : store (getKVKey ip) = some text) (hne : text ≠ "") :
    ∃ result, parseApiKey (trim text) now = some result ∧ result.storedKey.apiKey = k := by
  obtain ⟨result, hread, hkey⟩ := h.1
  rw [readStoredApiKey, hraw] at hread
  dsimp only at hread
  rw [if_neg hne] at hread
  cases hparse : RelayerProxy.parseApiKey (trim text) now with
  | none =>
    rw [hparse] at hread
    exact absurd (congrArg Prod.fst hread).symm (Option.some_ne_none result)
  | some read =>
    rw [hparse] at hread
    exact ⟨read, rfl, by rw [Option.some.inj (congrArg Prod.fst hread), hkey]⟩

/-- A valid key is not empty. -/
theorem ne_empty_of_isValidApiKey (h : isValidApiKey k = true) : k.toList ≠ [] := by
  intro hnil
  rw [String.toList_eq_nil_iff.mp hnil] at h
  exact absurd h (by decide)

theorem isValidApiKey_trim : isValidApiKey (trim k) = isValidApiKey k := by
  rw [isValidApiKey, isValidApiKey, trim_trim]

/-- What is read from a JSON text is shorter than the text. -/
theorem length_parseApiKey_lt {value : JsonValue} {result : ApiKeyReadResult}
    (hparse : parseJson text = some value) (hresult : parseApiKey text now = some result) :
    result.storedKey.apiKey.toList.length < text.toList.length := by
  have hshort := shortStrings_parseJson hparse
  rw [parseApiKey, hparse] at hresult
  dsimp only at hresult
  split at hresult
  · -- a record
    rename_i storedKey hstored
    rw [← Option.some.inj hresult]
    rw [storedApiKey?] at hstored
    split at hstored
    · rename_i apiKey createdAt hkey hcreated
      split_ifs at hstored
      rw [← Option.some.inj hstored]
      exact hshort.of_field hkey
    · exact absurd hstored.symm (Option.some_ne_none _)
  · -- a string
    rename_i s _
    split_ifs at hresult
    rw [← Option.some.inj hresult]
    have hlength := hshort.string s rfl
    have htrim := length_trim_le s
    dsimp only
    omega
  · exact absurd hresult.symm (Option.some_ne_none _)

theorem ne_empty_of_parseJson {json text : String} {before after : List Char} {value : JsonValue}
    (htext : text.toList = before ++ (json.toList ++ after)) (hparse : parseJson json = some value) :
    text ≠ "" := by
  intro hempty
  rw [hempty] at htext
  have hnil := (List.append_eq_nil_iff.mp (List.append_eq_nil_iff.mp htext.symm).2).1
  have hnone : (parseJson "").isNone = true := by decide
  rw [← String.toList_eq_nil_iff.mp hnil, hparse] at hnone
  exact Bool.noConfusion hnone

/-! ## When a key is kept -/

/-- However a valid key has been stored, it is read back, and stands as a record after it has been
used, exactly if its form is one that is told apart. -/
theorem stored_key_kept_iff {form : KeyForm} (hvalid : isValidApiKey k = true)
    (hstores : Stores form k text) (hraw : store (getKVKey ip) = some text) (now : Timestamp)
    (response : GenResponse) (created : Timestamp) :
    KeyKept store ip k now response created ↔ KeptForm form k := by
  cases hstores with
  | raw hbefore hafter htext =>
    have htrim : trim text = trim k := by
      rw [trim_surrounded htext hbefore hafter, String.ofList_toList]
    have hne : text ≠ "" := by
      intro hempty
      rw [hempty] at htext
      have hnil := (List.append_eq_nil_iff.mp (List.append_eq_nil_iff.mp htext.symm).2).1
      exact ne_empty_of_isValidApiKey hvalid hnil
    constructor
    · intro hkept
      obtain ⟨result, hparse, hkey⟩ := hkept.parseApiKey hraw hne
      rw [htrim] at hparse
      cases hjson : parseJson (trim k) with
      | none =>
        rw [parseApiKey, hjson] at hparse
        dsimp only at hparse
        rw [isValidApiKey_trim, if_pos hvalid] at hparse
        rw [← Option.some.inj hparse] at hkey
        refine ⟨hkey, ?_⟩
        rw [← hkey]
        exact hjson
      | some value =>
        -- the key that is read is shorter than the trimmed one
        have hlength := length_parseApiKey_lt hjson hparse
        have hle := length_trim_le k
        rw [hkey] at hlength
        omega
    · rintro ⟨hk, hjson⟩
      refine keyKept_of_migration hraw hne hvalid ?_
      rw [htrim, hk, parseApiKey, hjson]
      dsimp only
      rw [if_pos hvalid]
  | jsonString hbefore hafter htext htrim hparse =>
    have hne := ne_empty_of_parseJson htext hparse
    have hread : parseApiKey (trim text) now = some ⟨⟨trim k, now.toNumber⟩, true⟩ := by
      rw [trim_surrounded htext hbefore hafter, String.ofList_toList, htrim, parseApiKey, hparse]
      show (if isValidApiKey k then some _ else none) = _
      rw [if_pos hvalid]
    constructor
    · intro hkept
      obtain ⟨result, hresult, hkey⟩ := hkept.parseApiKey hraw hne
      rw [hread] at hresult
      rw [← Option.some.inj hresult] at hkey
      exact hkey
    · intro hk
      have hk' : trim k = k := hk
      rw [hk'] at hread
      exact keyKept_of_migration hraw hne hvalid hread
  | @record _ _ _ _ _ _ createdAt hbefore hafter htext htrim hparse hkey hcreated =>
    have hne := ne_empty_of_parseJson htext hparse
    refine iff_of_true ?_ trivial
    have hread : ∀ time, parseApiKey (trim text) time =
        some ⟨⟨k, textNumber (String.ofList createdAt)⟩, false⟩ := by
      intro time
      rw [trim_surrounded htext hbefore hafter, String.ofList_toList, htrim, parseApiKey, hparse]
      dsimp only
      rw [storedApiKey?, hkey, hcreated]
      dsimp only
      rw [if_pos hvalid]
    exact keyKept_of_record hraw hne hread

/-- The store with one text for one client. -/
def storeOf (ip text : String) : ApiKeyStore := Function.update (fun _ => none) (getKVKey ip) (some text)

theorem stores_raw_self (k : String) : Stores .raw k k :=
  @Stores.raw k k [] [] (fun _ h => absurd h List.not_mem_nil)
    (fun _ h => absurd h List.not_mem_nil) (by rw [List.append_nil, List.nil_append])

theorem stored_key_kept_iff_sample :
    KeyKept (storeOf "10.0.0.1" "sk-0123456789") "10.0.0.1" "sk-0123456789" ⟨1, by omega⟩ .failed
        ⟨1, by omega⟩ ↔ KeptForm .raw "sk-0123456789" :=
  stored_key_kept_iff (by decide) (stores_raw_self _) (Function.update_self _ _ _) _ _ _

/-- A key of digits is a JSON number. -/
theorem digits_deleted :
    ¬∀ (form : KeyForm) (k text ip : String) (store : ApiKeyStore), isValidApiKey k = true →
      Stores form k text → store (getKVKey ip) = some text →
      ∀ (now : Timestamp) (response : GenResponse) (created : Timestamp),
        KeyKept store ip k now response created := by
  intro hall
  have hvalid : isValidApiKey "1234567890" = true := by decide
  have hkept := hall .raw "1234567890" "1234567890" "10.0.0.1" (storeOf "10.0.0.1" "1234567890")
    hvalid (stores_raw_self _) (Function.update_self _ _ _) ⟨1, by omega⟩ .failed ⟨1, by omega⟩
  obtain ⟨result, hread, -⟩ := hkept.parseApiKey (Function.update_self _ _ _) (by decide)
  have hnone : (parseApiKey (trim "1234567890") ⟨1, by omega⟩).isSome = false := by decide
  rw [hread] at hnone
  exact Bool.noConfusion hnone

end SmartAccountKit.RelayerProxy
