import SmartAccountKit.Lib.JsObject
import SmartAccountKit.Lib.Spaces
import SmartAccountKit.Lib.Utf16

/-!
# The API keys of the relayer proxy

The proxy holds one relayer API key for each client IP. A key may stand in the store
as its text, as a JSON string, or as a JSON record with the time of its creation;
reading a key tells the forms apart by parsing the text, and deletes what it does not
take for a key.
-/

namespace SmartAccountKit.RelayerProxy
open Lib

structure StoredApiKey where
  apiKey : String
  createdAt : JsNumber

structure ApiKeyReadResult where
  storedKey : StoredApiKey
  needsMigration : Bool

/-- The texts of the key-value store. -/
abbrev ApiKeyStore := String → Option String

def API_KEY_PREFIX : String := "api-key:"
def API_KEY_FIELD_NAMES : List String := ["apiKey", "api_key", "key", "token"]
def API_KEY_MIN_LENGTH : ℕ := 10
def API_KEY_MAX_LENGTH : ℕ := 200

def getKVKey (ip : String) : String := API_KEY_PREFIX ++ ip

def isValidApiKey (apiKey : String) : Bool :=
  let length := utf16Length (trim apiKey)
  API_KEY_MIN_LENGTH ≤ length ∧ length ≤ API_KEY_MAX_LENGTH

/-- The stored key that a parsed value is, if `isStoredApiKey` takes it for one. -/
def storedApiKey? (value : JsonValue) : Option StoredApiKey :=
  match value.field "apiKey", value.field "createdAt" with
  | some (.string apiKey), some (.number text) =>
    if isValidApiKey apiKey then some ⟨apiKey, textNumber (String.ofList text)⟩ else none
  | _, _ => none

/-- The key in a text without white space around it. -/
def parseApiKey (trimmed : String) (now : Timestamp) : Option ApiKeyReadResult :=
  match parseJson trimmed with
  | some parsed =>
    match storedApiKey? parsed, parsed with
    | some storedKey, _ => some ⟨storedKey, false⟩
    | none, .string text =>
      if isValidApiKey text then some ⟨⟨trim text, now.toNumber⟩, true⟩ else none
    | none, _ => none
  | none => if isValidApiKey trimmed then some ⟨⟨trimmed, now.toNumber⟩, true⟩ else none

/-- Read a key. A text that holds none is deleted. -/
def readStoredApiKey (store : ApiKeyStore) (kvKey : String) (now : Timestamp) :
    Option ApiKeyReadResult × ApiKeyStore :=
  match store kvKey with
  | none => (none, store)
  | some raw =>
    if raw = "" then (none, store)
    else
      match parseApiKey (trim raw) now with
      | some result => (some result, store)
      | none => (none, Function.update store kvKey none)

/-- The answer to a request for a new key. -/
inductive GenResponse where
  | failed
  | answer (ok : Bool) (text : String)

/-- Whether a parsed value counts as true. -/
def isTruthy : JsonValue → Bool
  | .null => false
  | .bool value => value
  | .number text => textNumber (String.ofList text) ≠ .ofNat 0
  | .string value => value ≠ ""
  | _ => true

def generateApiKey : GenResponse → Option String
  | .failed => none
  | .answer ok text =>
    if ok then
      match (parseJson text).filter fun data => !data.isNull with
      | some data =>
        match (API_KEY_FIELD_NAMES.filterMap fun name => data.field name).find? isTruthy with
        | some (.string apiKey) => if isValidApiKey apiKey then some (trim apiKey) else none
        | _ => none
      -- the text is no JSON, or its fields cannot be read
      | none => if isValidApiKey text then some (trim text) else none
    else none

/-- The object that is written for a key. -/
def StoredApiKey.object (storedKey : StoredApiKey) : JsObject where
  entries := [("apiKey", .string storedKey.apiKey), ("createdAt", .number storedKey.createdAt)]
  distinct := by
    show ["apiKey", "createdAt"].Nodup
    decide

def StoredApiKey.text (storedKey : StoredApiKey) : String := stringifyJson storedKey.object.toJson

/-- The key of a client. A key in another form is written as a record, and a missing one is
generated. -/
def getOrCreateApiKey (store : ApiKeyStore) (ip : String) (now : Timestamp) (response : GenResponse)
    (created : Timestamp) : Option StoredApiKey × ApiKeyStore :=
  let kvKey := getKVKey ip
  let cached := readStoredApiKey store kvKey now
  match cached.1 with
  | some result =>
    if result.needsMigration then
      (some result.storedKey, Function.update cached.2 kvKey (some result.storedKey.text))
    else (some result.storedKey, cached.2)
  | none =>
    match generateApiKey response with
    | none => (none, cached.2)
    | some apiKey =>
      let storedKey : StoredApiKey := ⟨apiKey, created.toNumber⟩
      (some storedKey, Function.update cached.2 kvKey (some storedKey.text))

end SmartAccountKit.RelayerProxy
