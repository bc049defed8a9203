import SmartAccountKit.Lib.NumberText
import SmartAccountKit.Provenance

/-!
# The indexer client

Reverse lookups from a credential to the wallets that list it. The indexer is
not trusted: its answer is an arbitrary JSON value, and a lookup is complete
only if nothing of the answer was lost.
-/

namespace SmartAccountKit
open Lib

/-- `toLowerCase()`. What it does to other texts than those of ASCII characters is left open. -/
structure LowerCase where
  text : String → String
  ascii : ∀ s, (∀ c ∈ s.toList, c.toNat < 128) → text s = s.map Char.toLower

/-- Lower case of the ASCII letters only. -/
def LowerCase.asciiOnly : LowerCase := ⟨fun s => s.map Char.toLower, fun _ _ => rfl⟩

/-- `text.replace(/^0x/, "")`. -/
def stripHexPrefix (text : String) : String :=
  match afterWord "0x" text.toList with
  | some rest => String.ofList rest
  | none => text

/-! ## Requests -/

/-- An error of `IndexerClient`, or the `TypeError` of a conversion it makes. -/
inductive IndexerFailure where
  | indexerError (message : String) (status : ℕ) (body : Option String)
  | typeError (message : String)

/-- A request to the indexer's server. -/
structure IndexerRequest where
  url : String
  authorization : Option String

/-- What a request comes to: an error of the server, an answer that was read as JSON, or a failure
on the way. -/
inductive IndexerReply where
  | refused (status : ℕ) (statusText body : String)
  | answered (body : JsonValue)
  | aborted
  | failed (message : String)

/-- The interface to the indexer's server. -/
def IndexerServer : Interface where
  Request := IndexerRequest
  Reply _ := IndexerReply

structure IndexerClient where
  baseUrl : String
  authToken : Option String

/-- `new IndexerClient({ baseUrl, authToken })` drops a slash at the end of the address. -/
def IndexerClient.create (baseUrl : String) (authToken : Option String) : IndexerClient :=
  let cs := baseUrl.toList
  { baseUrl := if cs.getLast? = some '/' then String.ofList cs.dropLast else baseUrl
    authToken }

def API_PATH_LOOKUP : String := "/api/lookup"

def IndexerClient.request (client : IndexerClient) (path : String) : IndexerRequest :=
  { url := client.baseUrl ++ path
    authorization := (client.authToken.filter (· ≠ "")).map ("Bearer " ++ ·) }

/-- What `fetch` returns or throws for a reply. -/
def readIndexerReply : IndexerReply → Except IndexerFailure JsonValue
  | .refused status statusText body => .error (.indexerError
      ("Indexer request failed: " ++ toString status ++ " " ++ statusText) status (some body))
  | .answered body => .ok body
  | .aborted => .error (.indexerError "Indexer request timed out" 0 none)
  | .failed message => .error (.indexerError ("Indexer request failed: " ++ message) 0 none)

def IndexerClient.fetch (client : IndexerClient) (path : String) :
    Program IndexerServer IndexerFailure JsonValue :=
  .await (I := IndexerServer) (client.request path) readIndexerReply

/-! ## Checks -/

def WALLET_CANDIDATE_INCOMPLETE_REASONS : List String :=
  ["missing_birth", "rpc_unchecked", "signer_unconfirmed", "instance_missing", "wasm_unresolved",
    "inconsistent_creation_ledger"]

def CREDENTIAL_LOOKUP_INCOMPLETE_REASONS : List String := ["reducer_errors", "index_behind"]

def isAllowedReasonList (value : Option JsonValue) (allowedReasons : List String) : Bool :=
  match value with
  | some (.array items) =>
    !items.isEmpty && items.all fun item => item.text?.any (· ∈ allowedReasons)
  | _ => false

def hasValidLookupIncompleteReasons (complete : Bool) (reasons : Option JsonValue) : Bool :=
  if complete then reasons.isNone
  else reasons.isNone || isAllowedReasonList reasons CREDENTIAL_LOOKUP_INCOMPLETE_REASONS

def hasValidCandidateIncompleteReasons : JsonValue → Bool
  | .object fields =>
    let candidate := JsonValue.object fields
    match candidate.field "incomplete" with
    | some (.bool true) =>
      isAllowedReasonList (candidate.field "incompleteReasons")
        WALLET_CANDIDATE_INCOMPLETE_REASONS
    | _ => (candidate.field "incompleteReasons").isNone
  | _ => false

/-- `/^[1-9]\d*$/`. -/
def isPositiveDecimal (text : String) : Bool :=
  match text.toList with
  | [] => false
  | c :: cs => c.isDigit && c ≠ '0' && cs.all Char.isDigit

def normalizePositiveInteger : Option JsonValue → Option JsNumber
  | some (.number text) =>
    let value := textNumber (String.ofList text)
    if value.isSafeInteger && !value.lt (.ofNat 1) then some value else none
  | some (.string value) =>
    if isPositiveDecimal value then
      let parsed := textNumber value
      if parsed.isSafeInteger then some parsed else none
    else none
  | _ => none

/-- `Number(value)` of a field, which throws if the value has no text. -/
def fieldNumber : Option JsonValue → Except IndexerFailure JsNumber
  | none => .ok .nan
  | some value =>
    match value.toNumber? with
    | some n => .ok n
    | none => .error (.typeError "Cannot convert object to primitive value")

/-- `StrKey.isValidContract`. -/
def isValidContract (text : String) : Bool :=
  match addressFromString text with
  | some (.contract _) => true
  | _ => false

/-! ## Lookups -/

/-- An entry of an answer, with its counts as numbers. -/
structure IndexedContractSummary where
  entry : JsonValue
  context_rule_count : JsNumber
  external_signer_count : JsNumber
  delegated_signer_count : JsNumber
  native_signer_count : JsNumber
  first_seen_ledger : JsNumber
  last_seen_ledger : JsNumber

def normalizeContractSummary (summary : JsonValue) :
    Except IndexerFailure IndexedContractSummary := do
  return {
    entry := summary
    context_rule_count := ← fieldNumber (summary.field "context_rule_count")
    external_signer_count := ← fieldNumber (summary.field "external_signer_count")
    delegated_signer_count := ← fieldNumber (summary.field "delegated_signer_count")
    native_signer_count := ← fieldNumber (summary.field "native_signer_count")
    first_seen_ledger := ← fieldNumber (summary.field "first_seen_ledger")
    last_seen_ledger := ← fieldNumber (summary.field "last_seen_ledger") }

structure CredentialLookupResponse where
  schema : ℕ
  complete : Bool
  indexed_through_ledger : JsNumber
  credentialId : String
  count : JsNumber
  contracts : List IndexedContractSummary
  incompleteReasons : Option JsonValue

def INVALID_CREDENTIAL_RESPONSE : IndexerFailure :=
  .indexerError "Indexer returned an invalid schema-2 credential response" 0 none

section client

variable (lower : LowerCase) (client : IndexerClient)

/-- `credentialId.toLowerCase().replace(/^0x/, "")`. -/
def normalizedCredentialId (credentialId : String) : String :=
  stripHexPrefix (lower.text credentialId)

/-- The answer to a lookup, checked and with its numbers read. -/
def readCredentialResponse (normalizedId : String) (response : JsonValue) :
    Except IndexerFailure CredentialLookupResponse := do
  -- a field of `null` cannot be read
  throwIf (response.isNull = true) (.typeError "Cannot read properties of null")
  let responseCount ← fieldNumber (response.field "count")
  match normalizePositiveInteger (response.field "indexed_through_ledger"),
      response.field "complete", response.field "credentialId", response.field "contracts" with
  | some indexedThroughLedger, some (.bool complete), some (.string credentialId),
      some (.array contracts) =>
    throwIf ((response.field "schema").bind JsonValue.number? ≠ some (.ofNat 2) ∨
        normalizedCredentialId lower credentialId ≠ normalizedId ∨
        responseCount.isSafeInteger = false ∨ responseCount.lt (.ofNat 0) = true ∨
        responseCount ≠ .ofNat contracts.length ∨
        hasValidLookupIncompleteReasons complete (response.field "incompleteReasons") = false ∨
        contracts.all hasValidCandidateIncompleteReasons = false) INVALID_CREDENTIAL_RESPONSE
    return {
      schema := 2
      complete
      indexed_through_ledger := indexedThroughLedger
      credentialId := normalizedId
      count := responseCount
      contracts := ← contracts.mapM normalizeContractSummary
      incompleteReasons := response.field "incompleteReasons" }
  | _, _, _, _ => throw INVALID_CREDENTIAL_RESPONSE

def IndexerClient.lookupByCredentialId (credentialId : String) :
    Program IndexerServer IndexerFailure CredentialLookupResponse := do
  let normalizedId := normalizedCredentialId lower credentialId
  let response ← client.fetch (API_PATH_LOOKUP ++ "/" ++ normalizedId)
  .ofExcept (readCredentialResponse lower normalizedId response)

def normalizeHash (value : Option JsonValue) : Option String := do
  let normalized := stripHexPrefix (lower.text (← value.bind JsonValue.text?))
  if IsHashHex normalized then some normalized else none

def parseWalletCandidate (contract : IndexedContractSummary) : Option IndexedWalletCandidate :=
  let entry := contract.entry
  match entry.field "contract_id", normalizeHash lower (entry.field "birth_wasm_hash"),
      normalizeHash lower (entry.field "creation_transaction_hash"),
      normalizePositiveInteger (entry.field "creation_ledger"),
      normalizeHash lower (entry.field "current_wasm_hash"), entry.field "derived_address",
      entry.field "collision", entry.field "incomplete" with
  | some (.string contractId), some birthWasmHash, some creationTransactionHash,
      some creationLedger, some currentWasmHash, some (.bool derivedAddress),
      some (.bool collision), some (.bool false) =>
    if isValidContract contractId then
      some {
        contractId, birthWasmHash, creationTransactionHash, creationLedger, currentWasmHash,
        derivedAddress, collision }
    else none
  | _, _, _, _, _, _, _, _ => none

/-- The candidates of a checked answer, and whether they are all of them. -/
def walletCandidateLookup (response : CredentialLookupResponse) : WalletCandidateLookup :=
  let indexedThroughLedger := response.indexed_through_ledger
  let candidates := response.contracts.filterMap (parseWalletCandidate lower)
  let contractIds := (candidates.map (·.contractId)).dedup
  let collisionExpected :=
    candidates.any (·.derivedAddress) && candidates.any (!·.derivedAddress)
  let complete :=
    response.complete && response.count.isSafeInteger && !response.count.lt (.ofNat 0) &&
      response.count = .ofNat response.contracts.length &&
      candidates.length = response.contracts.length &&
      contractIds.length = candidates.length &&
      candidates.all fun candidate =>
        !indexedThroughLedger.lt candidate.creationLedger &&
          candidate.collision == collisionExpected
  { schema := 2, complete, indexedThroughLedger, candidates }

def IndexerClient.lookupWalletCandidates (credentialId : String) :
    Program IndexerServer IndexerFailure WalletCandidateLookup := do
  let normalizedCredentialId := normalizedCredentialId lower credentialId
  let response ← client.lookupByCredentialId lower normalizedCredentialId
  return walletCandidateLookup lower response

/-! ## The kit's lookups -/

/-- A credential id in hexadecimal. A text of hexadecimal digits is taken as it is, and any other
text is read as base 64. -/
def normalizeCredentialIdToHex (credentialId : String) : String :=
  if credentialId.toList ≠ [] ∧ credentialId.toList.all (fun c => (hexValue c).isSome) = true then
    lower.text credentialId
  else toHex (fromBase64 credentialId)

def discoverContractsByCredential (indexer : Option IndexerClient) (credentialId : String) :
    Program IndexerServer IndexerFailure (Option (List IndexedContractSummary)) :=
  match indexer with
  | none => return none
  | some indexer => do
    let result ←
      indexer.lookupByCredentialId lower (normalizeCredentialIdToHex lower credentialId)
    return some result.contracts

def lookupWalletCandidates (indexer : Option IndexerClient) (credentialId : String) :
    Program IndexerServer IndexerFailure (Option WalletCandidateLookup) :=
  match indexer with
  | none => return none
  | some indexer => do
    let result ←
      indexer.lookupWalletCandidates lower (normalizeCredentialIdToHex lower credentialId)
    return some result

end client

end SmartAccountKit
