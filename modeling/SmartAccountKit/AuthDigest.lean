import SmartAccountKit.AuthPayload
import SmartAccountKit.Lib.Lists

/-!
# Authorization digests

The digest schemes of the smart-account builds, the digest every signer of an
entry commits to, and the checks on the code a wallet is upgraded to.
-/

namespace SmartAccountKit
open Lib

/-! ## Schemes -/

/-- An authorization digest scheme. -/
inductive AuthDigestScheme where
  | legacyConcat
  | preimageV1
deriving DecidableEq

/-- The name of a scheme. -/
def AuthDigestScheme.name : AuthDigestScheme → String
  | legacyConcat => "legacy-concat"
  | preimageV1 => "preimage-v1"

/-- `AUTH_DIGEST_SCHEMES`. -/
def AUTH_DIGEST_SCHEMES : List AuthDigestScheme := [.legacyConcat, .preimageV1]

/-- The scheme a name stands for, if `isAuthDigestScheme` accepts it. -/
def AuthDigestScheme.ofName (name : String) : Option AuthDigestScheme :=
  AUTH_DIGEST_SCHEMES.find? fun scheme => scheme.name == name

theorem AuthDigestScheme.ofName_eq_some {name : String} {scheme : AuthDigestScheme} :
    ofName name = some scheme ↔ scheme.name = name := by
  constructor
  · intro h
    simpa using List.find?_some h
  · rintro rfl
    cases scheme <;> decide

/-- What the kit knows about account code: which hashes it accepts and how each signs. -/
structure UpgradeTargetPolicy where
  acceptedWasmHashes : List String
  authDigestSchemes : List (String × AuthDigestScheme)

/-- Refuse a WASM hash without a known scheme. -/
def assertKnownAuthDigestScheme (schemes : List (String × AuthDigestScheme)) (wasmHash : String)
    (field : String) : Except JsError Unit :=
  let normalizedHash := wasmHash.map Char.toLower
  throwIf (schemes.lookup normalizedHash).isNone (JsError.validation
    (field ++ " " ++ normalizedHash ++ " has no known authorization digest scheme, so the SDK " ++
      "could not sign for a wallet running it. Map it in `authDigestSchemes`.")
    (if field = "accountWasmHash" then .INVALID_CONFIG else .INVALID_INPUT)
    [("field", .text field), ("wasmHash", .text normalizedHash)])

/-- Check the hash of the code a wallet is upgraded to. -/
def assertUpgradeTarget (policy : UpgradeTargetPolicy) (newWasmHash : Bytes) :
    Except JsError Bytes := do
  throwIf (newWasmHash.length ≠ 32) (JsError.validation
    ("newWasmHash must be a 32-byte hash (got " ++ toString newWasmHash.length ++ " bytes)")
    .INVALID_INPUT [("length", .number (.ofNat newWasmHash.length))])
  let targetHash := toHex newWasmHash
  throwIf (targetHash ∉ policy.acceptedWasmHashes) (JsError.validation
    ("newWasmHash " ++ targetHash ++ " is not in `acceptedWasmHashes`, so the SDK would refuse " ++
      "to connect to the wallet after the upgrade")
    .INVALID_INPUT [("field", .text "newWasmHash"), ("wasmHash", .text targetHash)])
  assertKnownAuthDigestScheme policy.authDigestSchemes targetHash "newWasmHash"
  return newWasmHash

/-! ## Digests -/

/-- The `legacy-concat` digest. -/
def buildLegacyAuthDigest (signaturePayload : Bytes) (contextRuleIds : List JsNumber) :
    Except JsError (BytesN 32) := do
  let ids ← ruleIdsToU32 contextRuleIds
  return hash (signaturePayload ++ (ruleIdsScVal ids).toXDR)

/-- The `AuthDigestPreimage` struct of an account, a signature payload and rule ids. -/
def authDigestPreimage (account : ScAddress) (signaturePayload : Bytes) (ids : List UInt32) :
    ScVal :=
  .map (some [(scvSymbol "account", .address account),
    (scvSymbol "context_rule_ids", ruleIdsScVal ids),
    (scvSymbol "signature_payload", .bytes signaturePayload)])

/-- Build the preimage that `preimage-v1` signers commit to. -/
def buildAuthDigestPreimage (account : String) (signaturePayload : Bytes)
    (contextRuleIds : List JsNumber) : Except JsError ScVal := do
  throwIf (signaturePayload.length ≠ 32) (JsError.plain
    ("Signature payload must be 32 bytes (got " ++ toString signaturePayload.length ++ ")"))
  let account ← toScAddress account
  let ids ← ruleIdsToU32 contextRuleIds
  return authDigestPreimage account signaturePayload ids

/-- The `preimage-v1` digest. -/
def buildPreimageAuthDigest (preimage : ScVal) : BytesN 32 :=
  hash preimage.toXDR

/-- The digest material every signer of an entry commits to. -/
structure EntryAuthDigest where
  signaturePayload : BytesN 32
  authDigest : BytesN 32
  delegatedAuthArgs : List ScVal

/-- Compute the digest of an entry. The entry is returned with the normalized expiration that
computing the signature payload writes into it. -/
def computeEntryAuthDigest (networkPassphrase : String) (entry : SorobanAuthorizationEntry)
    (expiration : JsNumber) (contextRuleIds : List JsNumber) (scheme : AuthDigestScheme) :
    Except JsError (SorobanAuthorizationEntry × EntryAuthDigest) := do
  let (authEntry, signaturePayload) ← buildSignaturePayload networkPassphrase entry expiration
  match scheme with
  | .legacyConcat =>
    let authDigest ← buildLegacyAuthDigest signaturePayload.1 contextRuleIds
    return (authEntry,
      { signaturePayload, authDigest, delegatedAuthArgs := [.bytes authDigest.1] })
  | .preimageV1 =>
    let account ← getAuthEntryAddress authEntry
    let preimage ← buildAuthDigestPreimage account signaturePayload.1 contextRuleIds
    return (authEntry,
      { signaturePayload, authDigest := buildPreimageAuthDigest preimage,
        delegatedAuthArgs := [preimage] })

end SmartAccountKit
