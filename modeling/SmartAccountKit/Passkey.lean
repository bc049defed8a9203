import SmartAccountKit.CompactSignature
import SmartAccountKit.Kit
import SmartAccountKit.MutationGuard

/-!
# Passkey signing

Signing an authorization entry of the connected wallet with a passkey.
-/

namespace SmartAccountKit
open Lib

/-- A signer object of a caller: the identity, and a number that tells objects with one identity
apart. -/
structure SignerObject where
  ref : ℕ
  signer : Signer
deriving DecidableEq

/-- The options of the passkey `signAuthEntry`. -/
structure SignAuthEntryOptions where
  credentialId : Option String := none
  expiration : Option JsNumber := none
  contextRuleIds : Option (List JsNumber) := none
  signer : Option SignerObject := none
  walletMutationHostFunction : Option HostFunction := none
  authDigestScheme : Option AuthDigestScheme := none

/-! ## The signer of a credential -/

/-- Whether a signer's key data ends with a credential id. -/
def hasCredentialSuffix (credentialId : Bytes) : Signer → Bool
  | .delegated _ => false
  | .external _ keyData =>
    credentialId.length < keyData.length ∧
      keyData.drop (keyData.length - credentialId.length) = credentialId

/-- The text of a rule id. Every id that is printed has been read as a 32-bit integer. -/
def ruleIdText (id : JsNumber) : String :=
  match id.toU32 with
  | some n => toString n
  | none => ""

/-- Read rules until one lists a signer whose key data ends with a credential id. -/
def findWebAuthnSignerInRules (contextRuleIds : List JsNumber) (credentialId : Bytes) :
    KitProgram Signer := do
  let found ← Program.forEach contextRuleIds none fun (found : Option Signer) contextRuleId =>
    match found with
    | some signer => return some signer
    | none => do
      let rule ← readContextRule contextRuleId
      return rule.signers.find? (hasCredentialSuffix credentialId)
  match found with
  | some signer => return signer
  | none => Program.throw (JsError.plain
      ("No signer found for credential ID " ++ toBase64Url credentialId ++ " in context rules " ++
        ", ".intercalate (contextRuleIds.map ruleIdText)))

/-! ## The checks -/

/-- The connected contract, if the entry is its own and passes the guard. -/
def assertWalletEntry (config : KitConfig) (entry : SorobanAuthorizationEntry)
    (options : SignAuthEntryOptions) : Except JsError String := do
  let contractId ← config.requireWallet
  let address ← getAuthEntryAddress entry
  throwIf (address ≠ contractId) (JsError.validation
    "The authorization entry is not for the connected smart account" .INVALID_INPUT
    [("contractId", .text contractId)])
  assertWalletMutationIntent entry contractId options.walletMutationHostFunction
    (some config.upgradeTargetPolicy)
  return contractId

/-- The credentials that a passkey can sign for, and the contract they belong to. -/
def assertPasskeyEntry (config : KitConfig) (entry : SorobanAuthorizationEntry)
    (options : SignAuthEntryOptions) : Except JsError (SorobanAddressCredentials × String) := do
  throwIf (entry.credentials.switchName = "sorobanCredentialsAddressWithDelegates") (JsError.plain
    "ADDRESS_WITH_DELEGATES auth entries are not supported by WebAuthn signing yet")
  let credentials ← getAddressCredentials entry.credentials
  return (credentials, ← assertWalletEntry config entry options)

/-- The expiration to ask for: the requested one, that of the entry, or a computed one. -/
def requestedExpiration (config : KitConfig) (requested : Option JsNumber)
    (existingExpiration : UInt32) : KitProgram JsNumber :=
  match requested with
  | some expiration => return expiration
  | none =>
    if existingExpiration = 0 then do
      return .ofU32 (← config.calculateExpiration)
    else return .ofU32 existingExpiration

/-- The normalized expiration to sign for. -/
def passkeyExpiration (config : KitConfig) (requested : Option JsNumber)
    (existingExpiration : UInt32) : KitProgram UInt32 := do
  let expiration ← requestedExpiration config requested existingExpiration
  Program.ofExcept (normalizeSignatureExpirationLedger expiration)

/-- The credential and the rule ids to sign for. Two id lists are the same list if their texts
are. -/
def passkeySelection (config : KitConfig) (options : SignAuthEntryOptions)
    (authPayload : AuthPayload) : Except JsError (String × List JsNumber) := do
  match nonEmptyText (options.credentialId.or config.credentialId) with
  | none => throw (JsError.plain
      "A credential ID is required to sign smart account auth entries")
  | some credentialId => do
    let contextRuleIds := options.contextRuleIds.getD []
    throwIf (contextRuleIds = []) (JsError.plain
      "contextRuleIds are required from the caller to sign smart account auth entries")
    throwIf (authPayload.contextRuleIds ≠ [] ∧ authPayload.contextRuleIds ≠ contextRuleIds)
      (JsError.plain "Existing auth payload uses different context rule IDs")
    return (credentialId, contextRuleIds)

/-! ## Signing -/

/-- The signer that the signature is stored under; a signer read from the chain is a new object. -/
def passkeySigner (options : SignAuthEntryOptions) (contextRuleIds : List JsNumber)
    (credentialId : String) : KitProgram (Option ℕ × Signer) :=
  match options.signer with
  | some signer => return (some signer.ref, signer.signer)
  | none => do
    return (none, ← findWebAuthnSignerInRules contextRuleIds (fromBase64 credentialId))

/-- The scheme of the digest: the caller's, or that of the wallet's code. -/
def passkeyScheme (config : KitConfig) (options : SignAuthEntryOptions) (contractId : String) :
    KitProgram AuthDigestScheme :=
  match options.authDigestScheme with
  | some scheme => return scheme
  | none => config.resolveAuthDigestScheme contractId

/-- The signature value that the WebAuthn verifier reads. -/
def buildWebAuthnSignatureBytes (authenticatorData clientData signature : Bytes) : Bytes :=
  (ScVal.map (some [(scvSymbol "authenticator_data", .bytes authenticatorData),
    (scvSymbol "client_data", .bytes clientData),
    (scvSymbol "signature", .bytes signature)])).toXDR

/-- The signature bytes that an authenticator's response is stored as. -/
def webAuthnSignature (response : AuthenticationResponse) : Except JsError Bytes := do
  let signature ← compactSignature (fromBase64 response.signature)
  return buildWebAuthnSignatureBytes (fromBase64 response.authenticatorData)
    (fromBase64 response.clientDataJSON) signature

def signAuthEntry (config : KitConfig) (entry : SorobanAuthorizationEntry)
    (options : SignAuthEntryOptions) : KitProgram SorobanAuthorizationEntry := do
  let (credentials, contractId) ← Program.ofExcept (assertPasskeyEntry config entry options)
  let expiration ← passkeyExpiration config options.expiration
    credentials.signatureExpirationLedger
  let normalizedEntry := entry.setExpiration expiration
  let authPayload ← Program.ofExcept (readAuthPayload credentials.signature)
  let (credentialId, contextRuleIds) ←
    Program.ofExcept (passkeySelection config options authPayload)
  let ((ref, signer), scheme) ← Program.both
    (passkeySigner options contextRuleIds credentialId) (passkeyScheme config options contractId)
  let args : DigestArgs :=
    { networkPassphrase := config.networkPassphrase
      entry := normalizedEntry
      expiration := .ofU32 expiration
      contextRuleIds
      scheme }
  let (signedEntry, digest) ← Program.ofExcept args.compute
  let response ← Program.await
    (.startAuthentication (toBase64Url digest.authDigest.1) credentialId args) id
  let signatureBytes ← Program.ofExcept (webAuthnSignature response)
  let authPayload := upsertAuthPayloadSigner { authPayload with contextRuleIds } ref signer
    signatureBytes
  let signature ← Program.ofExcept (writeAuthPayload authPayload)
  let _ ← Program.await (.updateCredential credentialId) id
  return signedEntry.setSignature signature

end SmartAccountKit
