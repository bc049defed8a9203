import SmartAccountKit.MutationGuard
import SmartAccountKit.Requests

/-!
# Sign-only signing

Signing an authorization entry with local signers, without a connected wallet
and without submitting it.
-/

namespace SmartAccountKit
open Lib

/-- The options of `signAuthEntryWithSigners`. -/
structure SignAuthEntryWithSignersOptions where
  networkPassphrase : String
  authDigestScheme : String
  contextRuleIds : Option (List JsNumber)
  expiration : Option JsNumber

/-- The scheme that an option names. -/
def checkAuthDigestScheme (name : String) : Except JsError AuthDigestScheme :=
  match AuthDigestScheme.ofName name with
  | some scheme => .ok scheme
  | none => .error (JsError.validation
      ("authDigestScheme must be one of " ++
        ", ".intercalate (AUTH_DIGEST_SCHEMES.map AuthDigestScheme.name) ++
        " (got \"" ++ name ++ "\")")
      .INVALID_INPUT [("authDigestScheme", .text name)])

/-- Refuse credentials that sign-only signing does not support. -/
def assertSignOnlyCredentials (credentials : SorobanCredentials) : Except JsError Unit :=
  match credentials with
  | .address _ | .addressV2 _ => .ok ()
  | .addressWithDelegates _ => .error (JsError.validation
      "ADDRESS_WITH_DELEGATES auth entries are not supported by sign-only signing yet")
  | .sourceAccount => .error (JsError.validation
      "Only address-credential auth entries can be signed by a smart account"
      .INVALID_INPUT [("credentialType", .text credentials.switchName)])

/-- The normalized expiration to sign for. -/
def signOnlyExpiration (requested : Option JsNumber) (existingExpiration : UInt32) :
    Except JsError UInt32 := do
  let requestedExpiration := requested.getD (.ofU32 existingExpiration)
  throwIf (!requestedExpiration.truthy) (JsError.validation
    "A signature expiration ledger is required to sign this auth entry")
  normalizeSignatureExpirationLedger requestedExpiration

/-- The rule ids to sign for. Two id lists are the same list if their texts are. -/
def signOnlyContextRuleIds (requested : Option (List JsNumber)) (existing : List JsNumber) :
    Except JsError (List JsNumber) := do
  let contextRuleIds := requested.getD []
  throwIf (contextRuleIds = []) (JsError.validation
    "contextRuleIds are required from the caller to sign smart account auth entries")
  throwIf (existing ≠ [] ∧ existing ≠ contextRuleIds) (JsError.validation
    "Existing auth payload uses different context rule IDs"
    .INVALID_INPUT [("existing", .numbers existing), ("requested", .numbers contextRuleIds)])
  return contextRuleIds

/-- An entry ready to be signed: its payload so far, the ids to bind and the digest. -/
structure SignOnlyEntry where
  signed : SorobanAuthorizationEntry
  authPayload : AuthPayload
  contextRuleIds : List JsNumber
  authDigest : BytesN 32
  args : DigestArgs

/-- The checks of `signAuthEntryWithSigners`, and the digest that its signers sign. -/
def prepareSignOnly (entry : SorobanAuthorizationEntry)
    (options : SignAuthEntryWithSignersOptions) : Except JsError SignOnlyEntry := do
  let scheme ← checkAuthDigestScheme options.authDigestScheme
  assertSignOnlyCredentials entry.credentials
  let contractId ← getAuthEntryAddress entry
  -- no host function: this is a generic path
  assertWalletMutationIntent entry contractId none none
  let credentials ← getAddressCredentials entry.credentials
  let existingExpiration := credentials.signatureExpirationLedger
  let expiration ← signOnlyExpiration options.expiration existingExpiration
  let authPayload ← readAuthPayload credentials.signature
  throwIf (authPayload.signers ≠ [] ∧ expiration ≠ existingExpiration) (JsError.validation
    "Existing signatures cover a different expiration ledger" .INVALID_INPUT
    [("existing", .number (.ofU32 existingExpiration)), ("requested", .number (.ofU32 expiration))])
  let contextRuleIds ← signOnlyContextRuleIds options.contextRuleIds authPayload.contextRuleIds
  let args : DigestArgs :=
    { networkPassphrase := options.networkPassphrase
      entry
      expiration := .ofU32 expiration
      contextRuleIds
      scheme }
  let (signed, digest) ← args.compute
  return { signed, authPayload, contextRuleIds, authDigest := digest.authDigest, args }

/-- Ask one signer for its signature and put it into the payload. -/
def signWithSigner (prepared : SignOnlyEntry) (authPayload : AuthPayload)
    (signer : AuthDigestSigner) : KitProgram AuthPayload := do
  let signatureBytes ←
    Program.await (.signAuthDigest signer prepared.authDigest prepared.args) id
  return upsertAuthPayloadSigner authPayload (some signer.ref) signer.signer signatureBytes

/-- Write the payload of a signed entry into it. -/
def writeSignOnly (prepared : SignOnlyEntry) (authPayload : AuthPayload) :
    Except JsError SorobanAuthorizationEntry := do
  let signature ← writeAuthPayload { authPayload with contextRuleIds := prepared.contextRuleIds }
  return prepared.signed.setSignature signature

def signAuthEntryWithSigners (entry : SorobanAuthorizationEntry)
    (signers : List AuthDigestSigner) (options : SignAuthEntryWithSignersOptions) :
    KitProgram SorobanAuthorizationEntry := do
  Program.ofExcept (throwIf (signers = []) (JsError.validation "At least one signer is required"))
  let prepared ← Program.ofExcept (prepareSignOnly entry options)
  let authPayload ← Program.forEach signers prepared.authPayload (signWithSigner prepared)
  Program.ofExcept (writeSignOnly prepared authPayload)

end SmartAccountKit
