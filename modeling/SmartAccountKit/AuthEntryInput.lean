import SmartAccountKit.Lib.Base64
import SmartAccountKit.Lib.Objects
import SmartAccountKit.SignOnlyTheorems

/-!
# Authorization entries as apps pass them

An app passes an entry as an object of the kit's SDK, as base64 text, or as an
object of another SDK copy. Signing works on an object of its own, so that the
form does not matter and the object of the app stays as it is.
-/

namespace SmartAccountKit
open Lib

/-! ## Objects of the SDK -/

/-- The class `xdr.SorobanAuthorizationEntry` of the kit's SDK: its values, those of them that fit the
wire format, the fields that the kit reads and sets, and how values are encoded and decoded. An
error of the decoder is its message. -/
structure AuthEntryClass where
  Value : Type
  Encodable : Value → Prop
  view : Value → SorobanAuthorizationEntry
  setExpiration : Value → UInt32 → Value
  setSignature : Value → ScVal → Value
  toXDR : Value → Bytes
  fromXDR : Bytes → Except String Value

/-- The setters change one field, and encoding and decoding are inverse. -/
structure AuthEntryClass.Lawful (K : AuthEntryClass) : Prop where
  view_setExpiration : ∀ v ledger, K.view (K.setExpiration v ledger) = (K.view v).setExpiration ledger
  view_setSignature : ∀ v signature,
    K.view (K.setSignature v signature) = (K.view v).setSignature signature
  fromXDR_toXDR : ∀ v, K.Encodable v → K.fromXDR (K.toXDR v) = .ok v
  toXDR_fromXDR : ∀ bytes v, K.fromXDR bytes = .ok v → K.Encodable v ∧ K.toXDR v = bytes
  toXDR_ne_nil : ∀ v, K.Encodable v → K.toXDR v ≠ []

/-- A value that is neither a text nor an object of the kit's SDK, by what comes of its `toXDR`. -/
inductive ForeignValue where
  | getterThrows (cause : Option String)
  | noEncoder (typeName : String)
  | encoderThrows (cause : Option String)
  | encodesOther
  | encodes (bytes : Bytes)
deriving DecidableEq

/-- What an app passes as an entry: a text, a reference to an object of the kit's SDK, or another
value. -/
inductive AuthEntryInput where
  | text (value : String)
  | kitObject (ref : ℕ)
  | foreign (value : ForeignValue)
deriving DecidableEq

/-- What signing an entry gives back. -/
inductive SignedAuthEntry where
  | text (value : String)
  | object (ref : ℕ)

def invalidEntry (fieldName detail : String) (cause : Option String) : JsError :=
  JsError.validation
    ("Invalid " ++ fieldName ++ ": " ++ detail ++ ". Pass a base64-encoded " ++
      "SorobanAuthorizationEntry XDR string (for example entry.toXdr(\"base64\") on Stellar " ++
      "SDK 17) or an xdr.SorobanAuthorizationEntry.")
    .INVALID_INPUT
    (("field", .text fieldName) :: cause.toList.map fun message => ("cause", .text message))

namespace AuthEntryClass

variable (K : AuthEntryClass)

/-- A program of the kit over objects of the class. -/
abbrev ObjectProgram (α : Type) := Program (Environment.sum (Objects K.Value)) JsError α

/-! ## Decoding -/

/-- The entry of a text: the canonical base64 text of its encoding, and no other. -/
def decodeText (text fieldName : String) : Except JsError K.Value :=
  let encoded := trim text
  if encoded = "" ∨ isBase64Text encoded.toList = false then
    .error (invalidEntry fieldName "the string is not valid base64" none)
  else
    match K.fromXDR (fromBase64 encoded) with
    | .error cause => .error (invalidEntry fieldName
        "the base64 string does not decode to a SorobanAuthorizationEntry" (some cause))
    | .ok decoded =>
      if toBase64 (K.toXDR decoded) ≠ encoded then
        .error (invalidEntry fieldName "the string is not canonical base64 XDR" none)
      else .ok decoded

/-- The entry that an object of another SDK copy encodes. -/
def decodeForeign (value : ForeignValue) (fieldName : String) : Except JsError K.Value :=
  match value with
  | .getterThrows cause | .encoderThrows cause =>
    .error (invalidEntry fieldName "the object could not be encoded as XDR" cause)
  | .noEncoder typeName => .error (invalidEntry fieldName
      ("expected a string or an XDR object, got " ++ typeName) none)
  | .encodesOther =>
    .error (invalidEntry fieldName "the object's toXDR() did not return bytes" none)
  | .encodes bytes =>
    match K.fromXDR bytes with
    | .error cause => .error (invalidEntry fieldName
        "the object does not encode a SorobanAuthorizationEntry" (some cause))
    | .ok decoded => .ok decoded

/-- An object for an entry: an object of the kit's SDK itself, or a new one. -/
def toAuthEntry (input : AuthEntryInput) (fieldName : String) : K.ObjectProgram ℕ :=
  match input with
  | .kitObject ref => return ref
  | .text value => do
    let decoded ← Program.ofExcept (K.decodeText value fieldName)
    Program.newObject decoded
  | .foreign value => do
    let decoded ← Program.ofExcept (K.decodeForeign value fieldName)
    Program.newObject decoded

/-! ## Signing an object -/

/-- The error of reading through a reference to nothing. -/
def danglingReference : JsError := JsError.plain "Cannot read properties of undefined"

def readEntry (ref : ℕ) : K.ObjectProgram K.Value := Program.getObject danglingReference ref

/-- Set a field of an entry in place. -/
def updateEntry (ref : ℕ) (f : K.Value → K.Value) : K.ObjectProgram Unit := do
  let value ← K.readEntry ref
  Program.setObject ref (f value)

/-- Write the normalized expiration into the object and build its preimage. -/
def buildSignaturePreimage (networkPassphrase : String) (entry : ℕ) (expiration : JsNumber) :
    K.ObjectProgram HashIdPreimage := do
  let value ← K.readEntry entry
  let _ ← Program.ofExcept (getAddressCredentials (K.view value).credentials)
  let normalizedExpiration ← Program.ofExcept (normalizeSignatureExpirationLedger expiration)
  K.updateEntry entry fun v => K.setExpiration v normalizedExpiration
  let written ← K.readEntry entry
  Program.ofExcept
    (buildAuthorizationEntryPreimage (K.view written) normalizedExpiration networkPassphrase)

def computeEntryAuthDigest (networkPassphrase : String) (entry : ℕ) (expiration : JsNumber)
    (contextRuleIds : List JsNumber) (scheme : AuthDigestScheme) :
    K.ObjectProgram EntryAuthDigest := do
  let signaturePreimage ← K.buildSignaturePreimage networkPassphrase entry expiration
  let signaturePayload := hash signaturePreimage.toXDR
  match scheme with
  | .legacyConcat => do
    let authDigest ← Program.ofExcept (buildLegacyAuthDigest signaturePayload.1 contextRuleIds)
    return { signaturePayload, authDigest, delegatedAuthArgs := [.bytes authDigest.1] }
  | .preimageV1 => do
    let value ← K.readEntry entry
    let account ← Program.ofExcept (getAuthEntryAddress (K.view value))
    let preimage ← Program.ofExcept
      (buildAuthDigestPreimage account signaturePayload.1 contextRuleIds)
    return { signaturePayload, authDigest := buildPreimageAuthDigest preimage,
             delegatedAuthArgs := [preimage] }

/-- The checks of an entry before its digest is computed: its payload so far and what the digest is
computed from. -/
def checkEntry (entry : SorobanAuthorizationEntry) (scheme : AuthDigestScheme)
    (options : SignAuthEntryWithSignersOptions) : Except JsError (AuthPayload × DigestArgs) := do
  assertSignOnlyCredentials entry.credentials
  let contractId ← getAuthEntryAddress entry
  assertWalletMutationIntent entry contractId none none
  let credentials ← getAddressCredentials entry.credentials
  let existingExpiration := credentials.signatureExpirationLedger
  let expiration ← signOnlyExpiration options.expiration existingExpiration
  let authPayload ← readAuthPayload credentials.signature
  throwIf (authPayload.signers ≠ [] ∧ expiration ≠ existingExpiration) (JsError.validation
    "Existing signatures cover a different expiration ledger" .INVALID_INPUT
    [("existing", .number (.ofU32 existingExpiration)), ("requested", .number (.ofU32 expiration))])
  let contextRuleIds ← signOnlyContextRuleIds options.contextRuleIds authPayload.contextRuleIds
  return (authPayload,
    { networkPassphrase := options.networkPassphrase
      entry
      expiration := .ofU32 expiration
      contextRuleIds
      scheme })

/-- Ask every signer for its signature and put it into the payload. -/
def collectSignatures (signers : List AuthDigestSigner) (authPayload : AuthPayload)
    (authDigest : BytesN 32) (args : DigestArgs) : KitProgram AuthPayload :=
  Program.forEach signers authPayload fun authPayload signer => do
    let signatureBytes ← Program.await (.signAuthDigest signer authDigest args) id
    return upsertAuthPayloadSigner authPayload (some signer.ref) signer.signer signatureBytes

/-- Sign the entry of an object in place. -/
def signEntry (signed : ℕ) (scheme : AuthDigestScheme) (signers : List AuthDigestSigner)
    (options : SignAuthEntryWithSignersOptions) : K.ObjectProgram Unit := do
  let value ← K.readEntry signed
  let (authPayload, args) ← Program.ofExcept (checkEntry (K.view value) scheme options)
  let digest ← K.computeEntryAuthDigest args.networkPassphrase signed args.expiration
    args.contextRuleIds args.scheme
  let authPayload ← Program.withObjects
    (collectSignatures signers authPayload digest.authDigest args)
  let signature ← Program.ofExcept
    (writeAuthPayload { authPayload with contextRuleIds := args.contextRuleIds })
  K.updateEntry signed fun v => K.setSignature v signature

/-- A copy of an object, through its encoding. -/
def copyEntry (ref : ℕ) : K.ObjectProgram ℕ := do
  let value ← K.readEntry ref
  let copied ← Program.ofExcept ((K.fromXDR (K.toXDR value)).mapError JsError.plain)
  Program.newObject copied

/-- The object to sign: never one of the caller. What is no object of the kit's SDK was decoded into
a new object already. -/
def ownEntry (entry : AuthEntryInput) (decoded : ℕ) : K.ObjectProgram ℕ :=
  if entry = .kitObject decoded then K.copyEntry decoded else return decoded

/-- A signed object in the form of the input. -/
def signedForm (entry : AuthEntryInput) (signed : ℕ) : K.ObjectProgram SignedAuthEntry :=
  match entry with
  | .text _ => do
    let value ← K.readEntry signed
    return .text (toBase64 (K.toXDR value))
  | _ => return .object signed

def signAuthEntryWithSigners (entry : AuthEntryInput) (signers : List AuthDigestSigner)
    (options : SignAuthEntryWithSignersOptions) : K.ObjectProgram SignedAuthEntry := do
  Program.ofExcept (throwIf (signers = []) (JsError.validation "At least one signer is required"))
  let scheme ← Program.ofExcept (checkAuthDigestScheme options.authDigestScheme)
  let decoded ← K.toAuthEntry entry "entry"
  let signed ← K.ownEntry entry decoded
  K.signEntry signed scheme signers options
  K.signedForm entry signed

end AuthEntryClass

end SmartAccountKit
