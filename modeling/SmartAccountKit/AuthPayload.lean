import SmartAccountKit.AuthEntry
import SmartAccountKit.ScValOrder
import SmartAccountKit.Signers

/-!
# The authorization payload

The signature value of a smart-account entry: the context rule ids and the
signature bytes of each signer, read from and written to an `ScMap` whose keys
stand in host order.
-/

namespace SmartAccountKit
open Lib

/-- An entry of the payload's map from signer objects to signature bytes. The map is keyed by
object identity: `ref` tells the caller's objects for one signer apart, and is absent for the
objects that reading a payload creates. -/
structure PayloadSigner where
  ref : Option ℕ
  signer : Signer
  signature : Bytes
deriving DecidableEq

/-- An `AuthPayload`; the map's entries stand in insertion order. -/
structure AuthPayload where
  contextRuleIds : List JsNumber
  signers : List PayloadSigner
deriving DecidableEq

def emptyAuthPayload : AuthPayload := { contextRuleIds := [], signers := [] }

/-! ## Signer keys -/

/-- A symbol value. -/
def scvSymbol (name : String) : ScVal := .symbol (utf8Encode name)

def signerToScVal : Signer → Except JsError ScVal
  | .delegated address => do
    let address ← toScAddress address
    return .vec (some [scvSymbol "Delegated", .address address])
  | .external verifier keyData => do
    let verifier ← toScAddress verifier
    return .vec (some [scvSymbol "External", .address verifier, .bytes keyData])

/-- Read the payload of a signer key whose variant name is known. -/
def parseSignerVariant (variant : String) (items : List ScVal) : Except JsError Signer :=
  if variant = "Delegated" then
    match items with
    | .address address :: _ => do
      return .delegated (← scAddressToString address "Delegated signer address")
    | _ => .error (JsError.plain "Delegated signer is missing an address")
  else if variant = "External" then
    match items with
    | .address verifier :: .bytes keyData :: _ => do
      return .external (← scAddressToString verifier "External signer verifier address") keyData
    | _ => .error (JsError.plain "External signer is missing required verifier or key data")
  else .error (JsError.plain ("Unknown signer variant: " ++ variant))

def parseSignerScVal (value : ScVal) : Except JsError Signer :=
  match value with
  | .vec _ =>
    match value.vecItems with
    | .symbol sym :: item :: items => parseSignerVariant (utf8Decode sym) (item :: items)
    | _ => .error (JsError.plain "Signer key is not a valid enum encoding")
  | _ => .error (JsError.plain "Signer key is not encoded as a vector")

/-! ## Reading -/

/-- An item of `AuthPayload.context_rule_ids`. -/
def readContextRuleId : ScVal → Except JsError JsNumber
  | .u32 n => .ok (.ofU32 n)
  | _ => .error (JsError.plain "AuthPayload.context_rule_ids contains a non-u32 value")

/-- An entry of `AuthPayload.signers`; its key becomes a new object. -/
def readSignerEntry (e : ScVal × ScVal) : Except JsError PayloadSigner := do
  let signer ← parseSignerScVal e.1
  match e.2 with
  | .bytes signature => return { ref := none, signer, signature }
  | _ => throw (JsError.plain "AuthPayload.signers contains a non-bytes signature value")

/-- Read one field of the payload's map. -/
def readPayloadField (payload : AuthPayload) (e : ScVal × ScVal) : Except JsError AuthPayload :=
  match e.1 with
  | .symbol sym =>
    if utf8Decode sym = "context_rule_ids" then
      match e.2 with
      | .vec _ => do
        return { payload with contextRuleIds := ← e.2.vecItems.mapM readContextRuleId }
      | _ => .error (JsError.plain "AuthPayload.context_rule_ids is not a vector")
    else if utf8Decode sym = "signers" then
      match e.2 with
      | .map _ => do
        return { payload with signers := payload.signers ++ (← e.2.mapEntries.mapM readSignerEntry) }
      | _ => .error (JsError.plain "AuthPayload.signers is not a map")
    else .ok payload
  | _ => .ok payload

def readAuthPayload (signature : ScVal) : Except JsError AuthPayload :=
  match signature with
  | .void => .ok emptyAuthPayload
  | .map _ => signature.mapEntries.foldlM readPayloadField emptyAuthPayload
  | _ => .error (JsError.plain "Smart account auth signature is not encoded as AuthPayload")

/-! ## Writing -/

/-- The error the XDR writer throws for a number that is not a 32-bit unsigned integer. -/
def invalidU32 : JsError := JsError.plain "XDR Write Error: invalid u32 value"

/-- The integer that `scvU32(id)` is encoded as. -/
def ruleIdToU32 (id : JsNumber) : Except JsError UInt32 :=
  match id.toU32 with
  | some n => .ok n
  | none => .error invalidU32

/-- The integers of a list of rule ids. -/
def ruleIdsToU32 (contextRuleIds : List JsNumber) : Except JsError (List UInt32) :=
  contextRuleIds.mapM ruleIdToU32

/-- `scvVec` of rule ids. -/
def ruleIdsScVal (ids : List UInt32) : ScVal := .vec (some (ids.map .u32))

/-- The map entry that a payload entry is written as. -/
def writeSignerEntry (p : PayloadSigner) : Except JsError (ScVal × ScVal) := do
  return (← signerToScVal p.signer, .bytes p.signature)

/-- Compare two map entries by their keys. -/
def compareKeys (a b : ScVal × ScVal) : ℤ := compareScVal a.1 b.1

/-- The value that carries rule ids and sorted signer entries. -/
def payloadScVal (ids : List UInt32) (signerEntries : List (ScVal × ScVal)) : ScVal :=
  .map (some [(scvSymbol "context_rule_ids", ruleIdsScVal ids),
    (scvSymbol "signers", .map (some signerEntries))])

def writeAuthPayload (payload : AuthPayload) : Except JsError ScVal := do
  let signerEntries ← payload.signers.mapM writeSignerEntry
  let ids ← ruleIdsToU32 payload.contextRuleIds
  return payloadScVal ids (sortBy compareKeys signerEntries)

/-! ## Updating -/

/-- Whether two entries are keyed by one object. -/
def PayloadSigner.sameObject (p q : PayloadSigner) : Bool :=
  p.ref.isSome && p.ref == q.ref && signersEqual p.signer q.signer

/-- `Map.set` of a signer object: an entry of the same object keeps its place. -/
def setPayloadSigner (signers : List PayloadSigner) (p : PayloadSigner) : List PayloadSigner :=
  if signers.any p.sameObject then signers.map fun q => if p.sameObject q then p else q
  else signers ++ [p]

/-- Replace the signature of the first entry with an equal signer, or add an entry. -/
def upsertAuthPayloadSigner (payload : AuthPayload) (ref : Option ℕ) (signer : Signer)
    (signature : Bytes) : AuthPayload :=
  { payload with
    signers := setPayloadSigner (payload.signers.eraseP fun q => signersEqual q.signer signer)
      { ref, signer, signature } }

end SmartAccountKit
