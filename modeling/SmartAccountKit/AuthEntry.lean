import SmartAccountKit.Address
import SmartAccountKit.Lib.Utf8
import SmartAccountKit.Xdr.Encoding

/-!
# Authorization entries

The address credentials of an entry, the expiration ledger a signature covers,
and the preimage the host hashes into the signature payload.
-/

namespace SmartAccountKit
open Lib

/-! ## Credentials -/

/-- The address credentials of any arm that has them. -/
def SorobanCredentials.addressCredentials? : SorobanCredentials → Option SorobanAddressCredentials
  | sourceAccount => none
  | address c => some c
  | addressV2 c => some c
  | addressWithDelegates c => some c

def getAddressCredentials (credentials : SorobanCredentials) :
    Except JsError SorobanAddressCredentials :=
  match credentials.addressCredentials? with
  | some c => .ok c
  | none => .error (JsError.plain
      ("Soroban credentials do not contain address credentials: " ++ credentials.switchName))

def getAuthEntryAddress (entry : SorobanAuthorizationEntry) : Except JsError String := do
  let credentials ← getAddressCredentials entry.credentials
  scAddressToString credentials.address "Auth entry credential address"

/-- Change the address credentials in place, in whichever arm they stand. -/
def SorobanCredentials.modifyAddress (f : SorobanAddressCredentials → SorobanAddressCredentials) :
    SorobanCredentials → SorobanCredentials
  | sourceAccount => sourceAccount
  | address c => address (f c)
  | addressV2 c => addressV2 (f c)
  | addressWithDelegates c => addressWithDelegates (f c)

namespace SorobanAuthorizationEntry

/-- Write the expiration ledger of the entry's address credentials. -/
def setExpiration (entry : SorobanAuthorizationEntry) (ledger : UInt32) :
    SorobanAuthorizationEntry :=
  { entry with
    credentials := entry.credentials.modifyAddress
      fun c => { c with signatureExpirationLedger := ledger } }

/-- Write the signature of the entry's address credentials. -/
def setSignature (entry : SorobanAuthorizationEntry) (signature : ScVal) :
    SorobanAuthorizationEntry :=
  { entry with
    credentials := entry.credentials.modifyAddress fun c => { c with signature } }

/-- The address credentials of an entry. -/
def addressCredentials? (entry : SorobanAuthorizationEntry) : Option SorobanAddressCredentials :=
  entry.credentials.addressCredentials?

@[simp] theorem setExpiration_rootInvocation (entry : SorobanAuthorizationEntry) (l : UInt32) :
    (entry.setExpiration l).rootInvocation = entry.rootInvocation := rfl

@[simp] theorem setSignature_rootInvocation (entry : SorobanAuthorizationEntry) (v : ScVal) :
    (entry.setSignature v).rootInvocation = entry.rootInvocation := rfl

@[simp] theorem setExpiration_addressCredentials? (entry : SorobanAuthorizationEntry) (l : UInt32) :
    (entry.setExpiration l).addressCredentials? =
      entry.addressCredentials?.map fun c => { c with signatureExpirationLedger := l } := by
  obtain ⟨credentials, root⟩ := entry
  cases credentials <;> rfl

@[simp] theorem setSignature_addressCredentials? (entry : SorobanAuthorizationEntry) (v : ScVal) :
    (entry.setSignature v).addressCredentials? =
      entry.addressCredentials?.map fun c => { c with signature := v } := by
  obtain ⟨credentials, root⟩ := entry
  cases credentials <;> rfl

@[simp] theorem setExpiration_setSignature (entry : SorobanAuthorizationEntry) (l : UInt32)
    (v : ScVal) : (entry.setSignature v).setExpiration l = (entry.setExpiration l).setSignature v := by
  obtain ⟨credentials, root⟩ := entry
  cases credentials <;> rfl

@[simp] theorem setExpiration_setExpiration (entry : SorobanAuthorizationEntry) (l l' : UInt32) :
    (entry.setExpiration l).setExpiration l' = entry.setExpiration l' := by
  obtain ⟨credentials, root⟩ := entry
  cases credentials <;> rfl

@[simp] theorem setSignature_setSignature (entry : SorobanAuthorizationEntry) (v v' : ScVal) :
    (entry.setSignature v).setSignature v' = entry.setSignature v' := by
  obtain ⟨credentials, root⟩ := entry
  cases credentials <;> rfl

/-- Writing the expiration an entry already has changes nothing. -/
theorem setExpiration_self {entry : SorobanAuthorizationEntry} {c : SorobanAddressCredentials}
    (h : entry.addressCredentials? = some c) :
    entry.setExpiration c.signatureExpirationLedger = entry := by
  obtain ⟨credentials, root⟩ := entry
  cases credentials <;>
    simp_all [addressCredentials?, SorobanCredentials.addressCredentials?, setExpiration,
      SorobanCredentials.modifyAddress]

end SorobanAuthorizationEntry

theorem getAddressCredentials_eq_ok {entry : SorobanAuthorizationEntry}
    {c : SorobanAddressCredentials} :
    getAddressCredentials entry.credentials = .ok c ↔ entry.addressCredentials? = some c := by
  unfold getAddressCredentials SorobanAuthorizationEntry.addressCredentials?
  cases h : entry.credentials.addressCredentials? <;> simp

theorem getAuthEntryAddress_eq_ok {entry : SorobanAuthorizationEntry} {address : String} :
    getAuthEntryAddress entry = .ok address ↔
      ∃ c, entry.addressCredentials? = some c ∧ c.address.toStrkey = some address := by
  unfold getAuthEntryAddress
  cases h : getAddressCredentials entry.credentials with
  | error e =>
    refine ⟨fun hc => (nomatch hc), fun ⟨c, hc, _⟩ => ?_⟩
    rw [getAddressCredentials_eq_ok.mpr hc] at h
    exact nomatch h
  | ok c =>
    rw [getAddressCredentials_eq_ok] at h
    show scAddressToString c.address _ = .ok address ↔ _
    rw [scAddressToString_eq_ok, h]
    simp

@[simp] theorem getAuthEntryAddress_setExpiration (entry : SorobanAuthorizationEntry)
    (l : UInt32) : getAuthEntryAddress (entry.setExpiration l) = getAuthEntryAddress entry := by
  obtain ⟨credentials, root⟩ := entry
  cases credentials <;> rfl

@[simp] theorem getAuthEntryAddress_setSignature (entry : SorobanAuthorizationEntry)
    (v : ScVal) : getAuthEntryAddress (entry.setSignature v) = getAuthEntryAddress entry := by
  obtain ⟨credentials, root⟩ := entry
  cases credentials <;> rfl

/-! ## Expiration ledgers -/

/-- The expiration ledger of a signature: a finite number, rounded up, that fits in 32 bits. -/
def normalizeSignatureExpirationLedger (expiration : JsNumber) : Except JsError UInt32 :=
  match expiration with
  | .finite value =>
    if value < 0 then .error (JsError.plain "Signature expiration ledger must fit in u32")
    else if 0xffffffff < ⌈value⌉ then
      .error (JsError.plain "Signature expiration ledger must fit in u32")
    else .ok (UInt32.ofNat ⌈value⌉.toNat)
  | _ => .error (JsError.plain "Signature expiration ledger must be a finite number")

/-- Normalizing the number of a ledger gives the ledger. -/
@[simp] theorem normalizeSignatureExpirationLedger_ofU32 (n : UInt32) :
    normalizeSignatureExpirationLedger (.ofU32 n) = .ok n := by
  have h := n.toNat_lt
  simp only [JsNumber.ofU32, normalizeSignatureExpirationLedger, Int.ceil_natCast]
  rw [if_neg (not_lt.mpr (Nat.cast_nonneg _)), if_neg (by omega)]
  simp

/-! ## Preimages -/

/-- The network id of a passphrase. -/
def networkId (networkPassphrase : String) : BytesN 32 :=
  hash (utf8Encode networkPassphrase)

/-- The SDK's authorization preimage: address-bound unless the credentials are V1. -/
def buildAuthorizationEntryPreimage (entry : SorobanAuthorizationEntry) (expiration : UInt32)
    (networkPassphrase : String) : Except JsError HashIdPreimage :=
  match entry.credentials with
  | .sourceAccount => .error (JsError.plain
      "Soroban credentials do not contain address credentials: sorobanCredentialsSourceAccount")
  | .address c =>
    .ok (.sorobanAuthorization (networkId networkPassphrase) c.nonce expiration
      entry.rootInvocation)
  | .addressV2 c | .addressWithDelegates c =>
    .ok (.sorobanAuthorizationWithAddress (networkId networkPassphrase) c.nonce expiration
      c.address entry.rootInvocation)

/-- Write the normalized expiration into the entry and build its preimage. -/
def buildSignaturePreimage (networkPassphrase : String) (entry : SorobanAuthorizationEntry)
    (expiration : JsNumber) : Except JsError (SorobanAuthorizationEntry × HashIdPreimage) := do
  let _ ← getAddressCredentials entry.credentials
  let normalizedExpiration ← normalizeSignatureExpirationLedger expiration
  let entry := entry.setExpiration normalizedExpiration
  let preimage ← buildAuthorizationEntryPreimage entry normalizedExpiration networkPassphrase
  return (entry, preimage)

def buildSignaturePayload (networkPassphrase : String) (entry : SorobanAuthorizationEntry)
    (expiration : JsNumber) : Except JsError (SorobanAuthorizationEntry × BytesN 32) := do
  let (entry, preimage) ← buildSignaturePreimage networkPassphrase entry expiration
  return (entry, hash preimage.toXDR)

/-! ## Sample values -/

/-- A call of a token contract. -/
def sampleInvocation : SorobanAuthorizedInvocation :=
  .node (.contractFn
    { contractAddress := sampleContract 9
      functionName := utf8Encode "transfer"
      args := [] }) []

/-- The credentials of a wallet, unsigned. -/
def sampleCredentials : SorobanAddressCredentials :=
  { address := sampleContract 7
    nonce := 5
    signatureExpirationLedger := 100
    signature := .void }

/-- An unsigned V1 entry of a wallet. -/
def sampleEntry : SorobanAuthorizationEntry :=
  { credentials := .address sampleCredentials, rootInvocation := sampleInvocation }

end SmartAccountKit
