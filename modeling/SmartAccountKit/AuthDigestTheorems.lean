import SmartAccountKit.AuthDigest
import SmartAccountKit.AuthPayloadTheorems

/-!
# Theorems about authorization digests

When a digest can be computed, what it is then, and what it does not depend on.
-/

namespace SmartAccountKit
open Lib

/-! ## The digest of an entry -/

/-- The preimage of an entry with the address credentials `c`, at an expiration ledger. -/
def signaturePreimage (networkPassphrase : String) (entry : SorobanAuthorizationEntry)
    (c : SorobanAddressCredentials) (ledger : UInt32) : HashIdPreimage :=
  match entry.credentials with
  | .address _ =>
    .sorobanAuthorization (networkId networkPassphrase) c.nonce ledger entry.rootInvocation
  | _ =>
    .sorobanAuthorizationWithAddress (networkId networkPassphrase) c.nonce ledger c.address
      entry.rootInvocation

/-- The digest material of an entry with the address credentials `c`. -/
def entryAuthDigest (networkPassphrase : String) (entry : SorobanAuthorizationEntry)
    (c : SorobanAddressCredentials) (ledger : UInt32) (ids : List UInt32)
    (scheme : AuthDigestScheme) : EntryAuthDigest :=
  let signaturePayload := hash (signaturePreimage networkPassphrase entry c ledger).toXDR
  match scheme with
  | .legacyConcat =>
    let authDigest := hash (signaturePayload.1 ++ (ruleIdsScVal ids).toXDR)
    { signaturePayload, authDigest, delegatedAuthArgs := [.bytes authDigest.1] }
  | .preimageV1 =>
    let preimage := authDigestPreimage c.address signaturePayload.1 ids
    { signaturePayload, authDigest := hash preimage.toXDR, delegatedAuthArgs := [preimage] }

theorem buildSignaturePreimage_eq_ok {networkPassphrase : String}
    {entry entry' : SorobanAuthorizationEntry} {expiration : JsNumber} {preimage : HashIdPreimage} :
    buildSignaturePreimage networkPassphrase entry expiration = .ok (entry', preimage) ↔
      ∃ c ledger, entry.addressCredentials? = some c ∧
        normalizeSignatureExpirationLedger expiration = .ok ledger ∧
        entry' = entry.setExpiration ledger ∧
        preimage = signaturePreimage networkPassphrase entry c ledger := by
  have hbuild : ∀ c ledger, entry.addressCredentials? = some c →
      buildAuthorizationEntryPreimage (entry.setExpiration ledger) ledger networkPassphrase =
        .ok (signaturePreimage networkPassphrase entry c ledger) := by
    intro c ledger hc
    obtain ⟨credentials, root⟩ := entry
    cases credentials <;> cases hc <;> rfl
  simp only [buildSignaturePreimage, except_bind_eq_ok, except_pure_eq_ok,
    getAddressCredentials_eq_ok, Prod.mk.injEq]
  constructor
  · rintro ⟨c, hc, ledger, hledger, preimage', hpreimage', rfl, rfl⟩
    rw [hbuild c ledger hc] at hpreimage'
    exact ⟨c, ledger, hc, hledger, rfl, (Except.ok.inj hpreimage').symm⟩
  · rintro ⟨c, ledger, hc, hledger, rfl, rfl⟩
    exact ⟨c, hc, ledger, hledger, _, hbuild c ledger hc, rfl, rfl⟩

theorem buildSignaturePayload_eq_ok {networkPassphrase : String}
    {entry entry' : SorobanAuthorizationEntry} {expiration : JsNumber} {payload : BytesN 32} :
    buildSignaturePayload networkPassphrase entry expiration = .ok (entry', payload) ↔
      ∃ c ledger, entry.addressCredentials? = some c ∧
        normalizeSignatureExpirationLedger expiration = .ok ledger ∧
        entry' = entry.setExpiration ledger ∧
        payload = hash (signaturePreimage networkPassphrase entry c ledger).toXDR := by
  simp only [buildSignaturePayload, except_bind_eq_ok, except_pure_eq_ok, Prod.exists,
    Prod.mk.injEq, buildSignaturePreimage_eq_ok]
  constructor
  · rintro ⟨_, _, ⟨c, ledger, hc, hledger, rfl, rfl⟩, rfl, rfl⟩
    exact ⟨c, ledger, hc, hledger, rfl, rfl⟩
  · rintro ⟨c, ledger, hc, hledger, rfl, rfl⟩
    exact ⟨_, _, ⟨c, ledger, hc, hledger, rfl, rfl⟩, rfl, rfl⟩

theorem buildLegacyAuthDigest_eq_ok {payload : Bytes} {ids : List JsNumber} {d : BytesN 32} :
    buildLegacyAuthDigest payload ids = .ok d ↔
      ∃ us : List UInt32, ids = us.map JsNumber.ofU32 ∧
        hash (payload ++ (ruleIdsScVal us).toXDR) = d := by
  simp only [buildLegacyAuthDigest, except_bind_eq_ok, except_pure_eq_ok, ruleIdsToU32_eq_ok]

theorem buildAuthDigestPreimage_eq_ok {account : String} {payload : BytesN 32}
    {ids : List JsNumber} {preimage : ScVal} :
    buildAuthDigestPreimage account payload.1 ids = .ok preimage ↔
      ∃ a, a.toStrkey = some account ∧ ∃ us : List UInt32, ids = us.map JsNumber.ofU32 ∧
        authDigestPreimage a payload.1 us = preimage := by
  rw [buildAuthDigestPreimage, throwIf_bind_eq_ok, and_iff_right (not_not.mpr payload.2)]
  simp only [except_bind_eq_ok, except_pure_eq_ok, ruleIdsToU32_eq_ok, toScAddress_eq_ok]

/-- A digest can be computed from address credentials, a valid expiration and 32-bit rule
ids, and for `preimage-v1` from an address with a strkey; it is then `entryAuthDigest`. -/
theorem computeEntryAuthDigest_eq_ok {networkPassphrase : String}
    {entry entry' : SorobanAuthorizationEntry} {expiration : JsNumber} {ids : List JsNumber}
    {scheme : AuthDigestScheme} {d : EntryAuthDigest} :
    computeEntryAuthDigest networkPassphrase entry expiration ids scheme = .ok (entry', d) ↔
      ∃ c ledger us, entry.addressCredentials? = some c ∧
        normalizeSignatureExpirationLedger expiration = .ok ledger ∧
        ids = us.map JsNumber.ofU32 ∧
        (scheme = .preimageV1 → c.address.toStrkey.isSome) ∧
        entry' = entry.setExpiration ledger ∧
        d = entryAuthDigest networkPassphrase entry c ledger us scheme := by
  cases scheme with
  | legacyConcat =>
    simp only [computeEntryAuthDigest, except_bind_eq_ok, Prod.exists, buildSignaturePayload_eq_ok,
      buildLegacyAuthDigest_eq_ok, except_pure_eq_ok, Prod.mk.injEq]
    constructor
    · rintro ⟨_, _, ⟨c, ledger, hc, hledger, rfl, rfl⟩, _, ⟨us, hus, rfl⟩, rfl, rfl⟩
      exact ⟨c, ledger, us, hc, hledger, hus, fun h => (by cases h), rfl, rfl⟩
    · rintro ⟨c, ledger, us, hc, hledger, hus, -, rfl, rfl⟩
      exact ⟨_, _, ⟨c, ledger, hc, hledger, rfl, rfl⟩, _, ⟨us, hus, rfl⟩, rfl, rfl⟩
  | preimageV1 =>
    simp only [computeEntryAuthDigest, except_bind_eq_ok, Prod.exists, buildSignaturePayload_eq_ok,
      buildAuthDigestPreimage_eq_ok, except_pure_eq_ok, Prod.mk.injEq]
    constructor
    · rintro ⟨_, _, ⟨c, ledger, hc, hledger, rfl, rfl⟩, account, hacc, _,
        ⟨a, ha, us, hus, rfl⟩, rfl, rfl⟩
      rw [getAuthEntryAddress_setExpiration, getAuthEntryAddress_eq_ok] at hacc
      obtain ⟨c', hc', hacc⟩ := hacc
      rw [hc, Option.some.injEq] at hc'
      subst hc'
      rw [ScAddress.toStrkey_inj ha hacc]
      exact ⟨c, ledger, us, hc, hledger, hus, fun _ => by rw [hacc]; rfl, rfl, rfl⟩
    · rintro ⟨c, ledger, us, hc, hledger, hus, haddr, rfl, rfl⟩
      obtain ⟨account, hacc⟩ := Option.isSome_iff_exists.mp (haddr trivial)
      refine ⟨_, _, ⟨c, ledger, hc, hledger, rfl, rfl⟩, account, ?_, _,
        ⟨c.address, hacc, us, hus, rfl⟩, rfl, rfl⟩
      rw [getAuthEntryAddress_setExpiration, getAuthEntryAddress_eq_ok]
      exact ⟨c, hc, hacc⟩

/-! ## What the digest ignores and what it binds -/

/-- The digest does not depend on the signature that stands in the entry. -/
theorem computeEntryAuthDigest_setSignature (networkPassphrase : String)
    (entry : SorobanAuthorizationEntry) (v : ScVal) (expiration : JsNumber)
    (ids : List JsNumber) (scheme : AuthDigestScheme) :
    computeEntryAuthDigest networkPassphrase (entry.setSignature v) expiration ids scheme =
      (computeEntryAuthDigest networkPassphrase entry expiration ids scheme).map
        fun r => (r.1.setSignature v, r.2) := by
  have hpayload : buildSignaturePayload networkPassphrase (entry.setSignature v) expiration =
      (buildSignaturePayload networkPassphrase entry expiration).map
        fun r => (r.1.setSignature v, r.2) := by
    obtain ⟨credentials, root⟩ := entry
    unfold buildSignaturePayload buildSignaturePreimage
    cases normalizeSignatureExpirationLedger expiration <;> cases credentials <;> rfl
  unfold computeEntryAuthDigest
  rw [hpayload]
  cases buildSignaturePayload networkPassphrase entry expiration with
  | error e => rfl
  | ok r =>
    obtain ⟨authEntry, payload⟩ := r
    simp only [Except.map, except_ok_bind]
    cases scheme with
    | legacyConcat => cases buildLegacyAuthDigest payload.1 ids <;> rfl
    | preimageV1 =>
      simp only [getAuthEntryAddress_setSignature]
      cases getAuthEntryAddress authEntry with
      | error _ => rfl
      | ok account =>
        simp only [except_ok_bind]
        cases buildAuthDigestPreimage account payload.1 ids <;> rfl

/-- The digest does not depend on the expiration that stands in the entry. -/
theorem computeEntryAuthDigest_setExpiration (networkPassphrase : String)
    (entry : SorobanAuthorizationEntry) (l : UInt32) (expiration : JsNumber)
    (ids : List JsNumber) (scheme : AuthDigestScheme) :
    computeEntryAuthDigest networkPassphrase (entry.setExpiration l) expiration ids scheme =
      computeEntryAuthDigest networkPassphrase entry expiration ids scheme := by
  have hpayload : buildSignaturePayload networkPassphrase (entry.setExpiration l) expiration =
      buildSignaturePayload networkPassphrase entry expiration := by
    obtain ⟨credentials, root⟩ := entry
    unfold buildSignaturePayload buildSignaturePreimage
    cases normalizeSignatureExpirationLedger expiration <;> cases credentials <;> rfl
  unfold computeEntryAuthDigest
  rw [hpayload]

/-- Expirations that normalize to one ledger give one digest. -/
theorem computeEntryAuthDigest_normalized {networkPassphrase : String}
    {entry : SorobanAuthorizationEntry} {expiration : JsNumber} {ledger : UInt32}
    {ids : List JsNumber} {scheme : AuthDigestScheme}
    (h : normalizeSignatureExpirationLedger expiration = .ok ledger) :
    computeEntryAuthDigest networkPassphrase entry (.ofU32 ledger) ids scheme =
      computeEntryAuthDigest networkPassphrase entry expiration ids scheme := by
  unfold computeEntryAuthDigest buildSignaturePayload buildSignaturePreimage
  rw [normalizeSignatureExpirationLedger_ofU32, h]

/-- The byte string whose hash is the digest, given the preimage's encoding. -/
def digestHashInput (c : SorobanAddressCredentials) (preimageXDR : Bytes) (ids : List UInt32) :
    AuthDigestScheme → Bytes
  | .legacyConcat => sha256 preimageXDR ++ (ruleIdsScVal ids).toXDR
  | .preimageV1 => (authDigestPreimage c.address (sha256 preimageXDR) ids).toXDR

/-- The byte strings that computing a digest hashes, besides the passphrase. -/
def digestHashInputs (networkPassphrase : String) (entry : SorobanAuthorizationEntry)
    (c : SorobanAddressCredentials) (ledger : UInt32) (ids : List UInt32)
    (scheme : AuthDigestScheme) : List Bytes :=
  let preimageXDR := (signaturePreimage networkPassphrase entry c ledger).toXDR
  [preimageXDR, digestHashInput c preimageXDR ids scheme]

theorem entryAuthDigest_authDigest (networkPassphrase : String)
    (entry : SorobanAuthorizationEntry) (c : SorobanAddressCredentials) (ledger : UInt32)
    (ids : List UInt32) (scheme : AuthDigestScheme) :
    (entryAuthDigest networkPassphrase entry c ledger ids scheme).authDigest =
      hash (digestHashInput c (signaturePreimage networkPassphrase entry c ledger).toXDR ids
        scheme) := by
  cases scheme <;> rfl

theorem ruleIdsScVal_sized {ids : List UInt32} (h : ids.length < 2 ^ 32) :
    (ruleIdsScVal ids).Sized := by
  refine ⟨by simpa using h, ScVal.itemsSized_iff.mpr fun v hv => ?_⟩
  obtain ⟨u, -, rfl⟩ := List.mem_map.mp hv
  trivial

theorem ruleIdsScVal_inj {ids ids' : List UInt32} (h : ruleIdsScVal ids = ruleIdsScVal ids') :
    ids = ids' := by
  simp only [ruleIdsScVal, ScVal.vec.injEq, Option.some.injEq] at h
  exact List.map_injective_iff.mpr (fun a b hab => ScVal.u32.inj hab) h

theorem authDigestPreimage_sized (a : ScAddress) (payload : BytesN 32) {ids : List UInt32}
    (h : ids.length < 2 ^ 32) : (authDigestPreimage a payload.1 ids).Sized := by
  have hpayload : payload.1.length < 2 ^ 32 := by rw [payload.2]; decide
  have hsym : ∀ name : String, (utf8Encode name).length < 2 ^ 32 → (scvSymbol name).Sized :=
    fun name hname => hname
  refine ⟨by simp, ?_⟩
  exact ⟨hsym _ (by decide), trivial, hsym _ (by decide), ruleIdsScVal_sized h,
    hsym _ (by decide), hpayload, trivial⟩

theorem signaturePreimage_v1 {net : String} {entry : SorobanAuthorizationEntry}
    {c x : SorobanAddressCredentials} {ledger : UInt32} (h : entry.credentials = .address x) :
    signaturePreimage net entry c ledger =
      .sorobanAuthorization (networkId net) c.nonce ledger entry.rootInvocation := by
  rw [signaturePreimage, h]

theorem signaturePreimage_v2 {net : String} {entry : SorobanAuthorizationEntry}
    {c : SorobanAddressCredentials} {ledger : UInt32}
    (h : ∀ x, entry.credentials ≠ .address x) :
    signaturePreimage net entry c ledger =
      .sorobanAuthorizationWithAddress (networkId net) c.nonce ledger c.address
        entry.rootInvocation := by
  unfold signaturePreimage
  split
  · exact absurd ‹_› (h _)
  · rfl

/-- Preimages with one encoding come from one network id, nonce, ledger and invocation, and
from one address unless both are V1. -/
theorem signaturePreimage_binds {net net' : String} {entry entry' : SorobanAuthorizationEntry}
    {c c' : SorobanAddressCredentials} {ledger ledger' : UInt32}
    (hsize : entry.rootInvocation.Sized) (hsize' : entry'.rootInvocation.Sized)
    (h : (signaturePreimage net entry c ledger).toXDR =
      (signaturePreimage net' entry' c' ledger').toXDR) :
    networkId net = networkId net' ∧ c.nonce = c'.nonce ∧ ledger = ledger' ∧
      entry.rootInvocation = entry'.rootInvocation ∧
      ((∀ x, entry.credentials ≠ .address x) ∨ (∀ x, entry'.credentials ≠ .address x) →
        c.address = c'.address) := by
  have hsized : ∀ (e : SorobanAuthorizationEntry) (net : String) (c : SorobanAddressCredentials)
      (l : UInt32), e.rootInvocation.Sized → (signaturePreimage net e c l).Sized := by
    intro e net c l he
    unfold signaturePreimage
    split <;> exact he
  have heq := HashIdPreimage.toXDR_inj (hsized entry net c ledger hsize)
    (hsized entry' net' c' ledger' hsize') h
  by_cases hv1 : ∃ x, entry.credentials = .address x <;>
    by_cases hv1' : ∃ x, entry'.credentials = .address x
  · obtain ⟨x, hx⟩ := hv1
    obtain ⟨x', hx'⟩ := hv1'
    rw [signaturePreimage_v1 hx, signaturePreimage_v1 hx',
      HashIdPreimage.sorobanAuthorization.injEq] at heq
    obtain ⟨hnet, hnonce, hledger, hroot⟩ := heq
    exact ⟨hnet, hnonce, hledger, hroot,
      fun hv2 => hv2.elim (fun hne => absurd hx (hne x)) (fun hne => absurd hx' (hne x'))⟩
  · obtain ⟨x, hx⟩ := hv1
    rw [signaturePreimage_v1 hx, signaturePreimage_v2 (not_exists.mp hv1')] at heq
    exact nomatch heq
  · obtain ⟨x', hx'⟩ := hv1'
    rw [signaturePreimage_v2 (not_exists.mp hv1), signaturePreimage_v1 hx'] at heq
    exact nomatch heq
  · rw [signaturePreimage_v2 (not_exists.mp hv1), signaturePreimage_v2 (not_exists.mp hv1'),
      HashIdPreimage.sorobanAuthorizationWithAddress.injEq] at heq
    obtain ⟨hnet, hnonce, hledger, haddress, hroot⟩ := heq
    exact ⟨hnet, hnonce, hledger, hroot, fun _ => haddress⟩

/-- Equal digests under one scheme come from equal preimages and rule ids, and for
`preimage-v1` from equal addresses. -/
theorem authDigest_binds_payload {net net' : String} {entry entry' : SorobanAuthorizationEntry}
    {c c' : SorobanAddressCredentials} {ledger ledger' : UInt32} {us us' : List UInt32}
    {scheme : AuthDigestScheme} (hus : us.length < 2 ^ 32) (hus' : us'.length < 2 ^ 32)
    (hinj : Set.InjOn sha256 { b | b ∈ digestHashInputs net entry c ledger us scheme ∨
      b ∈ digestHashInputs net' entry' c' ledger' us' scheme })
    (h : (entryAuthDigest net entry c ledger us scheme).authDigest =
      (entryAuthDigest net' entry' c' ledger' us' scheme).authDigest) :
    (signaturePreimage net entry c ledger).toXDR =
      (signaturePreimage net' entry' c' ledger').toXDR ∧ us = us' ∧
      (scheme = .preimageV1 → c.address = c'.address) := by
  rw [entryAuthDigest_authDigest, entryAuthDigest_authDigest] at h
  have houter := hinj (Or.inl (List.mem_cons_of_mem _ List.mem_cons_self))
    (Or.inr (List.mem_cons_of_mem _ List.mem_cons_self)) (Subtype.ext_iff.mp h)
  have hpreimage : sha256 (signaturePreimage net entry c ledger).toXDR =
      sha256 (signaturePreimage net' entry' c' ledger').toXDR →
      (signaturePreimage net entry c ledger).toXDR =
        (signaturePreimage net' entry' c' ledger').toXDR := fun hpay =>
    hinj (Or.inl List.mem_cons_self) (Or.inr List.mem_cons_self) hpay
  cases scheme with
  | legacyConcat =>
    -- the payload hash has a fixed length, so the concatenation splits
    obtain ⟨hpay, hids⟩ := append_inj_of_length (by simp) houter
    refine ⟨hpreimage hpay, ruleIdsScVal_inj ?_, fun h => nomatch h⟩
    exact ScVal.toXDR_selfDelimiting.inj (ruleIdsScVal_sized hus) (ruleIdsScVal_sized hus') hids
  | preimageV1 =>
    have heq := ScVal.toXDR_selfDelimiting.inj
      (authDigestPreimage_sized c.address (hash _) hus)
      (authDigestPreimage_sized c'.address (hash _) hus') houter
    simp only [authDigestPreimage, ScVal.map.injEq, Option.some.injEq, List.cons.injEq,
      Prod.mk.injEq, true_and, and_true, ScVal.address.injEq, ScVal.bytes.injEq] at heq
    obtain ⟨haddress, hids, hpay⟩ := heq
    exact ⟨hpreimage hpay, ruleIdsScVal_inj hids, fun _ => haddress⟩

/-- What a digest is computed over: a network, an entry with V1 or V2 address credentials, an
expiration and rule ids, with lists short enough for XDR. -/
structure DigestInput where
  networkPassphrase : String
  entry : SorobanAuthorizationEntry
  credentials : SorobanAddressCredentials
  expiration : JsNumber
  contextRuleIds : List JsNumber
  hasCredentials : entry.credentials = .address credentials ∨
    entry.credentials = .addressV2 credentials
  rootSized : entry.rootInvocation.Sized
  idsSized : contextRuleIds.length < 2 ^ 32

namespace DigestInput

/-- `computeEntryAuthDigest` of the input. -/
def digest (a : DigestInput) (scheme : AuthDigestScheme) : Except JsError EntryAuthDigest :=
  (computeEntryAuthDigest a.networkPassphrase a.entry a.expiration a.contextRuleIds scheme).map
    Prod.snd

/-- The byte strings hashed for the input's digest, besides the passphrase. -/
def hashed (a : DigestInput) (scheme : AuthDigestScheme) : Set Bytes :=
  { b | ∃ ledger us, normalizeSignatureExpirationLedger a.expiration = .ok ledger ∧
      a.contextRuleIds = us.map JsNumber.ofU32 ∧
      b ∈ digestHashInputs a.networkPassphrase a.entry a.credentials ledger us scheme }

/-- The input with another signature in the credentials. -/
def withSignature (a : DigestInput) (signature : ScVal) : DigestInput :=
  { a with
    entry := a.entry.setSignature signature
    credentials := { a.credentials with signature }
    hasCredentials := a.hasCredentials.imp
      (fun h => by rw [SorobanAuthorizationEntry.setSignature, h]; rfl)
      (fun h => by rw [SorobanAuthorizationEntry.setSignature, h]; rfl)
    rootSized := a.rootSized }

theorem addressCredentials?_eq (a : DigestInput) :
    a.entry.addressCredentials? = some a.credentials := by
  rw [SorobanAuthorizationEntry.addressCredentials?]
  rcases a.hasCredentials with h | h <;> rw [h] <;> rfl

/-- A digest that is computed is `entryAuthDigest` of a 32-bit ledger and 32-bit ids. -/
theorem digest_eq_ok {a : DigestInput} {scheme : AuthDigestScheme} {d : EntryAuthDigest}
    (h : a.digest scheme = .ok d) : ∃ ledger us,
      normalizeSignatureExpirationLedger a.expiration = .ok ledger ∧
      a.contextRuleIds = us.map JsNumber.ofU32 ∧
      d = entryAuthDigest a.networkPassphrase a.entry a.credentials ledger us scheme := by
  obtain ⟨⟨entry', d'⟩, hcompute, rfl⟩ := except_map_eq_ok.mp h
  obtain ⟨c, ledger, us, hc, hledger, hus, -, -, rfl⟩ := computeEntryAuthDigest_eq_ok.mp hcompute
  rw [a.addressCredentials?_eq, Option.some.injEq] at hc
  subst hc
  exact ⟨ledger, us, hledger, hus, rfl⟩

end DigestInput

/-- The digest ignores the signature of the credentials. Where SHA-256 does not collide on the
strings hashed for two inputs, equal digests come from equal network ids, nonces, expirations,
invocations and rule ids, and from equal accounts if the scheme or the credentials bind them. -/
theorem digest_binds (scheme : AuthDigestScheme) (a : DigestInput) :
    (∀ signature, (a.withSignature signature).digest scheme = a.digest scheme) ∧
    ∀ (b : DigestInput) (da db : EntryAuthDigest), a.digest scheme = .ok da →
      b.digest scheme = .ok db → Set.InjOn sha256 (a.hashed scheme ∪ b.hashed scheme) →
      da.authDigest = db.authDigest →
      networkId a.networkPassphrase = networkId b.networkPassphrase ∧
      a.credentials.nonce = b.credentials.nonce ∧
      normalizeSignatureExpirationLedger a.expiration =
        normalizeSignatureExpirationLedger b.expiration ∧
      a.entry.rootInvocation = b.entry.rootInvocation ∧
      a.contextRuleIds = b.contextRuleIds ∧
      (scheme = .preimageV1 ∨ a.entry.credentials = .addressV2 a.credentials ∨
          b.entry.credentials = .addressV2 b.credentials →
        a.credentials.address = b.credentials.address) := by
  refine ⟨fun signature => ?_, fun b da db hda hdb hinj heq => ?_⟩
  · rw [DigestInput.digest, DigestInput.digest, DigestInput.withSignature,
      computeEntryAuthDigest_setSignature]
    cases computeEntryAuthDigest a.networkPassphrase a.entry a.expiration a.contextRuleIds scheme <;>
      rfl
  · obtain ⟨la, ua, hla, hua, rfl⟩ := DigestInput.digest_eq_ok hda
    obtain ⟨lb, ub, hlb, hub, rfl⟩ := DigestInput.digest_eq_ok hdb
    have hlena : ua.length < 2 ^ 32 := by simpa [hua] using a.idsSized
    have hlenb : ub.length < 2 ^ 32 := by simpa [hub] using b.idsSized
    have hsub : { x | x ∈ digestHashInputs a.networkPassphrase a.entry a.credentials la ua scheme ∨
        x ∈ digestHashInputs b.networkPassphrase b.entry b.credentials lb ub scheme } ⊆
          a.hashed scheme ∪ b.hashed scheme :=
      fun x hx => hx.imp (fun h => ⟨la, ua, hla, hua, h⟩) (fun h => ⟨lb, ub, hlb, hub, h⟩)
    obtain ⟨hpreimage, rfl, haddress⟩ := authDigest_binds_payload hlena hlenb (hinj.mono hsub) heq
    obtain ⟨hnet, hnonce, rfl, hroot, hv2⟩ :=
      signaturePreimage_binds a.rootSized b.rootSized hpreimage
    refine ⟨hnet, hnonce, hla.trans hlb.symm, hroot, hua.trans hub.symm, ?_⟩
    rintro (hscheme | hva | hvb)
    · exact haddress hscheme
    · exact hv2 (Or.inl fun x hx => by rw [hva] at hx; exact nomatch hx)
    · exact hv2 (Or.inr fun x hx => by rw [hvb] at hx; exact nomatch hx)

/-- The digest of a sample entry at its own expiration. -/
def sampleDigestInput : DigestInput :=
  { networkPassphrase := "Test"
    entry := sampleEntry
    credentials := sampleCredentials
    expiration := .ofU32 100
    contextRuleIds := [.ofU32 1]
    hasCredentials := Or.inl rfl
    rootSized := ⟨⟨by decide, by decide, by simp⟩, by decide, trivial⟩
    idsSized := by decide }

theorem sampleDigestInput_injOn (v : ScVal) : Set.InjOn sha256
    (sampleDigestInput.hashed .preimageV1 ∪
      (sampleDigestInput.withSignature v).hashed .preimageV1) := by
  have hne : sha256 (signaturePreimage "Test" sampleEntry sampleCredentials 100).toXDR ≠
      sha256 (digestHashInput sampleCredentials
        (signaturePreimage "Test" sampleEntry sampleCredentials 100).toXDR [1] .preimageV1) := by
    set_option maxRecDepth 20000 in decide
  have hmem : ∀ x ∈ sampleDigestInput.hashed .preimageV1 ∪
      (sampleDigestInput.withSignature v).hashed .preimageV1,
      x ∈ digestHashInputs "Test" sampleEntry sampleCredentials 100 [1] .preimageV1 := by
    rintro x (⟨ledger, us, hledger, hus, hx⟩ | ⟨ledger, us, hledger, hus, hx⟩) <;>
    · have hledger' : ledger = 100 :=
        Except.ok.inj (hledger.symm.trans (normalizeSignatureExpirationLedger_ofU32 100))
      have hus' : us = [1] := (List.map_injective_iff.mpr fun _ _ => JsNumber.ofU32_inj) hus.symm
      subst hledger' hus'
      exact hx
  intro x hx y hy hxy
  have hx' := hmem x hx
  have hy' := hmem y hy
  simp only [digestHashInputs, List.mem_cons, List.not_mem_nil, or_false] at hx' hy'
  rcases hx' with rfl | rfl <;> rcases hy' with rfl | rfl
  · rfl
  · exact absurd hxy hne
  · exact absurd hxy.symm hne
  · rfl

/-- An entry signed anew keeps its digest, and the digest still binds its fields. -/
theorem digest_binds_sample :
    (sampleDigestInput.withSignature (.u32 1)).digest .preimageV1 =
        sampleDigestInput.digest .preimageV1 ∧
      sampleCredentials.nonce = (sampleDigestInput.withSignature (.u32 1)).credentials.nonce := by
  have hcompute : ∃ d, sampleDigestInput.digest .preimageV1 = .ok d :=
    ⟨_, except_map_eq_ok.mpr ⟨_, computeEntryAuthDigest_eq_ok.mpr
      ⟨sampleCredentials, 100, [1], rfl, normalizeSignatureExpirationLedger_ofU32 100, rfl,
        fun _ => rfl, rfl, rfl⟩, rfl⟩⟩
  obtain ⟨d, hd⟩ := hcompute
  obtain ⟨hsame, hbinds⟩ := digest_binds .preimageV1 sampleDigestInput
  have hd' := hsame (.u32 1)
  rw [hd] at hd'
  exact ⟨hsame (.u32 1), (hbinds _ d d hd hd' (sampleDigestInput_injOn _) rfl).2.1⟩

end SmartAccountKit
