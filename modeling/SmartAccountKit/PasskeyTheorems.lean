import SmartAccountKit.AuthDigestTheorems
import SmartAccountKit.Passkey

/-!
# Theorems about passkey signing

What a passkey run has checked when it asks the authenticator, what it returns,
and when it keeps the signatures that an entry already has.
-/

namespace SmartAccountKit
open Lib

/-! ## Services -/

theorem readContextRule_services (id : JsNumber) : UsesServices (readContextRule id) := by
  refine Program.exchanges_ofExcept_bind fun _ _ => Program.exchanges_await rfl fun reply hok => ?_
  cases reply with
  | ok rule => trivial
  | error e => exact nomatch hok

theorem findWebAuthnSignerInRules_services (ids : List JsNumber) (credentialId : Bytes) :
    UsesServices (findWebAuthnSignerInRules ids credentialId) := by
  refine Program.exchanges_bind (Program.exchanges_forEach_of_body fun id _ found => ?_)
    fun found _ _ => ?_
  · cases found with
    | some _ => exact Program.exchanges_done
    | none =>
      exact Program.exchanges_bind (readContextRule_services id) fun _ _ _ => Program.exchanges_done
  · cases found <;> exact Program.exchanges_done

theorem calculateExpiration_services (config : KitConfig) :
    UsesServices config.calculateExpiration :=
  Program.exchanges_bind (Program.exchanges_await rfl fun _ hok => hok) fun _ _ _ =>
    Program.exchanges_done

theorem resolveAuthDigestScheme_services (config : KitConfig) (contractId : String) :
    UsesServices (config.resolveAuthDigestScheme contractId) :=
  Program.exchanges_bind (Program.exchanges_await rfl fun _ hok => hok) fun _ _ _ =>
    Program.exchanges_done

theorem passkeyExpiration_services (config : KitConfig) (requested : Option JsNumber)
    (existing : UInt32) : UsesServices (passkeyExpiration config requested existing) := by
  refine Program.exchanges_bind ?_ fun _ _ _ => Program.exchanges_done
  unfold requestedExpiration
  cases requested with
  | some _ => exact Program.exchanges_done
  | none =>
    dsimp only
    split_ifs
    · exact Program.exchanges_bind (calculateExpiration_services config) fun _ _ _ =>
        Program.exchanges_done
    · exact Program.exchanges_done

theorem passkeySigner_services (options : SignAuthEntryOptions) (ids : List JsNumber)
    (credentialId : String) : UsesServices (passkeySigner options ids credentialId) := by
  unfold passkeySigner
  cases options.signer with
  | some _ => exact Program.exchanges_done
  | none =>
    exact Program.exchanges_bind (findWebAuthnSignerInRules_services ids _) fun _ _ _ =>
      Program.exchanges_done

theorem passkeyScheme_services (config : KitConfig) (options : SignAuthEntryOptions)
    (contractId : String) : UsesServices (passkeyScheme config options contractId) := by
  unfold passkeyScheme
  cases options.authDigestScheme with
  | some _ => exact Program.exchanges_done
  | none => exact resolveAuthDigestScheme_services config contractId

/-! ## Preparing an entry -/

/-- The expiration that a run signs for: the requested one, that of the entry, or one computed
from the latest ledger, which the run then reads first. -/
def SelectedExpiration (config : KitConfig) (requested : Option JsNumber) (existing : UInt32)
    (t : History Environment) (expiration : UInt32) : Prop :=
  match requested with
  | some requested => normalizeSignatureExpirationLedger requested = .ok expiration
  | none =>
    (existing ≠ 0 ∧ expiration = existing) ∨
      existing = 0 ∧ ∃ (sequence : UInt32) (t' : History Environment),
        t = ⟨.getLatestLedger, .ok sequence⟩ :: t' ∧
          expiration.toNat = min 0xffffffff (sequence.toNat + config.signatureExpirationLedgers)

theorem SelectedExpiration.append {config : KitConfig} {requested : Option JsNumber}
    {existing expiration : UInt32} {t : History Environment}
    (h : SelectedExpiration config requested existing t expiration) (t' : History Environment) :
    SelectedExpiration config requested existing (t ++ t') expiration := by
  cases requested with
  | some requested => exact h
  | none =>
    refine h.imp_right fun ⟨hzero, sequence, rest, ht, hexpiration⟩ => ?_
    exact ⟨hzero, sequence, rest ++ t', by rw [ht]; rfl, hexpiration⟩

theorem normalizeSignatureExpirationLedger_ofNat {n : ℕ} (h : n < 2 ^ 32) :
    normalizeSignatureExpirationLedger (.ofNat n) = .ok (UInt32.ofNat n) := by
  have hn : JsNumber.ofNat n = .ofU32 (UInt32.ofNat n) := by
    rw [JsNumber.ofNat, JsNumber.ofU32, UInt32.toNat_ofNat_of_lt' h]
  rw [hn, normalizeSignatureExpirationLedger_ofU32]

theorem run_passkeyExpiration {config : KitConfig} {requested : Option JsNumber}
    {existing expiration : UInt32} {t : History Environment}
    (hrun : Program.Run (passkeyExpiration config requested existing) t (.ok expiration)) :
    SelectedExpiration config requested existing t expiration := by
  obtain ⟨number, t₁, t₂, ht, hnumber, hlast⟩ := Program.run_bind_ok.mp hrun
  obtain ⟨rfl, hnormal⟩ := Program.run_ofExcept.mp hlast
  rw [List.append_nil] at ht
  subst ht
  unfold requestedExpiration at hnumber
  cases requested with
  | some requested =>
    rw [← Except.ok.inj (Program.run_pure.mp hnumber).2] at *
    exact hnormal.symm
  | none =>
    by_cases hexisting : existing = 0
    · simp only [if_pos hexisting] at hnumber
      obtain ⟨ledger, t₁, t₂, ht, hcalc, hlast⟩ := Program.run_bind_ok.mp hnumber
      obtain ⟨rfl, hledger⟩ := Program.run_pure.mp hlast
      obtain ⟨sequence, t₃, t₄, ht₁, hawait, hcalc⟩ := Program.run_bind_ok.mp hcalc
      obtain ⟨reply, rfl, hreply⟩ := Program.run_await.mp hawait
      obtain ⟨rfl, hledger'⟩ := Program.run_ofExcept.mp hcalc
      have hlt : min 0xffffffff (sequence.toNat + config.signatureExpirationLedgers) < 2 ^ 32 := by
        omega
      rw [normalizeSignatureExpirationLedger_ofNat hlt, Except.ok.injEq] at hledger'
      rw [Except.ok.inj hledger, normalizeSignatureExpirationLedger_ofU32, Except.ok.injEq]
        at hnormal
      refine Or.inr ⟨hexisting, sequence, [], ?_, ?_⟩
      · rw [ht, ht₁, show reply = .ok sequence from hreply.symm]
        rfl
      · rw [hnormal, hledger', UInt32.toNat_ofNat_of_lt' hlt]
    · simp only [if_neg hexisting] at hnumber
      rw [Except.ok.inj (Program.run_pure.mp hnumber).2, normalizeSignatureExpirationLedger_ofU32,
        Except.ok.injEq] at hnormal
      exact Or.inl ⟨hexisting, hnormal⟩

/-- The credential and the ids are the caller's, the ids are not empty, and they are those in the
payload if it has any. -/
theorem passkeySelection_eq_ok {config : KitConfig} {options : SignAuthEntryOptions}
    {payload : AuthPayload} {credentialId : String} {ids : List JsNumber}
    (h : passkeySelection config options payload = .ok (credentialId, ids)) :
    nonEmptyText (options.credentialId.or config.credentialId) = some credentialId ∧
      options.contextRuleIds = some ids ∧ ids ≠ [] ∧
      (payload.contextRuleIds = [] ∨ payload.contextRuleIds = ids) := by
  unfold passkeySelection at h
  cases hcredential : nonEmptyText (options.credentialId.or config.credentialId) with
  | none =>
    rw [hcredential] at h
    exact nomatch h
  | some credential =>
    rw [hcredential] at h
    obtain ⟨hsome, h⟩ := throwIf_bind_eq_ok.mp h
    obtain ⟨hsame, h⟩ := throwIf_bind_eq_ok.mp h
    have hids := congrArg Prod.snd (Except.ok.inj h)
    have hsame' := congrArg Prod.fst (Except.ok.inj h)
    dsimp only at hids hsame'
    refine ⟨by rw [hsame'], ?_⟩
    rw [hids] at hsome hsame
    cases hrequested : options.contextRuleIds with
    | none =>
      rw [hrequested] at hids
      exact absurd hids.symm hsome
    | some requested =>
      rw [hrequested] at hids
      refine ⟨congrArg some hids, hsome, ?_⟩
      rwa [not_and_or, not_not, not_not] at hsame

/-- An entry that a passkey can be asked to sign: what has been checked about it, and its digest. -/
structure PasskeyPrepared (config : KitConfig) (entry : SorobanAuthorizationEntry)
    (options : SignAuthEntryOptions) where
  credentials : SorobanAddressCredentials
  contractId : String
  expiration : UInt32
  authPayload : AuthPayload
  contextRuleIds : List JsNumber
  scheme : AuthDigestScheme
  digest : EntryAuthDigest
  hasCredentials : entry.credentials = .address credentials ∨
    entry.credentials = .addressV2 credentials
  connected : nonEmptyText config.contractId = some contractId
  ownEntry : getAuthEntryAddress entry = .ok contractId
  guarded : assertWalletMutationIntent entry contractId options.walletMutationHostFunction
    (some config.upgradeTargetPolicy) = .ok ()
  payloadRead : readAuthPayload credentials.signature = .ok authPayload
  requestedIds : options.contextRuleIds = some contextRuleIds
  someIds : contextRuleIds ≠ []
  sameIds : authPayload.contextRuleIds = [] ∨ authPayload.contextRuleIds = contextRuleIds
  requestedScheme : ∀ requested ∈ options.authDigestScheme, scheme = requested
  requestedLedger : ∀ requested ∈ options.expiration,
    normalizeSignatureExpirationLedger requested = .ok expiration
  computed : computeEntryAuthDigest config.networkPassphrase (entry.setExpiration expiration)
    (.ofU32 expiration) contextRuleIds scheme = .ok (entry.setExpiration expiration, digest)

/-- What the digest of a prepared entry was computed from. -/
def PasskeyPrepared.args {config : KitConfig} {entry : SorobanAuthorizationEntry}
    {options : SignAuthEntryOptions} (prepared : PasskeyPrepared config entry options) :
    DigestArgs :=
  ⟨config.networkPassphrase, entry.setExpiration prepared.expiration, .ofU32 prepared.expiration,
    prepared.contextRuleIds, prepared.scheme⟩

theorem assertPasskeyEntry_eq_ok {config : KitConfig} {entry : SorobanAuthorizationEntry}
    {options : SignAuthEntryOptions} {credentials : SorobanAddressCredentials}
    {contractId : String}
    (h : assertPasskeyEntry config entry options = .ok (credentials, contractId)) :
    (entry.credentials = .address credentials ∨ entry.credentials = .addressV2 credentials) ∧
      nonEmptyText config.contractId = some contractId ∧
      getAuthEntryAddress entry = .ok contractId ∧
      assertWalletMutationIntent entry contractId options.walletMutationHostFunction
        (some config.upgradeTargetPolicy) = .ok () := by
  obtain ⟨hkind, h⟩ := throwIf_bind_eq_ok.mp h
  obtain ⟨c, hc, h⟩ := except_bind_eq_ok.mp h
  obtain ⟨id, hid, h⟩ := except_bind_eq_ok.mp h
  rw [except_pure_eq_ok, Prod.mk.injEq] at h
  obtain ⟨contract, hcontract, hid⟩ := except_bind_eq_ok.mp hid
  obtain ⟨address, haddress, hid⟩ := except_bind_eq_ok.mp hid
  obtain ⟨hown, hid⟩ := throwIf_bind_eq_ok.mp hid
  obtain ⟨_, hguard, hid⟩ := except_bind_eq_ok.mp hid
  rw [except_pure_eq_ok] at hid
  rw [not_not] at hown
  rw [← h.1, ← h.2, ← hid]
  refine ⟨?_, KitConfig.requireWallet_eq_ok.mp hcontract, hown ▸ haddress, hguard⟩
  obtain ⟨entryCredentials, root⟩ := entry
  cases entryCredentials with
  | sourceAccount => exact nomatch hc
  | address c' => exact Or.inl (congrArg _ (Except.ok.inj hc))
  | addressV2 c' => exact Or.inr (congrArg _ (Except.ok.inj hc))
  | addressWithDelegates c' => exact absurd rfl hkind

theorem run_passkeyScheme {config : KitConfig} {options : SignAuthEntryOptions}
    {contractId : String} {t : History Environment} {scheme : AuthDigestScheme}
    (hrun : Program.Run (passkeyScheme config options contractId) t (.ok scheme)) :
    ∀ requested ∈ options.authDigestScheme, scheme = requested := by
  intro requested hrequested
  rw [Option.mem_def] at hrequested
  simp only [passkeyScheme, hrequested] at hrun
  exact Except.ok.inj (Program.run_pure.mp hrun).2

/-- The steps of a run up to the digest prepare the entry. -/
theorem exists_passkeyPrepared {config : KitConfig} {entry signedEntry : SorobanAuthorizationEntry}
    {options : SignAuthEntryOptions} {credentials : SorobanAddressCredentials}
    {contractId credentialId : String} {expiration : UInt32} {payload : AuthPayload}
    {ids : List JsNumber} {scheme : AuthDigestScheme} {digest : EntryAuthDigest}
    {t t' : History Environment}
    (hentry : assertPasskeyEntry config entry options = .ok (credentials, contractId))
    (hexpiration : Program.Run (passkeyExpiration config options.expiration
      credentials.signatureExpirationLedger) t (.ok expiration))
    (hpayload : readAuthPayload credentials.signature = .ok payload)
    (hselection : passkeySelection config options payload = .ok (credentialId, ids))
    (hscheme : Program.Run (passkeyScheme config options contractId) t' (.ok scheme))
    (hdigest : computeEntryAuthDigest config.networkPassphrase (entry.setExpiration expiration)
      (.ofU32 expiration) ids scheme = .ok (signedEntry, digest)) :
    ∃ prepared : PasskeyPrepared config entry options,
      prepared.credentials = credentials ∧ prepared.expiration = expiration ∧
        prepared.authPayload = payload ∧ prepared.contextRuleIds = ids ∧
        prepared.scheme = scheme ∧ prepared.digest = digest ∧
        signedEntry = entry.setExpiration expiration := by
  obtain ⟨hkind, hconnected, hown, hguard⟩ := assertPasskeyEntry_eq_ok hentry
  obtain ⟨-, hrequested, hsome, hsame⟩ := passkeySelection_eq_ok hselection
  have hsigned : signedEntry = entry.setExpiration expiration := by
    obtain ⟨_, _, _, -, hledger, -, -, hsigned, -⟩ := computeEntryAuthDigest_eq_ok.mp hdigest
    rw [normalizeSignatureExpirationLedger_ofU32, Except.ok.injEq] at hledger
    rw [hsigned, ← hledger, SorobanAuthorizationEntry.setExpiration_setExpiration]
  have hledger : ∀ requested ∈ options.expiration,
      normalizeSignatureExpirationLedger requested = .ok expiration := by
    intro requested hrequested
    have hselected := run_passkeyExpiration hexpiration
    rw [Option.mem_def] at hrequested
    rwa [hrequested] at hselected
  exact ⟨{
    credentials
    contractId
    expiration
    authPayload := payload
    contextRuleIds := ids
    scheme
    digest
    hasCredentials := hkind
    connected := hconnected
    ownEntry := hown
    guarded := hguard
    payloadRead := hpayload
    requestedIds := hrequested
    someIds := hsome
    sameIds := hsame
    requestedScheme := run_passkeyScheme hscheme
    requestedLedger := hledger
    computed := by rw [hdigest, hsigned] }, rfl, rfl, rfl, rfl, rfl, rfl, hsigned⟩

/-! ## Runs -/

/-- A request of a passkey run: the one to the authenticator, for the digest of a prepared entry,
or one to a service. -/
inductive PasskeyRequest (config : KitConfig) (entry : SorobanAuthorizationEntry)
    (options : SignAuthEntryOptions) : Request → Prop where
  | authenticate (prepared : PasskeyPrepared config entry options) (credentialId : String) :
    PasskeyRequest config entry options (.startAuthentication
      (toBase64Url prepared.digest.authDigest.1) credentialId prepared.args)
  | service (request : Request) (h : request.kind = .service) :
    PasskeyRequest config entry options request

theorem UsesServices.passkeyRequest {α : Type} {p : KitProgram α} (hp : UsesServices p)
    (config : KitConfig) (entry : SorobanAuthorizationEntry) (options : SignAuthEntryOptions) :
    Program.Exchanges (PasskeyRequest config entry options) Succeeded p :=
  Program.Exchanges.mono hp fun request h => .service request h

/-- A passkey run asks the authenticator only for the digest of the prepared entry. -/
theorem exchanges_signAuthEntry (config : KitConfig) (entry : SorobanAuthorizationEntry)
    (options : SignAuthEntryOptions) :
    Program.Exchanges (PasskeyRequest config entry options) Succeeded
      (signAuthEntry config entry options) := by
  refine Program.exchanges_ofExcept_bind fun ⟨credentials, contractId⟩ hentry => ?_
  refine Program.exchanges_bind ((passkeyExpiration_services _ _ _).passkeyRequest _ _ _)
    fun expiration t hexpiration => ?_
  refine Program.exchanges_ofExcept_bind fun payload hpayload => ?_
  refine Program.exchanges_ofExcept_bind fun ⟨credentialId, ids⟩ hselection => ?_
  refine Program.exchanges_bind (Program.exchanges_both
    ((passkeySigner_services _ _ _).passkeyRequest _ _ _)
    ((passkeyScheme_services _ _ _).passkeyRequest _ _ _)) fun ⟨⟨ref, signer⟩, scheme⟩ t' hboth => ?_
  obtain ⟨_, t₂, -, -, hscheme⟩ := Program.run_both_ok hboth
  refine Program.exchanges_ofExcept_bind fun ⟨signedEntry, digest⟩ hdigest => ?_
  obtain ⟨prepared, -, rfl, -, rfl, rfl, rfl, -⟩ :=
    exists_passkeyPrepared hentry hexpiration hpayload hselection hscheme hdigest
  refine Program.exchanges_bind (Program.exchanges_await
    (.authenticate prepared credentialId) fun _ hok => hok) fun response _ _ => ?_
  refine Program.exchanges_ofExcept_bind fun signatureBytes _ => ?_
  refine Program.exchanges_ofExcept_bind fun signature _ => ?_
  exact Program.exchanges_bind (Program.exchanges_await (.service _ rfl) fun _ hok => hok)
    fun _ _ _ => Program.exchanges_done

/-- The signer that a passkey signature is stored under: the caller's object, or the first signer
with the credential in a rule that was read. -/
def PasskeyIdentity (options : SignAuthEntryOptions) (credentialId : String)
    (t : History Environment) (ref : Option ℕ) (signer : Signer) : Prop :=
  match options.signer with
  | some object => ref = some object.ref ∧ signer = object.signer
  | none => ref = none ∧ ∃ id rule, ⟨.readContextRule id, .ok rule⟩ ∈ t ∧
      rule.signers.find? (hasCredentialSuffix (fromBase64 credentialId)) = some signer

theorem run_findWebAuthnSignerInRules {ids : List JsNumber} {credentialId : Bytes}
    {t : History Environment} {signer : Signer}
    (hrun : Program.Run (findWebAuthnSignerInRules ids credentialId) t (.ok signer)) :
    ∃ id rule, ⟨.readContextRule id, .ok rule⟩ ∈ t ∧
      rule.signers.find? (hasCredentialSuffix credentialId) = some signer := by
  obtain ⟨found, t₁, t₂, rfl, hloop, hlast⟩ := Program.run_bind_ok.mp hrun
  have hfound := Program.run_forEach
    (fun _ (h : History Environment) (found : Option Signer) => ∀ signer ∈ found, ∃ id rule,
      ⟨.readContextRule id, .ok rule⟩ ∈ h ∧
        rule.signers.find? (hasCredentialSuffix credentialId) = some signer)
    (by simp) ?_ hloop
  · cases found with
    | none => exact nomatch (Program.run_throw.mp hlast).2
    | some found =>
      obtain ⟨rfl, hsigner⟩ := Program.run_pure.mp hlast
      rw [Except.ok.inj hsigner, List.append_nil]
      exact hfound found rfl
  · intro _ number h found t' found' _ hinv hbody signer hsigner
    cases found with
    | some old =>
      obtain ⟨rfl, hold⟩ := Program.run_pure.mp hbody
      rw [Except.ok.inj hold] at hsigner
      rw [List.append_nil]
      exact hinv signer hsigner
    | none =>
      obtain ⟨rule, t₁, t₂, rfl, hread, hlast⟩ := Program.run_bind_ok.mp hbody
      obtain ⟨rfl, hfind⟩ := Program.run_pure.mp hlast
      obtain ⟨id, -, hread⟩ := Program.run_ofExcept_bind_ok.mp hread
      obtain ⟨reply, rfl, hreply⟩ := Program.run_await.mp hread
      rw [Except.ok.inj hfind] at hsigner
      refine ⟨id, rule, ?_, hsigner⟩
      rw [show reply = .ok rule from hreply.symm]
      simp

theorem run_passkeySigner {options : SignAuthEntryOptions} {ids : List JsNumber}
    {credentialId : String} {t : History Environment} {ref : Option ℕ} {signer : Signer}
    (hrun : Program.Run (passkeySigner options ids credentialId) t (.ok (ref, signer))) :
    PasskeyIdentity options credentialId t ref signer := by
  unfold PasskeyIdentity
  unfold passkeySigner at hrun
  cases hsigner : options.signer with
  | some object =>
    rw [hsigner] at hrun
    have := Except.ok.inj (Program.run_pure.mp hrun).2
    exact ⟨congrArg Prod.fst this, congrArg Prod.snd this⟩
  | none =>
    rw [hsigner] at hrun
    obtain ⟨found, t₁, t₂, rfl, hfind, hlast⟩ := Program.run_bind_ok.mp hrun
    obtain ⟨rfl, hresult⟩ := Program.run_pure.mp hlast
    obtain ⟨rfl, rfl⟩ := Prod.mk.inj (Except.ok.inj hresult)
    rw [List.append_nil]
    exact ⟨rfl, run_findWebAuthnSignerInRules hfind⟩

/-- What a successful passkey run did: it had one response of the authenticator, and stored the
signature from it in the payload of the prepared entry. -/
structure PasskeySigned (config : KitConfig) (entry : SorobanAuthorizationEntry)
    (options : SignAuthEntryOptions) (t : History Environment)
    (signed : SorobanAuthorizationEntry) where
  prepared : PasskeyPrepared config entry options
  credentialId : String
  response : AuthenticationResponse
  ref : Option ℕ
  signer : Signer
  signatureBytes : Bytes
  signature : ScVal
  credential : nonEmptyText (options.credentialId.or config.credentialId) = some credentialId
  asked : signatureExchanges t = [⟨.startAuthentication
    (toBase64Url prepared.digest.authDigest.1) credentialId prepared.args, .ok response⟩]
  selected : SelectedExpiration config options.expiration
    prepared.credentials.signatureExpirationLedger t prepared.expiration
  identity : PasskeyIdentity options credentialId t ref signer
  bytes : webAuthnSignature response = .ok signatureBytes
  written : writeAuthPayload (upsertAuthPayloadSigner
    { prepared.authPayload with contextRuleIds := prepared.contextRuleIds } ref signer
    signatureBytes) = .ok signature
  result : signed = (entry.setExpiration prepared.expiration).setSignature signature

theorem PasskeyIdentity.mono {options : SignAuthEntryOptions} {credentialId : String}
    {t t' : History Environment} {ref : Option ℕ} {signer : Signer}
    (h : PasskeyIdentity options credentialId t ref signer) (ht : ∀ e ∈ t, e ∈ t') :
    PasskeyIdentity options credentialId t' ref signer := by
  unfold PasskeyIdentity at h ⊢
  cases hsigner : options.signer with
  | some object => rwa [hsigner] at h
  | none =>
    rw [hsigner] at h
    obtain ⟨href, id, rule, hmem, hfind⟩ := h
    exact ⟨href, id, rule, ht _ hmem, hfind⟩

theorem run_signAuthEntry {config : KitConfig} {entry signed : SorobanAuthorizationEntry}
    {options : SignAuthEntryOptions} {t : History Environment}
    (hrun : Program.Run (signAuthEntry config entry options) t (.ok signed)) :
    Nonempty (PasskeySigned config entry options t signed) := by
  obtain ⟨⟨credentials, contractId⟩, hentry, hrun⟩ := Program.run_ofExcept_bind_ok.mp hrun
  obtain ⟨expiration, t₁, t', rfl, hexpiration, hrun⟩ := Program.run_bind_ok.mp hrun
  obtain ⟨payload, hpayload, hrun⟩ := Program.run_ofExcept_bind_ok.mp hrun
  obtain ⟨⟨credentialId, ids⟩, hselection, hrun⟩ := Program.run_ofExcept_bind_ok.mp hrun
  obtain ⟨⟨⟨ref, signer⟩, scheme⟩, t₂, t'', rfl, hboth, hdigested⟩ := Program.run_bind_ok.mp hrun
  obtain ⟨t₃, t₄, rfl, hsigner, hscheme⟩ := Program.run_both_ok hboth
  obtain ⟨⟨signedEntry, digest⟩, hdigest, hasked⟩ := Program.run_ofExcept_bind_ok.mp hdigested
  obtain ⟨prepared, rfl, rfl, rfl, rfl, rfl, rfl, hsigned⟩ :=
    exists_passkeyPrepared hentry hexpiration hpayload hselection hscheme hdigest
  obtain ⟨response, t₅, t₆, rfl, hask, hstored⟩ := Program.run_bind_ok.mp hasked
  obtain ⟨reply, rfl, hreply⟩ := Program.run_await.mp hask
  obtain ⟨signatureBytes, hbytes, hstored⟩ := Program.run_ofExcept_bind_ok.mp hstored
  obtain ⟨signature, hwrite, hstored⟩ := Program.run_ofExcept_bind_ok.mp hstored
  obtain ⟨_, t₇, t₈, rfl, hupdate, hlast⟩ := Program.run_bind_ok.mp hstored
  obtain ⟨reply', rfl, -⟩ := Program.run_await.mp hupdate
  obtain ⟨rfl, hresult⟩ := Program.run_pure.mp hlast
  refine ⟨{
    prepared, credentialId, response, ref, signer, signatureBytes, signature
    credential := (passkeySelection_eq_ok hselection).1
    asked := ?_
    selected := (run_passkeyExpiration hexpiration).append _
    identity := (run_passkeySigner hsigner).mono fun e he => by simp [he]
    bytes := hbytes
    written := hwrite
    result := by rw [Except.ok.inj hresult, hsigned] }⟩
  simp only [signatureExchanges_append,
    (passkeyExpiration_services _ _ _).signatureExchanges hexpiration,
    (passkeySigner_services _ _ _).signatureExchanges hsigner,
    (passkeyScheme_services _ _ _).signatureExchanges hscheme, List.nil_append]
  rw [show reply = .ok response from hreply.symm]
  rfl

end SmartAccountKit
