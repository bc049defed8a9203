import SmartAccountKit.MultiSigner
import SmartAccountKit.MutationGuardTheorems
import SmartAccountKit.PasskeyTheorems

/-!
# Theorems about multi-signer operations

What every key is asked to sign in a multi-signer run, for each entry of the
transaction, and that a run whose submission is reached had no failed step.
-/

namespace SmartAccountKit
open Lib

/-! ## The log -/

theorem log_services (options : MultiSignerOptions) (stage : SigningStage) (message : String) :
    UsesServices (options.log stage message) := by
  unfold MultiSignerOptions.log
  split_ifs
  · exact Program.exchanges_await rfl fun _ hok => hok
  · exact Program.exchanges_done

/-! ## Reading rules -/

theorem readContextRule_ofU32 (id : UInt32) :
    readContextRule (.ofU32 id) = Program.await (Request.readContextRule id) (·) := by
  have hid : ruleIdToU32 (.ofU32 id) = .ok id := by rw [ruleIdToU32, JsNumber.toU32_ofU32]
  rw [readContextRule, hid]
  rfl

/-- Without a probe, a listing goes on only where the indexer answered. -/
theorem readIndexedRuleIds_services (contractId : String) :
    UsesServices (readIndexedRuleIds contractId none) := by
  refine Program.exchanges_ask rfl (fun reply => ?_) fun reply t a hrun => ?_
  · cases reply <;> exact Program.exchanges_done
  · cases reply with
    | error e => exact nomatch (Program.run_throw.mp hrun).2
    | ok details => rfl

/-- A rule that is missing by now is left out; any other failed read ends the listing. -/
theorem readDiscoveredRule_services (probedRules : List ContextRule) (id : UInt32) :
    UsesServices (readDiscoveredRule probedRules id) := by
  unfold readDiscoveredRule
  cases probedRules.find? fun rule => rule.id == id with
  | some cached => exact Program.exchanges_done
  | none =>
    rw [readContextRule_ofU32]
    refine Program.exchanges_ask rfl (fun reply => ?_) fun reply t a hrun => ?_
    · cases reply with
      | ok rule => exact Program.exchanges_done
      | error e =>
        show UsesServices (if isMissingContextRuleError e then _ else _)
        split_ifs <;> exact Program.exchanges_done
    · cases reply with
      | ok rule => trivial
      | error e =>
        change Program.Run (if isMissingContextRuleError e then _ else _) _ _ at hrun
        show isMissingContextRuleError e = true
        by_contra hmissing
        rw [if_neg hmissing] at hrun
        exact nomatch (Program.run_throw.mp hrun).2

theorem listContextRules_services (contractId : String) :
    UsesServices (listContextRules contractId none) := by
  refine Program.exchanges_bind (readIndexedRuleIds_services contractId) fun details _ _ => ?_
  refine Program.exchanges_bind Program.exchanges_done fun probedRules _ _ => ?_
  dsimp only
  split_ifs
  · exact Program.exchanges_done
  · exact Program.exchanges_done
  · refine Program.exchanges_bind (Program.exchanges_collectAll fun id _ =>
      readDiscoveredRule_services probedRules id) fun rules _ _ => ?_
    exact Program.exchanges_bind (Program.exchanges_await rfl fun _ hok => hok) fun _ _ _ =>
      Program.exchanges_done

theorem submissionContextRuleIds_services (run : MultiSignerRun)
    (signedEntry : SorobanAuthorizationEntry) (index : ℕ) :
    UsesServices (submissionContextRuleIds run signedEntry index) := by
  unfold submissionContextRuleIds
  split_ifs
  · exact Program.exchanges_await rfl fun _ hok => hok
  · refine Program.exchanges_ofExcept_bind fun _ _ => ?_
    exact Program.exchanges_bind (listContextRules_services _) fun _ _ _ => Program.exchanges_done

theorem submissionScheme_services (run : MultiSignerRun) (scheme : Option AuthDigestScheme) :
    UsesServices (submissionScheme run scheme) := by
  cases scheme with
  | some _ => exact Program.exchanges_done
  | none => exact resolveAuthDigestScheme_services _ _

/-! ## Versions of an entry -/

/-- The payload of an entry has no rule ids other than given ones. -/
def PayloadAgrees (entry : SorobanAuthorizationEntry) (contextRuleIds : List JsNumber) : Prop :=
  ∃ c payload, PayloadOf entry c payload ∧
    (payload.contextRuleIds = [] ∨ payload.contextRuleIds = contextRuleIds)

/-- What an entry becomes while it is signed: only its expiration and its payload change, and the
payload has no rule ids other than those resolved for the entry. -/
structure EntryVersion (entry : SorobanAuthorizationEntry) (expiration : UInt32)
    (contextRuleIds : List JsNumber) (version : SorobanAuthorizationEntry) : Prop where
  signature : ∃ v, version = (entry.setExpiration expiration).setSignature v
  original : PayloadAgrees entry contextRuleIds
  payload : PayloadAgrees version contextRuleIds

/-- What a key of a smart-account entry is asked to sign was computed from: a version of the entry,
the resolved ids and the scheme of the submission. -/
structure SignedArgs (run : MultiSignerRun) (entry : SorobanAuthorizationEntry)
    (expiration : UInt32) (contextRuleIds : List JsNumber) (scheme : AuthDigestScheme)
    (args : DigestArgs) (digest : EntryAuthDigest) : Prop where
  version : EntryVersion entry expiration contextRuleIds args.entry
  args_eq : args = ⟨run.config.networkPassphrase, args.entry, .ofU32 expiration, contextRuleIds,
    scheme⟩
  computed : args.compute = .ok (args.entry, digest)
  someIds : contextRuleIds ≠ [] ∨ run.passkeySigners = []

theorem SorobanAuthorizationEntry.exists_setSignature_self (entry : SorobanAuthorizationEntry) :
    ∃ v, entry = entry.setSignature v := by
  obtain ⟨credentials, root⟩ := entry
  cases credentials with
  | sourceAccount => exact ⟨.void, rfl⟩
  | address c => exact ⟨c.signature, rfl⟩
  | addressV2 c => exact ⟨c.signature, rfl⟩
  | addressWithDelegates c => exact ⟨c.signature, rfl⟩

section versions

variable {entry version : SorobanAuthorizationEntry} {expiration : UInt32}
  {ids : List JsNumber}

theorem EntryVersion.setExpiration_eq (h : EntryVersion entry expiration ids version) :
    version.setExpiration expiration = version := by
  obtain ⟨v, rfl⟩ := h.signature
  simp

theorem EntryVersion.rootInvocation_eq (h : EntryVersion entry expiration ids version) :
    version.rootInvocation = entry.rootInvocation := by
  obtain ⟨v, rfl⟩ := h.signature
  rfl

/-- The digest of a version is the digest of the entry. -/
theorem EntryVersion.digest_iff (h : EntryVersion entry expiration ids version)
    {networkPassphrase : String} {scheme : AuthDigestScheme} {digest : EntryAuthDigest} :
    computeEntryAuthDigest networkPassphrase version (.ofU32 expiration) ids scheme =
        .ok (version, digest) ↔
      ∃ e, computeEntryAuthDigest networkPassphrase entry (.ofU32 expiration) ids scheme =
        .ok (e, digest) := by
  obtain ⟨v, rfl⟩ := h.signature
  rw [computeEntryAuthDigest_setSignature, computeEntryAuthDigest_setExpiration]
  cases hcompute : computeEntryAuthDigest networkPassphrase entry (.ofU32 expiration) ids scheme with
  | error e => simp [Except.map]
  | ok r =>
    obtain ⟨e, d⟩ := r
    obtain ⟨_, ledger, _, -, hledger, -, -, he, -⟩ := computeEntryAuthDigest_eq_ok.mp hcompute
    rw [normalizeSignatureExpirationLedger_ofU32, Except.ok.injEq] at hledger
    simp only [Except.map, Except.ok.injEq, Prod.mk.injEq, exists_eq_left', he, hledger, true_and]

/-- The payload of the entry itself. -/
theorem EntryVersion.of_setExpiration {c : SorobanAddressCredentials} {payload : AuthPayload}
    (hc : PayloadOf (entry.setExpiration expiration) c payload)
    (hids : payload.contextRuleIds = [] ∨ payload.contextRuleIds = ids) :
    EntryVersion entry expiration ids (entry.setExpiration expiration) := by
  refine ⟨(entry.setExpiration expiration).exists_setSignature_self, ?_, c, payload, hc, hids⟩
  obtain ⟨hc, hread⟩ := hc
  rw [SorobanAuthorizationEntry.setExpiration_addressCredentials?] at hc
  obtain ⟨c₀, hc₀, rfl⟩ := Option.map_eq_some_iff.mp hc
  exact ⟨c₀, payload, ⟨hc₀, hread⟩, hids⟩

/-- What is written into a version with the resolved ids is a version. -/
theorem EntryVersion.setSignature (h : EntryVersion entry expiration ids version)
    {payload : AuthPayload} {v : ScVal} (hwrite : writeAuthPayload payload = .ok v)
    (hids : payload.contextRuleIds = ids) :
    EntryVersion entry expiration ids (version.setSignature v) := by
  obtain ⟨c, _, ⟨hc, _⟩, _⟩ := h.payload
  obtain ⟨w, rfl⟩ := h.signature
  obtain ⟨ps, -, hread⟩ := readAuthPayload_writeAuthPayload hwrite
  refine ⟨⟨v, by simp⟩, h.original, { c with signature := v }, _, ⟨?_, hread⟩, Or.inr hids⟩
  rw [SorobanAuthorizationEntry.setSignature_addressCredentials?, hc]
  rfl

end versions

/-! ## What keys sign for a smart-account entry -/

/-- A request of the signing of a smart-account entry: a signature over the digest of a version of
the entry, or of the authorization of a delegated signer for that digest, or a service. -/
inductive EntryRequest (run : MultiSignerRun) (entry : SorobanAuthorizationEntry)
    (expiration : UInt32) (contextRuleIds : List JsNumber) (scheme : AuthDigestScheme) :
    Request → Prop where
  | passkey (args : DigestArgs) (digest : EntryAuthDigest) (credentialId : String)
      (h : SignedArgs run entry expiration contextRuleIds scheme args digest) :
    EntryRequest run entry expiration contextRuleIds scheme
      (.startAuthentication (toBase64Url digest.authDigest.1) credentialId args)
  | ed25519 (args : DigestArgs) (digest : EntryAuthDigest) (publicKey : Bytes)
      (h : SignedArgs run entry expiration contextRuleIds scheme args digest) :
    EntryRequest run entry expiration contextRuleIds scheme
      (.signEd25519Digest publicKey digest.authDigest args)
  | delegated (args : DigestArgs) (digest : EntryAuthDigest) (contract : ScAddress)
      (nonce : Int64) (address : String)
      (h : SignedArgs run entry expiration contextRuleIds scheme args digest)
      (hcontract : contract.toStrkey = some run.contractId) :
    EntryRequest run entry expiration contextRuleIds scheme
      (.walletSignAuthEntry (.sorobanAuthorization (networkId run.config.networkPassphrase) nonce
        expiration (checkAuthInvocation contract digest.delegatedAuthArgs)) address (some args))
  | service (request : Request) (h : request.kind = .service) :
    EntryRequest run entry expiration contextRuleIds scheme request

section entry

variable {run : MultiSignerRun} {entry current : SorobanAuthorizationEntry} {expiration : UInt32}
  {ids : List JsNumber} {scheme : AuthDigestScheme}

/-- Lines about the signing are written to a service. -/
theorem exchanges_log (message : String) :
    Program.Exchanges (EntryRequest run entry expiration ids scheme) Succeeded
      (run.log message) :=
  Program.Exchanges.mono (log_services _ _ message) fun request h => .service request h

/-- The options that a passkey of a submission signs with. -/
def passkeyOptions (run : MultiSignerRun) (expiration : UInt32) (ids : List JsNumber)
    (scheme : AuthDigestScheme) (passkeySigner : SelectedSigner) : SignAuthEntryOptions :=
  { credentialId := passkeySigner.credentialId
    expiration := some (.ofU32 expiration)
    contextRuleIds := some ids
    signer := passkeySigner.signer
    walletMutationHostFunction := run.walletMutationHostFunction
    authDigestScheme := some scheme }

/-- What a passkey of a submission is asked to sign. -/
theorem PasskeyPrepared.signedArgs (passkeySigner : SelectedSigner)
    (hversion : EntryVersion entry expiration ids current)
    (prepared : PasskeyPrepared run.config current
      (passkeyOptions run expiration ids scheme passkeySigner)) :
    prepared.expiration = expiration ∧ prepared.contextRuleIds = ids ∧
      SignedArgs run entry expiration ids scheme prepared.args prepared.digest := by
  have hledger := prepared.requestedLedger (.ofU32 expiration) rfl
  rw [normalizeSignatureExpirationLedger_ofU32, Except.ok.injEq] at hledger
  have hids : ids = prepared.contextRuleIds := Option.some.inj prepared.requestedIds
  have hscheme : prepared.scheme = scheme := prepared.requestedScheme scheme rfl
  have hentry : prepared.args.entry = current := by
    show current.setExpiration prepared.expiration = current
    rw [← hledger, hversion.setExpiration_eq]
  refine ⟨hledger.symm, hids.symm, by rwa [hentry], ?_, prepared.computed, Or.inl ?_⟩
  · simp only [PasskeyPrepared.args, DigestArgs.mk.injEq, true_and]
    exact ⟨congrArg _ hledger.symm, hids.symm, hscheme⟩
  · intro hnone
    exact prepared.someIds (hids.symm.trans hnone)

/-- A passkey turns a version into a version. -/
theorem PasskeySigned.version (passkeySigner : SelectedSigner) {t : History Environment}
    {signed : SorobanAuthorizationEntry} (hversion : EntryVersion entry expiration ids current)
    (run' : PasskeySigned run.config current
      (passkeyOptions run expiration ids scheme passkeySigner) t signed) :
    EntryVersion entry expiration ids signed := by
  obtain ⟨hledger, hids, -⟩ := PasskeyPrepared.signedArgs passkeySigner hversion run'.prepared
  rw [run'.result, hledger, hversion.setExpiration_eq]
  exact hversion.setSignature run'.written hids

/-- The passkeys are asked for the digest of versions of the entry. -/
theorem exchanges_signWithPasskeys (hversion : EntryVersion entry expiration ids current) :
    Program.Exchanges (EntryRequest run entry expiration ids scheme) Succeeded
      (signWithPasskeys run current expiration ids scheme) := by
  refine Program.exchanges_forEach (fun _ => EntryVersion entry expiration ids) hversion ?_ ?_
  · intro _ indexed current' _ hcurrent'
    refine Program.exchanges_bind (exchanges_log _) fun _ _ _ => ?_
    refine (exchanges_signAuthEntry run.config current' _).mono fun request h => ?_
    cases h with
    | authenticate prepared credentialId =>
      exact .passkey _ _ _ (PasskeyPrepared.signedArgs indexed.1 hcurrent' prepared).2.2
    | service _ h => exact .service _ h
  · intro _ indexed current' t signed _ hcurrent' hrun
    obtain ⟨_, _, _, -, -, hsign⟩ := Program.run_bind_ok.mp hrun
    obtain ⟨signed'⟩ := run_signAuthEntry hsign
    exact PasskeySigned.version indexed.1 hcurrent' signed'

/-- After the passkeys the entry is a version; a passkey signs for some ids only. -/
theorem run_signWithPasskeys {t : History Environment} {signed : SorobanAuthorizationEntry}
    (hversion : EntryVersion entry expiration ids current)
    (hrun : Program.Run (signWithPasskeys run current expiration ids scheme) t (.ok signed)) :
    EntryVersion entry expiration ids signed ∧ (ids ≠ [] ∨ run.passkeySigners = []) := by
  have hloop := Program.run_forEach
    (fun done _ current' => EntryVersion entry expiration ids current' ∧ (ids ≠ [] ∨ done = []))
    ⟨hversion, Or.inr rfl⟩ ?_ hrun
  · rwa [List.zipIdx_eq_nil_iff] at hloop
  · intro done indexed _ current' t' signed' _ hinv hbody
    obtain ⟨_, _, _, -, -, hsign⟩ := Program.run_bind_ok.mp hbody
    obtain ⟨signedBy⟩ := run_signAuthEntry hsign
    obtain ⟨-, hids, -⟩ := PasskeyPrepared.signedArgs indexed.1 hinv.1 signedBy.prepared
    refine ⟨PasskeySigned.version indexed.1 hinv.1 signedBy, Or.inl ?_⟩
    rw [← hids]
    exact signedBy.prepared.someIds

/-- What the digest of a smart-account entry is computed from, after the passkeys. -/
structure DigestedFor (run : MultiSignerRun) (entry current : SorobanAuthorizationEntry)
    (expiration : UInt32) (ids : List JsNumber) (scheme : AuthDigestScheme)
    (digested : DigestedEntry) : Prop where
  signed : digested.signed = current
  args : SignedArgs run entry expiration ids scheme digested.args digested.digest
  contextRuleIds : digested.authPayload.contextRuleIds = ids
  signers : ∀ c payload, PayloadOf current c payload →
    digested.authPayload.signers = payload.signers
  metadata : ∀ walletSigner ∈ run.walletAddresses, walletSigner.2.signer.isSome

theorem digestSignedEntry_eq_ok {digested : DigestedEntry}
    (hversion : EntryVersion entry expiration ids current)
    (hsome : ids ≠ [] ∨ run.passkeySigners = [])
    (h : digestSignedEntry run current expiration ids scheme = .ok digested) :
    DigestedFor run entry current expiration ids scheme digested := by
  unfold digestSignedEntry at h
  rw [hversion.setExpiration_eq] at h
  obtain ⟨_, -, h⟩ := except_bind_eq_ok.mp h
  obtain ⟨_, hmetadata, h⟩ := except_bind_eq_ok.mp h
  obtain ⟨c, hc, h⟩ := except_bind_eq_ok.mp h
  obtain ⟨payload, hpayload, h⟩ := except_bind_eq_ok.mp h
  obtain ⟨⟨signed, digest⟩, hdigest, h⟩ := except_bind_eq_ok.mp h
  obtain ⟨c', payload', ⟨hc', hread⟩, hids⟩ := hversion.payload
  rw [getAddressCredentials_eq_ok] at hc
  have hsame : c' = c := Option.some.inj (hc'.symm.trans hc)
  rw [hsame, hpayload, Except.ok.injEq] at hread
  rw [← hread] at hids
  -- the ids of the payload, or the resolved ones where it has none
  have hboth : (if payload.contextRuleIds = [] then
      { payload with contextRuleIds := ids } else payload).contextRuleIds = ids := by
    split_ifs with hnone
    · rfl
    · exact hids.resolve_left hnone
  rw [hboth] at hdigest h
  have hsigned : signed = current := by
    obtain ⟨_, ledger, _, -, hledger, -, -, hsigned, -⟩ := computeEntryAuthDigest_eq_ok.mp hdigest
    rw [normalizeSignatureExpirationLedger_ofU32, Except.ok.injEq] at hledger
    rw [hsigned, ← hledger, hversion.setExpiration_eq]
  rw [hsigned] at hdigest h
  rw [except_pure_eq_ok] at h
  rw [← h]
  refine ⟨rfl, ⟨hversion, rfl, hdigest, hsome⟩, hboth, fun c' payload' hof => ?_,
    fun walletSigner hmem => ?_⟩
  · have hsame : payload = payload' := by
      have hread := hof.2
      rwa [Option.some.inj (hof.1.symm.trans hc), hpayload, Except.ok.injEq] at hread
    rw [← hsame]
    dsimp only
    split_ifs <;> rfl
  have hcheck := throwIf_eq_ok.mp (forM_eq_ok.mp hmetadata walletSigner hmem)
  rwa [Bool.not_eq_true, Option.isNone_eq_false_iff] at hcheck

theorem signWithEd25519_contextRuleIds {digested : DigestedEntry} {payload payload' : AuthPayload}
    {ed25519Signer : String × SelectedSigner} {t : History Environment}
    (hrun : Program.Run (signWithEd25519 digested payload ed25519Signer) t (.ok payload')) :
    payload'.contextRuleIds = payload.contextRuleIds := by
  unfold signWithEd25519 at hrun
  cases hsigner : ed25519Signer.2.signer with
  | none =>
    rw [hsigner] at hrun
    rw [Except.ok.inj (Program.run_pure.mp hrun).2]
  | some object =>
    rw [hsigner] at hrun
    obtain ⟨_, _, _, -, -, hlast⟩ := Program.run_bind_ok.mp hrun
    rw [Except.ok.inj (Program.run_pure.mp hlast).2]
    rfl

theorem addDelegatedSigner_contextRuleIds (payload : AuthPayload)
    (walletSigner : String × SelectedSigner) :
    (addDelegatedSigner payload walletSigner).contextRuleIds = payload.contextRuleIds := by
  unfold addDelegatedSigner
  cases walletSigner.2.signer <;> rfl

theorem foldl_addDelegatedSigner_contextRuleIds (payload : AuthPayload)
    (walletSigners : List (String × SelectedSigner)) :
    (walletSigners.foldl addDelegatedSigner payload).contextRuleIds = payload.contextRuleIds := by
  induction walletSigners generalizing payload with
  | nil => rfl
  | cons walletSigner walletSigners ih =>
    rw [List.foldl_cons, ih, addDelegatedSigner_contextRuleIds]

/-- An Ed25519 key is asked for the digest. -/
theorem exchanges_signWithEd25519 {digested : DigestedEntry}
    (hdigested : DigestedFor run entry current expiration ids scheme digested)
    (payload : AuthPayload) (ed25519Signer : String × SelectedSigner) :
    Program.Exchanges (EntryRequest run entry expiration ids scheme) Succeeded
      (signWithEd25519 digested payload ed25519Signer) := by
  unfold signWithEd25519
  cases ed25519Signer.2.signer with
  | none => exact Program.exchanges_done
  | some object =>
    exact Program.exchanges_bind (Program.exchanges_await
      (.ed25519 _ _ _ hdigested.args) fun _ hok => hok) fun _ _ _ => Program.exchanges_done

/-- A wallet is asked for the authorization of its delegated signer. -/
theorem exchanges_delegatedAuthEntry {digested : DigestedEntry}
    (hdigested : DigestedFor run entry current expiration ids scheme digested)
    (walletAddress : String) :
    Program.Exchanges (EntryRequest run entry expiration ids scheme) Succeeded
      (delegatedAuthEntry run digested expiration walletAddress) := by
  refine Program.exchanges_bind (exchanges_log _) fun _ _ _ => ?_
  refine Program.exchanges_bind (Program.exchanges_await (.service _ rfl) fun _ _ => trivial)
    fun nonce _ _ => ?_
  refine Program.exchanges_ofExcept_bind fun contract hcontract => ?_
  refine Program.exchanges_bind (Program.exchanges_bind (Program.exchanges_await
    (.delegated _ _ _ _ _ hdigested.args (toScAddress_eq_ok.mp hcontract)) fun _ hok => hok)
    fun _ _ _ => ?_) fun _ _ _ => Program.exchanges_done
  exact Program.exchanges_ofExcept_bind fun _ _ =>
    Program.exchanges_ofExcept_bind fun _ _ => Program.exchanges_done

theorem exchanges_delegatedAuthEntries {digested : DigestedEntry}
    (hdigested : DigestedFor run entry current expiration ids scheme digested) :
    Program.Exchanges (EntryRequest run entry expiration ids scheme) Succeeded
      (delegatedAuthEntries run digested expiration) := by
  unfold delegatedAuthEntries
  split_ifs
  · exact Program.exchanges_done
  · exact Program.exchanges_bind (exchanges_log _) fun _ _ _ => Program.exchanges_collect
      fun walletSigner _ => exchanges_delegatedAuthEntry hdigested walletSigner.1

/-- The entry with its expiration, once its payload is read and compared. -/
theorem version_of_checks {c : SorobanAddressCredentials} {payload : AuthPayload}
    (hc : getAddressCredentials (entry.setExpiration expiration).credentials = .ok c)
    (hpayload : readAuthPayload c.signature = .ok payload)
    (hids : assertSameContextRuleIds payload.contextRuleIds ids = .ok ()) :
    EntryVersion entry expiration ids (entry.setExpiration expiration) := by
  refine .of_setExpiration ⟨getAddressCredentials_eq_ok.mp hc, hpayload⟩ ?_
  rw [assertSameContextRuleIds, throwIf_eq_ok, not_and_or, not_not, not_not] at hids
  exact hids

/-- Every key is asked for the digest of the entry under the resolved ids. -/
theorem exchanges_signForContextRuleIds (run : MultiSignerRun) (entry : SorobanAuthorizationEntry)
    (expiration : UInt32) (scheme : AuthDigestScheme) (ids : List JsNumber) :
    Program.Exchanges (EntryRequest run entry expiration ids scheme) Succeeded
      (signForContextRuleIds run (entry.setExpiration expiration) expiration scheme ids) := by
  refine Program.exchanges_ofExcept_bind fun c hc => ?_
  refine Program.exchanges_ofExcept_bind fun payload hpayload => ?_
  refine Program.exchanges_ofExcept_bind fun _ hids => ?_
  have hversion := version_of_checks hc hpayload hids
  refine Program.exchanges_bind (exchanges_signWithPasskeys hversion) fun current t hpasskeys => ?_
  obtain ⟨hcurrent, hsome⟩ := run_signWithPasskeys hversion hpasskeys
  refine Program.exchanges_ofExcept_bind fun digested hdigest => ?_
  have hdigested := digestSignedEntry_eq_ok hcurrent hsome hdigest
  refine Program.exchanges_bind (Program.exchanges_forEach_of_body fun ed25519Signer _ payload =>
    exchanges_signWithEd25519 hdigested payload ed25519Signer) fun _ _ _ => ?_
  refine Program.exchanges_ofExcept_bind fun _ _ => ?_
  exact Program.exchanges_bind (exchanges_delegatedAuthEntries hdigested) fun _ _ _ =>
    Program.exchanges_done

end entry

/-! ## What keys sign in a submission -/

/-- A selected wallet signer has the address. -/
def SelectedWallet (selectedSigners : List SelectedSigner) (address : String) : Prop :=
  ∃ signer ∈ selectedSigners, signer.type = .wallet ∧ signer.walletAddress = some address

/-- A request of a run: one to a service, a signature for an entry of a selected wallet, or one of
the signing of a smart-account entry that passed the guard, for ids that the run resolved. -/
inductive SubmissionRequest (run : MultiSignerRun) (authEntries : List SorobanAuthorizationEntry)
    (t : History Environment) : Request → Prop where
  | service (request : Request) (h : request.kind = .service) :
    SubmissionRequest run authEntries t request
  | separate (entry signedEntry : SorobanAuthorizationEntry) (address : String)
      (expiration : UInt32) (preimage : HashIdPreimage) (hentry : entry ∈ authEntries)
      (haddress : getAuthEntryAddress entry = .ok address) (hother : address ≠ run.contractId)
      (hselected : SelectedWallet run.selectedSigners address)
      (hpreimage : buildSignaturePreimage run.config.networkPassphrase entry (.ofU32 expiration) =
        .ok (signedEntry, preimage)) :
    SubmissionRequest run authEntries t (.walletSignAuthEntry preimage address none)
  | smartAccount (entry : SorobanAuthorizationEntry) (index : ℕ) (expiration : UInt32)
      (ids : List JsNumber) (scheme : AuthDigestScheme) (t' : History Environment)
      (request : Request) (hentry : authEntries[index]? = some entry)
      (haddress : getAuthEntryAddress entry = .ok run.contractId)
      (hguard : assertWalletMutationIntent entry run.contractId run.walletMutationHostFunction
        (some run.config.upgradeTargetPolicy) = .ok ())
      (ht' : t' <:+: t)
      (hresolved : Program.Run (submissionContextRuleIds run (entry.setExpiration expiration) index)
        t' (.ok ids))
      (h : EntryRequest run entry expiration ids scheme request) :
    SubmissionRequest run authEntries t request

section submission

variable {run : MultiSignerRun} {authEntries : List SorobanAuthorizationEntry}
  {entry : SorobanAuthorizationEntry} {index : ℕ} {expiration : UInt32}
  {t t' : History Environment} {e : Exchange Environment}

theorem SubmissionRequest.mono {request : Request} (ht : t <:+: t')
    (h : SubmissionRequest run authEntries t request) :
    SubmissionRequest run authEntries t' request := by
  cases h with
  | service _ h => exact .service _ h
  | separate entry signedEntry address expiration preimage hentry haddress hother hselected
      hpreimage =>
    exact .separate entry signedEntry address expiration preimage hentry haddress hother hselected
      hpreimage
  | smartAccount entry index expiration ids scheme t₁ _ hentry haddress hguard ht₁ hresolved h =>
    exact .smartAccount entry index expiration ids scheme t₁ _ hentry haddress hguard
      (ht₁.trans ht) hresolved h

theorem UsesServices.submissionRequest {α : Type} {p : KitProgram α} (hp : UsesServices p)
    {x : Except JsError α} (hrun : Program.Run p t x) (he : e ∈ t) :
    SubmissionRequest run authEntries t' e.request :=
  .service _ (hp t x hrun e he).1

/-- A wallet is asked for the preimage of its own entry. -/
theorem exchanges_signSeparateEntry {address : String} (hentry : entry ∈ authEntries)
    (haddress : getAuthEntryAddress entry = .ok address) (hother : address ≠ run.contractId) :
    Program.Exchanges (SubmissionRequest run authEntries t) Succeeded
      (signSeparateEntry run entry address expiration) := by
  refine Program.exchanges_ofExcept_bind fun _ hfound => ?_
  have hselected : SelectedWallet run.selectedSigners address := by
    have hwallet : ∃ signer ∈ run.walletSigners, signer.walletAddress = some address := by
      simpa using hfound
    obtain ⟨signer, hsigner, hwallet⟩ := hwallet
    obtain ⟨hmem, htype⟩ := List.mem_filter.mp hsigner
    exact ⟨signer, hmem, of_decide_eq_true htype, hwallet⟩
  refine Program.exchanges_ask (.service _ rfl) (fun reply => ?_) fun reply t' a hrun => ?_
  · cases reply with
    | error error => exact Program.exchanges_done
    | ok available =>
      change Program.Exchanges _ _
        (Program.bind (Program.ofExcept (throwIf ((!available) = true) _)) _)
      refine Program.exchanges_ofExcept_bind fun _ _ => ?_
      refine Program.exchanges_bind ?_ fun _ _ _ => ?_
      · exact Program.Exchanges.mono (log_services _ _ _) fun request h => .service request h
      refine Program.exchanges_ofExcept_bind fun _ _ => ?_
      refine Program.exchanges_ofExcept_bind fun prepared hpreimage => ?_
      refine Program.exchanges_bind (Program.exchanges_bind (Program.exchanges_await
        (.separate entry prepared.1 address expiration prepared.2 hentry haddress hother hselected
          hpreimage)
        fun _ hok => hok) fun _ _ _ => ?_) fun _ _ _ => Program.exchanges_done
      exact Program.exchanges_ofExcept_bind fun _ _ =>
        Program.exchanges_ofExcept_bind fun _ _ => Program.exchanges_done
  · cases reply with
    | error error =>
      have herror := (Program.run_throw.mp hrun).2
      exact absurd herror (by simp)
    | ok available =>
      change Program.Run (Program.bind (Program.ofExcept (throwIf ((!available) = true) _)) _)
        _ _ at hrun
      obtain ⟨_, hfound, -⟩ := Program.run_ofExcept_bind_ok.mp hrun
      rw [throwIf_eq_ok, Bool.not_eq_true, Bool.not_eq_false'] at hfound
      rw [hfound]
      exact (rfl : Except.ok true = Except.ok true)

/-- The keys of a smart-account entry are asked for the ids that the run has resolved for it. -/
theorem asked_signSmartAccountEntry {scheme : AuthDigestScheme}
    (hentry : authEntries[index]? = some entry)
    (haddress : getAuthEntryAddress entry = .ok run.contractId)
    (hguard : assertWalletMutationIntent entry run.contractId run.walletMutationHostFunction
      (some run.config.upgradeTargetPolicy) = .ok ())
    {x : Except JsError (List SorobanAuthorizationEntry)}
    (hrun : Program.Run (signSmartAccountEntry run entry index expiration scheme) t x)
    (he : e ∈ t) : SubmissionRequest run authEntries t e.request := by
  rcases Program.mem_bind hrun he with ⟨t₁, x₁, -, hresolve, he⟩ |
    ⟨ids, t₁, t₂, rfl, hresolve, hsign, he⟩
  · exact (submissionContextRuleIds_services run _ _).submissionRequest hresolve he
  · exact .smartAccount entry index expiration ids scheme t₁ _ hentry haddress hguard
      (List.prefix_append _ _).isInfix hresolve
      (exchanges_signForContextRuleIds run entry expiration scheme ids t₂ x hsign e he).1

theorem asked_signAddressEntry {state : SigningState} (hentry : authEntries[index]? = some entry)
    {x : Except JsError SigningState}
    (hrun : Program.Run (signAddressEntry run state entry index expiration) t x) (he : e ∈ t) :
    SubmissionRequest run authEntries t e.request := by
  rcases Program.mem_bind hrun he with ⟨t₁, x₁, -, hread, he⟩ |
    ⟨address, t₁, t₂, ht, haddress, hrest, he⟩
  · rw [(Program.run_ofExcept.mp hread).1] at he
    exact absurd he List.not_mem_nil
  have haddress := (Program.run_ofExcept.mp haddress).2.symm
  refine SubmissionRequest.mono (t := t₂) (ht ▸ (List.suffix_append _ _).isInfix) ?_
  split_ifs at hrest with hother
  · rcases Program.mem_bind hrest he with ⟨t₃, x₁, ht₃, hsign, he⟩ | ⟨_, _, t₄, -, -, hlast, he⟩
    · exact (exchanges_signSeparateEntry (List.mem_of_getElem? hentry) haddress hother
        t₃ x₁ hsign e he).1.mono List.infix_rfl
    · rw [(Program.run_pure.mp hlast).1] at he
      exact absurd he List.not_mem_nil
  rw [not_not] at hother
  rcases Program.mem_bind hrest he with ⟨_, _, -, hguard, he⟩ | ⟨_, _, t₃, ht, hguard, hrest, he⟩
  · rw [(Program.run_ofExcept.mp hguard).1] at he
    exact absurd he List.not_mem_nil
  have hguard := (Program.run_ofExcept.mp hguard).2.symm
  refine SubmissionRequest.mono (t := t₃) (ht ▸ (List.suffix_append _ _).isInfix) ?_
  rcases Program.mem_bind hrest he with ⟨t₄, _, -, hscheme, he⟩ | ⟨_, _, t₄, ht, -, hrest, he⟩
  · exact (submissionScheme_services run _).submissionRequest hscheme he
  refine SubmissionRequest.mono (t := t₄) (ht ▸ (List.suffix_append _ _).isInfix) ?_
  rcases Program.mem_bind hrest he with ⟨t₅, _, ht₅, hsign, he⟩ | ⟨_, _, _, -, -, hlast, he⟩
  · exact (asked_signSmartAccountEntry hentry (hother ▸ haddress) hguard hsign he).mono ht₅
  · rw [(Program.run_pure.mp hlast).1] at he
    exact absurd he List.not_mem_nil

theorem asked_signEntry {state : SigningState} {defaultExpiration : UInt32}
    (hentry : authEntries[index]? = some entry) {x : Except JsError SigningState}
    (hrun : Program.Run (signEntry run defaultExpiration state (entry, index)) t x) (he : e ∈ t) :
    SubmissionRequest run authEntries t e.request := by
  unfold signEntry at hrun
  split at hrun
  · rw [(Program.run_throw.mp hrun).1] at he
    exact absurd he List.not_mem_nil
  · rw [(Program.run_pure.mp hrun).1] at he
    exact absurd he List.not_mem_nil
  · exact asked_signAddressEntry hentry hrun he
  · exact asked_signAddressEntry hentry hrun he

theorem resolveResimSource_services (config : KitConfig) (forceMethod : Option SubmissionMethod) :
    UsesServices (config.resolveResimSource forceMethod) := by
  unfold KitConfig.resolveResimSource
  split_ifs
  · exact Program.exchanges_done
  · exact Program.exchanges_ofExcept_bind fun _ _ =>
      Program.exchanges_await rfl fun _ hok => hok

theorem resimulateAndAssemble_services (sourceAccount : Account) (hostFunc : HostFunction)
    (entries : List SorobanAuthorizationEntry) :
    UsesServices (resimulateAndAssemble sourceAccount hostFunc entries) := by
  refine Program.exchanges_ask rfl (fun reply => ?_) fun reply t a hrun => ?_
  · cases reply <;> exact Program.exchanges_done
  · cases reply with
    | error e => exact nomatch (Program.run_done.mp hrun).2
    | ok response =>
      have hassembled := (Program.run_ofExcept.mp hrun).2
      cases response with
      | error message => exact nomatch hassembled
      | success auth => exact ⟨auth, rfl⟩

/-- A check that goes on found the signer. -/
theorem readCheck_eq_ok {notFound : JsError} {reply : Except JsError Bool} :
    (readCheck notFound reply).isOk = true ↔ reply = .ok true := by
  cases reply with
  | error error => exact iff_of_false (by simp [readCheck, Except.isOk, Except.toBool]) (by simp)
  | ok available => cases available <;> simp [readCheck, Except.isOk, Except.toBool]

theorem checkSelection_services (run : MultiSignerRun) : UsesServices (checkSelection run) := by
  refine Program.exchanges_bind (Program.exchanges_mapError (log_services _ _ _)) fun _ _ _ => ?_
  refine Program.exchanges_bind (Program.exchanges_forEach_of_body fun walletSigner _ _ => ?_)
    fun _ _ _ => ?_
  · exact Program.exchanges_await rfl fun reply hok => readCheck_eq_ok.mp hok
  · exact Program.exchanges_forEach_of_body fun ed25519Signer _ _ =>
      Program.exchanges_await rfl fun reply hok => readCheck_eq_ok.mp hok

/-- What every request of the signing of a submission is. -/
theorem asked_signAndPrepare {x : Except JsError Transaction}
    (hrun : Program.Run (signAndPrepare run authEntries) t x) (he : e ∈ t) :
    SubmissionRequest run authEntries t e.request := by
  rcases Program.mem_bind hrun he with ⟨t₁, _, -, hlog, he⟩ | ⟨_, _, t₁, ht, -, hrest, he⟩
  · exact (log_services _ _ _).submissionRequest hlog he
  refine SubmissionRequest.mono (t := t₁) (ht ▸ (List.suffix_append _ _).isInfix) ?_
  rcases Program.mem_bind hrest he with ⟨t₃, _, -, hledger, he⟩ | ⟨_, _, t₃, ht, -, hrest, he⟩
  · obtain ⟨reply, rfl, -⟩ := Program.run_await.mp hledger
    rw [List.mem_singleton.mp he]
    exact .service _ rfl
  refine SubmissionRequest.mono (t := t₃) (ht ▸ (List.suffix_append _ _).isInfix) ?_
  rcases Program.mem_bind hrest he with ⟨_, _, -, hdefault, he⟩ | ⟨_, _, t₄, ht, -, hrest, he⟩
  · rw [(Program.run_ofExcept.mp hdefault).1] at he
    exact absurd he List.not_mem_nil
  refine SubmissionRequest.mono (t := t₄) (ht ▸ (List.suffix_append _ _).isInfix) ?_
  rcases Program.mem_bind hrest he with ⟨t₅, _, ht₅, hloop, he⟩ | ⟨_, _, t₅, ht, -, hrest, he⟩
  · obtain ⟨⟨entry, index⟩, hentry, state, t₆, _, ht₆, hsign, he⟩ := Program.mem_forEach hloop he
    exact (asked_signEntry (List.mem_zipIdx_iff_getElem?.mp hentry) hsign he).mono (ht₆.trans ht₅)
  rcases Program.mem_bind hrest he with ⟨t₆, _, -, hlog, he⟩ | ⟨_, _, t₆, -, -, hrest, he⟩
  · exact (log_services _ _ _).submissionRequest hlog he
  rcases Program.mem_bind hrest he with ⟨t₇, _, -, hsource, he⟩ | ⟨_, _, t₇, -, -, hrest, he⟩
  · exact (resolveResimSource_services _ _).submissionRequest hsource he
  rcases Program.mem_bind hrest he with ⟨t₈, _, -, hprepare, he⟩ | ⟨_, _, t₈, -, -, hrest, he⟩
  · exact (resimulateAndAssemble_services _ _ _).submissionRequest hprepare he
  rcases Program.mem_bind hrest he with ⟨_, _, -, hsign, he⟩ | ⟨_, _, t₉, -, -, hrest, he⟩
  · rw [(Program.run_ofExcept.mp hsign).1] at he
    exact absurd he List.not_mem_nil
  rcases Program.mem_bind hrest he with ⟨t₁₀, _, -, hlog, he⟩ | ⟨_, _, _, -, -, hlast, he⟩
  · exact (log_services _ _ _).submissionRequest hlog he
  · rw [(Program.run_pure.mp hlast).1] at he
    exact absurd he List.not_mem_nil

theorem asked_signAndSend {x : Except JsError TransactionResult}
    (hrun : Program.Run (signAndSend run authEntries) t x) (he : e ∈ t) :
    e.request.kind ≠ .signature ∨ SubmissionRequest run authEntries t e.request := by
  rcases Program.mem_bind hrun he with ⟨t₁, _, ht₁, hprepare, he⟩ |
    ⟨prepared, _, _, -, -, hlast, he⟩
  · obtain ⟨_, hprepare, -⟩ := Program.run_attempt.mp hprepare
    exact Or.inr ((asked_signAndPrepare hprepare he).mono ht₁)
  · cases prepared with
    | ok preparedTx =>
      obtain ⟨_, rfl, -⟩ := Program.run_await.mp hlast
      rw [List.mem_singleton.mp he]
      exact Or.inl RequestKind.noConfusion
    | error err =>
      rw [(Program.run_pure.mp hlast).1] at he
      exact absurd he List.not_mem_nil

theorem kind_ne_signature {request : Request} (h : request.kind = .service) :
    request.kind ≠ .signature := by
  rw [h]
  exact RequestKind.noConfusion

/-- A transaction without entries is submitted without a signature of a key. -/
theorem asked_submitDirect {config : KitConfig} {transaction : Transaction}
    {options : MultiSignerOptions} {x : Except JsError TransactionResult}
    (hrun : Program.Run (submitDirect config transaction options) t x) (he : e ∈ t) :
    e.request.kind ≠ .signature := by
  rcases Program.mem_bind hrun he with ⟨t₁, _, -, hprepare, he⟩ | ⟨prepared, _, _, -, -, hlast, he⟩
  · obtain ⟨_, hprepare, -⟩ := Program.run_attempt.mp hprepare
    have hservices : UsesServices (prepareDirect config transaction options) :=
      Program.exchanges_bind (log_services _ _ _) fun _ _ _ => Program.exchanges_done
    exact kind_ne_signature (hservices t₁ _ hprepare e he).1
  · cases prepared with
    | ok preparedTx =>
      obtain ⟨_, rfl, -⟩ := Program.run_await.mp hlast
      rw [List.mem_singleton.mp he]
      exact RequestKind.noConfusion
    | error err =>
      rw [(Program.run_pure.mp hlast).1] at he
      exact absurd he List.not_mem_nil

/-- A request of a submission asks no key, or is one of the signing before it. -/
theorem asked_submitWithSelectedSigners {config : KitConfig} {hostFunc : HostFunction}
    {selectedSigners : List SelectedSigner} {options : MultiSignerOptions}
    {allowWalletMutation : Bool} {x : Except JsError TransactionResult}
    (hrun : Program.Run (submitWithSelectedSigners config hostFunc authEntries selectedSigners
      options allowWalletMutation) t x) (he : e ∈ t) :
    e.request.kind ≠ .signature ∨
      ∃ contractId, nonEmptyText config.contractId = some contractId ∧
        SubmissionRequest ⟨config, contractId, hostFunc, selectedSigners, options,
          allowWalletMutation⟩ authEntries t e.request := by
  unfold submitWithSelectedSigners at hrun
  cases hconnected : nonEmptyText config.contractId with
  | none =>
    rw [hconnected] at hrun
    rw [(Program.run_pure.mp hrun).1] at he
    exact absurd he List.not_mem_nil
  | some contractId =>
    rw [hconnected] at hrun
    rcases Program.mem_bind hrun he with ⟨t₁, _, -, hcheck, he⟩ | ⟨checked, _, t₂, ht, -, hrest, he⟩
    · obtain ⟨_, hcheck, -⟩ := Program.run_attempt.mp hcheck
      exact Or.inl (kind_ne_signature (checkSelection_services _ t₁ _ hcheck e he).1)
    · cases checked with
      | ok _ =>
        refine (asked_signAndSend hrest he).imp_right fun h => ⟨contractId, rfl, ?_⟩
        exact h.mono (ht ▸ (List.suffix_append _ _).isInfix)
      | error exit =>
        cases exit with
        | returned err =>
          rw [(Program.run_pure.mp hrest).1] at he
          exact absurd he List.not_mem_nil
        | thrown err =>
          rw [(Program.run_throw.mp hrest).1] at he
          exact absurd he List.not_mem_nil

/-- A request of an operation asks no key, or is one of the signing of its entries. -/
theorem asked_submitOperation {config : KitConfig} {built : Option BuiltTransaction}
    {selectedSigners : List SelectedSigner} {options : MultiSignerOptions}
    {allowWalletMutation : Bool} {x : Except JsError TransactionResult}
    (hrun : Program.Run (submitOperation config built selectedSigners options allowWalletMutation)
      t x) (he : e ∈ t) :
    e.request.kind ≠ .signature ∨
      ∃ contractId transaction, nonEmptyText config.contractId = some contractId ∧
        invokedTransaction built = .ok transaction ∧
        SubmissionRequest ⟨config, contractId, transaction.func, selectedSigners, options,
          allowWalletMutation⟩ transaction.auth t e.request := by
  unfold submitOperation at hrun
  cases hbuilt : invokedTransaction built with
  | error err =>
    rw [hbuilt] at hrun
    rw [(Program.run_pure.mp hrun).1] at he
    exact absurd he List.not_mem_nil
  | ok transaction =>
    rw [hbuilt] at hrun
    dsimp only at hrun
    split_ifs at hrun
    · exact Or.inl (asked_submitDirect hrun he)
    · refine (asked_submitWithSelectedSigners hrun he).imp_right fun ⟨contractId, hid, h⟩ => ?_
      exact ⟨contractId, transaction, hid, rfl, h⟩

end submission

end SmartAccountKit
