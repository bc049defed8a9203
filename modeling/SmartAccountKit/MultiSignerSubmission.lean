import SmartAccountKit.MultiSignerPayloads

/-!
# What a multi-signer operation submits

A submission is reached only where every step before it succeeded. It submits
the entries in order, each as its keys have signed it.
-/

namespace SmartAccountKit
open Lib

/-! ## Delegated signers -/

/-- The entry of a delegated signer: the wallet signed the preimage with its nonce, its expiration
and its call, and its signature is the wallet's answer. -/
def DelegatedSigned (run : MultiSignerRun) (digest : EntryAuthDigest) (expiration : UInt32)
    (t : History Environment) (walletAddress : String) (delegated : SorobanAuthorizationEntry) :
    Prop :=
  ∃ (contract : ScAddress) (publicKey : BytesN 32) (nonce : Int64) (signature : String)
    (args : DigestArgs),
    contract.toStrkey = some run.contractId ∧
    (ScAddress.account publicKey).toStrkey = some walletAddress ∧
    ⟨.walletSignAuthEntry (.sorobanAuthorization (networkId run.config.networkPassphrase) nonce
      expiration (checkAuthInvocation contract digest.delegatedAuthArgs)) walletAddress
      (some args), .ok signature⟩ ∈ t ∧
    delegated =
      { credentials := .address
          { address := .account publicKey
            nonce
            signatureExpirationLedger := expiration
            signature := buildAddressSignatureScVal publicKey.1 (fromBase64 signature) }
        rootInvocation := checkAuthInvocation contract digest.delegatedAuthArgs }

theorem run_signWithWallet {preimage : HashIdPreimage} {address : String}
    {args : Option DigestArgs} {t : History Environment} {result : ScAddress × ScVal}
    (hrun : Program.Run (signWithWallet preimage address args) t (.ok result)) :
    ∃ (signature : String) (publicKey : BytesN 32),
      t = [⟨.walletSignAuthEntry preimage address args, .ok signature⟩] ∧
      (ScAddress.account publicKey).toStrkey = some address ∧
      result = (.account publicKey,
        buildAddressSignatureScVal publicKey.1 (fromBase64 signature)) := by
  obtain ⟨signature, t₁, t₂, rfl, hask, hrest⟩ := Program.run_bind_ok.mp hrun
  obtain ⟨reply, rfl, hreply⟩ := Program.run_await.mp hask
  obtain ⟨scAddress, haddress, hrest⟩ := Program.run_ofExcept_bind_ok.mp hrest
  obtain ⟨publicKey, hkey, hlast⟩ := Program.run_ofExcept_bind_ok.mp hrest
  obtain ⟨rfl, hresult⟩ := Program.run_pure.mp hlast
  rw [toScAddress_eq_ok] at haddress
  cases scAddress with
  | account ed25519 =>
    rw [accountKey, Except.ok.injEq] at hkey
    subst hkey
    refine ⟨signature, ed25519, ?_, haddress, Except.ok.inj hresult⟩
    rw [show reply = .ok signature from hreply.symm]
    rfl
  | _ => exact nomatch hkey

theorem run_delegatedAuthEntry {run : MultiSignerRun} {digested : DigestedEntry}
    {expiration : UInt32} {walletAddress : String} {t : History Environment}
    {delegated : SorobanAuthorizationEntry}
    (hrun : Program.Run (delegatedAuthEntry run digested expiration walletAddress) t
      (.ok delegated)) :
    DelegatedSigned run digested.digest expiration t walletAddress delegated := by
  obtain ⟨_, t₀, t', rfl, -, hrest⟩ := Program.run_bind_ok.mp hrun
  obtain ⟨nonce, t₁, t₂, rfl, -, hrest⟩ := Program.run_bind_ok.mp hrest
  obtain ⟨contract, hcontract, hrest⟩ := Program.run_ofExcept_bind_ok.mp hrest
  obtain ⟨signed, t₃, t₄, rfl, hwallet, hlast⟩ := Program.run_bind_ok.mp hrest
  obtain ⟨rfl, hresult⟩ := Program.run_pure.mp hlast
  obtain ⟨signature, publicKey, rfl, haddress, rfl⟩ := run_signWithWallet hwallet
  exact ⟨contract, publicKey, nonce, signature, digested.args, toScAddress_eq_ok.mp hcontract,
    haddress, by simp, Except.ok.inj hresult⟩

theorem DelegatedSigned.mono {run : MultiSignerRun} {digest : EntryAuthDigest}
    {expiration : UInt32} {t t' : History Environment} {walletAddress : String}
    {delegated : SorobanAuthorizationEntry} (ht : ∀ e ∈ t, e ∈ t')
    (h : DelegatedSigned run digest expiration t walletAddress delegated) :
    DelegatedSigned run digest expiration t' walletAddress delegated := by
  obtain ⟨contract, publicKey, nonce, signature, args, hcontract, haddress, hmem, heq⟩ := h
  exact ⟨contract, publicKey, nonce, signature, args, hcontract, haddress, ht _ hmem, heq⟩

/-- Each wallet signer with an address has its entry, in order. -/
theorem run_delegatedAuthEntries {run : MultiSignerRun} {digested : DigestedEntry}
    {expiration : UInt32} {t : History Environment} {delegated : List SorobanAuthorizationEntry}
    (hrun : Program.Run (delegatedAuthEntries run digested expiration) t (.ok delegated)) :
    List.Forall₂ (fun walletSigner entry =>
        DelegatedSigned run digested.digest expiration t walletSigner.1 entry)
      run.walletAddresses delegated := by
  unfold delegatedAuthEntries at hrun
  split_ifs at hrun with hnone
  · have haddresses : run.walletAddresses = [] := by
      rw [MultiSignerRun.walletAddresses, List.isEmpty_iff.mp hnone]
      rfl
    rw [Except.ok.inj (Program.run_pure.mp hrun).2, haddresses]
    exact List.Forall₂.nil
  · obtain ⟨_, t₁, t₂, rfl, -, hcollect⟩ := Program.run_bind_ok.mp hrun
    refine List.Forall₂.imp (fun walletSigner entry ⟨t₃, hwithin, hround⟩ => ?_)
      (Program.run_collect hcollect)
    exact (run_delegatedAuthEntry hround).mono fun exchange hmem =>
      List.mem_append_right t₁ (hwithin.subset hmem)

/-! ## Entries as they are submitted -/

/-- A smart-account entry as its keys have signed it. Every signature asked for is over the digest
that the submitted entry itself has, each External signer stands in its payload with what a key
answered, and each delegated signer stands there with empty bytes and has an entry of its own. -/
structure SmartAccountSigned (run : MultiSignerRun) (scheme : AuthDigestScheme)
    (entry signed : SorobanAuthorizationEntry) (delegated : List SorobanAuthorizationEntry)
    (t : History Environment) (c : SorobanAddressCredentials) (payload : AuthPayload)
    (digest : EntryAuthDigest) : Prop where
  ownEntry : getAuthEntryAddress entry = .ok run.contractId
  changed : signed = (entry.setExpiration c.signatureExpirationLedger).setSignature c.signature
  payloadOf : PayloadOf signed c payload
  computed : computeEntryAuthDigest run.config.networkPassphrase signed
    (.ofU32 c.signatureExpirationLedger) payload.contextRuleIds scheme = .ok (signed, digest)
  signatures : ∀ e ∈ signatureExchanges t, e.request.SignsDigest digest
  externalSigners : ∀ selected ∈ run.selectedSigners, ∀ object verifier keyData,
    selected.signer = some object → object.signer = .external verifier keyData → keyData ≠ [] →
    HasSignature (Answered t) payload object.signer
  delegatedSigners : ∀ walletSigner ∈ run.walletAddresses, ∃ object,
    walletSigner.2.signer = some object ∧ HasEmptySignature payload object.signer
  delegatedEntries : List.Forall₂ (fun walletSigner entry =>
      DelegatedSigned run digest c.signatureExpirationLedger t walletSigner.1 entry)
    run.walletAddresses delegated

/-- An entry of a selected wallet: the wallet signed the preimage that the submitted entry has. -/
def SeparateSigned (run : MultiSignerRun) (entry signed : SorobanAuthorizationEntry)
    (t : History Environment) : Prop :=
  ∃ (c : SorobanAddressCredentials) (address : String) (preimage : HashIdPreimage)
    (signature : String),
    signed.addressCredentials? = some c ∧
    signed = (entry.setExpiration c.signatureExpirationLedger).setSignature c.signature ∧
    getAuthEntryAddress entry = .ok address ∧ address ≠ run.contractId ∧
    buildSignaturePreimage run.config.networkPassphrase signed
      (.ofU32 c.signatureExpirationLedger) = .ok (signed, preimage) ∧
    signatureExchanges t = [⟨.walletSignAuthEntry preimage address none, .ok signature⟩]

/-- What a submission makes of one entry: the entries that it submits for it and the exchanges of
signing them. -/
structure SubmittedPart where
  entry : SorobanAuthorizationEntry
  submitted : List SorobanAuthorizationEntry
  history : History Environment

/-- How an entry is submitted: as it is, as a wallet signed it, or as the keys of the smart account
signed it, followed by the entries of the delegated signers. -/
inductive SubmittedPart.Signed (run : MultiSignerRun) (scheme : Option AuthDigestScheme) :
    SubmittedPart → Prop where
  | sourceAccount (entry : SorobanAuthorizationEntry) (t : History Environment)
      (h : entry.credentials = .sourceAccount) (ht : t = []) :
    SubmittedPart.Signed run scheme ⟨entry, [entry], t⟩
  | separate (entry signed : SorobanAuthorizationEntry) (t : History Environment)
      (h : SeparateSigned run entry signed t) :
    SubmittedPart.Signed run scheme ⟨entry, [signed], t⟩
  | smartAccount (entry signed : SorobanAuthorizationEntry)
      (delegated : List SorobanAuthorizationEntry) (t : History Environment)
      (scheme' : AuthDigestScheme) (c : SorobanAddressCredentials) (payload : AuthPayload)
      (digest : EntryAuthDigest) (hscheme : scheme = some scheme')
      (h : SmartAccountSigned run scheme' entry signed delegated t c payload digest) :
    SubmittedPart.Signed run scheme ⟨entry, signed :: delegated, t⟩

/-- The credentials of a version hold what the version changed. -/
theorem EntryVersion.credentials {entry version : SorobanAuthorizationEntry} {expiration : UInt32}
    {ids : List JsNumber} {c : SorobanAddressCredentials}
    (h : EntryVersion entry expiration ids version) (hc : version.addressCredentials? = some c) :
    c.signatureExpirationLedger = expiration ∧
      version = (entry.setExpiration c.signatureExpirationLedger).setSignature c.signature := by
  obtain ⟨v, rfl⟩ := h.signature
  simp only [SorobanAuthorizationEntry.setSignature_addressCredentials?,
    SorobanAuthorizationEntry.setExpiration_addressCredentials?, Option.map_map,
    Option.map_eq_some_iff] at hc
  obtain ⟨_, -, rfl⟩ := hc
  exact ⟨rfl, rfl⟩

section parts

variable {run : MultiSignerRun} {entry : SorobanAuthorizationEntry} {index : ℕ}
  {expiration : UInt32} {t : History Environment}

theorem SubmittedPart.Signed.mono {scheme scheme' : Option AuthDigestScheme}
    {part : SubmittedPart} (hscheme : ∀ s, scheme = some s → scheme' = some s)
    (h : part.Signed run scheme) : part.Signed run scheme' := by
  cases h with
  | sourceAccount entry t h ht => exact .sourceAccount entry t h ht
  | separate entry signed t h => exact .separate entry signed t h
  | smartAccount entry signed delegated t s c payload digest hs h =>
    exact .smartAccount entry signed delegated t s c payload digest (hscheme s hs) h

/-- A request for a key of an entry signs the one digest of the entry. -/
theorem EntryRequest.signsDigest {ids : List JsNumber} {scheme : AuthDigestScheme}
    {request : Request} {e : SorobanAuthorizationEntry} {digest : EntryAuthDigest}
    (hdigest : computeEntryAuthDigest run.config.networkPassphrase entry (.ofU32 expiration) ids
      scheme = .ok (e, digest))
    (h : EntryRequest run entry expiration ids scheme request) (hkind : request.kind = .signature) :
    request.SignsDigest digest := by
  have hsame : ∀ (args : DigestArgs) (digest' : EntryAuthDigest),
      SignedArgs run entry expiration ids scheme args digest' → digest' = digest := by
    intro args digest' h
    have hcomputed := h.computed
    rw [h.args_eq] at hcomputed
    obtain ⟨e', he'⟩ := h.version.digest_iff.mp hcomputed
    rw [hdigest, Except.ok.injEq, Prod.mk.injEq] at he'
    exact he'.2.symm
  cases h with
  | passkey args digest' credentialId h => rw [hsame args digest' h]; rfl
  | ed25519 args digest' publicKey h => rw [hsame args digest' h]; rfl
  | delegated args digest' contract nonce address h hcontract =>
    rw [hsame args digest' h]
    exact ⟨contract, rfl⟩
  | service _ h => rw [h] at hkind; exact nomatch hkind

/-- The keys of a smart-account entry sign the digest that the submitted entry has. -/
theorem run_signForContextRuleIds {ids : List JsNumber} {scheme : AuthDigestScheme}
    {entries : List SorobanAuthorizationEntry}
    (hown : getAuthEntryAddress entry = .ok run.contractId)
    (hbuilt : ∀ selected ∈ run.selectedSigners, BuiltFromSigner selected)
    (hrun : Program.Run (signForContextRuleIds run (entry.setExpiration expiration) expiration
      scheme ids) t (.ok entries)) :
    ∃ signed delegated c payload digest, entries = signed :: delegated ∧
      SmartAccountSigned run scheme entry signed delegated t c payload digest := by
  have hrequests := exchanges_signForContextRuleIds run entry expiration scheme ids t _ hrun
  obtain ⟨c₀, hc₀, hrun⟩ := Program.run_ofExcept_bind_ok.mp hrun
  obtain ⟨payload₀, hpayload₀, hrun⟩ := Program.run_ofExcept_bind_ok.mp hrun
  obtain ⟨_, hsame, hrun⟩ := Program.run_ofExcept_bind_ok.mp hrun
  have hversion := version_of_checks hc₀ hpayload₀ hsame
  obtain ⟨current, t₁, t', ht, hpasskeys, hrun⟩ := Program.run_bind_ok.mp hrun
  obtain ⟨hcurrent, hsome⟩ := run_signWithPasskeys hversion hpasskeys
  obtain ⟨digested, hdigest, hrun⟩ := Program.run_ofExcept_bind_ok.mp hrun
  have hdigested := digestSignedEntry_eq_ok hcurrent hsome hdigest
  obtain ⟨authPayload, t₂, t'', ht', hed25519, hrun⟩ := Program.run_bind_ok.mp hrun
  have hids : authPayload.contextRuleIds = ids := by
    refine Program.run_forEach (fun _ _ payload => payload.contextRuleIds = ids)
      hdigested.contextRuleIds ?_ hed25519
    intro _ _ _ payload _ payload' _ hinv hbody
    rw [signWithEd25519_contextRuleIds hbody, hinv]
  have hexternal := run_signWithEd25519s hdigested hversion hpasskeys hed25519
  obtain ⟨signature, hwrite, hrun⟩ := Program.run_ofExcept_bind_ok.mp hrun
  obtain ⟨delegated, t₃, t₄, ht'', hdelegated, hlast⟩ := Program.run_bind_ok.mp hrun
  obtain ⟨rfl, hentries⟩ := Program.run_pure.mp hlast
  have hids' : (run.walletAddresses.foldl addDelegatedSigner authPayload).contextRuleIds = ids := by
    rw [foldl_addDelegatedSigner_contextRuleIds, hids]
  -- the submitted entry is a version of the entry, so it has the digest that was signed
  have hsigned := hcurrent.setSignature hwrite hids'
  obtain ⟨c, payload, hc, -⟩ := hsigned.payload
  obtain ⟨hledger, hchanged⟩ := hsigned.credentials hc.1
  have hsignature : c.signature = signature := setSignature_signature hc.1
  have hread : readAuthPayload signature = .ok payload := hsignature ▸ hc.2
  have hpayloadIds : payload.contextRuleIds = ids := by
    obtain ⟨ps, -, hps⟩ := readAuthPayload_writeAuthPayload hwrite
    rw [hread, Except.ok.injEq] at hps
    rw [hps, hids']
  have hcomputed := hdigested.args.computed
  rw [hdigested.args.args_eq] at hcomputed
  obtain ⟨e, he⟩ := hdigested.args.version.digest_iff.mp hcomputed
  refine ⟨_, delegated, c, payload, digested.digest, Except.ok.inj hentries, ?_⟩
  rw [hdigested.signed]
  exact {
    ownEntry := hown
    changed := hchanged
    payloadOf := hc
    computed := by
      rw [hledger, hpayloadIds]
      exact hsigned.digest_iff.mpr ⟨e, he⟩
    signatures := fun exchange hmem =>
      (hrequests exchange (List.mem_of_mem_filter hmem)).1.signsDigest he
        (by simpa using (List.mem_filter.mp hmem).2)
    externalSigners := by
      intro selected hmem object verifier keyData hobject hsigner hkey
      have hsigns := mem_externalSigners hmem (hbuilt selected hmem) hobject hsigner hkey
      have hhas : HasSignature (Answered t) authPayload object.signer :=
        (hexternal selected hsigns object hobject).mono fun _ h => h.mono fun e he => by
          rw [ht, ht', ← List.append_assoc]
          exact List.mem_append_left _ he
      -- the wallets are other signers
      refine (hhas.addDelegatedSigners fun walletSigner hwallet object' hobject' hsame => ?_).read
        hwrite hread
      obtain ⟨address, hdelegated⟩ := delegated_of_mem_walletAddresses hbuilt hwallet hobject'
      rw [hsame, hsigner] at hdelegated
      exact absurd hdelegated (by simp)
    delegatedSigners := fun walletSigner hmem => by
      obtain ⟨object, hobject⟩ := Option.isSome_iff_exists.mp
        (hdigested.metadata walletSigner hmem)
      exact ⟨object, hobject, (hasEmptySignature_foldl hmem hobject).read hwrite hread⟩
    delegatedEntries := by
      rw [hledger]
      refine List.Forall₂.imp (fun walletSigner entry hsigned => hsigned.mono fun exchange hmem => ?_)
        (run_delegatedAuthEntries hdelegated)
      rw [ht, ht', ht'', List.append_nil]
      exact List.mem_append_right _ (List.mem_append_right _ hmem) }

theorem SmartAccountSigned.mono {scheme : AuthDigestScheme}
    {signed : SorobanAuthorizationEntry} {delegated : List SorobanAuthorizationEntry}
    {c : SorobanAddressCredentials} {payload : AuthPayload} {digest : EntryAuthDigest}
    {t' : History Environment} (ht : ∀ e ∈ t, e ∈ t')
    (hsignatures : signatureExchanges t' = signatureExchanges t)
    (h : SmartAccountSigned run scheme entry signed delegated t c payload digest) :
    SmartAccountSigned run scheme entry signed delegated t' c payload digest where
  ownEntry := h.ownEntry
  changed := h.changed
  payloadOf := h.payloadOf
  computed := h.computed
  signatures := hsignatures ▸ h.signatures
  externalSigners := fun selected hmem object verifier keyData hobject hsigner hkey =>
    (h.externalSigners selected hmem object verifier keyData hobject hsigner hkey).mono
      fun _ hanswered => hanswered.mono ht
  delegatedSigners := h.delegatedSigners
  delegatedEntries := List.Forall₂.imp (fun _ _ h => h.mono ht) h.delegatedEntries

/-- A wallet signs the preimage of the entry that is submitted. -/
theorem run_signSeparateEntry {address : String} {signed : SorobanAuthorizationEntry}
    (haddress : getAuthEntryAddress entry = .ok address) (hother : address ≠ run.contractId)
    (hrun : Program.Run (signSeparateEntry run entry address expiration) t (.ok signed)) :
    SeparateSigned run entry signed t := by
  obtain ⟨_, -, hrun⟩ := Program.run_ofExcept_bind_ok.mp hrun
  obtain ⟨available, t₁, t₂, rfl, havailable, hsign⟩ := Program.run_bind_ok.mp hrun
  obtain ⟨reply, rfl, -⟩ := Program.run_await.mp havailable
  obtain ⟨_, -, hsign⟩ := Program.run_ofExcept_bind_ok.mp hsign
  obtain ⟨_, t₀, t₂, rfl, hlog, hsign⟩ := Program.run_bind_ok.mp hsign
  have hnone := (log_services _ _ _).signatureExchanges hlog
  obtain ⟨_, -, hsign⟩ := Program.run_ofExcept_bind_ok.mp hsign
  obtain ⟨⟨prepared, preimage⟩, hpreimage, hsign⟩ := Program.run_ofExcept_bind_ok.mp hsign
  obtain ⟨result, t₃, t₄, rfl, hwallet, hlast⟩ := Program.run_bind_ok.mp hsign
  obtain ⟨rfl, hsigned⟩ := Program.run_pure.mp hlast
  obtain ⟨signature, publicKey, rfl, -, rfl⟩ := run_signWithWallet hwallet
  have hexchanges : ∀ preimage : HashIdPreimage,
      signatureExchanges ([⟨.canSignFor .signing address, reply⟩] ++
        (t₀ ++ ([⟨.walletSignAuthEntry preimage address none, .ok signature⟩] ++ []))) =
      [⟨.walletSignAuthEntry preimage address none, .ok signature⟩] := by
    intro preimage
    simp only [signatureExchanges_append, hnone, List.nil_append, List.append_nil]
    rfl
  obtain ⟨c, ledger, hc, hledger, rfl, rfl⟩ := buildSignaturePreimage_eq_ok.mp hpreimage
  rw [normalizeSignatureExpirationLedger_ofU32, Except.ok.injEq] at hledger
  subst hledger
  rw [Except.ok.inj hsigned]
  dsimp only
  generalize buildAddressSignatureScVal publicKey.1 (fromBase64 signature) = v
  have hcredentials : ((entry.setExpiration expiration).setSignature v).addressCredentials? =
      some { c with signatureExpirationLedger := expiration, signature := v } := by
    simp [hc]
  refine ⟨_, address, _, signature, hcredentials, rfl, haddress, hother, ?_, hexchanges _⟩
  refine buildSignaturePreimage_eq_ok.mpr ⟨_, expiration, hcredentials, by simp, by simp, ?_⟩
  obtain ⟨credentials, root⟩ := entry
  cases credentials <;> cases hc <;> rfl

/-- A run knows its scheme from the code of the wallet. -/
def SchemeResolved (run : MultiSignerRun) (t : History Environment)
    (scheme : Option AuthDigestScheme) : Prop :=
  ∀ s, scheme = some s → ∃ executable,
    ⟨.getContractInstance run.contractId, .ok executable⟩ ∈ t ∧
    KitConfig.schemeOfInstance run.config.upgradeTargetPolicy.authDigestSchemes run.contractId
      executable = .ok s

theorem run_submissionScheme {scheme : Option AuthDigestScheme} {scheme' : AuthDigestScheme}
    (hrun : Program.Run (submissionScheme run scheme) t (.ok scheme')) :
    (∀ s, scheme = some s → scheme' = s) ∧
      (scheme = none → SchemeResolved run t (some scheme')) := by
  cases scheme with
  | some s =>
    have hsame := Except.ok.inj (Program.run_pure.mp hrun).2
    exact ⟨fun _ h => by rw [hsame, Option.some.inj h], fun h => nomatch h⟩
  | none =>
    refine ⟨fun _ h => (nomatch h), fun _ s hs => ?_⟩
    obtain ⟨executable, t₁, t₂, rfl, hread, hlast⟩ := Program.run_bind_ok.mp hrun
    obtain ⟨reply, rfl, hreply⟩ := Program.run_await.mp hread
    obtain ⟨rfl, hscheme⟩ := Program.run_ofExcept.mp hlast
    rw [← Option.some.inj hs]
    refine ⟨executable, ?_, hscheme.symm⟩
    rw [show reply = .ok executable from hreply.symm]
    exact List.mem_singleton_self _

/-- What one round of the loop over the entries does. -/
structure EntryRound (run : MultiSignerRun) (entry : SorobanAuthorizationEntry)
    (state state' : SigningState) (t : History Environment) (part : SubmittedPart) : Prop where
  entry_eq : part.entry = entry
  history_eq : part.history = t
  pushed : state'.signedAuthEntries = state.signedAuthEntries ++ part.submitted
  signed : part.Signed run state'.authDigestScheme
  keeps : ∀ s, state.authDigestScheme = some s → state'.authDigestScheme = some s
  resolved : state.authDigestScheme = none → SchemeResolved run t state'.authDigestScheme

theorem run_signAddressEntry {state state' : SigningState}
    (hbuilt : ∀ selected ∈ run.selectedSigners, BuiltFromSigner selected)
    (hrun : Program.Run (signAddressEntry run state entry index expiration) t (.ok state')) :
    ∃ part, EntryRound run entry state state' t part := by
  obtain ⟨address, haddress, hrun⟩ := Program.run_ofExcept_bind_ok.mp hrun
  split_ifs at hrun with hother
  · obtain ⟨signed, t₁, t₂, rfl, hsign, hlast⟩ := Program.run_bind_ok.mp hrun
    obtain ⟨rfl, hstate⟩ := Program.run_pure.mp hlast
    rw [Except.ok.inj hstate, List.append_nil]
    exact ⟨_, rfl, rfl, rfl, .separate entry signed t₁ (run_signSeparateEntry haddress hother hsign),
      fun _ h => h, fun hnone s hs => by rw [SigningState.push, hnone] at hs; exact nomatch hs⟩
  · rw [not_not] at hother
    obtain ⟨_, -, hrun⟩ := Program.run_ofExcept_bind_ok.mp hrun
    obtain ⟨scheme, t₁, t', rfl, hscheme, hrun⟩ := Program.run_bind_ok.mp hrun
    obtain ⟨entries, t₂, t'', rfl, hsign, hlast⟩ := Program.run_bind_ok.mp hrun
    obtain ⟨rfl, hstate⟩ := Program.run_pure.mp hlast
    obtain ⟨ids, t₃, t₄, rfl, hresolve, hsign⟩ := Program.run_bind_ok.mp hsign
    obtain ⟨signed, delegated, c, payload, digest, rfl, hsigned⟩ :=
      run_signForContextRuleIds (hother ▸ haddress) hbuilt hsign
    obtain ⟨hkeep, hresolved⟩ := run_submissionScheme hscheme
    rw [Except.ok.inj hstate]
    refine ⟨⟨entry, signed :: delegated, _⟩, rfl, rfl, rfl, ?_,
      fun s hs => congrArg some (hkeep s hs), fun hnone s hs => ?_⟩
    · refine .smartAccount entry signed delegated _ scheme c payload digest rfl
        (hsigned.mono (fun e he => by simp [he]) ?_)
      simp only [signatureExchanges_append,
        (submissionScheme_services run _).signatureExchanges hscheme,
        (submissionContextRuleIds_services run _ _).signatureExchanges hresolve,
        List.nil_append, List.append_nil]
    · obtain ⟨executable, hmem, hexecutable⟩ := hresolved hnone s hs
      exact ⟨executable, List.mem_append_left _ hmem, hexecutable⟩

theorem run_signEntry {state state' : SigningState} {defaultExpiration : UInt32}
    (hbuilt : ∀ selected ∈ run.selectedSigners, BuiltFromSigner selected)
    (hrun : Program.Run (signEntry run defaultExpiration state (entry, index)) t (.ok state')) :
    ∃ part, EntryRound run entry state state' t part := by
  unfold signEntry at hrun
  split at hrun
  · exact nomatch (Program.run_throw.mp hrun).2
  · rename_i hcredentials
    obtain ⟨rfl, hstate⟩ := Program.run_pure.mp hrun
    rw [Except.ok.inj hstate]
    exact ⟨_, rfl, rfl, rfl, .sourceAccount entry [] hcredentials rfl,
      fun _ h => h, fun hnone s hs => by rw [SigningState.push, hnone] at hs; exact nomatch hs⟩
  · exact run_signAddressEntry hbuilt hrun
  · exact run_signAddressEntry hbuilt hrun

/-- Entries as a run signs them: each entry has its part, in order, the parts account for every
signature that was asked for, and all of them have the one scheme that was resolved. -/
structure PartsOf (run : MultiSignerRun) (entries : List SorobanAuthorizationEntry)
    (t : History Environment) (submitted : List SorobanAuthorizationEntry)
    (scheme : Option AuthDigestScheme) (parts : List SubmittedPart) : Prop where
  entries_eq : parts.map SubmittedPart.entry = entries
  submitted_eq : submitted = parts.flatMap SubmittedPart.submitted
  signatures_eq : signatureExchanges t = parts.flatMap fun part => signatureExchanges part.history
  signed : ∀ part ∈ parts, part.Signed run scheme
  resolved : SchemeResolved run t scheme

theorem SchemeResolved.append {scheme : Option AuthDigestScheme}
    (h : SchemeResolved run t scheme) (t' : History Environment) :
    SchemeResolved run (t ++ t') scheme := by
  intro s hs
  obtain ⟨executable, hmem, hexecutable⟩ := h s hs
  exact ⟨executable, List.mem_append_left _ hmem, hexecutable⟩

theorem PartsOf.push {entries : List SorobanAuthorizationEntry} {state state' : SigningState}
    {parts : List SubmittedPart} {t' : History Environment} {part : SubmittedPart}
    (h : PartsOf run entries t state.signedAuthEntries state.authDigestScheme parts)
    (hround : EntryRound run entry state state' t' part) :
    PartsOf run (entries ++ [entry]) (t ++ t') state'.signedAuthEntries state'.authDigestScheme
      (parts ++ [part]) where
  entries_eq := by simp [h.entries_eq, hround.entry_eq]
  submitted_eq := by simp [hround.pushed, h.submitted_eq]
  signatures_eq := by simp [h.signatures_eq, hround.history_eq]
  signed p hp := by
    rcases List.mem_append.mp hp with hp | hp
    · exact (h.signed p hp).mono hround.keeps
    · rw [List.mem_singleton.mp hp]
      exact hround.signed
  resolved := by
    cases hscheme : state.authDigestScheme with
    | some s =>
      rw [hround.keeps s hscheme, ← hscheme]
      exact h.resolved.append t'
    | none =>
      intro s hs
      obtain ⟨executable, hmem, hexecutable⟩ := hround.resolved hscheme s hs
      exact ⟨executable, List.mem_append_right _ hmem, hexecutable⟩

theorem run_signEntries {authEntries : List SorobanAuthorizationEntry}
    {defaultExpiration : UInt32} {state' : SigningState}
    (hbuilt : ∀ selected ∈ run.selectedSigners, BuiltFromSigner selected)
    (hrun : Program.Run (Program.forEach authEntries.zipIdx
      { signedAuthEntries := [], authDigestScheme := none } (signEntry run defaultExpiration)) t
      (.ok state')) :
    ∃ parts, PartsOf run authEntries t state'.signedAuthEntries state'.authDigestScheme parts := by
  have hloop := Program.run_forEach
    (fun done t state => ∃ parts, PartsOf run (done.map Prod.fst) t state.signedAuthEntries
      state.authDigestScheme parts)
    ⟨[], rfl, rfl, rfl, by simp, by simp [SchemeResolved]⟩ ?_ hrun
  · rwa [List.zipIdx_map_fst] at hloop
  · intro done ⟨entry, index⟩ t₁ state t₂ state' _ ⟨parts, hparts⟩ hbody
    obtain ⟨part, hround⟩ := run_signEntry hbuilt hbody
    refine ⟨parts ++ [part], ?_⟩
    rw [List.map_append]
    exact hparts.push hround

end parts

/-! ## Submitting -/

/-- Not the submission itself. -/
def NotSubmission (request : Request) : Prop := request.kind ≠ .submission

theorem UsesServices.notSubmission {α : Type} {p : KitProgram α} (hp : UsesServices p) :
    Program.Exchanges NotSubmission Succeeded p :=
  Program.Exchanges.mono hp fun _ h hkind => by rw [h] at hkind; exact nomatch hkind

theorem EntryRequest.notSubmission {run : MultiSignerRun} {entry : SorobanAuthorizationEntry}
    {expiration : UInt32} {ids : List JsNumber} {scheme : AuthDigestScheme} {request : Request}
    (h : EntryRequest run entry expiration ids scheme request) : NotSubmission request := by
  intro hkind
  cases h with
  | service _ h => rw [h] at hkind; exact nomatch hkind
  | _ => exact nomatch hkind

theorem SubmissionRequest.notSubmission {run : MultiSignerRun}
    {authEntries : List SorobanAuthorizationEntry} {t : History Environment} {request : Request}
    (h : SubmissionRequest run authEntries t request) : NotSubmission request := by
  cases h with
  | service _ h => exact fun hkind => by rw [h] at hkind; exact nomatch hkind
  | separate => exact RequestKind.noConfusion
  | smartAccount _ _ _ _ _ _ _ _ _ _ _ _ h => exact h.notSubmission

/-- No step of the signing of an entry fails where the signing succeeds. -/
theorem exchanges_signAddressEntry (run : MultiSignerRun) (state : SigningState)
    (entry : SorobanAuthorizationEntry) (index : ℕ) (expiration : UInt32) :
    Program.Exchanges NotSubmission Succeeded
      (signAddressEntry run state entry index expiration) := by
  refine Program.exchanges_ofExcept_bind fun address haddress => ?_
  split_ifs with hother
  · have hentry : entry ∈ [entry] := List.mem_singleton_self entry
    exact Program.exchanges_bind ((exchanges_signSeparateEntry (t := []) hentry haddress
      hother).mono fun _ h => h.notSubmission) fun _ _ _ => Program.exchanges_done
  · refine Program.exchanges_ofExcept_bind fun _ _ => ?_
    refine Program.exchanges_bind (submissionScheme_services run _).notSubmission
      fun scheme _ _ => ?_
    refine Program.exchanges_bind (Program.exchanges_bind
      (submissionContextRuleIds_services run _ _).notSubmission fun ids _ _ => ?_)
      fun _ _ _ => Program.exchanges_done
    exact (exchanges_signForContextRuleIds run entry expiration scheme ids).mono
      fun _ h => h.notSubmission

theorem exchanges_signAndPrepare (run : MultiSignerRun)
    (authEntries : List SorobanAuthorizationEntry) :
    Program.Exchanges NotSubmission Succeeded (signAndPrepare run authEntries) := by
  refine Program.exchanges_bind (log_services _ _ _).notSubmission fun _ _ _ => ?_
  refine Program.exchanges_bind (Program.exchanges_await RequestKind.noConfusion fun _ hok => hok)
    fun sequence _ _ => ?_
  refine Program.exchanges_ofExcept_bind fun defaultExpiration _ => ?_
  refine Program.exchanges_bind (Program.exchanges_forEach_of_body fun indexed _ state => ?_)
    fun state _ _ => ?_
  · unfold signEntry
    split
    · exact Program.exchanges_done
    · exact Program.exchanges_done
    · exact exchanges_signAddressEntry run state indexed.1 indexed.2 _
    · exact exchanges_signAddressEntry run state indexed.1 indexed.2 _
  refine Program.exchanges_bind (log_services _ _ _).notSubmission fun _ _ _ => ?_
  refine Program.exchanges_bind (resolveResimSource_services _ _).notSubmission
    fun sourceAccount _ _ => ?_
  refine Program.exchanges_bind (resimulateAndAssemble_services _ _ _).notSubmission
    fun preparedTx _ _ => ?_
  refine Program.exchanges_ofExcept_bind fun signedTx _ => ?_
  exact Program.exchanges_bind (log_services _ _ _).notSubmission fun _ _ _ =>
    Program.exchanges_done

/-- The fee payer's signature changes no entry. -/
theorem signFeePayer_eq_ok {config : KitConfig} {transaction signed : Transaction}
    {forceMethod : Option SubmissionMethod}
    (h : config.signFeePayer transaction forceMethod = .ok signed) :
    signed.func = transaction.func ∧ signed.auth = transaction.auth := by
  unfold KitConfig.signFeePayer at h
  dsimp only at h
  split_ifs at h
  · obtain ⟨_, -, hsigned⟩ := except_bind_eq_ok.mp h
    rw [← except_pure_eq_ok.mp hsigned]
    exact ⟨rfl, rfl⟩
  · rw [← except_pure_eq_ok.mp h]
    exact ⟨rfl, rfl⟩

/-- The simulated transaction has the signed entries, if there are any. -/
theorem run_resimulateAndAssemble {sourceAccount : Account} {hostFunc : HostFunction}
    {entries : List SorobanAuthorizationEntry} {t : History Environment}
    {transaction : Transaction} (hsome : entries ≠ [])
    (hrun : Program.Run (resimulateAndAssemble sourceAccount hostFunc entries) t
      (.ok transaction)) : transaction.func = hostFunc ∧ transaction.auth = entries := by
  obtain ⟨response, _, _, -, -, hlast⟩ := Program.run_bind_ok.mp hrun
  have hassembled := (Program.run_ofExcept.mp hlast).2
  cases response with
  | error message => exact nomatch hassembled
  | success auth =>
    rw [assembleTransaction, if_neg (by simpa using hsome), Except.ok.injEq] at hassembled
    rw [hassembled]
    exact ⟨rfl, rfl⟩

/-- A signed and prepared transaction has the function and the entries as they were signed. -/
theorem run_signAndPrepare {run : MultiSignerRun} {authEntries : List SorobanAuthorizationEntry}
    {t : History Environment} {transaction : Transaction} (hsome : authEntries ≠ [])
    (hbuilt : ∀ selected ∈ run.selectedSigners, BuiltFromSigner selected)
    (hrun : Program.Run (signAndPrepare run authEntries) t (.ok transaction)) :
    transaction.func = run.hostFunc ∧
      ∃ scheme parts, PartsOf run authEntries t transaction.auth scheme parts := by
  obtain ⟨_, t₁, t', rfl, hfound, hrest⟩ := Program.run_bind_ok.mp hrun
  obtain ⟨sequence, t₂, t', rfl, hledger, hrest⟩ := Program.run_bind_ok.mp hrest
  obtain ⟨defaultExpiration, -, hrest⟩ := Program.run_ofExcept_bind_ok.mp hrest
  obtain ⟨state, t₃, t', rfl, hloop, hrest⟩ := Program.run_bind_ok.mp hrest
  obtain ⟨_, t₄, t', rfl, hresimulating, hrest⟩ := Program.run_bind_ok.mp hrest
  obtain ⟨sourceAccount, t₅, t', rfl, hsource, hrest⟩ := Program.run_bind_ok.mp hrest
  obtain ⟨preparedTx, t₆, t', rfl, hprepare, hrest⟩ := Program.run_bind_ok.mp hrest
  obtain ⟨signedTx, hsign, hrest⟩ := Program.run_ofExcept_bind_ok.mp hrest
  obtain ⟨_, t₇, t', rfl, hsubmitting, hlast⟩ := Program.run_bind_ok.mp hrest
  obtain ⟨rfl, hsigned⟩ := Program.run_pure.mp hlast
  obtain ⟨hfunc, hauth⟩ := signFeePayer_eq_ok hsign
  rw [← Except.ok.inj hsigned] at hfunc hauth
  obtain ⟨parts, hparts⟩ := run_signEntries hbuilt hloop
  have hledger' : UsesServices (Program.await .getLatestLedger id : KitProgram UInt32) :=
    Program.exchanges_await rfl fun _ hok => hok
  -- an entry gives at least one submitted entry
  have hsubmitted : state.signedAuthEntries ≠ [] := by
    rw [hparts.submitted_eq, Ne, List.flatMap_eq_nil_iff]
    intro hnone
    cases parts with
    | nil => exact hsome hparts.entries_eq.symm
    | cons part parts =>
      have hpart := hparts.signed part List.mem_cons_self
      have hnil := hnone part List.mem_cons_self
      cases hpart <;> exact nomatch hnil
  obtain ⟨hfunc', hauth'⟩ := run_resimulateAndAssemble hsubmitted hprepare
  refine ⟨hfunc.trans hfunc', state.authDigestScheme, parts, ?_⟩
  rw [hauth, hauth']
  exact {
    entries_eq := hparts.entries_eq
    submitted_eq := hparts.submitted_eq
    signatures_eq := by
      simp only [signatureExchanges_append, (log_services _ _ _).signatureExchanges hfound,
        hledger'.signatureExchanges hledger,
        (log_services _ _ _).signatureExchanges hresimulating,
        (resolveResimSource_services _ _).signatureExchanges hsource,
        (log_services _ _ _).signatureExchanges hsubmitting,
        (resimulateAndAssemble_services _ _ _).signatureExchanges hprepare, List.nil_append,
        List.append_nil, hparts.signatures_eq]
    signed := hparts.signed
    resolved := fun s hs => by
      obtain ⟨executable, hmem, hexecutable⟩ := hparts.resolved s hs
      exact ⟨executable, by simp [hmem], hexecutable⟩ }

/-- Steps that ask for no signature may come first. -/
theorem PartsOf.prepend {run : MultiSignerRun} {entries submitted : List SorobanAuthorizationEntry}
    {t₀ t : History Environment} {scheme : Option AuthDigestScheme} {parts : List SubmittedPart}
    (hnone : signatureExchanges t₀ = []) (h : PartsOf run entries t submitted scheme parts) :
    PartsOf run entries (t₀ ++ t) submitted scheme parts where
  entries_eq := h.entries_eq
  submitted_eq := h.submitted_eq
  signatures_eq := by
    rw [signatureExchanges_append, hnone, List.nil_append]
    exact h.signatures_eq
  signed := h.signed
  resolved s hs := by
    obtain ⟨executable, hmem, hexecutable⟩ := h.resolved s hs
    exact ⟨executable, List.mem_append_right t₀ hmem, hexecutable⟩

/-- Where a checked selection submits, the submission comes last and after steps that all
succeeded. -/
theorem run_signAndSend {run : MultiSignerRun} {authEntries : List SorobanAuthorizationEntry}
    {t : History Environment} {x : Except JsError TransactionResult} (hsome : authEntries ≠ [])
    (hbuilt : ∀ selected ∈ run.selectedSigners, BuiltFromSigner selected)
    (hrun : Program.Run (signAndSend run authEntries) t x) {e : Exchange Environment} (he : e ∈ t)
    {transaction : Transaction} {forceMethod : Option SubmissionMethod}
    (hsend : e.request = .sendAndPoll transaction forceMethod) :
    ∃ t' scheme parts, t = t' ++ [e] ∧ (∀ e' ∈ t', NotSubmission e'.request ∧ Succeeded e') ∧
      transaction.func = run.hostFunc ∧
      PartsOf run authEntries t transaction.auth scheme parts := by
  rcases Program.run_bind.mp hrun with ⟨_, hfail, -⟩ | ⟨prepared, t₁, t₂, rfl, hprepare, hlast⟩
  · obtain ⟨_, -, hattempt⟩ := Program.run_attempt.mp hfail
    exact absurd hattempt (by simp)
  obtain ⟨_, hprepare, hresult⟩ := Program.run_attempt.mp hprepare
  rw [← Except.ok.inj hresult] at hprepare
  have hsteps := exchanges_signAndPrepare _ authEntries t₁ _ hprepare
  have hlate : e ∉ t₁ := fun hmem => (hsteps e hmem).1 (by rw [hsend]; rfl)
  have he := (List.mem_append.mp he).resolve_left hlate
  cases prepared with
  | error err =>
    rw [(Program.run_pure.mp hlast).1] at he
    exact absurd he List.not_mem_nil
  | ok preparedTx =>
    obtain ⟨reply, rfl, -⟩ := Program.run_await.mp hlast
    have he := List.mem_singleton.mp he
    subst he
    obtain ⟨rfl, -⟩ := Request.sendAndPoll.inj hsend
    obtain ⟨hfunc, scheme, parts, hparts⟩ := run_signAndPrepare hsome hbuilt hprepare
    refine ⟨t₁, scheme, parts, rfl, ?_, hfunc, ?_⟩
    · exact fun e' he' => ⟨(hsteps e' he').1, (hsteps e' he').2 rfl⟩
    · exact {
        entries_eq := hparts.entries_eq
        submitted_eq := hparts.submitted_eq
        signatures_eq := by
          rw [signatureExchanges_append, hparts.signatures_eq]
          exact List.append_nil _
        signed := hparts.signed
        resolved := hparts.resolved.append _ }

/-- A run that reaches the submission submits the transaction's function with its entries as they
were signed, as its last step and after steps that all succeeded; every selected delegated signer
takes part with its address. There are entries to sign: a transaction without entries is submitted
directly. -/
theorem submitWithSelectedSigners_submits {config : KitConfig} {hostFunc : HostFunction}
    {authEntries : List SorobanAuthorizationEntry} {signers : List SignerObject}
    {activeCredentialId : Option String} {selectedSigners : List SelectedSigner}
    {options : MultiSignerOptions} {allowWalletMutation : Bool} {t₀ t : History Environment}
    {x : Except JsError TransactionResult} (hsome : authEntries ≠ [])
    (hselected : Program.Run (buildSelectedSigners signers activeCredentialId) t₀
      (.ok selectedSigners))
    (hrun : Program.Run (submitWithSelectedSigners config hostFunc authEntries selectedSigners
      options allowWalletMutation) t x) :
    ∀ e ∈ t, ∀ transaction forceMethod, e.request = .sendAndPoll transaction forceMethod →
      ∃ contractId t' scheme parts,
        nonEmptyText config.contractId = some contractId ∧ t = t' ++ [e] ∧
        (∀ e' ∈ t', NotSubmission e'.request ∧ Succeeded e') ∧ transaction.func = hostFunc ∧
        PartsOf ⟨config, contractId, hostFunc, selectedSigners, options, allowWalletMutation⟩
          authEntries t transaction.auth scheme parts ∧
        ∀ selected ∈ selectedSigners, ∀ object address, selected.signer = some object →
          object.signer = .delegated address → address ≠ "" →
          (address, selected) ∈ (MultiSignerRun.mk config contractId hostFunc selectedSigners
            options allowWalletMutation).walletAddresses := by
  intro e he transaction forceMethod hsend
  unfold submitWithSelectedSigners at hrun
  cases hconnected : nonEmptyText config.contractId with
  | none =>
    rw [hconnected] at hrun
    rw [(Program.run_pure.mp hrun).1] at he
    exact absurd he List.not_mem_nil
  | some contractId =>
    rw [hconnected] at hrun
    rcases Program.run_bind.mp hrun with ⟨_, hfail, -⟩ | ⟨checked, t₁, t₂, rfl, hcheck, hrest⟩
    · obtain ⟨_, -, hattempt⟩ := Program.run_attempt.mp hfail
      exact nomatch hattempt
    obtain ⟨_, hcheck, hresult⟩ := Program.run_attempt.mp hcheck
    rw [← Except.ok.inj hresult] at hcheck
    have hsteps := checkSelection_services _ t₁ _ hcheck
    have hlate : e ∉ t₁ := by
      intro hmem
      have hkind := (hsteps e hmem).1
      rw [hsend] at hkind
      exact nomatch hkind
    have he := (List.mem_append.mp he).resolve_left hlate
    cases checked with
    | error exit =>
      cases exit with
      | returned err =>
        rw [(Program.run_pure.mp hrest).1] at he
        exact absurd he List.not_mem_nil
      | thrown err =>
        rw [(Program.run_throw.mp hrest).1] at he
        exact absurd he List.not_mem_nil
    | ok _ =>
      obtain ⟨t', scheme, parts, rfl, hbefore, hfunc, hparts⟩ :=
        run_signAndSend hsome (run_buildSelectedSigners hselected) hrest he hsend
      refine ⟨contractId, t₁ ++ t', scheme, parts, rfl, by rw [List.append_assoc], ?_, hfunc,
        hparts.prepend ((checkSelection_services _).signatureExchanges hcheck), ?_⟩
      · intro e' he'
        rcases List.mem_append.mp he' with he' | he'
        · refine ⟨fun hkind => ?_, (hsteps e' he').2 rfl⟩
          rw [(hsteps e' he').1] at hkind
          exact nomatch hkind
        · exact hbefore e' he'
      · intro selected hmem object address hobject hdelegated haddress
        exact mem_walletAddresses hmem (run_buildSelectedSigners hselected selected hmem) hobject
          hdelegated haddress

/-- A sample Ed25519 signer, selected as a signer. -/
def sampleEd25519Signer : SelectedSigner :=
  { type := .ed25519
    signer := some ⟨1, sampleSigner 1⟩
    ed25519PublicKey := some (toHex (List.replicate 32 1)) }

/-- The sample submission: one entry of the sample wallet, signed by its delegated account and by an
Ed25519 key. -/
def sampleSubmission : KitProgram TransactionResult :=
  submitWithSelectedSigners sampleConfig (.uploadContractWasm []) [sampleEntry]
    [sampleWalletSigner, sampleEd25519Signer] {} false

theorem submitWithSelectedSigners_submits_sample :
    ∃ t x, Program.Run sampleSubmission t x ∧ ∃ e ∈ t, ∃ transaction forceMethod,
      e.request = .sendAndPoll transaction forceMethod ∧ ∃ parts : List SubmittedPart,
        parts.map SubmittedPart.entry = [sampleEntry] ∧
        transaction.auth = parts.flatMap SubmittedPart.submitted := by
  have hsent : (Program.transcript sampleReplies.reply sampleSubmission).any
      (fun e => e.request.kind = .submission) = true := by set_option maxRecDepth 20000 in decide
  have hrun := Program.run_transcript sampleReplies.reply sampleSubmission
  generalize Program.transcript _ _ = t at hsent hrun
  obtain ⟨e, he, hkind⟩ := List.any_eq_true.mp hsent
  obtain ⟨transaction, forceMethod, hsend⟩ : ∃ transaction forceMethod,
      e.request = .sendAndPoll transaction forceMethod := by
    cases hrequest : e.request with
    | sendAndPoll transaction forceMethod => exact ⟨transaction, forceMethod, rfl⟩
    | _ => rw [hrequest] at hkind; exact nomatch hkind
  have hselected : Program.Run
      (buildSelectedSigners [⟨0, .delegated (sampleAccountId 3)⟩, ⟨1, sampleSigner 1⟩] none)
      [⟨.canSignFor .offer (sampleAccountId 3), .ok true⟩,
        ⟨.canSignEd25519 .offer (List.replicate 32 1), .ok true⟩]
      (.ok [sampleWalletSigner, sampleEd25519Signer]) :=
    Program.Run.ask _ _ _ _ _ (Program.Run.ask _ _ _ _ _ (Program.Run.done _))
  obtain ⟨_, _, _, parts, -, -, -, -, hparts, -⟩ :=
    submitWithSelectedSigners_submits (by simp) hselected hrun e he transaction forceMethod hsend
  exact ⟨t, _, hrun, e, he, transaction, forceMethod, hsend, parts, hparts.entries_eq,
    hparts.submitted_eq⟩

end SmartAccountKit
