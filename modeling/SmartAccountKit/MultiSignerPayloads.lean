import SmartAccountKit.MultiSignerGuard

/-!
# Signatures in the payload of an entry

What the selected signers are, and that each External one leaves the signature of its
key in the payload of the entry.
-/

namespace SmartAccountKit
open Lib

/-! ## Selected signers -/

/-- A selected signer as `buildSelectedSigners` gives it: the wallets are the delegated signers,
each with its address and its contract signer, and any other signer is a passkey or an Ed25519
key. -/
def BuiltFromSigner (selected : SelectedSigner) : Prop :=
  ∃ object, selected.signer = some object ∧
    (selected.type = .wallet ↔ ∃ address, object.signer = .delegated address) ∧
    (∀ address, object.signer = .delegated address → selected.walletAddress = some address) ∧
    ∀ verifier keyData, object.signer = .external verifier keyData →
      selected.type = .passkey ∨
        selected.type = .ed25519 ∧ selected.ed25519PublicKey = some (toHex keyData)

theorem run_buildSelectedSigner {activeCredentialId : Option String} {object : SignerObject}
    {t : History Environment} {selection : Option SelectedSigner}
    (hrun : Program.Run (buildSelectedSigner activeCredentialId object) t (.ok selection)) :
    ∀ selected ∈ selection, BuiltFromSigner selected := by
  obtain ⟨ref, signer⟩ := object
  intro selected hselected
  rw [Option.mem_def] at hselected
  unfold buildSelectedSigner at hrun
  cases signer with
  | delegated address =>
    obtain ⟨available, _, _, -, -, hlast⟩ := Program.run_bind_ok.mp hrun
    have hselection := Except.ok.inj (Program.run_pure.mp hlast).2
    rw [hselected] at hselection
    split_ifs at hselection
    rw [Option.some.inj hselection]
    exact ⟨_, rfl, iff_of_true rfl ⟨address, rfl⟩, fun _ h => by rw [Signer.delegated.inj h],
      fun _ _ h => nomatch h⟩
  | external verifier keyData =>
    dsimp only at hrun
    split at hrun
    · have hselection := Except.ok.inj (Program.run_pure.mp hrun).2
      rw [hselected] at hselection
      split_ifs at hselection
      rw [Option.some.inj hselection]
      exact ⟨_, rfl, iff_of_false (by simp) (by simp), fun _ h => (nomatch h),
        fun _ _ _ => Or.inl rfl⟩
    · obtain ⟨available, _, _, -, -, hlast⟩ := Program.run_bind_ok.mp hrun
      have hselection := Except.ok.inj (Program.run_pure.mp hlast).2
      rw [hselected] at hselection
      split_ifs at hselection
      rw [Option.some.inj hselection]
      exact ⟨_, rfl, iff_of_false (by simp) (by simp), fun _ h => (nomatch h),
        fun _ _ h => Or.inr ⟨rfl, by rw [(Signer.external.inj h).2]⟩⟩

theorem run_buildSelectedSigners {signers : List SignerObject} {activeCredentialId : Option String}
    {t : History Environment} {selectedSigners : List SelectedSigner}
    (hrun : Program.Run (buildSelectedSigners signers activeCredentialId) t
      (.ok selectedSigners)) : ∀ selected ∈ selectedSigners, BuiltFromSigner selected := by
  refine Program.run_forEach (fun _ _ built => ∀ selected ∈ built, BuiltFromSigner selected)
    (by simp) ?_ hrun
  intro _ object t₁ built t₂ built' _ hinv hbody selected hselected
  obtain ⟨selection, _, _, -, hselection, hlast⟩ := Program.run_bind_ok.mp hbody
  rw [Except.ok.inj (Program.run_pure.mp hlast).2] at hselected
  rcases List.mem_append.mp hselected with hselected | hselected
  · exact hinv selected hselected
  · exact run_buildSelectedSigner hselection selected (Option.mem_toList.mp hselected)

/-- A selected delegated signer signs with its address. -/
theorem mem_walletAddresses {run : MultiSignerRun} {selected : SelectedSigner}
    {object : SignerObject} {address : String} (hmem : selected ∈ run.selectedSigners)
    (hbuilt : BuiltFromSigner selected) (hobject : selected.signer = some object)
    (hdelegated : object.signer = .delegated address) (haddress : address ≠ "") :
    (address, selected) ∈ run.walletAddresses := by
  obtain ⟨object', hobject', htype, hwallet, -⟩ := hbuilt
  rw [hobject, Option.some.injEq] at hobject'
  subst hobject'
  refine List.mem_filterMap.mpr ⟨selected, List.mem_filter.mpr ⟨hmem, ?_⟩, ?_⟩
  · simpa using htype.mpr ⟨address, hdelegated⟩
  · rw [nonEmptyText_eq_some.mpr ⟨hwallet address hdelegated, haddress⟩]
    rfl

/-- A wallet signer of a built selection has a delegated contract signer. -/
theorem delegated_of_mem_walletAddresses {run : MultiSignerRun}
    (hbuilt : ∀ selected ∈ run.selectedSigners, BuiltFromSigner selected)
    {walletSigner : String × SelectedSigner} (hmem : walletSigner ∈ run.walletAddresses)
    {object : SignerObject} (hobject : walletSigner.2.signer = some object) :
    ∃ address, object.signer = .delegated address := by
  obtain ⟨selected, hselected, hpair⟩ := List.mem_filterMap.mp hmem
  obtain ⟨address, -, rfl⟩ := Option.map_eq_some_iff.mp hpair
  have ⟨hmem, htype⟩ := List.mem_filter.mp hselected
  obtain ⟨object', hobject', hwallet, -⟩ := hbuilt selected hmem
  rw [← Option.some.inj (hobject'.symm.trans hobject)]
  exact hwallet.mp (of_decide_eq_true htype)

/-- A selected External signer with key data signs as a passkey or as an Ed25519 key. -/
theorem mem_externalSigners {run : MultiSignerRun} {selected : SelectedSigner}
    {object : SignerObject} {verifier : String} {keyData : Bytes}
    (hmem : selected ∈ run.selectedSigners) (hbuilt : BuiltFromSigner selected)
    (hobject : selected.signer = some object) (hexternal : object.signer = .external verifier keyData)
    (hkey : keyData ≠ []) :
    selected ∈ run.passkeySigners ++ run.ed25519PublicKeys.map Prod.snd := by
  obtain ⟨object', hobject', -, -, htype⟩ := hbuilt
  rw [hobject, Option.some.injEq] at hobject'
  subst hobject'
  rcases htype verifier keyData hexternal with hpasskey | ⟨hed25519, hpublicKey⟩
  · exact List.mem_append_left _ (List.mem_filter.mpr ⟨hmem, decide_eq_true hpasskey⟩)
  · have hsome : toHex keyData ≠ "" := fun h => hkey (toHex_inj h)
    apply List.mem_append_right
    refine List.mem_map.mpr ⟨(toHex keyData, selected), ?_, rfl⟩
    refine List.mem_filterMap.mpr
      ⟨selected, List.mem_filter.mpr ⟨hmem, decide_eq_true hed25519⟩, ?_⟩
    rw [nonEmptyText_eq_some.mpr ⟨hpublicKey, hsome⟩]
    rfl

/-! ## Signatures in a payload -/

/-- A payload has an entry of a signer with a signature of some kind. -/
def HasSignature (kind : Bytes → Prop) (payload : AuthPayload) (signer : Signer) : Prop :=
  ∃ p ∈ payload.signers, p.signer = signer ∧ kind p.signature

section signatures

variable {kind : Bytes → Prop} {payload payload' : AuthPayload} {signer : Signer}

theorem mem_setPayloadSigner (ps : List PayloadSigner) (p : PayloadSigner) :
    p ∈ setPayloadSigner ps p := by
  unfold setPayloadSigner
  split_ifs with hany
  · obtain ⟨q, hq, hsame⟩ := List.any_eq_true.mp hany
    exact List.mem_map.mpr ⟨q, hq, if_pos hsame⟩
  · exact List.mem_append_right _ (List.mem_singleton_self p)

theorem HasSignature.mono {kind' : Bytes → Prop} (h : HasSignature kind payload signer)
    (hkind : ∀ signature, kind signature → kind' signature) : HasSignature kind' payload signer := by
  obtain ⟨p, hp, hsigner, hsignature⟩ := h
  exact ⟨p, hp, hsigner, hkind _ hsignature⟩

/-- An update gives its signer the new signature. -/
theorem hasSignature_upsert (payload : AuthPayload) (ref : Option ℕ) (signer : Signer)
    {signature : Bytes} (h : kind signature) :
    HasSignature kind (upsertAuthPayloadSigner payload ref signer signature) signer :=
  ⟨⟨ref, signer, signature⟩, mem_setPayloadSigner _ _, rfl, h⟩

/-- An update keeps the signatures of other signers. -/
theorem HasSignature.upsert (h : HasSignature kind payload signer) (ref : Option ℕ)
    {other : Signer} {signature : Bytes} (hsame : other = signer → kind signature) :
    HasSignature kind (upsertAuthPayloadSigner payload ref other signature) signer := by
  by_cases heq : other = signer
  · rw [heq]
    exact hasSignature_upsert payload ref signer (hsame heq)
  · obtain ⟨p, hp, hsigner, hkind⟩ := h
    have hentries := @entriesOf_upsert_ne payload ref other signer signature heq
    have hkept : p ∈ entriesOf signer payload.signers :=
      List.mem_filter.mpr ⟨hp, by simpa using hsigner⟩
    rw [← hentries] at hkept
    exact ⟨p, List.mem_of_mem_filter hkept, hsigner, hkind⟩

/-- Writing a payload keeps its signatures. -/
theorem HasSignature.read {v : ScVal} (h : HasSignature kind payload signer)
    (hwrite : writeAuthPayload payload = .ok v) (hread : readAuthPayload v = .ok payload') :
    HasSignature kind payload' signer := by
  obtain ⟨ps, hperm, hps⟩ := readAuthPayload_writeAuthPayload hwrite
  rw [hread, Except.ok.injEq] at hps
  obtain ⟨p, hp, hsigner, hkind⟩ := h
  rw [hps]
  exact ⟨p.fresh, List.mem_map_of_mem (hperm.subset hp), hsigner, hkind⟩

/-- The delegated signers are added with empty bytes, and other signatures are kept. -/
theorem HasSignature.addDelegatedSigners {walletSigners : List (String × SelectedSigner)}
    (h : HasSignature kind payload signer)
    (hsame : ∀ walletSigner ∈ walletSigners, ∀ object, walletSigner.2.signer = some object →
      object.signer = signer → kind []) :
    HasSignature kind (walletSigners.foldl addDelegatedSigner payload) signer := by
  induction walletSigners generalizing payload with
  | nil => exact h
  | cons walletSigner walletSigners ih =>
    have hadded : HasSignature kind (addDelegatedSigner payload walletSigner) signer := by
      unfold addDelegatedSigner
      cases hobject : walletSigner.2.signer with
      | none => exact h
      | some object => exact h.upsert _ (hsame walletSigner List.mem_cons_self object hobject)
    exact ih hadded fun next hnext => hsame next (List.mem_cons_of_mem _ hnext)

/-- A payload has an entry with empty bytes for a signer. -/
def HasEmptySignature (payload : AuthPayload) (signer : Signer) : Prop :=
  HasSignature (fun signature => signature = []) payload signer

/-- After all delegated signers are added, each of them is there. -/
theorem hasEmptySignature_foldl {walletSigners : List (String × SelectedSigner)}
    {walletSigner : String × SelectedSigner} {object : SignerObject}
    (hmem : walletSigner ∈ walletSigners) (hobject : walletSigner.2.signer = some object) :
    HasEmptySignature (walletSigners.foldl addDelegatedSigner payload) object.signer := by
  induction walletSigners generalizing payload with
  | nil => exact absurd hmem List.not_mem_nil
  | cons first rest ih =>
    rw [List.foldl_cons]
    rcases List.mem_cons.mp hmem with rfl | hmem
    · rw [addDelegatedSigner, hobject]
      have hadded : HasEmptySignature
          (upsertAuthPayloadSigner payload (some object.ref) object.signer []) object.signer :=
        hasSignature_upsert _ _ _ rfl
      exact hadded.addDelegatedSigners fun _ _ _ _ _ => rfl
    · exact ih hmem

end signatures

/-! ## External signers -/

/-- A signature that a key gave in a run: the answer of an Ed25519 key, or what the response of an
authenticator is encoded as. -/
def Answered (t : History Environment) (signature : Bytes) : Prop :=
  (∃ publicKey authDigest args,
    ⟨.signEd25519Digest publicKey authDigest args, .ok signature⟩ ∈ t) ∨
  ∃ challenge credentialId args response,
    ⟨.startAuthentication challenge credentialId args, .ok response⟩ ∈ t ∧
      webAuthnSignature response = .ok signature

theorem Answered.mono {t t' : History Environment} {signature : Bytes}
    (h : Answered t signature) (ht : ∀ e ∈ t, e ∈ t') : Answered t' signature := by
  rcases h with ⟨publicKey, authDigest, args, hmem⟩ | ⟨challenge, credentialId, args, response, hmem, h⟩
  · exact Or.inl ⟨publicKey, authDigest, args, ht _ hmem⟩
  · exact Or.inr ⟨challenge, credentialId, args, response, ht _ hmem, h⟩

theorem setSignature_signature {entry : SorobanAuthorizationEntry} {v : ScVal}
    {c : SorobanAddressCredentials} (hc : (entry.setSignature v).addressCredentials? = some c) :
    c.signature = v := by
  rw [SorobanAuthorizationEntry.setSignature_addressCredentials?] at hc
  obtain ⟨_, -, rfl⟩ := Option.map_eq_some_iff.mp hc
  rfl

section external

variable {run : MultiSignerRun} {entry current : SorobanAuthorizationEntry} {expiration : UInt32}
  {ids : List JsNumber} {scheme : AuthDigestScheme}

/-- A passkey puts its signature into the payload of the entry, and keeps those of others. -/
theorem PasskeySigned.hasSignature {passkeySigner : SelectedSigner} {t : History Environment}
    {signed : SorobanAuthorizationEntry}
    (h : PasskeySigned run.config current
      (passkeyOptions run expiration ids scheme passkeySigner) t signed)
    {c c' : SorobanAddressCredentials} {payload payload' : AuthPayload}
    (hcurrent : PayloadOf current c payload) (hsigned : PayloadOf signed c' payload')
    (kind : Bytes → Prop) (hkind : ∀ signature, Answered t signature → kind signature) :
    (∀ object, passkeySigner.signer = some object → HasSignature kind payload' object.signer) ∧
      ∀ signer, HasSignature kind payload signer → HasSignature kind payload' signer := by
  have hread : readAuthPayload h.signature = .ok payload' := by
    have hc := hsigned.1
    rw [h.result] at hc
    rw [← setSignature_signature hc]
    exact hsigned.2
  have hpayload : h.prepared.authPayload = payload := by
    have hcredentials : current.addressCredentials? = some h.prepared.credentials := by
      unfold SorobanAuthorizationEntry.addressCredentials?
      rcases h.prepared.hasCredentials with hc | hc <;> rw [hc] <;> rfl
    have hsame := Option.some.inj (hcredentials.symm.trans hcurrent.1)
    have hof := hcurrent.2
    rw [← hsame, h.prepared.payloadRead] at hof
    exact Except.ok.inj hof
  have hanswered : kind h.signatureBytes := by
    apply hkind
    have hmem : ⟨.startAuthentication (toBase64Url h.prepared.digest.authDigest.1) h.credentialId
        h.prepared.args, .ok h.response⟩ ∈ signatureExchanges t := by
      rw [h.asked]
      exact List.mem_singleton_self _
    exact Or.inr ⟨_, _, _, _, List.mem_of_mem_filter hmem, h.bytes⟩
  constructor
  · intro object hobject
    have hidentity := h.identity
    rw [PasskeyIdentity, show (passkeyOptions run expiration ids scheme passkeySigner).signer =
      some object from hobject] at hidentity
    have hwritten := hasSignature_upsert
      { h.prepared.authPayload with contextRuleIds := h.prepared.contextRuleIds } h.ref h.signer
      hanswered
    rw [← hidentity.2]
    exact hwritten.read h.written hread
  · intro signer hhas
    have hcopied : HasSignature kind
        { h.prepared.authPayload with contextRuleIds := h.prepared.contextRuleIds } signer := by
      rw [hpayload]
      exact hhas
    exact (hcopied.upsert _ fun _ => hanswered).read h.written hread

/-- After the passkeys each of them has a signature in the payload. -/
theorem run_signWithPasskeys_hasSignature {t : History Environment}
    {signed : SorobanAuthorizationEntry} (hversion : EntryVersion entry expiration ids current)
    (hrun : Program.Run (signWithPasskeys run current expiration ids scheme) t (.ok signed))
    {c : SorobanAddressCredentials} {payload : AuthPayload} (hof : PayloadOf signed c payload) :
    ∀ selected ∈ run.passkeySigners, ∀ object, selected.signer = some object →
      HasSignature (Answered t) payload object.signer := by
  have hloop := Program.run_forEach
    (fun done t current' => EntryVersion entry expiration ids current' ∧
      ∀ c payload, PayloadOf current' c payload → ∀ selected ∈ done.map Prod.fst,
        ∀ object, selected.signer = some object → HasSignature (Answered t) payload object.signer)
    ⟨hversion, fun _ _ _ _ hmem => absurd hmem List.not_mem_nil⟩ ?_ hrun
  · rw [List.zipIdx_map_fst] at hloop
    exact hloop.2 c payload hof
  · intro done indexed t₁ current' t₂ signed' _ hinv hbody
    obtain ⟨_, t₃, t₄, ht₂, -, hsign⟩ := Program.run_bind_ok.mp hbody
    obtain ⟨signedBy⟩ := run_signAuthEntry hsign
    refine ⟨PasskeySigned.version indexed.1 hinv.1 signedBy, ?_⟩
    intro c' payload' hof' selected hselected object hobject
    obtain ⟨c₁, payload₁, hof₁, -⟩ := hinv.1.payload
    have hstep := signedBy.hasSignature hof₁ hof' (Answered (t₁ ++ t₂)) fun _ h =>
      h.mono fun e he => by simp [ht₂, he]
    rw [List.map_append, List.mem_append] at hselected
    rcases hselected with hselected | hselected
    · apply hstep.2
      apply (hinv.2 c₁ payload₁ hof₁ selected hselected object hobject).mono
      exact fun _ h => h.mono fun e he => List.mem_append_left _ he
    · rw [List.mem_singleton.mp hselected] at hobject
      exact hstep.1 object hobject

/-- An Ed25519 key puts its signature into the payload, and keeps those of others. -/
theorem run_signWithEd25519_hasSignature {digested : DigestedEntry}
    {payload payload' : AuthPayload} {ed25519Signer : String × SelectedSigner}
    {t : History Environment}
    (hrun : Program.Run (signWithEd25519 digested payload ed25519Signer) t (.ok payload'))
    (kind : Bytes → Prop) (hkind : ∀ signature, Answered t signature → kind signature) :
    (∀ object, ed25519Signer.2.signer = some object → HasSignature kind payload' object.signer) ∧
      ∀ signer, HasSignature kind payload signer → HasSignature kind payload' signer := by
  unfold signWithEd25519 at hrun
  cases hsigner : ed25519Signer.2.signer with
  | none =>
    rw [hsigner] at hrun
    rw [Except.ok.inj (Program.run_pure.mp hrun).2]
    exact ⟨fun object h => absurd h.symm (Option.some_ne_none object), fun signer h => h⟩
  | some object =>
    rw [hsigner] at hrun
    obtain ⟨signatureBytes, t₁, t₂, rfl, hask, hlast⟩ := Program.run_bind_ok.mp hrun
    obtain ⟨reply, rfl, hreply⟩ := Program.run_await.mp hask
    rw [Except.ok.inj (Program.run_pure.mp hlast).2]
    have hanswered : kind signatureBytes := by
      apply hkind
      rw [show reply = .ok signatureBytes from hreply.symm]
      exact Or.inl ⟨_, _, _, List.mem_cons_self⟩
    refine ⟨fun object' hobject => ?_, fun signer h => h.upsert _ fun _ => hanswered⟩
    rw [← Option.some.inj hobject]
    exact hasSignature_upsert _ _ _ hanswered

/-- After the Ed25519 keys each passkey and each of them has a signature in the payload. -/
theorem run_signWithEd25519s {start : SorobanAuthorizationEntry} {digested : DigestedEntry}
    {authPayload : AuthPayload} {t₁ t₂ : History Environment}
    (hdigested : DigestedFor run entry current expiration ids scheme digested)
    (hversion : EntryVersion entry expiration ids start)
    (hpasskeys : Program.Run (signWithPasskeys run start expiration ids scheme) t₁ (.ok current))
    (hed25519 : Program.Run (Program.forEach run.ed25519PublicKeys digested.authPayload
      (signWithEd25519 digested)) t₂ (.ok authPayload)) :
    ∀ selected ∈ run.passkeySigners ++ run.ed25519PublicKeys.map Prod.snd, ∀ object,
      selected.signer = some object → HasSignature (Answered (t₁ ++ t₂)) authPayload object.signer := by
  refine Program.run_forEach (fun done t payload => ∀ selected ∈
    run.passkeySigners ++ done.map Prod.snd, ∀ object, selected.signer = some object →
      HasSignature (Answered (t₁ ++ t)) payload object.signer) ?_ ?_ hed25519
  · intro selected hselected object hobject
    rw [List.map_nil, List.append_nil] at hselected
    obtain ⟨c, payload, hof, -⟩ := (run_signWithPasskeys hversion hpasskeys).1.payload
    obtain ⟨p, hp, hsigner, hanswered⟩ :=
      run_signWithPasskeys_hasSignature hversion hpasskeys hof selected hselected object hobject
    rw [← hdigested.signers c payload hof] at hp
    rw [List.append_nil]
    exact ⟨p, hp, hsigner, hanswered⟩
  · intro done ed25519Signer t payload t' payload' _ hinv hbody selected hselected object hobject
    have hstep := run_signWithEd25519_hasSignature hbody (Answered (t₁ ++ (t ++ t')))
      fun _ h => h.mono fun e he => by simp [he]
    rw [List.map_append, ← List.append_assoc, List.mem_append] at hselected
    rcases hselected with hselected | hselected
    · apply hstep.2
      apply (hinv selected hselected object hobject).mono
      exact fun _ h => h.mono fun e he => by
        rw [← List.append_assoc]
        exact List.mem_append_left _ he
    · rw [List.mem_singleton.mp hselected] at hobject
      exact hstep.1 object hobject

end external

end SmartAccountKit
