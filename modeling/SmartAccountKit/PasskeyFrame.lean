import SmartAccountKit.PasskeyTheorems

/-!
# Passkey signing over a signed entry

When a passkey signature keeps the signatures that an entry already carries: it
does if the requested expiration is the one they cover and the payload has rule
ids.
-/

namespace SmartAccountKit
open Lib

/-- The signatures in an entry stay valid: the expiration and the ids that they cover are the same,
and every signer but `signer` keeps its entries. -/
def KeepsOtherSignatures (signed : SorobanAuthorizationEntry) (c : SorobanAddressCredentials)
    (payload : AuthPayload) (signer : Signer) : Prop :=
  ∃ c' payload', PayloadOf signed c' payload' ∧
    c'.signatureExpirationLedger = c.signatureExpirationLedger ∧
    payload'.contextRuleIds = payload.contextRuleIds ∧
    ∀ other, other ≠ signer →
      (entriesOf other payload'.signers).Perm (entriesOf other payload.signers)

/-- The expiration that is requested, or else computed from the latest ledger for an entry without
one, is the expiration of the entry. -/
def RequestsExpiration (config : KitConfig) (requested : Option JsNumber) (existing : UInt32)
    (t : History Environment) : Prop :=
  match requested with
  | some requested => normalizeSignatureExpirationLedger requested = .ok existing
  | none => existing ≠ 0 ∨ ∀ (sequence : UInt32) (t' : History Environment),
      t = ⟨.getLatestLedger, .ok sequence⟩ :: t' →
        sequence.toNat + config.signatureExpirationLedgers = 0

theorem SelectedExpiration.eq_iff {config : KitConfig} {requested : Option JsNumber}
    {existing expiration : UInt32} {t : History Environment}
    (h : SelectedExpiration config requested existing t expiration) :
    expiration = existing ↔ RequestsExpiration config requested existing t := by
  cases requested with
  | some requested =>
    have h' : normalizeSignatureExpirationLedger requested = .ok expiration := h
    rw [RequestsExpiration, h', Except.ok.injEq]
  | none =>
    rcases h with ⟨hexisting, hsame⟩ | ⟨hzero, sequence, t', ht, hexpiration⟩
    · exact iff_of_true hsame (Or.inl hexisting)
    · have hcomputed : expiration = 0 ↔ sequence.toNat + config.signatureExpirationLedgers = 0 := by
        rw [← UInt32.toNat_inj, hexpiration]
        simp
      rw [hzero, hcomputed]
      constructor
      · intro hsum
        refine Or.inr fun sequence' t'' ht' => ?_
        rw [ht, List.cons.injEq] at ht'
        have hsequence : (⟨.getLatestLedger, .ok sequence⟩ : Exchange Environment) =
            ⟨.getLatestLedger, .ok sequence'⟩ := ht'.1
        simp only [Exchange.mk.injEq, heq_eq_eq, true_and] at hsequence
        rw [← Except.ok.inj hsequence]
        exact hsum
      · intro h
        exact h.resolve_left (fun h => h rfl) sequence t' ht

/-- A passkey run keeps the signatures in an entry exactly if it is asked for the expiration that
they cover and the payload has rule ids. -/
theorem PasskeySigned.keeps_iff {config : KitConfig} {entry signed : SorobanAuthorizationEntry}
    {options : SignAuthEntryOptions} {t : History Environment} {c : SorobanAddressCredentials}
    {payload : AuthPayload} (hc : PayloadOf entry c payload)
    (run : PasskeySigned config entry options t signed) :
    KeepsOtherSignatures signed c payload run.signer ↔
      RequestsExpiration config options.expiration c.signatureExpirationLedger t ∧
        payload.contextRuleIds ≠ [] := by
  have hcredentials : run.prepared.credentials = c := by
    have hc' := hc.1
    rcases run.prepared.hasCredentials with hkind | hkind <;>
      (rw [SorobanAuthorizationEntry.addressCredentials?, hkind] at hc'; exact Option.some.inj hc')
  have hpayload : run.prepared.authPayload = payload := by
    have hread := run.prepared.payloadRead
    rw [hcredentials, hc.2] at hread
    exact (Except.ok.inj hread).symm
  obtain ⟨qs, hperm, hread⟩ := readAuthPayload_writeAuthPayload run.written
  have hselected := run.selected.eq_iff
  rw [hcredentials] at hselected
  rw [← hselected]
  have hsigned : signed.addressCredentials? = some { c with
      signatureExpirationLedger := run.prepared.expiration, signature := run.signature } := by
    have hresult := congrArg SorobanAuthorizationEntry.addressCredentials? run.result
    rw [hresult]
    simp [hc.1]
  constructor
  · rintro ⟨c', payload', hc', hexpiration, hids, -⟩
    rw [PayloadOf, hsigned, Option.some.injEq] at hc'
    obtain ⟨rfl, hread'⟩ := hc'
    rw [hread, Except.ok.injEq] at hread'
    refine ⟨hexpiration, ?_⟩
    rw [← hids, ← hread']
    exact run.prepared.someIds
  · rintro ⟨hexpiration, hids⟩
    refine ⟨_, _, ⟨hsigned, hread⟩, hexpiration, ?_, fun other hother => ?_⟩
    · have hsame := run.prepared.sameIds
      rw [hpayload] at hsame
      exact (hsame.resolve_left hids).symm
    · have hentries := (hperm.symm.filter fun p => p.signer = other).map PayloadSigner.fresh
      have hkept := @entriesOf_upsert_ne ⟨run.prepared.contextRuleIds, payload.signers⟩ run.ref
        run.signer other run.signatureBytes (Ne.symm hother)
      rw [entriesOf_map_fresh]
      rw [hpayload] at hentries
      refine hentries.trans (List.Perm.of_eq ?_)
      show (entriesOf other _).map PayloadSigner.fresh = _
      rw [hkept]
      exact map_fresh_of_ref fun p hp => readAuthPayload_ref hc.2 p (List.mem_of_mem_filter hp)

/-- A passkey run over an entry that already carries signatures keeps them valid exactly if it is
asked for the expiration that they cover and the payload has rule ids. -/
theorem signAuthEntry_keeps {config : KitConfig} {entry signed : SorobanAuthorizationEntry}
    {options : SignAuthEntryOptions} {t : History Environment} {c : SorobanAddressCredentials}
    {payload : AuthPayload} (hc : PayloadOf entry c payload)
    (hrun : Program.Run (signAuthEntry config entry options) t (.ok signed)) :
    ∃ credentialId ref signer,
      nonEmptyText (options.credentialId.or config.credentialId) = some credentialId ∧
      PasskeyIdentity options credentialId t ref signer ∧
      (KeepsOtherSignatures signed c payload signer ↔
        RequestsExpiration config options.expiration c.signatureExpirationLedger t ∧
          payload.contextRuleIds ≠ []) := by
  obtain ⟨run⟩ := run_signAuthEntry hrun
  exact ⟨run.credentialId, run.ref, run.signer, run.credential, run.identity, run.keeps_iff hc⟩

/-- Options for a passkey of the sample wallet, with an expiration. -/
def samplePasskeyOptions (expiration : UInt32) : SignAuthEntryOptions :=
  { expiration := some (.ofU32 expiration)
    contextRuleIds := some [.ofU32 0]
    signer := some ⟨0, sampleSigner 2⟩
    authDigestScheme := some .legacyConcat }

theorem samplePasskey_run (expiration : UInt32) (h : expiration = 100 ∨ expiration = 200) :
    ∃ t signed, Program.Run (signAuthEntry sampleConfig (sampleSignedEntry [0])
      (samplePasskeyOptions expiration)) t (.ok signed) := by
  apply @Program.exists_run_of_isOk _ _ _ sampleReplies.reply
  rcases h with rfl | rfl <;> set_option maxRecDepth 20000 in decide

/-- Asked for another expiration, the run does not keep the signature in the entry valid. -/
theorem signAuthEntry_changes_expiration :
    ∃ config entry signed options t c payload, PayloadOf entry c payload ∧
      payload.signers ≠ [] ∧ Program.Run (signAuthEntry config entry options) t (.ok signed) ∧
      ∃ signer, (∀ object ∈ options.signer, signer = object.signer) ∧
        ¬KeepsOtherSignatures signed c payload signer := by
  obtain ⟨t, signed, hrun⟩ := samplePasskey_run 200 (Or.inr rfl)
  obtain ⟨run⟩ := run_signAuthEntry hrun
  have hidentity : run.signer = sampleSigner 2 := run.identity.2
  refine ⟨sampleConfig, sampleSignedEntry [0], signed, samplePasskeyOptions 200, t, _, _,
    sampleSignedEntry_payload [0], by simp, hrun, run.signer, ?_, ?_⟩
  · intro object hobject
    rw [hidentity, ← Option.some.inj hobject]
  · rw [run.keeps_iff (sampleSignedEntry_payload [0])]
    rintro ⟨hexpiration, -⟩
    rw [samplePasskeyOptions, RequestsExpiration, normalizeSignatureExpirationLedger_ofU32] at hexpiration
    exact absurd (Except.ok.inj hexpiration) (by decide)

/-- Asked for the expiration of the entry, the run keeps the signature valid. -/
theorem signAuthEntry_keeps_sample :
    ∃ signed t signer, Program.Run (signAuthEntry sampleConfig (sampleSignedEntry [0])
        (samplePasskeyOptions 100)) t (.ok signed) ∧
      KeepsOtherSignatures signed (sampleSignedCredentials [0])
        ⟨[.ofU32 0], [⟨none, sampleSigner 1, [1]⟩]⟩ signer := by
  obtain ⟨t, signed, hrun⟩ := samplePasskey_run 100 (Or.inl rfl)
  obtain ⟨_, _, signer, -, -, hkeeps⟩ := signAuthEntry_keeps (sampleSignedEntry_payload [0]) hrun
  refine ⟨signed, t, signer, hrun, hkeeps.mpr ⟨?_, by simp⟩⟩
  exact normalizeSignatureExpirationLedger_ofU32 100

end SmartAccountKit
