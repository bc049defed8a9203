import SmartAccountKit.AuthDigestTheorems
import SmartAccountKit.SignOnly

/-!
# Theorems about sign-only signing

What a run of the sign-only path asks and returns, that signing in steps
commutes, and when signing again keeps the signatures an entry has.
-/

namespace SmartAccountKit
open Lib

/-! ## The checks -/

theorem checkAuthDigestScheme_eq_ok {name : String} {scheme : AuthDigestScheme} :
    checkAuthDigestScheme name = .ok scheme ↔ scheme.name = name := by
  rw [← AuthDigestScheme.ofName_eq_some, checkAuthDigestScheme]
  cases AuthDigestScheme.ofName name <;> simp

theorem assertSignOnlyCredentials_eq_ok {credentials : SorobanCredentials} :
    assertSignOnlyCredentials credentials = .ok () ↔
      ∃ c, credentials = .address c ∨ credentials = .addressV2 c := by
  cases credentials <;> simp [assertSignOnlyCredentials]

theorem signOnlyExpiration_eq_ok {requested : Option JsNumber} {existing expiration : UInt32} :
    signOnlyExpiration requested existing = .ok expiration ↔
      (requested.getD (.ofU32 existing)).truthy = true ∧
        normalizeSignatureExpirationLedger (requested.getD (.ofU32 existing)) = .ok expiration := by
  simp only [signOnlyExpiration, throwIf_bind_eq_ok, Bool.not_eq_true', Bool.not_eq_false]

/-- The ids to sign for are the requested ones, not empty, and those in the payload if it has
any. -/
theorem signOnlyContextRuleIds_eq_ok {requested : Option (List JsNumber)}
    {existing ids : List JsNumber} :
    signOnlyContextRuleIds requested existing = .ok ids ↔
      requested = some ids ∧ ids ≠ [] ∧ (existing = [] ∨ existing = ids) := by
  simp only [signOnlyContextRuleIds, throwIf_bind_eq_ok, except_pure_eq_ok, not_and_or, not_not]
  constructor
  · rintro ⟨hne, hsame, rfl⟩
    cases requested with
    | none => exact absurd rfl hne
    | some ids => exact ⟨rfl, hne, hsame⟩
  · rintro ⟨rfl, hne, hsame⟩
    exact ⟨hne, hsame, rfl⟩

/-- An entry can be prepared exactly when it passes every check and its digest exists. -/
theorem prepareSignOnly_eq_ok {entry : SorobanAuthorizationEntry}
    {options : SignAuthEntryWithSignersOptions} {prepared : SignOnlyEntry} :
    prepareSignOnly entry options = .ok prepared ↔
      ∃ scheme c contractId expiration payload ids signed digest,
        scheme.name = options.authDigestScheme ∧
        (entry.credentials = .address c ∨ entry.credentials = .addressV2 c) ∧
        getAuthEntryAddress entry = .ok contractId ∧
        assertWalletMutationIntent entry contractId none none = .ok () ∧
        signOnlyExpiration options.expiration c.signatureExpirationLedger = .ok expiration ∧
        readAuthPayload c.signature = .ok payload ∧
        (payload.signers = [] ∨ expiration = c.signatureExpirationLedger) ∧
        signOnlyContextRuleIds options.contextRuleIds payload.contextRuleIds = .ok ids ∧
        computeEntryAuthDigest options.networkPassphrase entry (.ofU32 expiration) ids scheme =
          .ok (signed, digest) ∧
        prepared =
          { signed, authPayload := payload, contextRuleIds := ids, authDigest := digest.authDigest
            args := ⟨options.networkPassphrase, entry, .ofU32 expiration, ids, scheme⟩ } := by
  simp only [prepareSignOnly, except_bind_eq_ok, throwIf_eq_ok, checkAuthDigestScheme_eq_ok,
    DigestArgs.compute, except_pure_eq_ok, Prod.exists, not_and_or, not_not]
  constructor
  · rintro ⟨scheme, hscheme, _, hkind, contractId, hid, _, hguard, c, hc, expiration, hexp, payload,
      hread, _, hsame, ids, hids, signed, digest, hcompute, rfl⟩
    obtain ⟨c', hc'⟩ := assertSignOnlyCredentials_eq_ok.mp hkind
    have hcc : c = c' := by
      rcases hc' with h | h <;> (rw [h] at hc; exact (Except.ok.inj hc).symm)
    subst hcc
    exact ⟨scheme, c, contractId, expiration, payload, ids, signed, digest, hscheme, hc', hid, hguard,
      hexp, hread, hsame, hids, hcompute, rfl⟩
  · rintro ⟨scheme, c, contractId, expiration, payload, ids, signed, digest, hscheme, hkind, hid,
      hguard, hexp, hread, hsame, hids, hcompute, rfl⟩
    refine ⟨scheme, hscheme, (), assertSignOnlyCredentials_eq_ok.mpr ⟨c, hkind⟩, contractId, hid, (),
      hguard, c, ?_, expiration, hexp, payload, hread, (), hsame, ids, hids,
      signed, digest, hcompute, rfl⟩
    rcases hkind with h | h <;> rw [h] <;> rfl

/-! ## Runs -/

/-- The update of the payload by one signer's signature. -/
def signStep (authPayload : AuthPayload) (step : AuthDigestSigner × Bytes) : AuthPayload :=
  upsertAuthPayloadSigner authPayload (some step.1.ref) step.1.signer step.2

/-- The exchange in which a signer gives its signature. -/
def signExchange (prepared : SignOnlyEntry) (step : AuthDigestSigner × Bytes) :
    Exchange Environment :=
  ⟨.signAuthDigest step.1 prepared.authDigest prepared.args, .ok step.2⟩

/-- A request to one of the signers to sign the digest of the prepared entry. -/
def SignOnlyRequest (entry : SorobanAuthorizationEntry) (signers : List AuthDigestSigner)
    (options : SignAuthEntryWithSignersOptions) (request : Request) : Prop :=
  ∃ prepared, prepareSignOnly entry options = .ok prepared ∧
    ∃ signer ∈ signers, request = .signAuthDigest signer prepared.authDigest prepared.args

/-- The exchanges and the result of a successful run: every signer gave a signature, and each was
put into the payload, in order. -/
def SignedInOrder (entry : SorobanAuthorizationEntry) (signers : List AuthDigestSigner)
    (options : SignAuthEntryWithSignersOptions) (t : History Environment)
    (signed : SorobanAuthorizationEntry) : Prop :=
  signers ≠ [] ∧ ∃ prepared, prepareSignOnly entry options = .ok prepared ∧
    ∃ steps : List (AuthDigestSigner × Bytes), steps.map Prod.fst = signers ∧
      t = steps.map (signExchange prepared) ∧
      writeSignOnly prepared (steps.foldl signStep prepared.authPayload) = .ok signed

/-- Every run asks only for signatures of the prepared digest. -/
theorem exchanges_signAuthEntryWithSigners (entry : SorobanAuthorizationEntry)
    (signers : List AuthDigestSigner) (options : SignAuthEntryWithSignersOptions) :
    Program.Exchanges (SignOnlyRequest entry signers options) Succeeded
      (signAuthEntryWithSigners entry signers options) := by
  refine Program.exchanges_ofExcept_bind fun _ _ => ?_
  refine Program.exchanges_ofExcept_bind fun prepared hprepared => ?_
  refine Program.exchanges_bind ?_ fun _ _ _ => Program.exchanges_done
  refine Program.exchanges_forEach_of_body fun signer hsigner payload => ?_
  refine Program.exchanges_bind ?_ fun _ _ _ => Program.exchanges_done
  exact Program.exchanges_await ⟨prepared, hprepared, signer, hsigner, rfl⟩ fun _ hok => hok

/-- A successful run puts each signer's signature into the payload, in order. -/
theorem run_signAuthEntryWithSigners {entry signed : SorobanAuthorizationEntry}
    {signers : List AuthDigestSigner} {options : SignAuthEntryWithSignersOptions}
    {t : History Environment}
    (hrun : Program.Run (signAuthEntryWithSigners entry signers options) t (.ok signed)) :
    SignedInOrder entry signers options t signed := by
  obtain ⟨_, hsome, hrun⟩ := Program.run_ofExcept_bind_ok.mp hrun
  obtain ⟨prepared, hprepared, hrun⟩ := Program.run_ofExcept_bind_ok.mp hrun
  obtain ⟨payload, t₁, t₂, rfl, hloop, hwrite⟩ := Program.run_bind_ok.mp hrun
  obtain ⟨rfl, hsigned⟩ := Program.run_ofExcept.mp hwrite
  have hsteps := Program.run_forEach
    (fun done h payload => ∃ steps : List (AuthDigestSigner × Bytes), steps.map Prod.fst = done ∧
      h = steps.map (signExchange prepared) ∧ payload = steps.foldl signStep prepared.authPayload)
    ⟨[], rfl, rfl, rfl⟩ ?_ hloop
  · obtain ⟨steps, hsigners, ht, hpayload⟩ := hsteps
    refine ⟨throwIf_eq_ok.mp hsome, prepared, hprepared, steps, hsigners, ?_, ?_⟩
    · rw [List.append_nil, ht]
    · rw [← hpayload, hsigned]
  · intro done signer h payload t' payload' _ ⟨steps, hdone, hh, hpayload⟩ hbody
    obtain ⟨signature, t₁, t₂, ht', hsign, hlast⟩ := Program.run_bind_ok.mp hbody
    obtain ⟨reply, ht₁, hreply⟩ := Program.run_await.mp hsign
    obtain ⟨ht₂, hresult⟩ := Program.run_pure.mp hlast
    refine ⟨steps ++ [(signer, signature)], by simp [hdone], ?_, ?_⟩
    · rw [ht', ht₁, ht₂, hh, List.map_append]
      simp only [List.map_cons, List.map_nil, List.append_nil, signExchange]
      rw [show reply = .ok signature from hreply.symm]
    · rw [List.foldl_append, ← hpayload]
      exact Except.ok.inj hresult

/-! ## Signing in steps -/

section steady

variable {reply : (r : Request) → Reply r}
  {sign : AuthDigestSigner → BytesN 32 → Except JsError Bytes}

/-- The payload entry of a signer that signs a digest. -/
def SignerSigns (sign : AuthDigestSigner → BytesN 32 → Except JsError Bytes)
    (authDigest : BytesN 32) (signer : AuthDigestSigner) (p : PayloadSigner) : Prop :=
  ∃ signature, sign signer authDigest = .ok signature ∧
    p = ⟨some signer.ref, signer.signer, signature⟩

theorem SignerSigns.signer {authDigest : BytesN 32} {signer : AuthDigestSigner}
    {p : PayloadSigner} (h : SignerSigns sign authDigest signer p) : p.signer = signer.signer := by
  obtain ⟨signature, -, rfl⟩ := h
  rfl

/-- The identities of signers differ pairwise. -/
def DistinctIdentities (signers : List AuthDigestSigner) : Prop :=
  signers.Pairwise fun a b => a.signer ≠ b.signer

/-- One step of the loop, by a signer that has no entry yet. -/
theorem answer_signWithSigner
    (hsign : ∀ signer authDigest args, reply (.signAuthDigest signer authDigest args) =
      sign signer authDigest)
    {prepared : SignOnlyEntry} {payload payload' : AuthPayload} {signer : AuthDigestSigner}
    (hnew : ∀ p ∈ payload.signers, p.signer ≠ signer.signer) :
    Program.answer reply (signWithSigner prepared payload signer) = .ok payload' ↔
      ∃ p, SignerSigns sign prepared.authDigest signer p ∧
        payload' = { payload with signers := payload.signers ++ [p] } := by
  have hkeep : payload.signers.filter (fun q => q.signer ≠ signer.signer) = payload.signers :=
    List.filter_eq_self.mpr fun q hq => by simpa using hnew q hq
  have hnone : payload.signers.filter (fun q => q.signer = signer.signer) = [] :=
    List.filter_eq_nil_iff.mpr fun q hq => by simpa using hnew q hq
  have hupsert : ∀ signature, upsertAuthPayloadSigner payload (some signer.ref) signer.signer
      signature = { payload with
        signers := payload.signers ++ [⟨some signer.ref, signer.signer, signature⟩] } := by
    intro signature
    have := @upsertAuthPayloadSigner_signers payload (some signer.ref) signer.signer signature
      (by rw [hnone]; exact Nat.zero_le _)
    rw [hkeep] at this
    rw [← this]
    rfl
  simp only [signWithSigner, Program.bind_eq, Program.answer_bind, Program.answer_await, id_eq,
    hsign, Program.answer_pure, except_bind_eq_ok, Except.ok.injEq, hupsert]
  constructor
  · rintro ⟨signature, hsignature, rfl⟩
    exact ⟨_, ⟨signature, hsignature, rfl⟩, rfl⟩
  · rintro ⟨p, ⟨signature, hsignature, rfl⟩, rfl⟩
    exact ⟨signature, hsignature, rfl⟩

/-- The loop over signers that differ from each other and from those in the payload. -/
theorem answer_signLoop
    (hsign : ∀ signer authDigest args, reply (.signAuthDigest signer authDigest args) =
      sign signer authDigest)
    {prepared : SignOnlyEntry} {signers : List AuthDigestSigner} {payload payload' : AuthPayload}
    (hdistinct : DistinctIdentities signers)
    (hnew : ∀ signer ∈ signers, ∀ p ∈ payload.signers, p.signer ≠ signer.signer) :
    Program.answer reply (Program.forEach signers payload (signWithSigner prepared)) =
        .ok payload' ↔
      ∃ ps, List.Forall₂ (SignerSigns sign prepared.authDigest) signers ps ∧
        payload' = { payload with signers := payload.signers ++ ps } := by
  rw [Program.answer_forEach]
  induction signers generalizing payload with
  | nil =>
    rw [List.foldlM_nil, except_pure_eq_ok]
    simp [eq_comm]
  | cons signer signers ih =>
    rw [List.foldlM_cons, except_bind_eq_ok]
    obtain ⟨hne, hdistinct'⟩ := List.pairwise_cons.mp hdistinct
    have hih : ∀ p, SignerSigns sign prepared.authDigest signer p →
        ∀ s ∈ signers, ∀ q ∈ payload.signers ++ [p], q.signer ≠ s.signer := by
      intro p hp s hs q hq
      rcases List.mem_append.mp hq with hq | hq
      · exact hnew s (List.mem_cons_of_mem _ hs) q hq
      · rw [List.mem_singleton.mp hq, hp.signer]
        exact hne s hs
    constructor
    · rintro ⟨payload₁, hfirst, hrest⟩
      obtain ⟨p, hp, rfl⟩ := (answer_signWithSigner hsign (hnew signer List.mem_cons_self)).mp hfirst
      obtain ⟨ps, hps, rfl⟩ := (ih hdistinct' (hih p hp)).mp hrest
      exact ⟨p :: ps, List.Forall₂.cons hp hps, by simp⟩
    · rintro ⟨_, hps, rfl⟩
      cases hps with
      | cons hp hps =>
        refine ⟨_, (answer_signWithSigner hsign (hnew signer List.mem_cons_self)).mpr ⟨_, hp, rfl⟩, ?_⟩
        exact (ih hdistinct' (hih _ hp)).mpr ⟨_, hps, by simp⟩

theorem writeSignOnly_eq_ok {prepared : SignOnlyEntry} {payload : AuthPayload}
    {signed : SorobanAuthorizationEntry} : writeSignOnly prepared payload = .ok signed ↔
      ∃ v, writeAuthPayload ⟨prepared.contextRuleIds, payload.signers⟩ = .ok v ∧
        prepared.signed.setSignature v = signed := by
  simp only [writeSignOnly, except_bind_eq_ok, except_pure_eq_ok]

theorem answer_signAuthEntryWithSigners {entry signed : SorobanAuthorizationEntry}
    {signers : List AuthDigestSigner} {options : SignAuthEntryWithSignersOptions} :
    Program.answer reply (signAuthEntryWithSigners entry signers options) = .ok signed ↔
      signers ≠ [] ∧ ∃ prepared, prepareSignOnly entry options = .ok prepared ∧
        ∃ payload, Program.answer reply (Program.forEach signers prepared.authPayload
          (signWithSigner prepared)) = .ok payload ∧ writeSignOnly prepared payload = .ok signed := by
  simp only [signAuthEntryWithSigners, Program.bind_eq, Program.answer_bind,
    Program.answer_ofExcept, except_bind_eq_ok, throwIf_eq_ok, exists_const, ne_eq]

/-- The entry that signers with the entries `ps` make of an unsigned entry. -/
def SignsTo (sign : AuthDigestSigner → BytesN 32 → Except JsError Bytes)
    (entry : SorobanAuthorizationEntry) (options : SignAuthEntryWithSignersOptions)
    (signers : List AuthDigestSigner) (signed : SorobanAuthorizationEntry) : Prop :=
  ∃ prepared ps v, prepareSignOnly entry options = .ok prepared ∧
    List.Forall₂ (SignerSigns sign prepared.authDigest) signers ps ∧
    writeAuthPayload ⟨prepared.contextRuleIds, ps⟩ = .ok v ∧
    prepared.signed.setSignature v = signed

/-- The entry's address credentials hold no signature. -/
def Unsigned (entry : SorobanAuthorizationEntry) : Prop :=
  ∃ c, entry.addressCredentials? = some c ∧ c.signature = .void

theorem prepareSignOnly_unsigned {entry : SorobanAuthorizationEntry}
    {options : SignAuthEntryWithSignersOptions} {prepared : SignOnlyEntry}
    (hunsigned : Unsigned entry) (h : prepareSignOnly entry options = .ok prepared) :
    prepared.authPayload = emptyAuthPayload := by
  obtain ⟨scheme, c, contractId, expiration, payload, ids, signed, digest, -, hkind, -, -, -, hread,
    -, -, -, rfl⟩ := prepareSignOnly_eq_ok.mp h
  obtain ⟨c', hc', hvoid⟩ := hunsigned
  have hcc : c' = c := by
    rcases hkind with hk | hk <;>
      (rw [SorobanAuthorizationEntry.addressCredentials?, hk] at hc'
       exact (Option.some.inj hc').symm)
  rw [← hcc, hvoid] at hread
  exact (Except.ok.inj hread).symm

/-- Signing an unsigned entry. -/
theorem answer_unsigned
    (hsign : ∀ signer authDigest args, reply (.signAuthDigest signer authDigest args) =
      sign signer authDigest)
    {entry signed : SorobanAuthorizationEntry} {signers : List AuthDigestSigner}
    {options : SignAuthEntryWithSignersOptions} (hunsigned : Unsigned entry)
    (hdistinct : DistinctIdentities signers) :
    Program.answer reply (signAuthEntryWithSigners entry signers options) = .ok signed ↔
      signers ≠ [] ∧ SignsTo sign entry options signers signed := by
  rw [answer_signAuthEntryWithSigners]
  refine and_congr_right fun _ => ?_
  have hloop : ∀ {prepared payload}, prepareSignOnly entry options = .ok prepared →
      (Program.answer reply (Program.forEach signers prepared.authPayload
        (signWithSigner prepared)) = .ok payload ↔
      ∃ ps, List.Forall₂ (SignerSigns sign prepared.authDigest) signers ps ∧
        payload = { emptyAuthPayload with signers := ps }) := by
    intro prepared payload hprepared
    rw [prepareSignOnly_unsigned hunsigned hprepared]
    exact answer_signLoop hsign hdistinct fun _ _ p hp => nomatch hp
  constructor
  · rintro ⟨prepared, hprepared, payload, hpayload, hwrite⟩
    obtain ⟨ps, hps, rfl⟩ := (hloop hprepared).mp hpayload
    obtain ⟨v, hv, hsigned⟩ := writeSignOnly_eq_ok.mp hwrite
    exact ⟨prepared, ps, v, hprepared, hps, hv, hsigned⟩
  · rintro ⟨prepared, ps, v, hprepared, hps, hv, hsigned⟩
    exact ⟨prepared, hprepared, _, (hloop hprepared).mpr ⟨ps, hps, rfl⟩,
      writeSignOnly_eq_ok.mpr ⟨v, hv, hsigned⟩⟩

/-- An entry that a first group of signers signed passes the checks again, with their entries in
its payload and the same digest to sign. -/
theorem prepareSignOnly_again {entry : SorobanAuthorizationEntry}
    {options : SignAuthEntryWithSignersOptions} {prepared : SignOnlyEntry}
    {ps : List PayloadSigner} {v : ScVal} (h : prepareSignOnly entry options = .ok prepared)
    (hv : writeAuthPayload ⟨prepared.contextRuleIds, ps⟩ = .ok v) :
    ∃ qs, ps.Perm qs ∧ prepareSignOnly (prepared.signed.setSignature v) options = .ok
      { prepared with
        signed := prepared.signed.setSignature v
        authPayload := ⟨prepared.contextRuleIds, qs.map PayloadSigner.fresh⟩
        args := { prepared.args with entry := prepared.signed.setSignature v } } := by
  obtain ⟨scheme, c, contractId, expiration, payload, ids, signed, digest, hscheme, hkind, hid,
    hguard, hexp, -, -, hids, hcompute, rfl⟩ := prepareSignOnly_eq_ok.mp h
  obtain ⟨_, _, _, -, hledger, -, -, rfl, -⟩ := computeEntryAuthDigest_eq_ok.mp hcompute
  rw [normalizeSignatureExpirationLedger_ofU32, Except.ok.injEq] at hledger
  subst hledger
  obtain ⟨qs, hperm, hread⟩ := readAuthPayload_writeAuthPayload hv
  obtain ⟨hrequested, hne, -⟩ := signOnlyContextRuleIds_eq_ok.mp hids
  refine ⟨qs, hperm, prepareSignOnly_eq_ok.mpr ⟨scheme,
    { c with signatureExpirationLedger := expiration, signature := v }, contractId, expiration,
    ⟨ids, qs.map PayloadSigner.fresh⟩, ids, _, digest, hscheme, ?_, ?_, ?_, ?_, hread, Or.inr rfl,
    signOnlyContextRuleIds_eq_ok.mpr ⟨hrequested, hne, Or.inr rfl⟩, ?_, rfl⟩⟩
  · obtain ⟨credentials, root⟩ := entry
    rcases hkind with rfl | rfl
    · exact Or.inl rfl
    · exact Or.inr rfl
  · rw [getAuthEntryAddress_setSignature, getAuthEntryAddress_setExpiration, hid]
  · rw [← hguard]
    exact assertWalletMutationIntent_congr (by simp) contractId none none
  · -- the entry now holds the expiration that the options ask for
    obtain ⟨htruthy, hnormal⟩ := signOnlyExpiration_eq_ok.mp hexp
    rw [signOnlyExpiration_eq_ok]
    cases hrequest : options.expiration with
    | some x => rw [hrequest] at htruthy hnormal; exact ⟨htruthy, hnormal⟩
    | none =>
      rw [hrequest, Option.getD_none] at htruthy hnormal
      rw [normalizeSignatureExpirationLedger_ofU32, Except.ok.injEq] at hnormal
      rw [hnormal] at htruthy
      exact ⟨htruthy, normalizeSignatureExpirationLedger_ofU32 expiration⟩
  · rw [computeEntryAuthDigest_setSignature, computeEntryAuthDigest_setExpiration, hcompute]
    rfl

theorem signers_of_signerSigns {authDigest : BytesN 32} {signers : List AuthDigestSigner}
    {ps : List PayloadSigner} (h : List.Forall₂ (SignerSigns sign authDigest) signers ps) :
    ps.map PayloadSigner.signer = signers.map AuthDigestSigner.signer := by
  induction h with
  | nil => rfl
  | cons hp _ ih => rw [List.map_cons, List.map_cons, ih, hp.signer]

theorem distinctSigners_of_signerSigns {authDigest : BytesN 32} {signers : List AuthDigestSigner}
    {ps : List PayloadSigner} (h : List.Forall₂ (SignerSigns sign authDigest) signers ps)
    (hdistinct : DistinctIdentities signers) : DistinctSigners ps := by
  have hmap : (signers.map AuthDigestSigner.signer).Pairwise (· ≠ ·) :=
    List.pairwise_map.mpr hdistinct
  rw [← signers_of_signerSigns h] at hmap
  exact List.pairwise_map.mp hmap

/-- Signers that differ from those of the first group have no entry in what it wrote. -/
theorem disjoint_of_signerSigns {authDigest : BytesN 32} {S₁ S₂ : List AuthDigestSigner}
    {ps qs : List PayloadSigner} (h : List.Forall₂ (SignerSigns sign authDigest) S₁ ps)
    (hperm : ps.Perm qs) (hcross : ∀ a ∈ S₁, ∀ b ∈ S₂, a.signer ≠ b.signer) :
    ∀ b ∈ S₂, ∀ p ∈ qs.map PayloadSigner.fresh, p.signer ≠ b.signer := by
  intro b hb p hp
  obtain ⟨q, hq, rfl⟩ := List.mem_map.mp hp
  obtain ⟨a, ha, hqa⟩ := exists_of_forall₂_right h (hperm.mem_iff.mpr hq)
  rw [PayloadSigner.fresh, hqa.signer]
  exact hcross a ha b hb

theorem fresh_append_perm {ps qs : List PayloadSigner} (h : ps.Perm qs)
    (rs : List PayloadSigner) :
    ((ps ++ rs).map PayloadSigner.fresh).Perm
      ((qs.map PayloadSigner.fresh ++ rs).map PayloadSigner.fresh) := by
  rw [List.map_append, List.map_append, List.map_map]
  exact (h.map _).append_right _

/-- Signing an unsigned entry in two steps is signing it with all the signers. -/
theorem answer_twice
    (hsign : ∀ signer authDigest args, reply (.signAuthDigest signer authDigest args) =
      sign signer authDigest)
    {entry signed : SorobanAuthorizationEntry} {S₁ S₂ : List AuthDigestSigner}
    {options : SignAuthEntryWithSignersOptions} (hunsigned : Unsigned entry) (h₁ : S₁ ≠ [])
    (h₂ : S₂ ≠ []) (hdistinct : DistinctIdentities (S₁ ++ S₂)) :
    (Program.answer reply (signAuthEntryWithSigners entry S₁ options) >>= fun e =>
        Program.answer reply (signAuthEntryWithSigners e S₂ options)) = .ok signed ↔
      SignsTo sign entry options (S₁ ++ S₂) signed := by
  obtain ⟨hdistinct₁, hdistinct₂, hcross⟩ := List.pairwise_append.mp hdistinct
  rw [except_bind_eq_ok]
  constructor
  · rintro ⟨e, hfirst, hsecond⟩
    obtain ⟨-, prepared, ps, v, hprepared, hps, hv, rfl⟩ :=
      (answer_unsigned hsign hunsigned hdistinct₁).mp hfirst
    obtain ⟨qs, hperm, hagain⟩ := prepareSignOnly_again hprepared hv
    obtain ⟨-, prepared', hprepared', payload, hpayload, hwrite⟩ :=
      answer_signAuthEntryWithSigners.mp hsecond
    rw [hagain, Except.ok.injEq] at hprepared'
    subst hprepared'
    obtain ⟨rs, hrs, rfl⟩ := (answer_signLoop hsign hdistinct₂
      (disjoint_of_signerSigns hps hperm hcross)).mp hpayload
    obtain ⟨w, hw, rfl⟩ := writeSignOnly_eq_ok.mp hwrite
    have hall := List.rel_append hps hrs
    refine ⟨prepared, ps ++ rs, w, hprepared, hall, ?_, by simp⟩
    have hsame := fresh_append_perm hperm rs
    have hqs := (distinctSigners_of_signerSigns hall hdistinct).perm hsame
    exact writeAuthPayload_congr hqs hsame.symm hw
  · rintro ⟨prepared, _, v, hprepared, hall, hv, rfl⟩
    obtain ⟨ps, rs, hps, hrs, rfl⟩ := forall₂_append_left_iff.mp hall
    obtain ⟨w, hw⟩ := writeAuthPayload_append hv
    obtain ⟨qs, hperm, hagain⟩ := prepareSignOnly_again hprepared hw
    refine ⟨prepared.signed.setSignature w, (answer_unsigned hsign hunsigned hdistinct₁).mpr
      ⟨h₁, prepared, ps, w, hprepared, hps, hw, rfl⟩, answer_signAuthEntryWithSigners.mpr
      ⟨h₂, _, hagain, _, (answer_signLoop hsign hdistinct₂
        (disjoint_of_signerSigns hps hperm hcross)).mpr ⟨rs, hrs, rfl⟩,
        writeSignOnly_eq_ok.mpr ⟨v, ?_, by simp⟩⟩⟩
    exact writeAuthPayload_congr (distinctSigners_of_signerSigns hall hdistinct)
      (fresh_append_perm hperm rs) hv

/-- The order of the signers does not matter. -/
theorem SignsTo.perm {entry signed : SorobanAuthorizationEntry} {S S' : List AuthDigestSigner}
    {options : SignAuthEntryWithSignersOptions} (hdistinct : DistinctIdentities S)
    (hperm : S.Perm S') (h : SignsTo sign entry options S signed) :
    SignsTo sign entry options S' signed := by
  obtain ⟨prepared, ps, v, hprepared, hps, hv, hsigned⟩ := h
  obtain ⟨ps', hps_perm, hps'⟩ := forall₂_perm_left hps hperm
  exact ⟨prepared, ps', v, hprepared, hps', writeAuthPayload_congr
    (distinctSigners_of_signerSigns hps hdistinct) (hps_perm.map _) hv, hsigned⟩

/-- An entry that each of the signers signed once: it keeps the address, nonce and invocation, and
its signers map is in strict host order and holds one signature for each signer, over the digest
of the unsigned entry. -/
def JointlySigned (sign : AuthDigestSigner → BytesN 32 → Except JsError Bytes)
    (entry : SorobanAuthorizationEntry) (options : SignAuthEntryWithSignersOptions)
    (signers : List AuthDigestSigner) (signed : SorobanAuthorizationEntry) : Prop :=
  ∃ c c' ids us scheme digest, ∃ es : List (ScVal × ScVal), ∃ signers',
    entry.addressCredentials? = some c ∧ signed.addressCredentials? = some c' ∧
    c'.address = c.address ∧ c'.nonce = c.nonce ∧
    signed.rootInvocation = entry.rootInvocation ∧
    options.contextRuleIds = some ids ∧ ids = us.map JsNumber.ofU32 ∧
    AuthDigestScheme.name scheme = options.authDigestScheme ∧
    computeEntryAuthDigest options.networkPassphrase entry
      (options.expiration.getD (.ofU32 c.signatureExpirationLedger)) ids scheme = .ok digest ∧
    c'.signature = payloadScVal us es ∧
    (es.Pairwise fun a b => compareKeys a b < 0) ∧
    signers.Perm signers' ∧
    List.Forall₂ (fun (s : AuthDigestSigner) e => signerToScVal s.signer = .ok e.1 ∧
      ∃ signature, sign s digest.2.authDigest = .ok signature ∧ e.2 = .bytes signature) signers' es

theorem SignsTo.jointlySigned {entry signed : SorobanAuthorizationEntry}
    {S : List AuthDigestSigner} {options : SignAuthEntryWithSignersOptions}
    (hdistinct : DistinctIdentities S) (h : SignsTo sign entry options S signed) :
    JointlySigned sign entry options S signed := by
  obtain ⟨prepared, ps, v, hprepared, hps, hv, rfl⟩ := h
  obtain ⟨scheme, c, contractId, expiration, payload, ids, signed, digest, hscheme, hkind, -, -,
    hexp, -, -, hids, hcompute, rfl⟩ := prepareSignOnly_eq_ok.mp hprepared
  obtain ⟨es, us, hes, hus, rfl⟩ := writeAuthPayload_eq_ok.mp hv
  obtain ⟨_, ledger, _, -, -, -, -, rfl, -⟩ := computeEntryAuthDigest_eq_ok.mp hcompute
  have hc : entry.addressCredentials? = some c := by
    rcases hkind with hk | hk <;> rw [SorobanAuthorizationEntry.addressCredentials?, hk] <;> rfl
  obtain ⟨ps', hps_perm, hps'⟩ :=
    forall₂_perm_right hes (@sortBy_perm _ compareKeys es).symm
  obtain ⟨S', hperm, hS'⟩ := forall₂_perm_right hps hps_perm
  refine ⟨c, { c with
      signatureExpirationLedger := ledger, signature := payloadScVal us (sortBy compareKeys es) },
    ids, us, scheme, _, sortBy compareKeys es, S', hc, by simp [hc], rfl, rfl, by simp,
    (signOnlyContextRuleIds_eq_ok.mp hids).1, hus, hscheme,
    (computeEntryAuthDigest_normalized (signOnlyExpiration_eq_ok.mp hexp).2).symm.trans hcompute,
    rfl, ?_, hperm, ?_⟩
  · exact sortBy_strict compareKeys_lawfulAt
      (compareKeys_pairwise hes (distinctSigners_of_signerSigns hps hdistinct))
  · refine forall₂_trans (fun signer p e hsigns hwrite => ?_) hS' hps'
    obtain ⟨signature, hsignature, rfl⟩ := hsigns
    obtain ⟨hkey, hval⟩ := writeSignerEntry_eq_ok.mp hwrite
    exact ⟨hkey, signature, hsignature, hval⟩

/-- Incremental signing commutes: signing an unsigned entry with two groups of signers, in either
order or at once, fails in all three cases or gives one jointly signed entry. -/
theorem signAuthEntryWithSigners_comm
    (hsign : ∀ signer authDigest args, reply (.signAuthDigest signer authDigest args) =
      sign signer authDigest)
    {entry : SorobanAuthorizationEntry} {S₁ S₂ : List AuthDigestSigner}
    (options : SignAuthEntryWithSignersOptions) (hunsigned : Unsigned entry) (h₁ : S₁ ≠ [])
    (h₂ : S₂ ≠ []) (hdistinct : DistinctIdentities (S₁ ++ S₂)) :
    let run := fun e S => Program.answer reply (signAuthEntryWithSigners e S options)
    (∃ signed, (run entry S₁ >>= fun e => run e S₂) = .ok signed ∧
      (run entry S₂ >>= fun e => run e S₁) = .ok signed ∧ run entry (S₁ ++ S₂) = .ok signed ∧
      JointlySigned sign entry options (S₁ ++ S₂) signed) ∨
    (∃ e e' e'', (run entry S₁ >>= fun e => run e S₂) = .error e ∧
      (run entry S₂ >>= fun e => run e S₁) = .error e' ∧ run entry (S₁ ++ S₂) = .error e'') := by
  intro run
  have hswap : DistinctIdentities (S₂ ++ S₁) :=
    (List.perm_append_comm.pairwise_iff fun h => h.symm).mp hdistinct
  have hfirst := fun signed => @answer_twice _ _ hsign entry signed _ _ options hunsigned h₁ h₂
    hdistinct
  have hsecond := fun signed => @answer_twice _ _ hsign entry signed _ _ options hunsigned h₂ h₁
    hswap
  have honce := fun signed => @answer_unsigned _ _ hsign entry signed _ options hunsigned hdistinct
  have herror : ∀ x : Except JsError SorobanAuthorizationEntry, (∀ signed, x ≠ .ok signed) →
      ∃ e, x = .error e := by
    rintro (e | signed) hx
    · exact ⟨e, rfl⟩
    · exact absurd rfl (hx signed)
  by_cases hall : ∃ signed, SignsTo sign entry options (S₁ ++ S₂) signed
  · obtain ⟨signed, hsigned⟩ := hall
    exact Or.inl ⟨signed, (hfirst signed).mpr hsigned,
      (hsecond signed).mpr (hsigned.perm hdistinct List.perm_append_comm),
      (honce signed).mpr ⟨by simp [h₁], hsigned⟩, hsigned.jointlySigned hdistinct⟩
  · rw [not_exists] at hall
    obtain ⟨e, he⟩ := herror _ fun signed h => hall signed ((hfirst signed).mp h)
    obtain ⟨e', he'⟩ := herror _ fun signed h =>
      hall signed (((hsecond signed).mp h).perm hswap List.perm_append_comm)
    obtain ⟨e'', he''⟩ := herror _ fun signed h => hall signed ((honce signed).mp h).2
    exact Or.inr ⟨e, e', e'', he, he', he''⟩

end steady

/-- Options for signing the sample entry at its own expiration. -/
def sampleOptions : SignAuthEntryWithSignersOptions :=
  { networkPassphrase := "Test"
    authDigestScheme := "preimage-v1"
    contextRuleIds := some [.ofU32 0]
    expiration := none }

/-- Two signers sign the sample entry in either order. -/
theorem signAuthEntryWithSigners_comm_sample :
    let run := fun e S =>
      Program.answer sampleReplies.reply (signAuthEntryWithSigners e S sampleOptions)
    (∃ signed, (run sampleEntry [⟨0, sampleSigner 1⟩] >>= fun e => run e [⟨1, sampleSigner 2⟩]) =
        .ok signed ∧
      (run sampleEntry [⟨1, sampleSigner 2⟩] >>= fun e => run e [⟨0, sampleSigner 1⟩]) =
        .ok signed ∧
      run sampleEntry [⟨0, sampleSigner 1⟩, ⟨1, sampleSigner 2⟩] = .ok signed ∧
      JointlySigned (fun signer authDigest => sampleReplies.sign signer.signer authDigest)
        sampleEntry sampleOptions [⟨0, sampleSigner 1⟩, ⟨1, sampleSigner 2⟩] signed) := by
  have hcomm := @signAuthEntryWithSigners_comm sampleReplies.reply
    (fun signer authDigest => sampleReplies.sign signer.signer authDigest)
    (fun _ _ _ => rfl) sampleEntry [⟨0, sampleSigner 1⟩] [⟨1, sampleSigner 2⟩] sampleOptions
    ⟨sampleCredentials, rfl, rfl⟩ (by simp) (by simp) (by
      simp [DistinctIdentities, sampleSigner])
  have hok : (Program.answer sampleReplies.reply (signAuthEntryWithSigners sampleEntry
      [⟨0, sampleSigner 1⟩, ⟨1, sampleSigner 2⟩] sampleOptions)).isOk = true := by
    set_option maxRecDepth 20000 in decide
  refine hcomm.resolve_right fun ⟨_, _, e, _, _, herror⟩ => ?_
  exact Bool.noConfusion (hok.symm.trans (congrArg Except.isOk herror))

end SmartAccountKit
