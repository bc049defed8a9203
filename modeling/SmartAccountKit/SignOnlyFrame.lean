import SmartAccountKit.Lib.Requeue
import SmartAccountKit.SignOnlyTheorems

/-!
# What signing an entry again keeps

The entries of each signer after a sign-only run, and exactly when a run over
an entry that already carries signatures leaves all of them valid.
-/

namespace SmartAccountKit
open Lib

/-! ## The entries of one signer -/

/-- The signatures that an identity gave, in order. -/
def stepsBy (signer : Signer) (steps : List (AuthDigestSigner × Bytes)) :
    List (AuthDigestSigner × Bytes) :=
  steps.filter fun step => step.1.signer = signer

/-- The entry that a signature leaves. -/
def stepEntry (step : AuthDigestSigner × Bytes) : PayloadSigner :=
  ⟨some step.1.ref, step.1.signer, step.2⟩

/-- The update of one identity's entries by one of its signatures. -/
def entryStep (ps : List PayloadSigner) (step : AuthDigestSigner × Bytes) : List PayloadSigner :=
  setPayloadSigner ps.tail (stepEntry step)

/-- The entries of an identity change with its own signatures only. -/
theorem entriesOf_signSteps (signer : Signer) (steps : List (AuthDigestSigner × Bytes))
    (payload : AuthPayload) :
    entriesOf signer (steps.foldl signStep payload).signers =
      (stepsBy signer steps).foldl entryStep (entriesOf signer payload.signers) := by
  induction steps generalizing payload with
  | nil => rfl
  | cons step steps ih =>
    rw [List.foldl_cons, ih]
    by_cases h : step.1.signer = signer
    · have hby : stepsBy signer (step :: steps) = step :: stepsBy signer steps :=
        List.filter_cons_of_pos (by simpa using h)
      subst h
      rw [hby, List.foldl_cons, signStep, entriesOf_upsert_self]
      rfl
    · have hby : stepsBy signer (step :: steps) = stepsBy signer steps :=
        List.filter_cons_of_neg (by simpa using h)
      rw [hby, signStep, entriesOf_upsert_ne h]

theorem stepEntry_mem_entryStep (ps : List PayloadSigner) (step : AuthDigestSigner × Bytes) :
    stepEntry step ∈ entryStep ps step := by
  unfold entryStep setPayloadSigner
  split_ifs with hany
  · obtain ⟨q, hq, hsame⟩ := List.any_eq_true.mp hany
    exact List.mem_map.mpr ⟨q, hq, if_pos hsame⟩
  · simp [stepEntry]

/-- A signature of an identity sets entries of this identity. -/
theorem signer_entryStep {signer : Signer} {ps : List PayloadSigner}
    (hps : ∀ q ∈ ps, q.signer = signer) {step : AuthDigestSigner × Bytes}
    (hstep : step.1.signer = signer) : ∀ q ∈ entryStep ps step, q.signer = signer := by
  have htail : ∀ q ∈ ps.tail, q.signer = signer := fun q hq => hps q (List.mem_of_mem_tail hq)
  intro q hq
  unfold entryStep setPayloadSigner at hq
  split_ifs at hq
  · obtain ⟨r, hr, rfl⟩ := List.mem_map.mp hq
    split_ifs
    · exact hstep
    · exact htail r hr
  · rcases List.mem_append.mp hq with hq | hq
    · exact htail q hq
    · rw [List.mem_singleton.mp hq]
      exact hstep

/-- The objects of an identity's entries are a queue: the first entry goes, and the signer's object
takes the last place unless one of the other entries has this object. -/
theorem map_ref_entryStep {signer : Signer} {ps : List PayloadSigner}
    (hps : ∀ q ∈ ps, q.signer = signer) {step : AuthDigestSigner × Bytes}
    (hstep : step.1.signer = signer) :
    (entryStep ps step).map PayloadSigner.ref =
      requeue (ps.map PayloadSigner.ref) (some step.1.ref) := by
  have hsame : ∀ q ∈ ps.tail,
      (stepEntry step).sameObject q = true ↔ q.ref = some step.1.ref := by
    intro q hq
    have hidentity : step.1.signer = q.signer :=
      hstep.trans (hps q (List.mem_of_mem_tail hq)).symm
    simp only [PayloadSigner.sameObject, stepEntry, hidentity, Option.isSome_some, Bool.true_and,
      Bool.and_eq_true, beq_iff_eq, signersEqual_iff, and_true]
    exact eq_comm
  have hany : ps.tail.any (stepEntry step).sameObject = true ↔
      some step.1.ref ∈ (ps.map PayloadSigner.ref).tail := by
    rw [List.any_eq_true, ← List.map_tail, List.mem_map]
    exact exists_congr fun q => and_congr_right fun hq => hsame q hq
  unfold entryStep setPayloadSigner requeue
  by_cases h : some step.1.ref ∈ (ps.map PayloadSigner.ref).tail
  · rw [if_pos (hany.mpr h), if_pos h, List.map_map, ← List.map_tail]
    refine List.map_congr_left fun q hq => ?_
    show (if (stepEntry step).sameObject q then stepEntry step else q).ref = q.ref
    split_ifs with hobject
    · exact ((hsame q hq).mp hobject).symm
    · rfl
  · rw [if_neg (mt hany.mp h), if_neg h, List.map_append, List.map_tail]
    rfl

theorem map_ref_foldl_entryStep {signer : Signer} {ps : List PayloadSigner}
    (hps : ∀ q ∈ ps, q.signer = signer) {steps : List (AuthDigestSigner × Bytes)}
    (hsteps : ∀ step ∈ steps, step.1.signer = signer) :
    (steps.foldl entryStep ps).map PayloadSigner.ref =
      (steps.map fun step => some step.1.ref).foldl requeue (ps.map PayloadSigner.ref) := by
  induction steps generalizing ps with
  | nil => rfl
  | cons step steps ih =>
    have hstep := hsteps step (by simp)
    rw [List.foldl_cons, ih (signer_entryStep hps hstep) fun s hs => hsteps s (by simp [hs]),
      map_ref_entryStep hps hstep]
    rfl

/-- Entries that were read come down to one exactly if the signers' objects bring as many places
down to one. -/
theorem length_foldl_entryStep {signer : Signer} {ps : List PayloadSigner}
    (hps : ∀ q ∈ ps, q.signer = signer) (hread : ∀ q ∈ ps, q.ref = none)
    {steps : List (AuthDigestSigner × Bytes)} (hne : steps ≠ [])
    (hsteps : ∀ step ∈ steps, step.1.signer = signer) :
    (steps.foldl entryStep ps).length = 1 ↔
      ComesDownToOne ps.length (steps.map fun step => step.1.ref) := by
  have hblank : ps.map PayloadSigner.ref = List.replicate ps.length none := by
    rw [← List.length_map PayloadSigner.ref]
    refine List.eq_replicate_of_mem fun ref href => ?_
    obtain ⟨q, hq, rfl⟩ := List.mem_map.mp href
    exact hread q hq
  have hitems : (steps.map fun step => some step.1.ref) =
      (steps.map fun step => step.1.ref).map some := by
    rw [List.map_map]
    rfl
  rw [← List.length_map PayloadSigner.ref, map_ref_foldl_entryStep hps hsteps, hblank, hitems,
    length_foldl_requeue_replicate (by simp) (by simpa using hne),
    comesDownToOne_map (Option.some_injective ℕ)]

/-! ## Runs over a signed entry -/

/-- The signatures that an identity gave in a run, in order. -/
def signaturesBy (signer : Signer) (t : History Environment) : List Bytes :=
  t.filterMap fun
    | ⟨.signAuthDigest s _ _, .ok signature⟩ => if s.signer = signer then some signature else none
    | _ => none

theorem signaturesBy_signExchange (signer : Signer) (prepared : SignOnlyEntry)
    (steps : List (AuthDigestSigner × Bytes)) :
    signaturesBy signer (steps.map (signExchange prepared)) =
      (stepsBy signer steps).map Prod.snd := by
  induction steps with
  | nil => rfl
  | cons step steps ih =>
    rw [List.map_cons, signaturesBy, List.filterMap_cons]
    by_cases h : step.1.signer = signer
    · have hby : stepsBy signer (step :: steps) = step :: stepsBy signer steps :=
        List.filter_cons_of_pos (by simpa using h)
      rw [hby, List.map_cons, ← ih]
      simp only [signExchange, h, if_true]
      rfl
    · have hby : stepsBy signer (step :: steps) = stepsBy signer steps :=
        List.filter_cons_of_neg (by simpa using h)
      rw [hby, ← ih]
      simp only [signExchange, h, if_false]
      rfl

/-- A run leaves every signature valid: the entry and the ids that the signatures cover are the
same, identities that did not sign keep their entries, and each that did has one entry, with its
last signature. -/
def KeepsSignatures (entry signed : SorobanAuthorizationEntry) (c : SorobanAddressCredentials)
    (payload : AuthPayload) (signers : List AuthDigestSigner) (t : History Environment) : Prop :=
  ∃ c' payload', PayloadOf signed c' payload' ∧ c'.address = c.address ∧ c'.nonce = c.nonce ∧
    c'.signatureExpirationLedger = c.signatureExpirationLedger ∧
    signed.rootInvocation = entry.rootInvocation ∧
    payload'.contextRuleIds = payload.contextRuleIds ∧
    (∀ networkPassphrase scheme,
      (computeEntryAuthDigest networkPassphrase signed (.ofU32 c'.signatureExpirationLedger)
        payload'.contextRuleIds scheme).map Prod.snd =
      (computeEntryAuthDigest networkPassphrase entry (.ofU32 c.signatureExpirationLedger)
        payload.contextRuleIds scheme).map Prod.snd) ∧
    (∀ signer, (∀ s ∈ signers, s.signer ≠ signer) →
      (entriesOf signer payload'.signers).Perm (entriesOf signer payload.signers)) ∧
    ∀ s ∈ signers, ∃ signature, (signaturesBy s.signer t).getLast? = some signature ∧
      entriesOf s.signer payload'.signers = [⟨none, s.signer, signature⟩]

/-- What a run over a signed entry returns: the entry with a new signature, whose payload has the
requested ids and, for each identity, its entries after its own signatures. -/
theorem signed_payload {entry signed : SorobanAuthorizationEntry}
    {signers : List AuthDigestSigner} {options : SignAuthEntryWithSignersOptions}
    {t : History Environment} {c : SorobanAddressCredentials} {payload : AuthPayload}
    (hc : PayloadOf entry c payload) (hsome : payload.signers ≠ [])
    (hrun : Program.Run (signAuthEntryWithSigners entry signers options) t (.ok signed)) :
    ∃ ids v qs steps prepared, ids ≠ [] ∧
      (payload.contextRuleIds = [] ∨ payload.contextRuleIds = ids) ∧
      signed = entry.setSignature v ∧ readAuthPayload v = .ok ⟨ids, qs⟩ ∧
      steps.map Prod.fst = signers ∧ t = steps.map (signExchange prepared) ∧
      ∀ signer, (entriesOf signer qs).Perm
        (((stepsBy signer steps).foldl entryStep (entriesOf signer payload.signers)).map
          PayloadSigner.fresh) := by
  obtain ⟨-, prepared, hprepared, steps, hsteps, ht, hwrite⟩ := run_signAuthEntryWithSigners hrun
  obtain ⟨scheme, c', contractId, expiration, payload', ids, signed', digest, -, hkind, -, -, -,
    hread, hsame, hids, hcompute, rfl⟩ := prepareSignOnly_eq_ok.mp hprepared
  have hcc : c' = c := by
    have hc' := hc.1
    rcases hkind with hk | hk <;>
      (rw [SorobanAuthorizationEntry.addressCredentials?, hk] at hc'; exact Option.some.inj hc')
  subst hcc
  have hpayload : payload' = payload := Except.ok.inj (hread.symm.trans hc.2)
  subst hpayload
  -- the entry has a signature, so it keeps the expiration it has
  have hexp := hsame.resolve_left hsome
  obtain ⟨_, _, _, -, hledger, -, -, rfl, -⟩ := computeEntryAuthDigest_eq_ok.mp hcompute
  rw [normalizeSignatureExpirationLedger_ofU32, Except.ok.injEq, hexp] at hledger
  subst hledger
  rw [SorobanAuthorizationEntry.setExpiration_self hc.1] at hwrite
  obtain ⟨v, hv, rfl⟩ := writeSignOnly_eq_ok.mp hwrite
  obtain ⟨qs, hperm, hreadv⟩ := readAuthPayload_writeAuthPayload hv
  obtain ⟨-, hne, hidsame⟩ := signOnlyContextRuleIds_eq_ok.mp hids
  refine ⟨ids, v, qs.map PayloadSigner.fresh, steps, _, hne, hidsame, rfl, hreadv, hsteps, ht,
    fun signer => ?_⟩
  rw [entriesOf_map_fresh, ← entriesOf_signSteps]
  exact (hperm.symm.filter _).map _

/-- The objects that an identity signs as, in the order in which they are listed. -/
def refsOf (signer : Signer) (signers : List AuthDigestSigner) : List ℕ :=
  (signers.filter fun s => s.signer = signer).map AuthDigestSigner.ref

theorem map_ref_stepsBy (signer : Signer) (steps : List (AuthDigestSigner × Bytes)) :
    (stepsBy signer steps).map (fun step => step.1.ref) =
      refsOf signer (steps.map Prod.fst) := by
  rw [refsOf, List.filter_map, List.map_map]
  rfl

/-- An identity that signed has one entry after a run exactly if the objects it signs as bring its
entries down to one, and then the entry has its last signature. -/
theorem entries_after {payload : AuthPayload} {prepared : SignOnlyEntry}
    (hread : ∀ p ∈ payload.signers, p.ref = none) {steps : List (AuthDigestSigner × Bytes)}
    {s : AuthDigestSigner} (hs : s ∈ steps.map Prod.fst) :
    ∃ signature,
      (signaturesBy s.signer (steps.map (signExchange prepared))).getLast? = some signature ∧
      (ComesDownToOne (entriesOf s.signer payload.signers).length
          (refsOf s.signer (steps.map Prod.fst)) ↔
        ((stepsBy s.signer steps).foldl entryStep (entriesOf s.signer payload.signers)).map
          PayloadSigner.fresh = [⟨none, s.signer, signature⟩]) := by
  have hby : ∀ step ∈ stepsBy s.signer steps, step.1.signer = s.signer :=
    fun step hstep => by simpa using (List.mem_filter.mp hstep).2
  have hne : stepsBy s.signer steps ≠ [] := by
    obtain ⟨step, hstep, hfst⟩ := List.mem_map.mp hs
    exact List.ne_nil_of_mem (List.mem_filter.mpr ⟨hstep, by simp [hfst]⟩)
  have hentries : ∀ q ∈ entriesOf s.signer payload.signers, q.signer = s.signer :=
    fun q hq => by simpa using (List.mem_filter.mp hq).2
  have hlength := length_foldl_entryStep hentries
    (fun q hq => hread q (List.mem_of_mem_filter hq)) hne hby
  rw [map_ref_stepsBy] at hlength
  obtain ⟨init, last, hlast⟩ := (List.eq_nil_or_concat' (stepsBy s.signer steps)).resolve_left hne
  have hidentity : last.1.signer = s.signer := hby last (by simp [hlast])
  -- the last signature of the identity is in one of its entries, so in the only one
  have hmem : stepEntry last ∈
      (stepsBy s.signer steps).foldl entryStep (entriesOf s.signer payload.signers) := by
    rw [hlast, List.foldl_append]
    exact stepEntry_mem_entryStep _ last
  refine ⟨last.2, ?_, hlength.symm.trans ⟨fun hone => ?_, fun hone => ?_⟩⟩
  · rw [signaturesBy_signExchange, hlast]
    simp
  · obtain ⟨p, hp⟩ := List.length_eq_one_iff.mp hone
    rw [hp] at hmem ⊢
    rw [← List.mem_singleton.mp hmem, ← hidentity]
    rfl
  · rw [← List.length_map PayloadSigner.fresh, hone]
    rfl

/-- The exact condition on the payload and on the objects that each identity signs as. -/
theorem keepsSignatures_iff {entry signed : SorobanAuthorizationEntry}
    {signers : List AuthDigestSigner} {options : SignAuthEntryWithSignersOptions}
    {t : History Environment} {c : SorobanAddressCredentials} {payload : AuthPayload}
    (hc : PayloadOf entry c payload) (hsome : payload.signers ≠ [])
    (hrun : Program.Run (signAuthEntryWithSigners entry signers options) t (.ok signed)) :
    KeepsSignatures entry signed c payload signers t ↔ payload.contextRuleIds ≠ [] ∧
      ∀ s ∈ signers, ComesDownToOne (entriesOf s.signer payload.signers).length
        (refsOf s.signer signers) := by
  obtain ⟨ids, v, qs, steps, prepared, hne, hidsame, rfl, hreadv, hsteps, rfl, hentries⟩ :=
    signed_payload hc hsome hrun
  have hread := readAuthPayload_ref hc.2
  have hafter : ∀ s ∈ signers, ∃ signature,
      (signaturesBy s.signer (steps.map (signExchange prepared))).getLast? = some signature ∧
      (ComesDownToOne (entriesOf s.signer payload.signers).length (refsOf s.signer signers) ↔
        entriesOf s.signer qs = [⟨none, s.signer, signature⟩]) := by
    intro s hs
    obtain ⟨signature, hlast, hone⟩ := @entries_after _ prepared hread steps s (hsteps ▸ hs)
    rw [hsteps] at hone
    refine ⟨signature, hlast, hone.trans ⟨fun hfold => ?_, fun hfold => ?_⟩⟩
    · apply List.perm_singleton.mp
      rw [← hfold]
      exact hentries s.signer
    · apply List.perm_singleton.mp
      rw [← hfold]
      exact (hentries s.signer).symm
  constructor
  · rintro ⟨c', payload', hc', -, -, -, -, hids, -, -, hsigned⟩
    have hpayload' : payload' = ⟨ids, qs⟩ := by
      have hcred := hc'.1
      rw [SorobanAuthorizationEntry.setSignature_addressCredentials?, hc.1, Option.map_some,
        Option.some.injEq] at hcred
      have hread' := hc'.2
      rw [← hcred, hreadv] at hread'
      exact (Except.ok.inj hread').symm
    subst hpayload'
    refine ⟨hids ▸ hne, fun s hs => ?_⟩
    obtain ⟨signature, hlast, hone⟩ := hafter s hs
    obtain ⟨signature', hlast', hsingle⟩ := hsigned s hs
    rw [hlast] at hlast'
    rw [Option.some.inj hlast'] at hone
    exact hone.mpr hsingle
  · rintro ⟨hids, hdown⟩
    have hsame := hidsame.resolve_left hids
    refine ⟨{ c with signature := v }, ⟨ids, qs⟩, ⟨by simp [hc.1], hreadv⟩, rfl, rfl, rfl, by simp,
      hsame.symm, fun networkPassphrase scheme => ?_, fun signer hother => ?_, fun s hs => ?_⟩
    · rw [hsame, computeEntryAuthDigest_setSignature]
      cases computeEntryAuthDigest networkPassphrase entry (.ofU32 c.signatureExpirationLedger) ids
        scheme <;> rfl
    · have hnone : stepsBy signer steps = [] :=
        List.filter_eq_nil_iff.mpr fun step hstep => by
          simpa using hother step.1 (hsteps ▸ List.mem_map_of_mem hstep)
      have hperm := hentries signer
      rw [hnone, List.foldl_nil] at hperm
      have hfresh : ∀ p ∈ entriesOf signer payload.signers, p.ref = none :=
        fun p hp => hread p (List.mem_of_mem_filter hp)
      rwa [map_fresh_of_ref hfresh] at hperm
    · obtain ⟨signature, hlast, hone⟩ := hafter s hs
      exact ⟨signature, hlast, hone.mp (hdown s hs)⟩

/-- A run over an entry that already carries signatures keeps them valid exactly if the payload has
rule ids and, for each identity among the signers, the objects it signs as bring its entries down
to one. An identity that signs as one object does so if it is listed at least as many times as it
has entries. -/
theorem signAuthEntryWithSigners_keeps {entry signed : SorobanAuthorizationEntry}
    {signers : List AuthDigestSigner} {options : SignAuthEntryWithSignersOptions}
    {t : History Environment} {c : SorobanAddressCredentials} {payload : AuthPayload}
    (hc : PayloadOf entry c payload) (hsome : payload.signers ≠ [])
    (hrun : Program.Run (signAuthEntryWithSigners entry signers options) t (.ok signed)) :
    (KeepsSignatures entry signed c payload signers t ↔ payload.contextRuleIds ≠ [] ∧
      ∀ s ∈ signers, ComesDownToOne (entriesOf s.signer payload.signers).length
        (refsOf s.signer signers)) ∧
    ∀ s ∈ signers, (∀ a ∈ signers, a.signer = s.signer → a = s) →
      (ComesDownToOne (entriesOf s.signer payload.signers).length (refsOf s.signer signers) ↔
        (entriesOf s.signer payload.signers).length ≤ (refsOf s.signer signers).length) := by
  refine ⟨keepsSignatures_iff hc hsome hrun, fun s hs hobject => ?_⟩
  have hlisted : refsOf s.signer signers ≠ [] := by
    apply List.ne_nil_of_mem
    exact List.mem_map_of_mem (List.mem_filter.mpr ⟨hs, by simp⟩)
  refine @comesDownToOne_iff _ _ s.ref _ _ hlisted fun ref href => ?_
  obtain ⟨a, ha, rfl⟩ := List.mem_map.mp href
  obtain ⟨ha, hsigner⟩ := List.mem_filter.mp ha
  rw [hobject a ha (by simpa using hsigner)]

/-- A second signer can sign the sample entry. -/
theorem sampleSignedEntry_run (ids : List UInt32) (h : ids = [] ∨ ids = [0]) :
    ∃ t signed, Program.Run (signAuthEntryWithSigners (sampleSignedEntry ids)
      [⟨0, sampleSigner 2⟩] sampleOptions) t (.ok signed) := by
  apply @Program.exists_run_of_isOk _ _ _ sampleReplies.reply
  rcases h with rfl | rfl <;> set_option maxRecDepth 20000 in decide

/-- A run over a payload with a signature and no rule ids writes ids that the signature does not
cover. -/
theorem signAuthEntryWithSigners_adds_ids :
    ∃ entry signed signers options t c payload, PayloadOf entry c payload ∧
      payload.signers ≠ [] ∧
      Program.Run (signAuthEntryWithSigners entry signers options) t (.ok signed) ∧
      ¬KeepsSignatures entry signed c payload signers t := by
  obtain ⟨t, signed, hrun⟩ := sampleSignedEntry_run [] (Or.inl rfl)
  have hiff := keepsSignatures_iff (sampleSignedEntry_payload []) (by simp) hrun
  exact ⟨_, signed, _, _, t, _, _, sampleSignedEntry_payload [], by simp, hrun,
    fun hkeeps => (hiff.mp hkeeps).1 rfl⟩

/-- A second signer signs the sample entry with rule id 0, and the first signature stays. -/
theorem signAuthEntryWithSigners_keeps_sample :
    ∃ signed t, KeepsSignatures (sampleSignedEntry [0]) signed (sampleSignedCredentials [0])
      ⟨[.ofU32 0], [⟨none, sampleSigner 1, [1]⟩]⟩ [⟨0, sampleSigner 2⟩] t := by
  obtain ⟨t, signed, hrun⟩ := sampleSignedEntry_run [0] (Or.inr rfl)
  have hfew : ∀ s ∈ [(⟨0, sampleSigner 2⟩ : AuthDigestSigner)],
      (entriesOf s.signer [⟨none, sampleSigner 1, [1]⟩]).length ≤ 1 := by
    set_option maxRecDepth 20000 in decide
  exact ⟨signed, t, (signAuthEntryWithSigners_keeps (sampleSignedEntry_payload [0]) (by simp)
    hrun).1.mpr
    ⟨by simp, fun s hs => Or.inl (hfew s hs)⟩⟩

end SmartAccountKit
