import SmartAccountKit.AuthPayload
import SmartAccountKit.Lib.Lists
import SmartAccountKit.Xdr.Injective

/-!
# Theorems about the authorization payload

Signer keys are compared and read back faithfully, so reading a written payload
gives its rule ids and its signers in host order, and what is written depends
only on the rule ids and on which bytes each signer has.
-/

namespace SmartAccountKit
open Lib

/-! ## Signer keys -/

theorem signerToScVal_delegated_eq_ok {address : String} {key : ScVal} :
    signerToScVal (.delegated address) = .ok key ↔
      ∃ a, a.toStrkey = some address ∧
        .vec (some [scvSymbol "Delegated", .address a]) = key := by
  simp only [signerToScVal, except_bind_eq_ok, toScAddress_eq_ok, except_pure_eq_ok]

theorem signerToScVal_external_eq_ok {verifier : String} {keyData : Bytes} {key : ScVal} :
    signerToScVal (.external verifier keyData) = .ok key ↔
      ∃ a, a.toStrkey = some verifier ∧
        .vec (some [scvSymbol "External", .address a, .bytes keyData]) = key := by
  simp only [signerToScVal, except_bind_eq_ok, toScAddress_eq_ok, except_pure_eq_ok]

/-- Reading the key written for a signer gives the signer. -/
theorem parseSignerScVal_signerToScVal {signer : Signer} {key : ScVal}
    (h : signerToScVal signer = .ok key) : parseSignerScVal key = .ok signer := by
  cases signer with
  | delegated address =>
    obtain ⟨a, ha, rfl⟩ := signerToScVal_delegated_eq_ok.mp h
    simp [parseSignerScVal, ScVal.vecItems, scvSymbol, utf8Decode_utf8Encode, parseSignerVariant,
      scAddressToString, ha]
  | external verifier keyData =>
    obtain ⟨a, ha, rfl⟩ := signerToScVal_external_eq_ok.mp h
    simp [parseSignerScVal, ScVal.vecItems, scvSymbol, utf8Decode_utf8Encode, parseSignerVariant,
      scAddressToString, ha]

/-- The host order on the symbols of the two variants. -/
theorem compareScVal_variants :
    compareScVal (scvSymbol "Delegated") (scvSymbol "External") < 0 := by
  decide

theorem compareScVal_vec (as bs : List ScVal) :
    compareScVal (.vec (some as)) (.vec (some bs)) = lexCompare compareScVal as bs := by
  rw [compareScVal_eq, rankCompare, if_neg (by simp [ScVal.discriminant])]
  rfl

theorem compareScVal_address (a b : ScAddress) :
    compareScVal (.address a) (.address b) = bufferCompare a.toXDR b.toXDR := by
  rw [compareScVal_eq, rankCompare, if_neg (by simp [ScVal.discriminant])]
  rfl

theorem compareScVal_bytes (as bs : Bytes) :
    compareScVal (.bytes as) (.bytes bs) = bufferCompare as bs := by
  rw [compareScVal_eq, rankCompare, if_neg (by simp [ScVal.discriminant])]
  rfl

/-- Addresses that tie in the host order are one address. -/
theorem eq_of_compareScVal_address {a b : ScAddress} {text text' : String}
    (ha : a.toStrkey = some text) (hb : b.toStrkey = some text')
    (h : compareScVal (.address a) (.address b) = 0) : text = text' := by
  rw [compareScVal_address, bufferCompare_eq_zero] at h
  rw [ScAddress.toXDR_inj h, hb] at ha
  exact (Option.some.inj ha).symm

/-- Keys that tie in the host order are the keys of one signer. -/
theorem eq_of_compareScVal_eq_zero {a b : Signer} {ka kb : ScVal}
    (ha : signerToScVal a = .ok ka) (hb : signerToScVal b = .ok kb)
    (h : compareScVal ka kb = 0) : a = b := by
  have hvariants := compareScVal_variants
  have hvariants' := ((compareScVal_lawfulAt (scvSymbol "External")).neg_iff _).mp hvariants
  cases a with
  | delegated address =>
    obtain ⟨x, hx, rfl⟩ := signerToScVal_delegated_eq_ok.mp ha
    cases b with
    | delegated address' =>
      obtain ⟨y, hy, rfl⟩ := signerToScVal_delegated_eq_ok.mp hb
      simp only [compareScVal_vec, lexCompare_eq_zero, List.forall₂_cons] at h
      rw [eq_of_compareScVal_address hx hy h.2.1]
    | external verifier keyData =>
      obtain ⟨y, hy, rfl⟩ := signerToScVal_external_eq_ok.mp hb
      rw [compareScVal_vec, lexCompare_cons, thenCompare_eq_zero] at h
      omega
  | external verifier keyData =>
    obtain ⟨x, hx, rfl⟩ := signerToScVal_external_eq_ok.mp ha
    cases b with
    | delegated address' =>
      obtain ⟨y, hy, rfl⟩ := signerToScVal_delegated_eq_ok.mp hb
      rw [compareScVal_vec, lexCompare_cons, thenCompare_eq_zero] at h
      omega
    | external verifier' keyData' =>
      obtain ⟨y, hy, rfl⟩ := signerToScVal_external_eq_ok.mp hb
      simp only [compareScVal_vec, lexCompare_eq_zero, List.forall₂_cons, compareScVal_bytes,
        bufferCompare_eq_zero] at h
      rw [eq_of_compareScVal_address hx hy h.2.1, h.2.2.1]

/-! ## Entries of the signers map -/

theorem writeSignerEntry_eq_ok {p : PayloadSigner} {e : ScVal × ScVal} :
    writeSignerEntry p = .ok e ↔ signerToScVal p.signer = .ok e.1 ∧ e.2 = .bytes p.signature := by
  simp only [writeSignerEntry, except_bind_eq_ok, except_pure_eq_ok]
  constructor
  · rintro ⟨key, hkey, rfl⟩
    exact ⟨hkey, rfl⟩
  · rintro ⟨hkey, hval⟩
    exact ⟨e.1, hkey, by rw [← hval]⟩

/-- A payload entry as reading it back gives it: its key is a new object. -/
def PayloadSigner.fresh (p : PayloadSigner) : PayloadSigner := { p with ref := none }

/-- Reading a written payload entry gives its signer and bytes. -/
theorem readSignerEntry_writeSignerEntry {p : PayloadSigner} {e : ScVal × ScVal}
    (h : writeSignerEntry p = .ok e) : readSignerEntry e = .ok p.fresh := by
  obtain ⟨key, val⟩ := e
  obtain ⟨hkey, rfl⟩ := writeSignerEntry_eq_ok.mp h
  rw [readSignerEntry, except_bind_eq_ok]
  exact ⟨p.signer, parseSignerScVal_signerToScVal hkey, rfl⟩

/-- Two payload entries whose keys tie have one signer. -/
theorem signer_eq_of_compareKeys {p q : PayloadSigner} {ep eq : ScVal × ScVal}
    (hp : writeSignerEntry p = .ok ep) (hq : writeSignerEntry q = .ok eq)
    (h : compareKeys ep eq = 0) : p.signer = q.signer :=
  eq_of_compareScVal_eq_zero (writeSignerEntry_eq_ok.mp hp).1 (writeSignerEntry_eq_ok.mp hq).1 h

theorem compareKeys_lawfulAt (e : ScVal × ScVal) : LawfulAt compareKeys e :=
  comap_lawfulAt Prod.fst (compareScVal_lawfulAt e.1)

/-- The entries of signers that differ pairwise have keys that differ pairwise. -/
theorem compareKeys_pairwise {ps : List PayloadSigner} {es : List (ScVal × ScVal)}
    (h : List.Forall₂ (fun p e => writeSignerEntry p = .ok e) ps es)
    (hne : ps.Pairwise fun p q => p.signer ≠ q.signer) :
    es.Pairwise fun a b => compareKeys a b ≠ 0 := by
  induction h with
  | nil => exact List.Pairwise.nil
  | cons hp hps ih =>
    rw [List.pairwise_cons] at hne ⊢
    refine ⟨fun e he hzero => ?_, ih hne.2⟩
    obtain ⟨q, hq, hqe⟩ := exists_of_forall₂_right hps he
    exact hne.1 q hq (signer_eq_of_compareKeys hp hqe hzero)

/-! ## Writing and reading -/

theorem ruleIdToU32_eq_ok {id : JsNumber} {u : UInt32} :
    ruleIdToU32 id = .ok u ↔ id = JsNumber.ofU32 u := by
  rw [← JsNumber.toU32_eq_some, ruleIdToU32]
  cases id.toU32 <;> simp

theorem ruleIdsToU32_eq_ok {ids : List JsNumber} {us : List UInt32} :
    ruleIdsToU32 ids = .ok us ↔ ids = us.map JsNumber.ofU32 := by
  rw [ruleIdsToU32, mapM_eq_ok]
  simp only [ruleIdToU32_eq_ok]
  rw [← List.forall₂_map_right_iff, List.forall₂_eq_eq_eq]

/-- A payload is written as its rule ids and its sorted entries. -/
theorem writeAuthPayload_eq_ok {payload : AuthPayload} {v : ScVal} :
    writeAuthPayload payload = .ok v ↔ ∃ es us,
      List.Forall₂ (fun p e => writeSignerEntry p = .ok e) payload.signers es ∧
      payload.contextRuleIds = us.map JsNumber.ofU32 ∧
      payloadScVal us (sortBy compareKeys es) = v := by
  simp only [writeAuthPayload, except_bind_eq_ok, except_pure_eq_ok, mapM_eq_ok,
    ruleIdsToU32_eq_ok]
  constructor
  · rintro ⟨es, hes, us, hus, hv⟩
    exact ⟨es, us, hes, hus, hv⟩
  · rintro ⟨es, us, hes, hus, hv⟩
    exact ⟨es, hes, us, hus, hv⟩

/-- Reading rule ids and entries that all read back. -/
theorem readAuthPayload_payloadScVal {us : List UInt32} {es : List (ScVal × ScVal)}
    {ps : List PayloadSigner} (h : es.mapM readSignerEntry = .ok ps) :
    readAuthPayload (payloadScVal us es) =
      .ok { contextRuleIds := us.map JsNumber.ofU32, signers := ps } := by
  have hread : (us.map ScVal.u32).mapM readContextRuleId = .ok (us.map JsNumber.ofU32) := by
    rw [mapM_eq_ok, List.forall₂_map_left_iff, List.forall₂_map_right_iff, List.forall₂_same]
    exact fun u _ => rfl
  have hfirst : readPayloadField emptyAuthPayload
      (scvSymbol "context_rule_ids", ruleIdsScVal us) =
        .ok { contextRuleIds := us.map JsNumber.ofU32, signers := [] } := by
    simp only [readPayloadField, scvSymbol, utf8Decode_utf8Encode, ruleIdsScVal, if_true,
      ScVal.vecItems, hread]
    rfl
  have hsecond : readPayloadField { contextRuleIds := us.map JsNumber.ofU32, signers := [] }
      (scvSymbol "signers", .map (some es)) =
        .ok { contextRuleIds := us.map JsNumber.ofU32, signers := ps } := by
    simp only [readPayloadField, scvSymbol, utf8Decode_utf8Encode, ScVal.mapEntries, h]
    rfl
  rw [payloadScVal, readAuthPayload, ScVal.mapEntries, List.foldlM_cons, hfirst]
  show (List.foldlM readPayloadField _ _ : Except JsError AuthPayload) = _
  rw [List.foldlM_cons, hsecond]
  rfl

/-- Reading a written payload gives its rule ids and its signers, in host order. -/
theorem readAuthPayload_writeAuthPayload {payload : AuthPayload} {v : ScVal}
    (h : writeAuthPayload payload = .ok v) : ∃ ps, payload.signers.Perm ps ∧
      readAuthPayload v =
        .ok { contextRuleIds := payload.contextRuleIds, signers := ps.map PayloadSigner.fresh } := by
  obtain ⟨es, us, hes, hus, rfl⟩ := writeAuthPayload_eq_ok.mp h
  obtain ⟨ps, hperm, hps⟩ := forall₂_perm_right hes (@sortBy_perm _ compareKeys es).symm
  refine ⟨ps, hperm, ?_⟩
  rw [hus]
  apply readAuthPayload_payloadScVal
  rw [mapM_eq_ok]
  refine forall₂_roundtrip (S := fun e p => readSignerEntry e = .ok p) ?_ hps
  exact fun p e hp => readSignerEntry_writeSignerEntry hp

theorem readSignerEntry_ref {e : ScVal × ScVal} {p : PayloadSigner}
    (h : readSignerEntry e = .ok p) : p.ref = none := by
  obtain ⟨signer, -, hvalue⟩ := except_bind_eq_ok.mp h
  split at hvalue
  · rw [← except_pure_eq_ok.mp hvalue]
  · exact nomatch hvalue

/-- Reading a payload creates new signer objects only. -/
theorem readAuthPayload_ref {v : ScVal} {payload : AuthPayload}
    (h : readAuthPayload v = .ok payload) : ∀ p ∈ payload.signers, p.ref = none := by
  have hstep : ∀ payload e payload', readPayloadField payload e = .ok payload' →
      (∀ p ∈ payload.signers, p.ref = none) → ∀ p ∈ payload'.signers, p.ref = none := by
    intro payload e payload' hfield hp
    unfold readPayloadField at hfield
    split at hfield
    · split_ifs at hfield
      · split at hfield
        · obtain ⟨ids, -, hids⟩ := except_bind_eq_ok.mp hfield
          rw [← except_pure_eq_ok.mp hids]
          exact hp
        · exact nomatch hfield
      · split at hfield
        · obtain ⟨ps, hps, hsigners⟩ := except_bind_eq_ok.mp hfield
          rw [← except_pure_eq_ok.mp hsigners]
          intro p hmem
          rcases List.mem_append.mp hmem with hmem | hmem
          · exact hp p hmem
          · obtain ⟨e', -, he'⟩ := exists_of_forall₂_right (mapM_eq_ok.mp hps) hmem
            exact readSignerEntry_ref he'
        · exact nomatch hfield
      · rw [← Except.ok.inj hfield]
        exact hp
    · rw [← Except.ok.inj hfield]
      exact hp
  unfold readAuthPayload at h
  split at h
  · rw [← Except.ok.inj h]
    exact fun p hp => nomatch hp
  · exact foldlM_invariant (P := fun payload => ∀ p ∈ payload.signers, p.ref = none) hstep h
      fun p hp => nomatch hp
  · exact nomatch h

/-- The signers of a payload differ pairwise. -/
def DistinctSigners (ps : List PayloadSigner) : Prop :=
  ps.Pairwise fun p q => p.signer ≠ q.signer

theorem distinctSigners_iff_nodup {ps : List PayloadSigner} :
    DistinctSigners ps ↔ (ps.map PayloadSigner.signer).Nodup :=
  List.pairwise_map.symm

/-- Payloads with the same bytes for each signer have the same signers. -/
theorem DistinctSigners.perm {ps qs : List PayloadSigner} (h : DistinctSigners ps)
    (hperm : (ps.map PayloadSigner.fresh).Perm (qs.map PayloadSigner.fresh)) :
    DistinctSigners qs := by
  rw [distinctSigners_iff_nodup] at h ⊢
  have hsigners := hperm.map PayloadSigner.signer
  rw [List.map_map, List.map_map] at hsigners
  exact hsigners.nodup_iff.mp h

/-- What is written depends only on the rule ids and on the bytes of each signer. -/
theorem writeAuthPayload_congr {ids : List JsNumber} {ps qs : List PayloadSigner} {v : ScVal}
    (hdistinct : DistinctSigners ps)
    (hperm : (ps.map PayloadSigner.fresh).Perm (qs.map PayloadSigner.fresh))
    (h : writeAuthPayload ⟨ids, ps⟩ = .ok v) : writeAuthPayload ⟨ids, qs⟩ = .ok v := by
  obtain ⟨es, us, hes, hus, rfl⟩ := writeAuthPayload_eq_ok.mp h
  have hfresh : List.Forall₂ (fun p e => writeSignerEntry p = .ok e)
      (ps.map PayloadSigner.fresh) es := List.forall₂_map_left_iff.mpr hes
  obtain ⟨es', hes_perm, hes'⟩ := forall₂_perm_left hfresh hperm
  refine writeAuthPayload_eq_ok.mpr ⟨es', us, List.forall₂_map_left_iff.mp hes', hus, ?_⟩
  rw [sortBy_eq_of_perm compareKeys_lawfulAt hes_perm (compareKeys_pairwise hes hdistinct)]

/-- A payload with fewer signers can be written if the payload can. -/
theorem writeAuthPayload_append {ids : List JsNumber} {ps qs : List PayloadSigner} {v : ScVal}
    (h : writeAuthPayload ⟨ids, ps ++ qs⟩ = .ok v) : ∃ v', writeAuthPayload ⟨ids, ps⟩ = .ok v' := by
  obtain ⟨es, us, hes, hus, -⟩ := writeAuthPayload_eq_ok.mp h
  obtain ⟨es₁, es₂, hes₁, -, -⟩ := forall₂_append_left_iff.mp hes
  exact ⟨_, writeAuthPayload_eq_ok.mpr ⟨es₁, us, hes₁, hus, rfl⟩⟩

/-- Objects created by reading are as new. -/
theorem map_fresh_of_ref {ps : List PayloadSigner} (h : ∀ p ∈ ps, p.ref = none) :
    ps.map PayloadSigner.fresh = ps := by
  conv_rhs => rw [← List.map_id ps]
  refine List.map_congr_left fun p hp => ?_
  have href := h p hp
  cases p
  simp_all [PayloadSigner.fresh]

/-- The payload that the address credentials `c` of an entry hold. -/
def PayloadOf (entry : SorobanAuthorizationEntry) (c : SorobanAddressCredentials)
    (payload : AuthPayload) : Prop :=
  entry.addressCredentials? = some c ∧ readAuthPayload c.signature = .ok payload

/-! ## Updating -/

/-- The entries of one signer. -/
def entriesOf (signer : Signer) (ps : List PayloadSigner) : List PayloadSigner :=
  ps.filter fun p => p.signer = signer

theorem entriesOf_append (signer : Signer) (ps qs : List PayloadSigner) :
    entriesOf signer (ps ++ qs) = entriesOf signer ps ++ entriesOf signer qs :=
  List.filter_append ..

theorem entriesOf_cons (signer : Signer) (p : PayloadSigner) (ps : List PayloadSigner) :
    entriesOf signer (p :: ps) =
      (if p.signer = signer then [p] else []) ++ entriesOf signer ps := by
  by_cases h : p.signer = signer <;> simp [entriesOf, h]

theorem entriesOf_map_fresh (signer : Signer) (ps : List PayloadSigner) :
    entriesOf signer (ps.map PayloadSigner.fresh) =
      (entriesOf signer ps).map PayloadSigner.fresh := by
  rw [entriesOf, entriesOf, List.filter_map]
  rfl

theorem sameObject_signer {p q : PayloadSigner} (h : p.sameObject q = true) :
    p.signer = q.signer := by
  simp only [PayloadSigner.sameObject, Bool.and_eq_true, signersEqual_iff] at h
  exact h.2

/-- Replacing the entries of one object keeps the signer of every entry. -/
theorem replace_signer (p q : PayloadSigner) :
    (if p.sameObject q then p else q).signer = q.signer := by
  split_ifs with h
  · exact sameObject_signer h
  · rfl

/-- Setting an entry changes only the entries of its signer. -/
theorem entriesOf_setPayloadSigner_ne {signer : Signer} {ps : List PayloadSigner}
    {p : PayloadSigner} (hne : p.signer ≠ signer) :
    entriesOf signer (setPayloadSigner ps p) = entriesOf signer ps := by
  unfold setPayloadSigner
  split_ifs with hany
  · clear hany
    induction ps with
    | nil => rfl
    | cons q ps ih =>
      rw [List.map_cons, entriesOf_cons, entriesOf_cons, ih, replace_signer]
      by_cases hq : p.sameObject q = true
      · have hqs : q.signer ≠ signer := sameObject_signer hq ▸ hne
        rw [if_neg hqs, if_neg hqs]
      · rw [if_neg hq]
  · rw [entriesOf_append]
    simp [entriesOf, hne]

/-- Setting an entry sets it among the entries of its signer. -/
theorem entriesOf_setPayloadSigner_self {ps : List PayloadSigner} {p : PayloadSigner} :
    entriesOf p.signer (setPayloadSigner ps p) = setPayloadSigner (entriesOf p.signer ps) p := by
  have hany : (entriesOf p.signer ps).any p.sameObject = ps.any p.sameObject := by
    rw [Bool.eq_iff_iff, List.any_eq_true, List.any_eq_true]
    constructor
    · rintro ⟨q, hq, hsame⟩
      exact ⟨q, List.mem_of_mem_filter hq, hsame⟩
    · rintro ⟨q, hq, hsame⟩
      exact ⟨q, List.mem_filter.mpr ⟨hq, by simpa using (sameObject_signer hsame).symm⟩, hsame⟩
  unfold setPayloadSigner
  rw [hany]
  split_ifs
  · rw [entriesOf, entriesOf, List.filter_map]
    refine congrArg _ (List.filter_congr fun q _ => ?_)
    simp only [Function.comp_apply, replace_signer]
  · rw [entriesOf_append]
    simp [entriesOf]

/-- Erasing the first entry of a signer erases it among the entries of that signer. -/
theorem entriesOf_erase {signer erased : Signer} (ps : List PayloadSigner) :
    entriesOf signer (ps.eraseP fun q => signersEqual q.signer erased) =
      if erased = signer then (entriesOf signer ps).tail else entriesOf signer ps := by
  induction ps with
  | nil => simp [entriesOf]
  | cons q ps ih =>
    by_cases hq : q.signer = erased
    · rw [List.eraseP_cons_of_pos (by simpa using hq)]
      split_ifs with h
      · simp [entriesOf, hq, h]
      · simp [entriesOf, hq, h]
    · rw [List.eraseP_cons_of_neg (by simpa using hq), entriesOf_cons, entriesOf_cons, ih]
      by_cases h : erased = signer
      · rw [if_pos h, if_pos h, if_neg (h ▸ hq), List.nil_append, List.nil_append]
      · rw [if_neg h, if_neg h]

/-- An update keeps the entries of every other signer. -/
theorem entriesOf_upsert_ne {payload : AuthPayload} {ref : Option ℕ} {signer other : Signer}
    {signature : Bytes} (hne : signer ≠ other) :
    entriesOf other (upsertAuthPayloadSigner payload ref signer signature).signers =
      entriesOf other payload.signers := by
  rw [upsertAuthPayloadSigner, entriesOf_setPayloadSigner_ne hne, entriesOf_erase, if_neg hne]

/-- An update drops the first entry of its signer and sets the new one. -/
theorem entriesOf_upsert_self {payload : AuthPayload} {ref : Option ℕ} {signer : Signer}
    {signature : Bytes} :
    entriesOf signer (upsertAuthPayloadSigner payload ref signer signature).signers =
      setPayloadSigner (entriesOf signer payload.signers).tail ⟨ref, signer, signature⟩ := by
  rw [upsertAuthPayloadSigner]
  have h := @entriesOf_setPayloadSigner_self
    (payload.signers.eraseP fun q => signersEqual q.signer signer) ⟨ref, signer, signature⟩
  rw [entriesOf_erase, if_pos rfl] at h
  exact h

/-- Where a signer has at most one entry, an update removes it and adds the new one at the end. -/
theorem upsertAuthPayloadSigner_signers {payload : AuthPayload} {ref : Option ℕ}
    {signer : Signer} {signature : Bytes}
    (honce : (payload.signers.filter fun q => q.signer = signer).length ≤ 1) :
    (upsertAuthPayloadSigner payload ref signer signature).signers =
      payload.signers.filter (fun q => q.signer ≠ signer) ++ [⟨ref, signer, signature⟩] := by
  have herase : payload.signers.eraseP (fun q => signersEqual q.signer signer) =
      payload.signers.filter fun q => q.signer ≠ signer := by
    simp only [signersEqual_eq_decide]
    rw [eraseP_eq_filter honce]
    exact List.filter_congr fun q _ => by simp
  have hnew : ¬(payload.signers.filter fun q => q.signer ≠ signer).any
      (PayloadSigner.sameObject ⟨ref, signer, signature⟩) := by
    intro hany
    obtain ⟨q, hq, hsame⟩ := List.any_eq_true.mp hany
    simp only [PayloadSigner.sameObject, Bool.and_eq_true, signersEqual_iff] at hsame
    exact absurd hsame.2.symm (by simpa using (List.mem_filter.mp hq).2)
  rw [upsertAuthPayloadSigner, herase, setPayloadSigner, if_neg hnew]

/-! ## Sample values -/

/-- The sample credentials with one signature and given rule ids in the payload. -/
def sampleSignedCredentials (ids : List UInt32) : SorobanAddressCredentials :=
  { sampleCredentials with
    signature := payloadScVal ids
      [(.vec (some [scvSymbol "External", .address (sampleContract 11),
        .bytes (List.replicate 32 1)]), .bytes [1])] }

/-- The sample entry with those credentials. -/
def sampleSignedEntry (ids : List UInt32) : SorobanAuthorizationEntry :=
  { sampleEntry with credentials := .address (sampleSignedCredentials ids) }

theorem sampleSignedEntry_payload (ids : List UInt32) :
    PayloadOf (sampleSignedEntry ids) (sampleSignedCredentials ids)
      ⟨ids.map JsNumber.ofU32, [⟨none, sampleSigner 1, [1]⟩]⟩ :=
  ⟨rfl, readAuthPayload_payloadScVal (by rfl)⟩

end SmartAccountKit
