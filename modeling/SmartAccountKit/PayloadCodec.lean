import SmartAccountKit.HostOrder

/-!
# The authorization payload as a map

A payload stands for a map from signers to signature bytes. Reading what was
written gives the same map, and a sequence of updates, with writing and reading
in between, keeps one entry for each signer that was updated.
-/

namespace SmartAccountKit
open Lib

/-! ## Well-formed payloads -/

/-- The address text of a signer is the strkey of an address. -/
def Signer.WellFormed : Signer → Prop
  | .delegated address => ∃ a, addressFromString address = some a
  | .external verifier _ => ∃ a, addressFromString verifier = some a

/-- A signer has a key exactly when it is well formed. -/
theorem Signer.wellFormed_iff {signer : Signer} :
    signer.WellFormed ↔ ∃ key, signerToScVal signer = .ok key := by
  cases signer with
  | delegated address =>
    constructor
    · rintro ⟨a, ha⟩
      exact ⟨_, signerToScVal_delegated_eq_ok.mpr ⟨a, addressFromString_eq_some.mp ha, rfl⟩⟩
    · rintro ⟨key, hkey⟩
      obtain ⟨a, ha, -⟩ := signerToScVal_delegated_eq_ok.mp hkey
      exact ⟨a, addressFromString_eq_some.mpr ha⟩
  | external verifier keyData =>
    constructor
    · rintro ⟨a, ha⟩
      exact ⟨_, signerToScVal_external_eq_ok.mpr ⟨a, addressFromString_eq_some.mp ha, rfl⟩⟩
    · rintro ⟨key, hkey⟩
      obtain ⟨a, ha, -⟩ := signerToScVal_external_eq_ok.mp hkey
      exact ⟨a, addressFromString_eq_some.mpr ha⟩

/-- A payload whose signers have keys and whose rule ids are 32-bit unsigned integers. -/
structure AuthPayload.WellFormed (payload : AuthPayload) : Prop where
  signers : ∀ p ∈ payload.signers, p.signer.WellFormed
  ids : ∃ us : List UInt32, payload.contextRuleIds = us.map JsNumber.ofU32

/-- The signature bytes that a payload holds for a signer, one for each of its entries. -/
def AuthPayload.signaturesOf (payload : AuthPayload) (signer : Signer) : List Bytes :=
  (entriesOf signer payload.signers).map PayloadSigner.signature

/-- A well-formed payload can be written. -/
theorem AuthPayload.WellFormed.write {payload : AuthPayload} (h : payload.WellFormed) :
    ∃ es us, List.Forall₂ (fun p e => writeSignerEntry p = .ok e) payload.signers es ∧
      writeAuthPayload payload = .ok (payloadScVal us (sortBy compareKeys es)) := by
  obtain ⟨us, hus⟩ := h.ids
  have hentries : ∀ p ∈ payload.signers, ∃ e, writeSignerEntry p = .ok e := by
    intro p hp
    obtain ⟨key, hkey⟩ := Signer.wellFormed_iff.mp (h.signers p hp)
    exact ⟨(key, .bytes p.signature), writeSignerEntry_eq_ok.mpr ⟨hkey, rfl⟩⟩
  obtain ⟨es, hes⟩ := exists_forall₂ hentries
  exact ⟨es, us, hes, writeAuthPayload_eq_ok.mpr ⟨es, us, hes, hus, rfl⟩⟩

/-- Reading a written payload gives its rule ids and the signatures of each signer. -/
theorem readAuthPayload_of_write {payload : AuthPayload} {v : ScVal}
    (h : writeAuthPayload payload = .ok v) :
    ∃ q, readAuthPayload v = .ok q ∧ q.contextRuleIds = payload.contextRuleIds ∧
      q.signers.Perm (payload.signers.map PayloadSigner.fresh) := by
  obtain ⟨ps, hperm, hread⟩ := readAuthPayload_writeAuthPayload h
  exact ⟨_, hread, rfl, (hperm.map PayloadSigner.fresh).symm⟩

/-- Payloads with the same entries, objects aside, hold the same signatures. -/
theorem signaturesOf_perm {payload q : AuthPayload}
    (hperm : q.signers.Perm (payload.signers.map PayloadSigner.fresh)) (signer : Signer) :
    (q.signaturesOf signer).Perm (payload.signaturesOf signer) := by
  have hentries : (entriesOf signer q.signers).Perm
      ((entriesOf signer payload.signers).map PayloadSigner.fresh) := by
    rw [← entriesOf_map_fresh]
    exact hperm.filter _
  have hmap := hentries.map PayloadSigner.signature
  rw [List.map_map] at hmap
  exact hmap

/-- Where signers are distinct, a signer has at most one signature. -/
theorem DistinctSigners.signaturesOf_length {payload : AuthPayload}
    (h : DistinctSigners payload.signers) (signer : Signer) :
    (payload.signaturesOf signer).length ≤ 1 := by
  rw [AuthPayload.signaturesOf, List.length_map, entriesOf]
  generalize payload.signers = ps at h
  induction ps with
  | nil => simp
  | cons p ps ih =>
    rw [DistinctSigners, List.pairwise_cons] at h
    by_cases hp : p.signer = signer
    · have hrest : ps.filter (fun q => q.signer = signer) = [] := by
        rw [List.filter_eq_nil_iff]
        intro q hq hqs
        exact h.1 q hq (hp.trans (of_decide_eq_true hqs).symm)
      rw [List.filter_cons_of_pos (by simpa using hp), hrest]
      simp
    · rw [List.filter_cons_of_neg (by simpa using hp)]
      exact ih h.2

/-- The entries of signers that differ pairwise are written in strictly increasing host order. -/
theorem sortBy_compareKeys_strict {ps : List PayloadSigner} {es : List (ScVal × ScVal)}
    (h : List.Forall₂ (fun p e => writeSignerEntry p = .ok e) ps es)
    (hdistinct : DistinctSigners ps) :
    (sortBy compareKeys es).Pairwise fun a b => hostOrder a.1 b.1 = .lt := by
  have hkey : ∀ e ∈ sortBy compareKeys es, HostKey e.1 := by
    intro e he
    obtain ⟨p, -, hp⟩ := exists_of_forall₂_right h (mem_sortBy.mp he)
    exact hostKey_of_signerToScVal (writeSignerEntry_eq_ok.mp hp).1
  have hstrict := sortBy_strict compareKeys_lawfulAt (compareKeys_pairwise h hdistinct)
  refine hstrict.imp_of_mem fun {a b} ha hb hlt => ?_
  rw [← toOrdering_compareScVal (hkey a ha) (hkey b hb), toOrdering_eq_lt]
  exact hlt

/-! ## Sequences of updates -/

/-- A step of a caller that builds up a payload. -/
inductive PayloadStep where
  | upsert (ref : Option ℕ) (signer : Signer) (signatureBytes : Bytes)
  | writeAndRead

def applyPayloadStep (payload : AuthPayload) : PayloadStep → Except JsError AuthPayload
  | .upsert ref signer signatureBytes =>
    .ok (upsertAuthPayloadSigner payload ref signer signatureBytes)
  | .writeAndRead => do readAuthPayload (← writeAuthPayload payload)

/-- Read a signature value and take the steps in order. -/
def runPayloadSteps (signature : ScVal) (steps : List PayloadStep) : Except JsError AuthPayload := do
  steps.foldlM applyPayloadStep (← readAuthPayload signature)

/-- The signer of an update is well formed. -/
def PayloadStep.WellFormed : PayloadStep → Prop
  | .upsert _ signer _ => signer.WellFormed
  | .writeAndRead => True

/-- The last bytes of each signer after a step, given those before it. -/
def PayloadStep.record (last : Signer → Option Bytes) : PayloadStep → Signer → Option Bytes
  | .upsert _ signer signatureBytes => Function.update last signer (some signatureBytes)
  | .writeAndRead => last

/-- The last bytes that a sequence of steps gives each signer. -/
def lastBytes (steps : List PayloadStep) : Signer → Option Bytes :=
  steps.foldl PayloadStep.record fun _ => none

/-- A payload that stands for a map: one entry for each signer with bytes, none for the others. -/
structure AuthPayload.Represents (payload : AuthPayload) (last : Signer → Option Bytes) : Prop where
  wellFormed : payload.WellFormed
  signatures : ∀ signer, payload.signaturesOf signer = (last signer).toList

/-- An update replaces the entry of its signer. -/
theorem AuthPayload.Represents.upsert {payload : AuthPayload} {last : Signer → Option Bytes}
    (h : payload.Represents last) {signer : Signer} (hsigner : signer.WellFormed)
    (ref : Option ℕ) (signatureBytes : Bytes) :
    (upsertAuthPayloadSigner payload ref signer signatureBytes).Represents
      (Function.update last signer (some signatureBytes)) := by
  have honce : (entriesOf signer payload.signers).length ≤ 1 := by
    have hlength := congrArg List.length (h.signatures signer)
    rw [AuthPayload.signaturesOf, List.length_map] at hlength
    rw [hlength]
    cases last signer <;> simp
  have hsigners : (upsertAuthPayloadSigner payload ref signer signatureBytes).signers = _ :=
    upsertAuthPayloadSigner_signers honce
  refine ⟨⟨?_, h.wellFormed.ids⟩, ?_⟩
  · intro p hp
    rw [hsigners] at hp
    rcases List.mem_append.mp hp with hp | hp
    · exact h.wellFormed.signers p (List.mem_of_mem_filter hp)
    · rw [List.mem_singleton.mp hp]
      exact hsigner
  · intro other
    by_cases hother : signer = other
    · subst hother
      have htail : (entriesOf signer payload.signers).tail = [] :=
        List.length_eq_zero_iff.mp (by rw [List.length_tail]; omega)
      rw [AuthPayload.signaturesOf, entriesOf_upsert_self, htail, Function.update_self]
      rfl
    · rw [AuthPayload.signaturesOf, entriesOf_upsert_ne hother,
        Function.update_of_ne (Ne.symm hother)]
      exact h.signatures other

/-- Writing a payload and reading it back keeps the map. -/
theorem AuthPayload.Represents.writeAndRead {payload : AuthPayload} {last : Signer → Option Bytes}
    (h : payload.Represents last) :
    ∃ q, applyPayloadStep payload .writeAndRead = .ok q ∧ q.Represents last := by
  obtain ⟨es, us, -, hwrite⟩ := h.wellFormed.write
  obtain ⟨q, hread, hids, hperm⟩ := readAuthPayload_of_write hwrite
  refine ⟨q, ?_, ⟨?_, ?_⟩, ?_⟩
  · rw [applyPayloadStep, hwrite]
    exact hread
  · intro p hp
    obtain ⟨p', hp', rfl⟩ := List.mem_map.mp (hperm.mem_iff.mp hp)
    exact h.wellFormed.signers p' hp'
  · rw [hids]
    exact h.wellFormed.ids
  · intro signer
    have hperm' := signaturesOf_perm hperm signer
    rw [h.signatures signer] at hperm'
    apply eq_of_perm_of_length_le_one hperm'
    cases last signer <;> simp

/-- One step of a caller is one step on the map. -/
theorem AuthPayload.Represents.step {payload : AuthPayload} {last : Signer → Option Bytes}
    (h : payload.Represents last) {step : PayloadStep} (hstep : step.WellFormed) :
    ∃ q, applyPayloadStep payload step = .ok q ∧ q.Represents (step.record last) := by
  cases step with
  | upsert ref signer signatureBytes => exact ⟨_, rfl, h.upsert hstep ref signatureBytes⟩
  | writeAndRead => exact h.writeAndRead

/-- A sequence of steps on a payload is the sequence of steps on the map. -/
theorem AuthPayload.Represents.run {payload : AuthPayload} {last : Signer → Option Bytes}
    (h : payload.Represents last) {steps : List PayloadStep} (hsteps : ∀ s ∈ steps, s.WellFormed) :
    ∃ q, steps.foldlM applyPayloadStep payload = .ok q ∧
      q.Represents (steps.foldl PayloadStep.record last) := by
  induction steps generalizing payload last with
  | nil => exact ⟨payload, rfl, h⟩
  | cons step steps ih =>
    obtain ⟨q, hq, hrep⟩ := h.step (hsteps step (by simp))
    obtain ⟨r, hr, hrep'⟩ := ih hrep fun s hs => hsteps s (by simp [hs])
    refine ⟨r, ?_, hrep'⟩
    rw [List.foldlM_cons, hq]
    exact hr

theorem emptyAuthPayload_represents : emptyAuthPayload.Represents fun _ => none where
  wellFormed := ⟨fun _ hp => absurd hp List.not_mem_nil, [], rfl⟩
  signatures _ := rfl

/-- The codec of authorization payloads: what is written is in strict host order and is read back
as the same rule ids and signatures, the key of a signer is read back as the signer, and from no
signature a sequence of updates, written and read in between, leaves one entry for each updated
signer, with its last bytes. -/
theorem authPayload_codec (payload : AuthPayload) (signer : Signer) (steps : List PayloadStep)
    (hpayload : payload.WellFormed) (hdistinct : DistinctSigners payload.signers)
    (hsigner : signer.WellFormed) (hsteps : ∀ step ∈ steps, step.WellFormed) :
    (∃ us es q, writeAuthPayload payload = .ok (payloadScVal us es) ∧
      es.Pairwise (fun a b => hostOrder a.1 b.1 = .lt) ∧
      readAuthPayload (payloadScVal us es) = .ok q ∧
      q.contextRuleIds = payload.contextRuleIds ∧
      ∀ s, q.signaturesOf s = payload.signaturesOf s) ∧
    (∃ key parsed, signerToScVal signer = .ok key ∧ parseSignerScVal key = .ok parsed ∧
      signersEqual parsed signer = true) ∧
    ∃ q, runPayloadSteps .void steps = .ok q ∧
      ∀ s, q.signaturesOf s = (lastBytes steps s).toList := by
  refine ⟨?_, ?_, ?_⟩
  · obtain ⟨es, us, hes, hwrite⟩ := hpayload.write
    obtain ⟨q, hread, hids, hperm⟩ := readAuthPayload_of_write hwrite
    refine ⟨us, _, q, hwrite, sortBy_compareKeys_strict hes hdistinct, hread, hids, fun s => ?_⟩
    have hperm' := signaturesOf_perm hperm s
    have honce := hdistinct.signaturesOf_length s
    exact eq_of_perm_of_length_le_one hperm' honce
  · obtain ⟨key, hkey⟩ := Signer.wellFormed_iff.mp hsigner
    exact ⟨key, signer, hkey, parseSignerScVal_signerToScVal hkey, signersEqual_iff.mpr rfl⟩
  · obtain ⟨q, hq, hrep⟩ := emptyAuthPayload_represents.run hsteps
    exact ⟨q, hq, hrep.signatures⟩

theorem sampleSigner_wellFormed (n : UInt8) : (sampleSigner n).WellFormed :=
  Signer.wellFormed_iff.mpr ⟨_, sampleSigner_key n⟩

theorem authPayload_codec_sample :
    ∃ q, runPayloadSteps .void [.upsert (some 0) (sampleSigner 1) [1], .writeAndRead,
        .upsert (some 1) (sampleSigner 1) [2]] = .ok q ∧
      q.signaturesOf (sampleSigner 1) = [[2]] := by
  have hpayload : AuthPayload.WellFormed ⟨[], [⟨none, sampleSigner 1, [1]⟩]⟩ := by
    refine ⟨fun p hp => ?_, [], rfl⟩
    rw [List.mem_singleton.mp hp]
    exact sampleSigner_wellFormed 1
  have hsteps : ∀ step ∈ [PayloadStep.upsert (some 0) (sampleSigner 1) [1], .writeAndRead,
      .upsert (some 1) (sampleSigner 1) [2]], step.WellFormed := by
    intro step hstep
    simp only [List.mem_cons, List.not_mem_nil, or_false] at hstep
    rcases hstep with rfl | rfl | rfl
    · exact sampleSigner_wellFormed 1
    · trivial
    · exact sampleSigner_wellFormed 1
  obtain ⟨q, hq, hsignatures⟩ := (authPayload_codec _ (sampleSigner 1) _ hpayload
    (List.pairwise_singleton ..) (sampleSigner_wellFormed 1) hsteps).2.2
  refine ⟨q, hq, ?_⟩
  rw [hsignatures, lastBytes]
  simp [PayloadStep.record]

end SmartAccountKit
