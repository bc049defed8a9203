import SmartAccountKit.CredentialQueries
import SmartAccountKit.RuleAgreement
import SmartAccountKit.PasskeyTheorems

/-!
# The signer of a credential

`findWebAuthnSignerInRules` looks for the first signer whose key data ends with
a credential id, and `findWebAuthnSignerForCredential` for the one signer whose
key data is a public key followed by the credential id. The first may stop at
another signer.
-/

namespace SmartAccountKit
open Lib

/-! ## The first element that passes a test -/

/-- The first element that passes a test also passes a stronger one exactly if each element that
passes only the weak one comes after one that passes both. -/
theorem find?_satisfies_iff {α : Type} {p : α → Bool} {q : α → Prop} {xs : List α}
    (hp : ∀ x, q x → p x = true) :
    (∀ x, xs.find? p = some x → q x) ↔
      ∀ before x after, xs = before ++ x :: after → p x = true → ¬q x → ∃ y ∈ before, q y := by
  constructor
  · intro h before x after hxs hx hq
    have hsome : (xs.find? p).isSome = true := by
      rw [List.find?_isSome]
      exact ⟨x, by rw [hxs]; exact List.mem_append_right _ List.mem_cons_self, hx⟩
    obtain ⟨first, hfirst⟩ := Option.isSome_iff_exists.mp hsome
    have hgood := h first hfirst
    rw [hxs, List.find?_append, List.find?_cons_of_pos hx] at hfirst
    cases hbefore : before.find? p with
    | some y =>
      rw [hbefore] at hfirst
      obtain rfl := Option.some.inj hfirst
      exact ⟨y, List.mem_of_find?_eq_some hbefore, hgood⟩
    | none =>
      rw [hbefore] at hfirst
      obtain rfl := Option.some.inj hfirst
      exact absurd hgood hq
  · intro h x hx
    obtain ⟨hpx, before, after, hxs, hbefore⟩ := List.find?_eq_some_iff_append.mp hx
    by_contra hq
    obtain ⟨y, hy, hqy⟩ := h before x after hxs hpx hq
    have hnot := hbefore y hy
    rw [hp y hqy] at hnot
    exact absurd hnot Bool.false_ne_true

/-! ## Signers -/

/-- A passkey signer of a credential: its key data is a public key and the credential id. -/
def IsPasskeyOf (credentialId : Bytes) (signer : Signer) : Prop :=
  ∃ verifier publicKey, publicKey.length = SECP256R1_PUBLIC_KEY_SIZE ∧
    signer = .external verifier (publicKey ++ credentialId)

/-- An external signer whose key data ends with a credential id after some other number of bytes
than a public key has. -/
def EndsWithCredential (credentialId : Bytes) (signer : Signer) : Prop :=
  ∃ verifier start, start ≠ [] ∧ start.length ≠ SECP256R1_PUBLIC_KEY_SIZE ∧
    signer = .external verifier (start ++ credentialId)

theorem hasCredentialSuffix_iff {credentialId : Bytes} {signer : Signer} :
    hasCredentialSuffix credentialId signer = true ↔
      ∃ verifier start, start ≠ [] ∧ signer = .external verifier (start ++ credentialId) := by
  cases signer with
  | delegated address =>
    refine iff_of_false Bool.false_ne_true ?_
    rintro ⟨_, _, -, h⟩
    cases h
  | external verifier keyData =>
    simp only [hasCredentialSuffix, decide_eq_true_eq]
    constructor
    · rintro ⟨hlength, hsuffix⟩
      refine ⟨verifier, keyData.take (keyData.length - credentialId.length), ?_, ?_⟩
      · intro hnil
        have htake := congrArg List.length hnil
        rw [List.length_take, List.length_nil] at htake
        omega
      · have hkey := List.take_append_drop (keyData.length - credentialId.length) keyData
        rw [hsuffix] at hkey
        rw [hkey]
    · rintro ⟨verifier', start, hstart, h⟩
      injection h with _ hkey
      have hpos := List.length_pos_iff.mpr hstart
      rw [hkey, List.length_append, Nat.add_sub_cancel, List.drop_left]
      exact ⟨by omega, rfl⟩

theorem getCredentialIdFromSigner_eq_some {credentialId : Bytes} {signer : Signer}
    (hne : credentialId ≠ []) :
    getCredentialIdFromSigner signer = some (toBase64Url credentialId) ↔
      IsPasskeyOf credentialId signer := by
  have hpos := List.length_pos_iff.mpr hne
  cases signer with
  | delegated address =>
    refine iff_of_false ?_ ?_
    · intro h
      cases h
    · rintro ⟨_, _, -, h⟩
      cases h
  | external verifier keyData =>
    rw [getCredentialIdFromSigner]
    constructor
    · intro h
      split_ifs at h with hshort
      have hid := toBase64Url_inj (Option.some.inj h)
      refine ⟨verifier, keyData.take SECP256R1_PUBLIC_KEY_SIZE, ?_, ?_⟩
      · rw [List.length_take]
        omega
      · rw [← hid, List.take_append_drop]
    · rintro ⟨verifier', publicKey, hlength, h⟩
      injection h with _ hkey
      rw [hkey, if_neg (by rw [List.length_append]; omega), ← hlength, List.drop_left]

/-- A signer whose key data ends with a credential id is a passkey signer of it, or its key data has
another length. -/
theorem endsWithCredential_iff {credentialId : Bytes} {signer : Signer} :
    EndsWithCredential credentialId signer ↔
      hasCredentialSuffix credentialId signer = true ∧ ¬IsPasskeyOf credentialId signer := by
  rw [hasCredentialSuffix_iff]
  constructor
  · rintro ⟨verifier, start, hstart, hlength, rfl⟩
    refine ⟨⟨verifier, start, hstart, rfl⟩, ?_⟩
    rintro ⟨verifier', publicKey, hpublic, h⟩
    injection h with _ hkey
    rw [List.append_cancel_right hkey] at hlength
    exact hlength hpublic
  · rintro ⟨⟨verifier, start, hstart, rfl⟩, hpasskey⟩
    exact ⟨verifier, start, hstart, fun hlength => hpasskey ⟨verifier, start, hlength, rfl⟩, rfl⟩

theorem IsPasskeyOf.hasCredentialSuffix {credentialId : Bytes} {signer : Signer}
    (h : IsPasskeyOf credentialId signer) : hasCredentialSuffix credentialId signer = true := by
  obtain ⟨verifier, publicKey, hlength, hsigner⟩ := h
  refine hasCredentialSuffix_iff.mpr ⟨verifier, publicKey, ?_, hsigner⟩
  rintro rfl
  exact absurd hlength (by decide)

/-! ## Runs -/

/-- The exchanges of reading rules one after the other. -/
def ruleReads (ids : List UInt32) (rules : List ContextRule) : History Environment :=
  List.zipWith (fun id rule => ⟨.readContextRule id, .ok rule⟩) ids rules

section search

variable {body : Option Signer → JsNumber → KitProgram (Option Signer)} {p : Signer → Bool}
  {t : History Environment} {x : Except JsError (Option Signer)}

/-- A search that has found a signer reads nothing more. -/
theorem run_search_found (hfound : ∀ signer id, body (some signer) id = pure (some signer))
    {ids : List JsNumber} {signer : Signer}
    (hrun : Program.Run (Program.forEach ids (some signer) body) t x) : x = .ok (some signer) := by
  induction ids generalizing t with
  | nil => exact (Program.run_done.mp hrun).2
  | cons id ids ih =>
    rw [Program.forEach, hfound] at hrun
    exact ih hrun

/-- A search ends with the first signer of the rules it is given that passes a test. -/
theorem run_search (hfound : ∀ signer id, body (some signer) id = pure (some signer))
    (hnone : ∀ id, body none id = readContextRule id >>= fun rule => pure (rule.signers.find? p))
    {ids : List UInt32} {rules : List ContextRule} (hlength : ids.length = rules.length)
    (hreads : t <+: ruleReads ids rules)
    (hrun : Program.Run (Program.forEach (ids.map .ofU32) none body) t x) :
    x = .ok ((rules.flatMap (·.signers)).find? p) := by
  induction ids generalizing rules t with
  | nil =>
    obtain rfl := List.length_eq_zero_iff.mp hlength.symm
    exact (Program.run_done.mp hrun).2
  | cons id ids ih =>
    cases rules with
    | nil => exact absurd hlength (Nat.succ_ne_zero _)
    | cons rule rules =>
      rw [List.map_cons, Program.forEach, hnone, readContextRule_ofU32] at hrun
      obtain ⟨reply, t', rfl, hrest⟩ := Program.run_ask.mp hrun
      -- the reply is the rule that stands at this place
      obtain ⟨hreply, hreads'⟩ := List.cons_prefix_cons.mp hreads
      obtain rfl := eq_of_heq (Exchange.mk.inj hreply).2
      rw [List.flatMap_cons, List.find?_append]
      change Program.Run (Program.forEach (ids.map .ofU32) (rule.signers.find? p) body) t' x at hrest
      cases hfirst : rule.signers.find? p with
      | some signer =>
        rw [hfirst] at hrest
        exact run_search_found hfound hrest
      | none =>
        rw [hfirst] at hrest
        exact ih (Nat.succ.inj hlength) hreads' hrest

end search

/-- What a lookup in given rules ends with: the first signer whose key data ends with the id. -/
theorem run_findWebAuthnSignerInRules_of_reads {ids : List UInt32} {rules : List ContextRule}
    {credentialId : Bytes} {t : History Environment} {x : Except JsError Signer}
    (hlength : ids.length = rules.length) (hreads : t <+: ruleReads ids rules)
    (hrun : Program.Run (findWebAuthnSignerInRules (ids.map .ofU32) credentialId) t x) :
    x.toOption = (rules.flatMap (·.signers)).find? (hasCredentialSuffix credentialId) := by
  rcases Program.run_bind.mp hrun with ⟨e, hloop, rfl⟩ | ⟨found, t₁, t₂, rfl, hloop, hlast⟩
  · have hresult := run_search (fun _ _ => rfl) (fun _ => rfl) hlength hreads hloop
    cases hresult
  · have hresult := run_search (fun _ _ => rfl) (fun _ => rfl) hlength
      ((List.prefix_append t₁ t₂).trans hreads) hloop
    rw [← Except.ok.inj hresult]
    cases found with
    | some signer => rw [(Program.run_pure.mp hlast).2]; rfl
    | none => rw [(Program.run_throw.mp hlast).2]; rfl

/-! ## Agreement -/

/-- A signer that stands for a credential: its credential id is the one asked for, and it is the
signer that `findWebAuthnSignerForCredential` finds in the same rules, if that finds one. -/
def AgreesOn (rules : List ContextRule) (credentialId : Bytes) (signer : Signer) : Prop :=
  getCredentialIdFromSigner signer = some (toBase64Url credentialId) ∧
    ∀ other, findWebAuthnSignerForCredential (toBase64Url credentialId) rules = .ok other →
      other = signer

/-- Every signer whose key data ends with a credential id, but after another number of bytes than a
public key has, comes after a passkey signer of the credential. -/
def PasskeyComesFirst (rules : List ContextRule) (credentialId : Bytes) : Prop :=
  ∀ before signer after, rules.flatMap (·.signers) = before ++ signer :: after →
    EndsWithCredential credentialId signer → ∃ first ∈ before, IsPasskeyOf credentialId first

/-- The keys of two external signers are equal only if the signers are: hexadecimal text has no
colon. -/
theorem getSignerKey_external_inj {verifier verifier' : String} {keyData keyData' : Bytes}
    (h : getSignerKey (.external verifier keyData) = getSignerKey (.external verifier' keyData')) :
    verifier = verifier' ∧ keyData = keyData' := by
  have hcolon : ∀ bs : Bytes, ':' ∉ (toHex bs).toList.reverse := by
    intro bs hmem
    have hdigit := mem_hexAlphabet_of_toHex (List.mem_reverse.mp hmem)
    exact absurd hdigit (by decide)
  have hlist := congrArg (fun key : String => key.toList.reverse) h
  simp only [getSignerKey, String.toList_append, List.reverse_append] at hlist
  obtain ⟨hkey, hverifier⟩ := append_cons_inj_of_notMem (hcolon _) (hcolon _) hlist
  have hsame : verifier.toList.reverse = verifier'.toList.reverse :=
    List.append_cancel_right hverifier
  exact ⟨String.toList_injective (List.reverse_injective hsame),
    toHex_inj (String.toList_injective (List.reverse_injective hkey))⟩

/-- Every signer has the key of one of the signers that are kept. -/
theorem exists_collectUniqueSigners {signers : List Signer} {signer : Signer}
    (h : signer ∈ signers) :
    ∃ kept ∈ collectUniqueSigners signers, getSignerKey kept = getSignerKey signer := by
  induction signers using List.reverseRecOn with
  | nil => cases h
  | append_singleton signers last ih =>
    rw [collectUniqueSigners, List.foldl_append, List.foldl_cons, List.foldl_nil]
    change ∃ kept ∈ (if (collectUniqueSigners signers).any
      (fun k => getSignerKey k == getSignerKey last) then collectUniqueSigners signers
        else collectUniqueSigners signers ++ [last]), _
    rcases List.mem_append.mp h with hold | hlast
    · obtain ⟨kept, hkept, hkey⟩ := ih hold
      refine ⟨kept, ?_, hkey⟩
      split_ifs
      · exact hkept
      · exact List.mem_append_left _ hkept
    · obtain rfl := List.mem_singleton.mp hlast
      split_ifs with hany
      · obtain ⟨kept, hkept, hkey⟩ := List.any_eq_true.mp hany
        exact ⟨kept, hkept, beq_iff_eq.mp hkey⟩
      · exact ⟨signer, List.mem_append_right _ (List.mem_singleton_self _), rfl⟩

theorem mem_of_mem_collectUniqueSigners {signers : List Signer} {signer : Signer}
    (h : signer ∈ collectUniqueSigners signers) : signer ∈ signers := by
  induction signers using List.reverseRecOn with
  | nil => exact h
  | append_singleton signers last ih =>
    rw [collectUniqueSigners, List.foldl_append, List.foldl_cons, List.foldl_nil] at h
    split_ifs at h
    · exact List.mem_append_left _ (ih h)
    · rcases List.mem_append.mp h with hold | hlast
      · exact List.mem_append_left _ (ih hold)
      · exact List.mem_append_right _ hlast

/-- The one signer that has a credential id is every signer that has it. -/
theorem eq_of_findWebAuthnSignerForCredential {rules : List ContextRule} {credentialId : Bytes}
    {signer other : Signer} (hne : credentialId ≠ [])
    (hmem : signer ∈ rules.flatMap (·.signers)) (hsigner : IsPasskeyOf credentialId signer)
    (hfind : findWebAuthnSignerForCredential (toBase64Url credentialId) rules = .ok other) :
    other = signer := by
  unfold findWebAuthnSignerForCredential at hfind
  dsimp only at hfind
  have hmatches : ∀ s, s ∈ (rules.flatMap fun rule => rule.signers.filter fun signer =>
      getCredentialIdFromSigner signer == some (toBase64Url credentialId)) ↔
        s ∈ rules.flatMap (·.signers) ∧ IsPasskeyOf credentialId s := by
    intro s
    simp only [List.mem_flatMap, List.mem_filter, beq_iff_eq,
      getCredentialIdFromSigner_eq_some hne, ← and_assoc, exists_and_right]
  split at hfind
  · rename_i kept hkept
    obtain rfl := Except.ok.inj hfind
    obtain ⟨_, hone, hkey⟩ := exists_collectUniqueSigners ((hmatches signer).mpr ⟨hmem, hsigner⟩)
    rw [hkept] at hone
    obtain rfl := List.mem_singleton.mp hone
    have hother := ((hmatches _).mp (mem_of_mem_collectUniqueSigners (hkept ▸ hone))).2
    obtain ⟨verifier, publicKey, -, rfl⟩ := hsigner
    obtain ⟨verifier', publicKey', -, rfl⟩ := hother
    obtain ⟨hverifier, hdata⟩ := getSignerKey_external_inj hkey
    rw [hverifier, hdata]
  · cases hfind
  · cases hfind

/-- A lookup in given rules returns only signers that stand for the credential exactly if a passkey
signer of it comes before any other signer whose key data ends with its id. -/
theorem findWebAuthnSignerInRules_agrees_iff {ids : List UInt32} {rules : List ContextRule}
    {credentialId : Bytes} {t : History Environment} {x : Except JsError Signer}
    (hne : credentialId ≠ []) (hlength : ids.length = rules.length)
    (hreads : t <+: ruleReads ids rules)
    (hrun : Program.Run (findWebAuthnSignerInRules (ids.map .ofU32) credentialId) t x) :
    (∀ signer, x = .ok signer → AgreesOn rules credentialId signer) ↔
      PasskeyComesFirst rules credentialId := by
  have hresult := run_findWebAuthnSignerInRules_of_reads hlength hreads hrun
  have hfirst : PasskeyComesFirst rules credentialId ↔
      ∀ signer, (rules.flatMap (·.signers)).find? (hasCredentialSuffix credentialId) = some signer →
        IsPasskeyOf credentialId signer := by
    simp only [PasskeyComesFirst, endsWithCredential_iff, and_imp]
    exact (find?_satisfies_iff fun _ h => h.hasCredentialSuffix).symm
  rw [hfirst, ← hresult]
  constructor
  · intro h signer hsigner
    have hagrees := h signer (toOption_eq_some.mp hsigner)
    exact (getCredentialIdFromSigner_eq_some hne).mp hagrees.1
  · rintro h signer rfl
    have hsigner := h signer rfl
    have hmem : signer ∈ rules.flatMap (·.signers) := List.mem_of_find?_eq_some hresult.symm
    exact ⟨(getCredentialIdFromSigner_eq_some hne).mpr hsigner, fun other hother =>
      eq_of_findWebAuthnSignerForCredential hne hmem hsigner hother⟩

/-! ## Sample lookups -/

/-- A passkey signer of a credential. -/
def samplePasskey (credentialId : Bytes) : Signer :=
  .external (sampleContractId 9) (List.replicate 65 4 ++ credentialId)

/-- A `Default` rule with the given signers. -/
def sampleLookupRule (signers : List Signer) : ContextRule :=
  { id := 0, contextType := .default, signers, policies := [], validUntil := none }

/-- The lookup of the credential of the byte 1 in a rule. -/
theorem run_sampleLookup (signers : List Signer) :
    Program.Run (findWebAuthnSignerInRules ([0].map .ofU32) [1])
      (ruleReads [0] [sampleLookupRule signers])
      (Program.answer { sampleReplies with rule := fun _ => .ok (sampleLookupRule signers) }.reply
        (findWebAuthnSignerInRules ([0].map .ofU32) [1])) := by
  have hreads : ruleReads [0] [sampleLookupRule signers] = Program.transcript
      { sampleReplies with rule := fun _ => .ok (sampleLookupRule signers) }.reply
        (findWebAuthnSignerInRules ([0].map .ofU32) [1]) := by
    simp only [findWebAuthnSignerInRules, List.map_cons, List.map_nil, Program.forEach,
      readContextRule_ofU32]
    change _ = [_] ++ Program.transcript _ (Program.bind
      (.done (.ok ((sampleLookupRule signers).signers.find? (hasCredentialSuffix [1])))) _)
    cases (sampleLookupRule signers).signers.find? (hasCredentialSuffix [1]) with
    | none => rfl
    | some signer => rfl
  rw [hreads]
  exact Program.run_transcript _ _

theorem findWebAuthnSignerInRules_agrees_iff_sample :
    AgreesOn [sampleLookupRule [samplePasskey [1]]] [1] (samplePasskey [1]) := by
  refine (findWebAuthnSignerInRules_agrees_iff (by decide) rfl List.prefix_rfl
    (run_sampleLookup [samplePasskey [1]])).mpr ?_ _ (by rfl)
  intro before signer after hsplit hends
  obtain ⟨-, hpasskey⟩ := endsWithCredential_iff.mp hends
  have hmem : signer ∈ [samplePasskey [1]] := by
    have : signer ∈ [sampleLookupRule [samplePasskey [1]]].flatMap (·.signers) := by
      rw [hsplit]
      exact List.mem_append_right _ List.mem_cons_self
    exact this
  obtain rfl := List.mem_singleton.mp hmem
  exact absurd ⟨_, List.replicate 65 4, rfl, rfl⟩ hpasskey

/-- A lookup of the credential of the byte 1 returns the signer of the credential of the bytes 2 and
1, which stands before its own signer. -/
theorem findWebAuthnSignerInRules_other : ∃ t signer,
    Program.Run (findWebAuthnSignerInRules ([0].map .ofU32) [1]) t (.ok signer) ∧
      t <+: ruleReads [0] [sampleLookupRule [samplePasskey [2, 1], samplePasskey [1]]] ∧
      ¬AgreesOn [sampleLookupRule [samplePasskey [2, 1], samplePasskey [1]]] [1] signer := by
  have hfound : Program.answer { sampleReplies with
      rule := fun _ => .ok (sampleLookupRule [samplePasskey [2, 1], samplePasskey [1]]) }.reply
        (findWebAuthnSignerInRules ([0].map .ofU32) [1]) = .ok (samplePasskey [2, 1]) := by
    rfl
  have hrun := run_sampleLookup [samplePasskey [2, 1], samplePasskey [1]]
  rw [hfound] at hrun
  refine ⟨_, _, hrun, List.prefix_rfl, fun h => ?_⟩
  exact absurd h.1 (by decide)

end SmartAccountKit
