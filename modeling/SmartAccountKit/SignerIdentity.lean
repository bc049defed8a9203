import SmartAccountKit.Lib.Distinct
import SmartAccountKit.SignerLookups

/-!
# The identity of signers

`getSignerKey` and `signersEqual` tell the same signers apart, so the signers that
`collectUniqueSigners` keeps by their keys are the identities of its input.
-/

namespace SmartAccountKit
open Lib

/-! ## Keys -/

/-- A delegated signer and an external one differ in the first letter of their keys. -/
theorem getSignerKey_delegated_ne (address verifier : String) (keyData : Bytes) :
    getSignerKey (.delegated address) ≠ getSignerKey (.external verifier keyData) := by
  intro h
  have hhead := congrArg (fun key : String => key.toList.head?) h
  simp only [getSignerKey, String.toList_append] at hhead
  have hletter : some 'd' = some 'e' := hhead
  exact absurd hletter (by decide)

theorem getSignerKey_inj {a b : Signer} (h : getSignerKey a = getSignerKey b) : a = b := by
  cases a with
  | delegated address =>
    cases b with
    | delegated address' =>
      have hlist := congrArg String.toList h
      simp only [getSignerKey, String.toList_append] at hlist
      rw [String.toList_injective (List.append_cancel_left hlist)]
    | external verifier keyData => exact absurd h (getSignerKey_delegated_ne _ _ _)
  | external verifier keyData =>
    cases b with
    | delegated address => exact absurd h.symm (getSignerKey_delegated_ne _ _ _)
    | external verifier' keyData' =>
      have hparts := getSignerKey_external_inj h
      rw [hparts.1, hparts.2]

theorem getSignerKey_eq_iff {a b : Signer} :
    getSignerKey a = getSignerKey b ↔ signersEqual a b = true := by
  rw [signersEqual_iff]
  exact ⟨getSignerKey_inj, congrArg getSignerKey⟩

/-! ## Unique signers -/

theorem any_getSignerKey_iff {kept : List Signer} {signer : Signer} :
    (kept.any fun k => getSignerKey k == getSignerKey signer) = true ↔ signer ∈ kept := by
  rw [List.any_eq_true]
  constructor
  · rintro ⟨k, hk, hkey⟩
    rw [← getSignerKey_inj (beq_iff_eq.mp hkey)]
    exact hk
  · intro hmem
    exact ⟨signer, hmem, beq_iff_eq.mpr rfl⟩

/-- Keeping signers by their keys is keeping them by equality. -/
theorem collectUniqueSigners_eq (signers : List Signer) :
    collectUniqueSigners signers = signers.eraseDups := by
  induction signers using List.reverseRecOn with
  | nil => rfl
  | append_singleton signers last ih =>
    rw [eraseDups_concat, ← ih, collectUniqueSigners, List.foldl_append, List.foldl_cons,
      List.foldl_nil]
    have hseen : (collectUniqueSigners signers).any
        (fun k => getSignerKey k == getSignerKey last) = true ↔ last ∈ signers := by
      rw [any_getSignerKey_iff, ih, List.mem_eraseDups]
    show (if (collectUniqueSigners signers).any
      (fun k => getSignerKey k == getSignerKey last) then collectUniqueSigners signers
        else collectUniqueSigners signers ++ [last]) = _
    by_cases hmem : last ∈ signers
    · rw [if_pos hmem, if_pos (hseen.mpr hmem)]
    · rw [if_neg hmem, if_neg (mt hseen.mp hmem)]

/-- The signer of a credential is found if and only if the rules list one identity that has it. -/
theorem findWebAuthnSignerForCredential_iff {credentialId : String} {rules : List ContextRule}
    {signer : Signer} :
    findWebAuthnSignerForCredential credentialId rules = .ok signer ↔
      ∃ rule ∈ rules, signer ∈ rule.signers ∧
        getCredentialIdFromSigner signer = some credentialId ∧
        ∀ other ∈ rules, ∀ s ∈ other.signers,
          getCredentialIdFromSigner s = some credentialId → signersEqual s signer = true := by
  have hone : findWebAuthnSignerForCredential credentialId rules = .ok signer ↔
      collectUniqueSigners (rules.flatMap fun rule => rule.signers.filter fun signer =>
        getCredentialIdFromSigner signer == some credentialId) = [signer] := by
    unfold findWebAuthnSignerForCredential
    dsimp only
    split
    · rename_i kept hkept
      rw [hkept, List.cons.injEq, Except.ok.injEq]
      exact ⟨fun h => ⟨h, rfl⟩, And.left⟩
    · rename_i hkept
      rw [hkept]
      exact iff_of_false (by simp) (List.cons_ne_nil _ _).symm
    · rename_i hnot _
      exact iff_of_false (by simp) (hnot signer)
  rw [hone, collectUniqueSigners_eq, eraseDups_eq_singleton]
  simp only [List.mem_flatMap, List.mem_filter, beq_iff_eq, signersEqual_iff]
  constructor
  · rintro ⟨⟨rule, hrule, hmem, hid⟩, hall⟩
    refine ⟨rule, hrule, hmem, hid, ?_⟩
    intro other hother s hs hsid
    exact hall s ⟨other, hother, hs, hsid⟩
  · rintro ⟨rule, hrule, hmem, hid, hall⟩
    refine ⟨⟨rule, hrule, hmem, hid⟩, ?_⟩
    rintro s ⟨other, hother, hs, hsid⟩
    exact hall other hother s hs hsid

/-- The keys of signers are their identity: two keys are equal if and only if the signers are,
`collectUniqueSigners` keeps each identity at its first occurrence and changes nothing when it is
repeated, and the signer of a credential is found if and only if one identity has it. -/
theorem signer_identity :
    (∀ a b, getSignerKey a = getSignerKey b ↔ signersEqual a b = true) ∧
    (∀ signers, FirstOccurrences signersEqual signers (collectUniqueSigners signers)) ∧
    (∀ signers, collectUniqueSigners (collectUniqueSigners signers) =
      collectUniqueSigners signers) ∧
    ∀ credentialId rules signer,
      findWebAuthnSignerForCredential credentialId rules = .ok signer ↔
        ∃ rule ∈ rules, signer ∈ rule.signers ∧
          getCredentialIdFromSigner signer = some credentialId ∧
          ∀ other ∈ rules, ∀ s ∈ other.signers,
            getCredentialIdFromSigner s = some credentialId → signersEqual s signer = true := by
  refine ⟨fun _ _ => getSignerKey_eq_iff, ?_, ?_, fun _ _ _ => findWebAuthnSignerForCredential_iff⟩
  · intro signers
    rw [collectUniqueSigners_eq]
    exact firstOccurrences_eraseDups (fun _ _ => signersEqual_iff) signers
  · intro signers
    rw [collectUniqueSigners_eq, collectUniqueSigners_eq]
    exact eraseDups_of_nodup (nodup_eraseDups signers)

example (a b : Signer) (h : b ≠ a) : collectUniqueSigners [a, b, a] = [a, b] := by
  rw [collectUniqueSigners_eq]
  simp [List.eraseDups_cons, h]

end SmartAccountKit
