import Mathlib.Data.List.Nodup
import Mathlib.Data.List.Sublists

/-!
# Distinct elements in the order of their first occurrence

What it is for a list to keep one element of each kind of another list, and that
`List.eraseDups` does so.
-/

namespace SmartAccountKit.Lib

variable {α : Type}

/-- A list keeps of each kind of elements of another the first, in the order of the first
occurrences. -/
structure FirstOccurrences (same : α → α → Bool) (xs kept : List α) : Prop where
  sublist : kept.Sublist xs
  in_order : kept.Pairwise fun a b => xs.findIdx (same a) < xs.findIdx (same b)
  distinct : kept.Pairwise fun a b => same a b = false
  covered : ∀ x ∈ xs, ∃! k, k ∈ kept ∧ same x k = true

section eraseDups

variable [DecidableEq α]

/-- One more element is kept if it is a new one. -/
theorem eraseDups_concat (xs : List α) (x : α) :
    (xs ++ [x]).eraseDups = if x ∈ xs then xs.eraseDups else xs.eraseDups ++ [x] := by
  rw [List.eraseDups_append]
  by_cases hmem : x ∈ xs
  · have hnone : [x].removeAll xs = [] := by simp [List.removeAll, hmem]
    rw [if_pos hmem, hnone, List.eraseDups_nil, List.append_nil]
  · have hnew : [x].removeAll xs = [x] := by simp [List.removeAll, hmem]
    rw [if_neg hmem, hnew]
    rfl

theorem eraseDups_sublist (xs : List α) : xs.eraseDups.Sublist xs := by
  induction xs using List.reverseRecOn with
  | nil => exact List.Sublist.refl []
  | append_singleton xs x ih =>
    rw [eraseDups_concat]
    split_ifs
    · exact ih.trans (List.sublist_append_left xs [x])
    · exact ih.append_right [x]

theorem nodup_eraseDups (xs : List α) : xs.eraseDups.Nodup := by
  induction xs using List.reverseRecOn with
  | nil => exact List.nodup_nil
  | append_singleton xs x ih =>
    rw [eraseDups_concat]
    split_ifs with hmem
    · exact ih
    · rw [← List.mem_eraseDups] at hmem
      apply ih.append (List.nodup_singleton x)
      intro y hy hx
      rw [List.mem_singleton.mp hx] at hy
      exact hmem hy

theorem eraseDups_of_nodup {xs : List α} (h : xs.Nodup) : xs.eraseDups = xs := by
  induction xs using List.reverseRecOn with
  | nil => rfl
  | append_singleton xs x ih =>
    have hnew : x ∉ xs := by
      intro hmem
      exact List.disjoint_of_nodup_append h hmem (List.mem_singleton_self x)
    rw [eraseDups_concat, if_neg hnew, ih (List.Nodup.of_append_left h)]

theorem eraseDups_findIdx_lt {same : α → α → Bool} (hsame : ∀ a b, same a b = true ↔ a = b)
    (xs : List α) :
    xs.eraseDups.Pairwise fun a b => xs.findIdx (same a) < xs.findIdx (same b) := by
  -- the index of an element of a list is left as it is by what follows
  have hfound : ∀ (a : α) (xs : List α), a ∈ xs → xs.findIdx (same a) < xs.length := by
    intro a xs hmem
    exact List.findIdx_lt_length_of_exists ⟨a, hmem, (hsame a a).mpr rfl⟩
  have hold : ∀ (a x : α) (xs : List α), a ∈ xs →
      (xs ++ [x]).findIdx (same a) = xs.findIdx (same a) := by
    intro a x xs hmem
    rw [List.findIdx_append, if_pos (hfound a xs hmem)]
  induction xs using List.reverseRecOn with
  | nil => exact List.Pairwise.nil
  | append_singleton xs x ih =>
    have hkept : xs.eraseDups.Pairwise fun a b =>
        (xs ++ [x]).findIdx (same a) < (xs ++ [x]).findIdx (same b) := by
      apply ih.imp_of_mem
      intro a b ha hb hlt
      rw [hold a x xs (List.mem_eraseDups.mp ha), hold b x xs (List.mem_eraseDups.mp hb)]
      exact hlt
    rw [eraseDups_concat]
    split_ifs with hmem
    · exact hkept
    · apply List.pairwise_append.mpr
      refine ⟨hkept, List.pairwise_singleton _ x, ?_⟩
      intro a ha b hb
      rw [List.mem_singleton.mp hb, hold a x xs (List.mem_eraseDups.mp ha)]
      -- a new element is found after all others
      have hnew : xs.findIdx (same x) = xs.length := by
        apply List.findIdx_eq_length_of_false
        intro y hy
        have hne : same x y ≠ true := by
          intro h
          rw [(hsame x y).mp h] at hmem
          exact hmem hy
        exact eq_false_of_ne_true hne
      have hlast : (xs ++ [x]).findIdx (same x) = [x].findIdx (same x) + xs.length := by
        rw [List.findIdx_append, hnew, if_neg (Nat.lt_irrefl _)]
      have hlt := hfound a xs (List.mem_eraseDups.mp ha)
      omega

/-- `List.eraseDups` keeps the first occurrences, for every test that decides equality. -/
theorem firstOccurrences_eraseDups {same : α → α → Bool} (hsame : ∀ a b, same a b = true ↔ a = b)
    (xs : List α) : FirstOccurrences same xs xs.eraseDups where
  sublist := eraseDups_sublist xs
  in_order := eraseDups_findIdx_lt hsame xs
  distinct := by
    apply (nodup_eraseDups xs).imp
    intro a b hne
    exact eq_false_of_ne_true fun h => hne ((hsame a b).mp h)
  covered := by
    intro x hx
    refine ⟨x, ⟨List.mem_eraseDups.mpr hx, (hsame x x).mpr rfl⟩, ?_⟩
    intro y hy
    exact ((hsame x y).mp hy.2).symm

/-- What is left of a list is one element if and only if all its elements are that one. -/
theorem eraseDups_eq_singleton {xs : List α} {x : α} :
    xs.eraseDups = [x] ↔ x ∈ xs ∧ ∀ y ∈ xs, y = x := by
  constructor
  · intro h
    have hmem : ∀ y, y ∈ xs ↔ y = x := by
      intro y
      rw [← List.mem_eraseDups, h, List.mem_singleton]
    exact ⟨(hmem x).mpr rfl, fun y hy => (hmem y).mp hy⟩
  · rintro ⟨hx, hall⟩
    have hsub : xs.eraseDups ⊆ [x] := by
      intro y hy
      exact List.mem_singleton.mpr (hall y (List.mem_eraseDups.mp hy))
    have hlength : xs.eraseDups.length ≤ 1 := ((nodup_eraseDups xs).subperm hsub).length_le
    have hmem : x ∈ xs.eraseDups := List.mem_eraseDups.mpr hx
    have hpos := List.length_pos_of_mem hmem
    obtain ⟨y, hy⟩ := List.length_eq_one_iff.mp (by omega : xs.eraseDups.length = 1)
    rw [hy] at hmem ⊢
    rw [List.mem_singleton.mp hmem]

end eraseDups

/-- Of two lists of one length, where one has distinct elements, the other is a permutation of it if
its elements are distinct and cover it. -/
theorem perm_iff_nodup_and_subset {xs ys : List α} (hlength : xs.length = ys.length)
    (hys : ys.Nodup) : xs.Perm ys ↔ xs.Nodup ∧ ys ⊆ xs := by
  constructor
  · intro hperm
    exact ⟨hperm.nodup_iff.mpr hys, hperm.symm.subset⟩
  · rintro ⟨-, hsubset⟩
    exact ((List.subperm_of_subset hys hsubset).perm_of_length_le hlength.le).symm

end SmartAccountKit.Lib
