import SmartAccountKit.Lib.Distinct

/-!
# A queue of places

Each item that comes drops the place at the front and takes the one at the end, unless
it has a place among the others. A queue of blank places comes down to one place
exactly if enough items come and they are few enough.
-/

namespace SmartAccountKit.Lib

variable {α β : Type} [DecidableEq α] [DecidableEq β]

/-- The place at the front goes, and an item gets one at the end unless it has one. -/
def requeue (queue : List α) (x : α) : List α :=
  if x ∈ queue.tail then queue.tail else queue.tail ++ [x]

/-- A queue of one place or none has one place as soon as an item comes. -/
theorem length_requeue_of_le_one {queue : List α} (h : queue.length ≤ 1) (x : α) :
    (requeue queue x).length = 1 := by
  have htail : queue.tail = [] := by
    apply List.length_eq_zero_iff.mp
    rw [List.length_tail]
    omega
  unfold requeue
  rw [htail]
  simp

theorem length_foldl_requeue_of_one {queue : List α} (h : queue.length = 1) (xs : List α) :
    (xs.foldl requeue queue).length = 1 := by
  induction xs generalizing queue with
  | nil => exact h
  | cons x xs ih => exact ih (length_requeue_of_le_one (by omega) x)

theorem length_foldl_requeue_of_le_one {queue : List α} (h : queue.length ≤ 1) {xs : List α}
    (hne : xs ≠ []) : (xs.foldl requeue queue).length = 1 := by
  cases xs with
  | nil => exact absurd rfl hne
  | cons x xs => exact length_foldl_requeue_of_one (length_requeue_of_le_one h x) xs

theorem eraseDups_map {f : α → β} (hf : Function.Injective f) (xs : List α) :
    (xs.map f).eraseDups = xs.eraseDups.map f := by
  induction xs using List.reverseRecOn with
  | nil => rfl
  | append_singleton xs x ih =>
    rw [List.map_append, List.map_singleton, eraseDups_concat, eraseDups_concat, ih]
    by_cases h : x ∈ xs
    · rw [if_pos (List.mem_map_of_mem h), if_pos h]
    · rw [if_neg (mt (List.mem_map_of_injective hf).mp h), if_neg h, List.map_append,
        List.map_singleton]

/-- Renaming the items renames those in the queue. -/
theorem foldl_requeue_map {f : α → β} (hf : Function.Injective f) (xs queue : List α) :
    (xs.map f).foldl requeue (queue.map f) = (xs.foldl requeue queue).map f := by
  induction xs generalizing queue with
  | nil => rfl
  | cons x xs ih =>
    have hstep : requeue (queue.map f) (f x) = (requeue queue x).map f := by
      unfold requeue
      rw [← List.map_tail]
      by_cases h : x ∈ queue.tail
      · rw [if_pos ((List.mem_map_of_injective hf).mpr h), if_pos h]
      · rw [if_neg (mt (List.mem_map_of_injective hf).mp h), if_neg h, List.map_append]
        rfl
    rw [List.map_cons, List.foldl_cons, hstep, ih, List.foldl_cons]

/-- While blank places are left, each item drops one of them, and the different items stand after
them in the order in which they came. -/
theorem foldl_requeue_replicate {blank : α} {xs : List α} (hblank : blank ∉ xs) {n : ℕ}
    (hn : xs.length ≤ n) :
    xs.foldl requeue (List.replicate n blank) =
      List.replicate (n - xs.length) blank ++ xs.eraseDups := by
  induction xs using List.reverseRecOn with
  | nil => simp
  | append_singleton xs x ih =>
    rw [List.length_append, List.length_singleton] at hn
    have hblank' : blank ∉ xs := fun h => hblank (List.mem_append_left _ h)
    have hx : x ≠ blank := by
      intro heq
      apply hblank
      rw [← heq]
      simp
    have hleft : n - xs.length = n - (xs.length + 1) + 1 := by omega
    have hmem : x ∈ List.replicate (n - (xs.length + 1)) blank ++ xs.eraseDups ↔ x ∈ xs := by
      rw [List.mem_append, List.mem_replicate, List.mem_eraseDups]
      exact or_iff_right fun h => hx h.2
    rw [List.foldl_append, ih hblank' (by omega), hleft, List.replicate_succ, List.length_append,
      List.length_singleton, eraseDups_concat]
    show requeue (blank :: (_ ++ _)) x = _
    unfold requeue
    rw [List.tail_cons]
    by_cases h : x ∈ xs
    · rw [if_pos (hmem.mpr h), if_pos h]
    · rw [if_neg (mt hmem.mp h), if_neg h, List.append_assoc]

theorem eraseDups_ne_nil {xs : List α} (h : xs ≠ []) : xs.eraseDups ≠ [] := by
  intro hnil
  obtain ⟨x, hx⟩ := List.exists_mem_of_ne_nil xs h
  have hmem := List.mem_eraseDups.mpr hx
  rw [hnil] at hmem
  exact absurd hmem List.not_mem_nil

/-- Blank places come down to one if there is at most one, or if as many items come and the
different ones of these come down to one with the items after them. -/
def ComesDownToOne (n : ℕ) (xs : List α) : Prop :=
  n ≤ 1 ∨ n ≤ xs.length ∧ ((xs.drop n).foldl requeue (xs.take n).eraseDups).length = 1

instance (n : ℕ) (xs : List α) : Decidable (ComesDownToOne n xs) :=
  inferInstanceAs (Decidable (_ ∨ _ ∧ _))

theorem length_foldl_requeue_replicate {blank : α} {xs : List α} (hblank : blank ∉ xs)
    (hne : xs ≠ []) (n : ℕ) :
    (xs.foldl requeue (List.replicate n blank)).length = 1 ↔ ComesDownToOne n xs := by
  unfold ComesDownToOne
  have hpos := List.length_pos_iff.mpr hne
  by_cases hn : n ≤ xs.length
  · have hsplit : xs.foldl requeue (List.replicate n blank) =
        (xs.drop n).foldl requeue (xs.take n).eraseDups := by
      have hlength : (xs.take n).length = n := List.length_take_of_le hn
      have htake : blank ∉ xs.take n := fun h => hblank (List.mem_of_mem_take h)
      conv_lhs => rw [← List.take_append_drop n xs]
      rw [List.foldl_append, foldl_requeue_replicate htake (by omega), hlength, Nat.sub_self]
      rfl
    by_cases hone : n ≤ 1
    · have hshort : (List.replicate n blank).length ≤ 1 := by
        rw [List.length_replicate]
        exact hone
      exact iff_of_true (length_foldl_requeue_of_le_one hshort hne) (Or.inl hone)
    · rw [hsplit, or_iff_right hone, and_iff_right hn]
  · have hlong := List.length_pos_iff.mpr (eraseDups_ne_nil hne)
    rw [foldl_requeue_replicate hblank (by omega), List.length_append, List.length_replicate]
    omega

/-- Renaming the items changes nothing. -/
theorem comesDownToOne_map {f : α → β} (hf : Function.Injective f) (n : ℕ) (xs : List α) :
    ComesDownToOne n (xs.map f) ↔ ComesDownToOne n xs := by
  unfold ComesDownToOne
  rw [← List.map_drop, ← List.map_take, eraseDups_map hf, foldl_requeue_map hf, List.length_map,
    List.length_map]

/-- One item brings as many places down to one as the times it comes. -/
theorem comesDownToOne_iff {x : α} {n : ℕ} {xs : List α} (hne : xs ≠ []) (h : ∀ y ∈ xs, y = x) :
    ComesDownToOne n xs ↔ n ≤ xs.length := by
  unfold ComesDownToOne
  have hpos := List.length_pos_iff.mpr hne
  constructor
  · omega
  · intro hn
    by_cases hone : n ≤ 1
    · exact Or.inl hone
    · refine Or.inr ⟨hn, length_foldl_requeue_of_one ?_ _⟩
      have hall : ∀ y ∈ xs.take n, y = x := fun y hy => h y (List.mem_of_mem_take hy)
      have htake : xs.take n ≠ [] := by
        rw [← List.length_pos_iff, List.length_take_of_le hn]
        omega
      obtain ⟨y, hy⟩ := List.exists_mem_of_ne_nil _ htake
      have hx : x ∈ xs.take n := by
        rw [← hall y hy]
        exact hy
      have hsingle : (xs.take n).eraseDups = [x] := eraseDups_eq_singleton.mpr ⟨hx, hall⟩
      rw [hsingle]
      rfl

-- two items leave two places, and the one at the end has to come again
example : ¬ComesDownToOne 2 [0, 1] ∧ ¬ComesDownToOne 2 [0, 1, 0] ∧ ComesDownToOne 2 [0, 1, 1] := by
  decide

end SmartAccountKit.Lib
